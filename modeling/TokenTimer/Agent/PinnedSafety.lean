/-
  TokenTimer.Agent.PinnedSafety — the record of a binding agrees with the host.

  A call that fails must have left the destinations alone and a record that does not stop the
  jobs after it.  The code takes the uncertain mark back where the deploy wrote nothing; it
  does not where `onBeforeMutation` throws on an endpoint, and it also does where a rollback
  left a destination that did not exist before.

  Main results:
    * `record_agrees` — in every run of calls that stay clear of these failures, a
        failed call changed nothing and blocks nothing, a certain
        record is right about the host, and no older generation is
        ever written.
-/

import TokenTimer.Agent.PinnedDeployment
import TokenTimer.Agent.CrashSafety

namespace TokenTimer.PinnedDeployment

open Lib.Runs TokenTimer.Json
open TokenTimer.Agent (Path Bytes Environment Stage)

variable {cfg : Config} {s t u : State} {call : Call} {bundle : Bundle}

/-! ## §1. The property. -/

def uncertain (record : Option Record) : Bool := record.any fun r => r.uncertain

def Holds (cfg : Config) (m : Material) (d : Destination) : Prop :=
  match cfg.target with
  | .windowsIis => d.windows.verify m.fingerprintSha256 = true
  | .endpoint certPath keyPath chainPath =>
    installedPairMatches cfg certPath keyPath chainPath true m d.files = true

/-- A call that failed changed no destination, and the record it left refuses no later job as
    uncertain; a recovery of a job needs a record. -/
def LeftClean (cfg : Config) (p : Performed) : Prop :=
  p.outcome = .failed ∨ p.outcome = .threw →
    p.destination' = p.destination ∧
    (uncertain p.record = true ∨ ∀ later : Call, (later.recoveryOnly = true → p.record'.isSome = true) →
      refusal cfg later p.record' ≠ some .materialBindingUncertain)

/-- The record agrees with the host. -/
structure Agrees (cfg : Config) (s : State) : Prop where
  calls : ∀ p ∈ s.performed, LeftClean cfg p
  certain : uncertain s.record = false →
    s.destination = s.settled ∧ ∀ m, s.success = some m → Holds cfg m s.destination
  writes : ∀ w ∈ s.writes, ∀ generation ∈ w.installed, generation ≤ w.generation

/-! ## §2. The condition. -/

def comesToMarker (cfg : Config) (call : Call) (s : State) : Bool :=
  call.policyAccepts && !s.lockFile && call.locks && decide (refusal cfg call s.record = none) &&
    call.bundle.isSome && call.prepares && call.leaseBeforeMarker && !call.intent.verificationOnly

/-- A failed deploy of the pair that counts as rolled back, after it created a destination. -/
def strands (slots : List (Path × Bytes)) (run : DeployRun) (files : Files) : Bool :=
  match run with
  | .writeFails written restored =>
    decide (written < slots.length) && !(slots.all fun slot => files slot.1 = some slot.2) &&
      (rollbackPair restored (existing slots files) files).1 &&
      (slots.take written).any fun slot => (files slot.1).isNone
  | _ => false

/-- What follows an install leads to the record of the success. -/
def confirms (cfg : Config) (certPath keyPath : Path) (chainPath : Option Path) (call : Call)
    (bundle : Bundle) (files : Files) : Bool :=
  installedPairMatches cfg certPath keyPath chainPath call.readable bundle.material files &&
    call.leaseAfterInstall &&
    (cfg.verificationPolicy = .installed || (call.reload && probesPass cfg call.probes)) &&
    call.leaseBeforeRecord && decide (call.outcomeRecord ≠ .failedBefore)

/-- The deploy on an endpoint leaves its marker, or other files. -/
def leavesTrace (cfg : Config) (certPath keyPath : Path) (chainPath : Option Path) (call : Call)
    (bundle : Bundle) (files : Files) : Bool :=
  let outcome := (deployCertificateAndKey (slots cfg certPath keyPath chainPath bundle) call.deploy files).1
  if deployWroteNothing outcome then call.withdrawal = .failedBefore
  else if outcome = .skipped then !confirms cfg certPath keyPath chainPath call bundle files
  else true

/-- The condition on a call whose marker was written. -/
def OrderlyMutation (cfg : Config) (call : Call) (bundle : Bundle) (s : State) : Prop :=
  match cfg.target with
  | .windowsIis =>
    if (call.onBeforeMutation && call.leaseBeforeImport) = true then
      call.cleansUp = true ∧ call.unlocks = true
    else call.withdrawal ≠ .failedBefore
  | .endpoint certPath keyPath chainPath =>
    call.onBeforeMutation = true ∧
    (strands (slots cfg certPath keyPath chainPath bundle) call.deploy s.destination.files = true →
      call.withdrawal = .failedBefore) ∧
    (leavesTrace cfg certPath keyPath chainPath call bundle s.destination.files = true →
      call.cleansUp = true ∧ call.unlocks = true)

/-- The failures of a call that the record does not survive do not happen. -/
def Orderly (cfg : Config) (s : State) : Event → Prop
  | .execute call =>
    comesToMarker cfg call s = true → call.marker ≠ .failedAfter ∧
      ∀ bundle, call.bundle = some bundle → call.marker = .done → OrderlyMutation cfg call bundle s
  | _ => True

/-! ## §3. The deploy. -/

variable {files : Files} {material : Material} {chainPath : Option Path} {o : Outcome}
  {certPath keyPath : Path}

variable {path : Path} {record : Record} {b : Bool} {r : Reconciliation}

theorem writeSlots_of_notMem {slots : List (Path × Bytes)} (h : ∀ slot ∈ slots, slot.1 ≠ path) :
    writeSlots slots files path = files path := by
  induction slots generalizing files with
  | nil => rfl
  | cons slot slots ih =>
    show writeSlots slots (files.write slot.1 slot.2) path = files path
    rw [ih fun x hx => h x (List.mem_cons_of_mem _ hx)]
    unfold Files.write
    rw [if_neg fun heq => h slot List.mem_cons_self heq.symm]

/-- What is written back is what the path held. -/
theorem writeSlots_of_held {slots : List (Path × Bytes)} {held : Files}
    (hheld : ∀ slot ∈ slots, held slot.1 = some slot.2)
    (h : files path = held path ∨ ∃ slot ∈ slots, slot.1 = path) :
    writeSlots slots files path = held path := by
  induction slots generalizing files with
  | nil =>
    obtain h | ⟨slot, hslot, -⟩ := h
    · exact h
    · cases hslot
  | cons slot slots ih =>
    show writeSlots slots (files.write slot.1 slot.2) path = held path
    apply ih fun x hx => hheld x (List.mem_cons_of_mem _ hx)
    unfold Files.write
    by_cases hpath : path = slot.1
    · left
      rw [if_pos hpath, hpath]
      exact (hheld slot List.mem_cons_self).symm
    · rw [if_neg hpath]
      obtain h | ⟨x, hx, hxpath⟩ := h
      · exact .inl h
      · right
        obtain rfl | hx := List.mem_cons.mp hx
        · exact absurd hxpath.symm hpath
        · exact ⟨x, hx, hxpath⟩

theorem existing_held {slots : List (Path × Bytes)} :
    ∀ slot ∈ existing slots files, files slot.1 = some slot.2 := by
  intro slot hslot
  unfold existing at hslot
  obtain ⟨x, -, hx⟩ := List.mem_filterMap.mp hslot
  obtain ⟨content, hcontent, heq⟩ := Option.map_eq_some_iff.mp hx
  rw [← heq]
  exact hcontent

/-- A rollback that counts puts everything back, unless a destination was created. -/
theorem rollbackPair_restores {slots : List (Path × Bytes)} {written : Nat} {restored : Option Nat}
    (hcreated : ((slots.take written).any fun slot => (files slot.1).isNone) = false)
    (h : (rollbackPair restored (existing slots files) (writeSlots (slots.take written) files)).1 = true) :
    (rollbackPair restored (existing slots files) (writeSlots (slots.take written) files)).2 = files := by
  have hall : writeSlots (existing slots files) (writeSlots (slots.take written) files) = files := by
    funext path
    apply writeSlots_of_held existing_held
    by_cases hpath : ∃ slot ∈ slots.take written, slot.1 = path
    · -- a written destination held something, so it is among those restored
      right
      obtain ⟨slot, hslot, rfl⟩ := hpath
      cases hcontent : files slot.1 with
      | none =>
        have hnone := List.any_eq_false.mp hcreated slot hslot
        rw [hcontent] at hnone
        exact absurd rfl hnone
      | some content =>
        refine ⟨(slot.1, content), ?_, rfl⟩
        unfold existing
        exact List.mem_filterMap.mpr ⟨slot, List.mem_of_mem_take hslot, by rw [hcontent]; rfl⟩
    · left
      exact writeSlots_of_notMem fun slot hslot heq => hpath ⟨slot, hslot, heq⟩
  unfold rollbackPair at h ⊢
  split
  · exact hall
  · split
    · exact hall
    · rename_i hcount
      dsimp only at h
      rw [if_neg hcount] at h
      cases h

theorem deployCertificateAndKey_wroteNothing (slots : List (Path × Bytes)) (run : DeployRun) (files : Files)
    (h : deployWroteNothing (deployCertificateAndKey slots run files).1 = true)
    (hstrands : strands slots run files = false) : (deployCertificateAndKey slots run files).2 = files := by
  unfold deployCertificateAndKey at h ⊢
  cases run with
  | completes =>
    dsimp only at h ⊢
    split at h
    · cases h
    · cases h
  | throws => rfl
  | stops stage early =>
    dsimp only
    split <;> rfl
  | writeFails written restored =>
    dsimp only at h ⊢
    split at h
    · cases h
    rename_i hchanged
    split at h
    · cases h
    rename_i hlength
    rw [if_neg hchanged, if_neg hlength]
    have hrolledBack : (rollbackPair restored (existing slots files)
        (writeSlots (slots.take written) files)).1 = true := by
      simpa [deployWroteNothing, DEPLOY_STAGES_BEFORE_WRITE] using h
    apply rollbackPair_restores _ hrolledBack
    have hcounts : (rollbackPair restored (existing slots files) files).1 = true := by
      unfold rollbackPair at hrolledBack ⊢
      split at hrolledBack
      · exact hrolledBack
      · split at hrolledBack
        · rename_i hcount
          rw [if_pos hcount]
          exact hrolledBack
        · cases hrolledBack
    simpa [strands, hchanged, Nat.lt_of_not_le hlength, hcounts] using hstrands

theorem deployCertificateAndKey_skipped (slots : List (Path × Bytes)) (run : DeployRun) (files : Files)
    (h : (deployCertificateAndKey slots run files).1 = .skipped) :
    (deployCertificateAndKey slots run files).2 = files := by
  unfold deployCertificateAndKey at h ⊢
  cases run with
  | completes =>
    dsimp only at h ⊢
    split
    · rfl
    · rename_i hchanged
      rw [if_neg hchanged] at h
      cases h
  | throws => rfl
  | stops stage early =>
    dsimp only
    split <;> rfl
  | writeFails written restored =>
    dsimp only at h ⊢
    split
    · rfl
    · rename_i hchanged
      rw [if_neg hchanged] at h
      split at h <;> cases h

/-! ## §4. How a call ends. -/

def State.settledAs (s : State) (record : Record) (material : Material) : State :=
  { s with record := some record, settled := s.destination, success := some material }

def State.marked (s : State) (cfg : Config) (intent : Intent) (bundle : Bundle) : State :=
  { s with record := some (recordOf cfg intent true bundle) }

/-- The books a call of a generation keeps. -/
structure Booked (generation : Nat) (s t : State) : Prop where
  writes : t.writes = s.writes ∨ t.writes = s.writes ++ [{ generation, installed := s.installed }]
  record : (t.record = s.record ∧ t.installed = s.installed) ∨
    ∃ r, t.record = some r ∧ r.generation = generation ∧
      (t.installed = s.installed ∨ t.installed = s.installed ++ [generation])
  performed : t.performed = s.performed

/-- The state is one in which a call may fail. -/
structure Quiet (s t : State) : Prop where
  destination : t.destination = s.destination
  certain : uncertain t.record = false

/-- How a call that was let in may end: with nothing done, with the uncertain mark, or with
    the record of a success. -/
inductive Ends (cfg : Config) (s : State) (o : Outcome) (t : State) : Prop
  | untouched (h : Quiet s t) (hsettled : t.settled = s.settled) (hsuccess : t.success = s.success)
  | marked (h : uncertain t.record = true) (ho : o = .orphanedUnknownEffect)
  | settled (h : uncertain t.record = false) (hsettled : t.settled = t.destination)
      (hholds : ∀ m, t.success = some m → Holds cfg m t.destination)
      (ho : o = .failed ∨ o = .threw → t.destination = s.destination)

/-- An exception on the way out. -/
theorem Ends.threw (h : Ends cfg s o t) (hquiet : Quiet s t) : Ends cfg s .threw t := by
  cases h
  case untouched _ hsettled hsuccess => exact .untouched hquiet hsettled hsuccess
  case marked h _ =>
    rw [hquiet.certain] at h
    cases h
  case settled h hsettled hholds _ => exact .settled h hsettled hholds fun _ => hquiet.destination

theorem Booked.refl (generation : Nat) (s : State) : Booked generation s s :=
  ⟨.inl rfl, .inl ⟨rfl, rfl⟩, rfl⟩

theorem writeSuccess_failedBefore :
    writeSuccess .failedBefore record material s = (false, s) := rfl

theorem writeSuccess_written {outcome : WriteOutcome} (h : outcome ≠ .failedBefore) :
    writeSuccess outcome record material s = (decide (outcome = .done), s.settledAs record material) := by
  cases outcome
  · rfl
  · exact absurd rfl h
  · rfl

/-- A success that was proved before it is recorded. -/
theorem settledAs_ends (hcertain : record.uncertain = false)
    (hholds : Holds cfg material u.destination)
    (ho : o = .failed ∨ o = .threw → u.destination = s.destination) :
    Ends cfg s o (u.settledAs record material) := by
  refine .settled ?_ rfl ?_ ho
  · show (some record).any (fun r => r.uncertain) = false
    rw [Option.any_some]
    exact hcertain
  · intro m hm
    cases hm
    exact hholds

theorem installedPairMatches_readable {readable : Bool}
    (h : installedPairMatches cfg certPath keyPath chainPath readable material files = true) :
    installedPairMatches cfg certPath keyPath chainPath true material files = true := by
  unfold installedPairMatches at h ⊢
  rw [Bool.and_eq_true] at h
  rw [Bool.true_and]
  exact h.2

theorem confirmEndpoint_cases (call : Call) (bundle : Bundle) (u : State)
    (htarget : cfg.target = .endpoint certPath keyPath chainPath) :
    (confirms cfg certPath keyPath chainPath call bundle u.destination.files = false ∧
      confirmEndpoint cfg certPath keyPath chainPath call bundle u = (.orphanedUnknownEffect, u)) ∨
    (confirms cfg certPath keyPath chainPath call bundle u.destination.files = true ∧
      Holds cfg bundle.material u.destination ∧
      ∃ o, (o = .succeeded ∨ o = .orphanedUnknownEffect) ∧
        confirmEndpoint cfg certPath keyPath chainPath call bundle u =
          (o, u.settledAs (recordOf cfg call.intent false bundle) bundle.material)) := by
  unfold confirmEndpoint confirms
  by_cases hpair : installedPairMatches cfg certPath keyPath chainPath call.readable bundle.material
      u.destination.files = true
  swap
  · left
    simp [hpair]
  by_cases hlease : call.leaseAfterInstall = true
  swap
  · left
    simp [hpair, hlease]
  by_cases hproved : cfg.verificationPolicy ≠ .installed ∧ (call.reload && probesPass cfg call.probes) = false
  · left
    rw [if_neg (by simp [hpair]), if_neg (by simp [hlease]), if_pos hproved]
    refine ⟨?_, rfl⟩
    simp [hproved.1, hproved.2]
  by_cases hrecord : call.leaseBeforeRecord = true
  swap
  · left
    rw [if_neg (by simp [hpair]), if_neg (by simp [hlease]), if_neg hproved, if_pos (by simp [hrecord])]
    simp [hrecord]
  rw [if_neg (by simp [hpair]), if_neg (by simp [hlease]), if_neg hproved, if_neg (by simp [hrecord])]
  have hpolicy : (cfg.verificationPolicy = .installed || (call.reload && probesPass cfg call.probes)) = true := by
    by_cases hinstalled : cfg.verificationPolicy = .installed
    · simp [hinstalled]
    · have hprobes : (call.reload && probesPass cfg call.probes) = true := by
        by_contra hfailed
        exact hproved ⟨hinstalled, Bool.not_eq_true _ ▸ hfailed⟩
      simp [hprobes]
  by_cases houtcome : call.outcomeRecord = .failedBefore
  · left
    rw [houtcome, writeSuccess_failedBefore]
    simp
  · right
    refine ⟨?_, ?_, ?_⟩
    · simp only [hpair, hlease, hpolicy, hrecord, houtcome, Bool.and_self, ne_eq, not_false_eq_true, decide_true]
    · unfold Holds
      rw [htarget]
      exact installedPairMatches_readable hpair
    · rw [writeSuccess_written houtcome]
      by_cases hdone : call.outcomeRecord = .done
      · exact ⟨.succeeded, .inl rfl, by simp [hdone]⟩
      · exact ⟨.orphanedUnknownEffect, .inr rfl, by simp [hdone]⟩

theorem deployEndpoint_ends (call : Call) (bundle : Bundle)
    (htarget : cfg.target = .endpoint certPath keyPath chainPath)
    (hcertain : uncertain s.record = false)
    (hstrands :
    strands (slots cfg certPath keyPath chainPath bundle) call.deploy s.destination.files = true → call.withdrawal = .failedBefore) :
    ∃ o t, deployEndpoint cfg certPath keyPath chainPath call bundle s.record
        (s.marked cfg call.intent bundle) = (o, t) ∧
      Booked call.intent.generation s t ∧ Ends cfg s o t ∧
      (leavesTrace cfg certPath keyPath chainPath call bundle s.destination.files = false → Quiet s t) := by
  have hmark : uncertain (s.marked cfg call.intent bundle).record = true := rfl
  -- what a deploy that left the new files comes to
  have hconfirm : ∀ u : State, u.record = (s.marked cfg call.intent bundle).record →
      u.installed = s.installed ++ [call.intent.generation] → u.performed = s.performed →
      (u.writes = s.writes ∨
        u.writes = s.writes ++ [{ generation := call.intent.generation, installed := s.installed }]) →
      ∃ o t, confirmEndpoint cfg certPath keyPath chainPath call bundle u = (o, t) ∧
        Booked call.intent.generation s t ∧ Ends cfg s o t ∧
        (confirms cfg certPath keyPath chainPath call bundle u.destination.files = true →
          u.destination = s.destination → Quiet s t) := by
    intro u hrecord hinstalled hperformed hwrites
    obtain ⟨hfails, heq⟩ | ⟨-, hholds, o, ho, heq⟩ :=
      confirmEndpoint_cases call bundle u htarget
    · refine ⟨_, _, heq, ⟨hwrites, .inr ⟨_, hrecord, rfl, .inr hinstalled⟩, hperformed⟩, ?_, ?_⟩
      · exact .marked (hrecord ▸ hmark) rfl
      · intro hpasses
        rw [hfails] at hpasses
        cases hpasses
    · refine ⟨_, _, heq, ⟨hwrites, .inr ⟨_, rfl, rfl, .inr hinstalled⟩, hperformed⟩, ?_, ?_⟩
      · refine settledAs_ends rfl hholds fun hbad => ?_
        obtain rfl | rfl := ho <;> obtain hbad | hbad := hbad <;> cases hbad
      · intro _ hsame
        exact ⟨hsame, rfl⟩
  unfold deployEndpoint leavesTrace
  dsimp only
  rw [show (s.marked cfg call.intent bundle).destination = s.destination from rfl]
  have hnothing := deployCertificateAndKey_wroteNothing (slots cfg certPath keyPath chainPath bundle)
    call.deploy s.destination.files
  have hskipped := deployCertificateAndKey_skipped (slots cfg certPath keyPath chainPath bundle)
    call.deploy s.destination.files
  generalize deployCertificateAndKey (slots cfg certPath keyPath chainPath bundle) call.deploy
    s.destination.files = result at hnothing hskipped ⊢
  obtain ⟨outcome, files⟩ := result
  have hsame : files = s.destination.files → ({ s.destination with files } : Destination) = s.destination := by
    rintro rfl
    rfl
  cases outcome
  case threw =>
    refine ⟨_, _, rfl, ⟨.inl rfl, .inr ⟨_, rfl, rfl, .inl rfl⟩, rfl⟩, .marked hmark rfl, ?_⟩
    intro htrace
    cases htrace
  case deployed =>
    obtain ⟨o, t, heq, hbooked, hends, -⟩ := hconfirm
      { s.marked cfg call.intent bundle with
        destination := { s.destination with files }
        writes := s.writes ++ [{ generation := call.intent.generation, installed := s.installed }]
        installed := s.installed ++ [call.intent.generation] } rfl rfl rfl (.inr rfl)
    refine ⟨o, t, heq, hbooked, hends, ?_⟩
    intro htrace
    cases htrace
  case skipped =>
    obtain ⟨o, t, heq, hbooked, hends, hquiet⟩ := hconfirm
      { s.marked cfg call.intent bundle with
        destination := { s.destination with files }
        installed := s.installed ++ [call.intent.generation] } rfl rfl rfl (.inl rfl)
    refine ⟨o, t, heq, hbooked, hends, ?_⟩
    intro htrace
    have hfiles : files = s.destination.files := hskipped rfl
    apply hquiet _ (hsame hfiles)
    show confirms cfg certPath keyPath chainPath call bundle files = true
    rw [hfiles]
    simpa [deployWroteNothing] using htrace
  case failed stage rolledBack =>
    -- in the state after the writes, noted where the write block was reached
    have hafter : ∀ u : State, u.destination = { s.destination with files } →
        u.record = (s.marked cfg call.intent bundle).record ∧ u.settled = s.settled ∧
          u.success = s.success ∧ u.installed = s.installed ∧ u.performed = s.performed →
        (u.writes = s.writes ∨
          u.writes = s.writes ++ [{ generation := call.intent.generation, installed := s.installed }]) →
        ∃ o t, (if deployWroteNothing (.failed stage rolledBack) = true then
            (if (writeRecord call.withdrawal s.record u).1 = true then .failed else .orphanedUnknownEffect,
              (writeRecord call.withdrawal s.record u).2)
          else (Outcome.orphanedUnknownEffect, u)) = (o, t) ∧
          Booked call.intent.generation s t ∧ Ends cfg s o t ∧
          ((if deployWroteNothing (.failed stage rolledBack) = true then
              decide (call.withdrawal = .failedBefore)
            else if Deployed.failed stage rolledBack = .skipped then
              !confirms cfg certPath keyPath chainPath call bundle s.destination.files
            else true) = false → Quiet s t) := by
      intro u hudestination hurest huwrites
      obtain ⟨hurecord, husettled, husuccess, huinstalled, huperformed⟩ := hurest
      have hmarked : Booked call.intent.generation s u :=
        ⟨huwrites, .inr ⟨_, hurecord, rfl, .inl huinstalled⟩, huperformed⟩
      by_cases hwrote : deployWroteNothing (.failed stage rolledBack) = true
      · rw [if_pos hwrote]
        cases hwithdrawal : call.withdrawal
        case failedBefore =>
          refine ⟨_, _, rfl, hmarked, .marked (hurecord ▸ hmark) rfl, ?_⟩
          intro htrace
          simp [hwrote] at htrace
        all_goals
          have hclear : ¬strands (slots cfg certPath keyPath chainPath bundle) call.deploy
              s.destination.files = true := by
            intro hstranded
            rw [hstrands hstranded] at hwithdrawal
            cases hwithdrawal
          have hdestination : u.destination = s.destination :=
            hudestination.trans (hsame (hnothing hwrote (by simpa using hclear)))
          refine ⟨_, _, rfl, ⟨huwrites, .inl ⟨rfl, huinstalled⟩, huperformed⟩,
            .untouched ⟨hdestination, hcertain⟩ husettled husuccess, fun _ => ⟨hdestination, hcertain⟩⟩
      · rw [if_neg hwrote]
        refine ⟨_, _, rfl, hmarked, .marked (hurecord ▸ hmark) rfl, ?_⟩
        intro htrace
        simp [hwrote] at htrace
    by_cases hstage : stage = .write
    · subst hstage
      exact hafter _ rfl ⟨rfl, rfl, rfl, rfl, rfl⟩ (.inr rfl)
    · simp only [if_neg hstage]
      exact hafter _ rfl ⟨rfl, rfl, rfl, rfl, rfl⟩ (.inl rfl)

/-- The way out of a call past a clean-up that may throw. -/
theorem Ends.finish (returns : Bool) (h : Ends cfg s o t) (hquiet : returns = false → Quiet s t) :
    ∃ o', (if returns then (o, t) else (Outcome.threw, t)) = (o', t) ∧ Ends cfg s o' t := by
  cases returns
  · exact ⟨_, rfl, h.threw (hquiet rfl)⟩
  · exact ⟨_, rfl, h⟩

theorem Ends.still (hcertain : uncertain s.record = false) : Ends cfg s o s :=
  .untouched ⟨rfl, hcertain⟩ rfl rfl

theorem installEndpoint_ends (call : Call) (bundle : Bundle)
    (htarget : cfg.target = .endpoint certPath keyPath chainPath)
    (hcertain : uncertain s.record = false)
    (hok :
    (call.prepares && call.leaseBeforeMarker) = true → call.marker ≠ .failedAfter ∧ (call.marker = .done → OrderlyMutation cfg call bundle s)) :
    ∃ o t, installEndpoint cfg certPath keyPath chainPath call bundle s = (o, t) ∧
      Booked call.intent.generation s t ∧ Ends cfg s o t ∧ (call.unlocks = false → Quiet s t) := by
  unfold installEndpoint
  have hstill : ∀ o, ∃ o' t, (if call.cleansUp then (o, s) else (Outcome.threw, s)) = (o', t) ∧
      Booked call.intent.generation s t ∧ Ends cfg s o' t ∧ (call.unlocks = false → Quiet s t) := by
    intro o
    have hquiet : Quiet s s := ⟨rfl, hcertain⟩
    have hends : Ends cfg s o s := .still hcertain
    obtain ⟨o', heq, hends⟩ := hends.finish call.cleansUp fun _ => hquiet
    exact ⟨o', s, heq, .refl _ s, hends, fun _ => hquiet⟩
  by_cases hprepares : call.prepares = true
  swap
  · rw [if_pos (by simpa using hprepares)]
    exact ⟨_, _, rfl, .refl _ s, .still hcertain, fun _ => ⟨rfl, hcertain⟩⟩
  rw [if_neg (by simp [hprepares])]
  by_cases hlease : call.leaseBeforeMarker = true
  swap
  · rw [if_pos (by simpa using hlease)]
    exact hstill .failed
  rw [if_neg (by simp [hlease])]
  obtain ⟨hmarker, hmutation⟩ := hok (by rw [hprepares, hlease]; rfl)
  cases hwrite : call.marker
  case failedAfter => exact absurd hwrite hmarker
  case failedBefore => exact hstill .failed
  case done =>
    have horderly := hmutation hwrite
    unfold OrderlyMutation at horderly
    rw [htarget] at horderly
    obtain ⟨hcallback, hstrands, htrace⟩ := horderly
    obtain ⟨o, t, heq, hbooked, hends, hquiet⟩ :=
      deployEndpoint_ends call bundle htarget hcertain hstrands
    have hmarked : writeRecord .done (some (recordOf cfg call.intent true bundle)) s =
        (true, s.marked cfg call.intent bundle) := rfl
    simp only [hmarked, hcallback, Bool.not_true, Bool.false_eq_true, if_false, heq]
    -- the clean-ups do not fail where the deploy left a trace
    have hleft : ∀ flag :
    Bool, (leavesTrace cfg certPath keyPath chainPath call bundle s.destination.files = true →
        flag = true) → flag = false → Quiet s t := by
      intro flag hflag hfalse
      apply hquiet
      by_contra hleaves
      rw [hflag (by simpa using hleaves)] at hfalse
      cases hfalse
    obtain ⟨o', heq', hends'⟩ := hends.finish call.cleansUp (hleft call.cleansUp fun h => (htrace h).1)
    exact ⟨o', t, heq', hbooked, hends', hleft call.unlocks fun h => (htrace h).2⟩

theorem verifyEndpoint_ends (call : Call) (bundle : Bundle)
    (htarget : cfg.target = .endpoint certPath keyPath chainPath)
    (hcertain : uncertain s.record = false) :
    ∃ o t, verifyEndpoint cfg certPath keyPath chainPath call bundle s = (o, t) ∧
      Booked call.intent.generation s t ∧ Ends cfg s o t ∧ Quiet s t := by
  unfold verifyEndpoint
  by_cases hlease : call.leaseBeforeRecord = true
  swap
  · rw [if_pos (by simpa using hlease)]
    exact ⟨_, _, rfl, .refl _ s, .still hcertain, rfl, hcertain⟩
  rw [if_neg (by simp [hlease])]
  have hrecord : Booked call.intent.generation s
      { s with record := some (recordOf cfg call.intent false bundle) } :=
    ⟨.inl rfl, .inr ⟨_, rfl, rfl, .inl rfl⟩, rfl⟩
  cases hverified : installedPairMatches cfg certPath keyPath chainPath call.readable bundle.material
      s.destination.files && (decide (cfg.verificationPolicy = .installed) || probesPass cfg call.probes) with
  | false =>
    cases call.outcomeRecord
    · exact ⟨_, _, rfl, hrecord, .untouched ⟨rfl, rfl⟩ rfl rfl, rfl, rfl⟩
    · exact ⟨_, _, rfl, .refl _ s, .still hcertain, rfl, hcertain⟩
    · exact ⟨_, _, rfl, hrecord, .untouched ⟨rfl, rfl⟩ rfl rfl, rfl, rfl⟩
  | true =>
    have hholds : Holds cfg bundle.material s.destination := by
      unfold Holds
      rw [htarget]
      exact installedPairMatches_readable (Bool.and_eq_true _ _ ▸ hverified).1
    cases call.outcomeRecord
    · exact ⟨_, _, rfl, ⟨.inl rfl, .inr ⟨_, rfl, rfl, .inl rfl⟩, rfl⟩,
        settledAs_ends rfl hholds fun _ => rfl, rfl, rfl⟩
    · exact ⟨_, _, rfl, .refl _ s, .still hcertain, rfl, hcertain⟩
    · exact ⟨_, _, rfl, ⟨.inl rfl, .inr ⟨_, rfl, rfl, .inl rfl⟩, rfl⟩,
        settledAs_ends rfl hholds fun _ => rfl, rfl, rfl⟩

/-! ## §5. Windows. -/

/-- The block from `connector.verify` on fails where it is, or records the success. -/
theorem confirmWindows_cases (call : Call) (bundle : Bundle) (mutated : Bool) (u : State)
    (htarget : cfg.target = .windowsIis) :
    confirmWindows cfg call bundle mutated u = ⟨false, mutated, mutated, u⟩ ∨
    (Holds cfg bundle.material u.destination ∧ ∃ completed,
      confirmWindows cfg call bundle mutated u = ⟨completed, mutated, mutated,
        u.settledAs (recordOf cfg call.intent false bundle) bundle.material⟩) := by
  unfold confirmWindows
  by_cases hverified : (call.readable && u.destination.windows.verify bundle.fingerprintSha256) = true
  swap
  · left
    rw [Bool.not_eq_true] at hverified
    rw [if_pos (by rw [hverified]; rfl)]
  rw [if_neg (by simp [hverified])]
  split
  · exact .inl rfl
  by_cases houtcome : call.outcomeRecord = .failedBefore
  · left
    rw [houtcome]
    rfl
  · right
    refine ⟨?_, _, by rw [writeSuccess_written houtcome]⟩
    unfold Holds
    rw [htarget]
    exact (Bool.and_eq_true _ _ ▸ hverified).2

theorem mutateWindows_ends (call : Call) (bundle : Bundle) (htarget : cfg.target = .windowsIis) :
    ∃ completed t, mutateWindows cfg call bundle (s.marked cfg call.intent bundle) =
        ⟨completed, true, true, t⟩ ∧ Booked call.intent.generation s t ∧
      ((completed = false ∧ uncertain t.record = true) ∨
        (∀ o, o ≠ .failed → o ≠ .threw → Ends cfg s o t)) := by
  have hmark : uncertain (s.marked cfg call.intent bundle).record = true := rfl
  -- an exception before the verification
  have hthrown : ∀ u : State, u.record = (s.marked cfg call.intent bundle).record →
      u.installed = s.installed ++ [call.intent.generation] → u.performed = s.performed →
      u.writes = s.writes ++ [{ generation := call.intent.generation, installed := s.installed }] →
      ∃ completed t, (⟨false, true, true, u⟩ : Attempt) = ⟨completed, true, true, t⟩ ∧
        Booked call.intent.generation s t ∧ ((completed = false ∧ uncertain t.record = true) ∨
          (∀ o, o ≠ .failed → o ≠ .threw → Ends cfg s o t)) := by
    intro u hrecord hinstalled hperformed hwrites
    exact ⟨_, _, rfl, ⟨.inr hwrites, .inr ⟨_, hrecord, rfl, .inr hinstalled⟩, hperformed⟩,
      .inl ⟨rfl, hrecord ▸ hmark⟩⟩
  have hverify : ∀ u : State, u.record = (s.marked cfg call.intent bundle).record →
      u.installed = s.installed ++ [call.intent.generation] → u.performed = s.performed →
      u.writes = s.writes ++ [{ generation := call.intent.generation, installed := s.installed }] →
      ∃ completed t, confirmWindows cfg call bundle true u = ⟨completed, true, true, t⟩ ∧
        Booked call.intent.generation s t ∧ ((completed = false ∧ uncertain t.record = true) ∨
          (∀ o, o ≠ .failed → o ≠ .threw → Ends cfg s o t)) := by
    intro u hrecord hinstalled hperformed hwrites
    obtain heq | ⟨hholds, completed, heq⟩ := confirmWindows_cases call bundle true u htarget
    · rw [heq]
      exact hthrown u hrecord hinstalled hperformed hwrites
    · rw [heq]
      refine ⟨_, _, rfl, ⟨.inr hwrites, .inr ⟨_, rfl, rfl, .inr hinstalled⟩, hperformed⟩, .inr ?_⟩
      intro o hfailed hthrew
      exact settledAs_ends rfl hholds fun hbad => absurd hbad (by simp [hfailed, hthrew])
  unfold mutateWindows importWindows
  dsimp only
  cases call.imports
  case throws imported =>
    cases imported <;> exact hthrown _ rfl rfl rfl rfl
  case imports =>
    dsimp only
    rw [if_neg (by simp)]
    split
    · exact hthrown _ rfl rfl rfl rfl
    · unfold activateWindows
      cases call.activates
      case throws bound => exact hthrown _ rfl rfl rfl rfl
      case activates =>
        dsimp only
        rw [if_neg (by simp)]
        exact hverify _ rfl rfl rfl rfl

theorem verifyWindows_ends (call : Call) (bundle : Bundle) (htarget : cfg.target = .windowsIis)
    (hverification : call.intent.verificationOnly = true) (hcertain : uncertain s.record = false) :
    ∃ o t, (if (confirmWindows cfg call bundle false s).completed = true then
        (Outcome.succeeded, (confirmWindows cfg call bundle false s).state)
      else catchWindows cfg call bundle s.record (confirmWindows cfg call bundle false s)) = (o, t) ∧
      Booked call.intent.generation s t ∧ Ends cfg s o t ∧ Quiet s t := by
  have hrewritten : Booked call.intent.generation s
      { s with record := some (recordOf cfg call.intent false bundle) } :=
    ⟨.inl rfl, .inr ⟨_, rfl, rfl, .inl rfl⟩, rfl⟩
  obtain heq | ⟨hholds, completed, heq⟩ := confirmWindows_cases call bundle false s htarget
  · rw [heq]
    unfold catchWindows
    simp only [hverification, Bool.false_and, Bool.false_eq_true, if_false, Bool.not_true, Bool.not_false,
      Bool.and_self, if_true]
    cases call.failureRecord
    · exact ⟨_, _, rfl, hrewritten, .untouched ⟨rfl, rfl⟩ rfl rfl, rfl, rfl⟩
    · exact ⟨_, _, rfl, .refl _ s, .still hcertain, rfl, hcertain⟩
    · exact ⟨_, _, rfl, hrewritten, .untouched ⟨rfl, rfl⟩ rfl rfl, rfl, rfl⟩
  · rw [heq]
    have hsettled : Booked call.intent.generation s
        (s.settledAs (recordOf cfg call.intent false bundle) bundle.material) :=
      ⟨.inl rfl, .inr ⟨_, rfl, rfl, .inl rfl⟩, rfl⟩
    have hends :
    ∀ o, Ends cfg s o (s.settledAs (recordOf cfg call.intent false bundle) bundle.material) := by
      intro o
      exact settledAs_ends rfl hholds fun _ => rfl
    cases completed
    · -- the record of the success was written, and the write threw
      unfold catchWindows
      simp only [hverification, Bool.false_and, Bool.false_eq_true, if_false, Bool.not_true, Bool.not_false,
        Bool.and_self, if_true]
      cases call.failureRecord
      · exact ⟨_, _, rfl, hsettled, hends _, rfl, rfl⟩
      · exact ⟨_, _, rfl, hsettled, hends _, rfl, rfl⟩
      · exact ⟨_, _, rfl, hsettled, hends _, rfl, rfl⟩
    · exact ⟨_, _, rfl, hsettled, hends _, rfl, rfl⟩

/-- An exception before anything was done. -/
theorem catchWindows_still (call : Call) (bundle : Bundle) (hcertain : uncertain s.record = false) :
    ∃ o t, (if (⟨false, false, false, s⟩ : Attempt).completed = true then (Outcome.succeeded, s)
      else catchWindows cfg call bundle s.record ⟨false, false, false, s⟩) = (o, t) ∧
      Booked call.intent.generation s t ∧ Ends cfg s o t ∧ Quiet s t := by
  unfold catchWindows
  cases call.intent.verificationOnly
  · exact ⟨_, _, rfl, .refl _ s, .still hcertain, rfl, hcertain⟩
  · have hrewritten : Booked call.intent.generation s
        { s with record := some (recordOf cfg call.intent false bundle) } :=
      ⟨.inl rfl, .inr ⟨_, rfl, rfl, .inl rfl⟩, rfl⟩
    cases call.failureRecord
    · exact ⟨_, _, rfl, hrewritten, .untouched ⟨rfl, rfl⟩ rfl rfl, rfl, rfl⟩
    · exact ⟨_, _, rfl, .refl _ s, .still hcertain, rfl, hcertain⟩
    · exact ⟨_, _, rfl, hrewritten, .untouched ⟨rfl, rfl⟩ rfl rfl, rfl, rfl⟩

theorem deployWindows_ends (call : Call) (bundle : Bundle) (htarget : cfg.target = .windowsIis)
    (hcertain : uncertain s.record = false)
    (hok : (call.prepares && call.leaseBeforeMarker) = true → call.intent.verificationOnly = false →
      call.marker ≠ .failedAfter ∧ (call.marker = .done → OrderlyMutation cfg call bundle s)) :
    ∃ o t, deployWindows cfg call bundle s = (o, t) ∧
      Booked call.intent.generation s t ∧ Ends cfg s o t ∧ (call.unlocks = false → Quiet s t) := by
  have hquiet : Quiet s s := ⟨rfl, hcertain⟩
  by_cases hprepares : call.prepares = true
  swap
  · unfold deployWindows
    rw [if_pos (by simpa using hprepares)]
    exact ⟨_, _, rfl, .refl _ s, .still hcertain, fun _ => hquiet⟩
  -- the way out, past the store locks
  have hout : ∀ a o t, attemptWindows cfg call bundle s = a →
      (if a.completed = true then (Outcome.succeeded, a.state)
        else catchWindows cfg call bundle s.record a) = (o, t) →
      Booked call.intent.generation s t → Ends cfg s o t →
      ((call.cleansUp = true ∧ call.unlocks = true) ∨ Quiet s t) →
      ∃ o' t', deployWindows cfg call bundle s = (o', t') ∧
        Booked call.intent.generation s t' ∧ Ends cfg s o' t' ∧ (call.unlocks = false → Quiet s t') := by
    intro a o t hattempt heq hbooked hends hsafe
    have hsame : ∀ flag : Bool, (call.cleansUp = true ∧ call.unlocks = true → flag = true) →
        flag = false → Quiet s t := by
      intro flag hflag hfalse
      obtain hboth | hsame := hsafe
      · rw [hflag hboth] at hfalse
        cases hfalse
      · exact hsame
    obtain ⟨o', hfinish, hends'⟩ := hends.finish call.cleansUp (hsame call.cleansUp fun h => h.1)
    refine ⟨o', t, ?_, hbooked, hends', hsame call.unlocks fun h => h.2⟩
    unfold deployWindows
    rw [if_neg (by simp [hprepares])]
    dsimp only
    rw [hattempt, heq]
    exact hfinish
  by_cases hlease : call.leaseBeforeMarker = true
  swap
  · have hattempt : attemptWindows cfg call bundle s = ⟨false, false, false, s⟩ := by
      unfold attemptWindows
      rw [if_pos (by simpa using hlease)]
    obtain ⟨o, t, heq, hbooked, hends, hsame⟩ := catchWindows_still call bundle hcertain
    exact hout _ o t hattempt heq hbooked hends (.inr hsame)
  cases hverification : call.intent.verificationOnly with
  | true =>
    have hattempt : attemptWindows cfg call bundle s = confirmWindows cfg call bundle false s := by
      unfold attemptWindows
      rw [if_neg (by simp [hlease]), if_pos hverification]
    obtain ⟨o, t, heq, hbooked, hends, hsame⟩ := verifyWindows_ends call bundle htarget hverification hcertain
    exact hout _ o t hattempt heq hbooked hends (.inr hsame)
  | false =>
    obtain ⟨hmarker, hmutation⟩ := hok (by rw [hprepares, hlease]; rfl) hverification
    have hattempt : attemptWindows cfg call bundle s =
        (if (!(writeRecord call.marker (some (recordOf cfg call.intent true bundle)) s).1) = true then
          ⟨false, false, false, (writeRecord call.marker (some (recordOf cfg call.intent true bundle)) s).2⟩
        else if (!(call.onBeforeMutation && call.leaseBeforeImport)) = true then
          ⟨false, false, true, (writeRecord call.marker (some (recordOf cfg call.intent true bundle)) s).2⟩
        else mutateWindows cfg call bundle
          (writeRecord call.marker (some (recordOf cfg call.intent true bundle)) s).2) := by
      unfold attemptWindows
      rw [if_neg (by simp [hlease]), if_neg (by simp [hverification])]
    cases hwrite : call.marker
    case failedAfter => exact absurd hwrite hmarker
    case failedBefore =>
      rw [hwrite] at hattempt
      obtain ⟨o, t, heq, hbooked, hends, hsame⟩ := catchWindows_still call bundle hcertain
      exact hout _ o t hattempt heq hbooked hends (.inr hsame)
    case done =>
      have horderly := hmutation hwrite
      unfold OrderlyMutation at horderly
      rw [htarget] at horderly
      rw [hwrite] at hattempt
      by_cases hmutates : (call.onBeforeMutation && call.leaseBeforeImport) = true
      · rw [if_pos hmutates] at horderly
        obtain ⟨completed, t, heq, hbooked, hends⟩ := mutateWindows_ends call bundle htarget
        have hmutated : attemptWindows cfg call bundle s = ⟨completed, true, true, t⟩ := by
          rw [hattempt, hmutates]
          exact heq
        cases completed
        · refine hout _ .orphanedUnknownEffect t hmutated ?_ hbooked ?_ (.inl horderly)
          · simp [catchWindows]
          · obtain ⟨-, hmark⟩ | hends := hends
            · exact .marked hmark rfl
            · exact hends _ (by simp) (by simp)
        · refine hout _ .succeeded t hmutated rfl hbooked ?_ (.inl horderly)
          obtain ⟨hnever, -⟩ | hends := hends
          · cases hnever
          · exact hends _ (by simp) (by simp)
      · -- the marker is taken back
        rw [if_neg hmutates] at horderly
        have hprepared : attemptWindows cfg call bundle s =
            ⟨false, false, true, s.marked cfg call.intent bundle⟩ := by
          rw [Bool.not_eq_true] at hmutates
          rw [hattempt, hmutates]
          rfl
        have hbooked :
    Booked call.intent.generation s { s.marked cfg call.intent bundle with record := s.record } :=
          ⟨.inl rfl, .inl ⟨rfl, rfl⟩, rfl⟩
        have hends : ∀ o, Ends cfg s o { s.marked cfg call.intent bundle with record := s.record } := by
          intro o
          exact .untouched ⟨rfl, hcertain⟩ rfl rfl
        cases hwithdrawal : call.withdrawal
        case failedBefore => exact absurd hwithdrawal horderly
        case done =>
          refine hout _ .failed _ hprepared ?_ hbooked (hends _) (.inr ⟨rfl, hcertain⟩)
          simp [catchWindows, hwithdrawal, writeRecord, hverification]
        case failedAfter =>
          refine hout _ .threw _ hprepared ?_ hbooked (hends _) (.inr ⟨rfl, hcertain⟩)
          simp [catchWindows, hwithdrawal, writeRecord]

/-! ## §6. A whole call. -/

theorem refusal_none {record : Option Record} (h : refusal cfg call record = none) :
    uncertain record = false ∧ ∀ r, record = some r → r.generation ≤ call.intent.generation := by
  unfold refusal at h
  cases record with
  | none => exact ⟨rfl, fun r hr => by cases hr⟩
  | some previous =>
    dsimp only at h
    split at h
    · cases h
    split at h
    · cases h
    rename_i hfresh
    split at h
    · cases h
    rename_i hcertain
    refine ⟨by simpa [uncertain] using hcertain, ?_⟩
    rintro r ⟨⟩
    have hnot : ¬call.intent.generation < previous.generation := fun hlt => hfresh (.inl hlt)
    omega

/-- A call that was let in, under the condition. -/
theorem deployLocked_ends (call : Call) (hpolicy : call.policyAccepts = true) (hlock : s.lockFile = false)
    (hlocks : call.locks = true) (hok : Orderly cfg s (.execute call)) :
    ((∃ o, deployLocked cfg call s = (o, s) ∧ o = .threw) ∨
      ∃ o t, deployLocked cfg call s = (o, t) ∧ refusal cfg call s.record = none ∧
        Booked call.intent.generation s t ∧ Ends cfg s o t ∧ (call.unlocks = false → Quiet s t)) := by
  unfold deployLocked
  cases hrefusal : refusal cfg call s.record with
  | some r => exact .inl ⟨_, rfl, rfl⟩
  | none =>
    cases hbundle : call.bundle with
    | none => exact .inl ⟨_, rfl, rfl⟩
    | some bundle =>
      right
      obtain ⟨hcertain, -⟩ := refusal_none hrefusal
      -- the condition, once the call comes to its marker
      have hmarker : (call.prepares && call.leaseBeforeMarker) = true →
          call.intent.verificationOnly = false →
          call.marker ≠ .failedAfter ∧ (call.marker = .done → OrderlyMutation cfg call bundle s) := by
        intro hready hinstalls
        rw [Bool.and_eq_true] at hready
        have hcomes : comesToMarker cfg call s = true := by
          simp [comesToMarker, hpolicy, hlock, hlocks, hrefusal, hbundle, hready.1, hready.2, hinstalls]
        obtain ⟨hnever, hmutation⟩ := hok hcomes
        exact ⟨hnever, hmutation bundle hbundle⟩
      cases htarget : cfg.target with
      | windowsIis =>
        obtain ⟨o, t, heq, hbooked, hends, hquiet⟩ := deployWindows_ends call bundle htarget hcertain hmarker
        exact ⟨o, t, heq, rfl, hbooked, hends, hquiet⟩
      | endpoint certPath keyPath chainPath =>
        dsimp only
        by_cases hverification : call.intent.verificationOnly = true
        · rw [if_pos hverification]
          obtain ⟨o, t, heq, hbooked, hends, hquiet⟩ :=
            verifyEndpoint_ends call bundle htarget hcertain
          exact ⟨o, t, heq, rfl, hbooked, hends, fun _ => hquiet⟩
        · rw [if_neg hverification]
          obtain ⟨o, t, heq, hbooked, hends, hquiet⟩ := installEndpoint_ends call bundle htarget hcertain
            fun hready => hmarker hready (by simpa using hverification)
          exact ⟨o, t, heq, rfl, hbooked, hends, hquiet⟩

theorem Ends.withLockFile (h : Ends cfg s o t) :
    Ends cfg s o { t with lockFile := b } := by
  cases h
  case untouched h hsettled hsuccess => exact .untouched ⟨h.destination, h.certain⟩ hsettled hsuccess
  case marked h ho => exact .marked h ho
  case settled h hsettled hholds ho => exact .settled h hsettled hholds ho

/-- What a call that meets the condition does: it throws and leaves everything, or it was let
    in. -/
theorem executePinnedDeployment_ends (call : Call) (hok : Orderly cfg s (.execute call)) :
    ∃ o t, executePinnedDeployment cfg call s = (o, t) ∧
      ((o = .threw ∧ ∃ b, t = { s with lockFile := b }) ∨
        (refusal cfg call s.record = none ∧ Booked call.intent.generation s t ∧ Ends cfg s o t)) := by
  unfold executePinnedDeployment
  by_cases hentry : (!call.policyAccepts || s.lockFile || !call.locks) = true
  · rw [if_pos hentry]
    exact ⟨_, _, rfl, .inl ⟨rfl, s.lockFile, rfl⟩⟩
  rw [if_neg hentry]
  have hpasses : call.policyAccepts = true ∧ s.lockFile = false ∧ call.locks = true := by
    simpa [and_assoc] using hentry
  obtain ⟨hpolicy, hlock, hlocks⟩ := hpasses
  obtain ⟨o, heq, rfl⟩ | ⟨o, t, heq, hrefusal, hbooked, hends, hquiet⟩ :=
    deployLocked_ends call hpolicy hlock hlocks hok
  · rw [heq]
    cases call.unlocks
    · exact ⟨_, _, rfl, .inl ⟨rfl, true, rfl⟩⟩
    · exact ⟨_, _, rfl, .inl ⟨rfl, s.lockFile, rfl⟩⟩
  · rw [heq]
    cases hunlocks : call.unlocks
    · refine ⟨_, _, rfl, .inr ⟨hrefusal, ?_, (hends.threw (hquiet hunlocks)).withLockFile⟩⟩
      exact ⟨hbooked.writes, hbooked.record, hbooked.performed⟩
    · exact ⟨_, _, rfl, .inr ⟨hrefusal, hbooked, hends⟩⟩

/-! ## §7. Runs. -/

/-- Whatever was installed, the record is of its generation or a newer one. -/
def Covered (s : State) : Prop :=
  ∀ generation ∈ s.installed, ∃ r, s.record = some r ∧ generation ≤ r.generation

theorem Agrees.init (h : Init s) : Agrees cfg s ∧ Covered s := by
  refine ⟨⟨?_, ?_, ?_⟩, ?_⟩
  · simp [h.performed]
  · intro _
    refine ⟨h.settled.symm, ?_⟩
    intro m hm
    rw [h.success] at hm
    cases hm
  · simp [h.writes]
  · simp [Covered, h.installed]

/-- The record after a call is right about the host. -/
theorem Ends.agrees (h : Ends cfg s o t) (hs : Agrees cfg s) (hcertain : uncertain s.record = false) :
    uncertain t.record = false →
      t.destination = t.settled ∧ ∀ m, t.success = some m → Holds cfg m t.destination := by
  intro ht
  cases h
  case untouched h hsettled hsuccess =>
    rw [h.destination, hsettled, hsuccess]
    exact hs.certain hcertain
  case marked h _ =>
    rw [h] at ht
    cases ht
  case settled _ hsettled hholds _ => exact ⟨hsettled.symm, hholds⟩

theorem refusal_of_certain {record : Option Record} {later : Call} (h : uncertain record = false)
    (hrecovery : later.recoveryOnly = true → record.isSome = true) :
    refusal cfg later record ≠ some .materialBindingUncertain := by
  unfold refusal
  cases record with
  | none =>
    dsimp only
    split
    · rename_i honly
      cases hrecovery honly
    · simp
  | some previous =>
    have hprevious : previous.uncertain = false := by simpa [uncertain] using h
    dsimp only
    rw [hprevious]
    split
    · simp
    · split <;> simp

theorem Ends.leftClean (h : Ends cfg s o t) :
    LeftClean cfg { outcome := o, destination := s.destination, destination' := t.destination
                    record := s.record, record' := t.record } := by
  intro ho
  cases h
  case untouched h _ _ =>
    exact ⟨h.destination, .inr fun later hrecovery => refusal_of_certain h.certain hrecovery⟩
  case marked _ horphaned =>
    subst horphaned
    obtain ho | ho := ho <;> cases ho
  case settled h _ _ hsame =>
    exact ⟨hsame ho, .inr fun later hrecovery => refusal_of_certain h hrecovery⟩

theorem Booked.covered (hbooked : Booked call.intent.generation s t)
    (hrefusal : refusal cfg call s.record = none) (hs : Agrees cfg s) (hcovered : Covered s) :
    (∀ w ∈ t.writes, ∀ generation ∈ w.installed, generation ≤ w.generation) ∧ Covered t := by
  obtain ⟨-, hnewer⟩ := refusal_none hrefusal
  have holder : ∀ generation ∈ s.installed, generation ≤ call.intent.generation := by
    intro generation hg
    obtain ⟨r, hr, hle⟩ := hcovered generation hg
    exact hle.trans (hnewer r hr)
  constructor
  · intro w hw
    obtain hwrites | hwrites := hbooked.writes
    · rw [hwrites] at hw
      exact hs.writes w hw
    · rw [hwrites, List.mem_append, List.mem_singleton] at hw
      obtain hw | rfl := hw
      · exact hs.writes w hw
      · exact holder
  · intro generation hg
    obtain ⟨hrecord, hinstalled⟩ | ⟨r, hr, hgeneration, hinstalled⟩ := hbooked.record
    · rw [hinstalled] at hg
      rw [hrecord]
      exact hcovered generation hg
    · refine ⟨r, hr, ?_⟩
      rw [hgeneration]
      obtain hinstalled | hinstalled := hinstalled
      · rw [hinstalled] at hg
        exact holder generation hg
      · rw [hinstalled, List.mem_append, List.mem_singleton] at hg
        obtain hg | rfl := hg
        · exact holder generation hg
        · exact le_rfl

theorem reconciles_holds {destination : Destination}
    (h : reconciles cfg r material destination = true) : Holds cfg material destination := by
  unfold reconciles at h
  unfold Holds
  cases htarget : cfg.target with
  | windowsIis =>
    rw [htarget] at h
    simp only [Bool.and_eq_true] at h
    exact h.1.2.2
  | endpoint certPath keyPath chainPath =>
    rw [htarget] at h
    exact installedPairMatches_readable (Bool.and_eq_true _ _ ▸ h).1

theorem reconcileLocked_cases (r : Reconciliation) :
    reconcileLocked cfg r s = s ∨
    ∃ previous record material, s.record = some previous ∧ record.uncertain = false ∧
      record.generation = previous.generation ∧ Holds cfg material s.destination ∧
      reconcileLocked cfg r s = s.settledAs record material := by
  unfold reconcileLocked
  split
  · exact .inl rfl
  rename_i previous hrecord
  split
  · exact .inl rfl
  split
  · exact .inl rfl
  rename_i certificatePem hpem
  dsimp only
  split
  swap
  · exact .inl rfl
  rename_i hproved
  by_cases houtcome : r.outcomeRecord = .failedBefore
  · rw [houtcome, writeSuccess_failedBefore]
    exact .inl rfl
  · rw [writeSuccess_written houtcome]
    exact .inr ⟨previous, { previous with uncertain := false, certificatePem := some certificatePem }, _,
      hrecord, rfl, rfl, reconciles_holds hproved, rfl⟩

theorem Agrees.withLockFile (h : Agrees cfg s ∧ Covered s) :
    Agrees cfg { s with lockFile := b } ∧ Covered { s with lockFile := b } :=
  ⟨⟨h.1.calls, h.1.certain, h.1.writes⟩, h.2⟩

theorem Agrees.reconcile (hs : Agrees cfg s ∧ Covered s) :
    Agrees cfg (reconcilePinnedDeployment cfg r s) ∧ Covered (reconcilePinnedDeployment cfg r s) := by
  have hlocked : Agrees cfg (reconcileLocked cfg r s) ∧ Covered (reconcileLocked cfg r s) := by
    obtain heq | ⟨previous, record, material, hrecord, hcertain, hgeneration, hholds, heq⟩ :=
      reconcileLocked_cases r
    · rw [heq]
      exact hs
    · rw [heq]
      refine ⟨⟨hs.1.calls, ?_, hs.1.writes⟩, ?_⟩
      · intro _
        refine ⟨rfl, ?_⟩
        intro m hm
        cases hm
        exact hholds
      · intro generation hg
        obtain ⟨r', hr', hle⟩ := hs.2 generation hg
        rw [hrecord] at hr'
        cases hr'
        exact ⟨record, rfl, hgeneration ▸ hle⟩
  unfold reconcilePinnedDeployment
  split
  · exact hs
  · split
    · exact hlocked
    · exact Agrees.withLockFile hlocked

/-- One event of a run that meets the condition. -/
theorem Agrees.step {e : Event} (hs : Agrees cfg s ∧ Covered s) (hok : Orderly cfg s e) :
    Agrees cfg (next cfg s e) ∧ Covered (next cfg s e) := by
  obtain ⟨hs, hcovered⟩ := hs
  cases e
  case execute call =>
    obtain ⟨o, t, heq, hcase⟩ := executePinnedDeployment_ends call hok
    dsimp only [next]
    rw [heq]
    dsimp only
    obtain ⟨rfl, b, rfl⟩ | ⟨hrefusal, hbooked, hends⟩ := hcase
    · refine ⟨⟨?_, hs.certain, hs.writes⟩, hcovered⟩
      intro p hp
      rw [List.mem_append, List.mem_singleton] at hp
      obtain hp | rfl := hp
      · exact hs.calls p hp
      · intro _
        refine ⟨rfl, ?_⟩
        cases huncertain : uncertain s.record
        · exact .inr fun later hrecovery => refusal_of_certain huncertain hrecovery
        · exact .inl rfl
    · obtain ⟨hwrites, hcovered'⟩ := hbooked.covered hrefusal hs hcovered
      refine ⟨⟨?_, hends.agrees hs (refusal_none hrefusal).1, hwrites⟩, hcovered'⟩
      intro p hp
      rw [List.mem_append, List.mem_singleton] at hp
      obtain hp | rfl := hp
      · rw [hbooked.performed] at hp
        exact hs.calls p hp
      · exact hends.leftClean
  case reconcile r =>
    exact Agrees.reconcile ⟨hs, hcovered⟩
  case removeLockFile => exact Agrees.withLockFile ⟨hs, hcovered⟩

/-- In every run of calls, reconciliations and failures in which no call meets one of the
    failures its record does not survive, the record agrees with the host. -/
theorem record_agrees (cfg : Config) (s : State) (h : Reachable (system cfg) (Orderly cfg) s) :
    Agrees cfg s := by
  have hall : Agrees cfg s ∧ Covered s := by
    apply h.invariant (I := fun s => Agrees cfg s ∧ Covered s)
    · intro s hs
      exact Agrees.init hs
    · intro s e t hs hok hstep
      rw [show t = next cfg s e from hstep]
      exact Agrees.step hs hok
  exact hall.1

/-! ## §8. Calls. -/

/-- An endpoint with a certificate and a key file. -/
def demoConfig : Config where
  target := .endpoint (.named (js "/etc/tls/cert.pem")) (.named (js "/etc/tls/key.pem")) none
  verificationPolicy := .installed
  env := Agent.demoEnvironment
  intentHash intent := intent.materialVersionId
  certificateBlocks pem := [pem]
  pairMatches cert _ _ _ certificatePem := decide (cert = Agent.demoEnvironment.encode certificatePem)
  fingerprint pem := some pem

def demoBundle : Bundle :=
  { certificatePem := js "C", privateKeyPem := js "K", fingerprintSha256 := js "F" }

def demoCall : Call where
  intent :=
    { generation := 1, materialVersionId := js "v1", fingerprintSha256 := js "F", verificationOnly := false }
  bundle := some demoBundle

/-- A host without the files. -/
def demoHost : State :=
  { destination := { files := fun _ => none, windows := { imported := [], bound := none } }
    settled := { files := fun _ => none, windows := { imported := [], bound := none } } }

theorem demoHost_init : Init demoHost := ⟨rfl, rfl, rfl, rfl, rfl, rfl⟩

/-- A deploy that stops before the writes, and the next one, which installs. -/
theorem record_agrees_demo : ∃ s, s.performed.map (fun p => p.outcome) = [.failed, .succeeded] ∧
    s.installed = [1] ∧ Agrees demoConfig s := by
  let stopped : Event := .execute { demoCall with deploy := .stops .backup (by decide) }
  have hplay : ((next demoConfig (next demoConfig demoHost stopped) (.execute demoCall)).performed.map
      (fun p => p.outcome) = [.failed, .succeeded]) ∧
      (next demoConfig (next demoConfig demoHost stopped) (.execute demoCall)).installed = [1] := by
    decide +kernel
  have hok : ∀ (s : State) (run : DeployRun), (∀ written restored, run ≠ .writeFails written restored) →
      Orderly demoConfig s (.execute { demoCall with deploy := run }) := by
    intro s run hrun _
    refine ⟨by simp [demoCall], ?_⟩
    intro bundle _ _
    refine ⟨rfl, ?_, fun _ => ⟨rfl, rfl⟩⟩
    intro hstrands
    cases run with
    | writeFails written restored => exact absurd rfl (hrun written restored)
    | completes | throws | stops => cases hstrands
  have hfirst := (Reachable.of_init demoHost_init : Reachable (system demoConfig) (Orderly demoConfig) demoHost).step
    (hok demoHost (.stops .backup (by decide)) (by simp)) rfl
  have hsecond := hfirst.step (hok _ .completes (by simp)) rfl
  exact ⟨_, hplay.1, hplay.2, record_agrees demoConfig _ hsecond⟩

/-- The side-effect marker of the job cannot be written: nothing was touched and the call
    reports a failure, yet the binding stays uncertain and the next job is refused. -/
theorem marker_left_behind : ∃ s, Reachable (system demoConfig) anyStep s ∧
    (∃ p ∈ s.performed, p.outcome = .failed ∧ p.record = none ∧
      refusal demoConfig { demoCall with intent := { demoCall.intent with generation := 2 } } p.record' =
        some .materialBindingUncertain) ∧ ¬Agrees demoConfig s := by
  let failing : Event := .execute { demoCall with onBeforeMutation := false }
  have hreach := (Reachable.of_init demoHost_init : Reachable (system demoConfig) anyStep demoHost).step
    (a := failing) trivial rfl
  refine ⟨_, hreach, ⟨_, List.mem_singleton_self _, rfl, rfl, rfl⟩, ?_⟩
  intro hagrees
  obtain ⟨-, hclean⟩ := hagrees.calls _ (List.mem_singleton_self _) (.inl rfl)
  obtain hbefore | hlater := hclean
  · cases hbefore
  · exact hlater { demoCall with intent := { demoCall.intent with generation := 2 } } (fun h => by cases h) rfl

end TokenTimer.PinnedDeployment
