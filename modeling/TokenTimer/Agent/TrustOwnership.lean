/-
  TokenTimer.Agent.TrustOwnership — the agent deletes what it installed.

  A revocation goes by the receipt, and an intent whose certificate is there is
  taken for an installation.  The invariant: what stands at a place the agent
  claims is the agent's.  Every operation of the agent keeps it.  It breaks where
  another administrator puts the certificate in a place that is claimed already,
  and where an observation misses theirs, so that the agent claims the place over
  it.

  Main results:
    * `Rightful.install`, `Rightful.revokeTrust` — the invariant, for each job.
    * `revoke_deletes_own` — every deletion is of the agent's own entry, and a
        claimed place of another's is deleted.
-/

import TokenTimer.Agent.TrustStore

namespace TokenTimer.Agent

open Lib.Faulty Lib.Runs

/-! ## §1. The invariant. -/

/-- An event in which nobody's certificate comes under a claim of the agent:
    others put theirs where the agent claims nothing, and a `distributeTrust`
    does not miss what is theirs. -/
def TrustEvent.Undisturbed : TrustEvent → Prop
  | .joined claimed => claimed = false
  | .overlooked .distributing anchor _ => ∀ a, anchor = some a → a.owner = .agent
  | _ => True

def TrustHost.Undisturbed (host : TrustHost) : Prop := ∀ event ∈ host.history, event.Undisturbed

structure TrustHost.Owned (host : TrustHost) : Prop where
  claimed : host.claimed = true → ∀ anchor, host.anchor = some anchor → anchor.owner = .agent
  torn : ∀ anchor, host.anchor = some anchor → anchor.intact = false → anchor.owner = .agent
  deleted : ∀ owner, TrustEvent.deleted owner ∈ host.history → owner = .agent

/-- The invariant, of hosts nobody disturbed. -/
def Rightful (host : TrustHost) : Prop := host.Undisturbed → host.Owned

/-- The invariant, of a place the agent claims. -/
def RightfulClaim (host : TrustHost) : Prop := Rightful host ∧ host.claimed = true

variable {family : Family} {host : TrustHost}

theorem TrustHost.Undisturbed.of_record (host : TrustHost) (event : TrustEvent)
    (h : (host.record event).Undisturbed) :
    host.Undisturbed ∧ event.Undisturbed :=
  ⟨fun e he => h e (List.mem_append_left _ he), h event (List.mem_append_right _ List.mem_cons_self)⟩

/-- The invariant speaks of the place, the claim and the history. -/
theorem Rightful.of_eq {host' : TrustHost} (h : Rightful host) (hanchor : host'.anchor = host.anchor)
    (hclaimed : host'.claimed = true → host.claimed = true) (hhistory : host'.history = host.history) :
    Rightful host' := by
  intro hcalm
  have hcalm' : host.Undisturbed := by
    intro event hevent
    rw [← hhistory] at hevent
    exact hcalm event hevent
  have howned := h hcalm'
  constructor
  · intro hclaim anchor ha
    rw [hanchor] at ha
    exact howned.claimed (hclaimed hclaim) anchor ha
  · intro anchor ha
    rw [hanchor] at ha
    exact howned.torn anchor ha
  · intro owner hdeleted
    rw [hhistory] at hdeleted
    exact howned.deleted owner hdeleted

/-! ## §2. Other administrators. -/

theorem TrustHost.perform_claimed (host : TrustHost) (action : OtherAction) :
    (host.perform family action).claimed = host.claimed := by
  cases action with
  | put =>
    unfold TrustHost.perform
    dsimp only
    split <;> rfl
  | remove | putElsewhere | removeElsewhere => rfl

theorem Rightful.perform (h : Rightful host) (action : OtherAction) : Rightful (host.perform family action) := by
  cases action with
  | put =>
    unfold TrustHost.perform
    dsimp only
    by_cases hkeeps : family = .windows ∧ host.anchor.isSome = true
    · rw [if_pos hkeeps]
      exact h
    · rw [if_neg hkeeps]
      intro hcalm
      obtain ⟨hbefore, hjoined⟩ := TrustHost.Undisturbed.of_record host (.joined host.claimed) hcalm
      have howned := h hbefore
      constructor
      · intro hclaim
        have hfree : host.claimed = false := hjoined
        exact absurd (hfree.symm.trans hclaim) Bool.false_ne_true
      · intro anchor ha htorn
        injection ha with ha
        subst ha
        cases htorn
      · intro owner hdeleted
        rcases List.mem_append.mp hdeleted with hdeleted | hdeleted
        · exact howned.deleted owner hdeleted
        · rw [List.mem_singleton] at hdeleted
          cases hdeleted
  | remove =>
    intro hcalm
    have howned := h hcalm
    refine ⟨?_, ?_, howned.deleted⟩
    · intro _ anchor ha
      cases ha
    · intro anchor ha
      cases ha
  | putElsewhere | removeElsewhere => exact h.of_eq rfl id rfl

theorem robust_rightful : Robust family Rightful :=
  Robust.of_perform (fun _ _ h => h.of_eq rfl id rfl) fun _ action h => h.perform action

theorem robust_claimed : Robust family fun host => host.claimed = true :=
  Robust.of_perform (fun _ _ h => h) fun host action h => (host.perform_claimed action).trans h

theorem robust_rightfulClaim : Robust family RightfulClaim := robust_rightful.and robust_claimed

/-! ## §3. The operations of the agent. -/

theorem Rightful.place {anchor : Option Anchor} {refreshed : Bool} (h : Rightful host)
    (hown : host.Owned → ∀ a, anchor = some a → a.owner = .agent) :
    Rightful { host with anchor := anchor, refreshed := refreshed } := by
  intro hcalm
  have howned := h hcalm
  exact ⟨fun _ a ha => hown howned a ha, fun a ha _ => hown howned a ha, howned.deleted⟩

theorem RightfulClaim.addstore (h : RightfulClaim host) : RightfulClaim host.addstore := by
  refine ⟨h.1.place fun howned a ha => ?_, h.2⟩
  cases hanchor : host.anchor with
  | none =>
    rw [hanchor] at ha
    injection ha with ha
    exact ha ▸ rfl
  | some entry =>
    rw [hanchor] at ha
    exact howned.claimed h.2 a (hanchor.trans ha)

theorem RightfulClaim.written (h : RightfulClaim host) (intact : Bool) :
    RightfulClaim (host.written intact) := by
  refine ⟨h.1.place fun _ a ha => ?_, h.2⟩
  injection ha with ha
  exact ha ▸ rfl

/-- What is removed from a claimed place is the agent's. -/
theorem RightfulClaim.cleared {anchor : Anchor} {refreshed : Bool} (h : RightfulClaim host)
    (hanchor : host.anchor = some anchor) :
    RightfulClaim { host.record (.deleted anchor.owner) with anchor := none, refreshed := refreshed } := by
  refine ⟨fun hcalm => ?_, h.2⟩
  have howned := h.1 (TrustHost.Undisturbed.of_record host _ hcalm).1
  constructor
  · intro _ a ha
    cases ha
  · intro a ha
    cases ha
  · intro owner hdeleted
    rcases List.mem_append.mp hdeleted with hdeleted | hdeleted
    · exact howned.deleted owner hdeleted
    · rw [List.mem_singleton] at hdeleted
      injection hdeleted with howner
      rw [howner]
      exact howned.claimed h.2 anchor hanchor

theorem RightfulClaim.unlinked (h : RightfulClaim host) : RightfulClaim host.unlinked := by
  unfold TrustHost.unlinked
  cases hanchor : host.anchor with
  | none => exact h
  | some anchor => exact h.cleared hanchor

theorem claimed_of_live {receipt : Receipt} (h : receipt.live = true) :
    { host with receipt := receipt }.claimed = true := by
  show (receipt.live || host.observing) = true
  rw [h, Bool.true_or]

theorem keeps_act {f : TrustHost → TrustHost} (h : ∀ host, RightfulClaim host → RightfulClaim (f host)) :
    Keeps RightfulClaim (act family fun host => .ok ((), f host)) :=
  triple_act_ok robust_rightfulClaim h fun _ _ h => h

theorem keeps_pause : Keeps RightfulClaim (pause family) := triple_pause robust_rightfulClaim fun _ _ h => h

theorem keeps_refresh : Keeps RightfulClaim (refresh family) :=
  keeps_act fun _ h => ⟨h.1.of_eq rfl id rfl, h.2⟩

theorem keeps_addWindowsStoreEntry : Keeps RightfulClaim (addWindowsStoreEntry family) := by
  unfold addWindowsStoreEntry
  refine Keeps.bind keeps_pause fun _ => Keeps.bind keeps_pause fun _ => ?_
  refine Keeps.bind (Keeps.attempt (Keeps.bind (keeps_act fun _ h => h.addstore) fun _ => keeps_pause))
    fun _ => ?_
  exact Keeps.bind (Keeps.attempt keeps_pause) fun _ => Keeps.pure

theorem keeps_writeAnchorFile : Keeps RightfulClaim (writeAnchorFile family) := by
  unfold writeAnchorFile
  refine Keeps.bind keeps_pause fun _ => ?_
  exact Keeps.bind (keeps_act fun _ h => h.written false) fun _ => keeps_act fun _ h => h.written true

theorem keeps_installLinuxAnchorFile : Keeps RightfulClaim (installLinuxAnchorFile family) := by
  unfold installLinuxAnchorFile
  refine Keeps.bind (Keeps.attempt keeps_writeAnchorFile) fun written => ?_
  cases written with
  | error error => exact Keeps.pure
  | ok _ => exact Keeps.bind (Keeps.attempt keeps_refresh) fun _ => Keeps.pure

theorem keeps_removeWindowsStoreEntry : Keeps RightfulClaim (removeWindowsStoreEntry family) := by
  unfold removeWindowsStoreEntry
  refine Keeps.bind (Keeps.attempt (Keeps.bind (triple_act robust_rightfulClaim ?_ fun _ _ h => h)
    fun _ => keeps_pause)) fun _ => Keeps.pure
  intro host _ host' h heq
  unfold TrustHost.delstore at heq
  cases hanchor : host.anchor with
  | none =>
    rw [hanchor] at heq
    cases heq
  | some anchor =>
    rw [hanchor] at heq
    injection heq with heq
    injection heq with _ heq
    subst heq
    exact h.cleared hanchor

theorem keeps_removeLinuxAnchorFile : Keeps RightfulClaim (removeLinuxAnchorFile family) := by
  unfold removeLinuxAnchorFile
  refine Keeps.bind (Keeps.attempt ?_) fun _ => Keeps.pure
  exact Keeps.bind (keeps_act fun _ h => h.unlinked) fun _ => keeps_refresh

theorem keeps_installAnchor : Keeps RightfulClaim (installAnchor family) := by
  cases family with
  | windows => exact keeps_addWindowsStoreEntry
  | debian | rhel => exact keeps_installLinuxAnchorFile

theorem keeps_removeAnchor : Keeps RightfulClaim (removeAnchor family) := by
  cases family with
  | windows => exact keeps_removeWindowsStoreEntry
  | debian | rhel => exact keeps_removeLinuxAnchorFile

/-! ## §4. Receipts and observations. -/

variable {transitionGeneration : Nat} {observer : Observer} {jobId : String}

theorem keeps_finalizeReceipt :
    Keeps Rightful (finalizeReceipt family jobId transitionGeneration) := by
  refine triple_finalizeReceipt robust_rightful (fun _ => robust_rightful) ?_ (fun _ _ h => h) fun _ _ _ h => h
  intro host row nextState h hreceipt hstate
  refine h.of_eq rfl (fun _ => ?_) rfl
  show (host.receipt.live || host.observing) = true
  rw [hreceipt]
  have hlive : row.state ≠ .removed := by
    intro hremoved
    rw [hremoved] at hstate
    cases hstate
  rw [show Receipt.live (.found row) = true from decide_eq_true hlive, Bool.true_or]

theorem keeps_writeIntentReceipt {intentState : ReceiptState} {reclaimStalePending : Bool}
    (hpending : intentState ≠ .removed) :
    Keeps RightfulClaim
      (writeIntentReceipt family jobId transitionGeneration intentState reclaimStalePending) := by
  refine (triple_writeIntentReceipt robust_rightfulClaim robust_rightfulClaim ?_ (fun _ _ h => h)
    fun _ _ h => h).conseq (fun _ h => h) (fun _ _ h => h.2) fun _ _ h => h
  intro host h
  exact ⟨h.1.of_eq rfl (fun _ => h.2) rfl, claimed_of_live (decide_eq_true hpending)⟩

theorem Rightful.noted {found : Bool} (h : Rightful host)
    (hunseen : host.Owned → observer = .distributing → found = false → ∀ a, host.anchor = some a → a.owner = .agent) :
    Rightful (observer.noted found host) := by
  intro hcalm
  have howned := h hcalm
  refine ⟨fun hclaim a ha => ?_, howned.torn, howned.deleted⟩
  have hclaim : (host.receipt.live || (host.observing ||
      (decide (observer = .distributing) && !found))) = true := hclaim
  rw [← Bool.or_assoc, Bool.or_eq_true, Bool.and_eq_true, decide_eq_true_eq,
    Bool.not_eq_true'] at hclaim
  rcases hclaim with hclaim | ⟨hdistributing, hfound⟩
  · exact howned.claimed hclaim a ha
  · exact hunseen howned hdistributing hfound a ha

theorem TrustHost.Owned.unseen (h : host.Owned) (hsees : observer.sees family host = false)
    {anchor : Anchor} (hanchor : host.anchor = some anchor) :
    anchor.owner = .agent := by
  refine h.torn anchor hanchor ?_
  have hvisible : host.visible family = false := (Bool.or_eq_false_iff.mp hsees).1
  unfold TrustHost.visible at hvisible
  rw [hanchor] at hvisible
  exact (Bool.or_eq_false_iff.mp hvisible).2

theorem Rightful.sees (h : Rightful host) :
    Rightful (observer.noted (observer.sees family host) host) :=
  h.noted fun howned _ hfound _ ha => howned.unseen hfound ha

theorem Rightful.overlooked (h : Rightful host) :
    Rightful (observer.noted false (host.overlookedBy observer)) := by
  intro hcalm
  obtain ⟨hbefore, hmissed⟩ := TrustHost.Undisturbed.of_record host
    (.overlooked observer host.anchor host.receipt) hcalm
  have howned := h hbefore
  have hrecorded : Rightful (host.overlookedBy observer) := by
    intro _
    refine ⟨howned.claimed, howned.torn, fun owner hdeleted => ?_⟩
    rcases List.mem_append.mp hdeleted with hdeleted | hdeleted
    · exact howned.deleted owner hdeleted
    · rw [List.mem_singleton] at hdeleted
      cases hdeleted
  refine hrecorded.noted (fun _ hdistributing _ a ha => ?_) hcalm
  subst hdistributing
  exact hmissed a ha

theorem claimed_noted (host : TrustHost) :
    (Observer.noted .distributing false host).claimed = true := by
  show (host.receipt.live || (host.observing || true)) = true
  rw [Bool.or_true, Bool.or_true]

theorem keeps_observe : Keeps RightfulClaim (observe family observer) := by
  have hclaimed : ∀ (found : Bool) (host : TrustHost), host.claimed = true →
      (observer.noted found host).claimed = true := by
    intro found host h
    show (host.receipt.live || (host.observing || _)) = true
    rw [← Bool.or_assoc, show (host.receipt.live || host.observing) = true from h, Bool.true_or]
  refine triple_observe robust_rightfulClaim ?_ ?_ fun _ _ h => h
  · intro host h
    exact ⟨h.1.sees, hclaimed _ host h.2⟩
  · intro host h
    exact ⟨h.1.overlooked, hclaimed _ (host.overlookedBy observer) h.2⟩

/-! ## §5. `distributeTrust`. -/

variable {job : TrustJob} {row : ReceiptRow}

/-- From a claimed place, the invariant. -/
def KeepsClaimed {α : Type} (m : OnTrust α) : Prop := Triple RightfulClaim m (fun _ => Rightful) (fun _ => Rightful)

theorem KeepsClaimed.of_keeps {α : Type} {m : OnTrust α} (h : Keeps RightfulClaim m) : KeepsClaimed m :=
  h.conseq (fun _ h => h) (fun _ _ h => h.1) fun _ _ h => h.1

theorem KeepsClaimed.of_kept {α : Type} {m : OnTrust α} (h : Keeps Rightful m) : KeepsClaimed m :=
  h.conseq (fun _ h => h.1) (fun _ _ h => h) fun _ _ h => h

/-- As long as the place is claimed, what keeps the claim comes first. -/
theorem KeepsClaimed.bind {α β : Type} {m : OnTrust α} {f : α → OnTrust β} (hm : Keeps RightfulClaim m)
    (hf : ∀ a, KeepsClaimed (f a)) : KeepsClaimed (m >>= f) :=
  Triple.bind (hm.conseq (fun _ h => h) (fun _ _ h => h) fun _ _ h => h.1) hf

theorem Rightful.finishInstall {metadata : List MetadataName} :
    Keeps Rightful (finishInstall family job metadata) := by
  unfold TokenTimer.Agent.finishInstall
  refine Keeps.bind (Keeps.attempt keeps_finalizeReceipt) fun finalized => ?_
  cases finalized with
  | error | ok => exact Keeps.pure

theorem Rightful.concludeInstall {mutation : MutationOutcome} :
    KeepsClaimed (concludeInstall family job mutation) := by
  cases mutation with
  | ok => exact .of_kept Rightful.finishInstall
  | writeFailed => exact .of_keeps Keeps.pure
  | commandFailed =>
    unfold TokenTimer.Agent.concludeInstall
    dsimp only
    by_cases hwindows : family = .windows
    · rw [if_pos hwindows]
      exact .of_keeps Keeps.pure
    · rw [if_neg hwindows]
      unfold overrideInstall
      refine .bind (Keeps.attempt keeps_pause) fun scan => ?_
      cases scan with
      | ok _ => exact .of_kept Rightful.finishInstall
      | error error => exact .of_keeps Keeps.pure

theorem Rightful.install : KeepsClaimed (install family job) := by
  unfold TokenTimer.Agent.install
  refine .bind (Keeps.attempt (keeps_writeIntentReceipt nofun)) fun intent => ?_
  cases intent with
  | error error => exact .of_keeps Keeps.pure
  | ok _ => exact .bind keeps_installAnchor fun _ => Rightful.concludeInstall

theorem claimed_of_inState {existing : Receipt} (hread : existing = .corrupt ∨ host.receipt = existing)
    (hpending : existing.inState .pendingInstall = true) : host.claimed = true := by
  rcases hread with hread | hread
  · rw [hread] at hpending
    cases hpending
  · cases existing with
    | absent | corrupt => cases hpending
    | found row =>
      have hstate : row.state = .pendingInstall := of_decide_eq_true hpending
      show (host.receipt.live || host.observing) = true
      rw [hread, show Receipt.live (.found row) = true from decide_eq_true (by rw [hstate]; nofun),
        Bool.true_or]

theorem Rightful.distributeVerified : Keeps Rightful (distributeVerified family job) := by
  unfold TokenTimer.Agent.distributeVerified
  refine Triple.bind (Q := fun isPresent host => isPresent = true ∧ Rightful host ∨ RightfulClaim host)
    (triple_observe robust_rightful ?_ ?_ fun _ _ h => h) fun isPresent => ?_
  · intro host h
    cases hsees : Observer.sees family .distributing host with
    | true => exact .inl ⟨rfl, hsees ▸ h.sees⟩
    | false => exact .inr ⟨hsees ▸ h.sees, claimed_noted host⟩
  · intro host h
    exact .inr ⟨h.overlooked, claimed_noted (host.overlookedBy .distributing)⟩
  · cases isPresent with
    | false =>
      have hclaimed : KeepsClaimed (readReceipt family >>= fun existing =>
          if false = true ∧ existing.inState .pendingInstall = false then
            pure (preexistingResult existing)
          else TokenTimer.Agent.install family job) := by
        refine .bind (triple_readReceipt robust_rightfulClaim (fun _ h => h) (fun _ h => h) fun _ _ h => h)
          fun existing => ?_
        rw [if_neg nofun]
        exact Rightful.install
      refine hclaimed.conseq ?_ (fun _ _ h => h) fun _ _ h => h
      rintro host (⟨hseen, -⟩ | h)
      · cases hseen
      · exact h
    | true =>
      refine Triple.bind (Q := fun existing host =>
          (existing = .corrupt ∨ host.receipt = existing) ∧ Rightful host)
        ((triple_readReceipt robust_rightful (fun _ h => ⟨.inr rfl, h⟩) (fun _ h => ⟨.inl rfl, h⟩)
          fun _ _ h => h).conseq ?_ (fun _ _ h => h) fun _ _ h => h) fun existing => ?_
      · rintro host (⟨-, h⟩ | h)
        · exact h
        · exact h.1
      · refine Triple.ite (fun _ => Triple.pure fun _ h => h.2) fun hpending => ?_
        have hpending : existing.inState .pendingInstall = true := by
          cases hstate : existing.inState .pendingInstall with
          | true => rfl
          | false => exact absurd ⟨rfl, hstate⟩ hpending
        refine Rightful.install.conseq ?_ (fun _ _ h => h) fun _ _ h => h
        rintro host ⟨hread, h⟩
        exact ⟨h, claimed_of_inState hread hpending⟩

theorem keeps_ofExcept {α : Type} {check : Except TrustError α} {I : TrustHost → Prop} :
    Keeps I (ofExcept check) := triple_ofExcept (fun _ _ _ h => h) fun _ _ h => h

theorem Rightful.distributeTrust : Keeps Rightful (distributeTrust family job) := by
  unfold TokenTimer.Agent.distributeTrust
  refine Keeps.bind keeps_ofExcept fun _ => ?_
  cases job.verification with
  | some failureCategory => exact Keeps.pure
  | none => exact Rightful.distributeVerified

/-! ## §6. `revokeTrust`. -/

theorem keeps_reclaim : Keeps RightfulClaim (reclaim family job row) :=
  Keeps.ite Keeps.pure (keeps_writeIntentReceipt nofun)

theorem keepsClaimed_finalize {conclude : Except TrustError ReceiptRow → OnTrust TrustResult}
    (h : ∀ finalized, Keeps Rightful (conclude finalized)) :
    KeepsClaimed (attempt (finalizeReceipt family jobId transitionGeneration) >>= conclude) :=
  .of_kept (Keeps.bind (Keeps.attempt keeps_finalizeReceipt) h)

theorem Rightful.retryRefresh : KeepsClaimed (retryRefresh family job row) := by
  unfold TokenTimer.Agent.retryRefresh
  refine .bind (Keeps.attempt keeps_reclaim) fun intent => ?_
  cases intent with
  | error error => exact .of_keeps Keeps.pure
  | ok intent =>
    refine .bind keeps_removeAnchor fun mutation => ?_
    refine Triple.ite (fun _ => KeepsClaimed.of_keeps Keeps.pure) fun _ =>
      keepsClaimed_finalize fun finalized => ?_
    cases finalized with
    | error | ok => exact Keeps.pure

theorem Rightful.finishAbsent : KeepsClaimed (finishAbsent family job row) := by
  unfold TokenTimer.Agent.finishAbsent
  refine .bind (Keeps.attempt keeps_reclaim) fun intent => ?_
  cases intent with
  | error error => exact .of_keeps Keeps.pure
  | ok intent =>
    refine keepsClaimed_finalize fun finalized => ?_
    cases finalized with
    | error | ok => exact Keeps.pure

theorem Rightful.removePresent : KeepsClaimed (removePresent family job) := by
  unfold TokenTimer.Agent.removePresent
  refine .bind (Keeps.attempt (keeps_writeIntentReceipt nofun)) fun intent => ?_
  cases intent with
  | error error => exact .of_keeps Keeps.pure
  | ok intent =>
    refine .bind keeps_removeAnchor fun mutation => ?_
    refine Triple.ite (fun _ => KeepsClaimed.of_keeps Keeps.pure) fun _ =>
      keepsClaimed_finalize fun finalized => ?_
    cases finalized with
    | error | ok => exact Keeps.pure

theorem Rightful.removeOwned : KeepsClaimed (removeOwned family job row) := by
  unfold TokenTimer.Agent.removeOwned
  refine .bind keeps_observe fun isPresent => ?_
  refine Triple.ite (fun _ => Rightful.removePresent) fun _ => ?_
  exact Triple.ite (fun _ => Rightful.retryRefresh) fun _ => Rightful.finishAbsent

theorem claimed_of_found (hreceipt : host.receipt = .found row) (hstate : row.state ≠ .removed) :
    host.claimed = true := by
  show (host.receipt.live || host.observing) = true
  rw [hreceipt, show Receipt.live (.found row) = true from decide_eq_true hstate, Bool.true_or]

/-- The receipt the revocation has read. -/
def RightfulRow (row : ReceiptRow) (host : TrustHost) : Prop := host.receipt = .found row ∧ Rightful host

theorem RightfulRow.claimed (h : RightfulRow row host) (hstate : row.state ≠ .removed) : RightfulClaim host :=
  ⟨h.2, claimed_of_found h.1 hstate⟩

theorem robust_rightfulRow : Robust family (RightfulRow row) := (robust_receipt _).and robust_rightful

theorem Rightful.unstrand (hstate : row.state = .pendingInstall) :
    Triple (RightfulRow row) (unstrand family row) (fun _ => RightfulClaim) (fun _ => Rightful) := by
  have hclaimed : ∀ host, RightfulRow row host → RightfulClaim host := fun _ h =>
    h.claimed (by rw [hstate]; nofun)
  have hfinal : Triple (RightfulRow row) (finalizeReceipt family row.jobId row.transitionGeneration)
      (fun _ => RightfulClaim) (fun _ => RightfulClaim) := by
    refine triple_finalizeReceipt robust_rightfulRow (fun _ => robust_rightfulClaim) ?_ (fun _ => hclaimed)
      fun _ _ _ h => h
    intro host found nextState h hfound hnext
    injection h.1.symm.trans hfound with hrow
    rw [← hrow, hstate] at hnext
    injection hnext with hnext
    exact ⟨h.2.of_eq rfl (fun _ => (hclaimed host h).2) rfl,
      claimed_of_live (decide_eq_true (by rw [← hnext]; nofun))⟩
  unfold TokenTimer.Agent.unstrand
  refine Triple.bind (Q := fun _ => RightfulClaim)
    (Triple.attempt (hfinal.conseq (fun _ h => h) (fun _ _ h => h) ?_)) fun finalized => ?_
  · intro stop host h
    cases stop with
    | thrown error => exact h
    | crashed => exact h.1
  · cases finalized with
    | ok | error => exact Triple.pure fun _ h => h

/-- The claim holds as the receipt is settled. -/
theorem Rightful.settleStranded : Triple (RightfulRow row) (settleStranded family row)
    (fun settled host => (settled.state ≠ .removed → host.claimed = true) ∧ Rightful host)
    (fun _ => Rightful) := by
  unfold TokenTimer.Agent.settleStranded
  refine Triple.ite (fun hstate => ?_) fun _ =>
    Triple.pure fun _ h => ⟨fun hlive => (h.claimed hlive).2, h.2⟩
  refine Triple.bind (Q := fun _ => RightfulRow row) (triple_observe robust_rightfulRow
    (fun _ h => ⟨h.1, h.2.sees⟩) (fun _ h => ⟨h.1, h.2.overlooked⟩) fun _ _ h => h.2) fun present => ?_
  unfold unstrandIf
  refine Triple.ite (fun _ => ?_) fun _ => ?_
  · exact (Rightful.unstrand hstate).conseq (fun _ h => h) (fun _ _ h => ⟨fun _ => h.2, h.1⟩) fun _ _ h => h
  · exact Triple.pure fun _ h => ⟨fun hlive => (h.claimed hlive).2, h.2⟩

theorem Rightful.revokeWith {existing : Receipt} :
    Triple (fun host => (existing = .corrupt ∨ host.receipt = existing) ∧ Rightful host)
      (revokeWith family job existing) (fun _ => Rightful) (fun _ => Rightful) := by
  cases existing with
  | absent | corrupt => exact Triple.pure fun _ h => h.2
  | found row =>
    refine Triple.bind (Rightful.settleStranded.conseq ?_ (fun _ _ h => h) fun _ _ h => h) fun settled => ?_
    · rintro host ⟨hread, h⟩
      exact ⟨hread.resolve_left nofun, h⟩
    · have hlive : settled.state ≠ .removed → Triple
          (fun host => (settled.state ≠ .removed → host.claimed = true) ∧ Rightful host)
          (TokenTimer.Agent.removeOwned family job settled) (fun _ => Rightful) (fun _ => Rightful) := fun hstate =>
        Rightful.removeOwned.conseq (fun _ h => ⟨h.2, h.1 hstate⟩) (fun _ _ h => h) fun _ _ h => h
      unfold revokeByRow
      cases hstate : settled.state with
      | pendingInstall | removed => exact Triple.pure fun _ h => h.2
      | installed | pendingRemove =>
        rw [hstate] at hlive
        exact hlive nofun

theorem Rightful.revokeTrust : Keeps Rightful (revokeTrust family job) := by
  unfold TokenTimer.Agent.revokeTrust
  refine Keeps.bind keeps_ofExcept fun _ => Keeps.ite Keeps.pure ?_
  exact Triple.bind (triple_readReceipt robust_rightful (fun _ h => ⟨.inr rfl, h⟩) (fun _ h => ⟨.inl rfl, h⟩)
    fun _ _ h => h) fun existing => Rightful.revokeWith

/-! ## §7. The host over its life. -/

theorem Rightful.of_fresh (h : host.Fresh) : Rightful host := by
  obtain ⟨hreceipt, hobserving, hhistory, hanchor⟩ := h
  intro _
  constructor
  · intro hclaim
    have hclaim : (host.receipt.live || host.observing) = true := hclaim
    rw [hreceipt, hobserving] at hclaim
    cases hclaim
  · intro anchor ha htorn
    rw [hanchor anchor ha] at htorn
    cases htorn
  · intro owner hdeleted
    rw [hhistory] at hdeleted
    cases hdeleted

theorem Rightful.after {call : TrustCall} {script : List (Fault TrustError)} (h : Rightful host) :
    Rightful (host.after family call script) := by
  have hrun : Rightful (exec (call.program family) script host).2 := by
    cases call with
    | distribute job => exact Rightful.distributeTrust.exec h
    | revoke job => exact Rightful.revokeTrust.exec h
  refine hrun.of_eq rfl (fun hclaim => ?_) rfl
  have hlive : ((exec (call.program family) script host).2.receipt.live || false) = true := hclaim
  rw [Bool.or_false] at hlive
  show (Receipt.live _ || _) = true
  rw [hlive, Bool.true_or]

theorem rightful_of_reachable (h : Reachable (trustSystem family) anyStep host) : Rightful host := by
  refine Reachable.invariant (fun _ h => Rightful.of_fresh h) ?_ h
  rintro host call host' hrightful - rfl
  exact hrightful.after

/-! ## §8. A claimed place of another's, revoked. -/

section Undisturbed

variable {jobId : String} {transitionGeneration : Nat} {intentState : ReceiptState}

/-- With nobody meanwhile and nothing failing, an operation is its function. -/
theorem returns_act {α : Type} {f : TrustHost → Except TrustError (α × TrustHost)} {a : α}
    {host' : TrustHost} (hothers : host.others = []) (h : f host = .ok (a, host')) :
    Returns (act family f) host a host' := by
  have hinterfered : host.interfered family = host := by
    unfold TrustHost.interfered
    rw [hothers]
  unfold act
  have hnoted : Returns (note (TrustHost.interfered family) : OnTrust Unit) host () host := by
    unfold Returns note
    dsimp only
    rw [hinterfered]
  exact Returns.bind hnoted (Returns.op h)

theorem returns_readReceipt (hothers : host.others = []) :
    Returns (readReceipt family) host host.receipt host :=
  Returns.bind (Returns.attempt (returns_act hothers rfl)) Returns.pure

theorem returns_writeRow (hothers : host.others = []) :
    Returns (writeRow family row) host () { host with receipt := .found row } := by
  unfold writeRow
  have hrenamed : { host with receipt := .found row }.others = [] := hothers
  exact Returns.bind (returns_act hothers rfl) (Returns.bind (returns_act hothers rfl)
    (returns_act hrenamed rfl))

theorem validateReceiptRow_ok (row : ReceiptRow) (hid : isReceiptJobId row.jobId = true)
    (hgeneration : 1 ≤ row.transitionGeneration) : validateReceiptRow row = .ok row :=
  if_pos ⟨hid, hgeneration⟩

theorem returns_writeIntentReceipt (hothers : host.others = []) (hid : isReceiptJobId jobId = true)
    (hgeneration : 1 ≤ transitionGeneration) :
    Returns (writeIntentReceipt family jobId transitionGeneration intentState true) host
      ⟨jobId, transitionGeneration, intentState⟩
      { host with receipt := .found ⟨jobId, transitionGeneration, intentState⟩ } := by
  have hpending : checkPending host.receipt jobId transitionGeneration true = .ok () := by
    unfold checkPending
    cases host.receipt with
    | found row => exact if_neg fun h => nomatch h.2.2
    | absent | corrupt => rfl
  unfold writeIntentReceipt
  refine Returns.bind (returns_readReceipt hothers) ?_
  rw [hpending, validateReceiptRow_ok ⟨jobId, transitionGeneration, intentState⟩ hid hgeneration]
  exact Returns.bind Returns.pure (Returns.bind Returns.pure
    (Returns.bind (returns_writeRow hothers) Returns.pure))

theorem returns_finalizeReceipt (family : Family) (row : ReceiptRow) {nextState : ReceiptState}
    (hothers : host.others = [])
    (hreceipt : host.receipt = .found row) (hid : isReceiptJobId row.jobId = true)
    (hgeneration : 1 ≤ row.transitionGeneration) (hstate : row.state.finalized = some nextState) :
    Returns (finalizeReceipt family row.jobId row.transitionGeneration) host
      { row with state := nextState } { host with receipt := .found { row with state := nextState } } := by
  have hfinal : finalizedRow host.receipt row.jobId row.transitionGeneration =
      .ok { row with state := nextState } := by
    unfold finalizedRow
    rw [hreceipt]
    dsimp only
    rw [if_neg (by rintro (h | h) <;> exact h rfl), hstate]
    exact validateReceiptRow_ok { row with state := nextState } hid hgeneration
  unfold finalizeReceipt
  refine Returns.bind (returns_readReceipt hothers) ?_
  rw [hfinal]
  exact Returns.bind Returns.pure (Returns.bind (returns_writeRow hothers) Returns.pure)

/-- A revocation looks at its own place. -/
theorem returns_observe {observer : Observer} (hothers : host.others = [])
    (hdistributing : observer ≠ .distributing) :
    Returns (observe family observer) host (host.visible family) host := by
  have hsees : observer.sees family host = host.visible family := by
    unfold Observer.sees
    rw [decide_eq_false hdistributing, Bool.and_false, Bool.false_and, Bool.or_false]
  have hnoted : observer.noted (host.visible family) host = host := by
    unfold Observer.noted
    rw [decide_eq_false hdistributing, Bool.false_and, Bool.or_false]
  unfold observe
  refine Returns.bind (Returns.attempt (returns_act hothers rfl)) ?_
  rw [hsees, hnoted]
  exact Returns.pure

theorem visible_of_intact (family : Family) {anchor : Anchor} (hanchor : host.anchor = some anchor)
    (hintact : anchor.intact = true) : host.visible family = true := by
  unfold TrustHost.visible
  rw [hanchor]
  show (_ || anchor.intact) = true
  rw [hintact, Bool.or_true]

theorem returns_removeAnchor (family : Family) {anchor : Anchor} (hothers : host.others = [])
    (hanchor : host.anchor = some anchor) :
    ∃ host', Returns (removeAnchor family) host .ok host' ∧ host'.receipt = host.receipt ∧
      host'.others = [] ∧ TrustEvent.deleted anchor.owner ∈ host'.history := by
  have hlast : TrustEvent.deleted anchor.owner ∈ host.history ++ [.deleted anchor.owner] :=
    List.mem_append_right _ List.mem_cons_self
  have hunlinked : host.unlinked =
      { host.record (.deleted anchor.owner) with anchor := none, refreshed := false } := by
    unfold TrustHost.unlinked
    rw [hanchor]
  have hunlink : host.unlinked.others = [] := by
    rw [hunlinked]
    exact hothers
  have hlinux : ∀ family, Returns (removeLinuxAnchorFile family) host .ok
      { host.unlinked with refreshed := host.unlinked.anchor.isNone } := fun family =>
    Returns.bind (Returns.attempt (Returns.bind (returns_act hothers rfl)
      (returns_act hunlink rfl))) Returns.pure
  cases family with
  | windows =>
    refine ⟨{ host.record (.deleted anchor.owner) with anchor := none }, ?_, rfl, hothers, hlast⟩
    have hdelstore : host.delstore =
        .ok ((), { host.record (.deleted anchor.owner) with anchor := none }) := by
      unfold TrustHost.delstore
      rw [hanchor]
    exact Returns.bind (Returns.attempt (Returns.bind (returns_act hothers hdelstore)
      (returns_act hothers rfl))) Returns.pure
  | debian =>
    refine ⟨_, hlinux .debian, ?_, hunlink, ?_⟩
    · rw [hunlinked]
      rfl
    · rw [hunlinked]
      exact hlast
  | rhel =>
    refine ⟨_, hlinux .rhel, ?_, hunlink, ?_⟩
    · rw [hunlinked]
      rfl
    · rw [hunlinked]
      exact hlast

theorem returns_removePresent (family : Family) {anchor : Anchor} (hothers : host.others = [])
    (hanchor : host.anchor = some anchor) (hid : isReceiptJobId job.jobId = true)
    (hgeneration : 1 ≤ job.transitionGeneration) :
    ∃ result host', Returns (removePresent family job) host result host' ∧
      TrustEvent.deleted anchor.owner ∈ host'.history := by
  obtain ⟨host', hremoved, hreceipt, hothers', hdeleted⟩ := @returns_removeAnchor
    { host with receipt := .found ⟨job.jobId, job.transitionGeneration, .pendingRemove⟩ } family anchor
    hothers hanchor
  have hfinal := returns_finalizeReceipt family ⟨job.jobId, job.transitionGeneration, .pendingRemove⟩
    hothers' hreceipt hid hgeneration rfl
  refine ⟨⟨true, false, .removed, true, true, .finalized, none, freshFallbackWarning family job⟩,
    { host' with receipt := .found ⟨job.jobId, job.transitionGeneration, .removed⟩ }, ?_, hdeleted⟩
  unfold removePresent
  refine Returns.bind (Returns.attempt (returns_writeIntentReceipt hothers hid hgeneration)) ?_
  dsimp only
  refine Returns.bind hremoved ?_
  rw [if_neg (fun h => h rfl)]
  refine Returns.bind (Returns.attempt hfinal) ?_
  exact Returns.pure

/-- A revocation that sees the certificate removes it. -/
theorem returns_removeOwned (family : Family) (row : ReceiptRow) {anchor : Anchor} (hothers : host.others = [])
    (hanchor : host.anchor = some anchor) (hintact : anchor.intact = true)
    (hid : isReceiptJobId job.jobId = true) (hgeneration : 1 ≤ job.transitionGeneration) :
    ∃ result host', Returns (removeOwned family job row) host result host' ∧
      TrustEvent.deleted anchor.owner ∈ host'.history := by
  obtain ⟨result, host', hrun, hdeleted⟩ :=
    returns_removePresent family hothers hanchor hid hgeneration
  have hvisible := visible_of_intact family hanchor hintact
  refine ⟨result, host', Returns.bind (returns_observe hothers nofun) ?_, hdeleted⟩
  rw [hvisible]
  exact hrun

theorem returns_revokeTrust (family : Family) {anchor : Anchor} (hothers : host.others = [])
    (hanchor : host.anchor = some anchor) (hintact : anchor.intact = true)
    (hreceipt : host.receipt = .found row) (hlive : row.state ≠ .removed)
    (hrow : validateReceiptRow row = .ok row) (hvalid : job.fingerprintValid = true)
    (hid : isReceiptJobId job.jobId = true) (hgeneration : 1 ≤ job.transitionGeneration) :
    ∃ result host', Returns (revokeTrust family job) host result host' ∧
      TrustEvent.deleted anchor.owner ∈ host'.history := by
  -- After the stranded intent is finalized the receipt reads `installed`.
  have hsettled : ∃ settled host', Returns (settleStranded family row) host settled host' ∧
      host'.others = [] ∧ host'.anchor = some anchor ∧
      (settled.state = .installed ∨ settled.state = .pendingRemove) := by
    unfold settleStranded
    by_cases hstate : row.state = .pendingInstall
    · rw [if_pos hstate]
      unfold validateReceiptRow at hrow
      split at hrow
      · rename_i hparts
        have hfinal := returns_finalizeReceipt family row hothers hreceipt hparts.1 hparts.2
          (show row.state.finalized = some .installed by rw [hstate]; rfl)
        refine ⟨{ row with state := .installed },
          { host with receipt := .found { row with state := .installed } },
          Returns.bind (returns_observe hothers nofun) ?_, hothers, hanchor, .inl rfl⟩
        rw [visible_of_intact family hanchor hintact]
        refine Returns.bind (Returns.attempt hfinal) ?_
        exact Returns.pure
      · cases hrow
    · rw [if_neg hstate]
      refine ⟨row, host, Returns.pure, hothers, hanchor, ?_⟩
      revert hstate hlive
      cases row.state <;> simp
  obtain ⟨settled, host₁, hsettle, hothers₁, hanchor₁, hstate⟩ := hsettled
  obtain ⟨result, host', hremove, hdeleted⟩ := returns_removeOwned family settled
    hothers₁ hanchor₁ hintact hid hgeneration
  refine ⟨result, host', ?_, hdeleted⟩
  have hbyRow : revokeByRow family job settled = removeOwned family job settled := by
    unfold revokeByRow
    rcases hstate with hstate | hstate
    · rw [hstate]
    · rw [hstate]
  have hchecked : requireTransitionGeneration job = .ok () := if_neg (Nat.not_lt.mpr hgeneration)
  unfold revokeTrust
  rw [hchecked, hvalid]
  refine Returns.bind Returns.pure ?_
  rw [if_neg nofun]
  refine Returns.bind (returns_readReceipt hothers) ?_
  rw [hreceipt]
  refine Returns.bind hsettle ?_
  rw [hbyRow]
  exact hremove

end Undisturbed

/-! ## §9. Deletions. -/

/-- **THE AGENT DELETES WHAT IT INSTALLED**: in runs where nobody's certificate
    comes under a claim, each deletion is of the agent's own entry; a certificate
    that did is deleted by the next revocation. -/
theorem revoke_deletes_own (family : Family) :
    (∀ host, Reachable (trustSystem family) anyStep host → host.Undisturbed →
      ∀ owner, TrustEvent.deleted owner ∈ host.history → owner = .agent) ∧
    ∀ (host : TrustHost) (row : ReceiptRow) (job : TrustJob),
      host.anchor = some ⟨true, .other⟩ → host.others = [] →
      host.receipt = .found row → row.state ≠ .removed → validateReceiptRow row = .ok row →
      job.fingerprintValid = true → isReceiptJobId job.jobId = true → 1 ≤ job.transitionGeneration →
      TrustEvent.deleted .other ∈ (host.after family (.revoke job) []).history := by
  constructor
  · intro host hreach hcalm
    exact (rightful_of_reachable hreach hcalm).deleted
  · intro host row job hanchor hothers hreceipt hlive hrow hvalid hid hgeneration
    obtain ⟨result, host', hrun, hdeleted⟩ := returns_revokeTrust family hothers hanchor
      rfl hreceipt hlive hrow hvalid hid hgeneration
    have hexec : exec (TrustCall.program family (.revoke job)) [] host = (.ok result, host') := hrun.exec
    unfold TrustHost.after
    rw [hexec]
    exact hdeleted

/-- A distribution and a revocation of it. -/
def demoTrustJob (transitionGeneration : Nat) : TrustJob :=
  ⟨"job-" ++ toString transitionGeneration, transitionGeneration, none, true, true⟩

def demoTrustHost (others : List (List OtherAction)) : TrustHost :=
  ⟨none, false, false, .absent, false, others, []⟩

/-- What the distribution leaves, cut short where the script says so. -/
def demoDistributed (others : List (List OtherAction)) (script : List (Fault TrustError)) : TrustHost :=
  (demoTrustHost others).after .windows (.distribute (demoTrustJob 1)) script

def demoRevoked (others : List (List OtherAction)) (script : List (Fault TrustError)) : TrustHost :=
  (demoDistributed others script).after .windows (.revoke (demoTrustJob 2)) []

theorem reachable_demoDistributed (others : List (List OtherAction)) (script : List (Fault TrustError)) :
    Reachable (trustSystem .windows) anyStep (demoDistributed others script) := by
  have hfresh : (trustSystem .windows).init (demoTrustHost others) := ⟨rfl, rfl, rfl, nofun⟩
  exact (Reachable.of_init hfresh).step (a := (.distribute (demoTrustJob 1), script)) trivial rfl

theorem reachable_demoRevoked (others : List (List OtherAction)) (script : List (Fault TrustError)) :
    Reachable (trustSystem .windows) anyStep (demoRevoked others script) :=
  (reachable_demoDistributed others script).step (a := (.revoke (demoTrustJob 2), [])) trivial rfl

/-- The agent's own certificate, installed and removed; and one of another's
    under an intent that was stranded. -/
theorem revoke_deletes_own_demo :
    (∀ owner, TrustEvent.deleted owner ∈ (demoRevoked [] []).history → owner = .agent) ∧
      TrustEvent.deleted .agent ∈ (demoRevoked [] []).history ∧
      TrustEvent.deleted .other ∈
        ({ demoTrustHost [] with
            anchor := some ⟨true, .other⟩
            receipt := .found ⟨"job-1", 1, .pendingInstall⟩ }.after .debian
          (.revoke (demoTrustJob 2)) []).history := by
  have hhistory : (demoRevoked [] []).history = [.deleted .agent] := by decide +kernel
  refine ⟨(revoke_deletes_own .windows).1 _ (reachable_demoRevoked [] []) ?_, ?_,
    (revoke_deletes_own .debian).2 _ ⟨"job-1", 1, .pendingInstall⟩ (demoTrustJob 2) rfl rfl rfl nofun
      (by decide +kernel) rfl (by decide +kernel) (by decide)⟩
  · intro event hevent
    rw [hhistory, List.mem_singleton] at hevent
    subst hevent
    trivial
  · rw [hhistory]
    exact List.mem_cons_self

/-- Death after the intent, before the certificate is added. -/
def demoStranding : List (Fault TrustError) := [.pass, .pass, .pass, .pass, .pass, .pass, .crash]

/-- Another administrator adds the certificate before the agent works again. -/
def demoJoining : List (List OtherAction) := [[], [], [], [], [], [], [], [.put]]

/-- **A CERTIFICATE OF ANOTHER'S DELETED**: the distribution dies after its
    intent, an administrator adds the certificate, and the revocation takes the
    stranded intent for an installation. -/
theorem revoke_deletes_foreign :
    ¬ ∀ host, Reachable (trustSystem .windows) anyStep host →
      ∀ owner, TrustEvent.deleted owner ∈ host.history → owner = .agent := by
  intro hown
  have hdeleted : TrustEvent.deleted .other ∈ (demoRevoked demoJoining demoStranding).history := by
    decide +kernel
  exact nomatch hown _ (reachable_demoRevoked demoJoining demoStranding) .other hdeleted

end TokenTimer.Agent
