/-
  TokenTimer.Agent.RetentionSafety — when the retention sweep may delete a superseded
  certificate.

  A row of the ledger holds the cutover of the FIRST supersession of its certificate:
  `recordSupersededWindowsCertificate` leaves an existing row alone, whatever supersession it
  is called for.  So the retention time runs from the first cutover, also for a certificate
  that two bindings shared or that was bound and superseded again.

  Main results:
    * `cleanup_after_retention` — in every run without such a second supersession, and in
        which no other program binds a certificate under a sweep,
        each cleanup came after the whole retention time, and each
        removed row was cleaned up.
-/

import TokenTimer.Agent.Retention

namespace TokenTimer.WindowsRetention

open Lib.Runs Lib.Table

variable {cfg : Config} {s t : State} {row : Row} {g : Gathered}

/-! ## §1. The property, and the condition on a history. -/

/-- The retention time in milliseconds. -/
def Config.retentionMs (cfg : Config) : Nat := cfg.retentionHours * 60 * 60 * 1000

/-- When the cleanup was called no binding referenced the certificate, the agent had
    installed it, and the retention time had passed since its last cutover, or it had
    expired. -/
structure Retained (cfg : Config) (c : Cleanup) : Prop where
  unbound : references c.bindings c.thumbprint = false
  installed : c.thumbprint ∈ c.accepted
  elapsed : (∀ o ∈ c.cutovers, o.oldThumbprint = c.thumbprint →
      o.completedAt + cfg.retentionMs ≤ c.calledAt) ∨
    cfg.notAfter c.thumbprint + CLOCK_SKEW_GRACE_SECONDS * 1000 ≤ c.calledAt

/-- Every cleanup came in time, and every removed row was cleaned up. -/
structure Kept (cfg : Config) (s : State) : Prop where
  cleanups : ∀ c ∈ s.cleanups, Retained cfg c
  removed : ∀ row ∈ s.ledger, row.lifecycleState = .removed →
    ∃ c ∈ s.cleanups, c.thumbprint = row.oldThumbprint ∧ c.succeeded = true

def Row.cleanable (row : Row) : Bool :=
  row.lifecycleState ≠ .removed && row.ownershipProvenance = .tokentimerInstalled

/-- A cutover leaves no certificate that already has an open row, and no other program binds
    the certificate of a sweep that found it unbound. -/
def FirstSupersession (s : State) : Event → Prop
  | .cutover bindingId _ =>
    (selectOne (fun b => b.id = bindingId) s.bindings).all (fun b =>
      s.ledger.all fun row => !(row.cleanable && row.oldThumbprint = b.thumbprint)) = true
  | .setBindings bindings =>
    s.sweeping.all (fun g => g.bindingStillReferencesOldThumbprint ||
      !references bindings g.row.oldThumbprint) = true
  | _ => True

instance (s : State) (e : Event) : Decidable (FirstSupersession s e) := by
  cases e <;> unfold FirstSupersession <;> infer_instance

/-! ## §2. What holds of the ledger. -/

/-- What an open row says of its certificate. -/
structure Sound (cfg : Config) (s : State) (row : Row) : Prop where
  accepted : row.oldThumbprint ∈ s.accepted
  validity : row.oldNotAfter = cfg.notAfter row.oldThumbprint
  last : ∀ c ∈ s.cutovers, c.oldThumbprint = row.oldThumbprint → c.completedAt ≤ row.verifiedCutoverAt

/-- The records of the agent are true. -/
structure Records (cfg : Config) (s : State) : Prop where
  keys : KeyNodup Row.oldThumbprint s.ledger
  rows : ∀ row ∈ s.ledger, row.cleanable = true → Sound cfg s row
  issued : ∀ r ∈ s.issued, ∀ thumbprint, r.acceptedThumbprint = some thumbprint → thumbprint ∈ s.accepted
  past : ∀ c ∈ s.cutovers, c.completedAt ≤ s.now
  gathered : ∀ g, s.sweeping = some g → g.row.lifecycleState ≠ .removed ∧
    (g.row.cleanable = true → Sound cfg s g.row) ∧
    (g.bindingStillReferencesOldThumbprint = false → references s.bindings g.row.oldThumbprint = false)

theorem Records.init (h : Init s) : Records cfg s where
  keys := by
    rw [h.ledger]
    exact List.nodup_nil
  rows := by simp [h.ledger]
  issued := by simp [h.issued]
  past := by simp [h.cutovers]
  gathered := by simp [h.sweeping]

theorem Kept.init (h : Init s) : Kept cfg s where
  cleanups := by simp [h.cleanups]
  removed := by simp [h.ledger]

theorem Sound.mono (h : Sound cfg s row) (haccepted : s.accepted ⊆ t.accepted)
    (hcutovers : t.cutovers = s.cutovers) : Sound cfg t row where
  accepted := haccepted h.accepted
  validity := h.validity
  last := hcutovers ▸ h.last

/-- A state with the same ledger, cutovers and sweep, and no fewer acceptances. -/
theorem Records.mono (h : Records cfg s) (hledger : t.ledger = s.ledger)
    (hcutovers : t.cutovers = s.cutovers) (hsweeping : t.sweeping = s.sweeping)
    (hbindings : t.bindings = s.bindings) (hnow : s.now ≤ t.now) (haccepted : s.accepted ⊆ t.accepted)
    (hissued : ∀ r ∈ t.issued, ∀ thumbprint, r.acceptedThumbprint = some thumbprint →
      thumbprint ∈ t.accepted) : Records cfg t where
  keys := hledger ▸ h.keys
  rows := by
    rw [hledger]
    intro row hrow hopen
    exact (h.rows row hrow hopen).mono haccepted hcutovers
  issued := hissued
  past := by
    rw [hcutovers]
    intro c hc
    exact (h.past c hc).trans hnow
  gathered := by
    rw [hsweeping, hbindings]
    intro g hg
    obtain ⟨hstate, hsound, hbound⟩ := h.gathered g hg
    exact ⟨hstate, fun hopen => (hsound hopen).mono haccepted hcutovers, hbound⟩

/-! ## §3. Each event keeps the records. -/

variable {ledger : List Row} {thumbprint : Nat} {listing : Option (List StoreCertificate)}

theorem readLedgerRow_some (h : readLedgerRow ledger thumbprint = some row) :
    row ∈ ledger ∧ row.oldThumbprint = thumbprint := by
  have hrow := selectOne_some h
  exact ⟨hrow.1, of_decide_eq_true hrow.2⟩

theorem readLedgerRow_none (h : readLedgerRow ledger thumbprint = none) :
    ∀ row ∈ ledger, row.oldThumbprint ≠ thumbprint := by
  intro row hrow
  exact of_decide_eq_false (selectOne_none.mp h row hrow)

variable {name jobId store placeholder : String} {oldThumbprint replacement : Nat}

theorem mem_markIssuedContainerAccepted {issued : List IssuedRecord} {r : IssuedRecord}
    (h : r ∈ markIssuedContainerAccepted name thumbprint issued) :
    r ∈ issued ∨ r.acceptedThumbprint = some thumbprint := by
  obtain ⟨x, hx, heq⟩ := mem_updateWhere.mp h
  split at heq
  · right
    rw [← heq]
  · left
    exact heq ▸ hx

/-- A proof of installation is a certificate the agent accepted, with its validity. -/
theorem provenConfidently_some (hs : Records cfg s) (htruthful : truthful cfg listing = true)
    (h : provenConfidently s.issued thumbprint (listing.bind (selectOne fun c => c.thumbprint = thumbprint)) = some name) :
    thumbprint ∈ s.accepted ∧
    ((listing.bind (selectOne fun c => c.thumbprint = thumbprint)).bind (·.notAfter)) =
      some (cfg.notAfter thumbprint) := by
  unfold provenConfidently at h
  obtain ⟨hname, hproof⟩ := Option.filter_eq_some_iff.mp h
  obtain ⟨c, hc, -⟩ := Option.bind_eq_some_iff.mp hname
  simp only [Bool.and_eq_true, Option.any_eq_true] at hproof
  obtain ⟨-, r, hr, -, haccepted⟩ := hproof
  refine ⟨hs.issued r (selectOne_some hr).1 thumbprint (of_decide_eq_true haccepted), ?_⟩
  rw [hc, Option.bind_some]
  obtain ⟨certificates, hlisting, hselect⟩ := Option.bind_eq_some_iff.mp hc
  obtain ⟨hmem, hthumbprint⟩ := selectOne_some hselect
  subst hlisting
  have hvalid := List.all_eq_true.mp htruthful c hmem
  rw [of_decide_eq_true hvalid, of_decide_eq_true hthumbprint]

theorem Records.recordSuperseded (hs : Records cfg s) (htruthful : truthful cfg listing = true) :
    Records cfg (recordSupersededWindowsCertificate jobId store oldThumbprint replacement listing
      placeholder s) := by
  unfold recordSupersededWindowsCertificate
  split
  · exact hs
  · rename_i hnone
    dsimp only
    refine ⟨?_, ?_, hs.issued, hs.past, ?_⟩
    · exact keyNodup_append_singleton hs.keys fun row hrow => readLedgerRow_none hnone row hrow
    · intro row hrow hopen
      rw [List.mem_append, List.mem_singleton] at hrow
      obtain hrow | rfl := hrow
      · exact (hs.rows row hrow hopen).mono (List.Subset.refl _) rfl
      · -- an open row: the listing proved who installed the certificate
        cases hproof : provenConfidently s.issued oldThumbprint
            (listing.bind (selectOne fun c => c.thumbprint = oldThumbprint)) with
        | none => simp [Row.cleanable, hproof] at hopen
        | some name =>
          obtain ⟨haccepted, hvalidity⟩ := provenConfidently_some hs htruthful hproof
          refine ⟨haccepted, ?_, fun c hc _ => hs.past c hc⟩
          show Option.getD _ s.now = _
          rw [hvalidity]
          rfl
    · intro g hg
      obtain ⟨hstate, hsound, hbound⟩ := hs.gathered g hg
      exact ⟨hstate, fun hopen => (hsound hopen).mono (List.Subset.refl _) rfl, hbound⟩

theorem Records.cutover {bindingId : Nat} (hs : Records cfg s)
    (hok : FirstSupersession s (.cutover bindingId thumbprint))
    (h : cutover bindingId thumbprint s = some t) : Records cfg t := by
  unfold WindowsRetention.cutover at h
  split at h
  · cases h
  rename_i b hb
  split at h
  · cases h
  rename_i hfree
  cases h
  have hidle : s.sweeping = none := by
    cases hsweeping : s.sweeping with
    | none => rfl
    | some g => simp [hsweeping] at hfree
  refine ⟨hs.keys, ?_, hs.issued, ?_, ?_⟩
  · intro row hrow hopen
    obtain ⟨haccepted, hvalidity, hlast⟩ := hs.rows row hrow hopen
    refine ⟨haccepted, hvalidity, ?_⟩
    intro c hc hold
    rw [List.mem_append, List.mem_singleton] at hc
    obtain hc | rfl := hc
    · exact hlast c hc hold
    · -- the condition: the outgoing certificate has no open row
      have hclosed : (s.ledger.all fun row => !(row.cleanable && row.oldThumbprint = b.thumbprint)) = true := by
        simpa only [FirstSupersession, hb, Option.all_some] using hok
      have hrow' := List.all_eq_true.mp hclosed row hrow
      simp [hopen, ← hold] at hrow'
  · intro c hc
    rw [List.mem_append, List.mem_singleton] at hc
    obtain hc | rfl := hc
    · exact hs.past c hc
    · exact le_rfl
  · intro g hg
    rw [show s.sweeping = some g from hg] at hidle
    cases hidle

theorem mem_writeLedgerRow {new : Row} (h : row ∈ writeLedgerRow new ledger) :
    row ∈ ledger ∨ row = new := by
  obtain ⟨hrow, -⟩ | ⟨hrow, -⟩ := mem_replaceByKey.mp h
  · exact .inl hrow
  · exact .inr hrow

theorem Records.write (hs : Records cfg s) (hledger : t.ledger = writeLedgerRow row s.ledger)
    (hrow : row.cleanable = true → Sound cfg s row) (hcutovers : t.cutovers = s.cutovers)
    (haccepted : t.accepted = s.accepted) (hnow : t.now = s.now) (hsweeping : t.sweeping = none)
    (hissued : t.issued ⊆ s.issued) : Records cfg t where
  keys := by
    rw [hledger]
    exact keyNodup_replaceByKey hs.keys
  rows := by
    intro x hx hopen
    rw [hledger] at hx
    obtain hx | rfl := mem_writeLedgerRow hx
    · exact (hs.rows x hx hopen).mono (fun _ h => haccepted ▸ h) hcutovers
    · exact (hrow hopen).mono (fun _ h => haccepted ▸ h) hcutovers
  issued := by
    rw [haccepted]
    intro r hr
    exact hs.issued r (hissued hr)
  past := by
    rw [hcutovers, hnow]
    exact hs.past
  gathered := by simp [hsweeping]

theorem Sound.of_row {row' : Row} (h : Sound cfg s row) (hold : row'.oldThumbprint = row.oldThumbprint)
    (hcutover : row'.verifiedCutoverAt = row.verifiedCutoverAt)
    (hvalidity : row'.oldNotAfter = row.oldNotAfter) : Sound cfg s row' where
  accepted := hold ▸ h.accepted
  validity := by
    rw [hvalidity, hold]
    exact h.validity
  last := by
    rw [hold, hcutover]
    exact h.last

theorem removeIssuedContainerRecord_subset (name : String) (issued : List IssuedRecord) :
    removeIssuedContainerRecord name issued ⊆ issued := by
  intro r hr
  exact (mem_deleteWhere.mp hr).1

/-! ## §4. The sweep. -/

theorem evaluateEligibility_none {now : Nat} (h : evaluateEligibility cfg now g = none) :
    g.row.ownershipProvenance = .tokentimerInstalled ∧ g.bindingStillReferencesOldThumbprint = false ∧
    computeCleanupDeadline cfg g.row < now := by
  unfold evaluateEligibility at h
  split at h
  · cases h
  rename_i howned
  split at h
  · cases h
  rename_i hbound
  split at h
  · cases h
  split at h
  · cases h
  split at h
  · cases h
  split at h
  · cases h
  rename_i hdeadline
  exact ⟨not_not.mp howned, by simpa using hbound, not_le.mp hdeadline⟩

theorem Records.swept {state : LifecycleState} {reason : Option DeferralReason} (hs : Records cfg s)
    (hg : s.sweeping = some g)
    (hopen : ({ g.row with lifecycleState := state, deferralReason := reason } : Row).cleanable = true) :
    Sound cfg s { g.row with lifecycleState := state, deferralReason := reason } := by
  obtain ⟨hstate, hsound, -⟩ := hs.gathered g hg
  have hcleanable : g.row.cleanable = true := by
    simp only [Row.cleanable, Bool.and_eq_true, decide_eq_true_eq] at hopen ⊢
    exact ⟨hstate, hopen.2⟩
  exact (hsound hcleanable).of_row rfl rfl rfl

/-- The cleanup of a row that passed. -/
theorem Records.retained (hs : Records cfg s) (hg : s.sweeping = some g)
    (h : evaluateEligibility cfg s.now g = none) (succeeded : Bool) :
    Retained cfg { thumbprint := g.row.oldThumbprint, calledAt := s.now, bindings := s.bindings
                   accepted := s.accepted, cutovers := s.cutovers, succeeded } := by
  obtain ⟨hstate, hsound, hbound⟩ := hs.gathered g hg
  obtain ⟨howned, hunbound, hdeadline⟩ := evaluateEligibility_none h
  have hrow : Sound cfg s g.row := hsound (by simp [Row.cleanable, hstate, howned])
  refine ⟨hbound hunbound, hrow.accepted, ?_⟩
  unfold computeCleanupDeadline at hdeadline
  by_cases hretention : g.row.verifiedCutoverAt + cfg.retentionHours * 60 * 60 * 1000 < s.now
  · left
    intro o ho hold
    have hlast := hrow.last o ho hold
    show o.completedAt + cfg.retentionHours * 60 * 60 * 1000 ≤ s.now
    omega
  · right
    rw [← hrow.validity]
    show g.row.oldNotAfter + CLOCK_SKEW_GRACE_SECONDS * 1000 ≤ s.now
    omega

/-- How a sweep over a row ends. -/
inductive Swept (cfg : Config) (s : State) (g : Gathered) : State → Prop
  | deferred (reason : DeferralReason) (h : evaluateEligibility cfg s.now g = some reason) :
      Swept cfg s g { s with
        sweeping := none
        ledger := writeLedgerRow { g.row with lifecycleState := .deferred, deferralReason := some reason }
          s.ledger }
  | called (succeeded : Bool) (h : evaluateEligibility cfg s.now g = none) :
      Swept cfg s g { s.cleanedUp g.row succeeded with sweeping := none }
  | written (succeeded : Bool) (h : evaluateEligibility cfg s.now g = none) :
      Swept cfg s g { s.cleanedUp g.row succeeded with
        sweeping := none
        ledger := writeLedgerRow
          { g.row with
            lifecycleState := if succeeded then .removed else .eligible, deferralReason := none } s.ledger }

theorem sweepFinish_ok {outcome : CleanupOutcome} (h : sweepFinish cfg outcome s = some t) :
    ∃ g, s.sweeping = some g ∧ Swept cfg s g t := by
  unfold sweepFinish at h
  split at h
  · cases h
  rename_i g hg
  refine ⟨g, hg, ?_⟩
  dsimp only at h
  split at h
  · rename_i reason heval
    cases h
    exact .deferred reason heval
  · rename_i heval
    cases outcome
    case deleted =>
      cases h
      exact .written true heval
    case failed =>
      cases h
      exact .written false heval
    case lockLost =>
      cases h
      exact .called false heval
    case crashed =>
      cases h
      exact .called true heval

theorem cleanedUp_issued (row : Row) (succeeded : Bool) :
    (s.cleanedUp row succeeded).issued ⊆ s.issued := by
  unfold State.cleanedUp
  cases succeeded
  · exact List.Subset.refl _
  · exact removeIssuedContainerRecord_subset _ _

theorem Records.swept_step (hs : Records cfg s) (hg : s.sweeping = some g) (h : Swept cfg s g t) :
    Records cfg t := by
  cases h
  case deferred reason heval =>
    exact hs.write rfl (fun hopen => hs.swept hg hopen) rfl rfl rfl rfl (List.Subset.refl _)
  case called succeeded heval =>
    refine ⟨hs.keys, ?_, ?_, hs.past, fun g hg => by cases hg⟩
    · intro row hrow hopen
      exact (hs.rows row hrow hopen).mono (List.Subset.refl _) rfl
    · intro r hr
      exact hs.issued r (cleanedUp_issued g.row succeeded hr)
  case written succeeded heval =>
    exact hs.write rfl (fun hopen => hs.swept hg hopen) rfl rfl rfl rfl (cleanedUp_issued g.row succeeded)

/-- One cleanup more, and no row is marked removed without one. -/
theorem Kept.cleanup {c : Cleanup} (hk : Kept cfg s) (hc : Retained cfg c)
    (hcleanups : t.cleanups = s.cleanups ++ [c])
    (hledger : ∀ row ∈ t.ledger, row.lifecycleState = .removed → row ∈ s.ledger ∨
      (row.oldThumbprint = c.thumbprint ∧ c.succeeded = true)) : Kept cfg t where
  cleanups := by
    intro x hx
    rw [hcleanups, List.mem_append, List.mem_singleton] at hx
    obtain hx | rfl := hx
    · exact hk.cleanups x hx
    · exact hc
  removed := by
    intro row hrow hremoved
    rw [hcleanups]
    obtain hrow | ⟨hold, hsucceeded⟩ := hledger row hrow hremoved
    · obtain ⟨x, hx, hrest⟩ := hk.removed row hrow hremoved
      exact ⟨x, List.mem_append_left _ hx, hrest⟩
    · exact ⟨c, List.mem_append_right _ (List.mem_singleton_self _), hold.symm, hsucceeded⟩

theorem Kept.quiet (hk : Kept cfg s) (hcleanups : s.cleanups = t.cleanups)
    (hledger : ∀ row ∈ t.ledger, row.lifecycleState = .removed →
      ∃ row' ∈ s.ledger, row'.oldThumbprint = row.oldThumbprint ∧ row'.lifecycleState = .removed) :
    Kept cfg t where
  cleanups := hcleanups ▸ hk.cleanups
  removed := by
    intro row hrow hremoved
    obtain ⟨row', hrow', hold, hremoved'⟩ := hledger row hrow hremoved
    rw [← hcleanups, ← hold]
    exact hk.removed row' hrow' hremoved'

theorem Kept.swept_step (hs : Records cfg s) (hk : Kept cfg s) (hg : s.sweeping = some g)
    (h : Swept cfg s g t) : Kept cfg t := by
  cases h
  case deferred reason heval =>
    refine hk.quiet ?_ ?_
    · rfl
    intro row hrow hremoved
    obtain hrow | rfl := mem_writeLedgerRow hrow
    · exact ⟨row, hrow, rfl, hremoved⟩
    · cases hremoved
  case called succeeded heval =>
    exact hk.cleanup (hs.retained hg heval succeeded) rfl fun row hrow _ => .inl hrow
  case written succeeded heval =>
    apply hk.cleanup (hs.retained hg heval succeeded) rfl
    intro row hrow hremoved
    obtain hrow | rfl := mem_writeLedgerRow hrow
    · exact .inl hrow
    · right
      cases succeeded
      · cases hremoved
      · exact ⟨rfl, rfl⟩

/-! ## §5. Runs. -/

theorem Records.sweepGather {readable : Bool} {shared : Option Bool} {observed : Option Nat}
    (hs : Records cfg s) (h : sweepGather thumbprint readable shared observed s = some t) :
    Records cfg t ∧ t.cleanups = s.cleanups ∧ t.ledger = s.ledger := by
  unfold WindowsRetention.sweepGather at h
  split at h
  · cases h
  rename_i row hread
  split at h
  · cases h
  rename_i hidle
  cases h
  have hrow := (readLedgerRow_some hread).1
  refine ⟨⟨hs.keys, ?_, hs.issued, hs.past, ?_⟩, rfl, rfl⟩
  · intro x hx hopen
    exact (hs.rows x hx hopen).mono (List.Subset.refl _) rfl
  · intro g hg
    cases hg
    refine ⟨fun hremoved => hidle (.inr hremoved), ?_, ?_⟩
    · intro hopen
      exact (hs.rows row hrow hopen).mono (List.Subset.refl _) rfl
    · intro hunbound
      exact (Bool.or_eq_false_iff.mp hunbound).2

theorem Records.closeJournalReference {ref : String} (hs : Records cfg s) (hk : Kept cfg s) :
    Records cfg (closeJournalReference thumbprint ref s) ∧
      Kept cfg (closeJournalReference thumbprint ref s) := by
  unfold WindowsRetention.closeJournalReference
  split
  · exact ⟨hs, hk⟩
  rename_i row hread
  have hrow := (readLedgerRow_some hread).1
  refine ⟨⟨keyNodup_replaceByKey hs.keys, ?_, hs.issued, hs.past, ?_⟩, ?_⟩
  · intro x hx hopen
    obtain hx | rfl := mem_writeLedgerRow hx
    · exact (hs.rows x hx hopen).mono (List.Subset.refl _) rfl
    · have hopen' : row.cleanable = true := hopen
      have hsound := hs.rows row hrow hopen'
      exact ⟨hsound.accepted, hsound.validity, hsound.last⟩
  · intro g hg
    obtain ⟨hstate, hsound, hbound⟩ := hs.gathered g hg
    exact ⟨hstate, fun hopen => (hsound hopen).mono (List.Subset.refl _) rfl, hbound⟩
  · refine hk.quiet ?_ ?_
    · rfl
    intro x hx hremoved
    obtain hx | rfl := mem_writeLedgerRow hx
    · exact ⟨x, hx, rfl, hremoved⟩
    · exact ⟨row, hrow, rfl, hremoved⟩

theorem Kept.recordSuperseded (hk : Kept cfg s) :
    Kept cfg (recordSupersededWindowsCertificate jobId store oldThumbprint replacement listing placeholder
      s) := by
  unfold recordSupersededWindowsCertificate
  split
  · exact hk
  · refine hk.quiet ?_ ?_
    · rfl
    intro row hrow hremoved
    dsimp only at hrow
    rw [List.mem_append, List.mem_singleton] at hrow
    obtain hrow | rfl := hrow
    · exact ⟨row, hrow, rfl, hremoved⟩
    · cases hremoved

/-- One event of a history that meets the condition. -/
theorem Records.step {e : Event} (hs : Records cfg s) (hk : Kept cfg s) (hok : FirstSupersession s e)
    (h : next cfg s e = some t) : Records cfg t ∧ Kept cfg t := by
  have hsame : ∀ {t : State}, t.ledger = s.ledger → t.cleanups = s.cleanups → Kept cfg t := by
    intro t hledger hcleanups
    exact hk.quiet hcleanups.symm fun row hrow hremoved => ⟨row, hledger ▸ hrow, rfl, hremoved⟩
  cases e
  case recordIssuedContainer name =>
    cases h
    refine ⟨hs.mono rfl rfl rfl rfl le_rfl (List.Subset.refl _) ?_, hsame rfl rfl⟩
    intro r hr thumbprint haccepted
    obtain hr | hr := List.mem_append.mp hr
    · exact hs.issued r (removeIssuedContainerRecord_subset _ _ hr) thumbprint haccepted
    · rw [List.mem_singleton.mp hr] at haccepted
      cases haccepted
  case acceptCertificate name thumbprint marked =>
    cases h
    have hgrow : s.accepted ⊆ s.accepted ++ [thumbprint] := List.subset_append_left _ _
    refine ⟨hs.mono rfl rfl rfl rfl le_rfl hgrow ?_, hsame rfl rfl⟩
    intro r hr x haccepted
    show x ∈ s.accepted ++ [thumbprint]
    cases marked
    · exact hgrow (hs.issued r hr x haccepted)
    · obtain hr | hr := mem_markIssuedContainerAccepted hr
      · exact hgrow (hs.issued r hr x haccepted)
      · rw [hr] at haccepted
        cases haccepted
        exact List.mem_append_right _ (List.mem_singleton_self _)
  case removeIssuedContainer name =>
    cases h
    refine ⟨hs.mono rfl rfl rfl rfl le_rfl (List.Subset.refl _) ?_, hsame rfl rfl⟩
    intro r hr
    exact hs.issued r (removeIssuedContainerRecord_subset _ _ hr)
  case setBindings bindings =>
    cases h
    refine ⟨⟨hs.keys, ?_, hs.issued, hs.past, ?_⟩, hsame rfl rfl⟩
    · intro row hrow hopen
      exact (hs.rows row hrow hopen).mono (List.Subset.refl _) rfl
    · intro g hg
      obtain ⟨hstate, hsound, -⟩ := hs.gathered g hg
      refine ⟨hstate, fun hopen => (hsound hopen).mono (List.Subset.refl _) rfl, ?_⟩
      intro hunbound
      have hsweeping : s.sweeping = some g := hg
      simpa [FirstSupersession, hsweeping, hunbound] using hok
  case cutover bindingId thumbprint =>
    refine ⟨hs.cutover hok h, ?_⟩
    dsimp only [next] at h
    unfold WindowsRetention.cutover at h
    split at h
    · cases h
    · split at h
      · cases h
      · cases h
        exact hsame rfl rfl
  case recordSuperseded jobId store c listing placeholder =>
    dsimp only [next] at h
    obtain ⟨hguard, rfl⟩ := of_guard h
    exact ⟨hs.recordSuperseded hguard.2, hk.recordSuperseded⟩
  case sweepGather =>
    obtain ⟨hs', hcleanups, hledger⟩ := hs.sweepGather h
    exact ⟨hs', hsame hledger hcleanups⟩
  case sweepFinish outcome =>
    obtain ⟨g, hg, hswept⟩ := sweepFinish_ok h
    exact ⟨hs.swept_step hg hswept, hk.swept_step hs hg hswept⟩
  case sweepAbort =>
    cases h
    refine ⟨⟨hs.keys, ?_, hs.issued, hs.past, fun g hg => by cases hg⟩, hsame rfl rfl⟩
    intro row hrow hopen
    exact (hs.rows row hrow hopen).mono (List.Subset.refl _) rfl
  case closeJournalReference =>
    cases h
    exact hs.closeJournalReference hk
  case wait ms =>
    cases h
    exact ⟨hs.mono rfl rfl rfl rfl (Nat.le_add_right _ _) (List.Subset.refl _) hs.issued, hsame rfl rfl⟩

/-- In every history in which no cutover leaves a certificate that already has an open row,
    and no other program binds a certificate that a sweep has found unbound, each cleanup was
    called for an unbound certificate the agent installed, after the retention time since its
    last cutover or its expiry, and each removed row was cleaned up before. -/
theorem cleanup_after_retention (cfg : Config) (s : State)
    (h : Reachable (system cfg) FirstSupersession s) : Kept cfg s := by
  have hall : Records cfg s ∧ Kept cfg s := by
    apply h.invariant (I := fun s => Records cfg s ∧ Kept cfg s)
    · intro s hs
      exact ⟨.init hs, .init hs⟩
    · intro s e t hs hok hstep
      exact hs.1.step hs.2 hok hstep
  exact hall.2

/-! ## §6. Histories. -/

/-- A policy of a week, and certificates valid for a year. -/
def demoConfig : Config :=
  { retentionHours := 168, retentionHours_range := by decide, notAfter := fun _ => 31536000000 }

/-- Certificate 1 was installed by the agent, and two bindings reference it. -/
def demoHost : State :=
  { now := 0, bindings := [⟨0, 1, none⟩, ⟨1, 1, none⟩] }

def demoInstall : List Event :=
  [.recordIssuedContainer "tokentimer-a", .acceptCertificate "tokentimer-a" 1 true]

def demoListing : Option (List StoreCertificate) :=
  some [⟨1, some 31536000000, some "tokentimer-a"⟩]

/-- A binding moves from certificate 1 to certificate 2, and the agent records it. -/
def demoCutover (bindingId completedAt : Nat) : List Event :=
  [.cutover bindingId 2, .recordSuperseded "job" "My" ⟨1, 2, completedAt⟩ demoListing "tokentimer-unknown"]

/-- A sweep that finds the replacement served. -/
def demoSweep : List Event :=
  [.sweepGather 1 true (some false) (some 2), .sweepFinish .deleted]

theorem demoHost_init : Init demoHost := ⟨rfl, rfl, rfl, rfl, rfl⟩

/-- Both bindings leave the certificate before it is recorded: it is deleted a week after. -/
theorem cleanup_after_retention_demo : ∃ s, s.cleanups.length = 1 ∧ Kept demoConfig s := by
  have hplay : (playedWithin (next demoConfig) (fun s e => FirstSupersession s e)
      (demoInstall ++ [.cutover 1 2] ++ demoCutover 0 0 ++ [.wait (168 * 3600000 + 1)] ++ demoSweep)
      demoHost).any (fun s => s.cleanups.length = 1) = true := by
    decide +kernel
  obtain ⟨s, hs, hcleaned⟩ := (Option.any_eq_true _ _).mp hplay
  have hlength : s.cleanups.length = 1 := of_decide_eq_true hcleaned
  have hrun : Run (system demoConfig) FirstSupersession demoHost s :=
    .of_playedWithin (fun _ _ _ h => h) (fun _ _ h => of_decide_eq_true h) _ hs
  exact ⟨s, hlength, cleanup_after_retention demoConfig s ⟨_, demoHost_init, hrun⟩⟩

/-- Two bindings share a certificate; the second leaves it 160 hours after the first, and
    nine hours later it is deleted. -/
theorem shared_certificate_early : ∃ s, Reachable (system demoConfig) anyStep s ∧ ¬Kept demoConfig s := by
  have hplay : (played (next demoConfig)
      (demoInstall ++ demoCutover 0 0 ++ [.wait (160 * 3600000)] ++ demoCutover 1 (160 * 3600000) ++
        [.wait (9 * 3600000)] ++ demoSweep) demoHost).any (fun s => decide
      (∃ c ∈ s.cleanups, c.thumbprint = 1 ∧ c.calledAt = 169 * 3600000 ∧
        ∃ o ∈ c.cutovers, o.oldThumbprint = 1 ∧ o.completedAt = 160 * 3600000)) = true := by
    decide +kernel
  obtain ⟨s, hs, hfound⟩ := (Option.any_eq_true _ _).mp hplay
  obtain ⟨c, hc, hthumbprint, hcalled, o, ho, hold, hcompleted⟩ := of_decide_eq_true hfound
  refine ⟨s, ⟨_, demoHost_init, .of_played (fun _ _ _ h => h) _ (fun _ _ _ => trivial) hs⟩, ?_⟩
  intro hkept
  obtain hlast | hexpired := (hkept.cleanups c hc).elapsed
  · have hearly := hlast o ho (hold.trans hthumbprint.symm)
    rw [hcompleted, hcalled] at hearly
    revert hearly
    decide
  · rw [hcalled] at hexpired
    have hvalid : demoConfig.notAfter c.thumbprint = 31536000000 := rfl
    rw [hvalid] at hexpired
    revert hexpired
    decide

end TokenTimer.WindowsRetention
