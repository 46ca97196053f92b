/-
  TokenTimer.CertOps.AdoptionFrame — what one step does to the rows of
  `certops_outbox`.

  Every write of a row is one of four: a claim, a release under the claim, a
  withdrawal, a retry.  All of them leave the intent of the row alone, need its lock
  to be free, and start from `pending` or `failed` (`RowStep`).

  Main results:
    * `next_spec` — a step rewrites rows by `RowStep`, adds at most one, and
        adds, removes or moves no certificate.
    * `deriveIntent_ok` — a handler marks its row `succeeded` exactly where it links.
-/

import TokenTimer.CertOps.Adoption

namespace TokenTimer.CertOps.Adoption

open Lib.Table Lib.Runs
open Enrollment (uuidIn)

variable {s t : State}

/-! ## §1. Locks and drains. -/

variable {d : Drain} {drains : List Drain} {certificate claimId id ws : Nat} {r r' : OutboxRow}
  {text : String} {t' : Tables}

theorem rowLocked_false :
    s.rowLocked id = false ↔ ∀ d ∈ s.drains, d.holds ≠ some id := by
  simp [State.rowLocked]

theorem certificateLocked_false :
    s.certificateLocked certificate = false ↔ ∀ d ∈ s.detaches, d.certificate ≠ certificate := by
  simp [State.certificateLocked]

theorem drainOf_some (h : s.drainOf claimId = some d) :
    d ∈ s.drains ∧ d.claimId = claimId := by
  obtain ⟨hd, hid⟩ := selectOne_some h
  exact ⟨hd, by simpa using hid⟩

variable {e : Drain} {p : OutboxRow → Bool} {f : OutboxRow → OutboxRow}
    {eventType : OutboxEventType} {dedupeKey message : String} {payload : OutboxPayload}
    {reads : SetupReads} {result : HandlerOutcome × Tables} {events : List Event}

theorem mem_setDrain (h : e ∈ (s.setDrain d).drains) :
    e = d ∨ e ∈ s.drains ∧ e.claimId ≠ d.claimId := by
  obtain ⟨x, hx, hxe⟩ := mem_updateWhere.mp h
  by_cases hid : x.claimId = d.claimId
  · left
    simpa [hid] using hxe.symm
  · right
    rw [if_neg (by simpa using hid)] at hxe
    subst hxe
    exact ⟨hx, hid⟩

/-- A call whose answer is used has returned. -/
theorem toOption_some {ε α : Type} {x : Except ε α} {a : α} : x.toOption = some a ↔ x = .ok a := by
  cases x <;> simp [Except.toOption]

/-! ## §2. The writes of a row. -/

/-- The intent of a row: the columns no statement rewrites. -/
structure SameIntent (r r' : OutboxRow) : Prop where
  id : r'.id = r.id
  workspaceId : r'.workspaceId = r.workspaceId
  eventType : r'.eventType = r.eventType
  payload : r'.payload = r.payload

/-- What a step does to one row; `drains` are the drains after the step. -/
structure RowStep (drains : List Drain) (r r' : OutboxRow) : Prop where
  intent : SameIntent r r'
  write : r' = r ∨
    (∀ d ∈ drains, d.holds ≠ some r.id) ∧ r.status.revivable = true ∧
      (r'.status = .pending ∨ r'.claimId = none)

theorem RowStep.refl (drains : List Drain) (r : OutboxRow) : RowStep drains r r :=
  ⟨⟨rfl, rfl, rfl, rfl⟩, .inl rfl⟩

/-- A row that is neither `pending` nor `failed` is never written again. -/
theorem RowStep.terminal (h : RowStep drains r r') (hterminal : r.status.revivable = false) : r' = r := by
  obtain hsame | ⟨-, hrevivable, -⟩ := h.write
  · exact hsame
  · rw [hterminal] at hrevivable
    cases hrevivable

/-- The intent names a certificate of its workspace, and its record is in the log. -/
def Named (t : State) (r : OutboxRow) : Prop :=
  ∃ text certificate, r.payload.certificateId = some text ∧ uuidIn text = some certificate ∧
    .recorded r.id certificate ∈ t.log ∧
    (certificate, r.workspaceId) ∈ t.tables.certificates.map fun c => (c.id, c.workspaceId)

/-- An inserted row: fresh, and if it is a derivation intent then a recorded one. -/
structure NewRow (s t : State) (r : OutboxRow) : Prop where
  id : r.id = s.tables.nextId
  nextId : s.tables.nextId < t.tables.nextId
  status : r.status = .pending
  named : r.eventType = .profileDerivationRequested → Named t r

/-- Rows rewritten by `RowStep`, and at most one new row. -/
def OutboxStep (s t : State) : Prop :=
  ∃ f new, t.tables.outbox = s.tables.outbox.map f ++ new ∧
    (∀ r ∈ s.tables.outbox, RowStep t.drains r (f r)) ∧
    (new = [] ∨ ∃ r, new = [r] ∧ NewRow s t r)

theorem OutboxStep.of_eq (h : t.tables.outbox = s.tables.outbox) : OutboxStep s t :=
  ⟨id, [], by simp [h], fun r _ => RowStep.refl _ r, .inl rfl⟩

theorem OutboxStep.of_updateWhere (h : t.tables.outbox = updateWhere p f s.tables.outbox)
    (hstep : ∀ r ∈ s.tables.outbox, p r = true → RowStep t.drains r (f r)) : OutboxStep s t := by
  refine ⟨fun r => if p r then f r else r, [], by simp [h, updateWhere], ?_, .inl rfl⟩
  intro r hr
  by_cases hp : p r = true
  · simpa [hp] using hstep r hr hp
  · simpa [hp] using RowStep.refl _ r

/-- The row an id names after a step, from the row before. -/
theorem OutboxStep.backward (h : OutboxStep s t) (hr : r' ∈ t.tables.outbox) :
    (∃ r ∈ s.tables.outbox, RowStep t.drains r r') ∨ NewRow s t r' := by
  obtain ⟨f, new, hrows, hf, hnew⟩ := h
  rw [hrows] at hr
  obtain hr | hr := List.mem_append.mp hr
  · obtain ⟨r, hmem, rfl⟩ := List.mem_map.mp hr
    exact .inl ⟨r, hmem, hf r hmem⟩
  · obtain rfl | ⟨x, rfl, hx⟩ := hnew
    · cases hr
    · rw [List.mem_singleton] at hr
      subst hr
      exact .inr hx

theorem OutboxStep.forward (h : OutboxStep s t) (hr : r ∈ s.tables.outbox) :
    ∃ r' ∈ t.tables.outbox, RowStep t.drains r r' := by
  obtain ⟨f, new, hrows, hf, -⟩ := h
  refine ⟨f r, ?_, hf r hr⟩
  rw [hrows]
  exact List.mem_append_left _ (List.mem_map_of_mem hr)

/-! ## §3. The invariant. -/

def DrainPhase.row : DrainPhase → Option OutboxRow
  | .next => none
  | .inTransaction row _ => some row
  | .returned row _ => some row
  | .threw row _ => some row

/-- A row as a claim returned it still has the intent of the stored row. -/
structure Snapshot (t : Tables) (r : OutboxRow) : Prop where
  old : r.id < t.nextId
  same : ∀ x ∈ t.outbox, x.id = r.id → SameIntent r x

/-- The stored row a drain holds the lock of: pending, under the drain's claim. -/
structure Held (t : Tables) (claimId : Nat) (r : OutboxRow) (text : String) : Prop where
  eventType : r.eventType = .profileDerivationRequested
  certificateId : r.payload.certificateId = some text
  stored : ∃ x ∈ t.outbox, x.id = r.id ∧ x.status = .pending ∧ x.claimId = some claimId

/-- What a drain may do next is covered: the lock it holds, the success it writes. -/
structure PhaseOk (t : Tables) (claimId : Nat) (phase : DrainPhase) : Prop where
  held : ∀ r text, phase = .inTransaction r text → Held t claimId r text
  decided : ∀ r q reason, phase = .returned r (.decided q reason) →
    r.eventType = .profileDerivationRequested → q = false

structure DrainOk (t : Tables) (d : Drain) : Prop where
  claim : d.claimId < t.nextId
  todo : ∀ r ∈ d.rows, Snapshot t r
  current : ∀ r, d.phase.row = some r → Snapshot t r
  phase : PhaseOk t d.claimId d.phase

/-- An open detach names its certificate, which is there. -/
structure DetachOk (t : Tables) (d : DetachTransaction) : Prop where
  named : uuidIn d.certificateId = some d.certificate
  stored : (d.certificate, d.workspaceId) ∈ t.certificates.map fun c => (c.id, c.workspaceId)

structure Inv (s : State) : Prop where
  certificates : KeyNodup (·.id) s.tables.certificates
  rows : KeyNodup (·.id) s.tables.outbox
  fresh : ∀ r ∈ s.tables.outbox, r.id < s.tables.nextId
  idle : ∀ r ∈ s.tables.outbox, r.status = .pending ∨ r.claimId = none
  named : ∀ r ∈ s.tables.outbox, r.eventType = .profileDerivationRequested → Named s r
  recorded : ∀ id c, .recorded id c ∈ s.log → id < s.tables.nextId ∧
    ∀ r ∈ s.tables.outbox, r.id = id →
      r.eventType = .profileDerivationRequested ∧ r.payload.certificateId.bind uuidIn = some c
  drainKeys : KeyNodup (·.claimId) s.drains
  drains : ∀ d ∈ s.drains, DrainOk s.tables d
  detachKeys : KeyNodup (·.certificate) s.detaches
  detaches : ∀ d ∈ s.detaches, DetachOk s.tables d

theorem inv_init (h : system.init s) : Inv s := by
  obtain ⟨houtbox, hcertificates, hdetaches, hdrains, hlog⟩ := h
  constructor <;> simp_all [KeyNodup]

theorem Inv.claimed_pending (h : Inv s) (hr : r ∈ s.tables.outbox) (hclaim : r.claimId = some claimId) :
    r.status = .pending := by
  obtain hpending | hnone := h.idle r hr
  · exact hpending
  · rw [hnone] at hclaim
    cases hclaim

theorem Inv.holds_unique (h : Inv s) (hd : d ∈ s.drains) (he : e ∈ s.drains)
    (hdid : d.holds = some id) (heid : e.holds = some id) : e = d := by
  have hclaim : ∀ x ∈ s.drains, x.holds = some id →
      ∃ r ∈ s.tables.outbox, r.id = id ∧ r.claimId = some x.claimId := by
    intro x hx hholds
    unfold Drain.holds at hholds
    split at hholds
    · rename_i row text hphase
      obtain ⟨r, hr, hid, -, hrclaim⟩ := ((h.drains x hx).phase.held row text hphase).stored
      cases hholds
      exact ⟨r, hr, hid, hrclaim⟩
    · cases hholds
  obtain ⟨r, hr, hrid, hrclaim⟩ := hclaim d hd hdid
  obtain ⟨r', hr', hrid', hrclaim'⟩ := hclaim e he heid
  have hsame : r' = r := h.rows.eq_of_mem hr' hr (hrid'.trans hrid.symm)
  subst hsame
  rw [hrclaim] at hrclaim'
  exact h.drainKeys.eq_of_mem he hd (Option.some.inj hrclaim').symm

/-! ## §4. What a step leaves alone. -/

structure StepSpec (s t : State) : Prop where
  outbox : OutboxStep s t
  nextId : s.tables.nextId ≤ t.tables.nextId
  certificates : t.tables.certificates.map (fun c => (c.id, c.workspaceId)) =
    s.tables.certificates.map fun c => (c.id, c.workspaceId)
  log : ∃ events, t.log = s.log ++ events ∧ ∀ id c, .recorded id c ∈ events →
    id = s.tables.nextId ∧ s.tables.nextId < t.tables.nextId ∧
    ∀ r ∈ t.tables.outbox, r.id = id →
      r.eventType = .profileDerivationRequested ∧ r.payload.certificateId.bind uuidIn = some c

/-- A step that records no intent. -/
theorem StepSpec.of_quiet (events : List Event) (houtbox : OutboxStep s t)
    (hnextId : s.tables.nextId ≤ t.tables.nextId)
    (hcertificates : t.tables.certificates.map (fun c => (c.id, c.workspaceId)) =
      s.tables.certificates.map fun c => (c.id, c.workspaceId))
    (hlog : t.log = s.log ++ events)
    (hevents : ∀ id c, .recorded id c ∉ events) : StepSpec s t :=
  ⟨houtbox, hnextId, hcertificates, events, hlog, fun id c h => absurd h (hevents id c)⟩

theorem StepSpec.of_tables (htables : t.tables = s.tables) (hlog : t.log = s.log) : StepSpec s t := by
  apply StepSpec.of_quiet []
  · exact OutboxStep.of_eq (by rw [htables])
  · rw [htables]
  · rw [htables]
  · rw [hlog, List.append_nil]
  · simp

theorem StepSpec.of_rows
    (htables : t.tables = { s.tables with outbox := updateWhere p f s.tables.outbox })
    (hlog : t.log = s.log) (hstep : ∀ r ∈ s.tables.outbox, p r = true → RowStep t.drains r (f r)) :
    StepSpec s t := by
  apply StepSpec.of_quiet []
  · exact OutboxStep.of_updateWhere (by rw [htables]) hstep
  · rw [htables]
  · rw [htables]
  · rw [hlog, List.append_nil]
  · simp

/-! ## §5. The steps, one by one. -/

/-- A write of rows that nobody holds. -/
theorem RowStep.of_free (hintent : SameIntent r r') (hfree : ∀ d ∈ drains, d.holds ≠ some r.id)
    (hrevivable : r.status.revivable = true) (hidle : r'.status = .pending ∨ r'.claimId = none) :
    RowStep drains r r' :=
  ⟨hintent, .inr ⟨hfree, hrevivable, hidle⟩⟩

theorem enqueueOutboxEvent_ok {t : Tables} {id : Option Nat}
    (h : enqueueOutboxEvent ws eventType dedupeKey payload t = .ok (id, t')) :
    (id = none ∧ t' = t) ∨ ∃ key, id = some t.nextId ∧
      t' = { t with
        nextId := t.nextId + 1
        outbox := t.outbox ++ [newIntent ws eventType key payload t] } := by
  simp only [enqueueOutboxEvent, bind_ok, require_ok] at h
  obtain ⟨-, -, -, -, h⟩ := h
  split at h
  · left
    cases h
    exact ⟨rfl, rfl⟩
  · right
    cases h
    exact ⟨_, rfl, rfl⟩

theorem uuidParameter_ok {value : Nat} :
    uuidParameter text = .ok value ↔ uuidIn text = some value := by
  unfold uuidParameter
  cases uuidIn text <;> simp

theorem certificateOf_some {t : Tables} {row : CertificateRow}
    (h : t.certificateOf ws certificate = some row) :
    (certificate, ws) ∈ t.certificates.map fun c => (c.id, c.workspaceId) := by
  obtain ⟨hrow, hid⟩ := selectOne_some h
  simp only [Bool.and_eq_true, decide_eq_true_eq] at hid
  exact List.mem_map.mpr ⟨row, hrow, by rw [hid.1, hid.2]⟩

theorem renewalSetupJobCreator_ok {t : Tables} {id : Option Nat}
    (h : renewalSetupJobCreator ws text reads t = .ok (id, t')) :
    (id = none ∧ t' = t) ∨ ∃ key certificate payload, id = some t.nextId ∧
      uuidIn text = some certificate ∧ payload.certificateId = some text ∧
      (certificate, ws) ∈ t.certificates.map (fun c => (c.id, c.workspaceId)) ∧
      t' = { t with
        nextId := t.nextId + 1
        outbox := t.outbox ++ [newIntent ws .profileDerivationRequested key payload t] } := by
  simp only [renewalSetupJobCreator, bind_ok] at h
  obtain ⟨certificate, hcertificate, h⟩ := h
  split at h
  · cases h
  · rename_i row hrow
    simp only [bind_ok] at h
    obtain ⟨-, -, -, -, h⟩ := h
    split at h
    · obtain ⟨rfl, rfl⟩ | ⟨key, rfl, rfl⟩ := enqueueOutboxEvent_ok h
      · exact .inl ⟨rfl, rfl⟩
      · exact .inr ⟨key, certificate, _, rfl, uuidParameter_ok.mp hcertificate, rfl,
          certificateOf_some hrow, rfl⟩
    · left
      cases h
      exact ⟨rfl, rfl⟩

theorem beginDetach_ok {t : Tables} {d : DetachTransaction} (h : beginDetach ws text t = .ok d) :
    DetachOk t d ∧ uuidIn text = some d.certificate := by
  simp only [beginDetach, bind_ok] at h
  obtain ⟨certificate, hcertificate, h⟩ := h
  have hnamed := uuidParameter_ok.mp hcertificate
  split at h
  · cases h
  · rename_i row hrow
    obtain ⟨-, -, hret⟩ := bind_ok.mp h
    cases hret
    exact ⟨⟨hnamed, certificateOf_some hrow⟩, hnamed⟩

/-- A retry writes one row, and only where it is `failed`. -/
theorem retryRenewalSetupIntent_ok {outboxId : Nat} {t : Tables}
    (h : retryRenewalSetupIntent ws outboxId t = .ok t') :
    t' = { t with
      outbox := updateWhere
        (fun r => r.workspaceId = ws && r.id = outboxId && r.status = .failed)
        (fun r => { r with
          status := .pending, attemptCount := 0, nextRetryAt := t.now, lastError := none
          outcomeReason := none, claimId := none, claimedUntil := none }) t.outbox } := by
  unfold retryRenewalSetupIntent at h
  split at h
  · cases h
  · obtain ⟨-, -, h⟩ := bind_ok.mp h
    unfold resetOutboxEventForRetry at h
    split at h
    · cases h
    · obtain ⟨-, -, hret⟩ := bind_ok.mp h
      cases hret
      rfl

def linkCertificate (ws certificate profileId : Nat) (t : Tables) : Tables :=
  { t with
    certificates := updateWhere
      (fun c => c.workspaceId = ws && c.id = certificate && c.profileId.isNone)
      (fun c => { c with profileId := some profileId }) t.certificates }

/-- For a certificate without a profile, a derivation either links it or writes
    nothing and returns no profile. -/
theorem ensureDerivedRenewalProfile_unlinked {t : Tables} (profile : DerivedProfile)
    (hunlinked : (t.certificateOf ws certificate).bind (·.profileId) = none) :
    ((ensureDerivedRenewalProfile ws certificate profile t).1.profileId = none ∧
      (ensureDerivedRenewalProfile ws certificate profile t).2 = t) ∨
    ∃ profileId,
      (ensureDerivedRenewalProfile ws certificate profile t).1.profileId = some profileId ∧
      (∃ c ∈ t.certificates, c.workspaceId = ws ∧ c.id = certificate ∧ c.profileId = none) ∧
      (ensureDerivedRenewalProfile ws certificate profile t).2 =
        linkCertificate ws certificate profileId t := by
  unfold ensureDerivedRenewalProfile
  rw [hunlinked]
  cases profile with
  | failed | operatorOwned => exact .inl ⟨rfl, rfl⟩
  | stored profileId =>
    dsimp only
    split
    · rename_i hany
      right
      obtain ⟨c, hc, hmatch⟩ := List.any_eq_true.mp hany
      simp only [Bool.and_eq_true, decide_eq_true_eq, Option.isNone_iff_eq_none] at hmatch
      exact ⟨profileId, rfl, ⟨c, hc, hmatch.1.1, hmatch.1.2, hmatch.2⟩, rfl⟩
    · exact .inl ⟨rfl, rfl⟩

/-- What the transaction of the handler writes: its own row, and the link with it
    exactly where the row is marked `succeeded`. -/
inductive DeriveWrite (claimId : Nat) (row : OutboxRow) (text : String) (t : Tables) :
    HandlerOutcome × Tables → Prop
  | skipped (reason : Option String) :
      DeriveWrite claimId row text t (completeOwnRow row.id claimId .skipped reason t)
  | linked (certificate profileId : Nat) (hnamed : uuidIn text = some certificate)
      (hunlinked : ∃ c ∈ t.certificates, c.workspaceId = row.workspaceId ∧ c.id = certificate ∧
        c.profileId = none) :
      DeriveWrite claimId row text t (completeOwnRow row.id claimId .succeeded none
        (linkCertificate row.workspaceId certificate profileId t))

theorem deriveIntent_ok {row : OutboxRow} {reads : DeriveReads} {t : Tables}
    (h : deriveIntent claimId row text reads t = .ok result) :
    DeriveWrite claimId row text t result := by
  unfold deriveIntent at h
  split at h
  · cases h
  rename_i certificate hcertificate
  split at h
  · cases h
    exact .skipped _
  rename_i stored hstored
  split at h
  · cases h
    exact .skipped _
  rename_i hprofile
  split at h
  · cases h
    exact .skipped _
  have hunlinked : (t.certificateOf row.workspaceId certificate).bind (·.profileId) = none := by
    rw [hstored]
    simpa using hprofile
  have hderived := ensureDerivedRenewalProfile_unlinked reads.profile hunlinked
  split at h
  · rename_i p reason error t₁ heq
    rw [heq] at hderived
    obtain ⟨hnone, -⟩ | ⟨profileId, hsome, hstored', ht₁⟩ := hderived
    · cases hnone
    · cases hsome
      cases ht₁
      cases h
      exact .linked certificate p hcertificate hstored'
  · rename_i reason error t₁ heq
    rw [heq] at hderived
    split at h
    · obtain ⟨-, ht₁⟩ | ⟨profileId, hsome, -⟩ := hderived
      · cases ht₁
        cases h
        exact .skipped _
      · cases hsome
    · cases h

/-- The intents of other events. -/
theorem enqueueOther_spec {r : Option Nat × Tables}
    (hevent : eventType ≠ .profileDerivationRequested)
    (h : enqueueOutboxEvent ws eventType dedupeKey payload s.tables = .ok r) :
    StepSpec s { s with tables := r.2 } := by
  obtain ⟨id, t⟩ := r
  obtain ⟨-, rfl⟩ | ⟨key, -, rfl⟩ := enqueueOutboxEvent_ok h
  · exact .of_tables rfl rfl
  · apply StepSpec.of_quiet []
    · refine ⟨fun r => r, _, by rw [List.map_id'], fun r _ => .refl _ r, .inr ⟨_, rfl, ?_⟩⟩
      exact ⟨rfl, Nat.lt_succ_self _, rfl, fun hderivation => absurd hderivation hevent⟩
    · exact Nat.le_succ _
    · rfl
    · exact (List.append_nil _).symm
    · simp

theorem renewalSetup_spec (hinv : Inv s) {r : Option Nat × Tables}
    (h : renewalSetupJobCreator ws text reads s.tables = .ok r) :
    StepSpec s { s with tables := r.2, log := s.log ++ recordedBy text r.1 } := by
  obtain ⟨id, t⟩ := r
  obtain ⟨rfl, rfl⟩ | ⟨key, certificate, payload, rfl, hnamed, hpayload, hstored, rfl⟩ :=
    renewalSetupJobCreator_ok h
  · exact .of_tables rfl (List.append_nil _)
  · have hlog : recordedBy text (some s.tables.nextId) =
        [.recorded s.tables.nextId certificate] := by
      unfold recordedBy
      rw [hnamed]
    dsimp only
    rw [hlog]
    constructor
    · refine ⟨fun r => r, _, by rw [List.map_id'], fun r _ => .refl _ r, .inr ⟨_, rfl, ?_⟩⟩
      refine ⟨rfl, Nat.lt_succ_self _, rfl, fun _ => ?_⟩
      exact ⟨text, certificate, hpayload, hnamed, List.mem_append_right _ List.mem_cons_self, hstored⟩
    · exact Nat.le_succ _
    · rfl
    · refine ⟨_, rfl, fun id c hrecorded => ?_⟩
      simp only [List.mem_singleton, Event.recorded.injEq] at hrecorded
      obtain ⟨rfl, rfl⟩ := hrecorded
      refine ⟨rfl, Nat.lt_succ_self _, fun r hr hid => ?_⟩
      obtain hr | hr := List.mem_append.mp hr
      · have := hinv.fresh r hr
        omega
      · rw [List.mem_singleton] at hr
        subst hr
        exact ⟨rfl, by show payload.certificateId.bind uuidIn = _; rw [hpayload]; exact hnamed⟩

theorem commitDetach_spec {d : DetachTransaction} {detaches : List DetachTransaction}
    (hevents : ∀ id c, .recorded id c ∉ events)
    (hfree : ∀ r ∈ s.tables.outbox, d.withdraws r = true → s.rowLocked r.id = false) :
    StepSpec s { s with
      tables := commitDetach d s.tables, detaches := detaches, log := s.log ++ events } := by
  apply StepSpec.of_quiet events
  · apply OutboxStep.of_updateWhere rfl
    intro r hr hwithdrawn
    refine .of_free ⟨rfl, rfl, rfl, rfl⟩ (rowLocked_false.mp (hfree r hr hwithdrawn)) ?_ (.inr rfl)
    simp only [DetachTransaction.withdraws, Bool.and_eq_true] at hwithdrawn
    exact hwithdrawn.2
  · exact Nat.le_refl _
  · exact map_key_updateWhere fun _ => rfl
  · rfl
  · exact hevents

theorem drain_spec (hinv : Inv s) {batchSize : Nat} (hphase : d.holds = none) :
    StepSpec s { s with
      tables := { claimDue batchSize claimId s.rowLocked s.tables with nextId := s.tables.nextId + 1 }
      drains := s.drains ++ [d] } := by
  apply StepSpec.of_quiet []
  · apply OutboxStep.of_updateWhere rfl
    intro r hr hdue
    obtain ⟨x, hx, hid⟩ := List.any_eq_true.mp hdue
    obtain ⟨hxs, hxdue⟩ := mem_selection hx
    have hsame : x = r := hinv.rows.eq_of_mem hxs hr (by simpa using hid)
    subst hsame
    simp only [due, Bool.and_eq_true, decide_eq_true_eq, Bool.not_eq_true'] at hxdue
    refine .of_free ⟨rfl, rfl, rfl, rfl⟩ ?_ ?_ (.inl hxdue.1.1.1)
    · intro e he
      obtain he | he := List.mem_append.mp he
      · exact rowLocked_false.mp hxdue.2 e he
      · rw [List.mem_singleton] at he
        subst he
        rw [hphase]
        exact nofun
    · rw [hxdue.1.1.1]
      rfl
  · exact Nat.le_succ _
  · rfl
  · exact (List.append_nil _).symm
  · simp

theorem RowStep.of_claim (hinv : Inv s) (hr : r ∈ s.tables.outbox) (hclaim : r.claimId = some claimId)
    (hintent : SameIntent r r') (hfree : ∀ d ∈ drains, d.holds ≠ some r.id)
    (hreleased : r'.claimId = none) :
    RowStep drains r r' := by
  refine .of_free hintent hfree ?_ (.inr hreleased)
  rw [hinv.claimed_pending hr hclaim]
  rfl

/-- After its settlement a drain holds nothing, and nobody held the row it wrote. -/
theorem free_of_setDrain (hd : d.holds ≠ some id)
    (hfree : ∀ e ∈ s.drains, e.claimId ≠ d.claimId → e.holds ≠ some id) :
    ∀ e ∈ (s.setDrain d).drains, e.holds ≠ some id := by
  intro e he
  obtain rfl | ⟨he, hne⟩ := mem_setDrain he
  · exact hd
  · exact hfree e he hne

/-- The write of the loop. -/
theorem settleOutcome_spec (hinv : Inv s) {row : OutboxRow} {outcome : HandlerOutcome}
    (hfree : s.rowLocked row.id = false) :
    StepSpec s { s.setDrain { d with phase := .next } with
      tables := settleOutcome row d.claimId s.tables outcome } := by
  have hunheld : ∀ e ∈ (s.setDrain { d with phase := .next }).drains, e.holds ≠ some row.id :=
    free_of_setDrain nofun fun e he _ => rowLocked_false.mp hfree e he
  cases outcome with
  | completed terminalStatus reason => exact .of_tables rfl rfl
  | deferred | decided =>
    refine StepSpec.of_rows rfl rfl fun r hr hown => ?_
    simp only [Bool.and_eq_true, decide_eq_true_eq] at hown
    exact .of_claim hinv hr hown.2 ⟨rfl, rfl, rfl, rfl⟩ (hown.1 ▸ hunheld) rfl

theorem settleError_spec (hinv : Inv s) {row : OutboxRow} (hfree : s.rowLocked row.id = false) :
    StepSpec s { s.setDrain { d with phase := .next } with
      tables := settleError row d.claimId message s.tables } := by
  have hunheld : ∀ e ∈ (s.setDrain { d with phase := .next }).drains, e.holds ≠ some row.id :=
    free_of_setDrain nofun fun e he _ => rowLocked_false.mp hfree e he
  refine StepSpec.of_rows rfl rfl fun r hr hown => ?_
  simp only [Bool.and_eq_true, decide_eq_true_eq] at hown
  exact .of_claim hinv hr hown.2 ⟨rfl, rfl, rfl, rfl⟩ (hown.1 ▸ hunheld) rfl

theorem derive_spec (hinv : Inv s) (hd : d ∈ s.drains) {row : OutboxRow}
    (hphase : d.phase = .inTransaction row text) {phase : DrainPhase}
    (hreleased : ∀ row' text', phase ≠ .inTransaction row' text')
    (hwrite : DeriveWrite d.claimId row text s.tables result)
    (hevents : ∀ id c, .recorded id c ∉ events) :
    StepSpec s { s.setDrain { d with phase := phase } with
      tables := result.2, log := s.log ++ events } := by
  have hholds : d.holds = some row.id := by
    unfold Drain.holds
    rw [hphase]
  have hunheld : ∀ e ∈ (s.setDrain { d with phase := phase }).drains, e.holds ≠ some row.id := by
    apply free_of_setDrain
    · unfold Drain.holds
      dsimp only
      split
      · exact absurd rfl (hreleased _ _)
      · exact nofun
    · intro e he hne heid
      have hsame : e = d := hinv.holds_unique hd he hholds heid
      exact hne (by rw [hsame])
  have hown : ∀ r ∈ s.tables.outbox, (r.id = row.id && r.claimId = some d.claimId) = true →
      ∀ r', SameIntent r r' → r'.claimId = none →
        RowStep (s.setDrain { d with phase := phase }).drains r r' := by
    intro r hr hmatch r' hintent hnone
    simp only [Bool.and_eq_true, decide_eq_true_eq] at hmatch
    exact .of_claim hinv hr hmatch.2 hintent (hmatch.1 ▸ hunheld) hnone
  cases hwrite with
  | skipped reason =>
    apply StepSpec.of_quiet events
    · exact .of_updateWhere rfl fun r hr hmatch => hown r hr hmatch _ ⟨rfl, rfl, rfl, rfl⟩ rfl
    · exact Nat.le_refl _
    · rfl
    · rfl
    · exact hevents
  | linked certificate profileId =>
    apply StepSpec.of_quiet events
    · exact .of_updateWhere rfl fun r hr hmatch => hown r hr hmatch _ ⟨rfl, rfl, rfl, rfl⟩ rfl
    · exact Nat.le_refl _
    · exact map_key_updateWhere fun _ => rfl
    · rfl
    · exact hevents

theorem linkedBy_recorded {intent c : Nat} {t : Tables} :
    .recorded id c ∉ linkedBy intent certificate t t' := by
  unfold linkedBy
  split <;> simp

/-! ## §6. What a step does. -/

variable {a : Act} {phase : DrainPhase} {row : OutboxRow}

theorem truthyText_some {value : Option String} (h : truthyText value = some text) : value = some text :=
  (Option.filter_eq_some_iff.mp h).1

theorem startIntent_spec {job : Option JobStatus} {deadline now : Nat} :
    (∀ text, startIntent job deadline now row = .transaction text →
      row.payload.certificateId = some text) ∧
    ∀ q reason, startIntent job deadline now row = .outcome (.decided q reason) → q = false := by
  unfold startIntent
  split
  · exact ⟨nofun, fun q reason h => by cases h; rfl⟩
  rename_i text htext
  split
  · exact ⟨nofun, fun q reason h => by cases h; rfl⟩
  split
  · exact ⟨nofun, fun q reason h => by cases h; rfl⟩
  split
  · split
    · exact ⟨nofun, fun q reason h => by cases h; rfl⟩
    · exact ⟨nofun, nofun⟩
  split
  · exact ⟨nofun, fun q reason h => by cases h; rfl⟩
  · refine ⟨fun text' h => ?_, nofun⟩
    cases h
    exact truthyText_some htext

/-- A phase with no lock held and no success to write. -/
def DrainPhase.quiet : DrainPhase → Bool
  | .inTransaction _ _ => false
  | .returned _ (.decided queued _) => !queued
  | _ => true

theorem PhaseOk.of_quiet {t : Tables} (h : phase.quiet = true) : PhaseOk t claimId phase where
  held r text hphase := by
    rw [hphase] at h
    cases h
  decided r q reason hphase _ := by
    rw [hphase] at h
    simpa [DrainPhase.quiet] using h

/-- The phase of a drain that has taken a row. -/
theorem handleRow_spec {reads : HandleReads} (h : handleRow s d row reads = some phase) :
    phase.row = some row ∧ PhaseOk s.tables d.claimId phase := by
  unfold handleRow at h
  split at h
  · rename_i hevent
    split at h
    · rename_i outcome hstart
      cases h
      refine ⟨rfl, .of_quiet ?_⟩
      cases outcome with
      | decided q reason =>
        show (!q) = true
        rw [startIntent_spec.2 q reason hstart]
        rfl
      | deferred | completed => rfl
    · rename_i text hstart
      split at h
      · cases h
      split at h
      · cases h
        exact ⟨rfl, .of_quiet rfl⟩
      · rename_i current hcurrent
        split at h
        · rename_i hpending
          cases h
          obtain ⟨hmem, hmatch⟩ := selectOne_some hcurrent
          simp only [Bool.and_eq_true, decide_eq_true_eq] at hmatch
          refine ⟨rfl, fun r text' hphase => ?_, fun r q reason hphase => ?_⟩
          · cases hphase
            exact ⟨hevent, startIntent_spec.1 text hstart, current, hmem, hmatch.1, hpending,
              hmatch.2⟩
          · cases hphase
        · cases h
          exact ⟨rfl, .of_quiet rfl⟩
  · rename_i hevent
    cases h
    refine ⟨rfl, fun r text hphase => ?_, fun r q reason hphase hderivation => ?_⟩
    · cases hphase
    · injection hphase with hsame
      rw [← hsame] at hderivation
      exact absurd hderivation hevent

theorem DeriveWrite.completed {t : Tables} (h : DeriveWrite claimId row text t result) :
    ∃ status reason, result.1 = .completed status reason := by
  cases h with
  | skipped | linked => exact ⟨_, _, rfl⟩

/-- What a step has done. -/
inductive Did (s : State) (a : Act) : State → Prop
  | tick (ms : Nat) : Did s a { s with tables := { s.tables with now := s.tables.now + ms } }
  | wroteProfile (certificate : Nat) (profileId : Option Nat) :
      Did s a { s with tables := { s.tables with
        certificates := updateWhere (fun c => c.id = certificate)
          (fun c => { c with profileId := profileId }) s.tables.certificates } }
  | enqueued {ws : Nat} {eventType : OutboxEventType} {dedupeKey : String}
      {payload : OutboxPayload} {r : Option Nat × Tables} (hevent : eventType ≠ .profileDerivationRequested)
      (hok : enqueueOutboxEvent ws eventType dedupeKey payload s.tables = .ok r) :
      Did s a { s with tables := r.2 }
  | setUp {ws : Nat} {text : String} {reads : SetupReads} {r : Option Nat × Tables}
      (hok : renewalSetupJobCreator ws text reads s.tables = .ok r) :
      Did s a { s with tables := r.2, log := s.log ++ recordedBy text r.1 }
  | begun {ws : Nat} {text : String} {d : DetachTransaction}
      (hfree : (uuidIn text).any s.certificateLocked = false)
      (hok : beginDetach ws text s.tables = .ok d) : Did s a { s with detaches := s.detaches ++ [d] }
  | committed {d : DetachTransaction} (hd : d ∈ s.detaches) (ha : a = .commitDetach d.certificate)
      (hfree : ∀ r ∈ s.tables.outbox, d.withdraws r = true → s.rowLocked r.id = false) :
      Did s a { s with
        tables := commitDetach d s.tables
        detaches := deleteWhere (fun e => e.certificate = d.certificate) s.detaches
        log := s.log ++ [.detached d.certificate] }
  | rolledBack (certificate : Nat) :
      Did s a { s with detaches := deleteWhere (fun e => e.certificate = certificate) s.detaches }
  | retried {ws id : Nat} {t : Tables} (hfree : s.rowLocked id = false)
      (hok : retryRenewalSetupIntent ws id s.tables = .ok t) : Did s a { s with tables := t }
  | drained {t : State} {batchSize : Nat} (h : next s (.drain batchSize) = some t) : Did s a t
  | took {d : Drain} {row : OutboxRow} {rest : List OutboxRow} {phase : DrainPhase}
      (hd : d ∈ s.drains) (hrows : d.rows = row :: rest)
      (hrow : phase.row = some row) (hphase : PhaseOk s.tables d.claimId phase) :
      Did s a (s.setDrain { d with rows := rest, phase := phase })
  | threw {d : Drain} {row : OutboxRow} (message : String) (hd : d ∈ s.drains)
      (hrow : d.phase.row = some row) : Did s a (s.setDrain { d with phase := .threw row message })
  | derived {d : Drain} {row : OutboxRow} {text : String} {phase : DrainPhase}
      {result : HandlerOutcome × Tables} (hd : d ∈ s.drains) (hphase : d.phase = .inTransaction row text)
      (hwrite : DeriveWrite d.claimId row text s.tables result) (hrow : phase.row = some row)
      (hquiet : phase.quiet = true) :
      Did s a { s.setDrain { d with phase := phase } with
        tables := result.2
        log := s.log ++ ((uuidIn text).elim [] fun c => linkedBy row.id c s.tables result.2) }
  | settled {d : Drain} {row : OutboxRow} {outcome : HandlerOutcome} (hd : d ∈ s.drains)
      (hphase : d.phase = .returned row outcome)
      (hfree : s.rowLocked row.id = false) :
      Did s a { s.setDrain { d with phase := .next } with
        tables := settleOutcome row d.claimId s.tables outcome }
  | failed {d : Drain} {row : OutboxRow} {message : String} (hd : d ∈ s.drains)
      (hphase : d.phase = .threw row message)
      (hfree : s.rowLocked row.id = false) :
      Did s a { s.setDrain { d with phase := .next } with
        tables := settleError row d.claimId message s.tables }
  | crashed (claimId : Nat) :
      Did s a { s with drains := deleteWhere (fun d => d.claimId = claimId) s.drains }

theorem did_handle {reads : HandleReads} (hd : d ∈ s.drains) (h : handle s d reads = some t) :
    Did s a t := by
  unfold handle at h
  split at h
  · rename_i row rest hphase hrows
    obtain ⟨phase, hrow, rfl⟩ := Option.map_eq_some_iff.mp h
    obtain ⟨hcurrent, hok⟩ := handleRow_spec hrow
    exact .took hd hrows hcurrent hok
  · cases h

theorem did_derive {reads : DeriveReads} {acknowledged : Bool} (hd : d ∈ s.drains)
    (h : derive s d reads acknowledged = some t) : Did s a t := by
  unfold derive at h
  split at h
  · rename_i row text hphase
    obtain ⟨-, h⟩ := Option.ite_none_left_eq_some.mp h
    split at h
    · cases h
      exact .threw _ hd (congrArg DrainPhase.row hphase)
    · rename_i outcome t' hresult
      have hwrite := deriveIntent_ok hresult
      obtain ⟨status, reason, hcompleted⟩ := hwrite.completed
      cases h
      refine .derived hd hphase hwrite ?_ ?_
      · cases acknowledged <;> rfl
      · dsimp only at hcompleted
        subst hcompleted
        cases acknowledged <;> rfl
  · cases h

theorem did_failHandler (hd : d ∈ s.drains) (h : failHandler s d message = some t) :
    Did s a t := by
  unfold failHandler at h
  split at h
  · rename_i row rest hphase hrows
    cases h
    exact .took hd hrows rfl (.of_quiet rfl)
  · rename_i hphase
    cases h
    exact .threw _ hd (congrArg DrainPhase.row hphase)
  · rename_i hphase
    cases h
    exact .threw _ hd (congrArg DrainPhase.row hphase)
  · cases h

theorem did_settle (hd : d ∈ s.drains) (h : settle s d = some t) : Did s a t := by
  unfold settle at h
  split at h
  · rename_i hphase
    obtain ⟨hfree, h⟩ := Option.ite_none_left_eq_some.mp h
    cases h
    exact .settled hd hphase (Bool.not_eq_true _ ▸ hfree)
  · rename_i hphase
    obtain ⟨hfree, h⟩ := Option.ite_none_left_eq_some.mp h
    cases h
    exact .failed hd hphase (Bool.not_eq_true _ ▸ hfree)
  · cases h

/-- THE INVERSION of a step: the locks it needed and what it wrote. -/
theorem next_did (h : next s a = some t) : Did s a t := by
  cases a with
  | tick ms =>
    cases h
    exact .tick ms
  | writeProfile certificate profileId =>
    obtain ⟨-, h⟩ := Option.ite_none_left_eq_some.mp h
    cases h
    exact .wroteProfile certificate profileId
  | enqueueOther ws eventType dedupeKey payload =>
    obtain ⟨hevent, h⟩ := Option.ite_none_left_eq_some.mp h
    obtain ⟨r, hr, rfl⟩ := Option.map_eq_some_iff.mp h
    exact .enqueued hevent (toOption_some.mp hr)
  | renewalSetup ws text reads =>
    obtain ⟨-, h⟩ := Option.ite_none_left_eq_some.mp h
    obtain ⟨r, hr, rfl⟩ := Option.map_eq_some_iff.mp h
    exact .setUp (toOption_some.mp hr)
  | beginDetach ws text =>
    obtain ⟨hfree, h⟩ := Option.ite_none_left_eq_some.mp h
    obtain ⟨d, hd, rfl⟩ := Option.map_eq_some_iff.mp h
    exact .begun (Bool.not_eq_true _ ▸ hfree) (toOption_some.mp hd)
  | commitDetach certificate =>
    unfold next at h
    dsimp only at h
    split at h
    · cases h
    · rename_i d hd
      obtain ⟨hfree, h⟩ := Option.ite_none_left_eq_some.mp h
      obtain ⟨hmem, hcertificate⟩ := selectOne_some hd
      rw [decide_eq_true_eq] at hcertificate
      subst hcertificate
      cases h
      refine .committed hmem rfl fun r hr hwithdrawn => ?_
      by_contra hlocked
      rw [Bool.not_eq_false] at hlocked
      exact hfree (List.any_eq_true.mpr ⟨r, hr, by rw [hwithdrawn, hlocked]; rfl⟩)
  | rollbackDetach certificate =>
    cases h
    exact .rolledBack certificate
  | retryIntent ws outboxId =>
    obtain ⟨hfree, h⟩ := Option.ite_none_left_eq_some.mp h
    obtain ⟨t', ht', rfl⟩ := Option.map_eq_some_iff.mp h
    exact .retried (Bool.not_eq_true _ ▸ hfree) (toOption_some.mp ht')
  | drain batchSize => exact .drained h
  | handle claimId reads =>
    obtain ⟨d, hd, h⟩ := Option.bind_eq_some_iff.mp h
    exact did_handle (drainOf_some hd).1 h
  | derive claimId reads acknowledged =>
    obtain ⟨d, hd, h⟩ := Option.bind_eq_some_iff.mp h
    exact did_derive (drainOf_some hd).1 h
  | fail claimId message =>
    obtain ⟨d, hd, h⟩ := Option.bind_eq_some_iff.mp h
    exact did_failHandler (drainOf_some hd).1 h
  | settle claimId =>
    obtain ⟨d, hd, h⟩ := Option.bind_eq_some_iff.mp h
    exact did_settle (drainOf_some hd).1 h
  | crash claimId =>
    cases h
    exact .crashed claimId

/-- **THE FRAME OF A STEP.** -/
theorem next_spec (hinv : Inv s) (h : next s a = some t) : StepSpec s t := by
  cases next_did h with
  | tick ms =>
    apply StepSpec.of_quiet []
    · exact .of_eq rfl
    · exact Nat.le_refl _
    · rfl
    · exact (List.append_nil _).symm
    · simp
  | wroteProfile certificate profileId =>
    apply StepSpec.of_quiet []
    · exact .of_eq rfl
    · exact Nat.le_refl _
    · exact map_key_updateWhere fun _ => rfl
    · exact (List.append_nil _).symm
    · simp
  | enqueued hevent hok => exact enqueueOther_spec hevent hok
  | setUp hok => exact renewalSetup_spec hinv hok
  | begun | rolledBack | took | threw | crashed => exact .of_tables rfl rfl
  | committed _ _ hfree => exact commitDetach_spec (by simp) hfree
  | retried hfree hok =>
    refine StepSpec.of_rows (retryRenewalSetupIntent_ok hok) rfl fun r hr hmatch => ?_
    simp only [Bool.and_eq_true, decide_eq_true_eq] at hmatch
    refine .of_free ⟨rfl, rfl, rfl, rfl⟩ ?_ ?_ (.inr rfl)
    · rw [hmatch.1.2]
      exact rowLocked_false.mp hfree
    · rw [hmatch.2]
      rfl
  | drained h =>
    cases h
    exact drain_spec hinv rfl
  | @derived d row text phase result hd hphase hwrite _ hquiet =>
    refine derive_spec hinv hd hphase ?_ hwrite ?_
    · rintro row' text' rfl
      cases hquiet
    · intro id c
      cases uuidIn text with
      | none => simp
      | some certificate => exact linkedBy_recorded
  | settled _ _ hfree => exact settleOutcome_spec hinv hfree
  | failed _ _ hfree => exact settleError_spec hinv hfree

end TokenTimer.CertOps.Adoption
