/-
  TokenTimer.Distribution.Stranding — whether a rollout that is being worked on will be
  advanced again: the outbox rows it advances through (`handleDistributionIntent`,
  `drainCertOpsOutbox`, `deferOutboxRow`, `enqueueOutboxEvent`).

  A rollout becomes live with a row of its own, and a worker that advances it defers the
  row.  Two writes lose the row of a live rollout: a worker whose lease ran out before its
  handler marks the row `skipped` although nobody took it over, and a row whose handler
  throws five times (in a paused workspace it always does) is parked as `failed`.

  Main results:
    * `no_rollout_stranded` — in every run without these two, a live rollout has a pending
        row.
-/

import TokenTimer.Distribution.Convergence

namespace TokenTimer.Distribution

open Lib.Runs Lib.Table TokenTimer.CertOps

variable {cfg : Config} {s t u : State}

/-! ## §1. The property and the invariant. -/

/-- Every rollout in state `pending` or `deploying` has a pending row. -/
def Unstranded (s : State) : Prop :=
  ∀ r ∈ s.rollouts, r.state.live = true →
    ∃ row ∈ s.outbox, row.rolloutId = r.id ∧ row.status = .pending

/-- A worker that has its answer, and will close the row if it still holds it. -/
def Closing (s : State) (row : OutboxRow) : Prop :=
  ∃ d ∈ s.drains, d.owns row = true ∧ ∃ queued, d.outcome = some (.answered queued)

/-- The rollout has a pending row that nobody is about to close. -/
def HasRow (s : State) (rolloutId : Nat) : Prop :=
  ∃ row ∈ s.outbox, row.rolloutId = rolloutId ∧ row.status = .pending ∧ ¬Closing s row

structure Outbox (s : State) : Prop where
  rowKeys : KeyNodup OutboxRow.id s.outbox
  rowIds : ∀ row ∈ s.outbox, row.id < s.nextEventId ∧ row.rolloutId < s.nextRolloutId
  resumes : ∀ row ∈ s.outbox, ∀ uuid, row.dedupeKey = .resume uuid → uuid < s.nextEventId
  claims : ∀ row ∈ s.outbox, ∀ claimId, row.claimId = some claimId →
    claimId < s.nextClaimId ∧ row.status = .pending
  drainKeys : KeyNodup Drain.claimId s.drains
  drainIds : ∀ d ∈ s.drains, d.claimId < s.nextClaimId ∧ d.rowId < s.nextEventId
  drainRows : ∀ d ∈ s.drains, ∀ row ∈ s.outbox, row.id = d.rowId → row.rolloutId = d.rolloutId

/-- The outbox has its shape, and every live rollout has a row. -/
structure Driven (s : State) : Prop where
  outbox : Outbox s
  rows : ∀ r ∈ s.rollouts, r.state.live = true → HasRow s r.id

variable {key : DedupeKey} {d : Drain} {claimId rolloutId : Nat}

theorem owns_iff {row : OutboxRow} :
    d.owns row = true ↔ row.id = d.rowId ∧ row.claimId = some d.claimId := by
  unfold Drain.owns
  simp

theorem Driven.init (h : Init s) : Driven s where
  outbox := by
    refine ⟨?_, ?_, ?_, ?_, ?_, ?_, ?_⟩ <;> simp [KeyNodup, h.outbox, h.drains]
  rows := by
    intro r hr
    rw [h.rollouts] at hr
    cases hr

theorem Driven.unstranded (h : Driven s) : Unstranded s := by
  intro r hr hlive
  obtain ⟨row, hrow, hrollout, hpending, -⟩ := h.rows r hr hlive
  exact ⟨row, hrow, hrollout, hpending⟩

/-! ## §2. Steps that leave the outbox alone, and new rows. -/

theorem Outbox.congr (h : Outbox s) (houtbox : t.outbox = s.outbox) (hdrains : t.drains = s.drains)
    (hevent : t.nextEventId = s.nextEventId) (hclaim : s.nextClaimId ≤ t.nextClaimId)
    (hrollout : s.nextRolloutId ≤ t.nextRolloutId) : Outbox t where
  rowKeys := houtbox ▸ h.rowKeys
  rowIds := by
    intro row hrow
    have := h.rowIds row (houtbox ▸ hrow)
    omega
  resumes := by
    rw [hevent, houtbox]
    exact h.resumes
  claims := by
    intro row hrow claimId hclaimed
    obtain ⟨hlt, hpending⟩ := h.claims row (houtbox ▸ hrow) claimId hclaimed
    exact ⟨by omega, hpending⟩
  drainKeys := hdrains ▸ h.drainKeys
  drainIds := by
    intro d hd
    have := h.drainIds d (hdrains ▸ hd)
    omega
  drainRows := by
    rw [houtbox, hdrains]
    exact h.drainRows

theorem HasRow.mono (h : HasRow s rolloutId) (houtbox : s.outbox ⊆ t.outbox)
    (hdrains : t.drains ⊆ s.drains) : HasRow t rolloutId := by
  obtain ⟨row, hrow, hrollout, hpending, hopen⟩ := h
  refine ⟨row, houtbox hrow, hrollout, hpending, ?_⟩
  rintro ⟨d, hd, howns, hclosing⟩
  exact hopen ⟨d, hdrains hd, howns, hclosing⟩

theorem enqueue_outbox_subset (s : State) (rolloutId : Nat) (key : DedupeKey) :
    s.outbox ⊆ (s.enqueue rolloutId key).outbox := by
  obtain ⟨heq, -⟩ | heq := enqueue_cases s rolloutId key
  · rw [heq]
    exact List.Subset.refl _
  · rw [heq]
    exact List.subset_append_left _ _

theorem Outbox.enqueue (h : Outbox s) (hrollout : rolloutId < s.nextRolloutId)
    (hkey : ∀ uuid, key = .resume uuid → uuid ≤ s.nextEventId) :
    Outbox (s.enqueue rolloutId key) := by
  obtain ⟨heq, -⟩ | heq := enqueue_cases s rolloutId key
  · rw [heq]
    exact h
  · rw [heq]
    refine ⟨?_, ?_, ?_, ?_, h.drainKeys, ?_, ?_⟩
    · apply keyNodup_append_singleton h.rowKeys
      intro row hrow
      have := (h.rowIds row hrow).1
      show row.id ≠ s.nextEventId
      omega
    · intro row hrow
      show row.id < s.nextEventId + 1 ∧ row.rolloutId < s.nextRolloutId
      obtain hrow | hrow := List.mem_append.mp hrow
      · have := h.rowIds row hrow
        omega
      · obtain rfl := List.mem_singleton.mp hrow
        exact ⟨Nat.lt_succ_self _, hrollout⟩
    · intro row hrow uuid hresume
      show uuid < s.nextEventId + 1
      obtain hrow | hrow := List.mem_append.mp hrow
      · have := h.resumes row hrow uuid hresume
        omega
      · obtain rfl := List.mem_singleton.mp hrow
        have := hkey uuid hresume
        omega
    · intro row hrow claimId hclaimed
      obtain hrow | hrow := List.mem_append.mp hrow
      · exact h.claims row hrow claimId hclaimed
      · obtain rfl := List.mem_singleton.mp hrow
        cases hclaimed
    · intro d hd
      have := h.drainIds d hd
      show d.claimId < s.nextClaimId ∧ d.rowId < s.nextEventId + 1
      omega
    · intro d hd row hrow hid
      obtain hrow | hrow := List.mem_append.mp hrow
      · exact h.drainRows d hd row hrow hid
      · obtain rfl := List.mem_singleton.mp hrow
        have := (h.drainIds d hd).2
        change s.nextEventId = d.rowId at hid
        omega

/-- A row under a key of its own is there, and nobody holds it. -/
theorem HasRow.enqueue (hfresh : ∀ row ∈ s.outbox, ¬(row.rolloutId = rolloutId ∧ row.dedupeKey = key)) :
    HasRow (s.enqueue rolloutId key) rolloutId := by
  obtain ⟨-, row, hrow, hkey⟩ | heq := enqueue_cases s rolloutId key
  · exact absurd hkey (hfresh row hrow)
  · rw [heq]
    refine ⟨_, List.mem_append_right _ (List.mem_singleton_self _), rfl, rfl, ?_⟩
    rintro ⟨d, -, howns, -⟩
    cases (owns_iff.mp howns).2

/-! ## §3. The drain. -/

/-- A write of rows that keeps what they are about. -/
theorem Outbox.setOutbox (h : Outbox s) {p : OutboxRow → Bool} {f : OutboxRow → OutboxRow}
    (hf : ∀ row, (f row).id = row.id ∧ (f row).rolloutId = row.rolloutId ∧
      (f row).dedupeKey = row.dedupeKey)
    (hclaims : ∀ row ∈ s.outbox, p row = true → ∀ claimId, (f row).claimId = some claimId →
      claimId < s.nextClaimId ∧ (f row).status = .pending) : Outbox (s.setOutbox p f) := by
  -- what a row of the state after was before
  have hmem : ∀ row' ∈ (s.setOutbox p f).outbox, ∃ row ∈ s.outbox, row'.id = row.id ∧
      row'.rolloutId = row.rolloutId ∧ row'.dedupeKey = row.dedupeKey ∧
      (row' = row ∨ p row = true ∧ row' = f row) := by
    intro row' hrow'
    obtain ⟨row, hrow, rfl⟩ := mem_updateWhere.mp hrow'
    by_cases hp : p row = true
    · rw [if_pos hp]
      exact ⟨row, hrow, (hf row).1, (hf row).2.1, (hf row).2.2, .inr ⟨hp, rfl⟩⟩
    · rw [if_neg hp]
      exact ⟨row, hrow, rfl, rfl, rfl, .inl rfl⟩
  refine ⟨keyNodup_updateWhere (fun row => (hf row).1) h.rowKeys, ?_, ?_, ?_, h.drainKeys, h.drainIds, ?_⟩
  · intro row' hrow'
    obtain ⟨row, hrow, hid, hrollout, -⟩ := hmem row' hrow'
    rw [hid, hrollout]
    exact h.rowIds row hrow
  · intro row' hrow' uuid hresume
    obtain ⟨row, hrow, -, -, hkey, -⟩ := hmem row' hrow'
    exact h.resumes row hrow uuid (hkey ▸ hresume)
  · intro row' hrow' claimId hclaimed
    obtain ⟨row, hrow, -, -, -, rfl | ⟨hp, rfl⟩⟩ := hmem row' hrow'
    · exact h.claims row' hrow claimId hclaimed
    · exact hclaims row hrow hp claimId hclaimed
  · intro d hd row' hrow' hid
    obtain ⟨row, hrow, hsame, hrollout, -⟩ := hmem row' hrow'
    rw [hrollout]
    exact h.drainRows d hd row hrow (hsame.symm.trans hid)

theorem Outbox.withDrains (h : Outbox s) {drains : List Drain} (hkeys : KeyNodup Drain.claimId drains)
    (hsub : ∀ d ∈ drains, ∃ e ∈ s.drains, e.claimId = d.claimId ∧ e.rowId = d.rowId ∧
      e.rolloutId = d.rolloutId) : Outbox { s with drains := drains } :=
  { h with
    drainKeys := hkeys
    drainIds := by
      intro d hd
      obtain ⟨e, he, hclaim, hrow, -⟩ := hsub d hd
      rw [← hclaim, ← hrow]
      exact h.drainIds e he
    drainRows := by
      intro d hd row hrow hid
      obtain ⟨e, he, -, herow, herollout⟩ := hsub d hd
      rw [← herollout]
      exact h.drainRows e he row hrow (hid.trans herow.symm) }

theorem Outbox.claimEvent (h : Outbox s) {rowId : Nat} (hclaim : claimEvent rowId s = some t) :
    Outbox t := by
  obtain ⟨row, hrow, hpending, rfl⟩ := claimEvent_ok hclaim
  obtain ⟨hmem, hid⟩ := event_some hrow
  have hroom : Outbox { s with nextClaimId := s.nextClaimId + 1 } :=
    h.congr rfl rfl rfl (Nat.le_succ _) le_rfl
  have hrows : Outbox ({ s with nextClaimId := s.nextClaimId + 1 }.setOutbox
      (fun row => row.id = rowId) (OutboxRow.claimed s.nextClaimId s.now)) := by
    refine hroom.setOutbox ?_ ?_
    · intro row
      exact ⟨rfl, rfl, rfl⟩
    intro x hx hxid claimId hclaimed
    have hxrow : x = row := h.rowKeys.eq_of_mem hx hmem ((by simpa using hxid : x.id = rowId).trans hid.symm)
    subst hxrow
    obtain rfl := Option.some.inj hclaimed
    exact ⟨Nat.lt_succ_self _, hpending⟩
  refine { hrows with drainKeys := ?_, drainIds := ?_, drainRows := ?_ }
  · apply keyNodup_append_singleton h.drainKeys
    intro d hd
    have := (h.drainIds d hd).1
    show d.claimId ≠ s.nextClaimId
    omega
  · intro d hd
    obtain hd | hd := List.mem_append.mp hd
    · exact hrows.drainIds d hd
    · obtain rfl := List.mem_singleton.mp hd
      exact ⟨Nat.lt_succ_self _, (h.rowIds row hmem).1⟩
  · intro d hd x hx hxid
    obtain hd | hd := List.mem_append.mp hd
    · exact hrows.drainRows d hd x hx hxid
    · obtain rfl := List.mem_singleton.mp hd
      obtain ⟨y, hy, rfl⟩ := mem_updateWhere.mp hx
      have hyid : y.id = row.id := by
        split at hxid <;> exact hxid
      have hyrow : y = row := h.rowKeys.eq_of_mem hy hmem hyid
      subst hyrow
      split <;> rfl

theorem HasRow.claimEvent (h : Outbox s) {rowId : Nat} (hrow : HasRow s rolloutId)
    (hclaim : claimEvent rowId s = some t) : HasRow t rolloutId := by
  obtain ⟨row, hrow', hpending', rfl⟩ := claimEvent_ok hclaim
  obtain ⟨w, hw, hrollout, hpending, hopen⟩ := hrow
  by_cases hid : w.id = rowId
  · refine ⟨w.claimed s.nextClaimId s.now, mem_updateWhere.mpr ⟨w, hw, ?_⟩, hrollout, hpending, ?_⟩
    · rw [if_pos (by simpa using hid)]
    · rintro ⟨d, hd, howns, queued, houtcome⟩
      obtain hd | hd := List.mem_append.mp hd
      · have hclaimed : s.nextClaimId = d.claimId := Option.some.inj (owns_iff.mp howns).2
        have := (h.drainIds d hd).1
        omega
      · obtain rfl := List.mem_singleton.mp hd
        cases houtcome
  · refine ⟨w, mem_updateWhere.mpr ⟨w, hw, ?_⟩, hrollout, hpending, ?_⟩
    · rw [if_neg (by simpa using hid)]
    · rintro ⟨d, hd, howns, hclosing⟩
      obtain hd | hd := List.mem_append.mp hd
      · exact hopen ⟨d, hd, howns, hclosing⟩
      · obtain rfl := List.mem_singleton.mp hd
        obtain ⟨queued, houtcome⟩ := hclosing
        cases houtcome

theorem mem_answer {outcome : Outcome} (h : d ∈ (s.answer claimId outcome).drains) :
    ∃ e ∈ s.drains, e.claimId = d.claimId ∧ e.rowId = d.rowId ∧ e.rolloutId = d.rolloutId ∧
      (d = e ∧ e.claimId ≠ claimId ∨ e.claimId = claimId ∧ d.outcome = some outcome) := by
  obtain ⟨e, he, rfl⟩ := mem_updateWhere.mp h
  by_cases hid : e.claimId = claimId
  · rw [if_pos (by simpa using hid)]
    exact ⟨e, he, rfl, rfl, rfl, .inr ⟨hid, rfl⟩⟩
  · rw [if_neg (by simpa using hid)]
    exact ⟨e, he, rfl, rfl, rfl, .inl ⟨rfl, hid⟩⟩

theorem Outbox.answer (h : Outbox s) (claimId : Nat) (outcome : Outcome) :
    Outbox (s.answer claimId outcome) := by
  refine h.withDrains ?_ ?_
  · exact keyNodup_updateWhere (fun _ => rfl) h.drainKeys
  · intro d hd
    obtain ⟨e, he, hclaim, hrow, hrollout, -⟩ := mem_answer hd
    exact ⟨e, he, hclaim, hrow, hrollout⟩

theorem HasRow.answer (hs : Outbox s) {outcome : Outcome} (h : HasRow s rolloutId)
    (hother : (∀ queued, outcome ≠ .answered queued) ∨ ∀ d ∈ s.drains, d.claimId = claimId → d.rolloutId ≠ rolloutId) :
    HasRow (s.answer claimId outcome) rolloutId := by
  obtain ⟨w, hw, hrollout, hpending, hopen⟩ := h
  refine ⟨w, hw, hrollout, hpending, ?_⟩
  rintro ⟨d, hd, howns, queued, houtcome⟩
  obtain ⟨e, he, -, hrow, -, ⟨rfl, -⟩ | ⟨hid, hanswer⟩⟩ := mem_answer hd
  · exact hopen ⟨d, he, howns, queued, houtcome⟩
  · obtain hother | hother := hother
    · rw [houtcome] at hanswer
      exact hother queued (Option.some.inj hanswer).symm
    · apply hother e he hid
      rw [← hs.drainRows e he w hw ((owns_iff.mp howns).1.trans hrow.symm), hrollout]

theorem finish_rest (now : Nat) (d : Drain) (row : OutboxRow) (outcome : Outcome) :
    (row.finish now d outcome).id = row.id ∧ (row.finish now d outcome).rolloutId = row.rolloutId ∧
      (row.finish now d outcome).dedupeKey = row.dedupeKey ∧
      (row.finish now d outcome).claimId = none := by
  cases outcome <;> exact ⟨rfl, rfl, rfl, rfl⟩

theorem Outbox.finishEvent (h : Outbox s) (hfinish : finishEvent claimId s = some t) :
    Outbox t := by
  obtain ⟨d, -, outcome, -, -, rfl⟩ := finishEvent_ok hfinish
  have hrows : Outbox (s.setOutbox d.owns fun row => row.finish s.now d outcome) := by
    apply h.setOutbox
    · intro row
      obtain ⟨hid, hrollout, hkey, -⟩ := finish_rest s.now d row outcome
      exact ⟨hid, hrollout, hkey⟩
    · intro row _ _ claimId hclaimed
      rw [(finish_rest s.now d row outcome).2.2.2] at hclaimed
      cases hclaimed
  apply hrows.withDrains (keyNodup_deleteWhere h.drainKeys)
  intro e he
  exact ⟨e, (mem_deleteWhere.mp he).1, rfl, rfl, rfl⟩

/-- A worker finishes a row of a live rollout that it still holds only with an answer, and
    with an error only where attempts are left. -/
def RowSafe (s : State) : Event → Prop
  | .finishEvent claimId =>
    ∀ d ∈ s.drains, d.claimId = claimId → (∃ row ∈ s.outbox, d.owns row = true) →
      (∃ r ∈ s.rollouts, r.id = d.rolloutId ∧ r.state.live = true) →
        d.outcome ≠ some .claimLost ∧ (d.outcome = some .thrown → d.attemptCount < d.maxAttempts)
  | _ => True

instance (s : State) : DecidablePred (RowSafe s)
  | .finishEvent claimId =>
    inferInstanceAs (Decidable (∀ d ∈ s.drains, d.claimId = claimId →
      (∃ row ∈ s.outbox, d.owns row = true) →
      (∃ r ∈ s.rollouts, r.id = d.rolloutId ∧ r.state.live = true) →
        d.outcome ≠ some .claimLost ∧ (d.outcome = some .thrown → d.attemptCount < d.maxAttempts)))
  | .wait _ | .setPaused _ | .endGroup | .publish _ | .retireVersion _ | .putBinding _ _ _
  | .createSnapshot _ _ _ _ | .setRolloutState _ _ _ | .claimJob _ _ _ | .renewLease _ _ _
  | .result _ _ _ _ _ | .reap _ | .moveJob _ _ | .retryJob _ _ _ | .claimEvent _
  | .handleEvent _ _ _ _ | .dropEvent _ | .resetEvent _ => .isTrue trivial

/-- The row of a live rollout survives its worker. -/
theorem HasRow.finishEvent (h : Outbox s) (hrow : HasRow s rolloutId)
    (hlive : ∃ r ∈ s.rollouts, r.id = rolloutId ∧ r.state.live = true)
    (hok : RowSafe s (.finishEvent claimId)) (hfinish : finishEvent claimId s = some t) :
    HasRow t rolloutId := by
  obtain ⟨d, hd, outcome, hid, houtcome, rfl⟩ := finishEvent_ok hfinish
  obtain ⟨w, hw, hrollout, hpending, hopen⟩ := hrow
  by_cases howns : d.owns w = true
  · refine ⟨w.finish s.now d outcome, mem_updateWhere.mpr ⟨w, hw, by rw [if_pos howns]⟩, ?_, ?_, ?_⟩
    · rw [(finish_rest s.now d w outcome).2.1, hrollout]
    · have hsame : w.rolloutId = d.rolloutId := h.drainRows d hd w hw (owns_iff.mp howns).1
      obtain ⟨hnotlost, hleft⟩ := hok d hd hid ⟨w, hw, howns⟩ (by rw [← hsame, hrollout]; exact hlive)
      cases outcome with
      | deferred retryInMs => exact hpending
      | claimLost => exact absurd houtcome hnotlost
      | answered queued => exact absurd ⟨d, hd, howns, queued, houtcome⟩ hopen
      | thrown =>
        have hleft := hleft houtcome
        show (if d.maxAttempts ≤ d.attemptCount then OutboxStatus.failed else .pending) = .pending
        rw [if_neg (by omega)]
    · rintro ⟨e, -, heowns, -⟩
      rw [owns_iff, (finish_rest s.now d w outcome).2.2.2] at heowns
      cases heowns.2
  · refine ⟨w, mem_updateWhere.mpr ⟨w, hw, by rw [if_neg howns]⟩, hrollout, hpending, ?_⟩
    rintro ⟨e, he, heowns, hclosing⟩
    exact hopen ⟨e, (mem_deleteWhere.mp he).1, heowns, hclosing⟩

/-! ## §4. Steps. -/

theorem Driven.quiet (h : Driven s) (houtbox : t.outbox = s.outbox) (hdrains : t.drains = s.drains)
    (hevent : t.nextEventId = s.nextEventId) (hclaim : s.nextClaimId ≤ t.nextClaimId)
    (hrollout : s.nextRolloutId ≤ t.nextRolloutId)
    (hrollouts : ∀ r ∈ t.rollouts, r.state.live = true → r ∈ s.rollouts) : Driven t where
  outbox := h.outbox.congr houtbox hdrains hevent hclaim hrollout
  rows := by
    intro r hr hlive
    apply (h.rows r (hrollouts r hr hlive) hlive).mono
    · rw [houtbox]
      exact List.Subset.refl _
    · rw [hdrains]
      exact List.Subset.refl _

theorem Driven.enqueue (h : Driven s) (hrollout : rolloutId < s.nextRolloutId)
    (hkey : ∀ uuid, key = .resume uuid → uuid ≤ s.nextEventId) :
    Driven (s.enqueue rolloutId key) where
  outbox := h.outbox.enqueue hrollout hkey
  rows := by
    intro r hr hlive
    rw [enqueue_rollouts] at hr
    apply (h.rows r hr hlive).mono (enqueue_outbox_subset s rolloutId key)
    rw [enqueue_drains]
    exact List.Subset.refl _

theorem Driven.enqueueFor (h : Outbox s) (hrollout : rolloutId < s.nextRolloutId)
    (hkey : ∀ uuid, key = .resume uuid → uuid ≤ s.nextEventId)
    (hfresh : ∀ row ∈ s.outbox, ¬(row.rolloutId = rolloutId ∧ row.dedupeKey = key))
    (hrows : ∀ r ∈ s.rollouts, r.state.live = true → r.id ≠ rolloutId → HasRow s r.id) :
    Driven (s.enqueue rolloutId key) where
  outbox := h.enqueue hrollout hkey
  rows := by
    intro r hr hlive
    rw [enqueue_rollouts] at hr
    by_cases hid : r.id = rolloutId
    · rw [hid]
      exact .enqueue hfresh
    · apply (hrows r hr hlive hid).mono (enqueue_outbox_subset s rolloutId key)
      rw [enqueue_drains]
      exact List.Subset.refl _

theorem Driven.setRolloutState (h : Driven s) (hs : Snapshots s) {state : RolloutState}
    {authority : Bool} (hset : setRolloutState rolloutId state authority s = some t) : Driven t := by
  obtain ⟨hstate, rfl⟩ | ⟨⟨r, hr⟩, rfl⟩ := setRolloutState_ok hset
  · refine h.quiet rfl rfl rfl le_rfl le_rfl ?_
    intro r hr hlive
    obtain ⟨hr, -⟩ | ⟨-, hmoved⟩ := mem_setRollout hr
    · exact hr
    · rw [hmoved] at hlive
      obtain rfl | rfl := hstate <;> cases hlive
  · obtain ⟨hmem, hid⟩ := rollout_some hr
    have hshape : Outbox (s.setRollout rolloutId .deploying) :=
      h.outbox.congr rfl rfl rfl le_rfl le_rfl
    refine .enqueueFor hshape ?_ ?_ ?_ ?_
    · rw [← hid]
      exact (hs.rolloutIds r hmem).1
    · intro uuid hkey
      cases hkey
      exact le_rfl
    · rintro row hrow ⟨-, hkey⟩
      have := h.outbox.resumes row hrow _ hkey
      omega
    · intro q hq hlive hother
      obtain ⟨hq, -⟩ | ⟨hsame, -⟩ := mem_setRollout hq
      · exact (h.rows q hq hlive).mono (List.Subset.refl _) (List.Subset.refl _)
      · exact absurd hsame hother

theorem Driven.snapshot (h : Driven s) {versionId maxParallel : Nat} {verificationOnly approved : Bool}
    (hsnapshot : createRolloutSnapshot versionId maxParallel verificationOnly approved s = some t) :
    Driven t := by
  obtain ⟨-, rfl⟩ := createRolloutSnapshot_ok hsnapshot
  have hshape : Outbox (s.withSnapshot versionId maxParallel verificationOnly) :=
    h.outbox.congr rfl rfl rfl le_rfl (Nat.le_succ _)
  refine .enqueueFor hshape ?_ ?_ ?_ ?_
  · exact Nat.lt_succ_self _
  · intro uuid hkey
    cases hkey
  · rintro row hrow ⟨hid, -⟩
    have := (h.outbox.rowIds row hrow).2
    omega
  · intro r hr hlive hother
    obtain hr | hr := List.mem_append.mp hr
    · exact (h.rows r hr hlive).mono (List.Subset.refl _) (List.Subset.refl _)
    · obtain rfl := List.mem_singleton.mp hr
      exact absurd rfl hother

theorem Settled.enqueued {j : Job} {jobStatus : JobStatus} (h : Settled cfg s j jobStatus u) :
    ∃ v : State, u = v.enqueue j.intent.rolloutId (.result j.id j.claimId) ∧ v.outbox = s.outbox ∧
      v.drains = s.drains ∧ v.nextEventId = s.nextEventId ∧ v.nextClaimId = s.nextClaimId ∧
      v.nextRolloutId = s.nextRolloutId ∧ v.rollouts = s.rollouts := by
  cases h with
  | failed => exact ⟨_, rfl, rfl, rfl, rfl, rfl, rfl, rfl⟩
  | receipt receipt fenceBusy haccept =>
    obtain ⟨row, -, -, rfl | ⟨-, rfl⟩⟩ := acceptDeploymentReceipt_ok haccept <;>
      exact ⟨_, rfl, rfl, rfl, rfl, rfl, rfl, rfl⟩

theorem startJobs_counters {r : Rollout} {fingerprintSha256 : String} {status : JobStatus} :
    (s.startJobs r fingerprintSha256 status).nextEventId = s.nextEventId ∧
      (s.startJobs r fingerprintSha256 status).nextClaimId = s.nextClaimId ∧
      (s.startJobs r fingerprintSha256 status).nextRolloutId = s.nextRolloutId := by
  unfold State.startJobs
  generalize s.toStart r = ds
  induction ds generalizing s with
  | nil => exact ⟨rfl, rfl, rfl⟩
  | cons d ds ih =>
    rw [List.foldl_cons, ih.1, ih.2.1, ih.2.2]
    unfold State.startJob State.createJob
    split <;> exact ⟨rfl, rfl, rfl⟩

theorem Driven.stop (h : Driven s) (hd : d ∈ s.drains) {state : RolloutState}
    (hstate : state.live = false) (queued : Bool) :
    Driven ((s.setRollout d.rolloutId state).answer d.claimId (.answered queued)) := by
  have hshape : Outbox (s.setRollout d.rolloutId state) := h.outbox.congr rfl rfl rfl le_rfl le_rfl
  refine ⟨hshape.answer _ _, ?_⟩
  intro r hr hlive
  obtain ⟨hr, hother⟩ | ⟨-, hmoved⟩ := mem_setRollout hr
  · have hrow : HasRow (s.setRollout d.rolloutId state) r.id :=
      (h.rows r hr hlive).mono (List.Subset.refl _) (List.Subset.refl _)
    apply hrow.answer hshape
    right
    intro e he hclaim hsame
    have hed : e = d := h.outbox.drainKeys.eq_of_mem he hd hclaim
    exact hother (by rw [← hsame, hed])
  · rw [hmoved, hstate] at hlive
    cases hlive

theorem finalState_not_live (s : State) (rolloutId : Nat) : (s.finalState rolloutId).live = false := by
  unfold State.finalState
  dsimp only
  split
  · rfl
  · split <;> rfl

theorem Driven.handled (h : Driven s) (hs : Snapshots s) {status : JobStatus} (hd : d ∈ s.drains)
    (hhandled : Handled s status d t) : Driven t := by
  cases hhandled with
  | claimLost | thrown =>
    refine ⟨h.outbox.answer _ _, ?_⟩
    intro r hr hlive
    exact (h.rows r hr hlive).answer h.outbox (.inl (by simp))
  | advanced hheld hadvanced =>
    cases hadvanced with
    | inactive hover =>
      refine ⟨h.outbox.answer _ _, ?_⟩
      intro r hr hlive
      apply (h.rows r hr hlive).answer h.outbox
      right
      intro e he hclaim hsame
      have hed : e = d := h.outbox.drainKeys.eq_of_mem he hd hclaim
      have := hover r (by rw [← hed, hsame]; exact hs.rollout_eq hr)
      rw [hlive] at this
      cases this
    | stopped state hstate =>
      apply h.stop hd
      obtain rfl | rfl := hstate <;> rfl
    | finished => exact h.stop hd (finalState_not_live s _) true
    | started r fingerprintSha256 =>
      obtain ⟨-, hrollouts, -, -, -, -, -, houtbox, hdrains⟩ := @startJobs_rest s status r fingerprintSha256
      obtain ⟨hevent, hclaim, hrollout⟩ := @startJobs_counters s r fingerprintSha256 status
      have hshape : Outbox ((s.startJobs r fingerprintSha256 status).setRollout d.rolloutId .deploying) :=
        h.outbox.congr houtbox hdrains hevent hclaim.ge hrollout.ge
      refine ⟨hshape.answer _ _, ?_⟩
      intro q hq hlive
      obtain ⟨hq, hother⟩ | ⟨hsame, -⟩ := mem_setRollout hq
      · rw [hrollouts] at hq
        have hrow : HasRow ((s.startJobs r fingerprintSha256 status).setRollout d.rolloutId .deploying)
            q.id := by
          apply (h.rows q hq hlive).mono
          · exact houtbox.symm ▸ List.Subset.refl _
          · exact hdrains ▸ List.Subset.refl _
        exact hrow.answer hshape (.inl (by simp))
      · -- the row in hand is deferred
        unfold State.holds at hheld
        obtain ⟨w, hw, hheld⟩ := (Option.any_eq_true _ _).mp hheld
        simp only [Bool.and_eq_true, decide_eq_true_eq] at hheld
        obtain ⟨hwmem, hwid⟩ := event_some hw
        refine ⟨w, ?_, ?_, (h.outbox.claims w hwmem _ hheld.1).2, ?_⟩
        · show w ∈ (s.startJobs r fingerprintSha256 status).outbox
          rw [houtbox]
          exact hwmem
        · rw [hsame]
          exact h.outbox.drainRows d hd w hwmem hwid
        · rintro ⟨e, he, howns, queued, houtcome⟩
          obtain ⟨x, -, hxclaim, -, -, ⟨rfl, hne⟩ | ⟨-, hanswer⟩⟩ := mem_answer he
          · apply hne
            have := (owns_iff.mp howns).2
            rw [hheld.1] at this
            exact (Option.some.inj this).symm
          · rw [houtcome] at hanswer
            cases hanswer

theorem Driven.step {e : Event} (h : Driven s) (hs : Snapshots s) (hok : RowSafe s e)
    (hstep : next cfg s e = some t) : Driven t := by
  have hsame : ∀ r ∈ s.rollouts, r.state.live = true → r ∈ s.rollouts := fun _ hr _ => hr
  cases e <;> dsimp only [next] at hstep
  case wait => cases hstep; exact h.quiet rfl rfl rfl le_rfl le_rfl hsame
  case setPaused => cases hstep; exact h.quiet rfl rfl rfl le_rfl le_rfl hsame
  case endGroup => cases hstep; exact h.quiet rfl rfl rfl le_rfl le_rfl hsame
  case publish =>
    split at hstep
    · cases hstep; exact h.quiet rfl rfl rfl le_rfl le_rfl hsame
    · cases hstep
  case retireVersion => cases hstep; exact h.quiet rfl rfl rfl le_rfl le_rfl hsame
  case putBinding =>
    obtain rfl | ⟨-, -, -, rfl⟩ | ⟨-, rfl⟩ := putBinding_ok hstep <;>
      exact h.quiet rfl rfl rfl le_rfl le_rfl hsame
  case createSnapshot => exact h.snapshot hstep
  case setRolloutState => exact h.setRolloutState hs hstep
  case claimJob =>
    obtain ⟨j, -, -, -, -, rfl⟩ := claimJob_ok hstep
    exact h.quiet rfl rfl rfl (Nat.le_succ _) le_rfl hsame
  case renewLease =>
    obtain ⟨j, -, -, -, rfl⟩ := renewLease_ok hstep
    exact h.quiet rfl rfl rfl le_rfl le_rfl hsame
  case result =>
    obtain ⟨j, u, hj, -, -, hsettled, rfl⟩ := ingestResult_ok hstep
    obtain ⟨v, rfl, houtbox, hdrains, hevent, hclaim, hrollout, hrollouts⟩ := hsettled.enqueued
    have hv : Driven v := h.quiet houtbox hdrains hevent hclaim.ge hrollout.ge (hrollouts ▸ hsame)
    refine (hv.enqueue ?_ ?_).quiet rfl rfl rfl le_rfl le_rfl fun _ hr _ => hr
    · obtain ⟨d, -, -, -, r, hr, -, hintent⟩ := hs.owned j (job_some hj).1
      have := (hs.rolloutIds r hr).1
      rw [hintent, hrollout]
      exact this
    · intro uuid hkey
      cases hkey
  case reap =>
    obtain ⟨j, -, -, rfl⟩ := reap_ok hstep
    exact h.quiet rfl rfl rfl le_rfl le_rfl hsame
  case moveJob =>
    obtain ⟨j, -, -, -, rfl⟩ := moveJob_ok hstep
    exact h.quiet rfl rfl rfl le_rfl le_rfl hsame
  case retryJob =>
    obtain ⟨j, d, r, -, -, -, -, -, -, -, rfl⟩ := retryDistributionJob_ok hstep
    by_cases hdegraded : r.state = .degraded
    · simp only [if_pos hdegraded]
      refine h.quiet rfl rfl rfl le_rfl le_rfl ?_
      intro q hq hlive
      obtain ⟨hq, -⟩ | ⟨-, hmoved⟩ := mem_setRollout hq
      · exact hq
      · rw [hmoved] at hlive
        cases hlive
    · simp only [if_neg hdegraded]
      exact h.quiet rfl rfl rfl le_rfl le_rfl hsame
  case claimEvent =>
    refine ⟨h.outbox.claimEvent hstep, ?_⟩
    intro r hr hlive
    have hrollouts : t.rollouts = s.rollouts := by
      obtain ⟨row, -, -, rfl⟩ := claimEvent_ok hstep
      rfl
    exact (h.rows r (hrollouts ▸ hr) hlive).claimEvent h.outbox hstep
  case handleEvent =>
    obtain ⟨d, hd, -, -, hhandled⟩ := handleEvent_ok hstep
    exact h.handled hs hd hhandled
  case finishEvent =>
    refine ⟨h.outbox.finishEvent hstep, ?_⟩
    intro r hr hlive
    have hrollouts : t.rollouts = s.rollouts := by
      obtain ⟨d, -, outcome, -, -, rfl⟩ := finishEvent_ok hstep
      rfl
    have hr : r ∈ s.rollouts := hrollouts ▸ hr
    exact (h.rows r hr hlive).finishEvent h.outbox ⟨r, hr, rfl, hlive⟩ hok hstep
  case dropEvent claimId =>
    cases hstep
    refine ⟨h.outbox.withDrains (keyNodup_deleteWhere h.outbox.drainKeys) ?_, ?_⟩
    · intro d hd
      exact ⟨d, (mem_deleteWhere.mp hd).1, rfl, rfl, rfl⟩
    · intro r hr hlive
      refine (h.rows r hr hlive).mono (List.Subset.refl _) ?_
      intro d hd
      exact (mem_deleteWhere.mp hd).1
  case resetEvent rowId =>
    cases hstep
    refine ⟨h.outbox.setOutbox (fun _ => ⟨rfl, rfl, rfl⟩) ?_, ?_⟩
    · intro row _ _ claimId hclaimed
      cases hclaimed
    · intro r hr hlive
      obtain ⟨w, hw, hrollout, hpending, hopen⟩ := h.rows r hr hlive
      refine ⟨w, mem_updateWhere.mpr ⟨w, hw, ?_⟩, hrollout, hpending, hopen⟩
      rw [if_neg (by simp [hpending])]

/-- In every run in which no worker finishes a row of a live rollout that it came too late
    for or whose last attempt threw, every live rollout has a pending row at every point. -/
theorem no_rollout_stranded (cfg : Config) (s : State) (h : Reachable (system cfg) RowSafe s) :
    Unstranded s := by
  have hinv : Driven s ∧ Snapshots s := by
    apply h.invariant (I := fun s => Driven s ∧ Snapshots s)
    · intro s hs
      exact ⟨.init hs, .init hs⟩
    · intro s e t hs hok hstep
      exact ⟨hs.1.step hs.2 hok hstep, hs.2.step hstep⟩
  exact hinv.1.unstranded

/-- A workspace is paused, and a worker tries the row of its rollout. -/
def demoPaused (attempts : Nat) : List Event :=
  [.createSnapshot 0 1 false true, .setPaused true] ++
    (List.range attempts).flatMap (fun claimId => .wait 1800001 :: demoSweep 0 claimId) ++
    [.setPaused false]

def demoPair : State := demoGroup (demoTerms true 0) (demoTerms true 1)

/-- Four attempts are not the last, and the rollout goes on. -/
theorem no_rollout_stranded_demo : ∃ t, t.rollouts.map (·.state) = [.pending] ∧ Unstranded t := by
  have hplay : ∃ t, playedWithin (next demoConfig) (fun s e => RowSafe s e) (demoPaused 4) demoPair =
      some t ∧ t.rollouts.map (·.state) = [.pending] := by
    refine ⟨_, rfl, ?_⟩
    decide +kernel
  obtain ⟨t, ht, hstate⟩ := hplay
  have hrun : Run (system demoConfig) RowSafe demoPair t :=
    .of_playedWithin (fun _ _ _ h => h) (fun _ _ h => of_decide_eq_true h) _ ht
  exact ⟨t, hstate, no_rollout_stranded demoConfig t ⟨_, demoGroup_init _ _, hrun⟩⟩

theorem not_unstranded {r : Rollout} (hr : r ∈ t.rollouts) (hlive : r.state.live = true)
    (hnone : ∀ row ∈ t.outbox, row.status ≠ .pending) : ¬Unstranded t := by
  intro h
  obtain ⟨row, hrow, -, hpending⟩ := h r hr hlive
  exact hnone row hrow hpending

/-- A workspace that is paused for five attempts: once it is resumed, its rollout is
    pending and no row will advance it. -/
theorem paused_strands : ∃ t, Reachable (system demoConfig) anyStep t ∧ t.paused = false ∧
    ¬Unstranded t := by
  have hplay : ∃ t, played (next demoConfig) (demoPaused 5) demoPair = some t ∧ t.paused = false ∧
      (∃ r ∈ t.rollouts, r.state.live = true) ∧ ∀ row ∈ t.outbox, row.status ≠ .pending := by
    refine ⟨_, rfl, ?_⟩
    decide +kernel
  obtain ⟨t, ht, hresumed, ⟨r, hr, hlive⟩, hnone⟩ := hplay
  exact ⟨t, ⟨_, demoGroup_init _ _, .of_played (fun _ _ _ h => h) _ (fun _ _ _ => trivial) ht⟩,
    hresumed, not_unstranded hr hlive hnone⟩

end TokenTimer.Distribution
