/-
  TokenTimer.Worker.DigestSafety — the claim protocol of the weekly digest.

  Every statement of a run is a `RowMove`: it leaves the row, claims it, writes it
  as the holder of the claim, or deletes it as the holder.  The invariants are
  derived from that, once for the run that moves and once for all others.

  Main result: `digest_claim_protocol`.
-/

import TokenTimer.Worker.Digest

namespace TokenTimer.Worker.Digest

open Lib.Runs

/-! ## §1. Small facts about the statements. -/

/-- The claim a run works under. -/
def Phase.token : Phase → Option Nat
  | .claimed token _ _ | .begun token _ | .sending token | .returned token _ | .renewed token _
  | .noted token => some token
  | .claiming | .done => none

@[simp] theorem State.setPhase_row (s : State) (r : Nat) (phase : Phase) :
    (s.setPhase r phase).row = s.row := rfl
@[simp] theorem State.setPhase_now (s : State) (r : Nat) (phase : Phase) :
    (s.setPhase r phase).now = s.now := rfl
@[simp] theorem State.setPhase_self (s : State) (r : Nat) (phase : Phase) :
    (s.setPhase r phase).runs r = phase := by
  simp [State.setPhase]

variable {a : Act} {outcome : DeliverOutcome} {now r' tokensCount : Nat} {row : Option RecipientRow}
  {w w' : RecipientRow}

theorem State.setPhase_other (s : State) {r : Nat} (phase : Phase) (h : r' ≠ r) :
    (s.setPhase r phase).runs r' = s.runs r' := by
  simp [State.setPhase, h]

variable {p : RecipientRow → Bool} {set : RecipientRow → RecipientRow} {now' : Nat} {phase : Phase}
    {sends : List Send}

theorem updateRow_eq_some (h : updateRow p set row = some w') :
    ∃ w, row = some w ∧ p w = true ∧ w' = set w := by
  simp only [updateRow, Option.map_eq_some_iff, Option.filter_eq_some_iff] at h
  obtain ⟨w, ⟨hrow, hp⟩, hset⟩ := h
  exact ⟨w, hrow, hp, hset.symm⟩

/-- The row carries the claim, and is still pending. -/
def Current (row : Option RecipientRow) (token : Nat) : Prop :=
  ∃ w, row = some w ∧ ownedPending token w = true

theorem ownedPending_iff {token : Nat} :
    ownedPending token w = true ↔ w.status = .pending ∧ w.claimToken = some token := by
  simp [ownedPending]

/-- The row is delivered as far as the database knows: the acceptance is recorded,
    or the row is `sent`. -/
def Settled (row : Option RecipientRow) : Prop :=
  ∃ w, row = some w ∧ (w.providerAcceptedAt.isSome = true ∨ w.status = .sent)

/-! ## §2. What the row looks like. -/

/-- The longest wait that a statement writes. -/
def DigestConfig.wait (cfg : DigestConfig) : Nat :=
  max cfg.leaseMs (cfg.uncertainRetrySeconds * 1000)

theorem DigestConfig.lease_le_wait (cfg : DigestConfig) (now : Nat) :
    now + cfg.leaseMs ≤ now + cfg.wait :=
  Nat.add_le_add_left (Nat.le_max_left _ _) now

theorem DigestConfig.uncertain_le_wait (cfg : DigestConfig) (now : Nat) :
    cfg.uncertainUntil now ≤ now + cfg.wait :=
  Nat.add_le_add_left (Nat.le_max_right _ _) now

/-- A pending row that waits waits for a date, and for none that is far away. -/
structure RowOk (cfg : DigestConfig) (now : Nat) (w : RecipientRow) : Prop where
  lease : ∀ t, w.leaseExpiresAt = some t → t ≤ now + cfg.wait
  retry : ∀ t, w.retryAfter = some t → t ≤ now + cfg.wait
  accepted : w.deliveryState = some .accepted → w.providerAcceptedAt.isSome = true
  uncertain : w.deliveryState = some .uncertain → w.retryAfter.isSome = true
  inProgress : w.deliveryState = some .inProgress → w.status ≠ .sent → w.leaseExpiresAt.isSome = true

theorem RowOk.later {cfg : DigestConfig} (h : RowOk cfg now w) (hle : now ≤ now') :
    RowOk cfg now' w :=
  { h with
    lease t ht := by have hlease := h.lease t ht; omega
    retry t ht := by have hretry := h.retry t ht; omega }

theorem rowOk_inserted (cfg : DigestConfig) (now token tokensCount : Nat) :
    RowOk cfg now (inserted cfg now token tokensCount) where
  lease t ht := by
    simp only [inserted, Option.some.injEq] at ht
    exact ht ▸ cfg.lease_le_wait now
  retry t ht := by simp [inserted] at ht
  accepted h := by simp [inserted] at h
  uncertain h := by simp [inserted] at h
  inProgress h := by simp [inserted] at h

theorem rowOk_reclaimed (cfg : DigestConfig) (now token tokensCount : Nat) (w : RecipientRow) :
    RowOk cfg now (reclaimed cfg now token tokensCount w) where
  lease t ht := by
    simp only [reclaimed, Option.some.injEq] at ht
    rw [← ht]
    split
    · exact cfg.uncertain_le_wait now
    · exact cfg.lease_le_wait now
  retry t ht := by
    simp only [reclaimed] at ht
    split at ht
    · simp only [Option.some.injEq] at ht
      exact ht ▸ cfg.uncertain_le_wait now
    · simp at ht
  accepted h := by
    show w.providerAcceptedAt.isSome = true
    by_cases hacc : w.providerAcceptedAt.isSome
    · exact hacc
    · simp only [reclaimed, hacc] at h
      split at h <;> simp_all
  uncertain h := by
    -- only the take-over of a delivery in progress writes `uncertain`
    have htakes : takesOver w = true := by
      simp only [reclaimed] at h
      split at h
      · simp at h
      · rename_i hacc
        split at h
        · rename_i hstate
          simp only [Option.isSome_iff_ne_none, ne_eq, Decidable.not_not] at hacc
          simp [takesOver, hacc, hstate]
        · simp at h
    simp [reclaimed, htakes]
  inProgress _ _ := by simp [reclaimed]

theorem rowOk_claimed {cfg : DigestConfig} {token : Nat}
    (h : claimWeeklyDigestRecipient cfg now token tokensCount row = some w) : RowOk cfg now w := by
  cases row with
  | none =>
    simp only [claimWeeklyDigestRecipient, Option.some.injEq] at h
    exact h ▸ rowOk_inserted cfg now token tokensCount
  | some old =>
    simp only [claimWeeklyDigestRecipient] at h
    split at h
    · simp only [Option.some.injEq] at h
      exact h ▸ rowOk_reclaimed cfg now token tokensCount old
    · simp at h

/-- **A row that is not sent becomes claimable by waiting alone.** -/
theorem claimable_of_rowOk {cfg : DigestConfig} {later : Nat} (h : RowOk cfg now w)
    (hsent : w.status ≠ .sent) (hlater : now + cfg.wait < later) :
    claimable later w = true := by
  have hlease : leaseOver later w = true := by
    simp only [leaseOver, Option.all_eq_true_iff_get, decide_eq_true_eq]
    intro hsome
    have hle := h.lease (w.leaseExpiresAt.get hsome) (by simp)
    omega
  simp only [claimable, hsent, ne_eq, not_false_eq_true, decide_true, Bool.true_and, hlease,
    Bool.and_true, Bool.or_eq_true, Bool.and_eq_true, decide_eq_true_eq]
  match hstate : w.deliveryState with
  | none => simp [idleOrRejected, hstate]
  | some .rejected => simp [idleOrRejected, hstate]
  | some .accepted => simp [h.accepted hstate]
  | some .uncertain =>
    obtain ⟨t, ht⟩ := Option.isSome_iff_exists.mp (h.uncertain hstate)
    have hle := h.retry t ht
    left
    right
    simp only [true_and, ht, Option.any_some, decide_eq_true_eq]
    omega
  | some .inProgress =>
    obtain ⟨t, ht⟩ := Option.isSome_iff_exists.mp (h.inProgress hstate hsent)
    have hle := h.lease t ht
    by_cases hacc : w.providerAcceptedAt.isSome = true
    · simp [hacc]
    · right
      simp only [Option.isSome_iff_ne_none, ne_eq, Decidable.not_not] at hacc
      simp only [hacc, Option.isNone_none, ht, Option.any_some, decide_eq_true_eq, true_and]
      omega

/-! ## §3. What one statement does to the row. -/

/-- Run `r` leaves the row, claims it, or writes or deletes it under its claim. -/
inductive RowMove (cfg : DigestConfig) (s : State) (r : Nat) : Option RecipientRow → Prop
  | same : RowMove cfg s r s.row
  | claim {tokensCount : Nat} {w : RecipientRow} :
    claimWeeklyDigestRecipient cfg s.now s.nextToken tokensCount s.row = some w →
    RowMove cfg s r (some w)
  | write {token : Nat} {w w' : RecipientRow} : (s.runs r).token = some token → s.row = some w →
    ownedPending token w = true → w'.claimToken = w.claimToken →
    (w.providerAcceptedAt.isSome = true → w'.providerAcceptedAt.isSome = true) →
    (RowOk cfg s.now w → RowOk cfg s.now w') → RowMove cfg s r (some w')
  | release {token : Nat} {w : RecipientRow} : (s.runs r).token = some token → s.row = some w →
    ownedPending token w = true → w.providerAcceptedAt = none → RowMove cfg s r none

variable {cfg : DigestConfig} {s t : State} {r : Nat} {row' : Option RecipientRow}

/-- A recorded acceptance and the status `sent` are never undone. -/
theorem RowMove.settled (h : RowMove cfg s r row') (hs : Settled s.row) : Settled row' := by
  obtain ⟨w, hw, hset⟩ := hs
  cases h with
  | same => exact ⟨w, hw, hset⟩
  | @claim n w' hclaim =>
    rw [hw] at hclaim
    simp only [claimWeeklyDigestRecipient] at hclaim
    split at hclaim
    · rename_i hable
      have hpending : w.status ≠ .sent := by
        simp only [claimable, Bool.and_eq_true, decide_eq_true_eq] at hable
        exact hable.1
      have hacc : w.providerAcceptedAt.isSome = true := hset.resolve_right hpending
      simp only [Option.some.injEq] at hclaim
      exact ⟨w', rfl, .inl (by rw [← hclaim]; exact hacc)⟩
    · simp at hclaim
  | @write token w₀ w' _ hrow hown _ hkeep _ =>
    obtain rfl : w₀ = w := by simpa using hrow.symm.trans hw
    have hpending : w₀.status ≠ .sent := by
      rw [(ownedPending_iff.mp hown).1]
      decide
    exact ⟨w', rfl, .inl (hkeep (hset.resolve_right hpending))⟩
  | @release token w₀ _ hrow hown hnone =>
    obtain rfl : w₀ = w := by simpa using hrow.symm.trans hw
    rw [(ownedPending_iff.mp hown).1, hnone] at hset
    simp at hset

theorem RowMove.rowOk (h : RowMove cfg s r row') (hs : ∀ w, s.row = some w → RowOk cfg s.now w) :
    ∀ w, row' = some w → RowOk cfg s.now w := by
  intro w hw
  cases h with
  | same => exact hs w hw
  | claim hclaim =>
    simp only [Option.some.injEq] at hw
    exact hw ▸ rowOk_claimed hclaim
  | write _ hrow _ _ _ hok =>
    simp only [Option.some.injEq] at hw
    exact hw ▸ hok (hs _ hrow)
  | release => simp at hw

/-! ## §4. What the phase of a run says about the row. -/

/-- What holds of the row for as long as it carries the claim. -/
def WhileClaimed (row : Option RecipientRow) (token : Nat) (P : RecipientRow → Prop) : Prop :=
  ∀ w, row = some w → w.claimToken = some token → P w

def InFlight (w : RecipientRow) : Prop :=
  w.status = .pending ∧ w.deliveryState = some .inProgress ∧ w.providerAcceptedAt = none

/-- A run between its claim and its first statement knows the row it claimed; a run
    that has begun has a delivery in flight for as long as it has the claim, and has
    the claim until its lease is over; a run that has recorded an acceptance leaves a
    settled row. -/
def PhaseOk (now : Nat) (row : Option RecipientRow) : Phase → Prop
  | .claimed token acceptedAt deliveryState =>
    WhileClaimed row token fun w =>
      w.providerAcceptedAt = acceptedAt ∧ w.deliveryState = deliveryState
  | .begun token lease =>
    WhileClaimed row token InFlight ∧
      (now ≤ lease → ∃ w, row = some w ∧ w.claimToken = some token ∧ w.leaseExpiresAt = some lease)
  | .sending token | .returned token _ | .renewed token _ => WhileClaimed row token InFlight
  | .noted _ => Settled row
  | .claiming | .done => True

theorem PhaseOk.later (h : PhaseOk now row phase) (hle : now ≤ now') :
    PhaseOk now' row phase := by
  cases phase with
  | begun token lease => exact ⟨h.1, fun hlease => h.2 (Nat.le_trans hle hlease)⟩
  | claimed | noted | sending | returned | renewed => exact h
  | claiming | done => trivial

/-- The claims of two runs differ, and a claim that was handed out is not fresh. -/
structure TokensOk (s : State) : Prop where
  run : ∀ r token, (s.runs r).token = some token → token < s.nextToken
  apart : ∀ r r' token, (s.runs r).token = some token → (s.runs r').token = some token → r = r'

/-- A row whose claim has just been taken over is in progress under a lease that
    is over. -/
theorem claimWeeklyDigestRecipient_inProgress {token : Nat}
    (h : claimWeeklyDigestRecipient cfg now token tokensCount (some w) = some w')
    (hstate : w.deliveryState = some .inProgress) (hacc : w.providerAcceptedAt = none) {lease : Nat}
    (hlease : w.leaseExpiresAt = some lease) : lease < now := by
  simp only [claimWeeklyDigestRecipient] at h
  split at h
  · rename_i hable
    have hboth : ¬w.status = .sent ∧ lease < now := by
      simpa [claimable, idleOrRejected, hstate, hacc, hlease] using hable
    exact hboth.2
  · simp at h

theorem claimToken_of_claim {token : Nat}
    (h : claimWeeklyDigestRecipient cfg now token tokensCount row = some w) :
    w.claimToken = some token ∧ w.status = .pending := by
  cases row with
  | none =>
    simp only [claimWeeklyDigestRecipient, Option.some.injEq] at h
    rw [← h]
    exact ⟨rfl, rfl⟩
  | some old =>
    simp only [claimWeeklyDigestRecipient] at h
    split at h
    · simp only [Option.some.injEq] at h
      rw [← h]
      exact ⟨rfl, rfl⟩
    · simp at h

theorem RowMove.whileClaimed (h : RowMove cfg s r row') (htok : TokensOk s) {token : Nat} (hne : r' ≠ r)
    (hmine : (s.runs r').token = some token) {P : RecipientRow → Prop} (hP : WhileClaimed s.row token P) :
    WhileClaimed row' token P := by
  intro w hw hclaim
  cases h with
  | same => exact hP w hw hclaim
  | claim hnew =>
    simp only [Option.some.injEq] at hw
    rw [← hw, (claimToken_of_claim hnew).1, Option.some.injEq] at hclaim
    have hlt := htok.run r' token hmine
    omega
  | write htoken hrow hown hkeep _ _ =>
    simp only [Option.some.injEq] at hw
    rw [← hw, hkeep, (ownedPending_iff.mp hown).2, Option.some.injEq] at hclaim
    exact absurd (htok.apart r' r token hmine (hclaim ▸ htoken)) hne
  | release => simp at hw

/-- The phase of a run stays right while another run moves. -/
theorem RowMove.other (h : RowMove cfg s r row') (htok : TokensOk s) (hne : r' ≠ r)
    (hok : PhaseOk s.now s.row (s.runs r')) : PhaseOk s.now row' (s.runs r') := by
  match hphase : s.runs r' with
  | .claiming | .done => trivial
  | .noted token =>
    rw [hphase] at hok
    exact h.settled hok
  | .claimed _ _ _ | .sending _ | .returned _ _ | .renewed _ _ =>
    rw [hphase] at hok
    exact h.whileClaimed htok hne (by rw [hphase]; rfl) hok
  | .begun token lease =>
    rw [hphase] at hok
    have hmine : (s.runs r').token = some token := by rw [hphase]; rfl
    refine ⟨h.whileClaimed htok hne hmine hok.1, ?_⟩
    intro hle
    obtain ⟨w, hw, hclaim, hlease⟩ := hok.2 hle
    have hflight : InFlight w := hok.1 w hw hclaim
    cases h with
    | same => exact ⟨w, hw, hclaim, hlease⟩
    | claim hnew =>
      rw [hw] at hnew
      have hover := claimWeeklyDigestRecipient_inProgress hnew hflight.2.1 hflight.2.2 hlease
      omega
    | write htoken hrow hown | release htoken hrow hown =>
      rw [hw, Option.some.injEq] at hrow
      rw [← hrow, ownedPending_iff, hclaim, Option.some.injEq] at hown
      exact absurd (htok.apart r' r token hmine (hown.2 ▸ htoken)) hne

/-! ## §5. The statements are moves. -/

theorem move_updateRow {token : Nat} (htoken : (s.runs r).token = some token)
    (h : updateRow p set s.row = some w') (hp : ∀ w, p w = true → ownedPending token w = true)
    (hclaim : ∀ w, (set w).claimToken = w.claimToken)
    (hacc : ∀ w, w.providerAcceptedAt.isSome = true → (set w).providerAcceptedAt.isSome = true)
    (hok : ∀ w, p w = true → RowOk cfg s.now w → RowOk cfg s.now (set w)) :
    RowMove cfg s r (some w') := by
  obtain ⟨w, hrow, hpw, rfl⟩ := updateRow_eq_some h
  exact .write htoken hrow (hp w hpw) (hclaim w) (hacc w) (hok w hpw)

theorem move_begin {token : Nat} (htoken : (s.runs r).token = some token)
    (h : beginWeeklyDigestDelivery cfg s.now token s.row = some w') : RowMove cfg s r (some w') := by
  refine move_updateRow htoken h (fun w hw => ?_) (fun _ => rfl) (fun _ hacc => hacc)
    (fun w _ hok => ?_)
  · simp only [Bool.and_eq_true] at hw
    exact hw.1.1
  · exact
      { lease := fun t ht => by
          simp only [Option.some.injEq] at ht
          exact ht ▸ cfg.lease_le_wait s.now
        retry := fun t ht => by simp at ht
        accepted := fun h => by simp at h
        uncertain := fun h => by simp at h
        inProgress := fun _ _ => rfl }

theorem move_renew {token : Nat} (htoken : (s.runs r).token = some token)
    (h : renewWeeklyDigestClaimLease cfg s.now token s.row = some w') :
    RowMove cfg s r (some w') := by
  refine move_updateRow htoken h (fun w hw => ?_) (fun _ => rfl) (fun _ hacc => hacc)
    (fun w _ hok => ?_)
  · simp only [Bool.and_eq_true] at hw
    exact hw.1.1
  · exact
      { hok with
        lease := fun t ht => by
          simp only [Option.some.injEq] at ht
          exact ht ▸ cfg.lease_le_wait s.now
        inProgress := fun _ _ => rfl }

theorem move_markSent {token : Nat} (htoken : (s.runs r).token = some token)
    (h : markWeeklyDigestRecipientSent token s.row = some w') : RowMove cfg s r (some w') := by
  refine move_updateRow htoken h (fun w hw => hw) (fun _ => rfl) (fun _ hacc => hacc)
    (fun w _ hok => ?_)
  exact
    { hok with
      lease := fun t ht => by simp at ht
      inProgress := fun _ hsent => absurd rfl hsent }

theorem move_noteAccepted {token : Nat} (htoken : (s.runs r).token = some token)
    (h : noteWeeklyDigestProviderAccepted s.now token s.row = some w') :
    RowMove cfg s r (some w') := by
  refine move_updateRow htoken h (fun w hw => hw) (fun _ => rfl) (fun _ _ => rfl)
    (fun w _ hok => ?_)
  exact
    { lease := hok.lease
      retry := fun t ht => by simp at ht
      accepted := fun _ => rfl
      uncertain := fun h => by simp at h
      inProgress := fun h => by simp at h }

theorem move_noteRejected {token : Nat} (htoken : (s.runs r).token = some token)
    (h : noteWeeklyDigestRejected cfg s.now token s.row = some w') : RowMove cfg s r (some w') := by
  refine move_updateRow htoken h (fun w hw => ?_) (fun _ => rfl) (fun _ hacc => hacc)
    (fun w _ hok => ?_)
  · simp only [Bool.and_eq_true] at hw
    exact hw.1
  · exact
      { lease := fun t ht => by
          simp only [Option.some.injEq] at ht
          exact ht ▸ cfg.lease_le_wait s.now
        retry := hok.retry
        accepted := fun h => by simp at h
        uncertain := fun h => by simp at h
        inProgress := fun h => by simp at h }

theorem move_noteUncertain {token : Nat} (htoken : (s.runs r).token = some token)
    (h : noteWeeklyDigestUncertain cfg s.now token s.row = some w') :
    RowMove cfg s r (some w') := by
  refine move_updateRow htoken h (fun w hw => ?_) (fun _ => rfl) (fun _ hacc => hacc)
    (fun w _ hok => ?_)
  · simp only [Bool.and_eq_true] at hw
    exact hw.1
  · exact
      { lease := fun t ht => by
          simp only [Option.some.injEq] at ht
          exact ht ▸ cfg.uncertain_le_wait s.now
        retry := fun t ht => by
          simp only [Option.some.injEq] at ht
          exact ht ▸ cfg.uncertain_le_wait s.now
        accepted := fun h => by simp at h
        uncertain := fun _ => rfl
        inProgress := fun h => by simp at h }

/-- What a step may do: the run `r` makes one move and knows where it stands. -/
structure StepSpec (cfg : DigestConfig) (s t : State) (r : Nat) : Prop where
  row : RowMove cfg s r t.row
  others : ∀ r', r' ≠ r → t.runs r' = s.runs r'
  now : s.now ≤ t.now
  counter : s.nextToken ≤ t.nextToken
  token : (t.runs r).token = none ∨ (t.runs r).token = (s.runs r).token ∨
    (t.runs r).token = some s.nextToken ∧ s.nextToken < t.nextToken
  own : PhaseOk t.now t.row (t.runs r)

/-- The phase of a run changes, and nothing else. -/
theorem spec_setPhase (htoken : phase.token = none ∨ phase.token = (s.runs r).token)
    (hown : PhaseOk s.now s.row phase) : StepSpec cfg s (s.setPhase r phase) r where
  row := .same
  others r' hne := s.setPhase_other phase hne
  now := Nat.le_refl _
  counter := Nat.le_refl _
  token := by
    rw [State.setPhase_self]
    exact htoken.imp_right .inl
  own := by
    rw [State.setPhase_self]
    exact hown

/-- A statement of a run, with what it leaves when it matches and when it does not. -/
theorem spec_apply {result : Option RecipientRow} {hit miss : Phase}
    (hmove : ∀ w, result = some w → RowMove cfg s r (some w))
    (htoken : hit.token = none ∨ hit.token = (s.runs r).token)
    (hmissToken : miss.token = none ∨ miss.token = (s.runs r).token)
    (hhit : ∀ w, result = some w → PhaseOk s.now (some w) hit)
    (hmiss : PhaseOk s.now s.row miss) : StepSpec cfg s (s.apply r result hit miss) r := by
  unfold State.apply
  cases result with
  | none => exact spec_setPhase hmissToken hmiss
  | some w =>
    exact
      { row := hmove w rfl
        others := fun r' hne => State.setPhase_other _ hit hne
        now := Nat.le_refl _
        counter := Nat.le_refl _
        token := by
          rw [State.setPhase_self]
          exact htoken.imp_right .inl
        own := by
          rw [State.setPhase_self]
          exact hhit w rfl }

theorem spec_claim (tokensCount : Nat) : StepSpec cfg s (s.claim cfg r tokensCount) r := by
  unfold State.claim
  split
  · exact spec_setPhase (.inl rfl) trivial
  · rename_i w hclaim
    exact
      { row := .claim hclaim
        others := fun r' hne => State.setPhase_other _ _ hne
        now := Nat.le_refl _
        counter := Nat.le_succ _
        token := by
          rw [State.setPhase_self]
          exact .inr (.inr ⟨rfl, Nat.lt_succ_self _⟩)
        own := by
          rw [State.setPhase_self]
          intro w' hw' _
          obtain rfl : w = w' := by simpa using hw'
          exact ⟨rfl, rfl⟩ }

theorem spec_proceed {token : Nat} {acceptedAt : Option Nat} {deliveryState : Option DeliveryState}
    (hphase : s.runs r = .claimed token acceptedAt deliveryState)
    (hok : PhaseOk s.now s.row (s.runs r)) (consent : Bool) :
    StepSpec cfg s (s.proceed cfg r token acceptedAt deliveryState consent) r := by
  have htoken := congrArg Phase.token hphase
  rw [hphase] at hok
  unfold State.proceed
  split
  · exact spec_apply (fun _ h => move_markSent htoken h) (.inl rfl) (.inl rfl)
      (fun _ _ => trivial) trivial
  · rename_i hacc
    split
    · exact spec_setPhase (.inl rfl) trivial
    · split
      · -- the release deletes the row only under the claim that found no acceptance
        refine ⟨?_, fun r' hne => State.setPhase_other _ _ hne, Nat.le_refl _, Nat.le_refl _, ?_, ?_⟩
        · show RowMove cfg s r (s.row.filter fun row => !ownedPending token row)
          cases hrow : s.row with
          | none =>
            have hsame : RowMove cfg s r s.row := .same
            simpa [hrow] using hsame
          | some w =>
            by_cases hown : ownedPending token w = true
            · have hnone : w.providerAcceptedAt = none := by
                rw [(hok w hrow (ownedPending_iff.mp hown).2).1]
                simpa using hacc
              simpa [Option.filter, hown] using RowMove.release htoken hrow hown hnone
            · have hsame : RowMove cfg s r s.row := .same
              simpa [Option.filter, hown, hrow] using hsame
        · rw [State.setPhase_self]
          exact .inl rfl
        · rw [State.setPhase_self]
          trivial
      · refine spec_apply (fun _ h => move_begin htoken h) (.inr htoken.symm) (.inl rfl) ?_ trivial
        intro w hw
        obtain ⟨w₀, _, hp, rfl⟩ := updateRow_eq_some hw
        simp only [Bool.and_eq_true, ownedPending_iff] at hp
        refine ⟨?_, fun _ => ⟨_, rfl, hp.1.1.2, rfl⟩⟩
        intro w' hw' _
        obtain rfl := Option.some.inj hw'
        exact ⟨hp.1.1.1, rfl, by simpa using hp.1.2⟩

theorem spec_note {token : Nat} (hphase : s.runs r = .renewed token outcome) :
    StepSpec cfg s (s.note cfg r token outcome) r := by
  have htoken := congrArg Phase.token hphase
  unfold State.note
  split
  · exact spec_apply (fun _ h => move_noteUncertain htoken h) (.inl rfl) (.inl rfl)
      (fun _ _ => trivial) trivial
  · split
    · exact spec_apply (fun _ h => move_noteRejected htoken h) (.inl rfl) (.inl rfl)
        (fun _ _ => trivial) trivial
    · refine spec_apply (fun _ h => move_noteAccepted htoken h) (.inr htoken.symm) (.inl rfl) ?_
        trivial
      intro w hw
      obtain ⟨w₀, _, _, rfl⟩ := updateRow_eq_some hw
      exact ⟨_, rfl, .inl rfl⟩

theorem inFlight_renew {token : Nat} (h : renewWeeklyDigestClaimLease cfg s.now token s.row = some w) :
    WhileClaimed (some w) token InFlight := by
  obtain ⟨w₀, _, hp, rfl⟩ := updateRow_eq_some h
  simp only [Bool.and_eq_true, ownedPending_iff, decide_eq_true_eq, Option.isNone_iff_eq_none]
    at hp
  intro w' hw' _
  obtain rfl := Option.some.inj hw'
  exact ⟨hp.1.1.1, hp.1.2, hp.2⟩

def Act.run : Act → Nat
  | .claim r _ | .proceed r _ | .send r | .renewTimer r | .answer r _ | .renew r | .note r
  | .markSent r | .crash r => r
  | .tick _ => 0

/-- Nothing happens. -/
theorem spec_idle (hok : PhaseOk s.now s.row (s.runs r)) : StepSpec cfg s s r where
  row := .same
  others _ _ := rfl
  now := Nat.le_refl _
  counter := Nat.le_refl _
  token := .inr (.inl rfl)
  own := hok

/-- **What a step may do.** -/
theorem next_spec (a : Act) (hok : ∀ r, PhaseOk s.now s.row (s.runs r)) :
    StepSpec cfg s (next cfg s a) a.run := by
  cases a with
  | tick ms =>
    exact
      { row := .same
        others := fun _ _ => rfl
        now := Nat.le_add_right _ _
        counter := Nat.le_refl _
        token := .inr (.inl rfl)
        own := (hok 0).later (Nat.le_add_right _ _) }
  | claim r n =>
    simp only [next, Act.run]
    split
    · exact spec_claim n
    · exact spec_idle (hok r)
  | proceed r consent =>
    simp only [next, Act.run]
    split
    · rename_i hphase
      exact spec_proceed hphase (hok r) consent
    · exact spec_idle (hok r)
  | send r =>
    simp only [next, Act.run]
    split
    · rename_i token lease hphase
      have hflight := hok r
      rw [hphase] at hflight
      exact
        { row := .same
          others := fun r' hne => State.setPhase_other _ _ hne
          now := Nat.le_refl _
          counter := Nat.le_refl _
          token := by
            rw [State.setPhase_self, hphase]
            exact .inr (.inl rfl)
          own := by
            rw [State.setPhase_self]
            exact hflight.1 }
    · exact spec_idle (hok r)
  | renewTimer r =>
    have hflight := hok r
    simp only [next, Act.run]
    split
    · rename_i token hphase
      rw [hphase] at hflight
      have htoken := congrArg Phase.token hphase
      exact spec_apply (fun _ h => move_renew htoken h) (.inr htoken.symm) (.inr htoken.symm)
        (fun _ h => inFlight_renew h) hflight
    · rename_i token outcome hphase
      rw [hphase] at hflight
      have htoken := congrArg Phase.token hphase
      exact spec_apply (fun _ h => move_renew htoken h) (.inr htoken.symm) (.inr htoken.symm)
        (fun _ h => inFlight_renew h) hflight
    · exact spec_idle (hok r)
  | answer r outcome =>
    have hflight := hok r
    simp only [next, Act.run]
    split
    · rename_i token hphase
      rw [hphase] at hflight
      exact spec_setPhase (.inr (by rw [hphase]; rfl)) hflight
    · exact spec_idle (hok r)
  | renew r =>
    simp only [next, Act.run]
    split
    · rename_i token outcome hphase
      have htoken := congrArg Phase.token hphase
      exact spec_apply (fun _ h => move_renew htoken h) (.inr htoken.symm) (.inl rfl)
        (fun _ h => inFlight_renew h) trivial
    · exact spec_idle (hok r)
  | note r =>
    simp only [next, Act.run]
    split
    · rename_i hphase
      exact spec_note hphase
    · exact spec_idle (hok r)
  | markSent r =>
    simp only [next, Act.run]
    split
    · rename_i token hphase
      have htoken := congrArg Phase.token hphase
      exact spec_apply (fun _ h => move_markSent htoken h) (.inl rfl) (.inl rfl)
        (fun _ _ => trivial) trivial
    · exact spec_idle (hok r)
  | crash r => exact spec_setPhase (.inl rfl) trivial

/-! ## §6. The invariant. -/

/-- The invariant of every run of the system. -/
structure Inv (cfg : DigestConfig) (s : State) : Prop where
  tokens : TokensOk s
  phases : ∀ r, PhaseOk s.now s.row (s.runs r)
  row : ∀ w, s.row = some w → RowOk cfg s.now w

theorem inv_init : Inv cfg {} where
  tokens :=
    { run := fun _ _ h => by simp [Phase.token] at h
      apart := fun _ _ _ h => by simp [Phase.token] at h }
  phases _ := trivial
  row _ h := by simp at h

theorem StepSpec.tokensOk (h : StepSpec cfg s t r) (hs : TokensOk s) : TokensOk t := by
  -- the token of the run that moved is the one it had, or the fresh one
  have hrun : ∀ r' token, (t.runs r').token = some token →
      (s.runs r').token = some token ∨ r' = r ∧ token = s.nextToken ∧ s.nextToken < t.nextToken := by
    intro r' token htoken
    by_cases hr : r' = r
    · rw [hr] at htoken ⊢
      rcases h.token with hnone | hsame | hfresh
      · rw [hnone] at htoken
        simp at htoken
      · left
        rw [← hsame, htoken]
      · right
        rw [hfresh.1, Option.some.injEq] at htoken
        exact ⟨rfl, htoken.symm, hfresh.2⟩
    · left
      rw [← h.others r' hr, htoken]
  constructor
  · intro r' token htoken
    rcases hrun r' token htoken with hold | hfresh
    · have hlt := hs.run r' token hold
      have hcounter := h.counter
      omega
    · omega
  · intro r₁ r₂ token h₁ h₂
    rcases hrun r₁ token h₁ with hold₁ | hfresh₁
    · rcases hrun r₂ token h₂ with hold₂ | hfresh₂
      · exact hs.apart r₁ r₂ token hold₁ hold₂
      · have hlt := hs.run r₁ token hold₁
        omega
    · rcases hrun r₂ token h₂ with hold₂ | hfresh₂
      · have hlt := hs.run r₂ token hold₂
        omega
      · rw [hfresh₁.1, hfresh₂.1]

theorem Inv.step (h : Inv cfg s) (a : Act) : Inv cfg (next cfg s a) := by
  have hspec : StepSpec cfg s (next cfg s a) a.run := next_spec a h.phases
  refine ⟨hspec.tokensOk h.tokens, ?_, ?_⟩
  · intro r
    by_cases hr : r = a.run
    · exact hr ▸ hspec.own
    · rw [hspec.others r hr]
      exact (hspec.row.other h.tokens hr (h.phases r)).later hspec.now
  · intro w hw
    exact (hspec.row.rowOk h.row w hw).later hspec.now

theorem inv_reachable {ok : State → Act → Prop} (h : Reachable (system cfg) ok s) : Inv cfg s := by
  refine h.invariant ?_ ?_
  · intro s hinit
    rw [show s = {} from hinit]
    exact inv_init
  · intro s a t hs _ hstep
    rw [show t = next cfg s a from hstep]
    exact hs.step a

/-! ## §7. Sends. -/

/-- Only `send` starts a send, and only of a delivery that was begun. -/
theorem sends_next (a : Act) :
    (next cfg s a).sends = s.sends ∨
      ∃ r token lease, a = .send r ∧ s.runs r = .begun token lease := by
  have happly : ∀ r result hit miss, (s.apply r result hit miss).sends = s.sends := by
    intro r result hit miss
    unfold State.apply
    cases result <;> rfl
  cases a with
  | tick | crash => exact .inl rfl
  | claim r n =>
    left
    simp only [next]
    split
    · unfold State.claim
      split <;> rfl
    · rfl
  | proceed r consent =>
    left
    simp only [next]
    split
    · unfold State.proceed
      split
      · exact happly ..
      · split
        · rfl
        · split
          · rfl
          · exact happly ..
    · rfl
  | send r =>
    match hphase : s.runs r with
    | .begun token lease => exact .inr ⟨r, token, lease, rfl, hphase⟩
    | .claiming | .claimed .. | .sending _ | .returned .. | .renewed .. | .noted _ | .done =>
      left
      simp only [next, hphase]
  | renewTimer r =>
    left
    simp only [next]
    split
    · exact happly ..
    · exact happly ..
    · rfl
  | answer r outcome =>
    left
    simp only [next]
    split <;> rfl
  | renew | markSent =>
    left
    simp only [next]
    split
    · exact happly ..
    · rfl
  | note r =>
    left
    simp only [next]
    split
    · unfold State.note
      split
      · exact happly ..
      · split
        · exact happly ..
        · exact happly ..
    · rfl

theorem Inv.send (h : Inv cfg s) (hok : startsWithinLease s a) (hsend : (next cfg s a).sends ≠ s.sends) :
    ∃ r token w, a = .send r ∧ (s.runs r).token = some token ∧ s.row = some w ∧
      w.claimToken = some token ∧ InFlight w := by
  obtain ⟨r, token, lease, rfl, hphase⟩ := (sends_next a).resolve_left hsend
  have hphaseOk := h.phases r
  rw [hphase] at hphaseOk
  obtain ⟨w, hw, hclaim, _⟩ := hphaseOk.2 (hok token lease hphase)
  exact ⟨r, token, w, rfl, by rw [hphase]; rfl, hw, hclaim, hphaseOk.1 w hw hclaim⟩

theorem Inv.settled_send (h : Inv cfg s) (hok : startsWithinLease s a) (hset : Settled s.row) :
    (next cfg s a).sends = s.sends := by
  by_contra hsend
  obtain ⟨_, _, w, _, _, hw, _, hflight⟩ := h.send hok hsend
  obtain ⟨w', hw', hset⟩ := hset
  obtain rfl : w = w' := by simpa using hw.symm.trans hw'
  rw [hflight.1, hflight.2.2] at hset
  simp at hset

/-- **A settled row stays settled, and no send is started for it any more.** -/
theorem settled_run (hs : Inv cfg s) (hset : Settled s.row)
    (hrun : Run (system cfg) startsWithinLease s t) : Settled t.row ∧ t.sends = s.sends := by
  refine (hrun.stable (I := Inv cfg) (Q := fun x => Settled x.row ∧ x.sends = s.sends) ?_ ?_ hs
    ⟨hset, rfl⟩).2
  · intro x a y hx _ hstep
    rw [show y = next cfg x a from hstep]
    exact hx.step a
  · intro x a y hx hq hok hstep
    rw [show y = next cfg x a from hstep]
    exact ⟨(next_spec a hx.phases).row.settled hq.1, (hx.settled_send hok hq.1).trans hq.2⟩

/-! ## §8. A successful delivery. -/

/-- A claim that another run has taken does not come back. -/
theorem RowMove.current (h : RowMove cfg s r row') (htok : TokensOk s) {token : Nat}
    (hmine : (s.runs r').token = some token) (hcur : Current row' token) : Current s.row token := by
  obtain ⟨w, hw, hown⟩ := hcur
  cases h with
  | same => exact ⟨w, hw, hown⟩
  | claim hnew =>
    simp only [Option.some.injEq] at hw
    rw [← hw, ownedPending_iff, (claimToken_of_claim hnew).1, Option.some.injEq] at hown
    have hlt := htok.run r' token hmine
    omega
  | @write token' w₀ _ _ hrow hown' hkeep _ _ =>
    simp only [Option.some.injEq] at hw
    rw [← hw, ownedPending_iff, hkeep, (ownedPending_iff.mp hown').2] at hown
    exact ⟨w₀, hrow, ownedPending_iff.mpr ⟨(ownedPending_iff.mp hown').1,
      (ownedPending_iff.mp hown').2.trans hown.2⟩⟩
  | release => simp at hw

/-- The delivery has answered, and the two statements after it are still to come. -/
def Answered (s : State) (r token : Nat) (outcome : DeliverOutcome) : Prop :=
  s.runs r = .returned token outcome ∨ s.runs r = .renewed token outcome

/-- What may become of a delivery that succeeded under a current claim: nothing yet, the
    claim is lost, the run is cut off, or the acceptance is recorded. -/
inductive Outlook (sends : List Send) (r token : Nat) (outcome : DeliverOutcome) (s : State) : Prop
  | held (phase : Answered s r token outcome) (current : Current s.row token)
    (same : s.sends = sends)
  | lost (phase : Answered s r token outcome) (current : ¬ Current s.row token)
  | stopped (phase : s.runs r = .done)
  | recorded (row : Settled s.row) (same : s.sends = sends)

theorem Answered.token {token : Nat} (h : Answered s r token outcome) :
    (s.runs r).token = some token := by
  rcases h with h | h
  · rw [h]
    rfl
  · rw [h]
    rfl

theorem Answered.inFlight {token : Nat} (h : Answered s r token outcome) (hs : Inv cfg s) :
    WhileClaimed s.row token InFlight := by
  have hphase := hs.phases r
  rcases h with h | h
  · rw [h] at hphase
    exact hphase
  · rw [h] at hphase
    exact hphase

/-- A renewal matches exactly where the claim is current. -/
theorem renew_cases {token : Nat} (hflight : WhileClaimed s.row token InFlight) :
    (∃ w, renewWeeklyDigestClaimLease cfg s.now token s.row = some w ∧ Current s.row token ∧
        Current (some w) token) ∨
      (renewWeeklyDigestClaimLease cfg s.now token s.row = none ∧ ¬ Current s.row token) := by
  by_cases hcur : Current s.row token
  · left
    obtain ⟨w, hw, hown⟩ := hcur
    have hin := hflight w hw (ownedPending_iff.mp hown).2
    refine ⟨{ w with leaseExpiresAt := some (s.now + cfg.leaseMs) }, ?_, ⟨w, hw, hown⟩, _, rfl, ?_⟩
    · simp [renewWeeklyDigestClaimLease, updateRow, hw, hown, hin.2.1, hin.2.2]
    · rw [ownedPending_iff] at hown ⊢
      exact hown
  · right
    refine ⟨?_, hcur⟩
    rw [Option.eq_none_iff_forall_ne_some]
    intro w h
    obtain ⟨w₀, hrow, hp, _⟩ := updateRow_eq_some h
    simp only [Bool.and_eq_true] at hp
    exact hcur ⟨w₀, hrow, hp.1.1⟩

theorem note_cases (token : Nat) :
    (∃ w, noteWeeklyDigestProviderAccepted s.now token s.row = some w ∧ Current s.row token ∧
        Settled (some w)) ∨
      (noteWeeklyDigestProviderAccepted s.now token s.row = none ∧ ¬ Current s.row token) := by
  by_cases hcur : Current s.row token
  · left
    obtain ⟨w, hw, hown⟩ := hcur
    refine ⟨{ w with
        providerAcceptedAt := some (w.providerAcceptedAt.getD s.now)
        deliveryState := some .accepted, retryAfter := none }, ?_, ⟨w, hw, hown⟩, _, rfl, .inl rfl⟩
    simp [noteWeeklyDigestProviderAccepted, updateRow, hw, hown]
  · right
    refine ⟨?_, hcur⟩
    rw [Option.eq_none_iff_forall_ne_some]
    intro w h
    obtain ⟨w₀, hrow, hp, _⟩ := updateRow_eq_some h
    exact hcur ⟨w₀, hrow, hp⟩

theorem Inv.held_send (h : Inv cfg s) {token : Nat} (hphase : Answered s r token outcome)
    (hcur : Current s.row token) (hok : startsWithinLease s a) : (next cfg s a).sends = s.sends := by
  by_contra hsend
  obtain ⟨r', token', lease, rfl, hbegun⟩ := (sends_next a).resolve_left hsend
  have hphaseOk := h.phases r'
  rw [hbegun] at hphaseOk
  obtain ⟨w, hw, hclaim, _⟩ := hphaseOk.2 (hok token' lease hbegun)
  obtain ⟨w', hw', hown⟩ := hcur
  obtain rfl : w = w' := by simpa using hw.symm.trans hw'
  -- the claim is the same, so the run is, but it cannot be in both phases
  have htoken : token' = token :=
    Option.some.inj (hclaim.symm.trans (ownedPending_iff.mp hown).2)
  have hr : r' = r := h.tokens.apart r' r token (by rw [hbegun, ← htoken]; rfl) hphase.token
  rw [hr] at hbegun
  rcases hphase with hphase | hphase
  · rw [hbegun] at hphase
    simp at hphase
  · rw [hbegun] at hphase
    simp at hphase

theorem Answered.next_own {token : Nat} (hs : Inv cfg s) (h : Answered s r token outcome)
    (hsuccess : outcome.isSuccess = true) (hcertain : outcome.isUncertain = false) (a : Act)
    (ha : a.run = r) :
    (Answered (next cfg s a) r token outcome ∧
        (Current (next cfg s a).row token ↔ Current s.row token)) ∨
      (next cfg s a).runs r = .done ∨ (Current s.row token ∧ Settled (next cfg s a).row) := by
  have hflight := h.inFlight hs
  have hrenew : (∃ w, renewWeeklyDigestClaimLease cfg s.now token s.row = some w ∧
        Current s.row token ∧ Current (some w) token) ∨
      (renewWeeklyDigestClaimLease cfg s.now token s.row = none ∧ ¬ Current s.row token) :=
    renew_cases hflight
  have hnote := note_cases (s := s) token
  have hother : ∀ b, next cfg s b = s → (Answered (next cfg s b) r token outcome ∧
      (Current (next cfg s b).row token ↔ Current s.row token)) := by
    intro b hb
    rw [hb]
    exact ⟨h, Iff.rfl⟩
  cases a with
  | tick ms => exact .inl ⟨h, Iff.rfl⟩
  | crash r' =>
    obtain rfl : r' = r := ha
    right
    left
    exact State.setPhase_self s r' .done
  | renewTimer r' =>
    obtain rfl : r' = r := ha
    left
    rcases h with hp | hp
    · simp only [next, hp]
      rcases hrenew with ⟨w, hw, hcur, hcur'⟩ | ⟨hw, _⟩
      · rw [hw]
        exact ⟨.inl (State.setPhase_self ..), fun _ => hcur, fun _ => hcur'⟩
      · rw [hw]
        exact ⟨.inl (State.setPhase_self ..), Iff.rfl⟩
    · exact hother _ (by simp only [next, hp])
  | renew r' =>
    obtain rfl : r' = r := ha
    rcases h with hp | hp
    · simp only [next, hp]
      rcases hrenew with ⟨w, hw, hcur, hcur'⟩ | ⟨hw, _⟩
      · left
        rw [hw]
        exact ⟨.inr (State.setPhase_self ..), fun _ => hcur, fun _ => hcur'⟩
      · right
        left
        rw [hw]
        exact State.setPhase_self ..
    · exact .inl (hother _ (by simp only [next, hp]))
  | note r' =>
    obtain rfl : r' = r := ha
    rcases h with hp | hp
    · exact .inl (hother _ (by simp only [next, hp]))
    · right
      simp only [next, hp, State.note, hcertain, hsuccess]
      rcases hnote with ⟨w, hw, hcur, hset⟩ | ⟨hw, _⟩
      · right
        refine ⟨hcur, ?_⟩
        simp only [hw]
        exact hset
      · left
        simp only [hw]
        exact State.setPhase_self ..
  | claim r' | proceed r' | send r' | answer r' | markSent r' =>
    obtain rfl : r' = r := ha
    exact .inl (hother _ (by rcases h with hp | hp <;> simp only [next, hp]))

theorem Outlook.step {token : Nat} (h : Outlook sends r token outcome s) (hs : Inv cfg s)
    (hsuccess : outcome.isSuccess = true) (hcertain : outcome.isUncertain = false)
    (hok : startsWithinLease s a) :
    Outlook sends r token outcome (next cfg s a) := by
  have hspec : StepSpec cfg s (next cfg s a) a.run := next_spec a hs.phases
  cases h with
  | recorded hset hsame =>
    exact .recorded (hspec.row.settled hset) ((hs.settled_send hok hset).trans hsame)
  | stopped hphase =>
    by_cases hr : a.run = r
    · -- a run that is over does nothing more
      have hdone : (next cfg s a).runs r = .done := by
        cases a <;> simp_all [next, Act.run]
      exact .stopped hdone
    · exact .stopped ((hspec.others r (Ne.symm hr)).trans hphase)
  | held hphase hcur hsame =>
    have hsends := (hs.held_send hphase hcur hok).trans hsame
    by_cases hr : a.run = r
    · rcases hphase.next_own hs hsuccess hcertain a hr with ⟨hphase', hcur'⟩ | hdone | ⟨_, hset⟩
      · exact .held hphase' (hcur'.mpr hcur) hsends
      · exact .stopped hdone
      · exact .recorded hset hsends
    · have hphase' : Answered (next cfg s a) r token outcome := by
        unfold Answered
        rw [hspec.others r (Ne.symm hr)]
        exact hphase
      by_cases hcur' : Current (next cfg s a).row token
      · exact .held hphase' hcur' hsends
      · exact .lost hphase' hcur'
  | lost hphase hcur =>
    by_cases hr : a.run = r
    · rcases hphase.next_own hs hsuccess hcertain a hr with ⟨hphase', hcur'⟩ | hdone | ⟨hcur', _⟩
      · exact .lost hphase' (fun hc => hcur (hcur'.mp hc))
      · exact .stopped hdone
      · exact absurd hcur' hcur
    · have hphase' : Answered (next cfg s a) r token outcome := by
        unfold Answered
        rw [hspec.others r (Ne.symm hr)]
        exact hphase
      exact .lost hphase' fun hc => hcur (hspec.row.current hs.tokens hphase.token hc)

theorem Outlook.run {token : Nat} (h : Outlook sends r token outcome s) (hs : Inv cfg s)
    (hsuccess : outcome.isSuccess = true) (hcertain : outcome.isUncertain = false)
    (hrun : Run (system cfg) startsWithinLease s t) :
    Inv cfg t ∧ Outlook sends r token outcome t := by
  refine hrun.stable ?_ ?_ hs h
  · intro x a y hx _ hstep
    rw [show y = next cfg x a from hstep]
    exact hx.step a
  · intro x a y hx hq hok hstep
    rw [show y = next cfg x a from hstep]
    exact hq.step hx hsuccess hcertain hok

/-- A run that goes on undisturbed records the acceptance. -/
theorem Inv.records (hs : Inv cfg s) {token : Nat} (hphase : s.runs r = .returned token outcome)
    (hsuccess : outcome.isSuccess = true) (hcertain : outcome.isUncertain = false)
    (hcur : Current s.row token) :
    (next cfg (next cfg s (.renew r)) (.note r)).runs r = .noted token := by
  have hanswered : Answered s r token outcome := .inl hphase
  have hflight := hanswered.inFlight hs
  have hrenew : ∃ w, renewWeeklyDigestClaimLease cfg s.now token s.row = some w ∧
      Current s.row token ∧ Current (some w) token :=
    (renew_cases hflight).resolve_right fun h => h.2 hcur
  obtain ⟨w, hw, _, hcur'⟩ := hrenew
  have hrenewed : next cfg s (.renew r) =
      { s with row := some w }.setPhase r (.renewed token outcome) := by
    simp only [next, hphase, State.apply, hw]
  rw [hrenewed]
  simp only [next, State.setPhase_self, State.note, hcertain, hsuccess, State.setPhase_row,
    State.setPhase_now]
  obtain ⟨w', hw', _⟩ := (note_cases (s := { s with row := some w }) token).resolve_right
    fun h => h.2 hcur'
  simp only [Bool.false_eq_true, if_false, Bool.not_true]
  rw [show noteWeeklyDigestProviderAccepted s.now token (some w) = some w' from hw']
  exact State.setPhase_self ..

/-! ## §9. The protocol. -/

/-- **The claim protocol of the weekly digest.**  As long as every delivery that was
    begun is started within the lease of its begin: a send is started by the holder of
    the current claim, for a row that is pending with no acceptance recorded, and none is
    started for a row that was settled before; after a success that is not read as
    uncertain, under a current claim, the run's next two statements record the
    acceptance, and once they have, no send has been started since the answer and none is
    started later.  And in any run, a row that is not sent is claimable after waiting. -/
theorem digest_claim_protocol (cfg : DigestConfig) :
    (∀ s, Reachable (system cfg) startsWithinLease s →
      (∀ a t, startsWithinLease s a → (system cfg).step s a t → t.sends ≠ s.sends →
        ∃ r token w, a = .send r ∧ (s.runs r).token = some token ∧ s.row = some w ∧
          w.claimToken = some token ∧ w.status = .pending ∧ w.providerAcceptedAt = none) ∧
      (Settled s.row → ∀ t, Run (system cfg) startsWithinLease s t → t.sends = s.sends) ∧
      (∀ r token outcome, s.runs r = .returned token outcome → outcome.isSuccess = true →
        outcome.isUncertain = false → Current s.row token →
        (next cfg (next cfg s (.renew r)) (.note r)).runs r = .noted token ∧
        ∀ t, Run (system cfg) startsWithinLease s t → t.runs r = .noted token →
          t.sends = s.sends ∧
            ∀ u, Run (system cfg) startsWithinLease t u → u.sends = s.sends)) ∧
    (∀ s, Reachable (system cfg) anyStep s → ∀ w, s.row = some w → w.status ≠ .sent →
      ∀ later token tokensCount, s.now + cfg.wait < later →
        (claimWeeklyDigestRecipient cfg later token tokensCount (some w)).isSome = true) := by
  constructor
  · intro s hreach
    have hs : Inv cfg s := inv_reachable hreach
    refine ⟨?_, fun hset t hrun => (settled_run hs hset hrun).2, ?_⟩
    · intro a t hok hstep hsend
      rw [show t = next cfg s a from hstep] at hsend
      obtain ⟨r, token, w, ha, htoken, hw, hclaim, hflight⟩ := hs.send hok hsend
      exact ⟨r, token, w, ha, htoken, hw, hclaim, hflight.1, hflight.2.2⟩
    · intro r token outcome hphase hsuccess hcertain hcur
      refine ⟨hs.records hphase hsuccess hcertain hcur, ?_⟩
      intro t hrun hnoted
      have hstart : Outlook s.sends r token outcome s := .held (.inl hphase) hcur rfl
      obtain ⟨ht, hlook⟩ := hstart.run hs hsuccess hcertain hrun
      have hset : Settled t.row := by
        have hphaseOk := ht.phases r
        rw [hnoted] at hphaseOk
        exact hphaseOk
      have hsame : t.sends = s.sends := by
        cases hlook with
        | recorded _ hsame | held _ _ hsame => exact hsame
        | stopped hdone =>
          rw [hnoted] at hdone
          simp at hdone
        | lost hlost _ =>
          rcases hlost with hlost | hlost
          · rw [hnoted] at hlost
            simp at hlost
          · rw [hnoted] at hlost
            simp at hlost
      exact ⟨hsame, fun u hrun' => (settled_run ht hset hrun').2.trans hsame⟩
  · intro s hreach w hw hsent later token tokensCount hlater
    have hable := claimable_of_rowOk ((inv_reachable hreach).row w hw) hsent hlater
    simp [claimWeeklyDigestRecipient, hable]

/-! ## §10. Where the protocol lets go. -/

namespace Demo

/-- The condition of a run, computed. -/
def withinLease (s : State) : Act → Bool
  | .send r =>
    match s.runs r with
    | .begun _ lease => s.now ≤ lease
    | _ => true
  | _ => true

theorem startsWithinLease_of_withinLease (s : State) (a : Act) (h : withinLease s a = true) :
    startsWithinLease s a := by
  cases a with
  | send r =>
    intro token lease hphase
    simpa [withinLease, hphase] using h
  | _ => trivial

def play (acts : List Act) : State :=
  acts.foldl (next {}) {}

def accepted : DeliverOutcome := .returned (some { success := true })

def answered : List Act := [.claim 0 1, .proceed 0 true, .send 0, .answer 0 accepted]

/-- The worker dies; the row is taken over as uncertain, and sent again later. -/
def resent : List Act :=
  [.crash 0, .tick 300001, .claim 1 1, .proceed 1 true, .tick 900001, .claim 2 1, .proceed 2 true,
    .send 2]

/-- A worker that is suspended before it calls the provider. -/
def suspended : List Act := [.claim 0 1, .proceed 0 true, .tick 300001] ++
  [.claim 1 1, .proceed 1 true, .tick 900001, .claim 2 1, .proceed 2 true, .send 2,
    .answer 2 accepted, .renew 2, .note 2, .markSent 2]

end Demo

/-- A success is not the last send when the worker dies before it records it, and a
    worker that was suspended after its begin sends for a row that is sent under another
    claim. -/
theorem digest_sends_again :
    (∃ s t, Reachable (system {}) startsWithinLease s ∧
      s.runs 0 = .returned 0 (.returned (some { success := true })) ∧ Current s.row 0 ∧
      Run (system {}) startsWithinLease s t ∧ t.sends.length = s.sends.length + 1) ∧
    (∃ s t w, Reachable (system {}) anyStep s ∧ (system {}).step s (.send 0) t ∧
      t.sends.length = s.sends.length + 1 ∧ (s.runs 0).token = some 0 ∧ s.row = some w ∧
      w.claimToken = some 2 ∧ w.status = .sent ∧ w.providerAcceptedAt.isSome = true) := by
  constructor
  · refine ⟨Demo.play Demo.answered, Demo.resent.foldl (next {}) (Demo.play Demo.answered),
      ⟨{}, rfl, ?_⟩, rfl, ?_, ?_, by decide +kernel⟩
    · exact Run.of_checked (fun _ _ => rfl) Demo.startsWithinLease_of_withinLease _ _
        (by decide +kernel)
    · refine ⟨(Demo.play Demo.answered).row.get (by decide +kernel), by simp, by decide +kernel⟩
    · exact Run.of_checked (fun _ _ => rfl) Demo.startsWithinLease_of_withinLease _ _
        (by decide +kernel)
  · refine ⟨Demo.play Demo.suspended, _,
      (Demo.play Demo.suspended).row.get (by decide +kernel), ⟨{}, rfl, ?_⟩, rfl, ?_⟩
    · exact Run.of_foldl (fun _ _ => rfl) _ _
    · refine ⟨by decide +kernel, by decide +kernel, by simp, by decide +kernel, by decide +kernel,
        by decide +kernel⟩

end TokenTimer.Worker.Digest
