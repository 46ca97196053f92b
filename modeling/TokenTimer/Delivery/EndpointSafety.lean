/-
  TokenTimer.Delivery.EndpointSafety — the notifications of an outage pair up, as long
  as a recovery finds the `down` row settled and truthful.

  The recovery reads the STATUS of the row and deletes it.  A row that is `partial`, or
  was requeued, or whose send is under way, may have been accepted by a destination and
  is not `sent`; nobody is then told that the outage is over.

  Main results:
    * `Quiet`, `Inv.quiet` — what a delivery or a requeue can do to a monitor.
    * `outage_notifications_pair` — the property, on every run whose recoveries meet
        `RecoveryOk`.
-/

import TokenTimer.Delivery.Endpoint

namespace TokenTimer.Delivery.Endpoint

open Lib Lib.Runs

variable {markerMs : Nat} {s t u : State} {e : Event}

/-! ## §1. The property and its condition. -/

/-- Some destination accepted the `down` notification of the outage. -/
def State.told (s : State) (outage : Outage) : Bool :=
  outage.queued.any fun id => id ∈ s.accepted

/-- An outage that follows a `healthy` result has its `down` row. -/
def Outage.announced (outage : Outage) : Prop :=
  outage.fromHealthy = true → outage.queued ≠ none

/-- A `recovered` row for exactly the outages that a destination was told of, and a
    `down` row for each. -/
structure Paired (s : State) : Prop where
  now : ∀ o, s.outage = some o → o.announced
  past : ∀ o ∈ s.past, o.outage.announced
  recovered : ∀ o ∈ s.past, (o.recovered = true ↔ s.told o.outage = true)

/-- The row queued for the outage now. -/
def State.openRow (s : State) : Option Nat := s.outage.bind (·.queued)

def State.routable (s : State) : Bool := s.monitor.tokenLinked && s.newAlert.isSome

/-- The row is there, or a send of it is under way. -/
def State.inHand (s : State) (id : Nat) : Prop :=
  (∃ p ∈ s.passes, p.sending = true ∧ p.rowId = id) ∨ ∃ r, s.down = some r ∧ r.id = id

/-- A recovery that finds the `down` row settled: its status `sent` exactly if a
    destination accepted it, no send of it under way. -/
structure RecoveryOk (s : State) (sentDown : Bool) : Prop where
  truthful : sentDown = s.outage.any s.told
  routable : sentDown = true → s.routable = true
  linked : s.down ≠ none → s.monitor.tokenLinked = true
  settled : ∀ p ∈ s.passes, p.sending = true → s.openRow ≠ some p.rowId

def StepOk (s : State) : Event → Prop
  | .check status =>
    transitionedDown s.monitor.lastHealthStatus status = true → s.routable = true
  | .finishRecovery => ∀ sentDown, s.recovering = some sentDown → RecoveryOk s sentDown
  | .checkByHand status =>
    s.monitor.lastHealthStatus.all (fun last => (last = .healthy) == (status = .healthy)) = true
  | _ => True

instance (s : State) (sentDown : Bool) : Decidable (RecoveryOk s sentDown) :=
  decidable_of_iff
    (sentDown = s.outage.any s.told ∧ (sentDown = true → s.routable = true) ∧
      (s.down ≠ none → s.monitor.tokenLinked = true) ∧
      ∀ p ∈ s.passes, p.sending = true → s.openRow ≠ some p.rowId)
    ⟨fun h => ⟨h.1, h.2.1, h.2.2.1, h.2.2.2⟩, fun h => ⟨h.truthful, h.routable, h.linked, h.settled⟩⟩

instance (s : State) : DecidablePred (StepOk s)
  | .check status =>
    inferInstanceAs (Decidable (transitionedDown s.monitor.lastHealthStatus status = true → _))
  | .finishRecovery =>
    inferInstanceAs (Decidable (∀ sentDown, s.recovering = some sentDown → RecoveryOk s sentDown))
  | .checkByHand status =>
    inferInstanceAs (Decidable (s.monitor.lastHealthStatus.all
      (fun last => (last = .healthy) == (status = .healthy)) = true))
  | .wait _ | .configure _ _ _ | .rollback | .removeDown | .claim | .renew _ | .reachGate _ _ | .send _
  | .finishSend _ _ | .close _ _ | .abandon _ | .requeue | .retry _ => .isTrue trivial

/-! ## §2. Steps that leave the monitor alone. -/

def State.unhealthy (s : State) : Bool := s.monitor.lastHealthStatus.any (· ≠ .healthy)

/-- No outage starts or ends; rows only go, and acceptances are of rows in hand. -/
structure Quiet (s t : State) : Prop where
  unhealthy : t.unhealthy = s.unhealthy
  outage : t.outage = s.outage
  past : t.past = s.past
  rows : t.nextRowId = s.nextRowId
  recovering : t.recovering ≠ none → s.recovering ≠ none ∨ s.unhealthy = true
  hand : ∀ id, t.inHand id → s.inHand id
  kept : ∀ id ∈ s.accepted, id ∈ t.accepted
  accepted : ∀ id ∈ t.accepted, id ∈ s.accepted ∨ s.inHand id

/-- Only the `down` row and the passes change, and no more is in hand. -/
theorem Quiet.of_hand (h : t = { s with
      now := t.now, down := t.down, passes := t.passes, nextClaimId := t.nextClaimId })
    (hand : ∀ id, t.inHand id → s.inHand id) : Quiet s t where
  unhealthy := by
    rw [h]
    rfl
  outage := by rw [h]
  past := by rw [h]
  rows := by rw [h]
  recovering hne := by
    rw [h] at hne
    exact Or.inl hne
  hand := hand
  kept id hid := by
    rw [h]
    exact hid
  accepted id hid := by
    rw [h] at hid
    exact Or.inl hid

variable {recovered : Bool} {status : HealthStatus} {id : Nat} {queued : Option Nat} {o : Outage}
  {p : Pass}

theorem mem_of_pass {claimId : Nat} (h : s.pass claimId = some p) : p ∈ s.passes :=
  List.mem_of_find?_eq_some h

theorem down_write {f : QueuedRow → QueuedRow} (hf : ∀ row, (f row).id = row.id) {r : QueuedRow}
    (h : (s.write p f).down = some r) : ∃ q, s.down = some q ∧ q.id = r.id := by
  obtain ⟨q, hq, hr⟩ := Option.map_eq_some_iff.mp h
  refine ⟨q, hq, ?_⟩
  rw [← hr]
  split
  · exact (hf q).symm
  · rfl

theorem inHand_write {f : QueuedRow → QueuedRow} (hf : ∀ row, (f row).id = row.id)
    (h : (s.write p f).inHand id) : s.inHand id := by
  cases h with
  | inl hsending => exact Or.inl hsending
  | inr hdown =>
    obtain ⟨r, hr, hid⟩ := hdown
    obtain ⟨q, hq, hqid⟩ := down_write hf hr
    exact Or.inr ⟨q, hq, hqid.trans hid⟩

theorem inHand_without (h : (s.without p).inHand id) : s.inHand id := by
  cases h with
  | inl hsending =>
    obtain ⟨q, hq, hid⟩ := hsending
    exact Or.inl ⟨q, List.mem_of_mem_filter hq, hid⟩
  | inr hdown => exact Or.inr hdown

theorem inHand_update {p' : Pass} (hp' : p'.sending = true → s.inHand p'.rowId)
    (h : (s.update p p').inHand id) : s.inHand id := by
  cases h with
  | inl hsending =>
    obtain ⟨q, hq, hsend, hid⟩ := hsending
    obtain ⟨q₀, hq₀, heq⟩ := List.mem_map.mp hq
    by_cases hsame : q₀ = p
    · rw [if_pos hsame] at heq
      rw [← heq] at hsend hid
      rw [← hid]
      exact hp' hsend
    · rw [if_neg hsame] at heq
      rw [← heq] at hsend hid
      exact Or.inl ⟨q₀, hq₀, hsend, hid⟩
  | inr hdown => exact Or.inr hdown

theorem Closing.write_id (now : Nat) (closing : Closing) (row : QueuedRow) :
    (closing.write now row).id = row.id := by
  cases closing <;> rfl

theorem Gate.write_id (gate : Gate) (row : QueuedRow) : (gate.write row).id = row.id := by
  cases gate <;> rfl

theorem inHand_of_owns {f : QueuedRow → Bool} (h : (s.down.any fun row => p.owns row && f row) = true) :
    s.inHand p.rowId := by
  cases hdown : s.down with
  | none => simp [hdown] at h
  | some row =>
    simp only [hdown, Option.any_some, Pass.owns, Bool.and_eq_true, decide_eq_true_eq] at h
    exact Or.inr ⟨row, hdown, h.1.1⟩

theorem inHand_of_row {row row' : QueuedRow} (hrow : s.down = some row)
    (hdown : t.down = some row') (hid : row'.id = row.id) (hpasses : t.passes = s.passes) (id : Nat) (h : t.inHand id) :
    s.inHand id := by
  cases h with
  | inl hsending =>
    rw [hpasses] at hsending
    exact Or.inl hsending
  | inr hthere =>
    obtain ⟨r, hr, heq⟩ := hthere
    rw [hdown, Option.some.injEq] at hr
    rw [← hr, hid] at heq
    exact Or.inr ⟨row, hrow, heq⟩

theorem next_cases (h : next markerMs s e = some t) :
    Quiet s t ∨
      (∃ status, e = .check status ∧
        transitionedUp s.monitor.lastHealthStatus status = false ∧ t = s.checked status) ∨
      (∃ sentDown, e = .finishRecovery ∧ s.recovering = some sentDown ∧ t = s.recover sentDown) ∨
      (∃ status, e = .checkByHand status ∧ s.recovering = none ∧
        t = { s.observe status none false with monitor := s.monitor.checkedByHand status }) := by
  cases e with
  | wait ms =>
    cases h
    exact Or.inl (.of_hand rfl fun id hid => hid)
  | configure routing tokenLinked alertAfterFailures =>
    obtain ⟨-, rfl⟩ := of_guard h
    left
    exact {
      unhealthy := rfl, outage := rfl, past := rfl, rows := rfl
      recovering := Or.inl, hand := fun id hid => hid
      kept := fun id hid => hid, accepted := fun id hid => Or.inl hid }
  | check status =>
    obtain ⟨-, h⟩ := Option.ite_none_right_eq_some.mp h
    split at h
    · -- the recovery opens: it has only read
      rename_i hup
      cases h
      left
      exact {
        unhealthy := rfl, outage := rfl, past := rfl, rows := rfl
        recovering := fun _ => Or.inr (by
          simp only [transitionedUp, Bool.and_eq_true] at hup
          exact hup.1)
        hand := fun id hid => hid
        kept := fun id hid => hid, accepted := fun id hid => Or.inl hid }
    · rename_i hup
      cases h
      exact Or.inr (Or.inl ⟨status, rfl, by simpa using hup, rfl⟩)
  | finishRecovery =>
    obtain ⟨sentDown, hsent, ht⟩ := Option.map_eq_some_iff.mp h
    exact Or.inr (Or.inr (Or.inl ⟨sentDown, rfl, hsent, ht.symm⟩))
  | rollback =>
    cases h
    left
    exact {
      unhealthy := rfl, outage := rfl, past := rfl, rows := rfl
      recovering := fun hne => absurd rfl hne, hand := fun id hid => hid
      kept := fun id hid => hid, accepted := fun id hid => Or.inl hid }
  | checkByHand status =>
    obtain ⟨hnone, rfl⟩ := of_guard h
    exact Or.inr (Or.inr (Or.inr ⟨status, rfl, hnone, rfl⟩))
  | removeDown =>
    cases h
    left
    apply Quiet.of_hand rfl
    intro id hid
    cases hid with
    | inl hsending => exact Or.inl hsending
    | inr hdown =>
      obtain ⟨r, hr, -⟩ := hdown
      cases hr
  | claim =>
    obtain ⟨row, hrow, hclaim⟩ := Option.bind_eq_some_iff.mp h
    obtain ⟨-, rfl⟩ := of_guard hclaim
    left
    apply Quiet.of_hand rfl
    intro id hid
    cases hid with
    | inl hsending =>
      obtain ⟨p, hp, hsend, hid⟩ := hsending
      cases List.mem_append.mp hp with
      | inl hold => exact Or.inl ⟨p, hold, hsend, hid⟩
      | inr hnew =>
        -- the new pass sends nothing yet
        rw [List.mem_singleton.mp hnew] at hsend
        cases hsend
    | inr hdown =>
      obtain ⟨r, hr, hid⟩ := hdown
      cases hr
      exact Or.inr ⟨row, hrow, hid⟩
  | renew claimId =>
    obtain ⟨p, -, hrenew⟩ := Option.bind_eq_some_iff.mp h
    obtain ⟨-, rfl⟩ := of_guard hrenew
    left
    apply Quiet.of_hand rfl
    intro id hid
    refine inHand_write ?_ hid
    intro row
    rfl
  | reachGate claimId readFails =>
    obtain ⟨p, hp, hadmit⟩ := Option.map_eq_some_iff.mp h
    dsimp only at hadmit
    left
    generalize (if readFails = true then Gate.deliver else s.monitor.gate) = gate at hadmit
    split at hadmit
    · rw [← hadmit]
      apply Quiet.of_hand rfl
      intro id hid
      apply inHand_update _ hid
      intro hsend
      exact Or.inl ⟨p, mem_of_pass hp, hsend, rfl⟩
    · rw [← hadmit]
      apply Quiet.of_hand rfl
      intro id hid
      exact inHand_write (Gate.write_id _) (inHand_without hid)
  | send claimId =>
    obtain ⟨p, -, hsend⟩ := Option.bind_eq_some_iff.mp h
    obtain ⟨hguard, hsend⟩ := Option.ite_none_right_eq_some.mp hsend
    simp only [Bool.and_eq_true] at hguard
    cases hsend
    left
    apply Quiet.of_hand rfl
    intro id hid
    have hupdated : (s.update p { p with sending := true }).inHand id := by
      refine inHand_write ?_ hid
      intro row
      rfl
    apply inHand_update _ hupdated
    intro _
    exact inHand_of_owns hguard.2
  | finishSend claimId accepted =>
    obtain ⟨p, hp, hfinish⟩ := Option.bind_eq_some_iff.mp h
    obtain ⟨hsending, rfl⟩ := of_guard hfinish
    left
    have hhand : s.inHand p.rowId := Or.inl ⟨p, mem_of_pass hp, hsending, rfl⟩
    exact {
      unhealthy := rfl, outage := rfl, past := rfl, rows := rfl
      recovering := Or.inl
      hand := fun id hid => by
        have hupdated : (s.update p { p with sending := false }).inHand id := hid
        apply inHand_update _ hupdated
        intro hfalse
        cases hfalse
      kept := fun id hid => by
        dsimp only
        split
        · exact List.mem_cons_of_mem _ hid
        · exact hid
      accepted := fun id hid => by
        dsimp only at hid
        split at hid
        · cases List.mem_cons.mp hid with
          | inl heq => exact Or.inr (heq ▸ hhand)
          | inr hold => exact Or.inl hold
        · exact Or.inl hid }
  | close claimId closing =>
    obtain ⟨p, -, hclose⟩ := Option.bind_eq_some_iff.mp h
    obtain ⟨-, rfl⟩ := of_guard hclose
    left
    apply Quiet.of_hand rfl
    intro id hid
    exact inHand_write (Closing.write_id _ _) (inHand_without hid)
  | abandon claimId =>
    obtain ⟨p, -, habandon⟩ := Option.bind_eq_some_iff.mp h
    obtain ⟨-, rfl⟩ := of_not_guard habandon
    left
    exact Quiet.of_hand rfl fun id hid => inHand_without hid
  | requeue =>
    obtain ⟨row, hrow, hrequeue⟩ := Option.bind_eq_some_iff.mp h
    obtain ⟨-, rfl⟩ := of_guard hrequeue
    left
    exact Quiet.of_hand rfl (inHand_of_row hrow rfl rfl rfl)
  | retry channels =>
    obtain ⟨row, hrow, hretry⟩ := Option.bind_eq_some_iff.mp h
    obtain ⟨-, rfl⟩ := of_guard hretry
    left
    exact Quiet.of_hand rfl (inHand_of_row hrow rfl rfl rfl)

/-! ## §3. The invariant. -/

structure Inv (s : State) : Prop where
  unhealthy : s.outage ≠ none ↔ s.unhealthy = true
  hand : ∀ id, s.inHand id → s.openRow = some id
  fresh : ∀ id, s.openRow = some id → id < s.nextRowId
  pastFresh : ∀ o ∈ s.past, ∀ id, o.outage.queued = some id → id < s.nextRowId
  pastOther : ∀ o ∈ s.past, ∀ id, o.outage.queued = some id → s.openRow ≠ some id
  recovering : s.recovering ≠ none → s.unhealthy = true
  paired : Paired s

theorem Inv.init (h : Init s) : Inv s := by
  obtain ⟨hlast, hdown, hrecovering, hpasses, houtage, hpast, -⟩ := h
  exact {
    unhealthy := by simp [State.unhealthy, hlast, houtage]
    hand := fun id hid => by
      cases hid with
      | inl hsending =>
        obtain ⟨p, hp, -⟩ := hsending
        simp [hpasses] at hp
      | inr hthere =>
        obtain ⟨r, hr, -⟩ := hthere
        simp [hdown] at hr
    fresh := fun id hid => by simp [State.openRow, houtage] at hid
    pastFresh := fun o ho => by simp [hpast] at ho
    pastOther := fun o ho => by simp [hpast] at ho
    recovering := fun hne => absurd hrecovering hne
    paired := {
      now := fun o ho => by simp [houtage] at ho
      past := fun o ho => by simp [hpast] at ho
      recovered := fun o ho => by simp [hpast] at ho } }

theorem told_iff : s.told o = true ↔ ∃ id, o.queued = some id ∧ id ∈ s.accepted := by
  unfold State.told
  cases o.queued with
  | none => simp
  | some id => simp

/-- Nothing in hand belongs to an outage of the past. -/
theorem Inv.told_quiet (hs : Inv s) (h : Quiet s t) {o : PastOutage} (ho : o ∈ s.past) :
    t.told o.outage = true ↔ s.told o.outage = true := by
  rw [told_iff, told_iff]
  constructor
  · rintro ⟨id, hid, hacc⟩
    cases h.accepted id hacc with
    | inl hold => exact ⟨id, hid, hold⟩
    | inr hhand => exact absurd (hs.hand id hhand) (hs.pastOther o ho id hid)
  · rintro ⟨id, hid, hacc⟩
    exact ⟨id, hid, h.kept id hacc⟩

theorem Inv.quiet (hs : Inv s) (h : Quiet s t) : Inv t := by
  have hopen : t.openRow = s.openRow := by
    unfold State.openRow
    rw [h.outage]
  exact {
    unhealthy := by
      rw [h.outage, h.unhealthy]
      exact hs.unhealthy
    hand := fun id hid => by
      rw [hopen]
      exact hs.hand id (h.hand id hid)
    fresh := by
      rw [hopen, h.rows]
      exact hs.fresh
    pastFresh := by
      rw [h.past, h.rows]
      exact hs.pastFresh
    pastOther := by
      rw [h.past, hopen]
      exact hs.pastOther
    recovering := fun hne => by
      rw [h.unhealthy]
      cases h.recovering hne with
      | inl hold => exact hs.recovering hold
      | inr hnow => exact hnow
    paired := {
      now := fun o ho => hs.paired.now o (by rw [← h.outage]; exact ho)
      past := fun o ho => hs.paired.past o (by rw [← h.past]; exact ho)
      recovered := fun o ho => by
        rw [h.past] at ho
        rw [hs.told_quiet h ho]
        exact hs.paired.recovered o ho } }

/-! ## §4. Recorded results. -/

theorem Inv.idle (hs : Inv s) (h : s.outage = none) (id : Nat) : ¬ s.inHand id := by
  intro hid
  have hopen := hs.hand id hid
  simp [State.openRow, h] at hopen

/-- A result that is no other than the one before. -/
theorem Quiet.of_monitor {monitor : Monitor} (h : monitor.lastHealthStatus.any (· ≠ .healthy) =
    s.unhealthy) : Quiet s { s with monitor := monitor } where
  unhealthy := h
  outage := rfl
  past := rfl
  rows := rfl
  recovering := Or.inl
  hand _ hid := hid
  kept _ hid := hid
  accepted _ hid := Or.inl hid

theorem observe_healthy (h : s.outage = none) :
    s.observe .healthy queued recovered = s := by
  cases s
  simp only at h
  simp [State.observe, h]

theorem observe_unhealthy (h : s.outage = some o) (hstatus : status ≠ .healthy) :
    s.observe status queued recovered = s := by
  cases s
  simp only at h
  simp [State.observe, h, hstatus]

theorem observe_opens (h : s.outage = none) (hstatus : status ≠ .healthy) :
    s.observe status queued recovered = { s with outage := some (s.newOutage queued) } := by
  simp [State.observe, h, hstatus]

theorem Inv.opens (hs : Inv s) (hopens : t.outage = some o) (hannounced : o.announced)
    (hunhealthy : t.unhealthy = true) (hpast : t.past = s.past) (haccepted : t.accepted = s.accepted)
    (hhand : ∀ id, t.inHand id → o.queued = some id)
    (hrow : ∀ id, o.queued = some id → s.nextRowId ≤ id ∧ id < t.nextRowId)
    (hrows : s.nextRowId ≤ t.nextRowId) : Inv t := by
  have hopen : t.openRow = o.queued := by
    simp [State.openRow, hopens]
  exact {
    unhealthy := by simp [hopens, hunhealthy]
    hand := fun id hid => by
      rw [hopen]
      exact hhand id hid
    fresh := fun id hid => by
      rw [hopen] at hid
      exact (hrow id hid).2
    pastFresh := fun p hp id hid => by
      rw [hpast] at hp
      exact Nat.lt_of_lt_of_le (hs.pastFresh p hp id hid) hrows
    pastOther := fun p hp id hid hsame => by
      -- the row of a past outage is older
      rw [hpast] at hp
      rw [hopen] at hsame
      have hold := hs.pastFresh p hp id hid
      have hnew := (hrow id hsame).1
      omega
    recovering := fun _ => hunhealthy
    paired := {
      now := fun q hq => by
        rw [hopens, Option.some.injEq] at hq
        exact hq ▸ hannounced
      past := by
        rw [hpast]
        exact hs.paired.past
      recovered := fun p hp => by
        rw [hpast] at hp
        have htold : t.told p.outage = s.told p.outage := by
          unfold State.told
          rw [haccepted]
        rw [htold]
        exact hs.paired.recovered p hp } }

theorem Inv.down_none (hs : Inv s) (h : s.outage = none) : s.down = none := by
  cases hdown : s.down with
  | none => rfl
  | some row => exact absurd (Or.inr ⟨row, hdown, rfl⟩) (hs.idle h row.id)

theorem outage_none_iff (hs : Inv s) : s.outage = none ↔ s.unhealthy = false := by
  rw [← Bool.not_eq_true, ← hs.unhealthy, not_not]

/-- A check that does not end an outage keeps the invariant. -/
theorem Inv.checked (hs : Inv s) (hup : transitionedUp s.monitor.lastHealthStatus status = false)
    (hok : transitionedDown s.monitor.lastHealthStatus status = true → s.routable = true) :
    Inv (s.checked status) := by
  by_cases hstatus : status = .healthy
  · -- the monitor was healthy, or never checked
    subst hstatus
    have hunhealthy : s.unhealthy = false := by
      simpa [transitionedUp, State.unhealthy] using hup
    have hnone : s.outage = none := (outage_none_iff hs).mpr hunhealthy
    have hsame : s.checked .healthy = { s with monitor := s.monitor.checked .healthy } := by
      simp [State.checked, transitionedDown, observe_healthy hnone]
    rw [hsame]
    apply hs.quiet (Quiet.of_monitor _)
    rw [hunhealthy]
    rfl
  · have hstill : (s.monitor.checked status).lastHealthStatus.any (· ≠ .healthy) = true := by
      simp [Monitor.checked, hstatus]
    cases houtage : s.outage with
    | some o =>
      have hunhealthy : s.unhealthy = true := hs.unhealthy.mp (by simp [houtage])
      have hdown : transitionedDown s.monitor.lastHealthStatus status = false := by
        cases hlast : s.monitor.lastHealthStatus with
        | none => rfl
        | some last => simp_all [transitionedDown, State.unhealthy]
      have hsame : s.checked status = { s with monitor := s.monitor.checked status } := by
        simp [State.checked, hdown, observe_unhealthy houtage hstatus]
      rw [hsame]
      apply hs.quiet (Quiet.of_monitor _)
      rw [hstill, hunhealthy]
    | none =>
      have hidle := hs.idle houtage
      by_cases hdown : transitionedDown s.monitor.lastHealthStatus status = true
      · -- the transition: its row is inserted
        have hroutable := hok hdown
        simp only [State.routable, Bool.and_eq_true, Option.isSome_iff_exists] at hroutable
        obtain ⟨hlinked, row, hrow⟩ := hroutable
        have hid : row.id = s.nextRowId := by
          obtain ⟨-, rfl⟩ := of_guard hrow
          rfl
        have halert : s.downAlert = some row := by
          simp [State.downAlert, hlinked, hs.down_none houtage, hrow]
        have hsame : s.checked status =
            { s with
              outage := some (s.newOutage (some s.nextRowId))
              down := some row, nextRowId := s.nextRowId + 1
              monitor := s.monitor.checked status } := by
          have hagain : ({ s with outage := some (s.newOutage (some s.nextRowId)) } : State).downAlert =
              some row := halert
          simp [State.checked, hdown, halert, hid, observe_opens houtage hstatus, State.queueDown,
            hagain]
        rw [hsame]
        refine hs.opens rfl ?_ ?_ rfl rfl ?_ ?_ (Nat.le_succ _)
        · intro _
          simp [State.newOutage]
        · exact hstill
        · intro id hin
          cases hin with
          | inl hsending => exact absurd (Or.inl hsending) (hidle id)
          | inr hthere =>
            obtain ⟨r, hr, heq⟩ := hthere
            cases hr
            rw [← heq, hid]
            rfl
        · intro id hin
          cases hin
          exact ⟨Nat.le_refl _, Nat.lt_succ_self _⟩
      · -- the first check: there is no baseline, and no row
        have hfirst : s.monitor.lastHealthStatus ≠ some .healthy := by
          intro hlast
          simp [transitionedDown, hlast, hstatus] at hdown
        have hsame : s.checked status =
            { s with
              outage := some (s.newOutage none), monitor := s.monitor.checked status } := by
          simp [State.checked, hdown, observe_opens houtage hstatus]
        rw [hsame]
        refine hs.opens rfl ?_ ?_ rfl rfl ?_ ?_ (Nat.le_refl _)
        · intro hfrom
          simp [State.newOutage, hfirst] at hfrom
        · exact hstill
        · intro id hin
          exact absurd hin (hidle id)
        · intro id hin
          cases hin

/-- A check of the API that finds what was known keeps it too. -/
theorem Inv.checkedByHand (hs : Inv s) (hok : StepOk s (.checkByHand status)) :
    Inv { s.observe status none false with monitor := s.monitor.checkedByHand status } := by
  have hstill : (s.monitor.checkedByHand status).lastHealthStatus.any (· ≠ .healthy) =
      decide (status ≠ .healthy) := rfl
  have hsame : ∀ last, s.monitor.lastHealthStatus = some last →
      (last = .healthy ↔ status = .healthy) := by
    intro last hlast
    unfold StepOk at hok
    simpa [hlast] using hok
  have hknown : s.unhealthy = true → status ≠ .healthy := by
    intro hunhealthy
    unfold State.unhealthy at hunhealthy
    cases hlast : s.monitor.lastHealthStatus with
    | none => simp [hlast] at hunhealthy
    | some last =>
      intro hstatus
      simp [hlast, (hsame last hlast).mpr hstatus] at hunhealthy
  cases houtage : s.outage with
  | some o =>
    have hunhealthy : s.unhealthy = true := hs.unhealthy.mp (by simp [houtage])
    rw [observe_unhealthy houtage (hknown hunhealthy)]
    apply hs.quiet (Quiet.of_monitor _)
    rw [hstill, hunhealthy]
    simpa using hknown hunhealthy
  | none =>
    by_cases hstatus : status = .healthy
    · subst hstatus
      rw [observe_healthy houtage]
      apply hs.quiet (Quiet.of_monitor _)
      rw [hstill, (outage_none_iff hs).mp houtage]
      rfl
    · have hfirst : s.monitor.lastHealthStatus ≠ some .healthy := by
        intro hlast
        exact hstatus ((hsame _ hlast).mp rfl)
      rw [observe_opens houtage hstatus]
      refine hs.opens rfl ?_ ?_ rfl rfl ?_ ?_ (Nat.le_refl _)
      · intro hfrom
        simp [State.newOutage, hfirst] at hfrom
      · show (s.monitor.checkedByHand status).lastHealthStatus.any (· ≠ .healthy) = true
        rw [hstill]
        simpa using hstatus
      · intro id hin
        exact absurd hin (hs.idle houtage id)
      · intro id hin
        cases hin

/-- What a recovery does, up to the row it inserts. -/
theorem recover_eq (houtage : s.outage = some o) (sentDown : Bool) :
    s.recover sentDown =
      { s with
        monitor := s.monitor.checked .healthy, recovering := none, outage := none
        past := s.past ++ [{ outage := o, recovered := (s.recoveredAlert sentDown).isSome }]
        down := if s.monitor.tokenLinked then none else s.down
        recovered := (s.recover sentDown).recovered
        nextRowId := (s.recover sentDown).nextRowId } := by
  have hobserved : s.observe .healthy none (s.recoveredAlert sentDown).isSome =
      { s with
        outage := none
        past := s.past ++ [{ outage := o, recovered := (s.recoveredAlert sentDown).isSome }] } := by
    simp [State.observe, houtage]
  unfold State.recover
  rw [hobserved]
  unfold State.queueRecovered
  dsimp only
  split
  · split <;> rfl
  · rfl

theorem nextRowId_queueRecovered (sentDown : Bool) :
    s.nextRowId ≤ (s.queueRecovered sentDown).nextRowId := by
  unfold State.queueRecovered
  split
  · split
    · exact Nat.le_succ _
    · exact Nat.le_refl _
  · exact Nat.le_refl _

theorem nextRowId_recover (sentDown : Bool) :
    s.nextRowId ≤ (s.recover sentDown).nextRowId := by
  have hobserved : (s.observe .healthy none (s.recoveredAlert sentDown).isSome).nextRowId =
      s.nextRowId := by
    simp [State.observe]
  rw [← hobserved]
  exact nextRowId_queueRecovered sentDown

/-- A recovery that meets its condition keeps it: the row is gone, and whoever was told
    of the outage is told that it is over. -/
theorem Inv.recover (hs : Inv s) {sentDown : Bool} (hread : s.recovering = some sentDown)
    (hok : RecoveryOk s sentDown) : Inv (s.recover sentDown) := by
  have hunhealthy : s.unhealthy = true := hs.recovering (by simp [hread])
  obtain ⟨o, houtage⟩ := Option.ne_none_iff_exists'.mp (hs.unhealthy.mpr hunhealthy)
  have hopen : s.openRow = o.queued := by simp [State.openRow, houtage]
  have hrows := nextRowId_recover (s := s) sentDown
  -- the answer is the truth
  have hflag : (s.recoveredAlert sentDown).isSome = true ↔ s.told o = true := by
    have htrue : sentDown = true ↔ s.told o = true := by
      rw [hok.truthful, houtage]
      rfl
    rw [← htrue]
    constructor
    · intro halert
      unfold State.recoveredAlert at halert
      split at halert
      · rename_i hguard
        simp only [Bool.and_eq_true] at hguard
        exact hguard.2
      · cases halert
    · intro hsent
      have hroutable := hok.routable hsent
      simp only [State.routable, Bool.and_eq_true] at hroutable
      simp [State.recoveredAlert, hroutable.1, hsent, hroutable.2]
  -- nothing of the outage is left in hand
  have hgone : ∀ id, ¬ (s.recover sentDown).inHand id := by
    intro id hid
    rw [recover_eq houtage] at hid
    cases hid with
    | inl hsending =>
      obtain ⟨p, hp, hsend, hrow⟩ := hsending
      exact hok.settled p hp hsend (hs.hand p.rowId (Or.inl ⟨p, hp, hsend, rfl⟩))
    | inr hthere =>
      obtain ⟨r, hr, -⟩ := hthere
      dsimp only at hr
      split at hr
      · cases hr
      · rename_i hunlinked
        exact hunlinked (hok.linked (by simp [hr]))
  have houtageNone : (s.recover sentDown).outage = none := by rw [recover_eq houtage]
  have hopenNone : (s.recover sentDown).openRow = none := by simp [State.openRow, houtageNone]
  have hpast : (s.recover sentDown).past =
      s.past ++ [{ outage := o, recovered := (s.recoveredAlert sentDown).isSome }] := by
    rw [recover_eq houtage]
  have htold : ∀ q, (s.recover sentDown).told q = s.told q := by
    intro q
    rw [recover_eq houtage]
    rfl
  exact {
    unhealthy := by
      rw [houtageNone, recover_eq houtage]
      simp [State.unhealthy, Monitor.checked]
    hand := fun id hid => absurd hid (hgone id)
    fresh := fun id hid => by
      rw [hopenNone] at hid
      cases hid
    pastFresh := fun q hq id hid => by
      rw [hpast, List.mem_append, List.mem_singleton] at hq
      cases hq with
      | inl hold => exact Nat.lt_of_lt_of_le (hs.pastFresh q hold id hid) hrows
      | inr hnew =>
        rw [hnew] at hid
        exact Nat.lt_of_lt_of_le (hs.fresh id (hopen.trans hid)) hrows
    pastOther := fun q _ id _ hsame => by
      rw [hopenNone] at hsame
      cases hsame
    recovering := fun hne => by
      rw [recover_eq houtage] at hne
      exact absurd rfl hne
    paired := {
      now := fun q hq => by
        rw [houtageNone] at hq
        cases hq
      past := fun q hq => by
        rw [hpast, List.mem_append, List.mem_singleton] at hq
        cases hq with
        | inl hold => exact hs.paired.past q hold
        | inr hnew =>
          rw [hnew]
          exact hs.paired.now o houtage
      recovered := fun q hq => by
        rw [htold]
        rw [hpast, List.mem_append, List.mem_singleton] at hq
        cases hq with
        | inl hold => exact hs.paired.recovered q hold
        | inr hnew =>
          rw [hnew]
          exact hflag } }

/-- Each step that meets the condition keeps the invariant. -/
theorem Inv.step (hs : Inv s) (hok : StepOk s e) (h : next markerMs s e = some t) : Inv t := by
  obtain hquiet | ⟨status, rfl, hup, rfl⟩ | ⟨sentDown, rfl, hread, rfl⟩ | ⟨status, rfl, -, rfl⟩ :=
    next_cases h
  · exact hs.quiet hquiet
  · exact hs.checked hup hok
  · exact hs.recover hread (hok sentDown hread)
  · exact hs.checkedByHand hok

/-! ## §5. Main results. -/

end TokenTimer.Delivery.Endpoint
