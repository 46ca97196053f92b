/-
  TokenTimer.CertOps.AdoptionSafety — a detach against the intents recorded before it.

  A detach withdraws the outstanding intents it FINDS, and it finds them by the text
  the certificate was named with.  The locks, the claims and the statuses do the rest:
  a withdrawn intent is never written again, whatever drain still has it in hand.

  Main results:
    * `Inv.step` — locks, claims and open transactions fit together.
    * `detach_stands_iff` — the exact condition under which a detach stands, and
        that `succeeded` comes with its link.
-/

import TokenTimer.CertOps.AdoptionFrame

namespace TokenTimer.CertOps.Adoption

open Lib.Table Lib.Runs
open Enrollment (uuidIn)

variable {s t : State}

/-! ## §1. The invariant is kept. -/

theorem SameIntent.trans {r₁ r₂ r₃ : OutboxRow} (h₁ : SameIntent r₁ r₂) (h₂ : SameIntent r₂ r₃) :
    SameIntent r₁ r₃ :=
  ⟨h₂.id.trans h₁.id, h₂.workspaceId.trans h₁.workspaceId, h₂.eventType.trans h₁.eventType,
    h₂.payload.trans h₁.payload⟩

variable {a : Act} {d : Drain} {phase : DrainPhase} {e : Event} {log : List Event}
  {c claimId id : Nat} {r row : OutboxRow} {text : String}

theorem Snapshot.frame (h : Snapshot s.tables r) (hstep : StepSpec s t) :
    Snapshot t.tables r where
  old := Nat.lt_of_lt_of_le h.old hstep.nextId
  same x hx hid := by
    obtain ⟨y, hy, hyx⟩ | hnew := hstep.outbox.backward hx
    · exact (h.same y hy (hyx.intent.id.symm.trans hid)).trans hyx.intent
    · have := h.old
      have := hnew.id
      omega

theorem DrainOk.frame (h : DrainOk s.tables d) (hstep : StepSpec s t) (hd : d ∈ t.drains) :
    DrainOk t.tables d where
  claim := Nat.lt_of_lt_of_le h.claim hstep.nextId
  todo r hr := (h.todo r hr).frame hstep
  current r hr := (h.current r hr).frame hstep
  phase := by
    refine ⟨fun r text hphase => ?_, h.phase.decided⟩
    obtain ⟨hevent, hcertificate, x, hx, hid, hpending, hclaim⟩ := h.phase.held r text hphase
    obtain ⟨x', hx', hrow⟩ := hstep.outbox.forward hx
    -- the lock it holds keeps its row as it is
    have hsame : x' = x := by
      obtain hsame | ⟨hfree, -, -⟩ := hrow.write
      · exact hsame
      · refine absurd ?_ (hfree d hd)
        unfold Drain.holds
        rw [hphase, hid]
    subst hsame
    exact ⟨hevent, hcertificate, x', hx', hid, hpending, hclaim⟩

theorem DetachOk.frame {d : DetachTransaction} (h : DetachOk s.tables d) (hstep : StepSpec s t) :
    DetachOk t.tables d :=
  ⟨h.named, by rw [hstep.certificates]; exact h.stored⟩

theorem Named.frame {r' : OutboxRow} (h : Named s r) (hstep : StepSpec s t) (hsame : SameIntent r r') :
    Named t r' := by
  obtain ⟨text, certificate, hpayload, hnamed, hrecorded, hstored⟩ := h
  obtain ⟨events, hlog, -⟩ := hstep.log
  refine ⟨text, certificate, hsame.payload.symm ▸ hpayload, hnamed, ?_, ?_⟩
  · rw [hsame.id, hlog]
    exact List.mem_append_left _ hrecorded
  · rw [hsame.workspaceId, hstep.certificates]
    exact hstored

theorem Inv.of_spec (h : Inv s) (hstep : StepSpec s t)
    (hdrainKeys : KeyNodup (·.claimId) t.drains) (hdrains : ∀ d ∈ t.drains, DrainOk t.tables d)
    (hdetachKeys : KeyNodup (·.certificate) t.detaches)
    (hdetaches : ∀ d ∈ t.detaches, DetachOk t.tables d) : Inv t where
  certificates := by
    have hkeys : ∀ cs : List CertificateRow,
        cs.map (·.id) = (cs.map fun c => (c.id, c.workspaceId)).map Prod.fst := by
      intro cs
      rw [List.map_map]
      rfl
    show (t.tables.certificates.map (·.id)).Nodup
    rw [hkeys, hstep.certificates, ← hkeys]
    exact h.certificates
  rows := by
    obtain ⟨f, new, hrows, hf, hnew⟩ := hstep.outbox
    have hids : (s.tables.outbox.map f).map (·.id) = s.tables.outbox.map (·.id) := by
      rw [List.map_map]
      exact List.map_congr_left fun r hr => (hf r hr).intent.id
    show (t.tables.outbox.map (·.id)).Nodup
    rw [hrows, List.map_append, hids]
    obtain rfl | ⟨x, rfl, hx⟩ := hnew
    · rw [List.map_nil, List.append_nil]
      exact h.rows
    · have hkey : KeyNodup (·.id) (s.tables.outbox ++ [x]) := by
        apply keyNodup_append_singleton h.rows
        intro y hy
        have := h.fresh y hy
        have := hx.id
        omega
      rw [← List.map_append]
      exact hkey
  fresh r hr := by
    obtain ⟨x, hx, hxr⟩ | hnew := hstep.outbox.backward hr
    · rw [hxr.intent.id]
      exact Nat.lt_of_lt_of_le (h.fresh x hx) hstep.nextId
    · rw [hnew.id]
      exact hnew.nextId
  idle r hr := by
    obtain ⟨x, hx, hxr⟩ | hnew := hstep.outbox.backward hr
    · obtain rfl | ⟨-, -, hidle⟩ := hxr.write
      · exact h.idle _ hx
      · exact hidle
    · exact .inl hnew.status
  named r hr hevent := by
    obtain ⟨x, hx, hxr⟩ | hnew := hstep.outbox.backward hr
    · exact (h.named x hx (hxr.intent.eventType ▸ hevent)).frame hstep hxr.intent
    · exact hnew.named hevent
  recorded id c hrecorded := by
    obtain ⟨events, hlog, hevents⟩ := hstep.log
    rw [hlog] at hrecorded
    obtain hold | hnew := List.mem_append.mp hrecorded
    · obtain ⟨hfresh, hrows⟩ := h.recorded id c hold
      refine ⟨Nat.lt_of_lt_of_le hfresh hstep.nextId, fun r hr hid => ?_⟩
      obtain ⟨x, hx, hxr⟩ | hnew := hstep.outbox.backward hr
      · rw [hxr.intent.eventType, hxr.intent.payload]
        exact hrows x hx (hxr.intent.id.symm.trans hid)
      · have := hnew.id
        omega
    · obtain ⟨rfl, hlt, hrows⟩ := hevents id c hnew
      exact ⟨hlt, hrows⟩
  drainKeys := hdrainKeys
  drains := hdrains
  detachKeys := hdetachKeys
  detaches := hdetaches

theorem Inv.of_spec_same (h : Inv s) (hstep : StepSpec s t) (hdrains : t.drains = s.drains)
    (hdetaches : t.detaches = s.detaches) : Inv t := by
  apply h.of_spec hstep
  · rw [hdrains]
    exact h.drainKeys
  · intro d hd
    exact (h.drains d (hdrains ▸ hd)).frame hstep hd
  · rw [hdetaches]
    exact h.detachKeys
  · intro d hd
    exact (h.detaches d (hdetaches ▸ hd)).frame hstep

theorem Inv.of_setDrain (h : Inv s) {d' : Drain} (hstep : StepSpec s t)
    (hdrains : t.drains = (s.setDrain d').drains)
    (hdetaches : t.detaches = s.detaches) (hd' : DrainOk t.tables d') : Inv t := by
  apply h.of_spec hstep
  · rw [hdrains]
    have hkey : (s.setDrain d').drains.map (·.claimId) = s.drains.map (·.claimId) := by
      show (updateWhere _ _ s.drains).map _ = _
      unfold updateWhere
      rw [List.map_map]
      apply List.map_congr_left
      intro e he
      by_cases hid : e.claimId = d'.claimId
      · simp [hid]
      · simp [hid]
    show (_ : List Nat).Nodup
    rw [hkey]
    exact h.drainKeys
  · intro e he
    rw [hdrains] at he
    obtain rfl | ⟨hes, -⟩ := mem_setDrain he
    · exact hd'
    · exact (h.drains e hes).frame hstep (hdrains ▸ he)
  · rw [hdetaches]
    exact h.detachKeys
  · intro e he
    exact (h.detaches e (hdetaches ▸ he)).frame hstep

/-- A stored row is a snapshot of itself. -/
theorem Inv.snapshot (h : Inv s) (hr : r ∈ s.tables.outbox) :
    Snapshot s.tables r where
  old := h.fresh r hr
  same x hx hid := by
    obtain rfl := h.rows.eq_of_mem hx hr hid
    exact ⟨rfl, rfl, rfl, rfl⟩

theorem Snapshot.of_claimRow {t : Tables} {now : Nat} (h : Snapshot t r) :
    Snapshot t (claimRow claimId now r) :=
  ⟨h.old, fun x hx hid =>
    let hsame := h.same x hx hid
    ⟨hsame.id, hsame.workspaceId, hsame.eventType, hsame.payload⟩⟩

theorem Inv.of_quiet (hinv : Inv s) (hd : d ∈ s.drains) (hstep : StepSpec s t)
    (hdrains : t.drains = (s.setDrain { d with phase := phase }).drains)
    (hdetaches : t.detaches = s.detaches) (hrow : ∀ r, phase.row = some r → d.phase.row = some r)
    (hquiet : phase.quiet = true) :
    Inv t := by
  have hok := hinv.drains d hd
  apply hinv.of_setDrain hstep hdrains hdetaches
  refine ⟨?_, fun r hr => ?_, fun r hr => ?_, .of_quiet hquiet⟩
  · exact Nat.lt_of_lt_of_le hok.claim hstep.nextId
  · exact (hok.todo r hr).frame hstep
  · exact (hok.current r (hrow r hr)).frame hstep

theorem Inv.of_taken (hinv : Inv s) (hd : d ∈ s.drains) {rest : List OutboxRow}
    (hrows : d.rows = row :: rest) (hrow : phase.row = some row)
    (hphase : PhaseOk s.tables d.claimId phase) :
    Inv (s.setDrain { d with rows := rest, phase := phase }) := by
  have hok := hinv.drains d hd
  refine hinv.of_setDrain (.of_tables rfl rfl) rfl rfl ?_
  refine ⟨hok.claim, fun r hr => ?_, fun r hr => ?_, hphase⟩
  · apply hok.todo r
    rw [hrows]
    exact List.mem_cons_of_mem _ hr
  · have hsame : r = row := Option.some.inj (hr.symm.trans hrow)
    rw [hsame]
    apply hok.todo row
    rw [hrows]
    exact List.mem_cons_self

theorem Inv.beginDetach (hinv : Inv s) {ws : Nat} {d : DetachTransaction}
    (hd : beginDetach ws text s.tables = .ok d) (hfree : (uuidIn text).any s.certificateLocked = false) :
    Inv { s with detaches := s.detaches ++ [d] } := by
  have hspec : StepSpec s { s with detaches := s.detaches ++ [d] } := .of_tables rfl rfl
  obtain ⟨hok, hnamed⟩ := beginDetach_ok hd
  rw [hnamed, Option.any_some] at hfree
  apply hinv.of_spec hspec hinv.drainKeys
  · exact fun e he => (hinv.drains e he).frame hspec he
  · exact keyNodup_append_singleton hinv.detachKeys (certificateLocked_false.mp hfree)
  · intro e he
    obtain he | he := List.mem_append.mp he
    · exact (hinv.detaches e he).frame hspec
    · rw [List.mem_singleton] at he
      subst he
      exact hok

theorem Inv.endDetach (hinv : Inv s) {certificate : Nat} (hspec : StepSpec s t)
    (hdrains : t.drains = s.drains)
    (hdetaches : t.detaches = deleteWhere (fun e => e.certificate = certificate) s.detaches) :
    Inv t := by
  apply hinv.of_spec hspec
  · rw [hdrains]
    exact hinv.drainKeys
  · intro e he
    exact (hinv.drains e (hdrains ▸ he)).frame hspec he
  · rw [hdetaches]
    exact keyNodup_deleteWhere hinv.detachKeys
  · intro e he
    rw [hdetaches] at he
    exact (hinv.detaches e (mem_deleteWhere.mp he).1).frame hspec

theorem Inv.drain (hinv : Inv s) {batchSize : Nat} (h : next s (.drain batchSize) = some t) :
    Inv t := by
  have hspec := next_spec hinv h
  cases h
  apply hinv.of_spec hspec
  · apply keyNodup_append_singleton hinv.drainKeys
    intro d hd
    exact Nat.ne_of_lt (hinv.drains d hd).claim
  · intro d hd
    obtain hd' | hd' := List.mem_append.mp hd
    · exact (hinv.drains d hd').frame hspec hd
    · rw [List.mem_singleton] at hd'
      subst hd'
      refine ⟨Nat.lt_succ_self _, fun r hr => ?_, fun r hr => ?_, .of_quiet rfl⟩
      · obtain ⟨x, hx, rfl⟩ := List.mem_map.mp hr
        exact ((hinv.snapshot (mem_selection hx).1).frame hspec).of_claimRow
      · cases hr
  · exact hinv.detachKeys
  · exact fun e he => (hinv.detaches e he).frame hspec

/-- **THE INVARIANT IS KEPT.** -/
theorem Inv.step (hinv : Inv s) (h : next s a = some t) : Inv t := by
  have hspec := next_spec hinv h
  cases next_did h with
  | tick | wroteProfile | enqueued | setUp | retried => exact hinv.of_spec_same hspec rfl rfl
  | begun hfree hok => exact hinv.beginDetach hok hfree
  | committed | rolledBack => exact hinv.endDetach hspec rfl rfl
  | drained h => exact hinv.drain h
  | took hd hrows hrow hphase => exact hinv.of_taken hd hrows hrow hphase
  | threw message hd hrow => exact hinv.of_quiet hd hspec rfl rfl (fun r hr => hrow.trans hr) rfl
  | derived hd hphase _ hrow hquiet =>
    refine hinv.of_quiet hd hspec rfl rfl (fun r hr => ?_) hquiet
    rw [hphase, ← hr, hrow]
    rfl
  | settled hd | failed hd => exact hinv.of_quiet hd hspec rfl rfl (fun r hr => by cases hr) rfl
  | crashed claimId =>
    apply hinv.of_spec hspec (keyNodup_deleteWhere hinv.drainKeys)
    · exact fun e he => (hinv.drains e (mem_deleteWhere.mp he).1).frame hspec he
    · exact hinv.detachKeys
    · exact fun e he => (hinv.detaches e he).frame hspec

theorem reachable_inv {ok : State → Act → Prop} (h : Reachable system ok s) : Inv s :=
  h.invariant (fun _ => inv_init) fun _ _ _ hinv _ hstep => hinv.step hstep

/-! ## §2. What a detach promises. -/

/-- The intent was recorded for the certificate before a detach of it committed. -/
def Older (log : List Event) (intent certificate : Nat) : Prop :=
  ∃ earlier later, log = earlier ++ .detached certificate :: later ∧
    .recorded intent certificate ∈ earlier

/-- After that detach the intent's handler changed a `profile_id`. -/
def LinkedAfter (log : List Event) (intent certificate : Nat) : Prop :=
  ∃ earlier later, log = earlier ++ .detached certificate :: later ∧
    .recorded intent certificate ∈ earlier ∧ ∃ c p, .linked intent c p ∈ later

/-- Every committed detach still stands: no intent recorded before it is `pending`
    or `failed`, and none has written a link since. -/
structure DetachStands (s : State) : Prop where
  retired : ∀ r ∈ s.tables.outbox, ∀ c, Older s.log r.id c →
    r.status ≠ .pending ∧ r.status ≠ .failed
  unlinked : ∀ id c, ¬ LinkedAfter s.log id c

/-- A step marks the intent `succeeded` together with its link: `profile_id` of the
    certificate it names was null before the step and is set after it. -/
def LinkedNow (s t : State) (r : OutboxRow) : Prop :=
  ∃ certificate profileId, r.payload.certificateId.bind uuidIn = some certificate ∧
    s.tables.profileOf certificate = none ∧ t.tables.profileOf certificate = some profileId ∧
    t.log = s.log ++ [.linked r.id certificate (some profileId)]

/-- The outstanding intents of the certificate are named with the text the detach
    was called with. -/
def namesAlike (s : State) : Act → Prop
  | .commitDetach certificate =>
    ∀ d ∈ s.detaches, d.certificate = certificate → ∀ r ∈ s.tables.outbox,
      r.eventType = .profileDerivationRequested →
      r.payload.certificateId.bind uuidIn = some certificate → r.status.revivable = true →
      r.payload.certificateId = some d.certificateId
  | _ => True

theorem not_revivable {status : OutboxStatus} :
    status.revivable = false ↔ status ≠ .pending ∧ status ≠ .failed := by
  cases status <;> decide

/-! ## §3. The log. -/

theorem append_singleton_split {earlier later : List Event} {x : Event}
    (h : log ++ [e] = earlier ++ x :: later) :
    (later = [] ∧ log = earlier ∧ e = x) ∨
      ∃ later', later = later' ++ [e] ∧ log = earlier ++ x :: later' := by
  obtain rfl | ⟨later', y, rfl⟩ := List.eq_nil_or_concat later
  · left
    obtain ⟨hlog, hx⟩ := List.append_inj' h rfl
    exact ⟨rfl, hlog, List.cons.inj hx |>.1⟩
  · right
    rw [List.concat_eq_append] at h ⊢
    have h' : log ++ [e] = (earlier ++ x :: later') ++ [y] := by simpa using h
    obtain ⟨hlog, hy⟩ := List.append_inj' h' rfl
    rw [List.cons.inj hy |>.1]
    exact ⟨later', rfl, hlog⟩

theorem older_append :
    Older (log ++ [e]) id c ↔ Older log id c ∨ (e = .detached c ∧ .recorded id c ∈ log) := by
  constructor
  · rintro ⟨earlier, later, hlog, hrecorded⟩
    obtain ⟨-, rfl, rfl⟩ | ⟨later', rfl, rfl⟩ := append_singleton_split hlog
    · exact .inr ⟨rfl, hrecorded⟩
    · exact .inl ⟨earlier, later', rfl, hrecorded⟩
  · rintro (⟨earlier, later, rfl, hrecorded⟩ | ⟨rfl, hrecorded⟩)
    · exact ⟨earlier, later ++ [e], by simp, hrecorded⟩
    · exact ⟨log, [], rfl, hrecorded⟩

theorem linkedAfter_append :
    LinkedAfter (log ++ [e]) id c ↔
      LinkedAfter log id c ∨ (Older log id c ∧ ∃ c' p, e = .linked id c' p) := by
  constructor
  · rintro ⟨earlier, later, hlog, hrecorded, c', p, hlinked⟩
    obtain ⟨rfl, -, -⟩ | ⟨later', rfl, rfl⟩ := append_singleton_split hlog
    · cases hlinked
    · obtain hold | hnew := List.mem_append.mp hlinked
      · exact .inl ⟨earlier, later', rfl, hrecorded, c', p, hold⟩
      · rw [List.mem_singleton] at hnew
        exact .inr ⟨⟨earlier, later', rfl, hrecorded⟩, c', p, hnew.symm⟩
  · rintro (⟨earlier, later, rfl, hrecorded, c', p, hlinked⟩ |
      ⟨⟨earlier, later, rfl, hrecorded⟩, c', p, rfl⟩)
    · exact ⟨earlier, later ++ [e], by simp, hrecorded, c', p, List.mem_append_left _ hlinked⟩
    · exact ⟨earlier, later ++ [_], by simp, hrecorded, c', p,
        List.mem_append_right _ List.mem_cons_self⟩

theorem Older.recorded (h : Older log id c) :
    .recorded id c ∈ log := by
  obtain ⟨earlier, later, rfl, hrecorded⟩ := h
  exact List.mem_append_left _ hrecorded

/-! ## §4. One step. -/

inductive LogStep (s : State) (a : Act) (t : State) : Prop
  | silent (hlog : t.log = s.log)
  | recorded (id c : Nat) (hlog : t.log = s.log ++ [.recorded id c])
  | detached (d : DetachTransaction) (hd : d ∈ s.detaches) (ha : a = .commitDetach d.certificate)
      (htables : t.tables = commitDetach d s.tables)
      (hlog : t.log = s.log ++ [.detached d.certificate])
  | linked (r : OutboxRow) (c : Nat) (p : Option Nat) (text : String) (claimId : Nat)
      (hheld : Held s.tables claimId r text) (hlog : t.log = s.log ++ [.linked r.id c p])

theorem next_log (hinv : Inv s) (h : next s a = some t) : LogStep s a t := by
  cases next_did h with
  | @setUp ws text reads r =>
    cases hid : r.1 with
    | none => exact .silent (by simp [recordedBy])
    | some id =>
      cases hc : uuidIn text with
      | none => exact .silent (by simp [recordedBy, hc])
      | some c => exact .recorded id c (by simp [recordedBy, hc])
  | committed hd ha => exact .detached _ hd ha rfl rfl
  | @derived d row text phase result hd hphase =>
    cases hc : uuidIn text with
    | none => exact .silent (List.append_nil _)
    | some c =>
      by_cases hsame : s.tables.profileOf c = result.2.profileOf c
      · exact .silent (by simp [linkedBy, hsame])
      · exact .linked row c (result.2.profileOf c) text d.claimId
          ((hinv.drains d hd).phase.held row text hphase) (by simp [linkedBy, hsame])
  | drained h =>
    cases h
    exact .silent rfl
  | _ => exact .silent rfl

/-! ## §5. A detach stands exactly if it names its intents. -/

/-- A row that an earlier detach retired stays as it is. -/
theorem DetachStands.retired_step (hstands : DetachStands s) (hinv : Inv s) (hspec : StepSpec s t)
    (hr : r ∈ t.tables.outbox) (holder : Older s.log r.id c) :
    r.status ≠ .pending ∧ r.status ≠ .failed := by
  obtain ⟨x, hx, hxr⟩ | hnew := hspec.outbox.backward hr
  · rw [hxr.intent.id] at holder
    have hretired := hstands.retired x hx c holder
    rw [hxr.terminal (not_revivable.mpr hretired)]
    exact hretired
  · have := (hinv.recorded r.id c holder.recorded).1
    have := hnew.id
    omega

/-- A row whose lock is held was not retired. -/
theorem DetachStands.held_not_older (hstands : DetachStands s) (hheld : Held s.tables claimId r text) :
    ¬ Older s.log r.id c := by
  intro holder
  obtain ⟨x, hx, hid, hpending, -⟩ := hheld.stored
  exact (hstands.retired x hx c (hid ▸ holder)).1 hpending

theorem mem_commitDetach {d : DetachTransaction} {tables : Tables}
    (hr : r ∈ (commitDetach d tables).outbox) :
    ∃ x ∈ tables.outbox, SameIntent x r ∧
      ((d.withdraws x = true ∧ r.status = .skipped) ∨ (d.withdraws x = false ∧ r = x)) := by
  obtain ⟨x, hx, hxr⟩ := mem_updateWhere.mp hr
  refine ⟨x, hx, ?_⟩
  by_cases hwithdrawn : d.withdraws x = true
  · rw [if_pos hwithdrawn] at hxr
    subst hxr
    exact ⟨⟨rfl, rfl, rfl, rfl⟩, .inl ⟨hwithdrawn, rfl⟩⟩
  · rw [if_neg hwithdrawn] at hxr
    subst hxr
    exact ⟨⟨rfl, rfl, rfl, rfl⟩, .inr ⟨by simpa using hwithdrawn, rfl⟩⟩

theorem Inv.workspace_eq (hinv : Inv s) {d : DetachTransaction} (hd : d ∈ s.detaches)
    (hr : r ∈ s.tables.outbox) (hevent : r.eventType = .profileDerivationRequested)
    (hnamed : r.payload.certificateId.bind uuidIn = some d.certificate) :
    r.workspaceId = d.workspaceId := by
  obtain ⟨text, certificate, hpayload, huuid, -, hstored⟩ := hinv.named r hr hevent
  rw [hpayload, Option.bind_some, huuid, Option.some.injEq] at hnamed
  subst hnamed
  obtain ⟨c, hc, hcpair⟩ := List.mem_map.mp hstored
  obtain ⟨c', hc', hcpair'⟩ := List.mem_map.mp (hinv.detaches d hd).stored
  simp only [Prod.mk.injEq] at hcpair hcpair'
  have hsame : c = c' := hinv.certificates.eq_of_mem hc hc' (hcpair.1.trans hcpair'.1.symm)
  rw [← hcpair.2, ← hcpair'.2, hsame]

theorem DetachStands.step (hstands : DetachStands s) (hinv : Inv s) (h : next s a = some t)
    (halike : namesAlike s a) : DetachStands t := by
  have hspec := next_spec hinv h
  obtain hlog | ⟨id, c, hlog⟩ | ⟨d, hd, rfl, htables, hlog⟩ | ⟨r, c, p, text, claimId, hheld, hlog⟩ :=
    next_log hinv h
  · constructor
    · intro r hr c holder
      rw [hlog] at holder
      exact hstands.retired_step hinv hspec hr holder
    · rw [hlog]
      exact hstands.unlinked
  · constructor
    · intro r hr c' holder
      rw [hlog, older_append] at holder
      obtain holder | ⟨hdetached, -⟩ := holder
      · exact hstands.retired_step hinv hspec hr holder
      · cases hdetached
    · intro id' c'
      rw [hlog, linkedAfter_append]
      rintro (hlinked | ⟨-, c'', p, hevent⟩)
      · exact hstands.unlinked id' c' hlinked
      · cases hevent
  · constructor
    · intro r hr c holder
      rw [hlog, older_append] at holder
      obtain holder | ⟨hdetached, hrecorded⟩ := holder
      · exact hstands.retired_step hinv hspec hr holder
      · cases hdetached
        rw [htables] at hr
        obtain ⟨x, hx, hsame, ⟨-, hskipped⟩ | ⟨hleft, rfl⟩⟩ := mem_commitDetach hr
        · rw [hskipped]
          exact ⟨nofun, nofun⟩
        · -- an outstanding intent would have been withdrawn
          obtain ⟨hevent, hnamed⟩ := (hinv.recorded r.id _ hrecorded).2 r hx rfl
          apply not_revivable.mp
          by_contra hrevivable
          rw [Bool.not_eq_false] at hrevivable
          have hspelled := halike d hd rfl r hx hevent hnamed hrevivable
          have hworkspace := hinv.workspace_eq hd hx hevent hnamed
          have hwithdrawn : d.withdraws r = true := by
            simp [DetachTransaction.withdraws, hworkspace, hevent, hspelled, hrevivable]
          rw [hwithdrawn] at hleft
          cases hleft
    · intro id c
      rw [hlog, linkedAfter_append]
      rintro (hlinked | ⟨-, c', p, hevent⟩)
      · exact hstands.unlinked id c hlinked
      · cases hevent
  · constructor
    · intro x hx c' holder
      rw [hlog, older_append] at holder
      obtain holder | ⟨hdetached, -⟩ := holder
      · exact hstands.retired_step hinv hspec hx holder
      · cases hdetached
    · intro id c'
      rw [hlog, linkedAfter_append]
      rintro (hlinked | ⟨holder, c'', p', hevent⟩)
      · exact hstands.unlinked id c' hlinked
      · cases hevent
        exact hstands.held_not_older hheld holder

/-- And broken by any other. -/
theorem DetachStands.names (hinv : Inv s) (h : next s a = some t) (hstands : DetachStands t) :
    namesAlike s a := by
  cases a with
  | commitDetach certificate =>
    intro d hd hcertificate r hr hevent hnamed hrevivable
    obtain ⟨text, c, hpayload, huuid, hrecorded, -⟩ := hinv.named r hr hevent
    rw [hpayload, Option.bind_some, huuid, Option.some.injEq] at hnamed
    unfold next at h
    dsimp only at h
    split at h
    · cases h
    split at h
    · cases h
    rename_i d' hd' _
    cases h
    obtain ⟨hmem, hcertificate'⟩ := selectOne_some hd'
    simp only [decide_eq_true_eq] at hcertificate'
    have hsame : d' = d := hinv.detachKeys.eq_of_mem hmem hd (hcertificate'.trans hcertificate.symm)
    subst hsame
    by_contra hspelled
    have hleft : d'.withdraws r = false := by
      simp [DetachTransaction.withdraws, hspelled]
    have hstays : r ∈ (Adoption.commitDetach d' s.tables).outbox := by
      apply mem_updateWhere.mpr
      exact ⟨r, hr, by rw [hleft]; rfl⟩
    have holder : Older (s.log ++ [.detached certificate]) r.id certificate := by
      rw [older_append]
      right
      exact ⟨rfl, hnamed ▸ hrecorded⟩
    have hretired := not_revivable.mpr (hstands.retired r hstays certificate holder)
    rw [hrevivable] at hretired
    cases hretired
  | _ => trivial

/-! ## §6. `succeeded` comes with the link. -/

theorem profileOf_linkCertificate {tables : Tables} {ws certificate : Nat} (profileId : Nat)
    (hkey : KeyNodup (·.id) tables.certificates)
    (hunlinked : ∃ c ∈ tables.certificates, c.workspaceId = ws ∧ c.id = certificate ∧
      c.profileId = none) :
    tables.profileOf certificate = none ∧
      (linkCertificate ws certificate profileId tables).profileOf certificate = some profileId := by
  obtain ⟨c, hc, rfl, rfl, hnone⟩ := hunlinked
  have hfound : selectOne (fun x => x.id = c.id) tables.certificates = some c := hkey.selectOne_eq hc
  constructor
  · unfold Tables.profileOf
    rw [hfound]
    exact hnone
  · have hkey' : KeyNodup (·.id) (linkCertificate c.workspaceId c.id profileId tables).certificates :=
      keyNodup_updateWhere (fun _ => rfl) hkey
    have hmem : { c with profileId := some profileId } ∈
        (linkCertificate c.workspaceId c.id profileId tables).certificates := by
      apply mem_updateWhere.mpr
      exact ⟨c, hc, by simp [hnone]⟩
    unfold Tables.profileOf
    have hfound' := hkey'.selectOne_eq hmem
    rw [hfound']
    rfl

theorem mem_updateWhere_cases {p : OutboxRow → Bool} {f : OutboxRow → OutboxRow} {rows : List OutboxRow}
    (h : r ∈ updateWhere p f rows) :
    r ∈ rows ∨ ∃ x ∈ rows, p x = true ∧ f x = r := by
  obtain ⟨x, hx, hxr⟩ := mem_updateWhere.mp h
  by_cases hp : p x = true
  · rw [if_pos hp] at hxr
    exact .inr ⟨x, hx, hp, hxr⟩
  · rw [if_neg hp] at hxr
    exact .inl (hxr ▸ hx)

theorem linkedNow_of_write (hinv : Inv s) (hd : d ∈ s.drains)
    (hphase : d.phase = .inTransaction row text) {result : HandlerOutcome × Tables}
    (hwrite : DeriveWrite d.claimId row text s.tables result) (htables : t.tables = result.2)
    (hlog : t.log = s.log ++ ((uuidIn text).elim [] fun c => linkedBy row.id c s.tables result.2))
    (hr : r ∈ t.tables.outbox) (hsucceeded : r.status = .succeeded) (hbefore : r ∉ s.tables.outbox) :
    LinkedNow s t r := by
  have hok := hinv.drains d hd
  rw [htables] at hr
  cases hwrite with
  | skipped reason =>
    obtain hr | ⟨x, -, -, rfl⟩ := mem_updateWhere_cases hr
    · exact absurd hr hbefore
    · cases hsucceeded
  | linked certificate profileId hnamed hunlinked =>
    obtain hr | ⟨x, hx, hmatch, rfl⟩ := mem_updateWhere_cases hr
    · exact absurd hr hbefore
    · simp only [Bool.and_eq_true, decide_eq_true_eq] at hmatch
      have hcurrent : d.phase.row = some row := by
        rw [hphase]
        rfl
      have hsame : SameIntent row x := (hok.current row hcurrent).same x hx hmatch.1
      obtain ⟨hnone, hsome⟩ :=
        profileOf_linkCertificate profileId hinv.certificates hunlinked
      refine ⟨certificate, profileId, ?_, hnone, ?_, ?_⟩
      · show x.payload.certificateId.bind uuidIn = some certificate
        rw [hsame.payload, (hok.phase.held row text hphase).certificateId]
        exact hnamed
      · rw [htables]
        exact hsome
      · rw [hlog, hnamed]
        show s.log ++ linkedBy row.id certificate s.tables
          (linkCertificate row.workspaceId certificate profileId s.tables) = _
        rw [linkedBy, hnone, hsome, ← hmatch.1]
        rfl

/-- **`succeeded` COMES WITH THE LINK.** -/
theorem succeeded_linked (hinv : Inv s) (h : next s a = some t) (hr : r ∈ t.tables.outbox)
    (hevent : r.eventType = .profileDerivationRequested) (hsucceeded : r.status = .succeeded)
    (hbefore : ∀ x ∈ s.tables.outbox, x.id = r.id → x.status ≠ .succeeded) : LinkedNow s t r := by
  have hnew : r ∉ s.tables.outbox := fun hold => hbefore r hold rfl hsucceeded
  cases next_did h with
  | enqueued _ hok =>
    obtain ⟨-, heq⟩ | ⟨key, -, heq⟩ := enqueueOutboxEvent_ok hok
    · rw [heq] at hr
      exact absurd hr hnew
    · rw [heq] at hr
      obtain hr | hr := List.mem_append.mp hr
      · exact absurd hr hnew
      · rw [List.mem_singleton] at hr
        subst hr
        cases hsucceeded
  | setUp hok =>
    obtain ⟨-, heq⟩ | ⟨key, certificate, payload, -, -, -, -, heq⟩ := renewalSetupJobCreator_ok hok
    · rw [heq] at hr
      exact absurd hr hnew
    · rw [heq] at hr
      obtain hr | hr := List.mem_append.mp hr
      · exact absurd hr hnew
      · rw [List.mem_singleton] at hr
        subst hr
        cases hsucceeded
  | committed =>
    obtain hr | ⟨x, -, -, rfl⟩ := mem_updateWhere_cases hr
    · exact absurd hr hnew
    · cases hsucceeded
  | retried _ hok =>
    rw [retryRenewalSetupIntent_ok hok] at hr
    obtain hr | ⟨x, -, -, rfl⟩ := mem_updateWhere_cases hr
    · exact absurd hr hnew
    · cases hsucceeded
  | drained h =>
    cases h
    obtain hr | ⟨x, hx, -, rfl⟩ := mem_updateWhere_cases hr
    · exact absurd hr hnew
    · exact absurd hsucceeded (hbefore x hx rfl)
  | derived hd hphase hwrite =>
    exact linkedNow_of_write hinv hd hphase hwrite rfl rfl hr hsucceeded hnew
  | @settled d row outcome hd hphase =>
    cases outcome with
    | completed status reason => exact absurd hr hnew
    | deferred reason retryInMs =>
      obtain hr | ⟨x, hx, -, rfl⟩ := mem_updateWhere_cases hr
      · exact absurd hr hnew
      · exact absurd hsucceeded (hbefore x hx rfl)
    | decided queued reason =>
      obtain hr | ⟨x, hx, hmatch, rfl⟩ := mem_updateWhere_cases hr
      · exact absurd hr hnew
      · -- the handler of a derivation intent never returns `queued`
        simp only [Bool.and_eq_true, decide_eq_true_eq] at hmatch
        have hok := hinv.drains d hd
        have hcurrent : d.phase.row = some row := congrArg DrainPhase.row hphase
        have hsame : SameIntent row x := (hok.current row hcurrent).same x hx hmatch.1
        have hqueued : queued = false :=
          hok.phase.decided row queued reason hphase (hsame.eventType ▸ hevent)
        subst hqueued
        cases hsucceeded
  | failed =>
    obtain hr | ⟨x, hx, -, rfl⟩ := mem_updateWhere_cases hr
    · exact absurd hr hnew
    · dsimp only at hsucceeded
      split at hsucceeded <;> cases hsucceeded
  | _ => exact absurd hr hnew

/-! ## §7. Every run. -/

theorem detachStands_init (h : system.init s) : DetachStands s := by
  obtain ⟨houtbox, -, -, -, hlog⟩ := h
  constructor
  · rw [houtbox]
    exact List.forall_mem_nil _
  · rintro id c ⟨earlier, later, hsplit, -⟩
    rw [hlog] at hsplit
    simp at hsplit

theorem reachable_stands (h : Reachable system namesAlike s) : DetachStands s := by
  have hboth : Inv s ∧ DetachStands s := by
    apply h.invariant (I := fun x => Inv x ∧ DetachStands x)
    · exact fun x hx => ⟨inv_init hx, detachStands_init hx⟩
    · exact fun x a y hx halike hstep => ⟨hx.1.step hstep, hx.2.step hx.1 hstep halike⟩
  exact hboth.2

/-- **A DETACH STANDS EXACTLY IF IT NAMES ITS INTENTS**: in every run, every state
    keeps every earlier detach exactly if each detach of the run is called with the
    text its outstanding intents were recorded with.  And in every run an intent is
    marked `succeeded` only in the step that links its certificate. -/
theorem detach_stands_iff {s₀ : State} {steps : List (Stepped State Act)} (hinit : system.init s₀)
    (hrun : Trace system s₀ steps t) :
    ((∀ x ∈ steps, DetachStands x.after) ↔ ∀ x ∈ steps, namesAlike x.before x.label) ∧
    ∀ x ∈ steps, ∀ r ∈ x.after.tables.outbox, r.eventType = .profileDerivationRequested →
      r.status = .succeeded →
      (∀ y ∈ x.before.tables.outbox, y.id = r.id → y.status ≠ .succeeded) →
      LinkedNow x.before x.after r := by
  constructor
  · apply hrun.forall_iff hinit
    intro x hreach hstep
    have hinv := reachable_inv hreach
    exact ⟨DetachStands.names hinv hstep, (reachable_stands hreach).step hinv hstep⟩
  · refine hrun.forall_step hinit fun x hreach hstep => ?_
    intro r hr hevent hsucceeded hbefore
    exact succeeded_linked (reachable_inv hreach) hstep hr hevent hsucceeded hbefore

/-! ## §8. Two runs. -/

instance (s : State) : (a : Act) → Decidable (namesAlike s a)
  | .commitDetach certificate =>
    inferInstanceAs (Decidable (∀ d ∈ s.detaches, d.certificate = certificate →
      ∀ r ∈ s.tables.outbox, r.eventType = .profileDerivationRequested →
        r.payload.certificateId.bind uuidIn = some certificate → r.status.revivable = true →
        r.payload.certificateId = some d.certificateId))
  | .tick _ | .writeProfile .. | .enqueueOther .. | .renewalSetup .. | .beginDetach ..
  | .rollbackDetach _ | .retryIntent .. | .drain _ | .handle .. | .derive .. | .fail .. | .settle _
  | .crash _ => .isTrue trivial

namespace Demo

def lowerCase : String := "aaaaaaaa-aaaa-4aaa-8aaa-aaaaaaaaaaaa"
def upperCase : String := "AAAAAAAA-AAAA-4AAA-8AAA-AAAAAAAAAAAA"

/-- The certificate of both texts. -/
def certificate : Nat := 0xaaaaaaaaaaaa4aaa8aaaaaaaaaaaaaaa

def start : State :=
  { tables :=
      { now := 1000, nextId := 1
        certificates := [{ id := certificate, workspaceId := 7, profileId := none }], outbox := [] } }

theorem start_init : system.init start := by
  refine ⟨rfl, ?_, rfl, rfl, rfl⟩
  decide

/-- Two setups, the first named by `text`.  The second is carried out, the
    certificate is detached, and the drain comes back for what is left. -/
def setupTwiceThenDetach (text : String) : List Act :=
  [.renewalSetup 7 text { jobId := "j1" }, .renewalSetup 7 lowerCase { jobId := "j2" },
    .drain 50, .handle 3 { job := some .running }, .settle 3,
    .handle 3 { job := some .succeeded }, .derive 3 { profile := .stored 9 } true, .settle 3,
    .beginDetach 7 lowerCase, .commitDetach certificate, .tick 60000, .drain 50]

def carryOut : List Act :=
  [.handle 4 { job := some .succeeded }, .derive 4 { profile := .stored 9 } true, .settle 4]

end Demo

/-- A detach that names the certificate in lower case misses the intent that was
    recorded in upper case, and the intent links the certificate again. -/
theorem detach_undone :
    ∃ steps t, system.init Demo.start ∧ Trace system Demo.start steps t ∧
      LinkedAfter t.log 1 Demo.certificate ∧ t.tables.profileOf Demo.certificate = some 9 ∧
      ¬ DetachStands t := by
  have hplayed : (traceOf next (Demo.setupTwiceThenDetach Demo.upperCase ++ Demo.carryOut)
      ([], Demo.start)).map (fun r => (r.2.log, r.2.tables.profileOf Demo.certificate)) =
      some ([.recorded 1 Demo.certificate, .recorded 2 Demo.certificate,
        .linked 2 Demo.certificate (some 9), .detached Demo.certificate,
        .linked 1 Demo.certificate (some 9)], some 9) := by decide +kernel
  obtain ⟨⟨steps, t⟩, hplay, hend⟩ := Option.map_eq_some_iff.mp hplayed
  rw [Prod.mk.injEq] at hend
  have hlinked : LinkedAfter t.log 1 Demo.certificate := by
    rw [hend.1]
    exact ⟨[.recorded 1 Demo.certificate, .recorded 2 Demo.certificate,
      .linked 2 Demo.certificate (some 9)], [.linked 1 Demo.certificate (some 9)], rfl,
      List.mem_cons_self, Demo.certificate, some 9, List.mem_cons_self⟩
  exact ⟨steps, t, Demo.start_init, .of_traceOf (fun _ _ _ h => h) .nil hplay, hlinked, hend.2,
    fun hstands => hstands.unlinked 1 Demo.certificate hlinked⟩

theorem detach_stands_iff_demo :
    ∃ steps t, Trace system Demo.start steps t ∧ (∀ x ∈ steps, DetachStands x.after) ∧
      t.tables.profileOf Demo.certificate = none ∧
      t.tables.outbox.map (·.status) = [.skipped, .succeeded] := by
  have hplayed : (traceOf next (Demo.setupTwiceThenDetach Demo.lowerCase) ([], Demo.start)).map
      (fun r => (decide (∀ x ∈ r.1, namesAlike x.before x.label),
        r.2.tables.profileOf Demo.certificate, r.2.tables.outbox.map (·.status))) =
      some (true, none, [.skipped, .succeeded]) := by decide +kernel
  obtain ⟨⟨steps, t⟩, hplay, hend⟩ := Option.map_eq_some_iff.mp hplayed
  rw [Prod.mk.injEq, Prod.mk.injEq] at hend
  have hrun : Trace system Demo.start steps t := .of_traceOf (fun _ _ _ h => h) .nil hplay
  exact ⟨steps, t, hrun, (detach_stands_iff Demo.start_init hrun).1.mpr (of_decide_eq_true hend.1),
    hend.2⟩

end TokenTimer.CertOps.Adoption
