/-
  TokenTimer.CertOps.EnrollmentSafety — one enrollment and one job at a time.

  A certificate has at most one open enrollment, an enrollment at most one
  active job, a terminal enrollment keeps its state, and attempts only grow.
  The first two hold in the runs whose calls are `Strict`: `createEnrollment`
  takes the certificate lock and looks for an open enrollment only when the id
  has the hyphenated spelling, but the column takes every spelling of a UUID.

  Main results:
    * `Change.row_forward`, `Change.row_origin` — a row across a change.
    * `Change.oneOpen`, `Change.oneLive` — what one change keeps.
    * `enrollments_exclusive_while_strict` — every strict run.
-/

import TokenTimer.CertOps.EnrollmentRefinement

namespace TokenTimer.CertOps.Enrollment

open Lib.Table Lib.Runs

variable {env : Env} {strict : Prop} {s s' : EnrollDb}

/-! ## §1. A row across a change. -/

theorem mem_open_iff (state : EnrollmentState) :
    state ∈ OPEN_ENROLLMENT_STATES ↔ isTerminalEnrollment state = false := by
  cases state <;> decide

/-- What a row keeps: the INSERT columns, a terminal state; its attempt does not
    decrease. -/
structure Kept (e e' : EnrollmentRow) : Prop where
  spec : e'.toEnrollmentSpec = e.toEnrollmentSpec
  attempt : e.attempt ≤ e'.attempt
  terminal : isTerminalEnrollment e.state = true → e'.state = e.state

theorem Kept.refl (e : EnrollmentRow) : Kept e e :=
  ⟨rfl, le_rfl, fun _ => rfl⟩

variable {e e' row row' : EnrollmentRow}

theorem Kept.trans {e'' : EnrollmentRow} (h₁ : Kept e e') (h₂ : Kept e' e'') : Kept e e'' := by
  refine ⟨h₂.spec.trans h₁.spec, h₁.attempt.trans h₂.attempt, ?_⟩
  intro hterm
  have hsame := h₁.terminal hterm
  rw [← hsame] at hterm
  exact (h₂.terminal hterm).trans hsame

theorem Kept.was_open (h : Kept e e') (hopen : e'.state ∈ OPEN_ENROLLMENT_STATES) :
    e.state ∈ OPEN_ENROLLMENT_STATES := by
  rw [mem_open_iff] at hopen ⊢
  by_contra hterm
  have hterm' : isTerminalEnrollment e.state = true := by simpa using hterm
  rw [h.terminal hterm', hterm'] at hopen
  cases hopen

theorem Kept.id (h : Kept e e') : e'.id = e.id :=
  congrArg EnrollmentSpec.id h.spec

theorem RowChange.kept {now : Nat} (h : RowChange now row row') :
    Kept row row' :=
  ⟨h.keeps.1, h.keeps.2.1.ge, h.terminal⟩

theorem DispatchChange.kept {now : Nat} {jobId : Nat} (h : DispatchChange now row row') :
    Kept row (row.dispatched jobId row') :=
  ⟨h.spec, Nat.le_succ _, h.terminal⟩

theorem kept_started {started : EnrollmentRow → Bool} (h : ∀ e, started e = true → e.attempt = 0) :
    Kept e (if started e then { e with attempt := 1 } else e) := by
  split
  · rename_i hstart
    exact ⟨rfl, by show e.attempt ≤ 1; rw [h e hstart]; exact Nat.zero_le 1, fun _ => rfl⟩
  · exact .refl e

theorem replaceEnrollment_forward (hs : Sound s) (hrow : row ∈ s.enrollments) (hkept : Kept row row')
    (he : e ∈ s.enrollments) :
    ∃ e' ∈ replaceEnrollment row' s.enrollments, Kept e e' := by
  by_cases hid : e.id = row'.id
  · obtain rfl := hs.key.eq_of_mem he hrow (hid.trans hkept.id)
    exact ⟨row', mem_replaceByKey.mpr (.inr ⟨rfl, e, he, hid⟩), hkept⟩
  · exact ⟨e, mem_replaceByKey.mpr (.inl ⟨he, hid⟩), .refl e⟩

theorem replaceEnrollment_origin (hrow : row ∈ s.enrollments) (hkept : Kept row row')
    (he' : e' ∈ replaceEnrollment row' s.enrollments) :
    ∃ e ∈ s.enrollments, Kept e e' := by
  obtain ⟨hold, -⟩ | ⟨rfl, -⟩ := mem_replaceByKey.mp he'
  · exact ⟨e', hold, .refl e'⟩
  · exact ⟨row, hrow, hkept⟩

theorem Change.row_forward (hs : Sound s) (h : Change env strict s s') (he : e ∈ s.enrollments) :
    ∃ e' ∈ s'.enrollments, Kept e e' := by
  cases h with
  | jobs core issuers preflights started hmoves hborn hstarted =>
    exact ⟨_, mem_updateWhere.mpr ⟨e, he, rfl⟩, kept_started hstarted⟩
  | row _ _ _ _ _ _ _ _ hrow hset | «continue» _ _ _ _ hrow _ _ _ hset =>
    exact replaceEnrollment_forward hs hrow hset.kept he
  | create row job hid hjob hnew hstate hcurrent hfree =>
    exact ⟨e, List.mem_append_left _ he, .refl e⟩

theorem Change.row_origin (h : Change env strict s s') (he' : e' ∈ s'.enrollments) :
    (∃ e ∈ s.enrollments, Kept e e') ∨
      (e'.id = s.core.nextId ∧ (strict → ∀ e ∈ s.enrollments, e.workspaceId = e'.workspaceId →
        e'.certificateId.isSome = true → e.certificateId = e'.certificateId →
        e.state ∉ OPEN_ENROLLMENT_STATES)) := by
  cases h with
  | jobs core issuers preflights started hmoves hborn hstarted =>
    obtain ⟨e, he, rfl⟩ := mem_updateWhere.mp he'
    exact .inl ⟨e, he, kept_started hstarted⟩
  | row _ _ _ _ _ _ _ _ hrow hset | «continue» _ _ _ _ hrow _ _ _ hset =>
    exact .inl (replaceEnrollment_origin hrow hset.kept he')
  | create row job hid hjob hnew hstate hcurrent hfree =>
    obtain hold | rfl := List.mem_append.mp he' |>.imp_right List.mem_singleton.mp
    · exact .inl ⟨e', hold, .refl e'⟩
    · exact .inr ⟨hid, hfree⟩

/-! ## §2. One open enrollment. -/

def OneOpen (s : EnrollDb) : Prop :=
  ∀ e ∈ s.enrollments, ∀ e' ∈ s.enrollments, e.workspaceId = e'.workspaceId →
    e.certificateId.isSome = true → e.certificateId = e'.certificateId →
    e.state ∈ OPEN_ENROLLMENT_STATES → e'.state ∈ OPEN_ENROLLMENT_STATES → e = e'

/-- The second of two open rows of a certificate is not new. -/
theorem Change.new_conflicts (h : Change env strict s s') (hstrict : strict)
    (he : ∃ x ∈ s.enrollments, Kept x e) (he' : e' ∈ s'.enrollments)
    (hws : e.workspaceId = e'.workspaceId) (hsome : e.certificateId.isSome = true)
    (hcert : e.certificateId = e'.certificateId) (hopen : e.state ∈ OPEN_ENROLLMENT_STATES) :
    ∃ x ∈ s.enrollments, Kept x e' := by
  obtain hold | ⟨-, hfree⟩ := h.row_origin he'
  · exact hold
  · obtain ⟨x, hx, hkept⟩ := he
    have hxws : x.workspaceId = e.workspaceId :=
      (congrArg EnrollmentSpec.workspaceId hkept.spec).symm
    have hxcert : x.certificateId = e.certificateId :=
      (congrArg EnrollmentSpec.certificateId hkept.spec).symm
    exact absurd (hkept.was_open hopen)
      (hfree hstrict x hx (hxws.trans hws) (hcert ▸ hsome) (hxcert.trans hcert))

theorem Change.oneOpen (hs : Sound s) (h : Change env strict s s') (hstrict : strict)
    (hone : OneOpen s) : OneOpen s' := by
  intro e he e' he' hws hsome hcert hopen hopen'
  have hs' := h.sound hs
  by_cases hnew : e.id = s.core.nextId ∧ e'.id = s.core.nextId
  · exact hs'.key.eq_of_mem he he' (hnew.1.trans hnew.2.symm)
  -- One of them was there before, so both were.
  have hold : (∃ x ∈ s.enrollments, Kept x e) ∧ ∃ x ∈ s.enrollments, Kept x e' := by
    obtain hx | ⟨hid, -⟩ := h.row_origin he
    · exact ⟨hx, h.new_conflicts hstrict hx he' hws hsome hcert hopen⟩
    · obtain hx' | ⟨hid', -⟩ := h.row_origin he'
      · exact ⟨h.new_conflicts hstrict hx' he hws.symm (hcert ▸ hsome) hcert.symm hopen', hx'⟩
      · exact absurd ⟨hid, hid'⟩ hnew
  obtain ⟨⟨x, hx, hkept⟩, x', hx', hkept'⟩ := hold
  have hsame : x = x' := by
    have hspec := hkept.spec
    have hspec' := hkept'.spec
    refine hone x hx x' hx' ?_ ?_ ?_ (hkept.was_open hopen) (hkept'.was_open hopen')
    · rw [← congrArg EnrollmentSpec.workspaceId hspec, ← congrArg EnrollmentSpec.workspaceId hspec']
      exact hws
    · rw [← congrArg EnrollmentSpec.certificateId hspec]
      exact hsome
    · rw [← congrArg EnrollmentSpec.certificateId hspec,
        ← congrArg EnrollmentSpec.certificateId hspec']
      exact hcert
  exact hs'.key.eq_of_mem he he' (by rw [hkept.id, hkept'.id, hsame])

/-! ## §3. One active job. -/

/-- Every active job of an enrollment is its current job. -/
def OneLive (s : EnrollDb) : Prop :=
  ∀ e ∈ s.enrollments, ∀ j ∈ s.core.jobs, j.enrollmentId = some e.id →
    isTerminalJobStatus j.status = false → e.currentJobId = some j.id

/-- The job tables move under rows that keep their current jobs. -/
theorem OneLive.of_moves (hs : Sound s) (hone : OneLive s) {core : Db} {issuers : List IssuerRow}
    {preflights : List PreflightJobRow} {rows : List EnrollmentRow}
    (hmoves : Moves (Regime.free env) s.core core) (hborn : NoBoundBorn s.core core)
    (hrows : ∀ e' ∈ rows, ∃ e ∈ s.enrollments, e'.id = e.id ∧ e'.currentJobId = e.currentJobId) :
    OneLive { core := core, issuers := issuers, preflights := preflights, enrollments := rows } := by
  intro e' he' j' hj' hbound hlive
  obtain ⟨e, he, hid, hcurrent⟩ := hrows e' he'
  have hsome : j'.enrollmentId ≠ none := by
    rw [hbound]
    simp
  obtain ⟨j, hj, hspec, hlive⟩ := live_origin hs.core hborn hmoves hj' hsome hlive
  have hjid : j.id = j'.id := congrArg JobSpec.id hspec
  have hjbound : j.enrollmentId = some e.id := by
    rw [← hid]
    exact (congrArg JobSpec.enrollmentId hspec).trans hbound
  rw [hcurrent, ← hjid]
  exact hone e he j hj hjbound hlive

theorem Change.oneLive (hs : Sound s) (h : Change env strict s s') (hstrict : strict)
    (hone : OneLive s) : OneLive s' := by
  cases h with
  | jobs core issuers preflights started hmoves hborn hstarted =>
    refine hone.of_moves hs hmoves hborn ?_
    intro e' he'
    obtain ⟨e, he, rfl⟩ := mem_updateWhere.mp he'
    refine ⟨e, he, ?_⟩
    split <;> exact ⟨rfl, rfl⟩
  | row now row row' core issuers preflights hmoves hborn hrow hset =>
    refine hone.of_moves hs hmoves hborn ?_
    intro e' he'
    obtain ⟨hold, -⟩ | ⟨rfl, -⟩ := mem_replaceByKey.mp he'
    · exact ⟨e', hold, rfl, rfl⟩
    · exact ⟨row, hrow, hset.kept.id, hset.keeps.2.2⟩
  | create row job hid hjob hnew hstate hcurrent hfree =>
    intro e he j hj hbound hlive
    obtain hold | rfl := List.mem_append.mp he |>.imp_right List.mem_singleton.mp
    · obtain hjold | rfl := List.mem_append.mp hj |>.imp_right List.mem_singleton.mp
      · exact hone e hold j hjold hbound hlive
      · -- The new job belongs to the new row.
        have hsame : row.id = e.id := Option.some.inj (hnew.bound.symm.trans hbound)
        have := hs.fresh e hold
        omega
    · obtain hjold | rfl := List.mem_append.mp hj |>.imp_right List.mem_singleton.mp
      · obtain ⟨x, hx, hxid, -⟩ := hs.bound j hjold e.id hbound
        have := hs.fresh x hx
        omega
      · exact hcurrent
  | «continue» now row row' job hrow hjob hnew hjlive hset hidle =>
    intro e he j hj hbound hlive
    obtain ⟨hold, hne⟩ | ⟨rfl, -⟩ := mem_replaceByKey.mp he
    · obtain hjold | rfl := List.mem_append.mp hj |>.imp_right List.mem_singleton.mp
      · exact hone e hold j hjold hbound hlive
      · have hsame : row.id = e.id := Option.some.inj (hnew.bound.symm.trans hbound)
        exact absurd (hsame.symm.trans (congrArg EnrollmentSpec.id hset.spec).symm) hne
    · obtain hjold | rfl := List.mem_append.mp hj |>.imp_right List.mem_singleton.mp
      · -- An active job of the row was its current job, which is not active.
        have hrowid : j.enrollmentId = some row.id :=
          hbound.trans (congrArg some (congrArg EnrollmentSpec.id hset.spec))
        have hcurrent := hone row hrow j hjold hrowid hlive
        rw [hidle hstrict j hjold hcurrent] at hlive
        cases hlive
      · rfl

/-! ## §4. Runs. -/

theorem next_change (hs : Sound s) {call : Call} (hstrict : strict → Strict s call) :
    Change env strict s (next env s call) :=
  next_of_exec (P := fun x => Change env strict s x) (.refl strict s)
    fun _ h => exec_change hs hstrict h

theorem run_row {ok : EnrollDb → Call → Prop} (h : Run (system env) ok s s') (hs : Sound s)
    (he : e ∈ s.enrollments) :
    Sound s' ∧ ∃ e' ∈ s'.enrollments, Kept e e' := by
  refine h.invariant (I := fun x => Sound x ∧ ∃ e' ∈ x.enrollments, Kept e e') ?_
    ⟨hs, e, he, .refl e⟩
  intro x call y hx _ hstep
  obtain ⟨hsound, e₁, he₁, hkept⟩ := hx
  rw [show y = next env x call from hstep]
  have hchange : Change env False x (next env x call) := next_change hsound fun h => h.elim
  refine ⟨hchange.sound hsound, ?_⟩
  obtain ⟨e₂, he₂, hkept₂⟩ := hchange.row_forward hsound he₁
  exact ⟨e₂, he₂, hkept.trans hkept₂⟩

/-- **ONE ENROLLMENT, ONE JOB, AND FINAL STATES.**  In every state of a strict
    run: a certificate has at most one open enrollment, and an enrollment at most
    one active job.  And along every run, a terminal enrollment keeps its state
    and an attempt never decreases. -/
theorem enrollments_exclusive_while_strict (h : Reachable (system env) Strict s) :
    (∀ e ∈ s.enrollments, ∀ e' ∈ s.enrollments, e.workspaceId = e'.workspaceId →
      e.certificateId.isSome = true → e.certificateId = e'.certificateId →
      e.state ∈ OPEN_ENROLLMENT_STATES → e'.state ∈ OPEN_ENROLLMENT_STATES → e = e') ∧
    (∀ e ∈ s.enrollments, ∀ j ∈ s.core.jobs, ∀ j' ∈ s.core.jobs,
      j.enrollmentId = some e.id → j'.enrollmentId = some e.id →
      isActiveJobStatus j.status = true → isActiveJobStatus j'.status = true → j = j') ∧
    (∀ s', Run (system env) anyStep s s' → ∀ e ∈ s.enrollments, ∃ e' ∈ s'.enrollments,
      e'.id = e.id ∧ e.attempt ≤ e'.attempt ∧
      (isTerminalEnrollment e.state = true → e'.state = e.state)) := by
  have hinv : Sound s ∧ OneOpen s ∧ OneLive s := by
    refine h.invariant (I := fun x => Sound x ∧ OneOpen x ∧ OneLive x) ?_ ?_
    · intro s hs
      rw [show s = EnrollDb.empty from hs]
      refine ⟨.empty, ?_, ?_⟩ <;> intro e he <;> cases he
    · intro s call t hI hok hstep
      obtain ⟨hsound, hopen, hlive⟩ := hI
      rw [show t = next env s call from hstep]
      have hchange : Change env True s (next env s call) := next_change hsound fun _ => hok
      exact ⟨hchange.sound hsound, hchange.oneOpen hsound trivial hopen,
        hchange.oneLive hsound trivial hlive⟩
  obtain ⟨hsound, hopen, hlive⟩ := hinv
  refine ⟨hopen, ?_, ?_⟩
  · intro e he j hj j' hj' hbound hbound' hactive hactive'
    rw [isActiveJobStatus_eq] at hactive hactive'
    have hcurrent := hlive e he j hj hbound (by simpa using hactive)
    have hcurrent' := hlive e he j' hj' hbound' (by simpa using hactive')
    exact hsound.core.jobs.key.eq_of_mem hj hj'
      (Option.some.inj (hcurrent.symm.trans hcurrent'))
  · intro s' hrun e he
    obtain ⟨-, e', he', hkept⟩ := run_row hrun hsound he
    exact ⟨e', he', hkept.id, hkept.attempt, hkept.terminal⟩

/-- A strict run with an open enrollment. -/
theorem enrollments_exclusive_demo :
    (∃ e ∈ (play Demo.env (Demo.setup ++ [Demo.enroll Demo.hyphenated])).enrollments,
      e.state ∈ OPEN_ENROLLMENT_STATES) ∧
    ∀ e ∈ (play Demo.env (Demo.setup ++ [Demo.enroll Demo.hyphenated])).enrollments,
      ∀ e' ∈ (play Demo.env (Demo.setup ++ [Demo.enroll Demo.hyphenated])).enrollments,
        e.workspaceId = e'.workspaceId → e.certificateId.isSome = true →
        e.certificateId = e'.certificateId → e.state ∈ OPEN_ENROLLMENT_STATES →
        e'.state ∈ OPEN_ENROLLMENT_STATES → e = e' := by
  have hreach : Reachable (system Demo.env) Strict
      (play Demo.env (Demo.setup ++ [Demo.enroll Demo.hyphenated])) := by
    refine play_reachable_of_forall Demo.env _ ?_
    intro call hcall s
    simp only [Demo.setup, List.cons_append, List.nil_append, List.mem_cons, List.not_mem_nil,
      or_false] at hcall
    obtain rfl | rfl | rfl | rfl | rfl | rfl | rfl | rfl := hcall
    -- Only the creation has something to check: its id is hyphenated.
    case inr.inr.inr.inr.inr.inr.inr => exact .inl (by decide)
    all_goals trivial
  exact ⟨by decide +kernel, (enrollments_exclusive_while_strict hreach).1⟩

/-- TWO OPEN ENROLLMENTS OF ONE CERTIFICATE: the second creation spells the UUID
    without hyphens, so it neither takes the lock nor looks. -/
theorem two_open_enrollments :
    Reachable (system Demo.env) anyStep
      (play Demo.env (Demo.setup ++ [Demo.enroll Demo.hyphenated, Demo.enroll Demo.unhyphenated])) ∧
    ¬ ∀ e ∈ (play Demo.env (Demo.setup ++
          [Demo.enroll Demo.hyphenated, Demo.enroll Demo.unhyphenated])).enrollments,
        ∀ e' ∈ (play Demo.env (Demo.setup ++
          [Demo.enroll Demo.hyphenated, Demo.enroll Demo.unhyphenated])).enrollments,
          e.workspaceId = e'.workspaceId → e.certificateId.isSome = true →
          e.certificateId = e'.certificateId → e.state ∈ OPEN_ENROLLMENT_STATES →
          e'.state ∈ OPEN_ENROLLMENT_STATES → e = e' :=
  ⟨play_reachable _ _, by decide +kernel⟩

end TokenTimer.CertOps.Enrollment
