/-
  TokenTimer.CertOps.EnrollmentChanges — what ONE transaction can do to the
  enrollments.

  A transaction of the control plane with enrollments is one CHANGE: the job
  tables move and no enrollment is touched; or one enrollment row is rewritten;
  or an enrollment is created with its first job; or a continuation is created
  for one.  A change says everything an invariant needs, guards included.

  Two guards of the source can be passed by (an identifier the pattern does not
  match, a join that read an older job).  A change carries them under `strict`:
  the invariant proofs that need them show that the run is strict.

  Main results:
    * `Sound` and `Change.sound` — the keys and links of the enrollment tables.
    * `RowChange.terminal`, `DispatchChange.terminal` — a terminal state stays.
-/

import TokenTimer.CertOps.EnrollmentFrame

namespace TokenTimer.CertOps.Enrollment

open Lib.Table Lib.Runs

variable {env : Env} {s s' : EnrollDb}

/-! ## §1. The keys and links. -/

/-- THE TABLES FIT TOGETHER: ids are keys, a job's enrollment is a row of its
    workspace, and a current job is a job of the enrollment. -/
structure Sound (s : EnrollDb) : Prop where
  core : WellFormed s.core
  key : KeyNodup (fun e : EnrollmentRow => e.id) s.enrollments
  fresh : ∀ e ∈ s.enrollments, e.id < s.core.nextId
  bound : ∀ j ∈ s.core.jobs, ∀ i, j.enrollmentId = some i →
    ∃ e ∈ s.enrollments, e.id = i ∧ e.workspaceId = j.workspaceId
  current : ∀ e ∈ s.enrollments, ∀ i, e.currentJobId = some i →
    ∃ j ∈ s.core.jobs, j.id = i ∧ j.enrollmentId = some e.id ∧ j.workspaceId = e.workspaceId

variable {row row' : EnrollmentRow} {now : Nat}

theorem enrollmentOf_some {ws id : Nat} (h : s.enrollmentOf ws id = some row) :
    row ∈ s.enrollments ∧ row.workspaceId = ws ∧ row.id = id := by
  obtain ⟨hrow, hp⟩ := selectOne_some h
  exact ⟨hrow, by simpa using hp⟩

def replaceEnrollment (new : EnrollmentRow) (rows : List EnrollmentRow) : List EnrollmentRow :=
  replaceByKey (fun e : EnrollmentRow => e.id) new rows

theorem updateEnrollment_eq (hs : Sound s) (hrow : row ∈ s.enrollments)
    (set : EnrollmentRow → EnrollmentRow) (hset : (set row).id = row.id) :
    s.updateEnrollment row.workspaceId row.id set =
      { s with enrollments := replaceEnrollment (set row) s.enrollments } := by
  unfold EnrollDb.updateEnrollment replaceEnrollment
  rw [updateWhere_eq_replaceByKey_of_iff hs.key hrow hset]
  intro x hx
  simp only [decide_eq_true_eq]
  constructor
  · exact fun h => h.2
  · intro hid
    rw [hs.key.eq_of_mem hx hrow hid]
    exact ⟨rfl, rfl⟩

theorem isActiveJobStatus_eq (status : JobStatus) :
    isActiveJobStatus status = !isTerminalJobStatus status := by
  cases status <;> rfl

/-! ## §2. One row. -/

/-- HOW A ROW IS REWRITTEN without a new job; `now` is the time of the
    transaction. -/
inductive RowChange (now : Nat) (row : EnrollmentRow) : EnrollmentRow → Prop
  /-- A result is recorded. -/
  | report (seen : SeenEnrollment) (r : EnrollmentResult) (hstate : row.state = seen.state)
      (hreach : canReachEnrollmentState seen.state r.state = true) :
      RowChange now row (setReported seen r now row)
  /-- A request id is proposed. -/
  | propose (requestId : Option Nat) (hstate : row.state = .submissionUncertain) :
      RowChange now row { row with operatorRequestId := requestId, nextPollAt := some now }
  | cancel (nextPollAt : Option Nat) (hstate : EnrollmentState.cancelled ∈ FORWARD row.state) :
      RowChange now row { row with state := .cancelled, nextPollAt := nextPollAt }
  | abandon (hstate : EnrollmentState.abandoned ∈ FORWARD row.state) :
      RowChange now row { row with state := .abandoned, nextPollAt := some now }
  /-- The scheduler hands an unclassified retrieval to an operator. -/
  | reconcile (hstate : row.state = .pendingIssuance) :
      RowChange now row (setRetrievalReconciliation row)
  /-- The scheduler drops the poll date of a retired certificate. -/
  | park : RowChange now row { row with nextPollAt := none }

/-- The columns of the INSERT, the attempt and the current job stay. -/
theorem RowChange.keeps (h : RowChange now row row') :
    row'.toEnrollmentSpec = row.toEnrollmentSpec ∧ row'.attempt = row.attempt ∧
      row'.currentJobId = row.currentJobId := by
  cases h <;> exact ⟨rfl, rfl, rfl⟩

variable {orig dest : EnrollmentState} {strict : Prop} {core : Db} {issuers : List IssuerRow}
    {preflights : List PreflightJobRow} {job : JobRow}

theorem canReach_terminal (hterm : isTerminalEnrollment orig = true)
    (hreach : canReachEnrollmentState orig dest = true) : dest = orig := by
  unfold canReachEnrollmentState at hreach
  cases orig <;> simp_all [isTerminalEnrollment, reachLoop, visitNext, FORWARD]

theorem forward_terminal (hterm : isTerminalEnrollment orig = true) : dest ∉ FORWARD orig := by
  cases orig <;> simp [isTerminalEnrollment, FORWARD] at hterm ⊢

/-- A TERMINAL STATE STAYS. -/
theorem RowChange.terminal (h : RowChange now row row') (hterm : isTerminalEnrollment row.state = true) :
    row'.state = row.state := by
  cases h with
  | report seen r hstate hreach =>
    rw [hstate] at hterm
    exact (canReach_terminal hterm hreach).trans hstate.symm
  | propose | park => rfl
  | cancel _ hstate | abandon hstate => exact absurd hstate (forward_terminal hterm)
  | reconcile hstate =>
    rw [hstate] at hterm
    cases hterm

/-- HOW A ROW IS REWRITTEN when a continuation is dispatched for it. -/
inductive DispatchChange (now : Nat) (row : EnrollmentRow) : EnrollmentRow → Prop
  /-- The scheduler: the decision says which state the row is in. -/
  | scheduled (decision : Continuation) (hdecision : decideContinuation row false now = some decision)
      (hkind : decision ≠ .retrieveReconciliation) :
      DispatchChange now row (setDispatched decision now row)
  /-- The operator retries an installation or recovers an orphaned job. -/
  | operator (hstate : row.state = .installFailed ∨ recoverable row.state = true) :
      DispatchChange now row { row with nextPollAt := none }

/-- The columns of the INSERT stay. -/
theorem DispatchChange.spec (h : DispatchChange now row row') :
    row'.toEnrollmentSpec = row.toEnrollmentSpec := by
  cases h <;> rfl

theorem decideContinuation_deadline {activeJob : Bool} {decision : Continuation}
    (h : decideContinuation row activeJob now = some decision)
    (hdeadline : decision = .expire ∨ decision = .retrieveReconciliation) :
    row.state = .pendingIssuance := by
  unfold decideContinuation at h
  split at h
  · cases h
  split at h
  · cases h
  split at h
  · rename_i hpast
    simp only [pastPendingTimeout, decide_eq_true_eq] at hpast
    exact hpast.1
  -- The remaining decisions are dispatches.
  split at h
  · cases h
  split at h
  · cases h
    simp at hdeadline
  split at h
  · cases h
    simp at hdeadline
  split at h
  · obtain ⟨requestId, -, rfl⟩ := Option.map_eq_some_iff.mp h
    simp at hdeadline
  split at h
  · cases h
    simp at hdeadline
  split at h
  · cases h
    simp at hdeadline
  · cases h

theorem DispatchChange.terminal (h : DispatchChange now row row')
    (hterm : isTerminalEnrollment row.state = true) :
    row'.state = row.state := by
  cases h with
  | scheduled decision hdecision =>
    show (if decision = .expire then EnrollmentState.expired else row.state) = row.state
    by_cases hexpire : decision = .expire
    · rw [hexpire] at hdecision
      rw [decideContinuation_deadline hdecision (.inl rfl)] at hterm
      cases hterm
    · rw [if_neg hexpire]
  | operator => rfl

/-! ## §3. One change. -/

def EnrollmentRow.dispatched (row : EnrollmentRow) (jobId : Nat) (row' : EnrollmentRow) :
    EnrollmentRow :=
  { row' with attempt := row.attempt + 1, currentJobId := some jobId }

/-- A job that the INSERT of an enrollment service writes. -/
structure EnrollmentJob (env : Env) (row : EnrollmentRow) (job : JobRow) : Prop where
  new : NewJob (Regime.free env) job
  bound : job.enrollmentId = some row.id
  workspace : job.workspaceId = row.workspaceId
  other : isTrustAnchorOperation job.operation = false

/-- **ONE CHANGE OF THE TABLES.** -/
inductive Change (env : Env) (strict : Prop) (s : EnrollDb) : EnrollDb → Prop
  /-- The job and issuer tables only; a first claim starts the first attempt. -/
  | jobs (core : Db) (issuers : List IssuerRow) (preflights : List PreflightJobRow)
      (started : EnrollmentRow → Bool) (hmoves : Moves (Regime.free env) s.core core)
      (hborn : NoBoundBorn s.core core) (hstarted : ∀ e, started e = true → e.attempt = 0) :
      Change env strict s
        { core := core, issuers := issuers, preflights := preflights
          enrollments := updateWhere started (fun e => { e with attempt := 1 }) s.enrollments }
  /-- One row is rewritten. -/
  | row (now : Nat) (row row' : EnrollmentRow) (core : Db) (issuers : List IssuerRow)
      (preflights : List PreflightJobRow) (hmoves : Moves (Regime.free env) s.core core)
      (hborn : NoBoundBorn s.core core) (hrow : row ∈ s.enrollments)
      (hset : RowChange now row row') :
      Change env strict s
        { core := core, issuers := issuers, preflights := preflights
          enrollments := replaceEnrollment row' s.enrollments }
  /-- An enrollment is created with its first job. -/
  | create (row : EnrollmentRow) (job : JobRow) (hid : row.id = s.core.nextId)
      (hjob : job.id = s.core.nextId + 1) (hnew : EnrollmentJob env row job)
      (hstate : row.state = .requested) (hcurrent : row.currentJobId = some job.id)
      (hfree : strict → ∀ e ∈ s.enrollments, e.workspaceId = row.workspaceId →
        row.certificateId.isSome = true → e.certificateId = row.certificateId →
        e.state ∉ OPEN_ENROLLMENT_STATES) :
      Change env strict s
        { s with
          core := { s.core with nextId := s.core.nextId + 2, jobs := s.core.jobs ++ [job] }
          enrollments := s.enrollments ++ [row] }
  /-- A continuation is created. -/
  | continue (now : Nat) (row row' : EnrollmentRow) (job : JobRow) (hrow : row ∈ s.enrollments)
      (hjob : job.id = s.core.nextId) (hnew : EnrollmentJob env row job)
      (hlive : isTerminalJobStatus job.status = false) (hset : DispatchChange now row row')
      (hidle : strict → ∀ j ∈ s.core.jobs, row.currentJobId = some j.id →
        isTerminalJobStatus j.status = true) :
      Change env strict s
        { s with
          core := { s.core with nextId := s.core.nextId + 1, jobs := s.core.jobs ++ [job] }
          enrollments := replaceEnrollment (row.dispatched job.id row') s.enrollments }

theorem Change.refl (strict : Prop) (s : EnrollDb) : Change env strict s s := by
  have hsame : updateWhere (fun _ => false) (fun e : EnrollmentRow => { e with attempt := 1 })
      s.enrollments = s.enrollments := updateWhere_of_forall_not fun _ _ => rfl
  have h : Change env strict s _ := .jobs s.core s.issuers s.preflights (fun _ => false)
    (.refl s.core) (.of_jobs rfl) (fun _ h => by cases h)
  rw [hsame] at h
  exact h

theorem Change.of_jobs (hmoves : Moves (Regime.free env) s.core core)
    (hborn : NoBoundBorn s.core core) :
    Change env strict s
      { core := core, issuers := issuers, preflights := preflights
        enrollments := s.enrollments } := by
  have h : Change env strict s _ := .jobs core issuers preflights (fun _ => false) hmoves hborn
    (fun _ h => by cases h)
  rw [updateWhere_of_forall_not fun _ _ => rfl] at h
  exact h

theorem Change.moves (h : Change env strict s s') :
    Moves (Regime.free env) s.core s'.core := by
  cases h with
  | jobs _ _ _ _ hmoves | row _ _ _ _ _ _ hmoves => exact hmoves
  | create row job hid hjob hnew hstate hcurrent hfree =>
    have hframe : Move (Regime.free env) s.core { s.core with nextId := s.core.nextId + 1 } :=
      .frame le_rfl (Nat.le_succ _) rfl rfl rfl fun _ h => h
    exact (Moves.single hframe).trans (.single (.create job hjob hnew.new hnew.other))
  | «continue» now row row' job hrow hjob hnew hlive hset hidle =>
    exact .single (.create job hjob hnew.new hnew.other)

/-! ## §4. The tables still fit together. -/

theorem Sound.of_moves (hs : Sound s) (hmoves : Moves (Regime.free env) s.core core)
    (hborn : NoBoundBorn s.core core) :
    Sound { core := core, issuers := issuers, preflights := preflights
            enrollments := s.enrollments } := by
  refine ⟨hmoves.wellFormed hs.core, hs.key, ?_, ?_, ?_⟩
  · intro e he
    exact (hs.fresh e he).trans_le (hmoves.nextId_le hs.core)
  · intro j' hj' i hi
    obtain ⟨j, hj, hspec⟩ := hborn j' hj' (by rw [hi]; simp)
    have hi' : j.enrollmentId = some i := (congrArg JobSpec.enrollmentId hspec).trans hi
    obtain ⟨e, he, hid, hws⟩ := hs.bound j hj i hi'
    exact ⟨e, he, hid, hws.trans (congrArg JobSpec.workspaceId hspec)⟩
  · intro e he i hi
    obtain ⟨j, hj, hid, hbound, hws⟩ := hs.current e he i hi
    obtain ⟨j', hj', hspec⟩ := hmoves.spec_forward hs.core hj
    exact ⟨j', hj', (congrArg JobSpec.id hspec).trans hid,
      (congrArg JobSpec.enrollmentId hspec).trans hbound,
      (congrArg JobSpec.workspaceId hspec).trans hws⟩

theorem Sound.replace (hs : Sound s) (hrow : row ∈ s.enrollments)
    (hspec : row'.toEnrollmentSpec = row.toEnrollmentSpec)
    (hcurrent : ∀ i, row'.currentJobId = some i → ∃ j ∈ s.core.jobs, j.id = i ∧ j.enrollmentId = some row.id ∧ j.workspaceId = row.workspaceId) :
    Sound { s with enrollments := replaceEnrollment row' s.enrollments } := by
  have hid : row'.id = row.id := congrArg EnrollmentSpec.id hspec
  have hws : row'.workspaceId = row.workspaceId := congrArg EnrollmentSpec.workspaceId hspec
  refine ⟨hs.core, keyNodup_replaceByKey hs.key, ?_, ?_, ?_⟩
  · intro e he
    obtain ⟨hold, -⟩ | ⟨rfl, -⟩ := mem_replaceByKey.mp he
    · exact hs.fresh e hold
    · rw [hid]
      exact hs.fresh row hrow
  · intro j hj i hi
    obtain ⟨e, he, rfl, hews⟩ := hs.bound j hj i hi
    by_cases hsame : e.id = row'.id
    · obtain rfl := hs.key.eq_of_mem he hrow (hsame.trans hid)
      exact ⟨row', mem_replaceByKey.mpr (.inr ⟨rfl, e, he, hsame⟩), hid, hws.trans hews⟩
    · exact ⟨e, mem_replaceByKey.mpr (.inl ⟨he, hsame⟩), rfl, hews⟩
  · intro e he i hi
    obtain ⟨hold, -⟩ | ⟨rfl, -⟩ := mem_replaceByKey.mp he
    · exact hs.current e hold i hi
    · rw [hid, hws]
      exact hcurrent i hi

theorem Sound.started (hs : Sound s) (started : EnrollmentRow → Bool) :
    Sound { s with
      enrollments := updateWhere started (fun e => { e with attempt := 1 }) s.enrollments } := by
  have horigin : ∀ e' ∈ updateWhere started (fun e : EnrollmentRow => { e with attempt := 1 })
      s.enrollments, ∃ e ∈ s.enrollments, e'.toEnrollmentSpec = e.toEnrollmentSpec ∧
        e'.currentJobId = e.currentJobId := by
    intro e' he'
    obtain ⟨e, he, rfl⟩ := mem_updateWhere.mp he'
    refine ⟨e, he, ?_⟩
    split <;> exact ⟨rfl, rfl⟩
  refine ⟨hs.core, keyNodup_updateWhere (fun _ => rfl) hs.key, ?_, ?_, ?_⟩
  · intro e' he'
    obtain ⟨e, he, hspec, -⟩ := horigin e' he'
    rw [show e'.id = e.id from congrArg EnrollmentSpec.id hspec]
    exact hs.fresh e he
  · intro j hj i hi
    obtain ⟨e, he, hid, hws⟩ := hs.bound j hj i hi
    refine ⟨_, mem_updateWhere.mpr ⟨e, he, rfl⟩, ?_⟩
    split <;> exact ⟨hid, hws⟩
  · intro e' he' i hi
    obtain ⟨e, he, hspec, hcurrent⟩ := horigin e' he'
    rw [show e'.id = e.id from congrArg EnrollmentSpec.id hspec,
      show e'.workspaceId = e.workspaceId from congrArg EnrollmentSpec.workspaceId hspec]
    exact hs.current e he i (hcurrent.symm.trans hi)

theorem Sound.addJob (hs : Sound s) (hrow : row ∈ s.enrollments) (hid : job.id = s.core.nextId)
    (hnew : EnrollmentJob env row job) :
    Sound { s with
      core := { s.core with nextId := s.core.nextId + 1, jobs := s.core.jobs ++ [job] } } := by
  have hmove : Move (Regime.free env) s.core _ := .create job hid hnew.new hnew.other
  refine ⟨hmove.wellFormed hs.core, hs.key, ?_, ?_, ?_⟩
  · intro e he
    exact (hs.fresh e he).trans (Nat.lt_succ_self _)
  · intro j hj i hi
    obtain hold | rfl := List.mem_append.mp hj |>.imp_right List.mem_singleton.mp
    · exact hs.bound j hold i hi
    · rw [hnew.bound] at hi
      exact ⟨row, hrow, Option.some.inj hi, hnew.workspace.symm⟩
  · intro e he i hi
    obtain ⟨j, hj, hrest⟩ := hs.current e he i hi
    exact ⟨j, List.mem_append_left _ hj, hrest⟩

theorem Sound.create (hs : Sound s) (hid : row.id = s.core.nextId)
    (hjob : job.id = s.core.nextId + 1) (hnew : EnrollmentJob env row job)
    (hcurrent : row.currentJobId = some job.id) :
    Sound { s with
      core := { s.core with nextId := s.core.nextId + 2, jobs := s.core.jobs ++ [job] }
      enrollments := s.enrollments ++ [row] } := by
  have hframe : Move (Regime.free env) s.core { s.core with nextId := s.core.nextId + 1 } :=
    .frame le_rfl (Nat.le_succ _) rfl rfl rfl fun _ h => h
  have hmove : Move (Regime.free env) { s.core with nextId := s.core.nextId + 1 } _ :=
    .create job hjob hnew.new hnew.other
  refine ⟨hmove.wellFormed (hframe.wellFormed hs.core), ?_, ?_, ?_, ?_⟩
  · refine keyNodup_append_singleton hs.key ?_
    intro e he
    have := hs.fresh e he
    omega
  · intro e he
    show e.id < s.core.nextId + 2
    obtain hold | rfl := List.mem_append.mp he |>.imp_right List.mem_singleton.mp
    · have := hs.fresh e hold
      omega
    · omega
  · intro j hj i hi
    obtain hold | rfl := List.mem_append.mp hj |>.imp_right List.mem_singleton.mp
    · obtain ⟨e, he, hrest⟩ := hs.bound j hold i hi
      exact ⟨e, List.mem_append_left _ he, hrest⟩
    · rw [hnew.bound] at hi
      exact ⟨row, List.mem_append_right _ (List.mem_singleton.mpr rfl), Option.some.inj hi,
        hnew.workspace.symm⟩
  · intro e he i hi
    obtain hold | rfl := List.mem_append.mp he |>.imp_right List.mem_singleton.mp
    · obtain ⟨j, hj, hrest⟩ := hs.current e hold i hi
      exact ⟨j, List.mem_append_left _ hj, hrest⟩
    · rw [hcurrent] at hi
      exact ⟨job, List.mem_append_right _ (List.mem_singleton.mpr rfl), Option.some.inj hi,
        hnew.bound, hnew.workspace⟩

/-- **THE KEYS AND LINKS ARE KEPT BY EVERY CHANGE.** -/
theorem Change.sound (hs : Sound s) (h : Change env strict s s') : Sound s' := by
  cases h with
  | jobs core issuers preflights started hmoves hborn hstarted =>
    exact (hs.of_moves hmoves hborn).started started
  | row now row row' core issuers preflights hmoves hborn hrow hset =>
    have hs' : Sound { core := core, issuers := issuers, preflights := preflights
                       enrollments := s.enrollments } := hs.of_moves hmoves hborn
    obtain ⟨hspec, -, hcurrent⟩ := hset.keeps
    refine hs'.replace hrow hspec ?_
    intro i hi
    exact hs'.current row hrow i (hcurrent.symm.trans hi)
  | create row job hid hjob hnew hstate hcurrent hfree => exact hs.create hid hjob hnew hcurrent
  | «continue» now row row' job hrow hjob hnew hlive hset hidle =>
    have hs' := hs.addJob hrow hjob hnew
    refine hs'.replace hrow hset.spec ?_
    intro i hi
    exact ⟨job, List.mem_append_right _ (List.mem_singleton.mpr rfl), Option.some.inj hi,
      hnew.bound, hnew.workspace⟩

theorem Sound.empty : Sound EnrollDb.empty := by
  refine ⟨WellFormed.empty, List.nodup_nil, ?_, ?_, ?_⟩ <;> intro x hx <;> cases hx

end TokenTimer.CertOps.Enrollment
