/-
  TokenTimer.CertOps.EnrollmentRefinement — the control plane with enrollments
  refines the changes.

  Main results:
    * `createCertificateJob_enrollment` — a job that an enrollment service
        inserts is waiting, whatever the triggers read.
    * `exec_change` — every call is a change, a strict one when the call
        is `Strict`.
-/

import TokenTimer.CertOps.EnrollmentChanges

namespace TokenTimer.CertOps.Enrollment

open Lib.Table Lib.Runs

variable {env : Env} {s s' : EnrollDb}

/-! ## §1. The jobs that the enrollment services insert. -/

variable {agent : AgentIdentity} {opts : CreateJobOptions} {reads : CreateReads} {db db' : Db}
  {row : EnrollmentRow} {id now ws : Nat} {sequence : Option Nat} {body : ResultBody}

theorem guardManagementJobClaim_open {m : Management} {old : Option JobRow} {new out : JobRow}
    (hopen : new.managementPeriodId ≠ none → m.periodFound = true ∧ m.periodEnded = false)
    (h : guardManagementJobClaim m now old new = .ok out) : out = new := by
  unfold guardManagementJobClaim at h
  split at h
  · exact (Except.ok.inj h).symm
  rename_i hperiod
  obtain ⟨hfound, hended⟩ := hopen fun hnone => hperiod (.inr hnone)
  split at h
  · exact (Except.ok.inj h).symm
  split at h
  · exact (Except.ok.inj h).symm
  split at h
  · exact (Except.ok.inj h).symm
  split at h
  · rename_i hclosed
    simp [hfound, hended] at hclosed
  split at h
  · exact (Except.ok.inj h).symm
  split at h
  · cases h
  · exact (Except.ok.inj h).symm

theorem insertJob_live {status : JobStatus} {kind : ExecutorKind} {job : JobRow}
    (hwait : isTerminalJobStatus status = false)
    (h : insertJob env opts status kind (underOpenPeriod reads).management db = .ok (job, db')) :
    isTerminalJobStatus job.status = false := by
  simp only [insertJob, bind_ok] at h
  obtain ⟨period, hperiod, new, htrig, hret⟩ := h
  cases hret
  obtain ⟨mid, hmid, hout⟩ := bind_ok.mp htrig
  obtain ⟨flag, reason, rfl⟩ := guardJobIdentityStart_ok hmid
  have hopen : period ≠ none → (underOpenPeriod reads).management.periodFound = true ∧
      (underOpenPeriod reads).management.periodEnded = false := by
    intro hne
    have hsome : reads.management.openPeriod.isSome = true := by
      unfold attributedPeriod at hperiod
      split at hperiod
      · split at hperiod
        · cases hperiod
        · cases hperiod
          exact Option.isSome_iff_ne_none.mpr hne
      · cases hperiod
        exact absurd rfl hne
    constructor
    · show (reads.management.periodFound || reads.management.openPeriod.isSome) = true
      rw [hsome, Bool.or_true]
    · show (reads.management.periodEnded && reads.management.openPeriod.isNone) = false
      rw [← Option.not_isSome, hsome, Bool.not_true, Bool.and_false]
  rw [guardManagementJobClaim_open hopen hout]
  exact hwait

/-- **A CREATION FOR AN ENROLLMENT** inserts one waiting job of the request. -/
theorem createCertificateJob_enrollment {out : CreateJobOutcome} (hstatus : opts.status = none)
    (h : createCertificateJob env opts (underOpenPeriod reads) db = .ok (out, db'))
    (hcreated : out.created = true) :
    NewJob (Regime.free env) out.job ∧ isTerminalJobStatus out.job.status = false ∧
      out.job.id = db.nextId ∧ out.job.workspaceId = opts.workspaceId ∧
      out.job.operation = opts.operation ∧ out.job.enrollmentId = opts.enrollmentId ∧
      db' = { db with nextId := db.nextId + 1, jobs := db.jobs ++ [out.job] } := by
  have hlive : isTerminalJobStatus out.job.status = false := by
    simp only [createCertificateJob, bind_ok] at h
    obtain ⟨⟨status, kind⟩, hval, h⟩ := h
    have hwait : isTerminalJobStatus status = false := by
      simp only [validateJobOptions, bind_ok] at hval
      obtain ⟨-, -, st, hst, -, -, -, -, -, -, -, -, k, -, hret⟩ := hval
      cases hret
      simp only [resolveJobStatus, bind_ok, hstatus, Option.getD_none] at hst
      obtain ⟨-, -, -, -, hst⟩ := hst
      rw [← Except.ok.inj hst]
      split
      · rfl
      split <;> rfl
    simp only at h
    split at h
    · split at h
      · cases h
        cases hcreated
      · cases h
    · obtain ⟨-, -, h⟩ := bind_ok.mp h
      obtain ⟨⟨job, db₁⟩, hins, hret⟩ := bind_ok.mp h
      cases hret
      exact insertJob_live hwait hins
  have hawait : opts.awaitsDryRun → (Regime.free env).dryAwait := fun _ => trivial
  obtain ⟨hfalse, -, -⟩ | ⟨-, -, ⟨status, kind, period, hspec⟩, hnew, hdb⟩ :=
    createCertificateJob_ok h hawait
  · rw [hcreated] at hfalse
    cases hfalse
  · exact ⟨hnew, hlive, congrArg JobSpec.id hspec, congrArg JobSpec.workspaceId hspec,
      congrArg JobSpec.operation hspec, congrArg JobSpec.enrollmentId hspec, hdb⟩

theorem createCertificateJob_created {out : CreateJobOutcome} (hkey : opts.idempotencyKey = none)
    (h : createCertificateJob env opts reads db = .ok (out, db')) : out.created = true := by
  have hawait : opts.awaitsDryRun → (Regime.free env).dryAwait := fun _ => trivial
  obtain ⟨-, -, hreplay⟩ | ⟨hcreated, -⟩ := createCertificateJob_ok h hawait
  · rw [hkey] at hreplay
    cases hreplay
  · exact hcreated

theorem createContinuation_change {strict : Prop} (hs : Sound s) (now : Nat)
    (hrow : row ∈ s.enrollments) {source : JobSource} {actor : Option Nat} {metadata : String}
    {set : EnrollmentRow → EnrollmentRow} (hset : DispatchChange now row (set row))
    (hidle : strict → ∀ j ∈ s.core.jobs, row.currentJobId = some j.id → isTerminalJobStatus j.status = true)
    (h : createContinuation env row source actor metadata reads set s = .ok (id, s')) :
    Change env strict s s' := by
  simp only [createContinuation, bind_ok] at h
  obtain ⟨⟨outcome, core⟩, hcreate, hret⟩ := h
  cases hret
  obtain ⟨hnew, hlive, hid, hws, hop, hbound, rfl⟩ := createCertificateJob_enrollment rfl hcreate
    (createCertificateJob_created rfl hcreate)
  have hother : isTrustAnchorOperation outcome.job.operation = false := by
    rw [hop]
    rfl
  have heq := updateEnrollment_eq hs hrow
    (fun e => { set e with attempt := row.attempt + 1, currentJobId := some outcome.job.id })
    (congrArg EnrollmentSpec.id hset.spec)
  have hrows := congrArg EnrollDb.enrollments heq
  simp only [EnrollDb.updateEnrollment] at hrows ⊢
  rw [hrows]
  exact .continue now row (set row) outcome.job hrow hid ⟨hnew, hbound, hws, hother⟩ hlive hset hidle

/-! ## §2. Every call. -/

/-- What a strict run asks of a call: an identifier that the pattern does not
    match names no certificate with an open enrollment, and the scheduler's join
    did not miss an active current job of a row that is due. -/
def Strict (s : EnrollDb) : Call → Prop
  | .createEnrollment o _ =>
    certificateIdUuid (o.certificateId.getD "") = true ∨
      (o.certificateId.bind uuidIn).bind (findOpenEnrollment s o.workspaceId) = none
  | .scheduleEnrollment ws id now reads =>
    ∀ row, s.enrollmentOf ws id = some row → (s.jobStatus row).any isActiveJobStatus = true →
      isDue now row = true → (joinedStatus s reads row).any isActiveJobStatus = true
  | _ => True

theorem findOpenEnrollment_none {certificate : Nat} (h : findOpenEnrollment s ws certificate = none) :
    ∀ e ∈ s.enrollments,
      e.workspaceId = ws → e.certificateId = some certificate → e.state ∉ OPEN_ENROLLMENT_STATES := by
  intro e he hws hcert hopen
  have hfalse := selectOne_none.mp h e he
  simp [hws, hcert, hopen] at hfalse

/-- A creation that passed its checks finds no open enrollment. -/
theorem createEnrollment_free {o : EnrollOptions} {certificateId : Option Nat}
    (hcheck : assertNoOpenEnrollment o s = .ok ())
    (hcolumn : certificateIdColumn o.certificateId = .ok certificateId)
    (hstrict : certificateIdUuid (o.certificateId.getD "") = true ∨
      (o.certificateId.bind uuidIn).bind (findOpenEnrollment s o.workspaceId) = none) :
    certificateId.bind (findOpenEnrollment s o.workspaceId) = none := by
  cases htext : o.certificateId with
  | none =>
    rw [htext] at hcolumn
    cases hcolumn
    rfl
  | some text =>
    rw [htext, certificateIdColumn] at hcolumn
    split at hcolumn
    · rename_i value hvalue
      cases hcolumn
      obtain hmatch | hnone := hstrict
      · simp only [assertNoOpenEnrollment, hmatch, if_true, require_ok] at hcheck
        rw [htext, Option.getD_some, hvalue] at hcheck
        simpa using hcheck
      · rw [htext, Option.bind_some, hvalue] at hnone
        exact hnone
    · cases hcolumn

theorem createEnrollment_change {strict : Prop} {o : EnrollOptions} {reads : EnrollReads}
    (hstrict : strict → Strict s (.createEnrollment o reads))
    (h : createEnrollment env o reads s = .ok (id, s')) : Change env strict s s' := by
  simp only [createEnrollment, bind_ok, require_ok] at h
  obtain ⟨-, -, -, -, _, hcheck, issuerId, -, issuer, -, snapshot, -, certificateId, hcolumn,
    ⟨outcome, core⟩, hcreate, -, hcreated, hret⟩ := h
  cases hret
  obtain ⟨hnew, hlive, hjob, hws, hop, hbound, hcore⟩ :=
    createCertificateJob_enrollment rfl hcreate hcreated
  have hcore' : core =
      { s.core with nextId := s.core.nextId + 2, jobs := s.core.jobs ++ [outcome.job] } := hcore
  rw [hcore']
  refine .create _ outcome.job rfl hjob ⟨hnew, hbound, hws, ?_⟩ rfl rfl ?_
  · rw [hop]
    rfl
  · intro hon e he hews hsome hcert hopen
    have hfree := createEnrollment_free hcheck hcolumn (hstrict hon)
    obtain ⟨value, hvalue⟩ := Option.isSome_iff_exists.mp hsome
    have hvalue' : certificateId = some value := hvalue
    rw [hvalue', Option.bind_some] at hfree
    exact findOpenEnrollment_none hfree e he hews (hcert.trans hvalue) hopen

theorem ingestResult_moves {reads : ResultReads} {reply : ResultReply} (hwf : WellFormed db)
    (h : CertOps.ingestResult env agent sequence body reads db = .ok (reply, db')) :
    Moves (Regime.free env) db db' := by
  obtain rfl | ⟨job, new, db₂, hacc, hsettle⟩ := ingestResult_ok hwf h
  · exact .refl _
  · exact hacc.moves hwf (fun _ _ _ _ => trivial) hsettle

/-- WHAT THE REPORTS OF A RESULT WRITE: one enrollment row at most, and issuer
    rows. -/
theorem recordReports_ok (hs : Sound s) {report : Report} (h : recordReports ws body report s = .ok s') :
    s'.core = s.core ∧ s'.preflights = s.preflights ∧
      (s'.enrollments = s.enrollments ∨ ∃ row ∈ s.enrollments, ∃ row',
        RowChange s.core.now row row' ∧
        s'.enrollments = replaceEnrollment row' s.enrollments) := by
  unfold recordReports at h
  split at h
  · rename_i jobStatus job _ hjob
    obtain ⟨s₁, hreport, hpreflight⟩ := bind_ok.mp h
    have hfirst : s₁.core = s.core ∧ s₁.preflights = s.preflights ∧
        (s₁.enrollments = s.enrollments ∨ ∃ row ∈ s.enrollments, ∃ row',
          RowChange s.core.now row row' ∧
          s₁.enrollments = replaceEnrollment row' s.enrollments) := by
      cases hr : report.enrollment with
      | none =>
        rw [hr] at hreport
        cases hreport
        exact ⟨rfl, rfl, .inl rfl⟩
      | some r =>
        rw [hr] at hreport
        simp only [recordReported, recordEnrollmentResult, bind_ok, require_ok] at hreport
        obtain ⟨-, -, -, -, hreport⟩ := hreport
        split at hreport
        · cases hreport
        rename_i row hrow
        obtain ⟨hmem, hws, hid⟩ := enrollmentOf_some hrow
        simp only [bind_ok, require_ok, assertForwardTransition, decide_eq_true_eq] at hreport
        obtain ⟨-, -, -, hreach, -, hstate, hret⟩ := hreport
        cases hret
        refine ⟨rfl, rfl, .inr ⟨row, hmem, setReported (row.seen report.stale) r s.core.now row,
          .report _ r hstate hreach, ?_⟩⟩
        exact congrArg EnrollDb.enrollments (updateEnrollment_eq hs hmem
          (setReported (row.seen report.stale) r s.core.now) rfl)
    cases hp : report.preflight with
    | none =>
      rw [hp] at hpreflight
      cases hpreflight
      exact hfirst
    | some p =>
      rw [hp, recordPreflight] at hpreflight
      split at hpreflight
      · simp only [recordPreflightResult, bind_ok, require_ok] at hpreflight
        obtain ⟨-, -, hpreflight⟩ := hpreflight
        split at hpreflight
        · cases hpreflight
        simp only [bind_ok, require_ok] at hpreflight
        obtain ⟨-, -, hret⟩ := hpreflight
        cases hret
        exact hfirst
      · cases hpreflight
        exact hfirst
  · cases h
    exact ⟨rfl, rfl, .inl rfl⟩

theorem ingestResult_change {strict : Prop} (hs : Sound s) {report : Report} {reads : ResultReads}
    {reply : ResultReply} (h : ingestResult env agent sequence body report reads s = .ok (reply, s')) :
    Change env strict s s' := by
  simp only [ingestResult, bind_ok] at h
  obtain ⟨⟨answer, core⟩, hcore, recorded, hrecorded, hret⟩ := h
  cases hret
  obtain ⟨-, hpre, hrows⟩ := recordReports_ok hs hrecorded
  have hmoves := ingestResult_moves hs.core hcore
  have hborn := ingestResult_noBoundBorn hcore
  obtain hsame | ⟨row, hrow, row', hset, hrows⟩ := hrows
  · rw [hsame]
    exact .of_jobs hmoves hborn
  · rw [hrows]
    exact .row s.core.now row row' core _ _ hmoves hborn hrow hset

theorem claimJobs_change {strict : Prop} (hs : Sound s) {caps : AgentCaps} {maxJobs : Nat}
    {reads : ClaimReads} {out : List Dispatched}
    (h : claimJobs env agent sequence caps maxJobs reads s = .ok (out, s')) :
    Change env strict s s' := by
  simp only [claimJobs, bind_ok] at h
  obtain ⟨⟨dispatched, core⟩, hcore, hret⟩ := h
  cases hret
  refine .jobs core s.issuers s.preflights _ (claimJobs_moves hs.core (Regime.free_timed env) hcore)
    (claimJobs_noBoundBorn hcore) ?_
  intro e he
  simp only [decide_eq_true_eq] at he
  exact he.1

theorem cancelCurrentJob_ok {mgmt : JobRow → Management} (hs : Sound s) (hrow : row ∈ s.enrollments)
    {core : Db} (h : cancelCurrentJob mgmt row (s.jobStatus row) s.core = .ok core) :
    Moves (Regime.free env) s.core core ∧ NoBoundBorn s.core core := by
  unfold cancelCurrentJob at h
  split at h
  · cases h
    exact ⟨.refl _, .of_jobs rfl⟩
  rename_i id hid
  split at h
  · rename_i hunstarted
    obtain ⟨⟨out, db₁⟩, hupd, hret⟩ := bind_ok.mp h
    cases hret
    obtain ⟨j, hj, rfl, -, hws⟩ := hs.current row hrow id hid
    -- The status that the transaction read is the status of this job.
    have hlive : isTerminalJobStatus j.status = false := by
      simp only [EnrollDb.jobStatus, hid, Option.bind_some, Option.any_eq_true] at hunstarted
      obtain ⟨status, hstatus, hunstarted⟩ := hunstarted
      obtain ⟨x, hx, rfl⟩ := Option.map_eq_some_iff.mp hstatus
      obtain ⟨hmem, -, hxid⟩ := jobOf_some hx
      obtain rfl := hs.core.jobs.key.eq_of_mem hmem hj hxid
      cases hst : x.status <;> simp [hst, UNSTARTED_JOB] at hunstarted ⊢ <;> rfl
    have hset : LiveSet (Regime.free env) j (setCancelled s.core.now j) :=
      .of_end rfl rfl (modeAllows_of_free rfl)
    obtain ⟨-, -, -, hmove, -⟩ := updateJob_move hs.core hj hlive hset (.inl rfl) hupd
    exact ⟨.single hmove, updateJob_noBoundBorn hupd fun _ => rfl⟩
  · cases h
    exact ⟨.refl _, .of_jobs rfl⟩

theorem loadEnrollment_ok (h : loadEnrollment ws id s = .ok row) :
    row ∈ s.enrollments ∧ row.workspaceId = ws ∧ row.id = id := by
  unfold loadEnrollment at h
  split at h
  · cases h
  · rename_i found hfound
    cases h
    exact enrollmentOf_some hfound

/-- A transaction that rewrites one row and no job. -/
theorem Change.of_row {strict : Prop} (hs : Sound s) (now : Nat) (hrow : row ∈ s.enrollments)
    (set : EnrollmentRow → EnrollmentRow) (hset : RowChange now row (set row)) :
    Change env strict s (s.updateEnrollment row.workspaceId row.id set) := by
  rw [updateEnrollment_eq hs hrow set (congrArg EnrollmentSpec.id hset.keeps.1)]
  exact .row now row (set row) s.core s.issuers s.preflights (.refl _) (.of_jobs rfl) hrow hset

theorem cancelEnrollment_change {strict : Prop} (hs : Sound s) {mgmt : JobRow → Management}
    (h : cancelEnrollment mgmt ws id s = .ok s') : Change env strict s s' := by
  simp only [cancelEnrollment, bind_ok, require_ok, assertDirectTransition,
    decide_eq_true_eq] at h
  obtain ⟨row, hload, -, -, -, hstate, core, hcore, hret⟩ := h
  cases hret
  obtain ⟨hrow, rfl, rfl⟩ := loadEnrollment_ok hload
  have hjob : Moves (Regime.free env) s.core core ∧ NoBoundBorn s.core core :=
    cancelCurrentJob_ok hs hrow hcore
  obtain ⟨hmoves, hborn⟩ := hjob
  let next : Option Nat :=
    if row.state = .requested ∨ row.state = .prepared then none else some s.core.now
  have heq := congrArg EnrollDb.enrollments (updateEnrollment_eq hs hrow
    (fun e => { e with state := .cancelled, nextPollAt := next }) rfl)
  simp only [EnrollDb.updateEnrollment, next] at heq
  simp only [EnrollDb.updateEnrollment]
  rw [heq]
  exact .row s.core.now row _ core s.issuers s.preflights hmoves hborn hrow (.cancel _ hstate)

theorem jobOf_current (hs : Sound s) (hrow : row ∈ s.enrollments) {j : JobRow} (hj : j ∈ s.core.jobs)
    (hcurrent : row.currentJobId = some j.id) :
    s.core.jobOf row.workspaceId j.id = some j := by
  obtain ⟨x, hx, hid, -, hws⟩ := hs.current row hrow j.id hcurrent
  obtain rfl := hs.core.jobs.key.eq_of_mem hx hj hid
  unfold Db.jobOf
  cases hfound : selectOne (fun y : JobRow => decide (y.workspaceId = row.workspaceId ∧
      y.id = x.id)) s.core.jobs with
  | none => simpa [hws] using selectOne_none.mp hfound x hj
  | some y =>
    obtain ⟨hy, hp⟩ := selectOne_some hfound
    have hyid : y.id = x.id := by
      simp only [decide_eq_true_eq] at hp
      exact hp.2
    rw [hs.core.jobs.key.eq_of_mem hy hj hyid]

theorem jobStatus_current (hs : Sound s) (hrow : row ∈ s.enrollments) {j : JobRow}
    (hj : j ∈ s.core.jobs) (hcurrent : row.currentJobId = some j.id) :
    s.jobStatus row = some j.status := by
  unfold EnrollDb.jobStatus
  rw [hcurrent, Option.bind_some, jobOf_current hs hrow hj hcurrent, Option.map_some]

theorem retryEnrollmentInstallation_change {strict : Prop} (hs : Sound s) {reads : RetryReads}
    {out : Option Nat} (h : retryEnrollmentInstallation env ws id reads s = .ok (out, s')) :
    Change env strict s s' := by
  simp only [retryEnrollmentInstallation, bind_ok, require_ok, decide_eq_true_eq] at h
  obtain ⟨-, -, row, hload, -, hstate, -, -, h⟩ := h
  obtain ⟨hrow, rfl, rfl⟩ := loadEnrollment_ok hload
  split at h
  · cases h
    exact .refl strict s
  · rename_i hquiet
    simp only [bind_ok] at h
    obtain ⟨-, -, ⟨job, s₁⟩, hcreate, hret⟩ := h
    cases hret
    refine createContinuation_change hs 0 hrow (.operator (.inl hstate)) ?_ hcreate
    intro _ j hj hcurrent
    rw [hcurrent, Option.bind_some, jobOf_current hs hrow hj hcurrent, Option.any_some,
      isActiveJobStatus_eq] at hquiet
    simpa using hquiet

theorem recoverOrphanedEnrollment_change {strict : Prop} (hs : Sound s) {orphaned : Nat}
    {reads : RetryReads} {out : Option Nat}
    (h : recoverOrphanedEnrollment env ws id orphaned reads s = .ok (out, s')) :
    Change env strict s s' := by
  simp only [recoverOrphanedEnrollment, bind_ok, require_ok] at h
  obtain ⟨-, -, row, hload, -, hstate, -, horphan, h⟩ := h
  obtain ⟨hrow, rfl, rfl⟩ := loadEnrollment_ok hload
  split at h
  · split at h
    · cases h
      exact .refl strict s
    · cases h
  · rename_i hcurrent
    simp only [bind_ok] at h
    obtain ⟨-, -, ⟨job, s₁⟩, hcreate, hret⟩ := h
    cases hret
    refine createContinuation_change hs 0 hrow (.operator (.inr hstate)) ?_ hcreate
    intro _ j hj hcurrentJob
    -- The current job is the orphaned one.
    have hid : j.id = orphaned := by
      rw [hcurrentJob] at hcurrent
      simpa using hcurrent
    rw [← hid, jobOf_current hs hrow hj hcurrentJob, Option.any_some] at horphan
    simp only [isAwaitingReconciliation, decide_eq_true_eq] at horphan
    rw [horphan.2.1]
    rfl

theorem decideContinuation_idle {activeJob : Bool} {decision : Continuation}
    (h : decideContinuation row activeJob now = some decision) :
    activeJob = false := by
  unfold decideContinuation at h
  split at h
  · cases h
  split at h
  · cases h
  · rename_i hidle
    simpa using hidle

theorem scheduleEnrollment_change {strict : Prop} (hs : Sound s) {reads : ScheduleReads}
    {out : Option Nat} (hstrict : strict → Strict s (.scheduleEnrollment ws id now reads))
    (h : scheduleEnrollment env ws id now reads s = .ok (out, s')) : Change env strict s s' := by
  unfold scheduleEnrollment at h
  split at h
  · cases h
    exact .refl strict s
  rename_i row hfound
  obtain ⟨hrow, rfl, rfl⟩ := enrollmentOf_some hfound
  split at h
  · cases h
    exact .refl strict s
  split at h
  · cases h
    exact .refl strict s
  rename_i decision hdecision
  have hidle := decideContinuation_idle hdecision
  rw [hidle] at hdecision
  unfold runContinuation at h
  split at h
  · rename_i hkind
    split at h
    · cases h
      exact .of_row hs now hrow _
        (.reconcile (decideContinuation_deadline hdecision (.inr hkind)))
    · cases h
      exact .refl strict s
  rename_i hkind
  split at h
  · split at h
    · cases h
      exact .of_row hs now hrow _ .park
    · cases h
      exact .refl strict s
  split at h
  · cases h
  split at h
  · cases h
    exact .refl strict s
  rename_i hdue
  obtain ⟨⟨job, s₁⟩, hcreate, hret⟩ := bind_ok.mp h
  cases hret
  refine createContinuation_change hs now hrow (.scheduled decision hdecision hkind) ?_ hcreate
  intro hon j hj hcurrent
  by_contra hlive
  have hactive : (s.jobStatus row).any isActiveJobStatus = true := by
    rw [jobStatus_current hs hrow hj hcurrent, Option.any_some, isActiveJobStatus_eq]
    simpa using hlive
  have hjoined := hstrict hon row hfound hactive (by simpa using hdue)
  rw [hidle] at hjoined
  cases hjoined

/-- A preflight inserts a job of its own. -/
theorem dispatchPreflight_change {strict : Prop} {issuer : Nat} {agent : Option Nat}
    {caConfig template : String}
    (h : dispatchPreflight env ws issuer agent caConfig template reads s = .ok s') :
    Change env strict s s' := by
  simp only [dispatchPreflight, bind_ok] at h
  obtain ⟨-, -, ⟨outcome, core⟩, hcreate, h⟩ := h
  simp only at h
  split at h
  · cases h
  cases h
  obtain ⟨hnew, -, hid, -, hop, -, hcore⟩ := createCertificateJob_enrollment rfl hcreate
    (createCertificateJob_created rfl hcreate)
  have hother : isTrustAnchorOperation outcome.job.operation = false := by
    rw [hop]
    rfl
  refine .of_jobs ?_ (createCertificateJob_noBoundBorn rfl hcreate)
  rw [hcore]
  exact .single (.create outcome.job hid hnew hother)

/-- **EVERY CALL IS A CHANGE**, a strict one when the call is. -/
theorem exec_change {strict : Prop} (hs : Sound s) {call : Call} (hstrict : strict → Strict s call)
    (h : exec env call s = .ok s') : Change env strict s s' := by
  cases call with
  | core call =>
    simp only [exec, bind_ok, require_ok] at h
    obtain ⟨-, hisolated, core, hcore, hret⟩ := h
    cases hret
    exact .of_jobs (exec_moves hs.core (Regime.free_timed env) (permits_free call) hcore)
      (exec_noBoundBorn hisolated hcore)
  | createIssuer ws isAdcs =>
    cases h
    exact .of_jobs (.single (.frame le_rfl (Nat.le_succ _) rfl rfl rfl fun _ h => h)) (.of_jobs rfl)
  | discardUnconfiguredIssuer ws issuer =>
    cases h
    exact .of_jobs (.refl _) (.of_jobs rfl)
  | dispatchPreflight ws issuer agent caConfig template reads => exact dispatchPreflight_change h
  | confirmIssuerKey ws issuer key caConfig template =>
    simp only [exec, confirmIssuerKey] at h
    split at h
    · cases h
    simp only [bind_ok] at h
    obtain ⟨-, -, -, -, -, -, -, -, hret⟩ := h
    cases hret
    exact .of_jobs (.refl _) (.of_jobs rfl)
  | createEnrollment o reads =>
    obtain ⟨⟨id, s₁⟩, hcreate, hret⟩ := bind_ok.mp h
    cases hret
    exact createEnrollment_change hstrict hcreate
  | claimJobs agent sequence caps maxJobs reads =>
    simp only [exec, asAgent, bind_ok] at h
    obtain ⟨-, -, ⟨out, s₁⟩, hclaim, hret⟩ := h
    cases hret
    exact claimJobs_change hs hclaim
  | ingestResult agent sequence body report reads =>
    simp only [exec, asAgent, bind_ok] at h
    obtain ⟨-, -, ⟨reply, s₁⟩, hresult, hret⟩ := h
    cases hret
    exact ingestResult_change hs hresult
  | proposeReconcileRequestId ws id requestId retired =>
    simp only [exec, proposeReconcileRequestId, bind_ok, require_ok, decide_eq_true_eq] at h
    obtain ⟨row, hload, -, hstate, -, -, -, -, hret⟩ := h
    cases hret
    obtain ⟨hrow, rfl, rfl⟩ := loadEnrollment_ok hload
    exact .of_row hs s.core.now hrow _ (.propose _ hstate)
  | cancelEnrollment ws id m => exact cancelEnrollment_change hs h
  | abandonEnrollment ws id =>
    simp only [exec, abandonEnrollment, bind_ok, require_ok, assertDirectTransition,
      decide_eq_true_eq] at h
    obtain ⟨row, hload, -, hstate, hret⟩ := h
    cases hret
    obtain ⟨hrow, rfl, rfl⟩ := loadEnrollment_ok hload
    exact .of_row hs s.core.now hrow _ (.abandon hstate)
  | retryEnrollmentInstallation ws id reads =>
    obtain ⟨⟨out, s₁⟩, hretry, hret⟩ := bind_ok.mp h
    cases hret
    exact retryEnrollmentInstallation_change hs hretry
  | recoverOrphanedEnrollment ws id orphaned reads =>
    obtain ⟨⟨out, s₁⟩, hrecover, hret⟩ := bind_ok.mp h
    cases hret
    exact recoverOrphanedEnrollment_change hs hrecover
  | scheduleEnrollment ws id now reads =>
    obtain ⟨⟨out, s₁⟩, hschedule, hret⟩ := bind_ok.mp h
    cases hret
    exact scheduleEnrollment_change hs hstrict hschedule

end TokenTimer.CertOps.Enrollment
