/-
  TokenTimer.CertOps.EnrollmentLiveness — no enrollment is left waiting for
  nobody.

  An enrollment that waits for the CA, for a validation or for an installation
  moves on in two ways: its current job reports, or its poll date comes and the
  scheduler dispatches the next job.  A dispatch consumes the poll date, and some
  set no new one; from then on the row hangs on its current job.  When that job
  ends and nothing is reported on the enrollment, nobody attends the row again.

  Main results:
    * `exec_attended` — what one call keeps.
    * `enrollments_attended_while_reporting` — every run in which no such job
        ends silently.
-/

import TokenTimer.CertOps.EnrollmentSafety

namespace TokenTimer.CertOps.Enrollment

open Lib.Table Lib.Runs

variable {env : Env} {s s' : EnrollDb}

/-! ## §1. Rows that wait. -/

def waits (e : EnrollmentRow) : Bool :=
  e.state = .pendingIssuance ∨ e.state = .validationDeferred ∨ e.state = .installing ∨
    (e.state = .submitting ∧ e.lastErrorCode = some UNREACHABLE_ERROR)

/-- The row has a poll date or an active current job. -/
def attended (s : EnrollDb) (e : EnrollmentRow) : Bool :=
  e.nextPollAt.isSome || (s.jobStatus e).any isActiveJobStatus

/-- The row waits, and has nothing but its current job. -/
structure HangsOn (s : EnrollDb) (e : EnrollmentRow) (job : JobRow) : Prop where
  row : e ∈ s.enrollments
  waiting : waits e = true
  unscheduled : e.nextPollAt = none
  found : job ∈ s.core.jobs
  current : e.currentJobId = some job.id
  live : isTerminalJobStatus job.status = false

/-- The call may end the job, and no result of it reports on the enrollment. -/
def EndsSilently (env : Env) (s : EnrollDb) (job : JobRow) : Call → Prop
  | .core call => isolated call = true ∧ MayEnd env s.core job call
  | .claimJobs agent sequence caps maxJobs reads =>
    MayEnd env s.core job (.claimJobs agent sequence caps maxJobs (s.claimReads reads))
  | .ingestResult agent sequence body report reads =>
    report.enrollment = none ∧ MayEnd env s.core job (.ingestResult agent sequence body reads)
  | _ => False

/-- What a run has to keep to: the scheduler meets no retired certificate, and
    the job that a row hangs on does not end silently. -/
def Reporting (env : Env) (s : EnrollDb) (call : Call) : Prop :=
  (∀ ws id now reads, call = .scheduleEnrollment ws id now reads → reads.identityRetired = false) ∧
  ∀ e job, HangsOn s e job → ¬ EndsSilently env s job call

/-- Every row that waits is attended. -/
def Attended (s : EnrollDb) : Prop :=
  ∀ e ∈ s.enrollments, waits e = true → e.nextPollAt = none →
    ∃ id, e.currentJobId = some id ∧ LiveJob id s.core

variable {e row : EnrollmentRow} {id ws : Nat}

theorem Attended.attended (hs : Sound s) (h : Attended s) (he : e ∈ s.enrollments)
    (hwaits : waits e = true) : attended s e = true := by
  unfold Enrollment.attended
  cases hpoll : e.nextPollAt with
  | some t => rfl
  | none =>
    obtain ⟨id, hcurrent, job, hjob, rfl, hlive⟩ := h e he hwaits hpoll
    rw [jobStatus_current hs he hjob hcurrent, Option.any_some, isActiveJobStatus_eq, hlive]
    rfl

/-- A row that hangs on a job stays attended as long as the job is live. -/
theorem Attended.of_rows (h : Attended s)
    (hrows : ∀ e' ∈ s'.enrollments, waits e' = true → e'.nextPollAt = none →
      (∃ e ∈ s.enrollments, waits e = true ∧ e.nextPollAt = none ∧
        e'.currentJobId = e.currentJobId ∧
        ∀ job, HangsOn s e job → LiveJob job.id s'.core) ∨
      ∃ id, e'.currentJobId = some id ∧ LiveJob id s'.core) : Attended s' := by
  intro e' he' hwaits hpoll
  obtain ⟨e, he, hw, hp, hcurrent, hkeep⟩ | hnew := hrows e' he' hwaits hpoll
  · obtain ⟨id, hid, job, hjob, rfl, hlive⟩ := h e he hw hp
    exact ⟨job.id, hcurrent.trans hid, hkeep job ⟨he, hw, hp, hjob, hid, hlive⟩⟩
  · exact hnew

/-- The rows stay as they are. -/
theorem Attended.of_jobs (h : Attended s) (hrows : s'.enrollments = s.enrollments)
    (hkeep : ∀ e job, HangsOn s e job → LiveJob job.id s'.core) : Attended s' := by
  refine h.of_rows ?_
  intro e' he' hwaits hpoll
  rw [hrows] at he'
  exact .inl ⟨e', he', hwaits, hpoll, rfl, hkeep e'⟩

theorem Attended.of_replace (h : Attended s) {row' : EnrollmentRow} (hid : row'.id = row.id)
    (hrows : s'.enrollments = replaceEnrollment row' s.enrollments)
    (hrow :
    waits row' = true → row'.nextPollAt = none → ∃ id, row'.currentJobId = some id ∧ LiveJob id s'.core)
    (hkeep : ∀ e job, HangsOn s e job → e.id ≠ row.id → LiveJob job.id s'.core) :
    Attended s' := by
  refine h.of_rows ?_
  intro e' he' hwaits hpoll
  rw [hrows] at he'
  obtain ⟨hold, hne⟩ | ⟨rfl, -⟩ := mem_replaceByKey.mp he'
  · refine .inl ⟨e', hold, hwaits, hpoll, rfl, ?_⟩
    intro job hangs
    exact hkeep e' job hangs (by rwa [hid] at hne)
  · exact .inr (hrow hwaits hpoll)

variable {job : JobRow} {now : Nat} {body : ResultBody} {report : Report} {call : Call}

theorem HangsOn.bound (hs : Sound s) (h : HangsOn s e job) :
    job.enrollmentId = some e.id := by
  obtain ⟨j, hj, hid, hbound, -⟩ := hs.current e h.row job.id h.current
  rwa [hs.core.jobs.key.eq_of_mem h.found hj hid.symm]

theorem HangsOn.kept (h : HangsOn s e job) (hkept : ∀ j ∈ s.core.jobs, j ∈ s'.core.jobs) :
    LiveJob job.id s'.core :=
  .of_mem (hkept job h.found) h.live

/-! ## §2. The calls that touch an enrollment. -/

theorem createContinuation_attended (hs : Sound s) (h : Attended s) (hrow : row ∈ s.enrollments)
    {source : JobSource} {actor : Option Nat} {metadata : String} {reads : CreateReads}
    {set : EnrollmentRow → EnrollmentRow} (hset : (set row).id = row.id)
    (hcreate : createContinuation env row source actor metadata reads set s = .ok (id, s')) :
    Attended s' := by
  simp only [createContinuation, bind_ok] at hcreate
  obtain ⟨⟨outcome, core⟩, hjob, hret⟩ := hcreate
  cases hret
  obtain ⟨-, hlive, -, -, -, -, rfl⟩ := createCertificateJob_enrollment rfl hjob
    (createCertificateJob_created rfl hjob)
  have heq := updateEnrollment_eq hs hrow
    (fun e => { set e with attempt := row.attempt + 1, currentJobId := some outcome.job.id }) hset
  refine h.of_replace (by exact hset) (congrArg EnrollDb.enrollments heq) ?_ ?_
  · intro _ _
    exact ⟨outcome.job.id, rfl, outcome.job,
      List.mem_append_right _ (List.mem_singleton.mpr rfl), rfl, hlive⟩
  · intro e job hangs _
    exact hangs.kept fun j hj => List.mem_append_left _ hj

theorem Attended.of_row (hs : Sound s) (h : Attended s) (hrow : row ∈ s.enrollments)
    (set : EnrollmentRow → EnrollmentRow) (hid : (set row).id = row.id)
    (hquiet : waits (set row) = false) :
    Attended (s.updateEnrollment row.workspaceId row.id set) := by
  have heq := updateEnrollment_eq hs hrow set hid
  refine h.of_replace hid (congrArg EnrollDb.enrollments heq) ?_ ?_
  · intro hwaits
    rw [hquiet] at hwaits
    cases hwaits
  · intro e job hangs _
    exact hangs.kept fun j hj => hj

theorem createEnrollment_attended (h : Attended s) {o : EnrollOptions} {reads : EnrollReads}
    (hcreate : createEnrollment env o reads s = .ok (id, s')) : Attended s' := by
  simp only [createEnrollment, bind_ok, require_ok] at hcreate
  obtain ⟨-, -, -, -, -, -, issuerId, -, issuer, -, snapshot, -, certificateId, -,
    ⟨outcome, core⟩, hjob, -, -, hret⟩ := hcreate
  cases hret
  refine h.of_rows ?_
  intro e' he' hwaits hpoll
  obtain hold | rfl := List.mem_append.mp he' |>.imp_right List.mem_singleton.mp
  · refine .inl ⟨e', hold, hwaits, hpoll, rfl, ?_⟩
    intro job hangs
    exact hangs.kept fun j hj => createCertificateJob_keeps hjob hj
  · -- A new row is only requested.
    simp [waits] at hwaits

theorem setReported_polls {seen : SeenEnrollment} {r : EnrollmentResult}
    (hwaits : waits (setReported seen r now row) = true) :
    (setReported seen r now row).nextPollAt ≠ none := by
  have hkeeps : keepsPolling seen r = true := by
    have hstate : r.state = .pendingIssuance ∨ r.state = .validationDeferred ∨
        r.state = .installing ∨ (r.state = .submitting ∧ r.errorCode = some UNREACHABLE_ERROR) :=
      of_decide_eq_true hwaits
    unfold keepsPolling
    obtain hst | hst | hst | ⟨hst, hcode⟩ := hstate
    · simp [hst]
    · simp [hst]
    · simp [hst]
    · simp [hst, hcode]
  simp [setReported, hkeeps]

theorem recordReports_rows (hs : Sound s) (h : recordReports ws body report s = .ok s') :
    s'.core = s.core ∧
    (report.enrollment = none → s'.enrollments = s.enrollments) ∧
    ∀ r job, report.enrollment = some r → s.core.jobOf ws body.jobId = some job →
      (resultStatusToJobStatus body.status).isSome = true →
      ∃ row ∈ s.enrollments, job.enrollmentId = some row.id ∧
        s'.enrollments = replaceEnrollment
          (setReported (row.seen report.stale) r s.core.now row) s.enrollments := by
  unfold recordReports at h
  split at h
  · rename_i jobStatus job hstatus hjob
    obtain ⟨s₁, hreport, hpreflight⟩ := bind_ok.mp h
    -- The preflight writes issuers only.
    have hsame : s'.core = s₁.core ∧ s'.enrollments = s₁.enrollments := by
      unfold recordPreflight at hpreflight
      split at hpreflight
      · cases hpreflight
        exact ⟨rfl, rfl⟩
      split at hpreflight
      · simp only [recordPreflightResult, bind_ok, require_ok] at hpreflight
        obtain ⟨-, -, hpreflight⟩ := hpreflight
        split at hpreflight
        · cases hpreflight
        simp only [bind_ok, require_ok] at hpreflight
        obtain ⟨-, -, hret⟩ := hpreflight
        cases hret
        exact ⟨rfl, rfl⟩
      · cases hpreflight
        exact ⟨rfl, rfl⟩
    rw [hsame.1, hsame.2]
    cases hr : report.enrollment with
    | none =>
      rw [hr] at hreport
      cases hreport
      exact ⟨rfl, fun _ => rfl, fun r _ h => by cases h⟩
    | some r =>
      rw [hr] at hreport
      simp only [recordReported, recordEnrollmentResult, bind_ok, require_ok,
        decide_eq_true_eq] at hreport
      obtain ⟨-, -, -, hbound, hreport⟩ := hreport
      split at hreport
      · cases hreport
      rename_i row hrow
      obtain ⟨hmem, hws, hid⟩ := enrollmentOf_some hrow
      simp only [bind_ok, require_ok] at hreport
      obtain ⟨-, -, -, -, -, -, hret⟩ := hreport
      cases hret
      refine ⟨rfl, fun h => (by cases h), ?_⟩
      intro r' job' hr' hjob' _
      cases hr'
      rw [hjob] at hjob'
      cases hjob'
      refine ⟨row, hmem, by rw [hid]; exact hbound, ?_⟩
      exact congrArg EnrollDb.enrollments (updateEnrollment_eq hs hmem
        (setReported (row.seen report.stale) r s.core.now) rfl)
  · rename_i hmissing
    cases h
    refine ⟨rfl, fun _ => rfl, ?_⟩
    intro r job _ hjob hstatus
    obtain ⟨status, hstatus⟩ := Option.isSome_iff_exists.mp hstatus
    exact absurd hjob (hmissing status job hstatus)

theorem ingestResult_attended (hs : Sound s) (h : Attended s) {agent : AgentIdentity}
    {sequence : Option Nat} {reads : ResultReads} {reply : ResultReply}
    (hquiet :
    ∀ e job, HangsOn s e job → ¬ EndsSilently env s job (.ingestResult agent sequence body report reads))
    (hresult : ingestResult env agent sequence body report reads s = .ok (reply, s')) :
    Attended s' := by
  simp only [ingestResult, bind_ok] at hresult
  obtain ⟨⟨answer, core⟩, hcore, recorded, hrecorded, hret⟩ := hresult
  cases hret
  obtain ⟨-, hnone, hsome⟩ := recordReports_rows hs hrecorded
  cases hr : report.enrollment with
  | none =>
    refine h.of_jobs (hnone hr) ?_
    intro e job hangs
    refine ingestResult_live hs.core hangs.found hangs.live ?_ hcore
    exact fun hends => hquiet e job hangs ⟨hr, hends⟩
  | some r =>
    -- The job of an accepted result belongs to the row that is written.
    have hwritten : ∃ row ∈ s.enrollments, (∀ job, lockClaim agent body s.core = .ok job →
        job.enrollmentId = some row.id) ∧ recorded.enrollments = replaceEnrollment
          (setReported (row.seen report.stale) r s.core.now row) s.enrollments := by
      simp only [CertOps.ingestResult, bind_ok] at hcore
      obtain ⟨status, hstatus, job, hlock, -⟩ := hcore
      obtain ⟨hfound, -, -⟩ := lockClaim_ok hlock
      have hknown : (resultStatusToJobStatus body.status).isSome = true := by
        unfold resultJobStatus at hstatus
        split at hstatus
        · rename_i st hst
          rw [hst]
          rfl
        · cases hstatus
      obtain ⟨row, hrow, hbound, hrows⟩ := hsome r job hr hfound hknown
      refine ⟨row, hrow, ?_, hrows⟩
      intro job' hlock'
      obtain ⟨hfound', -, -⟩ := lockClaim_ok hlock'
      rw [hfound] at hfound'
      cases hfound'
      exact hbound
    obtain ⟨row, hrow, hbound, hrows⟩ := hwritten
    refine h.of_replace (by rfl) hrows ?_ ?_
    · intro hwaits hpoll
      exact absurd hpoll (setReported_polls hwaits)
    · intro e job hangs hne
      refine ingestResult_live hs.core hangs.found hangs.live ?_ hcore
      intro hends
      have howner := hbound job hends.1
      rw [hangs.bound hs] at howner
      exact hne (Option.some.inj howner)

theorem cancelEnrollment_attended (hs : Sound s) (h : Attended s) {mgmt : JobRow → Management}
    (hcancel : cancelEnrollment mgmt ws id s = .ok s') : Attended s' := by
  simp only [cancelEnrollment, bind_ok] at hcancel
  obtain ⟨row, hload, -, -, -, -, core, hcore, hret⟩ := hcancel
  cases hret
  obtain ⟨hrow, rfl, rfl⟩ := loadEnrollment_ok hload
  have heq := updateEnrollment_eq hs hrow
    (fun e => { e with
      state := .cancelled
      nextPollAt :=
        if decide (row.state = .requested ∨ row.state = .prepared) = true then none
        else some s.core.now }) rfl
  refine h.of_replace (by rfl) (congrArg EnrollDb.enrollments heq) ?_ ?_
  · intro hwaits
    simp [waits] at hwaits
  · -- The job that is cancelled belongs to the cancelled row.
    intro e job hangs hne
    unfold cancelCurrentJob at hcore
    split at hcore
    · cases hcore
      exact hangs.kept fun j hj => hj
    rename_i id hid
    split at hcore
    · obtain ⟨⟨out, db₁⟩, hupd, hret⟩ := bind_ok.mp hcore
      cases hret
      refine .of_mem (updateJob_other hangs.found ?_ hupd) hangs.live
      intro hsame
      obtain ⟨j, hj, hjid, hjbound, -⟩ := hs.current row hrow id hid
      obtain rfl := hs.core.jobs.key.eq_of_mem hj hangs.found (hjid.trans hsame.symm)
      rw [hangs.bound hs] at hjbound
      exact hne (Option.some.inj hjbound)
    · cases hcore
      exact hangs.kept fun j hj => hj

theorem scheduleEnrollment_attended (hs : Sound s) (h : Attended s) {reads : ScheduleReads}
    {out : Option Nat} (hactive : reads.identityRetired = false)
    (hschedule : scheduleEnrollment env ws id now reads s = .ok (out, s')) : Attended s' := by
  unfold scheduleEnrollment at hschedule
  split at hschedule
  · cases hschedule
    exact h
  rename_i row hfound
  obtain ⟨hrow, rfl, rfl⟩ := enrollmentOf_some hfound
  split at hschedule
  · cases hschedule
    exact h
  split at hschedule
  · cases hschedule
    exact h
  rename_i decision hdecision
  unfold runContinuation at hschedule
  split at hschedule
  · split at hschedule
    · cases hschedule
      -- The row is handed to an operator: it is `submission_uncertain` now.
      exact h.of_row hs hrow setRetrievalReconciliation rfl (by simp [waits, setRetrievalReconciliation])
    · cases hschedule
      exact h
  rw [hactive] at hschedule
  simp only [Bool.false_eq_true, and_false, if_false] at hschedule
  split at hschedule
  · cases hschedule
  split at hschedule
  · cases hschedule
    exact h
  obtain ⟨⟨job, s₁⟩, hcreate, hret⟩ := bind_ok.mp hschedule
  cases hret
  exact createContinuation_attended hs h hrow rfl hcreate

/-! ## §3. Every call. -/

/-- **A CALL KEEPS EVERY WAITING ROW ATTENDED**, as long as the job that a row
    hangs on does not end silently. -/
theorem exec_attended (hs : Sound s) (h : Attended s) (hreporting : Reporting env s call)
    (hexec : exec env call s = .ok s') : Attended s' := by
  obtain ⟨hactive, hquiet⟩ := hreporting
  cases call with
  | core call =>
    simp only [exec, bind_ok, require_ok] at hexec
    obtain ⟨-, hisolated, core, hcore, hret⟩ := hexec
    cases hret
    refine h.of_jobs rfl ?_
    intro e job hangs
    exact exec_live hs.core hangs.found hangs.live
      (fun hends => hquiet e job hangs ⟨hisolated, hends⟩) hcore
  | createIssuer | discardUnconfiguredIssuer =>
    cases hexec
    exact h.of_jobs rfl fun e job hangs => hangs.kept fun j hj => hj
  | dispatchPreflight ws issuer agent caConfig template reads =>
    simp only [exec, dispatchPreflight, bind_ok] at hexec
    obtain ⟨-, -, ⟨outcome, core⟩, hcreate, hexec⟩ := hexec
    dsimp only at hexec
    split at hexec
    · cases hexec
    cases hexec
    refine h.of_jobs rfl fun e job hangs => ?_
    exact hangs.kept fun j hj => createCertificateJob_keeps hcreate hj
  | confirmIssuerKey ws issuer key caConfig template =>
    simp only [exec, confirmIssuerKey] at hexec
    split at hexec
    · cases hexec
    simp only [bind_ok] at hexec
    obtain ⟨-, -, -, -, -, -, -, -, hret⟩ := hexec
    cases hret
    exact h.of_jobs rfl fun e job hangs => hangs.kept fun j hj => hj
  | createEnrollment o reads =>
    obtain ⟨⟨id, s₁⟩, hcreate, hret⟩ := bind_ok.mp hexec
    cases hret
    exact createEnrollment_attended h hcreate
  | claimJobs agent sequence caps maxJobs reads =>
    simp only [exec, asAgent, bind_ok] at hexec
    obtain ⟨-, -, ⟨out, s₁⟩, hclaim, hret⟩ := hexec
    cases hret
    simp only [claimJobs, bind_ok] at hclaim
    obtain ⟨⟨dispatched, core⟩, hcore, hret⟩ := hclaim
    cases hret
    refine h.of_rows ?_
    intro e' he' hwaits hpoll
    -- A first claim writes the attempt only.
    obtain ⟨e, he, rfl⟩ := mem_updateWhere.mp he'
    refine .inl ⟨e, he, ?_, ?_, ?_, ?_⟩
    · split at hwaits <;> exact hwaits
    · split at hpoll <;> exact hpoll
    · split <;> rfl
    · intro job hangs
      exact claimJobs_live hs.core hangs.found hangs.live (hquiet e job hangs) hcore
  | ingestResult agent sequence body report reads =>
    simp only [exec, asAgent, bind_ok] at hexec
    obtain ⟨-, -, ⟨reply, s₁⟩, hresult, hret⟩ := hexec
    cases hret
    exact ingestResult_attended hs h hquiet hresult
  | proposeReconcileRequestId ws id requestId retired =>
    simp only [exec, proposeReconcileRequestId, bind_ok, require_ok, decide_eq_true_eq] at hexec
    obtain ⟨row, hload, -, hstate, -, -, -, -, hret⟩ := hexec
    cases hret
    obtain ⟨hrow, rfl, rfl⟩ := loadEnrollment_ok hload
    exact h.of_row hs hrow _ rfl (by simp [waits, hstate])
  | cancelEnrollment ws id m => exact cancelEnrollment_attended hs h hexec
  | abandonEnrollment ws id =>
    simp only [exec, abandonEnrollment, bind_ok] at hexec
    obtain ⟨row, hload, -, -, hret⟩ := hexec
    cases hret
    obtain ⟨hrow, rfl, rfl⟩ := loadEnrollment_ok hload
    exact h.of_row hs hrow _ rfl (by simp [waits])
  | retryEnrollmentInstallation ws id reads =>
    obtain ⟨⟨out, s₁⟩, hretry, hret⟩ := bind_ok.mp hexec
    cases hret
    simp only [retryEnrollmentInstallation, bind_ok] at hretry
    obtain ⟨-, -, row, hload, -, -, -, -, hretry⟩ := hretry
    obtain ⟨hrow, rfl, rfl⟩ := loadEnrollment_ok hload
    split at hretry
    · cases hretry
      exact h
    · obtain ⟨-, -, hretry⟩ := bind_ok.mp hretry
      obtain ⟨⟨job, s₁⟩, hcreate, hret⟩ := bind_ok.mp hretry
      cases hret
      exact createContinuation_attended hs h hrow rfl hcreate
  | recoverOrphanedEnrollment ws id orphaned reads =>
    obtain ⟨⟨out, s₁⟩, hrecover, hret⟩ := bind_ok.mp hexec
    cases hret
    simp only [recoverOrphanedEnrollment, bind_ok] at hrecover
    obtain ⟨-, -, row, hload, -, -, -, -, hrecover⟩ := hrecover
    obtain ⟨hrow, rfl, rfl⟩ := loadEnrollment_ok hload
    split at hrecover
    · split at hrecover
      · cases hrecover
        exact h
      · cases hrecover
    · obtain ⟨-, -, hrecover⟩ := bind_ok.mp hrecover
      obtain ⟨⟨job, s₁⟩, hcreate, hret⟩ := bind_ok.mp hrecover
      cases hret
      exact createContinuation_attended hs h hrow rfl hcreate
  | scheduleEnrollment ws id now reads =>
    obtain ⟨⟨out, s₁⟩, hschedule, hret⟩ := bind_ok.mp hexec
    cases hret
    exact scheduleEnrollment_attended hs h (hactive ws id now reads rfl) hschedule

/-- **NO ENROLLMENT IS LEFT WAITING FOR NOBODY** in a run in which the job that a
    waiting row hangs on never ends without a report on the row: every row that
    waits has a poll date or an active current job. -/
theorem enrollments_attended_while_reporting (h : Reachable (system env) (Reporting env) s) :
    ∀ e ∈ s.enrollments, waits e = true → attended s e = true := by
  have hinv : Sound s ∧ Attended s := by
    refine h.invariant (I := fun x => Sound x ∧ Attended x) ?_ ?_
    · intro s hs
      rw [show s = EnrollDb.empty from hs]
      refine ⟨.empty, ?_⟩
      intro e he
      cases he
    · intro s call t hI hok hstep
      obtain ⟨hsound, hattended⟩ := hI
      rw [show t = next env s call from hstep]
      have hchange : Change env False s (next env s call) := next_change hsound fun h => h.elim
      exact ⟨hchange.sound hsound, next_of_exec hattended
        fun _ hexec => exec_attended hsound hattended hok hexec⟩
  intro e he hwaits
  exact hinv.2.attended hinv.1 he hwaits

/-- A check of the condition that needs no look at the jobs: no row that waits is
    without a poll date, and no certificate is retired. -/
def reportingCheck (s : EnrollDb) (call : Call) : Bool :=
  (s.enrollments.all fun e => !waits e || e.nextPollAt.isSome) &&
  match call with
  | .scheduleEnrollment _ _ _ reads => !reads.identityRetired
  | _ => true

theorem reportingCheck_reporting (h : reportingCheck s call = true) :
    Reporting env s call := by
  simp only [reportingCheck, Bool.and_eq_true, List.all_eq_true] at h
  obtain ⟨hrows, hactive⟩ := h
  constructor
  · intro ws id now reads hcall
    rw [hcall] at hactive
    simpa using hactive
  · intro e job hangs _
    have hpoll := hrows e hangs.row
    rw [hangs.waiting, hangs.unscheduled] at hpoll
    cases hpoll

/-- A run of this kind, up to a dispatched poll: the row has only its job. -/
theorem enrollments_attended_demo :
    (∃ e ∈ (play Demo.env Demo.pendingPoll).enrollments, waits e = true ∧ e.nextPollAt = none) ∧
    ∀ e ∈ (play Demo.env Demo.pendingPoll).enrollments, waits e = true →
      attended (play Demo.env Demo.pendingPoll) e = true :=
  ⟨by decide +kernel, enrollments_attended_while_reporting (play_reachable_of_checked Demo.env
    (fun _ _ => reportingCheck_reporting) Demo.pendingPoll (by decide +kernel))⟩

/-- A POLL JOB ENDS SILENTLY: the agent reports that the poll failed, and nothing
    on the enrollment.  The row waits for the CA with no job and no poll date. -/
theorem poll_job_ends_silently :
    Reachable (system Demo.env) anyStep
      (play Demo.env (Demo.pendingPoll ++ [Demo.claim, Demo.result 9 10 11 "failed" {}])) ∧
    ¬ ∀ e ∈ (play Demo.env
          (Demo.pendingPoll ++ [Demo.claim, Demo.result 9 10 11 "failed" {}])).enrollments,
        waits e = true →
        attended (play Demo.env
          (Demo.pendingPoll ++ [Demo.claim, Demo.result 9 10 11 "failed" {}])) e = true :=
  ⟨play_reachable _ _, by decide +kernel⟩

end TokenTimer.CertOps.Enrollment
