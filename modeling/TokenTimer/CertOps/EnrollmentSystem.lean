/-
  TokenTimer.CertOps.EnrollmentSystem — the control plane with its AD CS
  enrollments as a transition system: results and claims that touch an
  enrollment (`agentDispatch.js`), the operator's actions and the scheduler
  (`certificateEnrollments.js`).

  A call of the job tables is taken as it is, as long as it is not one of those
  that an enrollment takes part in (`isolated`).  The scheduler's sweep is one
  transaction for each candidate row, so a sweep is a list of
  `scheduleEnrollment` calls; the candidate list is only a hint, so any list is.
-/

import TokenTimer.CertOps.Enrollments

namespace TokenTimer.CertOps.Enrollment

open Lib.Table Lib.Runs

/-! ## §1. `ingestResult`. -/

/-- The reports a result body carries, and what the unlocked read saw. -/
structure Report where
  enrollment : Option EnrollmentResult := none
  preflight : Option PreflightResult := none
  stale : Option SeenEnrollment := none
deriving DecidableEq, Repr

/-- `if (body.enrollmentResult != null)`. -/
def recordReported (job : JobRow) (stale : Option SeenEnrollment) :
    Option EnrollmentResult → EnrollDb → Except ServiceError EnrollDb
  | none, s => .ok s
  | some r, s => recordEnrollmentResult job r stale s

/-- `if (body.preflightResult != null && job.operation === "adcs-preflight")`. -/
def recordPreflight (job : JobRow) (jobStatus : JobStatus) :
    Option PreflightResult → EnrollDb → Except ServiceError EnrollDb
  | none, s => .ok s
  | some p, s =>
    if job.operation = .adcsPreflight then recordPreflightResult job jobStatus p s else .ok s

/-- The reports, applied before the nonce ledger is asked.  Without a job or a
    status there is nothing to report on, and the result is refused. -/
def recordReports (workspaceId : Nat) (body : ResultBody) (report : Report) (s : EnrollDb) :
    Except ServiceError EnrollDb :=
  match resultStatusToJobStatus body.status, s.core.jobOf workspaceId body.jobId with
  | some jobStatus, some job =>
    recordReported job report.stale report.enrollment s >>=
      recordPreflight job jobStatus report.preflight
  | _, _ => .ok s

/-- The error of a computation. -/
def refusal {α : Type} : Except ServiceError α → Option ServiceError
  | .error e => some e
  | .ok _ => none

/-- `ingestResult` with its reports: they commit together, also when the nonce
    turns out to be a replay. -/
def ingestResult (env : Env) (agent : AgentIdentity) (sequence : Option Nat) (body : ResultBody)
    (report : Report) (reads : ResultReads) (s : EnrollDb) :
    Except ServiceError (ResultReply × EnrollDb) := do
  let recorded := recordReports agent.workspaceId body report s
  let (reply, core) ← CertOps.ingestResult env agent sequence
    { body with hasEnrollmentResult := report.enrollment.isSome }
    { reads with enrollment := refusal recorded } s.core
  let s' ← recorded
  return (reply, { s' with core := core })

/-! ## §2. `claimJobs`. -/

/-- The enrollment half of `lockManagedJobForClaim`.  That `subject_id` also has
    the text of the column is part of `managedLock`. -/
def enrollmentClaimLock (s : EnrollDb) (job : JobRow) : Bool :=
  if job.subjectType ≠ some .managedCertificate then true
  else if job.enrollmentId = none ∧ job.operation ≠ .continueEnrollment then true
  else
    match selectOne (fun e => e.workspaceId = job.workspaceId ∧ some e.id = job.enrollmentId ∧
        e.certificateId.isSome ∧ e.certificateId = job.subjectId ∧
        e.agentId.isSome ∧ e.agentId = job.assignedAgentId ∧
        e.currentJobId = some job.id) s.enrollments with
    | none => false
    | some e =>
      if e.state = .cancelled ∨ e.state = .expired ∨ e.state = .abandoned then
        job.operation = .continueEnrollment
      else true

def EnrollDb.claimReads (s : EnrollDb) (reads : ClaimReads) : ClaimReads :=
  { reads with
    managedLock := fun job => reads.managedLock job && enrollmentClaimLock s job
    enrollmentLoaded := fun job =>
      (job.enrollmentId.bind (s.enrollmentOf job.workspaceId)).isSome }

/-- `loadDispatchEnrollment`'s UPDATE, for every job that was dispatched. -/
def startAttempts (core : Db) (dispatched : List Dispatched) (rows : List EnrollmentRow) :
    List EnrollmentRow :=
  updateWhere
    (fun e => e.attempt = 0 ∧ dispatched.any fun d =>
      (core.jobOf e.workspaceId d.jobId).any fun job => job.enrollmentId = some e.id)
    (fun e => { e with attempt := 1 }) rows

def claimJobs (env : Env) (agent : AgentIdentity) (sequence : Option Nat) (caps : AgentCaps)
    (maxJobs : Nat) (reads : ClaimReads) (s : EnrollDb) :
    Except ServiceError (List Dispatched × EnrollDb) := do
  let (dispatched, core) ←
    CertOps.claimJobs env agent sequence caps maxJobs (s.claimReads reads) s.core
  return (dispatched,
    { s with core := core, enrollments := startAttempts core dispatched s.enrollments })

/-! ## §3. The operator's actions. -/

/-- `loadEnrollment` and its check. -/
def loadEnrollment (workspaceId id : Nat) (s : EnrollDb) : Except ServiceError EnrollmentRow :=
  match s.enrollmentOf workspaceId id with
  | none => .error { message := "enrollment not found", code := CERTOPS_ENROLLMENT_NOT_FOUND }
  | some row => .ok row

def proposeReconcileRequestId (workspaceId id : Nat) (requestId : Option Nat)
    (identityRetired : Bool) (s : EnrollDb) : Except ServiceError EnrollDb := do
  let row ← loadEnrollment workspaceId id s
  require (row.state = .submissionUncertain)
    { message := "a RequestId can be proposed only while submission_uncertain"
      code := CERTOPS_ENROLLMENT_TRANSITION_INVALID }
  require (parseRequestId requestId).isSome
    { message := "RequestId must be an integer from 1 to 2147483647"
      code := CERTOPS_ENROLLMENT_TRANSITION_INVALID }
  require (!identityRetired)
    { message := "Certificate lifecycle blocks this operation", code := CERTOPS_CERTIFICATE_RETIRED }
  return s.updateEnrollment workspaceId id fun e =>
    { e with operatorRequestId := parseRequestId requestId, nextPollAt := some s.core.now }

def setCancelled (now : Nat) (job : JobRow) : JobRow :=
  { job with status := .cancelled, canceledAt := some now }

/-- The job half of `cancelEnrollment`: an unstarted current job is cancelled. -/
def cancelCurrentJob (mgmt : JobRow → Management) (row : EnrollmentRow)
    (jobStatus : Option JobStatus) (db : Db) : Except ServiceError Db :=
  match row.currentJobId with
  | none => .ok db
  | some id =>
    if jobStatus.any UNSTARTED_JOB then do
      let (_, db') ← updateJob mgmt id (setCancelled db.now) db
      .ok db'
    else .ok db

def cancelEnrollment (mgmt : JobRow → Management) (workspaceId id : Nat) (s : EnrollDb) :
    Except ServiceError EnrollDb := do
  let row ← loadEnrollment workspaceId id s
  let jobStatus := s.jobStatus row
  require (!jobStatus.any RUNNING_JOB)
    { message := "an attempt is still running on the agent", code := CERTOPS_ENROLLMENT_JOB_ACTIVE }
  assertDirectTransition row.state .cancelled
  let beforeCa : Bool := row.state = .requested ∨ row.state = .prepared
  let core ← cancelCurrentJob mgmt row jobStatus s.core
  return { s with core := core }.updateEnrollment workspaceId id fun e =>
    { e with state := .cancelled, nextPollAt := if beforeCa then none else some s.core.now }

def abandonEnrollment (workspaceId id : Nat) (s : EnrollDb) : Except ServiceError EnrollDb := do
  let row ← loadEnrollment workspaceId id s
  assertDirectTransition row.state .abandoned
  return s.updateEnrollment workspaceId id fun e =>
    { e with state := .abandoned, nextPollAt := some s.core.now }

/-- What a continuation that an operator asks for reads. -/
structure RetryReads where
  identityRetired : Bool := false
  actorUserId : Option Nat := none
  job : CreateReads := {}

/-- The frozen target, the agent and the live identity that a continuation
    needs. -/
def assertContinuable (row : EnrollmentRow) (reads : RetryReads) : Except ServiceError Unit := do
  require (row.targetIsWindowsIis && row.agentId.isSome)
    { message := "enrollment is missing its frozen installation target or agent"
      code := CERTOPS_SNAPSHOT_INVALID }
  require (!reads.identityRetired)
    { message := "Certificate lifecycle blocks this operation", code := CERTOPS_CERTIFICATE_RETIRED }

/-- `retryEnrollmentInstallation`.  `none` is the answer `created: false`: the
    current job is still active. -/
def retryEnrollmentInstallation (env : Env) (workspaceId id : Nat) (reads : RetryReads)
    (s : EnrollDb) : Except ServiceError (Option Nat × EnrollDb) := do
  let _ ← lockWorkspaceForCertOpsSideEffect env workspaceId s.core
  let row ← loadEnrollment workspaceId id s
  require (row.state = .installFailed)
    { message := "only a failed installation can be retried"
      code := CERTOPS_ENROLLMENT_TRANSITION_INVALID }
  let current := row.currentJobId.bind fun job => s.core.jobOf workspaceId job
  require (row.currentJobId.isNone || current.any fun job => job.enrollmentId = some id)
    { message := "current installation job is not bound to this enrollment"
      code := CERTOPS_ENROLLMENT_UNBOUND }
  if current.any fun job => isActiveJobStatus job.status then .ok (none, s)
  else do
    assertContinuable row reads
    let (job, s') ← createContinuation env row .api reads.actorUserId "" reads.job
      (fun e => { e with nextPollAt := none }) s
    return (some job, s')

/-- The states `recoverOrphanedEnrollment` accepts. -/
def recoverable (state : EnrollmentState) : Bool :=
  state ∈ [.requested, .prepared, .submitting, .pendingIssuance, .submissionUncertain, .issued,
    .validationDeferred, .validated, .installing]

def isAwaitingReconciliation (row : EnrollmentRow) (job : JobRow) : Bool :=
  job.enrollmentId = some row.id ∧ job.status = .orphanedUnknownEffect ∧
    job.needsOperatorReconciliation = true ∧ job.mode = .real ∧ job.executorKind = .agent ∧
    (job.operation = .renew ∨ job.operation = .continueEnrollment) ∧
    job.assignedAgentId = row.agentId

/-- The current job is the continuation that an earlier call has made. -/
def isRecoveryOf (row : EnrollmentRow) (orphanedJobId : Nat) (job : JobRow) : Bool :=
  job.enrollmentId = some row.id ∧
    job.payload.rest = metadataText "adcs.recoveryFromJobId" orphanedJobId ∧
    job.operation = .continueEnrollment ∧ job.mode = .real ∧ job.executorKind = .agent ∧
    job.assignedAgentId = row.agentId ∧ isActiveJobStatus job.status

/-- `recoverOrphanedEnrollment`, after the acknowledgement and the reason.
    `none` is the answer `created: false`. -/
def recoverOrphanedEnrollment (env : Env) (workspaceId id orphanedJobId : Nat)
    (reads : RetryReads) (s : EnrollDb) : Except ServiceError (Option Nat × EnrollDb) := do
  let _ ← lockWorkspaceForCertOpsSideEffect env workspaceId s.core
  let row ← loadEnrollment workspaceId id s
  require (recoverable row.state)
    { message := "terminal enrollments and failed installations cannot be revived by recovery"
      code := CERTOPS_ENROLLMENT_TRANSITION_INVALID }
  require ((s.core.jobOf workspaceId orphanedJobId).any (isAwaitingReconciliation row))
    { message :=
        "Recovery requires the exact enrollment-bound orphaned job awaiting reconciliation"
      code := CERTOPS_ENROLLMENT_UNBOUND }
  if row.currentJobId ≠ some orphanedJobId then
    if (row.currentJobId.bind fun job => s.core.jobOf workspaceId job).any
        (isRecoveryOf row orphanedJobId) then .ok (none, s)
    else
      .error
        { message := "Another enrollment attempt has superseded the orphaned job"
          code := CERTOPS_ENROLLMENT_JOB_ACTIVE }
  else do
    assertContinuable row reads
    let (job, s') ← createContinuation env row .api reads.actorUserId
      (metadataText "adcs.recoveryFromJobId" orphanedJobId) reads.job
      (fun e => { e with nextPollAt := none }) s
    return (some job, s')

/-! ## §4. `scheduleDueEnrollments`. -/

/-- What the transaction of one candidate reads. -/
structure ScheduleReads where
  /-- `FOR UPDATE OF e SKIP LOCKED`: another transaction holds the row. -/
  skipLocked : Bool := false
  /-- The status the join read for the current job, where that is not the status
      the job has now.  The lock refreshes the enrollment row, not the job: a row
      that was re-pointed since the snapshot joins no job at all. -/
  joined : Option (Option JobStatus) := none
  identityRetired : Bool := false
  job : CreateReads := {}

/-- `job_status` as the scheduler's join read it. -/
def joinedStatus (s : EnrollDb) (reads : ScheduleReads) (row : EnrollmentRow) : Option JobStatus :=
  reads.joined.getD (s.jobStatus row)

/-- The WHERE of `claimDueEnrollment`. -/
def isDue (now : Nat) (row : EnrollmentRow) : Bool :=
  row.nextPollAt.any fun t => t ≤ now

/-- The dispatch reasons that keep a retry date. -/
def Continuation.rearms : Continuation → Bool
  | .expire | .freeKey | .reconcile | .resumeInstallation => true
  | .retrieveReconciliation | .unreachable | .poll => false

/-- The metadata of a scheduled continuation. -/
def reconcileMetadata (row : EnrollmentRow) : String :=
  match parseRequestId row.operatorRequestId with
  | some requestId => metadataText "adcs.reconcileRequestId" requestId
  | none => ""

/-- What the dispatch of a continuation writes beside attempt and current job:
    the poll date is consumed, and some reasons set the next one. -/
def setDispatched (decision : Continuation) (now : Nat) (e : EnrollmentRow) : EnrollmentRow :=
  { e with
    state := if decision = .expire then .expired else e.state
    nextPollAt := if decision.rearms then some (pollDate now e.snapshot) else none }

def setRetrievalReconciliation (e : EnrollmentRow) : EnrollmentRow :=
  { e with
    state := .submissionUncertain
    lastErrorCode := some .retrievalReconciliationRequired
    operatorRequestId := none
    nextPollAt := none }

/-- The decision, carried out.  A row that is not due any more is left alone. -/
def runContinuation (env : Env) (decision : Continuation) (now : Nat) (reads : ScheduleReads)
    (row : EnrollmentRow) (s : EnrollDb) : Except ServiceError (Option Nat × EnrollDb) :=
  if decision = .retrieveReconciliation then
    if isDue now row then
      .ok (none, s.updateEnrollment row.workspaceId row.id setRetrievalReconciliation)
    else .ok (none, s)
  else if decision ≠ .expire ∧ decision ≠ .freeKey ∧ reads.identityRetired then
    if isDue now row then
      .ok (none, s.updateEnrollment row.workspaceId row.id fun e => { e with nextPollAt := none })
    else .ok (none, s)
  else if !row.targetIsWindowsIis then
    .error
      { message := "enrollment is missing its IIS deployment target"
        code := CERTOPS_SNAPSHOT_INVALID }
  else if !isDue now row then .ok (none, s)
  else do
    let (job, s') ← createContinuation env row .api none (reconcileMetadata row) reads.job
      (setDispatched decision now) s
    return (some job, s')

/-- The transaction of one candidate of `scheduleDueEnrollments`; `now` is the
    time at which the sweep began. -/
def scheduleEnrollment (env : Env) (workspaceId id now : Nat) (reads : ScheduleReads)
    (s : EnrollDb) : Except ServiceError (Option Nat × EnrollDb) :=
  match s.enrollmentOf workspaceId id with
  | none => .ok (none, s)
  | some row =>
    if reads.skipLocked then .ok (none, s)
    else
      match decideContinuation row ((joinedStatus s reads row).any isActiveJobStatus) now with
      | none => .ok (none, s)
      | some decision => runContinuation env decision now reads row s

/-! ## §5. The system. -/

/-- A transaction with its inputs. -/
inductive Call
  | core (call : CertOps.Call)
  | createIssuer (workspaceId : Nat) (isAdcs : Bool)
  | discardUnconfiguredIssuer (workspaceId issuerId : Nat)
  | dispatchPreflight (workspaceId issuerId : Nat) (agentId : Option Nat)
      (caConfig template : String) (reads : CreateReads)
  | confirmIssuerKey (workspaceId issuerId : Nat) (caKeySha256 : String)
      (caConfig template : Option String)
  | createEnrollment (options : EnrollOptions) (reads : EnrollReads)
  | claimJobs (agent : AgentIdentity) (sequence : Option Nat) (caps : AgentCaps) (maxJobs : Nat)
      (reads : ClaimReads)
  | ingestResult (agent : AgentIdentity) (sequence : Option Nat) (body : ResultBody)
      (report : Report) (reads : ResultReads)
  | proposeReconcileRequestId (workspaceId id : Nat) (requestId : Option Nat)
      (identityRetired : Bool)
  | cancelEnrollment (workspaceId id : Nat) (management : JobRow → Management)
  | abandonEnrollment (workspaceId id : Nat)
  | retryEnrollmentInstallation (workspaceId id : Nat) (reads : RetryReads)
  | recoverOrphanedEnrollment (workspaceId id orphanedJobId : Nat) (reads : RetryReads)
  | scheduleEnrollment (workspaceId id now : Nat) (reads : ScheduleReads)

/-- A call of the job tables in which no enrollment takes part.  No route lets a
    caller bind a job to an enrollment, or create the two operations that the
    enrollment and issuer services own. -/
def isolated : CertOps.Call → Bool
  | .createCertificateJob o _ =>
    o.enrollmentId.isNone && !o.allowEnrollmentContinuation && !o.allowIssuerPreflight
  | .claimJobs .. | .ingestResult .. => false
  | _ => true

/-- A call of an authenticated agent that answers with a value. -/
def asAgent {α : Type} (agent : AgentIdentity) (run : EnrollDb → Except ServiceError (α × EnrollDb))
    (s : EnrollDb) : Except ServiceError EnrollDb := do
  authenticate agent s.core
  let (_, s') ← run s
  return s'

/-- The transaction of a call. -/
def exec (env : Env) : Call → EnrollDb → Except ServiceError EnrollDb
  | .core call, s => do
    require (isolated call)
      { message := "the enrollment service makes this call", code := CERTOPS_JOB_INVALID }
    let core ← CertOps.exec env call s.core
    return { s with core := core }
  | .createIssuer ws isAdcs, s => .ok (createIssuer ws isAdcs s)
  | .discardUnconfiguredIssuer ws issuer, s => .ok (discardUnconfiguredIssuer ws issuer s)
  | .dispatchPreflight ws issuer agent caConfig template reads, s =>
    dispatchPreflight env ws issuer agent caConfig template reads s
  | .confirmIssuerKey ws issuer key caConfig template, s =>
    confirmIssuerKey ws issuer key caConfig template s
  | .createEnrollment o reads, s => do
    let (_, s') ← createEnrollment env o reads s
    return s'
  | .claimJobs agent sequence caps maxJobs reads, s =>
    asAgent agent (claimJobs env agent sequence caps maxJobs reads) s
  | .ingestResult agent sequence body report reads, s =>
    asAgent agent (ingestResult env agent sequence body report reads) s
  | .proposeReconcileRequestId ws id requestId retired, s =>
    proposeReconcileRequestId ws id requestId retired s
  | .cancelEnrollment ws id m, s => cancelEnrollment m ws id s
  | .abandonEnrollment ws id, s => abandonEnrollment ws id s
  | .retryEnrollmentInstallation ws id reads, s => do
    let (_, s') ← retryEnrollmentInstallation env ws id reads s
    return s'
  | .recoverOrphanedEnrollment ws id orphaned reads, s => do
    let (_, s') ← recoverOrphanedEnrollment env ws id orphaned reads s
    return s'
  | .scheduleEnrollment ws id now reads, s => do
    let (_, s') ← scheduleEnrollment env ws id now reads s
    return s'

/-- The state after a call: a transaction that throws is rolled back. -/
def next (env : Env) (s : EnrollDb) (call : Call) : EnrollDb :=
  match exec env call s with
  | .ok s' => s'
  | .error _ => s

/-- The control plane with its enrollments, from empty tables. -/
def system (env : Env) : System EnrollDb Call where
  init s := s = EnrollDb.empty
  step s call s' := s' = next env s call

def play (env : Env) (calls : List Call) : EnrollDb :=
  calls.foldl (next env) EnrollDb.empty

theorem play_reachable (env : Env) (calls : List Call) :
    Reachable (system env) anyStep (play env calls) :=
  ⟨EnrollDb.empty, rfl, Run.of_foldl (fun _ _ => rfl) calls EnrollDb.empty⟩

/-- Calls that meet a condition in every state. -/
theorem play_reachable_of_forall (env : Env) {ok : EnrollDb → Call → Prop} (calls : List Call)
    (hok : ∀ call ∈ calls, ∀ s, ok s call) : Reachable (system env) ok (play env calls) :=
  ⟨EnrollDb.empty, rfl, Run.of_foldl_of_forall (fun _ _ => rfl) calls hok EnrollDb.empty⟩

theorem play_reachable_of_checked (env : Env) {ok : EnrollDb → Call → Prop}
    {check : EnrollDb → Call → Bool} (hcheck : ∀ s call, check s call = true → ok s call)
    (calls : List Call) (h : checkedSteps (next env) check calls EnrollDb.empty = true) :
    Reachable (system env) ok (play env calls) :=
  ⟨EnrollDb.empty, rfl, Run.of_checked (fun _ _ => rfl) hcheck calls EnrollDb.empty h⟩

theorem next_of_exec {env : Env} {s : EnrollDb} {call : Call} {P : EnrollDb → Prop} (hs : P s)
    (h : ∀ s', exec env call s = .ok s' → P s') : P (next env s call) := by
  unfold next
  split
  · rename_i s' hexec
    exact h s' hexec
  · exact hs

/-! ## §6. A small deployment, for evaluation: workspace 7, agent 0, issuer 1. -/

namespace Demo

def env : Env := CertOps.Demo.env

def agent : AgentIdentity := CertOps.Demo.agent

def caps : AgentCaps :=
  { supportedActions := [.renew, .continueEnrollment, .adcsPreflight], targetSelectors := []
    dnsProviders := [], commandProfiles := [], canBindEvidenceToClaim := true
    canBindTrustAnchorDeploy := true, canEnrollAdcs := true }

def preflight : PreflightResult :=
  { caConfig := "ca", template := "web", templateSafe := true, caSafe := true, caKeys := ["key"]
    rest := "" }

def claim : Call := .claimJobs agent none caps 1 {}

def result (job claimId nonce : Nat) (status : String) (report : Report) : Call :=
  .ingestResult agent none
    { jobId := job, claimId := some claimId, status := status, nonce := some nonce } report {}

def setup : List Call :=
  [.core (.setWorkspace
      { id := 7, certopsPaused := false, certopsRequireApprovalAlways := false }),
    .core (.registerAgent 7 .normal),
    .createIssuer 7 true,
    .dispatchPreflight 7 1 (some 0) "ca" "web" {},
    claim,
    result 2 3 4 "succeeded" { preflight := some preflight },
    .confirmIssuerKey 7 1 "key" none none]

def enroll (certificateId : String) : Call :=
  .createEnrollment
    { workspaceId := 7, issuerId := some 1, certificateId := some certificateId
      agentId := some 0 } {}

/-- One UUID in two spellings. -/
def hyphenated : String := "550e8400-e29b-41d4-a716-446655440000"
def unhyphenated : String := "550e8400e29b41d4a716446655440000"

/-- The CA keeps the request pending: the result of the first job. -/
def pendingBody : ResultBody :=
  { jobId := 6, claimId := some 7, status := "awaiting_issuer", nonce := some 8 }

def pendingReport : Report :=
  { enrollment :=
      some { enrollmentId := 5, attempt := 1, state := .pendingIssuance, requestId := some 42 } }

/-- The first job is claimed. -/
def claimed : List Call := setup ++ [enroll hyphenated, claim]

def deliver : Call := .ingestResult agent none pendingBody pendingReport {}

def pendingPoll : List Call :=
  claimed ++ [deliver, .core (.tick 900000), .scheduleEnrollment 7 5 900000 {}]

end Demo

end TokenTimer.CertOps.Enrollment
