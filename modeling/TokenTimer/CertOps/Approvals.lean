/-
  TokenTimer.CertOps.Approvals — the approval ledger `certops_job_approvals`, and
  the control plane with it.

  `approveJob`, `rejectJob` and `invalidateApprovalForClaim` insert a decision in
  the transaction that writes the job, so a call appends its decisions exactly
  when it commits.  The state also keeps which jobs an INSERT left in
  `pending_approval`: no column says so later.

  Two calls are wider or narrower than in `TokenTimer.CertOps.System`:
    * `changeStoredJob` rewrites payload AND routing of a job, at any status.
    * `updateCertificateJobStatus` has one caller, the executor route, which asks
      only for the statuses of `JOB_STATUS_BY_EVENT_TYPE`.
-/

import TokenTimer.CertOps.JobEndings

namespace TokenTimer.CertOps

open Lib.Table Lib.Runs

/-! ## §1. `certops_job_approvals`. -/

/-- The `decision` of a ledger row. -/
inductive ApprovalDecision
  | approved | rejected | invalidated
deriving DecidableEq, Repr

/-- A row of `certops_job_approvals`. -/
structure ApprovalRow where
  workspaceId : Nat
  jobId : Nat
  decision : ApprovalDecision
  approvedByUserId : Option Nat
  payloadHash : Option String
  canonicalIntentHash : Option String
deriving DecidableEq, Repr

/-- The decision `approveJob` inserts for the job it loaded. -/
def approvedRow (env : Env) (approverUserId : Nat) (job : JobRow) : ApprovalRow :=
  { workspaceId := job.workspaceId, jobId := job.id, decision := .approved
    approvedByUserId := some approverUserId
    payloadHash := some (env.computeJobPayloadApprovalHash job.payload)
    canonicalIntentHash := some (computeCanonicalIntentHash env job) }

/-- The decision `rejectJob` inserts. -/
def rejectedRow (approverUserId : Nat) (job : JobRow) : ApprovalRow :=
  { workspaceId := job.workspaceId, jobId := job.id, decision := .rejected
    approvedByUserId := some approverUserId, payloadHash := none, canonicalIntentHash := none }

/-- The decision `invalidateApprovalForClaim` inserts. -/
def invalidatedRow (env : Env) (job : JobRow) : ApprovalRow :=
  { workspaceId := job.workspaceId, jobId := job.id, decision := .invalidated
    approvedByUserId := none
    payloadHash := some (env.computeJobPayloadApprovalHash job.payload)
    canonicalIntentHash := none }

/-! ## §2. The decisions of a claim. -/

/-- The turn of `row` comes to the approval check, and finds it stale. -/
def invalidates (env : Env) (reads : ClaimReads) (row : JobRow) (db : Db) : Bool :=
  claimGates reads row && approvalStale env row &&
    match revalidateTrustJobForDispatch row db with
    | (.allow _ _, _) => true
    | (.deny _, _) => false

/-- The decisions of the claim loop, in the order of its turns. -/
def claimInvalidations (env : Env) (agent : AgentIdentity) (reads : ClaimReads) :
    List JobRow → Db → List ApprovalRow
  | [], _ => []
  | row :: rows, db =>
    (if invalidates env reads row db then [invalidatedRow env row] else []) ++
      match claimRow env agent reads row db with
      | .ok (_, db₁) => claimInvalidations env agent reads rows db₁
      | .error _ => []

/-- The decisions of `claimJobs`. -/
def claimDecisions (env : Env) (agent : AgentIdentity) (sequence : Option Nat) (caps : AgentCaps)
    (maxJobs : Nat) (reads : ClaimReads) (db : Db) : List ApprovalRow :=
  match beginClaim env agent sequence caps reads db with
  | .ok (true, db₀) =>
    claimInvalidations env agent reads
      (selectClaimable agent (agentKindOf db₀ agent.id) caps reads (claimLimit maxJobs) db₀) db₀
  | _ => []

/-! ## §3. The executor lane. -/

/-- The events of `JOB_STATUS_BY_EVENT_TYPE`; every other event writes no status. -/
inductive ExecutorEventType
  | jobAccepted | jobStarted | jobCompleted | jobFailed | jobRejected
deriving DecidableEq, Repr

def jobStatusByEventType : ExecutorEventType → JobStatus
  | .jobAccepted => .claimed
  | .jobStarted => .running
  | .jobCompleted => .succeeded
  | .jobFailed => .failed
  | .jobRejected => .rejected

def isTerminalExecutorStatus (status : JobStatus) : Bool :=
  status ∈ [.succeeded, .failed, .rejected]

def CERTOPS_EXECUTOR_JOB_AGENT_CLAIMED : String := "CERTOPS_EXECUTOR_JOB_AGENT_CLAIMED"

/-- An executor event that writes a status, with the two reads of the
    compare-and-swap loop it runs. -/
structure ExecutorEvent where
  workspaceId : Nat
  jobId : Nat
  eventType : ExecutorEventType
  firstRead : JobStatus
  secondRead : JobStatus
  management : JobRow → Management := fun _ => {}

/-- The status write of `executorEventsHandler`: refused where an agent holds the
    job and the event would end it. -/
def executorEvent (event : ExecutorEvent) (db : Db) : Except ServiceError Db := do
  let status := jobStatusByEventType event.eventType
  match db.jobOf event.workspaceId event.jobId with
  | none => .error { message := "Certificate job not found", code := CERTOPS_JOB_NOT_FOUND }
  | some job => do
    require (!(job.claimedByAgentId.isSome && isTerminalExecutorStatus status))
      { message := "Certificate job is claimed by a CertOps agent; executor events " ++
          "cannot drive its terminal status"
        code := CERTOPS_EXECUTOR_JOB_AGENT_CLAIMED }
    let (_, db') ← updateCertificateJobStatus event.management
      { workspaceId := event.workspaceId, jobId := event.jobId, status := status }
      event.firstRead event.secondRead db
    return db'

/-! ## §4. The system. -/

/-- Payload and routing columns of a stored job rewritten, whatever its status. -/
def changeStoredJob (jobId : Nat) (payload : JobPayload) (routing : OperatorRouting) (db : Db) :
    Db :=
  { db with
    jobs := updateWhere (fun j => j.id = jobId)
      (fun j => { j with
        payload := payload
        assignedAgentId := routing.assignedAgentId
        requiredTargetSelector := routing.requiredTargetSelector
        requiredDnsProvider := routing.requiredDnsProvider
        requiredCommandProfile := routing.requiredCommandProfile }) db.jobs }

/-- A transaction with its inputs. -/
inductive ApprovalCall
  | approveJob (workspaceId jobId approverUserId : Nat) (review : Option ServiceError)
      (management : JobRow → Management)
  | rejectJob (workspaceId jobId approverUserId : Nat) (reason : Option String)
      (management : JobRow → Management)
  | executorEvent (event : ExecutorEvent)
  | changeStoredJob (jobId : Nat) (payload : JobPayload) (routing : OperatorRouting)
  /-- Every other transaction of the control plane. -/
  | transaction (call : Call)

/-- The three calls that have a constructor of their own are taken through it. -/
def ApprovalCall.issued : ApprovalCall → Prop
  | .transaction (.approveJob ..) | .transaction (.rejectJob ..)
  | .transaction (.updateCertificateJobStatus ..) => False
  | _ => True

/-- The tables of the control plane, the ledger in insertion order, and the jobs
    that were created in `pending_approval`. -/
structure ApprovalState where
  db : Db
  ledger : List ApprovalRow
  createdPendingApproval : List Nat

/-- The writes of a call outside the ledger. -/
def ApprovalCall.exec (env : Env) : ApprovalCall → Db → Except ServiceError Db
  | .approveJob ws job approver review m, db => CertOps.approveJob env m ws job approver review db
  | .rejectJob ws job _ reason m, db => CertOps.rejectJob m ws job reason db
  | .executorEvent event, db => CertOps.executorEvent event db
  | .changeStoredJob job payload routing, db => .ok (CertOps.changeStoredJob job payload routing db)
  | .transaction call, db => CertOps.exec env call db

/-- The ledger rows of a call that commits. -/
def ApprovalCall.decisions (env : Env) (db : Db) : ApprovalCall → List ApprovalRow
  | .approveJob ws job approver _ _ =>
    ((loadPendingApproval ws job db).toOption.map (approvedRow env approver)).toList
  | .rejectJob ws job approver _ _ =>
    ((loadPendingApproval ws job db).toOption.map (rejectedRow approver)).toList
  | .transaction (.claimJobs agent sequence caps maxJobs reads) =>
    claimDecisions env agent sequence caps maxJobs reads db
  | _ => []

/-- The jobs a call inserted in `pending_approval`. -/
def createdWaiting (db db' : Db) : List Nat :=
  (db'.jobs.filter fun j => (db.jobById j.id).isNone && (j.status = .pendingApproval : Bool)).map
    (·.id)

/-- The state after a call; one that throws is rolled back. -/
def ApprovalState.next (env : Env) (s : ApprovalState) (call : ApprovalCall) : ApprovalState :=
  match call.exec env s.db with
  | .ok db' =>
    { db := db'
      ledger := s.ledger ++ call.decisions env s.db
      createdPendingApproval := s.createdPendingApproval ++ createdWaiting s.db db' }
  | .error _ => s

/-- The control plane with its ledger, from an empty database. -/
def approvalSystem (env : Env) : System ApprovalState ApprovalCall where
  init s := s = { db := Db.empty, ledger := [], createdPendingApproval := [] }
  step s call s' := call.issued ∧ s' = s.next env call

/-- The stored job is what a standing approval of another user covers: the
    approval binds the hashes of the job as it is, and the ledger has no rejection
    and no invalidation of the job after it. -/
def StandingApproval (env : Env) (ledger : List ApprovalRow) (job : JobRow) : Prop :=
  ∃ earlier approval later user, ledger = earlier ++ approval :: later ∧
    approval.jobId = job.id ∧ approval.decision = .approved ∧
    approval.approvedByUserId = some user ∧ job.requestedByUserId ≠ some user ∧
    approval.payloadHash = some (env.computeJobPayloadApprovalHash job.payload) ∧
    approval.canonicalIntentHash = some (computeCanonicalIntentHash env job) ∧
    ∀ row ∈ later, row.jobId = job.id →
      row.decision ≠ .rejected ∧ row.decision ≠ .invalidated

end TokenTimer.CertOps
