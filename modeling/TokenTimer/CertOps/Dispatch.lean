/-
  TokenTimer.CertOps.Dispatch — approval, claim, lease renewal and result
  (`apps/api/services/certops/jobApprovals.js`, `agentDispatch.js` and the nonce
  ledger of `jobSigning.js`).

  The transactions take the row locks of the source (`FOR UPDATE`, with
  `SKIP LOCKED` in the claim), so each is ONE atomic step.  Facts read outside
  the modelled tables are inputs: which rows another transaction holds, the
  agent's capability columns, the verdict of the eligibility predicate, of the
  management and operator locks, of the material services.

  The signed payload itself is in `TokenTimer.Json`; here a dispatch is the
  record of what it binds: job, claim, nonce, expiry and, for a trust job, the
  transition generation.
-/

import TokenTimer.CertOps.TrustLifecycle

namespace TokenTimer.CertOps

open Lib.Table

/-! ## §1. Error codes. -/

def CERTOPS_APPROVAL_JOB_NOT_PENDING_APPROVAL : String :=
  "CERTOPS_APPROVAL_JOB_NOT_PENDING_APPROVAL"
def CERTOPS_APPROVAL_SELF_APPROVAL_FORBIDDEN : String :=
  "CERTOPS_APPROVAL_SELF_APPROVAL_FORBIDDEN"
def CERTOPS_AGENT_COMPATIBILITY_BLOCKED : String := "CERTOPS_AGENT_COMPATIBILITY_BLOCKED"
def CERTOPS_AGENT_DEPLOY_CERT_UNAVAILABLE : String := "CERTOPS_AGENT_DEPLOY_CERT_UNAVAILABLE"
def CERTOPS_AGENT_JOB_NOT_FOUND : String := "CERTOPS_AGENT_JOB_NOT_FOUND"
def CERTOPS_AGENT_LEASE_INVALID : String := "CERTOPS_AGENT_LEASE_INVALID"
def CERTOPS_AGENT_CLAIM_OWNERSHIP_MISMATCH : String := "CERTOPS_AGENT_CLAIM_OWNERSHIP_MISMATCH"
def CERTOPS_AGENT_RESULT_STATUS_INVALID : String := "CERTOPS_AGENT_RESULT_STATUS_INVALID"
def CERTOPS_AGENT_RESULT_NONCE_REJECTED : String := "CERTOPS_AGENT_RESULT_NONCE_REJECTED"
def CERTOPS_NONCE_REPLAYED : String := "CERTOPS_NONCE_REPLAYED"
def CERTOPS_NONCE_UNKNOWN_OR_EXPIRED : String := "CERTOPS_NONCE_UNKNOWN_OR_EXPIRED"
def CERTOPS_MATERIAL_RECEIPT_UNEXPECTED : String := "CERTOPS_MATERIAL_RECEIPT_UNEXPECTED"
def CERTOPS_MATERIAL_RECEIPT_REQUIRED : String := "CERTOPS_MATERIAL_RECEIPT_REQUIRED"

/-- The latest time a JavaScript `Date` holds, in milliseconds.  A later expiry
    makes `toISOString` throw, and the transaction rolls back. -/
def maxDateMs : Nat := 8640000000000000

/-- `toISOString` of a time. -/
def assertDateInRange (t : Nat) : Except ServiceError Unit :=
  require (t ≤ maxDateMs) { message := "Invalid time value", code := "RangeError" }

/-! ## §2. Approval decisions. -/

def notAwaitingApproval : ServiceError :=
  { message := "Certificate job is not awaiting approval"
    code := CERTOPS_APPROVAL_JOB_NOT_PENDING_APPROVAL }

/-- `loadJobForApproval` and its status check. -/
def loadPendingApproval (workspaceId jobId : Nat) (db : Db) : Except ServiceError JobRow :=
  match db.jobOf workspaceId jobId with
  | none => .error { message := "Certificate job not found", code := CERTOPS_JOB_NOT_FOUND }
  | some job => if job.status ≠ .pendingApproval then .error notAwaitingApproval else .ok job

def setApproved (env : Env) (approverUserId now : Nat) (job : JobRow) : JobRow :=
  { job with
    status := .pending
    approvedByUserId := some approverUserId
    approvedAt := some now
    approvedPayloadHash := some (env.computeJobPayloadApprovalHash job.payload)
    approvedCanonicalIntentHash := some (computeCanonicalIntentHash env job)
    queuedAt := coalesce job.queuedAt now }

/-- `approveJob`.  `review` is the refusal of the assistant-request checks and of
    the renewal-profile check, which read other tables.  The compare-and-swap
    compares every column it read, so it is the one atomic step. -/
def approveJob (env : Env) (mgmt : JobRow → Management) (workspaceId jobId approverUserId : Nat)
    (review : Option ServiceError) (db : Db) : Except ServiceError Db := do
  let job ← loadPendingApproval workspaceId jobId db
  require (job.requestedByUserId ≠ some approverUserId)
    { message := "The user who requested a CertOps job cannot approve it"
      code := CERTOPS_APPROVAL_SELF_APPROVAL_FORBIDDEN }
  passes review
  let (_, db') ← updateJob mgmt job.id (setApproved env approverUserId db.now) db
  return db'

def setApprovalRejected (reason : Option String) (now : Nat) (job : JobRow) : JobRow :=
  { job with
    status := .rejected
    errorCode := some "CERTOPS_APPROVAL_REJECTED"
    errorMessage := reason
    completedAt := coalesce job.completedAt now }

/-- `rejectJob`: the terminal status and the unwinding of a trust reference
    commit together. -/
def rejectJob (mgmt : JobRow → Management) (workspaceId jobId : Nat) (reason : Option String)
    (db : Db) : Except ServiceError Db := do
  let job ← loadPendingApproval workspaceId jobId db
  let (_, db') ← updateJob mgmt job.id (setApprovalRejected reason db.now) db
  return onTrustJobTerminalTransition job.operation .rejected job.workspaceId job.id db'

/-- The SET list of `invalidateApprovalForClaim`.  The claim columns stay. -/
def setApprovalInvalidated (job : JobRow) : JobRow :=
  { job with
    status := .pendingApproval
    approvedByUserId := none
    approvedAt := none
    approvedPayloadHash := none
    approvedCanonicalIntentHash := none }

/-! ## §3. The nonce ledger. -/

/-- A row of the ledger a caller may use: its job, workspace and agent. -/
def nonceBinds (nonce jobId workspaceId agentRowId : Nat) (n : NonceRow) : Bool :=
  n.nonce = nonce ∧ n.jobId = jobId ∧ n.workspaceId = workspaceId ∧
    (n.issuedToAgentId = none ∨ n.issuedToAgentId = some agentRowId)

def nonceConsumable (now nonce jobId workspaceId agentRowId : Nat) (n : NonceRow) : Bool :=
  nonceBinds nonce jobId workspaceId agentRowId n && n.consumedAt.isNone && decide (now < n.expiresAt)

/-- The outcome of `consumeNonce`. -/
inductive NonceOutcome
  | consumed
  | replayed
  | unknownOrExpired
deriving DecidableEq, Repr

/-- `consumeNonce`: single use, bound to job, workspace and agent.  A nonce that
    does not match the pattern is `none`. -/
def consumeNonce (nonce : Option Nat) (jobId workspaceId agentRowId : Nat) (db : Db) :
    NonceOutcome × Db :=
  match nonce with
  | none => (.unknownOrExpired, db)
  | some x =>
    if db.nonces.any (nonceConsumable db.now x jobId workspaceId agentRowId) then
      (.consumed, { db with
        nonces := updateWhere (nonceConsumable db.now x jobId workspaceId agentRowId)
          (fun n => { n with consumedAt := some db.now }) db.nonces })
    else
      match selectOne (nonceBinds x jobId workspaceId agentRowId) db.nonces with
      | some n => (if n.consumedAt.isSome then .replayed else .unknownOrExpired, db)
      | none => (.unknownOrExpired, db)

/-- `extendJobNonceExpiry`: every unconsumed nonce of the job bound to the
    agent. -/
def extendJobNonceExpiry (jobId workspaceId agentRowId expiresAt : Nat) (db : Db) : Db :=
  { db with
    nonces := updateWhere
      (fun n => n.jobId = jobId ∧ n.workspaceId = workspaceId ∧ n.consumedAt = none ∧
        (n.issuedToAgentId = none ∨ n.issuedToAgentId = some agentRowId))
      (fun n => { n with expiresAt := expiresAt }) db.nonces }

/-! ## §4. `claimJobs`. -/

/-- The authenticated agent of a call. -/
structure AgentIdentity where
  id : Nat
  workspaceId : Nat
deriving DecidableEq, Repr

/-- The capability columns of the agent row and the claim body. -/
structure AgentCaps where
  supportedActions : List JobOperation
  targetSelectors : List String
  dnsProviders : List String
  commandProfiles : List String
  canBindEvidenceToClaim : Bool
  canBindTrustAnchorDeploy : Bool
  canEnrollAdcs : Bool

/-- What a claim reads outside the modelled tables, row by row. -/
structure ClaimReads where
  /-- The workspace row is held by another transaction. -/
  workspaceLocked : Bool := false
  /-- The version ranges the compatibility refusal prints, when the agent is
      blocked. -/
  compatibilityBlocked : Option String := none
  /-- `FOR UPDATE SKIP LOCKED`: job rows another transaction holds. -/
  skipLocked : Nat → Bool := fun _ => false
  /-- The conjuncts over rollouts, connections, periods and provisioning. -/
  prefilter : JobRow → Bool := fun _ => true
  /-- `lockOperatorJobAuthority`, `lockManagedJobForClaim`,
      `evaluateAgentJobEligibility` and `resolveDistributionJobDefaults`. -/
  operatorAuthority : JobRow → Bool := fun _ => true
  managedLock : JobRow → Bool := fun _ => true
  eligible : JobRow → Bool := fun _ => true
  distributionResolved : JobRow → Bool := fun _ => true
  deployCertAvailable : JobRow → Bool := fun _ => true
  enrollmentLoaded : JobRow → Bool := fun _ => true
  /-- The refusal of `signJobForDispatch`: no signing key, or a payload that
      cannot be serialised. -/
  signing : Option ServiceError := none
  management : JobRow → Management := fun _ => {}

/-- A job that is waiting and due. -/
def pendingClaimable (now : Nat) (job : JobRow) : Bool :=
  job.status = .pending ∧ (job.scheduledFor.all fun t => t ≤ now) ∧
    (job.nextAttemptAt.all fun t => t ≤ now)

/-- The SAME agent reclaiming a never-renewed expired claim. -/
def reclaimable (now agentRowId : Nat) (job : JobRow) : Bool :=
  job.status = .claimed ∧ job.claimedByAgentId = some agentRowId ∧
    (job.leaseExpiresAt.any fun t => t < now) ∧ job.leaseRenewedAt = none ∧
    job.attemptCount < job.maxAttempts.getD 3

/-- The routing conjuncts of the selection. -/
def routesTo (agent : AgentIdentity) (kind : AgentKind) (caps : AgentCaps) (job : JobRow) : Bool :=
  (wireActionForOperation job.operation ∈ caps.supportedActions : Bool) &&
  (job.assignedAgentId = none ∨ job.assignedAgentId = some agent.id : Bool) &&
  (caps.canBindEvidenceToClaim || job.operation ≠ .issue) &&
  (job.requiredTargetSelector.all fun t => t ∈ caps.targetSelectors) &&
  (job.requiredDnsProvider.all fun t => t ∈ caps.dnsProviders) &&
  (job.requiredCommandProfile.all fun t => t ∈ caps.commandProfiles) &&
  ((kind = .diagnostic : Bool) == (job.operation = .protocolSmoke : Bool)) &&
  (!isTrustAnchorOperation job.operation || caps.canBindTrustAnchorDeploy) &&
  (job.enrollmentId.isNone || caps.canEnrollAdcs)

def claimSelectable (agent : AgentIdentity) (kind : AgentKind) (caps : AgentCaps)
    (reads : ClaimReads) (now : Nat) (job : JobRow) : Bool :=
  (job.workspaceId = agent.workspaceId : Bool) && (job.executorKind = .agent : Bool) &&
  !job.payload.distributionRollout &&
  (pendingClaimable now job || reclaimable now agent.id job) &&
  routesTo agent kind caps job && reads.prefilter job && !reads.skipLocked job.id

/-- `ORDER BY created_at LIMIT n`. -/
def selectClaimable (agent : AgentIdentity) (kind : AgentKind) (caps : AgentCaps)
    (reads : ClaimReads) (maxJobs : Nat) (db : Db) : List JobRow :=
  ((db.jobs.filter (claimSelectable agent kind caps reads db.now)).insertionSort
    fun a b => a.createdAt ≤ b.createdAt).take maxJobs

/-- What a signed dispatch binds. -/
structure Dispatched where
  jobId : Nat
  claimId : Nat
  nonce : Nat
  leaseExpiresAt : Nat
  nonceExpiresAt : Nat
  attemptCount : Nat
  transitionGeneration : Option Nat
deriving DecidableEq, Repr

/-- The approval of a row no longer covers its payload or its intent. -/
def approvalStale (env : Env) (job : JobRow) : Bool :=
  match job.approvedPayloadHash with
  | none => false
  | some hash =>
    env.computeJobPayloadApprovalHash job.payload ≠ hash ∨
      (job.approvedCanonicalIntentHash.isSome ∧
        job.approvedCanonicalIntentHash ≠ some (computeCanonicalIntentHash env job))

/-- The SET list of a denied trust revalidation. -/
def setRevalidationRejected (reason : String) (now : Nat) (job : JobRow) : JobRow :=
  { job with
    status := .rejected
    errorCode := some "CERTOPS_TRUST_ANCHOR_DISPATCH_REVALIDATION_FAILED"
    errorMessage := some ("Trust job dispatch revalidation failed: " ++ reason)
    completedAt := coalesce job.completedAt now }

def setDeployBlocked (now : Nat) (job : JobRow) : JobRow :=
  { job with
    status := .blocked
    errorCode := some CERTOPS_AGENT_DEPLOY_CERT_UNAVAILABLE
    errorMessage := some "Public certificate material is unavailable for this deploy job"
    completedAt := coalesce job.completedAt now }

def setClaimed (agentRowId claimId leaseExpiresAt now : Nat) (job : JobRow) : JobRow :=
  { job with
    status := .claimed
    claimedByAgentId := some agentRowId
    claimId := some claimId
    leaseExpiresAt := some leaseExpiresAt
    leaseRenewedAt := none
    attemptCount := job.attemptCount + 1
    queuedAt := coalesce job.queuedAt now }

/-- The nonce row that `signJobForDispatch` inserts. -/
def dispatchNonce (agent : AgentIdentity) (jobId claimId nonce expiresAt : Nat) : NonceRow :=
  { nonce := nonce, jobId := jobId, workspaceId := agent.workspaceId
    issuedToAgentId := some agent.id, claimId := claimId, expiresAt := expiresAt
    consumedAt := none }

/-- The UPDATE to `claimed` and the signing, for a row that passed every check.
    The triggers may have cancelled the row instead: then nothing is signed. -/
def claimAndSign (env : Env) (agent : AgentIdentity) (reads : ClaimReads) (row : JobRow)
    (generation : Option Nat) (db : Db) : Except ServiceError (Option Dispatched × Db) := do
  let claimId := db.nextId
  let nonce := db.nextId + 1
  let lease := db.now + jobLeaseSeconds env.timing * 1000
  let expiry := db.now + dispatchNonceTtlSeconds env.timing * 1000
  let (written, db') ← updateJob reads.management row.id
    (setClaimed agent.id claimId lease db.now) { db with nextId := db.nextId + 2 }
  if written.all (fun job => job.status ≠ .claimed) then .ok (none, db')
  else do
    require (row.enrollmentId.isNone || reads.enrollmentLoaded row)
      { message := "claimed job is bound to a missing enrollment"
        code := CERTOPS_AGENT_JOB_NOT_FOUND }
    passes reads.signing
    assertDateInRange expiry
    .ok
      (some
        { jobId := row.id, claimId := claimId, nonce := nonce, leaseExpiresAt := lease
          nonceExpiresAt := expiry, attemptCount := row.attemptCount + 1
          transitionGeneration := generation },
        { db' with nonces := db'.nonces ++ [dispatchNonce agent row.id claimId nonce expiry] })

/-- The rest of the loop body after the trust revalidation let the row through. -/
def claimRevalidated (env : Env) (agent : AgentIdentity) (reads : ClaimReads) (row : JobRow)
    (generation : Option Nat) (db : Db) : Except ServiceError (Option Dispatched × Db) :=
  if approvalStale env row then do
    let (_, db') ← updateJob reads.management row.id setApprovalInvalidated db
    .ok (none, db')
  else if row.operation = .deploy ∧ !reads.deployCertAvailable row then do
    let (_, db') ← updateJob reads.management row.id (setDeployBlocked db.now) db
    .ok (none, db')
  else claimAndSign env agent reads row generation db

/-- A denied trust job: its row is already unwound, its status becomes
    `rejected` (`WHERE status IN ('pending', 'claimed')`, which the selection
    under lock guarantees). -/
def rejectDenied (reads : ClaimReads) (row : JobRow) (reason : String) (db : Db) :
    Except ServiceError (Option Dispatched × Db) :=
  if row.status = .pending ∨ row.status = .claimed then do
    let (_, db') ← updateJob reads.management row.id (setRevalidationRejected reason db.now) db
    .ok (none, db')
  else .ok (none, db)

/-- The gates of the loop body that only skip a row. -/
def claimGates (reads : ClaimReads) (row : JobRow) : Bool :=
  (row.status ≠ .pending || reads.operatorAuthority row) && reads.managedLock row &&
  reads.eligible row &&
  (!(row.payload.publication || row.payload.materialDeployment) || reads.distributionResolved row)

/-- The body of the claim loop for one selected row. -/
def claimRow (env : Env) (agent : AgentIdentity) (reads : ClaimReads) (row : JobRow) (db : Db) :
    Except ServiceError (Option Dispatched × Db) :=
  if !claimGates reads row then .ok (none, db)
  else
    match revalidateTrustJobForDispatch row db with
    | (.deny reason, db') => rejectDenied reads row reason db'
    | (.allow _ generation, db') => claimRevalidated env agent reads row generation db'

def claimLoop (env : Env) (agent : AgentIdentity) (reads : ClaimReads) :
    List JobRow → Db → Except ServiceError (List Dispatched × Db)
  | [], db => .ok ([], db)
  | row :: rows, db => do
    let (signed, db₁) ← claimRow env agent reads row db
    let (rest, db₂) ← claimLoop env agent reads rows db₁
    .ok (signed.toList ++ rest, db₂)

/-- The liveness touch of a claim, `WHERE status <> 'retired'`. -/
def touchAgent (agentRowId : Nat) (db : Db) : Db :=
  { db with
    agents := updateWhere (fun a => a.id = agentRowId ∧ a.status ≠ .retired)
      (AgentRow.touch db.now) db.agents }

/-- The agent kind a claim reads, `normal` when the row is gone. -/
def agentKindOf (db : Db) (agentRowId : Nat) : AgentKind :=
  ((selectOne (fun a => a.id = agentRowId) db.agents).map (·.agentKind)).getD .normal

/-- `claimJobs` before the selection: the sequence, the compatibility floor and
    the workspace switch.  `false` is the poll that is skipped or has nothing to
    match. -/
def beginClaim (env : Env) (agent : AgentIdentity) (sequence : Option Nat) (caps : AgentCaps)
    (reads : ClaimReads) (db : Db) : Except ServiceError (Bool × Db) := do
  let agents ← enforceAgentSequence db.agents agent.id sequence
  let db := { db with agents := agents }
  require reads.compatibilityBlocked.isNone
    { message := "Agent is blocked by CertOps compatibility policy " ++
        reads.compatibilityBlocked.getD ""
      code := CERTOPS_AGENT_COMPATIBILITY_BLOCKED }
  -- `FOR SHARE SKIP LOCKED` finds no row when it is held, or when there is none.
  if reads.workspaceLocked || !db.workspaces.any (fun w => w.id = agent.workspaceId) then
    .ok (false, db)
  else do
    let _ ← lockWorkspaceForCertOpsSideEffect env agent.workspaceId db
    .ok (!caps.supportedActions.isEmpty, touchAgent agent.id db)

/-- `maxJobs` outside 1..16 is 1. -/
def claimLimit (maxJobs : Nat) : Nat :=
  if 1 ≤ maxJobs ∧ maxJobs ≤ 16 then maxJobs else 1

def claimJobs (env : Env) (agent : AgentIdentity) (sequence : Option Nat) (caps : AgentCaps)
    (maxJobs : Nat) (reads : ClaimReads) (db : Db) :
    Except ServiceError (List Dispatched × Db) := do
  let (proceed, db₀) ← beginClaim env agent sequence caps reads db
  if proceed then
    claimLoop env agent reads
      (selectClaimable agent (agentKindOf db₀ agent.id) caps reads (claimLimit maxJobs) db₀) db₀
  else .ok ([], db₀)

end TokenTimer.CertOps
