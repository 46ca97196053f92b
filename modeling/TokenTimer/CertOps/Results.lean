/-
  TokenTimer.CertOps.Results — lease renewal and terminal results
  (`apps/api/services/certops/agentDispatch.js`).

  Both re-prove the claim (agent AND `claim_id`) under the row lock.  A renewal is
  the first moment an agent may change the host: it moves the job to `running`
  and stamps `lease_renewed_at`.  A result consumes the dispatch nonce, writes
  the terminal status and settles a trust reference in the same transaction.

  The enrollment, preflight and material services are inputs: their refusal, and
  what the deployment receipt concluded.
-/

import TokenTimer.CertOps.Dispatch

namespace TokenTimer.CertOps

open Lib.Table

/-! ## §1. `renewJobLease`. -/

/-- What a renewal reads outside the modelled tables. -/
structure RenewReads where
  /-- The refusal of `resolveDistributionJobDefaults` for a material job. -/
  distribution : Option ServiceError := none
  management : JobRow → Management := fun _ => {}

def lockAgentJob (agent : AgentIdentity) (jobId : Nat) (db : Db) : Except ServiceError JobRow :=
  match selectOne (fun j => j.id = jobId ∧ j.workspaceId = agent.workspaceId ∧
      j.executorKind = .agent) db.jobs with
  | none => .error { message := "Certificate job not found", code := CERTOPS_AGENT_JOB_NOT_FOUND }
  | some job => .ok job

def ownsClaim (agent : AgentIdentity) (claimId : Nat) (job : JobRow) : Bool :=
  job.claimedByAgentId = some agent.id ∧ job.claimId = some claimId

/-- `status IN ('claimed', 'running')`. -/
def JobStatus.inFlight (status : JobStatus) : Bool :=
  status = .claimed ∨ status = .running

def checkMaterialRenewal (reads : RenewReads) (now : Nat) (job : JobRow) :
    Except ServiceError Unit :=
  if job.payload.publication || job.payload.materialDeployment then do
    require (job.leaseExpiresAt.any fun t => now < t)
      { message := "Material claim expired", code := CERTOPS_AGENT_LEASE_INVALID }
    passes reads.distribution
  else .ok ()

def setRenewed (leaseExpiresAt now : Nat) (job : JobRow) : JobRow :=
  { job with
    status := .running
    startedAt := coalesce job.startedAt now
    leaseExpiresAt := some leaseExpiresAt
    leaseRenewedAt := some now }

def renewJobLease (env : Env) (agent : AgentIdentity) (jobId claimId : Nat)
    (sequence : Option Nat) (reads : RenewReads) (db : Db) : Except ServiceError Db := do
  let agents ← enforceAgentSequence db.agents agent.id sequence
  let job ← lockAgentJob agent jobId db
  require (ownsClaim agent claimId job)
    { message := "Lease renew does not match the current claim for this job"
      code := CERTOPS_AGENT_CLAIM_OWNERSHIP_MISMATCH }
  require job.status.inFlight
    { message := "Certificate job is not in a renewable lease state"
      code := CERTOPS_AGENT_LEASE_INVALID }
  checkMaterialRenewal reads db.now job
  let lease := db.now + jobLeaseSeconds env.timing * 1000
  let expiry := db.now + dispatchNonceTtlSeconds env.timing * 1000
  let (_, db') ← updateJob reads.management job.id (setRenewed lease db.now)
    { db with agents := agents }
  assertDateInRange expiry
  return extendJobNonceExpiry job.id agent.workspaceId agent.id expiry db'

/-! ## §2. The body of a result. -/

def resultStatusToJobStatus : String → Option JobStatus
  | "succeeded" => some .succeeded
  | "failed" => some .failed
  | "rejected" => some .rejected
  | "blocked" => some .blocked
  | "dry_run_complete" => some .dryRunComplete
  | "orphaned_unknown_effect" => some .orphanedUnknownEffect
  | "awaiting_issuer" => some .awaitingIssuer
  | _ => none

/-- The members of a result message that the transaction reads. -/
structure ResultBody where
  jobId : Nat
  claimId : Option Nat
  status : String
  nonce : Option Nat
  rejectionReason : Option String := none
  errorMessage : Option String := none
  trustResult : Option TrustResult := none
  hasEnrollmentResult : Bool := false
  hasPublicationReceipt : Bool := false
  hasDeploymentReceipt : Bool := false

/-- What a result reads outside the modelled tables. -/
structure ResultReads where
  /-- The refusal of `recordEnrollmentResult` or `recordPreflightResult`. -/
  enrollment : Option ServiceError := none
  /-- The refusal of `acceptPublicationReceipt` or `acceptDeploymentReceipt`. -/
  material : Option ServiceError := none
  retirementConflict : Bool := false
  historicalOnly : Bool := false
  /-- The reason `parseReconciliationFromErrorMessage` finds. -/
  reconciliationReason : Option String := none
  /-- `redactGenericSecrets(redactPrivateKeyMaterial(text)).slice(0, 1024)`. -/
  redact : String → String := fun s => s
  management : JobRow → Management := fun _ => {}

def resultStatusInvalid (message : String) : ServiceError :=
  { message := message, code := CERTOPS_AGENT_RESULT_STATUS_INVALID }

def resultJobStatus (body : ResultBody) : Except ServiceError JobStatus :=
  match resultStatusToJobStatus body.status with
  | some status => .ok status
  | none => .error (resultStatusInvalid "Result status is invalid")

def lockClaim (agent : AgentIdentity) (body : ResultBody) (db : Db) :
    Except ServiceError JobRow :=
  match db.jobOf agent.workspaceId body.jobId with
  | none => .error { message := "Certificate job not found", code := CERTOPS_AGENT_JOB_NOT_FOUND }
  | some job =>
    if job.claimedByAgentId = some agent.id ∧ job.claimId = body.claimId then
      .ok job
    else
      .error
        { message := "Result does not match the current claim for this job"
          code := CERTOPS_AGENT_CLAIM_OWNERSHIP_MISMATCH }

/-- The statuses a mode may report. -/
def checkResultMode (mode : JobMode) (jobStatus : JobStatus) : Except ServiceError Unit := do
  require (¬ (mode = .dryRun ∧ jobStatus = .succeeded))
    (resultStatusInvalid "dry_run jobs must report dry_run_complete, never succeeded")
  require (¬ (mode = .real ∧ jobStatus = .dryRunComplete))
    (resultStatusInvalid "dry_run_complete is only valid for dry_run jobs")
  require (¬ (mode = .dryRun ∧ jobStatus = .orphanedUnknownEffect))
    (resultStatusInvalid "orphaned_unknown_effect is only valid for real jobs")
  require (¬ (mode = .dryRun ∧ jobStatus = .awaitingIssuer))
    (resultStatusInvalid "awaiting_issuer is only valid for real jobs")

def checkResultEnrollment (reads : ResultReads) (job : JobRow) (jobStatus : JobStatus)
    (body : ResultBody) : Except ServiceError Unit := do
  require (job.enrollmentId.isSome ∨ ¬ (jobStatus = .awaitingIssuer ∨ body.hasEnrollmentResult))
    (resultStatusInvalid
      (if jobStatus = .awaitingIssuer then "awaiting_issuer requires a bound enrollment"
        else "enrollmentResult requires a bound enrollment"))
  passes reads.enrollment

def checkResultMaterial (reads : ResultReads) (job : JobRow) (jobStatus : JobStatus)
    (body : ResultBody) : Except ServiceError Unit := do
  require (!((!job.payload.publication && body.hasPublicationReceipt) ||
      (!job.payload.materialDeployment && body.hasDeploymentReceipt)))
    { message := "Unexpected material receipt", code := CERTOPS_MATERIAL_RECEIPT_UNEXPECTED }
  passes reads.material
  require (!(jobStatus = .succeeded && job.payload.materialDeployment &&
      !body.hasDeploymentReceipt : Bool))
    { message := "Missing deployment receipt", code := CERTOPS_MATERIAL_RECEIPT_REQUIRED }

/-- `isFailure`. -/
def isFailureResult (jobStatus : JobStatus) : Bool :=
  jobStatus ≠ .succeeded ∧ jobStatus ≠ .dryRunComplete ∧ jobStatus ≠ .awaitingIssuer

/-- The `error_code` a failure persists. -/
def resultErrorCode (job : JobRow) (jobStatus : JobStatus) (body : ResultBody) : Option String :=
  if isFailureResult jobStatus then
    (nonEmpty body.rejectionReason).or
      (some (if job.payload.materialDeployment ∧
          body.errorMessage = some "material_drift_detected" then
        "CERTOPS_MATERIAL_DRIFT_DETECTED"
      else "AGENT_RESULT_" ++ jobStatus.text.toUpper))
  else none

def setResult (reads : ResultReads) (body : ResultBody) (jobStatus : JobStatus) (now : Nat)
    (job : JobRow) : JobRow :=
  let orphaned : Bool := jobStatus = .orphanedUnknownEffect
  let setNeeds := reads.retirementConflict || orphaned
  let clear : Bool := jobStatus = .succeeded ∧
    (job.payload.publication ∨ (body.hasDeploymentReceipt ∧ !reads.historicalOnly))
  { job with
    status := jobStatus
    errorCode := resultErrorCode job jobStatus body
    errorMessage := if isFailureResult jobStatus then body.errorMessage.map reads.redact else none
    completedAt := coalesce job.completedAt now
    leaseExpiresAt := none
    needsOperatorReconciliation :=
      if setNeeds then true else if clear then false else job.needsOperatorReconciliation
    reconciliationReason :=
      if setNeeds then
        some (if orphaned then
            reads.reconciliationReason.getD "agent_reported_orphaned_unknown_effect"
          else "certificate_retirement_overlapped_execution")
      else if clear then none
      else job.reconciliationReason }

/-! ## §3. `ingestResult`. -/

/-- The result settles a trust reference when it is accepted: it reports success,
    or a failure that nevertheless changed the machine. -/
def ResultBody.settles (body : ResultBody) : Bool :=
  body.status = "succeeded" || (body.trustResult.map (·.mutationPerformed)).getD false

/-- The trust settlement of a result: a success, or a failure that nevertheless
    changed the machine, is ingested; any other negative outcome is unwound. -/
def settleTrust (env : Env) (job : JobRow) (jobStatus : JobStatus)
    (trustResult : Option TrustResult) (db : Db) : Except ServiceError Db :=
  let mutated := (trustResult.map (·.mutationPerformed)).getD false
  if !isTrustAnchorOperation job.operation then .ok db
  else if (jobStatus = .succeeded : Bool) || (trustJobTerminalNegative jobStatus && mutated) then
    ingestTrustJobResult env job trustResult db
  else if trustJobTerminalNegative jobStatus then
    .ok (onTrustJobTerminalTransition job.operation jobStatus job.workspaceId job.id db)
  else .ok db

structure ResultReply where
  jobId : Nat
  status : JobStatus
  duplicate : Bool
deriving DecidableEq, Repr

/-- `ingestResult` once the nonce is consumed. -/
def acceptResult (env : Env) (agent : AgentIdentity) (sequence : Option Nat) (body : ResultBody)
    (reads : ResultReads) (job : JobRow) (jobStatus : JobStatus) (db : Db) :
    Except ServiceError (ResultReply × Db) := do
  let agents ← enforceAgentSequence db.agents agent.id sequence
  require job.status.inFlight
    { message := "Certificate job is not in a claimable-result state"
      code := CERTOPS_AGENT_CLAIM_OWNERSHIP_MISMATCH }
  checkResultMaterial reads job jobStatus body
  let (_, db₁) ← updateJob reads.management job.id (setResult reads body jobStatus db.now)
    { db with agents := agents }
  let db₂ ← settleTrust env job jobStatus body.trustResult db₁
  return ({ jobId := job.id, status := jobStatus, duplicate := false }, db₂)

/-- `ingestResult`.  A replayed nonce that repeats the recorded outcome is
    acknowledged; every other refused nonce is an error. -/
def ingestResult (env : Env) (agent : AgentIdentity) (sequence : Option Nat) (body : ResultBody)
    (reads : ResultReads) (db : Db) : Except ServiceError (ResultReply × Db) := do
  let jobStatus ← resultJobStatus body
  let job ← lockClaim agent body db
  checkResultMode job.mode jobStatus
  checkResultEnrollment reads job jobStatus body
  match consumeNonce body.nonce body.jobId agent.workspaceId agent.id db with
  | (.consumed, db₁) => acceptResult env agent sequence body reads job jobStatus db₁
  | (outcome, _) =>
    if outcome = .replayed ∧ job.status = jobStatus ∧ job.completedAt.isSome then
      .ok ({ jobId := job.id, status := job.status, duplicate := true }, db)
    else
      .error
        { message := "Result nonce was rejected", code := CERTOPS_AGENT_RESULT_NONCE_REJECTED }

end TokenTimer.CertOps
