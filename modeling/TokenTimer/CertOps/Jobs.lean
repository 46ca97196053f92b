/-
  TokenTimer.CertOps.Jobs — the generic life of a job
  (`apps/api/services/certops/jobs.js` and the triggers on `certificate_jobs` in
  `apps/api/migrations/certops-distribution-lifecycle-guards.sql`).

  A transaction is a function `Db → Except ServiceError (Reply × Db)`: an error
  is the ROLLBACK, so it carries no database.  What a statement reads outside the
  modelled tables (management periods, certificate identities, enrollments) is an
  INPUT, the record `Management`, chosen anew for every row a statement writes.

  SHA-256 and the canonical JSON under it are the functions of `Env`.

  Main results:
    * `updateJob_ok` — what one triggered UPDATE of a job row does.
    * `jobStatusTransitionDecision_ok` — an applied transition never leaves a
        terminal status and never goes back from `running`.
-/

import TokenTimer.CertOps.Schema
import TokenTimer.CertOps.LeaseTiming
import TokenTimer.Json.Text

namespace TokenTimer.CertOps

open Lib.Table

/-! ## §1. Error codes. -/

def CERTOPS_JOB_INVALID : String := "CERTOPS_JOB_INVALID"
def CERTOPS_JOB_NOT_FOUND : String := "CERTOPS_JOB_NOT_FOUND"
def CERTOPS_JOB_OPERATION_INVALID : String := "CERTOPS_JOB_OPERATION_INVALID"
def CERTOPS_JOB_STATUS_INVALID : String := "CERTOPS_JOB_STATUS_INVALID"
def CERTOPS_JOB_STATUS_TRANSITION_INVALID : String := "CERTOPS_JOB_STATUS_TRANSITION_INVALID"
def CERTOPS_JOB_MODE_INVALID : String := "CERTOPS_JOB_MODE_INVALID"
def CERTOPS_JOB_MODE_TERMINAL_INVALID : String := "CERTOPS_JOB_MODE_TERMINAL_INVALID"
def CERTOPS_JOB_IDEMPOTENCY_CONFLICT : String := "CERTOPS_JOB_IDEMPOTENCY_CONFLICT"

/-! ## §2. Statuses and their transitions. -/

/-- `TERMINAL_JOB_STATUSES`. -/
def isTerminalJobStatus : JobStatus → Bool
  | .rejected | .succeeded | .failed | .blocked | .cancelled | .dryRunComplete
  | .orphanedUnknownEffect | .awaitingIssuer => true
  | .pendingApproval | .approved | .pending | .claimed | .running => false

/-- `ACTIVE_JOB_STATUS_RANK`, `none` outside `ACTIVE_JOB_STATUSES`. -/
def activeJobStatusRank : JobStatus → Option Nat
  | .pendingApproval => some 0
  | .approved => some 1
  | .pending => some 2
  | .claimed => some 3
  | .running => some 4
  | _ => none

def jobStatusTransitions : JobStatus → List JobStatus
  | .pendingApproval => [.approved, .rejected, .cancelled]
  | .approved => [.pending, .rejected, .cancelled]
  | .pending =>
    [.claimed, .running, .succeeded, .failed, .rejected, .blocked, .cancelled, .dryRunComplete,
      .awaitingIssuer]
  | .claimed =>
    [.running, .succeeded, .failed, .rejected, .blocked, .cancelled, .dryRunComplete,
      .orphanedUnknownEffect, .awaitingIssuer]
  | .running =>
    [.succeeded, .failed, .rejected, .blocked, .cancelled, .dryRunComplete,
      .orphanedUnknownEffect, .awaitingIssuer]
  | _ => []

/-- The outcome of `jobStatusTransitionDecision`. -/
structure TransitionDecision where
  applied : Bool
  ignoredReason : Option String
deriving DecidableEq, Repr

def jobStatusTransitionDecision (fromStatus toStatus : JobStatus) :
    Except ServiceError TransitionDecision :=
  if fromStatus = toStatus then
    .ok
      { applied := false
        ignoredReason :=
          some (if isTerminalJobStatus fromStatus then "terminal_replay" else "active_replay") }
  else if isTerminalJobStatus fromStatus then
    .ok { applied := false, ignoredReason := some "terminal_regression" }
  else if toStatus ∈ jobStatusTransitions fromStatus then
    .ok { applied := true, ignoredReason := none }
  else
    match activeJobStatusRank toStatus, activeJobStatusRank fromStatus with
    | some dest, some orig =>
      if dest < orig then .ok { applied := false, ignoredReason := some "active_regression" }
      else
        .error
          { message := "CertOps job status transition is invalid"
            code := CERTOPS_JOB_STATUS_TRANSITION_INVALID }
    | _, _ =>
      .error
        { message := "CertOps job status transition is invalid"
          code := CERTOPS_JOB_STATUS_TRANSITION_INVALID }

def assertModeAllowsTerminalStatus (mode : JobMode) (status : JobStatus) :
    Except ServiceError Unit :=
  if mode = .dryRun ∧ status = .succeeded then
    .error
      { message := "dry_run jobs must terminate as dry_run_complete, never succeeded"
        code := CERTOPS_JOB_MODE_TERMINAL_INVALID }
  else if mode = .real ∧ status = .dryRunComplete then
    .error
      { message := "dry_run_complete is only valid for dry_run jobs"
        code := CERTOPS_JOB_MODE_TERMINAL_INVALID }
  else .ok ()

/-- The only transitions the decision applies are those of the table, from a
    status that is not terminal. -/
theorem jobStatusTransitionDecision_ok {orig dest : JobStatus} {d : TransitionDecision}
    (h : jobStatusTransitionDecision orig dest = .ok d) (ha : d.applied = true) :
    isTerminalJobStatus orig = false ∧ dest ∈ jobStatusTransitions orig := by
  unfold jobStatusTransitionDecision at h
  split at h
  · cases h
    cases ha
  split at h
  · cases h
    cases ha
  rename_i hterm
  split at h
  · rename_i hmem
    exact ⟨by simpa using hterm, hmem⟩
  -- What is left either raises or is an ignored regression.
  split at h
  · split at h
    · cases h
      cases ha
    · cases h
  · cases h

theorem assertModeAllowsTerminalStatus_ok {mode : JobMode} {status : JobStatus} {u : Unit}
    (h : assertModeAllowsTerminalStatus mode status = .ok u) :
    (mode = .dryRun → status ≠ .succeeded) ∧ (mode = .real → status ≠ .dryRunComplete) := by
  unfold assertModeAllowsTerminalStatus at h
  split at h
  · cases h
  rename_i h₁
  split at h
  · cases h
  rename_i h₂
  exact ⟨fun hm hs => h₁ ⟨hm, hs⟩, fun hm hs => h₂ ⟨hm, hs⟩⟩

/-! ## §3. Hashes. -/

/-- What `jobCreationRequestFingerprint` hashes: the normalised public inputs of
    a creation.  Explicit timestamps, errors and result metadata, which no caller
    of the modelled paths passes, are left out. -/
structure JobCreationRequest where
  operation : JobOperation
  status : JobStatus
  mode : JobMode
  source : JobSource
  requestedByUserId : Option Nat
  requestedByApiTokenId : Option Nat
  subjectType : Option SubjectType
  subjectId : Option Nat
  payload : JobPayload
deriving DecidableEq, Repr

/-- The routing columns an intent of an assistant connection binds. -/
structure OperatorRouting where
  assignedAgentId : Option Nat
  requiredTargetSelector : Option String
  requiredDnsProvider : Option String
  requiredCommandProfile : Option String
deriving DecidableEq, Repr

/-- `buildCanonicalExecutionIntent`'s result. -/
structure CanonicalExecutionIntent where
  operation : JobOperation
  subjectType : Option SubjectType
  subjectId : Option Nat
  operatorRouting : Option OperatorRouting
  payload : JobPayload
deriving DecidableEq, Repr

/-- The process environment and the hash functions. -/
structure Env where
  timing : TimingEnv
  certOpsEnabled : Bool
  /-- `createHash("sha256").update(text, "utf8").digest("hex")`. -/
  sha256Hex : Json.JsString → String
  jobCreationRequestFingerprint : JobCreationRequest → String
  computeJobPayloadApprovalHash : JobPayload → String
  canonicalIntentDigest : CanonicalExecutionIntent → String
  /-- `certops_agents.agent_id`, the wire identity of an agent row. -/
  wireAgentId : Nat → String

def buildCanonicalExecutionIntent (job : JobRow) : CanonicalExecutionIntent :=
  { operation := job.operation, subjectType := job.subjectType, subjectId := job.subjectId
    operatorRouting :=
      job.requestedByConnectionId.map fun _ =>
        { assignedAgentId := job.assignedAgentId
          requiredTargetSelector := job.requiredTargetSelector
          requiredDnsProvider := job.requiredDnsProvider
          requiredCommandProfile := job.requiredCommandProfile }
    payload := job.payload }

def computeCanonicalIntentHash (env : Env) (job : JobRow) : String :=
  env.canonicalIntentDigest (buildCanonicalExecutionIntent job)

/-! ## §4. The triggers of `certificate_jobs`. -/

/-- What the triggers read in the management tables for one row. -/
structure Management where
  /-- The open management period of the subject, for an INSERT. -/
  openPeriod : Option Nat := none
  /-- The subject is a managed certificate whose management has stopped. -/
  sourceStopped : Bool := false
  /-- `certops_is_bound_enrollment_continuation(NEW)`. -/
  boundContinuation : Bool := false
  /-- The enrollment of the row exists in no terminal state. -/
  openEnrollment : Bool := false
  periodFound : Bool := true
  periodEnded : Bool := false
  /-- `ended_reason IN ('certificate_revoked', 'certificate_decommissioned')`. -/
  endedByRetirement : Bool := false
  /-- The certificate identity is revoked or decommissioned, or its retirement
      fence is held. -/
  identityRetired : Bool := false
  identityActive : Bool := true
  initialProvisioning : Bool := false
  /-- The payload targets another fingerprint and cannot restore the original. -/
  replacesRetired : Bool := false
deriving DecidableEq, Repr

/-- `OLD.status IN ('claimed', 'running')`. -/
def alreadyStarted (old : Option JobRow) : Bool :=
  match old with
  | some job => job.status = .claimed ∨ job.status = .running
  | none => false

/-- The exception of both lifecycle guards. -/
def lifecycleBlocked : ServiceError :=
  { message := "CertOps certificate lifecycle blocks this operation", code := "55000" }

def JobRow.flagged (job : JobRow) (reason : String) : JobRow :=
  { job with
    needsOperatorReconciliation := true
    reconciliationReason := some (job.reconciliationReason.getD reason) }

/-- `certops_guard_job_identity_start`. -/
def guardJobIdentityStart (m : Management) (old : Option JobRow) (new : JobRow) :
    Except ServiceError JobRow :=
  let installContinuation : Bool := new.operation = .continueEnrollment
  if new.subjectType ≠ some .managedCertificate then .ok new
  else if installContinuation && !m.openEnrollment then .ok new
  else if !installContinuation &&
      !(new.operation ∈ [.renew, .deploy, .deployFromStore, .reload] : Bool) then .ok new
  else if alreadyStarted old then
    if !installContinuation && new.mode ≠ .dryRun && m.identityRetired then
      .ok (new.flagged "certificate_retirement_overlapped_execution")
    else .ok new
  else if new.managementPeriodId = none ∨ ¬ (new.status = .claimed ∨ new.status = .running) then
    .ok new
  else if !m.periodFound || m.periodEnded then .ok new
  else if installContinuation then
    if m.identityRetired then .error lifecycleBlocked else .ok new
  else if m.initialProvisioning || m.identityActive then .ok new
  else .error lifecycleBlocked

/-- The row an ended management period leaves: cancelled, with no claim. -/
def JobRow.cancelledByPeriod (job : JobRow) (old : Option JobRow) (now : Nat) : JobRow :=
  { job with
    status := .cancelled
    canceledAt := coalesce job.canceledAt now
    claimId := none
    claimedByAgentId := none
    leaseExpiresAt := none
    leaseRenewedAt := none
    startedAt := (old.map (·.startedAt)).getD job.startedAt
    attemptCount := (old.map (·.attemptCount)).getD job.attemptCount }

/-- `certops_guard_management_job_claim`. -/
def guardManagementJobClaim (m : Management) (now : Nat) (old : Option JobRow) (new : JobRow) :
    Except ServiceError JobRow :=
  if new.subjectType ≠ some .managedCertificate ∨ new.managementPeriodId = none then .ok new
  else if isTerminalJobStatus new.status then .ok new
  else if m.boundContinuation then .ok new
  else if m.periodFound && alreadyStarted old && m.endedByRetirement &&
      (new.mode = .dryRun ∨ ¬ (new.operation ∈
        [.renew, .deploy, .deployFromStore, .reload, .continueEnrollment]) : Bool) then .ok new
  else if !m.periodFound || m.periodEnded then
    if alreadyStarted old && (new.status = .claimed ∨ new.status = .running : Bool) then
      .ok (new.flagged "management_period_closed")
    else .ok (new.cancelledByPeriod old now)
  else if (¬ (new.status = .claimed ∨ new.status = .running) : Bool) || alreadyStarted old then
    .ok new
  else if m.identityRetired && (new.operation ∈ [.renew, .deploy, .reload] : Bool) &&
      !m.replacesRetired then .error lifecycleBlocked
  else .ok new

/-- The BEFORE triggers of one row, in name order.  The attribution trigger only
    refuses to change columns that no modelled UPDATE writes. -/
def jobTriggers (m : Management) (now : Nat) (old : Option JobRow) (new : JobRow) :
    Except ServiceError JobRow :=
  guardJobIdentityStart m old new >>= guardManagementJobClaim m now old

/-- The row that comes out of the triggers is the row that went in, up to the
    operator flags — or that row cancelled, when it was about to start. -/
inductive Triggered (now : Nat) (old : Option JobRow) (new : JobRow) : JobRow → Prop
  | kept (flag : Bool) (reason : Option String) :
      Triggered now old new
        { new with needsOperatorReconciliation := flag, reconciliationReason := reason }
  | cancelled (flag : Bool) (reason : Option String)
      (hactive : isTerminalJobStatus new.status = false)
      (hstart : alreadyStarted old = true → ¬ (new.status = .claimed ∨ new.status = .running)) :
      Triggered now old new
        ({ new with needsOperatorReconciliation := flag, reconciliationReason := reason }
          |>.cancelledByPeriod old now)

variable {new out : JobRow} {m : Management} {old : Option JobRow}

theorem guardJobIdentityStart_ok (h : guardJobIdentityStart m old new = .ok out) :
    ∃ flag reason,
      out = { new with needsOperatorReconciliation := flag, reconciliationReason := reason } := by
  have hsame : ∃ flag reason, new =
      { new with needsOperatorReconciliation := flag, reconciliationReason := reason } :=
    ⟨new.needsOperatorReconciliation, new.reconciliationReason, rfl⟩
  unfold guardJobIdentityStart at h
  simp only at h
  split_ifs at h
  all_goals first
    | (cases h; exact hsame)
    | (cases h; exact ⟨_, _, rfl⟩)

theorem guardManagementJobClaim_ok {now : Nat} (h : guardManagementJobClaim m now old new = .ok out) :
    out = new ∨ out = new.flagged "management_period_closed" ∨
      (out = new.cancelledByPeriod old now ∧ isTerminalJobStatus new.status = false ∧
        (alreadyStarted old = true → ¬ (new.status = .claimed ∨ new.status = .running))) := by
  unfold guardManagementJobClaim at h
  split at h
  · exact .inl (Except.ok.inj h).symm
  split at h
  · exact .inl (Except.ok.inj h).symm
  rename_i hactive
  split at h
  · exact .inl (Except.ok.inj h).symm
  split at h
  · exact .inl (Except.ok.inj h).symm
  split at h
  · split at h
    · exact .inr (.inl (Except.ok.inj h).symm)
    · rename_i hstart
      refine .inr (.inr ⟨(Except.ok.inj h).symm, by simpa using hactive, ?_⟩)
      intro hs hst
      exact hstart (by simp [hs, hst])
  split at h
  · exact .inl (Except.ok.inj h).symm
  split at h
  · cases h
  · exact .inl (Except.ok.inj h).symm

/-- WHAT THE TRIGGERS DO to a row they let through. -/
theorem jobTriggers_ok {now : Nat} (h : jobTriggers m now old new = .ok out) :
    Triggered now old new out := by
  obtain ⟨mid, hmid, hout⟩ := bind_ok.mp h
  obtain ⟨flag, reason, rfl⟩ := guardJobIdentityStart_ok hmid
  obtain rfl | rfl | ⟨rfl, hactive, hstart⟩ := guardManagementJobClaim_ok hout
  · exact .kept flag reason
  · exact .kept true (some (reason.getD "management_period_closed"))
  · exact .cancelled flag reason hactive hstart

/-! ## §5. One UPDATE of one job. -/

/-- `UPDATE certificate_jobs SET … WHERE id = … RETURNING *`. -/
def updateJob (mgmt : JobRow → Management) (id : Nat) (set : JobRow → JobRow) (db : Db) :
    Except ServiceError (Option JobRow × Db) :=
  match db.jobById id with
  | none => .ok (none, db)
  | some old => do
    let new ← jobTriggers (mgmt old) db.now (some old) (set old)
    .ok (some new, { db with jobs := updateWhere (fun j => j.id = id) (fun _ => new) db.jobs })

/-- **ONE UPDATE OF A JOB**: the row of that id is replaced by the row the
    triggers let through, and nothing else changes. -/
theorem updateJob_ok {mgmt : JobRow → Management} {id : Nat} {set : JobRow → JobRow}
    {db db' : Db} {out : Option JobRow} (h : updateJob mgmt id set db = .ok (out, db')) :
    (out = none ∧ db' = db ∧ db.jobById id = none) ∨
      ∃ old new, db.jobById id = some old ∧ out = some new ∧
        Triggered db.now (some old) (set old) new ∧
        db' = { db with jobs := updateWhere (fun j => j.id = id) (fun _ => new) db.jobs } := by
  unfold updateJob at h
  split at h
  · rename_i hnone
    cases h
    exact .inl ⟨rfl, rfl, hnone⟩
  · rename_i old hold
    obtain ⟨new, hnew, hout⟩ := bind_ok.mp h
    cases hout
    exact .inr ⟨old, new, hold, rfl, jobTriggers_ok hnew, rfl⟩

/-! ## §6. Creation. -/

/-- The options of `createCertificateJob` that the modelled callers pass. -/
structure CreateJobOptions where
  workspaceId : Nat
  operation : JobOperation
  status : Option JobStatus := none
  mode : Option JobMode := none
  source : JobSource := .api
  executorKind : Option ExecutorKind := none
  subjectType : Option SubjectType := none
  subjectId : Option Nat := none
  payload : JobPayload := {}
  requestedByUserId : Option Nat := none
  requestedByApiTokenId : Option Nat := none
  requestedByConnectionId : Option Nat := none
  idempotencyKey : Option String := none
  enrollmentId : Option Nat := none
  assignedAgentId : Option Nat := none
  requiredTargetSelector : Option String := none
  requiredDnsProvider : Option String := none
  requiredCommandProfile : Option String := none
  requiresApproval : Bool := false
  workspaceRequiresApprovalAlways : Bool := false
  allowDiagnosticOperation : Bool := false
  allowEnrollmentContinuation : Bool := false
  allowIssuerPreflight : Bool := false

/-- What a creation reads outside the modelled tables: the refusal of the payload
    and routing validators, the refusal of the lifecycle and capacity gates that
    run after the replay check, and the management tables. -/
structure CreateReads where
  validation : Option ServiceError := none
  admission : Option ServiceError := none
  management : Management := {}

/-- A gate that is an input of the model. -/
def passes (refusal : Option ServiceError) : Except ServiceError Unit :=
  match refusal with
  | some e => .error e
  | none => .ok ()

/-- The three operations that only their own service may create. -/
def assertOperationCreatable (opts : CreateJobOptions) : Except ServiceError Unit := do
  require (opts.operation ≠ .protocolSmoke ∨ opts.allowDiagnosticOperation)
    { message :=
        "protocol_smoke jobs can only be created by the CertOps diagnostic-bootstrap service"
      code := CERTOPS_JOB_OPERATION_INVALID }
  require (opts.operation ≠ .continueEnrollment ∨ opts.allowEnrollmentContinuation)
    { message :=
        "continue-enrollment jobs can only be created by the CertOps enrollment scheduler"
      code := CERTOPS_JOB_OPERATION_INVALID }
  require (opts.operation ≠ .adcsPreflight ∨ opts.allowIssuerPreflight)
    { message := "adcs-preflight jobs can only be created by the CertOps issuer service"
      code := CERTOPS_JOB_OPERATION_INVALID }
  require (opts.operation ≠ .protocolSmoke ∨ opts.mode = none ∨ opts.mode = some .dryRun)
    { message := "protocol_smoke jobs must use mode: dry_run", code := CERTOPS_JOB_MODE_INVALID }

/-- `normalizeJobMode`, after the override for `protocol_smoke`. -/
def normalizeJobMode (opts : CreateJobOptions) : JobMode :=
  if opts.operation = .protocolSmoke then .dryRun else opts.mode.getD .real

def resolveWorkspaceRequiresApprovalAlways (db : Db) (workspaceId : Nat) (hint : Bool) : Bool :=
  ((selectOne (fun w => w.id = workspaceId) db.workspaces).map
    (·.certopsRequireApprovalAlways)).getD false || hint

/-- The initial status: the approval gate decides the default, and the workspace
    policy overrides an explicit status. -/
def resolveJobStatus (opts : CreateJobOptions) (workspaceForcesApproval : Bool) :
    Except ServiceError JobStatus := do
  require (!(opts.requiresApproval && opts.status.isSome &&
      opts.status ≠ some .pendingApproval))
    { message := "A CertOps job that requires approval must start at pending_approval"
      code := CERTOPS_JOB_STATUS_INVALID }
  let status :=
    if workspaceForcesApproval then .pendingApproval
    else opts.status.getD (if opts.requiresApproval then .pendingApproval else .pending)
  require (status ≠ .awaitingIssuer ∨ opts.enrollmentId.isSome)
    { message := "awaiting_issuer requires a bound enrollment"
      code := CERTOPS_JOB_STATUS_INVALID }
  return status

/-- `SUBJECT_REQUIRED_OPERATIONS`. -/
def subjectRequired (operation : JobOperation) : Bool :=
  operation ∈ [.renew, .deploy, .deployFromStore, .reload, .revoke, .distributeTrust, .revokeTrust]

/-- `normalizeSubject`'s refusals. -/
def normalizeSubject (opts : CreateJobOptions) : Except ServiceError Unit := do
  require (opts.subjectType.isSome || opts.subjectId.isNone)
    { message := "subjectType is required with subjectId", code := CERTOPS_JOB_INVALID }
  require (opts.subjectType.isNone || opts.subjectId.isSome)
    { message := "subjectId is required with subjectType", code := CERTOPS_JOB_INVALID }
  require (opts.subjectType.isSome || !subjectRequired opts.operation)
    { message :=
        "subjectType and subjectId are required for the " ++ opts.operation.text ++ " operation"
      code := CERTOPS_JOB_INVALID }
  require (!isTrustAnchorOperation opts.operation || opts.subjectType = some .trustAnchor)
    { message :=
        "subjectType must be trust_anchor for the " ++ opts.operation.text ++ " operation"
      code := CERTOPS_JOB_INVALID }
  require (isTrustAnchorOperation opts.operation || opts.subjectType ≠ some .trustAnchor)
    { message := "subjectType trust_anchor is only valid for distribute-trust/revoke-trust jobs"
      code := CERTOPS_JOB_INVALID }

/-- `resolveExecutorKindAndRouting`'s lane. -/
def resolveExecutorKind (opts : CreateJobOptions) : Except ServiceError ExecutorKind := do
  let kind := opts.executorKind.getD
    (if opts.source = .controllerProvisioning then .controller else .agent)
  require (opts.source ≠ .controllerProvisioning ∨ kind = .controller)
    { message := "controller_provisioning jobs must use executor_kind=controller"
      code := CERTOPS_JOB_INVALID }
  require (opts.source = .controllerProvisioning ∨ kind ≠ .controller)
    { message := "executor_kind=controller is reserved for controller_provisioning jobs"
      code := CERTOPS_JOB_INVALID }
  return kind

/-- The validators of `createCertificateJob`, in the order of the source: the
    status, the mode and the lane of the new job. -/
def validateJobOptions (opts : CreateJobOptions) (reads : CreateReads) (db : Db) :
    Except ServiceError (JobStatus × ExecutorKind) := do
  assertOperationCreatable opts
  let workspaceForcesApproval := opts.operation ≠ .protocolSmoke &&
    resolveWorkspaceRequiresApprovalAlways db opts.workspaceId opts.workspaceRequiresApprovalAlways
  let status ← resolveJobStatus opts workspaceForcesApproval
  require (opts.source ≠ .automation ∨ !isTrustAnchorOperation opts.operation)
    { message := "Trust-anchor operations cannot be created by automation; " ++
        "distribute-trust and revoke-trust require an explicit human or API request"
      code := CERTOPS_JOB_OPERATION_INVALID }
  normalizeSubject opts
  passes reads.validation
  assertModeAllowsTerminalStatus (normalizeJobMode opts) status
  let kind ← resolveExecutorKind opts
  return (status, kind)

def jobCreationRequest (opts : CreateJobOptions) (status : JobStatus) : JobCreationRequest :=
  { operation := opts.operation, status := status, mode := normalizeJobMode opts
    source := opts.source, requestedByUserId := opts.requestedByUserId
    requestedByApiTokenId := opts.requestedByApiTokenId, subjectType := opts.subjectType
    subjectId := opts.subjectId, payload := opts.payload }

/-- The row the INSERT writes, with `initialLifecycleTimestamps`. -/
def newJobRow (env : Env) (opts : CreateJobOptions) (status : JobStatus) (kind : ExecutorKind)
    (period : Option Nat) (id now : Nat) : JobRow :=
  { id := id, workspaceId := opts.workspaceId, operation := opts.operation
    mode := normalizeJobMode opts, source := opts.source, executorKind := kind
    subjectType := opts.subjectType, subjectId := opts.subjectId
    requestedByUserId := opts.requestedByUserId
    requestedByApiTokenId := opts.requestedByApiTokenId
    requestedByConnectionId := opts.requestedByConnectionId
    idempotencyKey := opts.idempotencyKey
    creationRequestHash := env.jobCreationRequestFingerprint (jobCreationRequest opts status)
    enrollmentId := opts.enrollmentId, managementPeriodId := period
    assignedAgentId := opts.assignedAgentId
    requiredTargetSelector := opts.requiredTargetSelector
    requiredDnsProvider := opts.requiredDnsProvider
    requiredCommandProfile := opts.requiredCommandProfile
    maxAttempts := some 3, scheduledFor := none, createdAt := now
    status := status, payload := opts.payload
    queuedAt := if isTerminalJobStatus status then none else some now
    startedAt := if status = .running then some now else none
    completedAt :=
      if status ∈ [.succeeded, .failed, .blocked, .dryRunComplete, .orphanedUnknownEffect,
        .awaitingIssuer] then some now
      else none
    canceledAt := if status = .cancelled then some now else none }

/-- The attribution trigger of an INSERT. -/
def attributedPeriod (subjectType : Option SubjectType) (m : Management) :
    Except ServiceError (Option Nat) :=
  if subjectType = some .managedCertificate then
    if m.sourceStopped then
      .error { message := "CertOps management source is stopped", code := "55000" }
    else .ok m.openPeriod
  else .ok none

/-- `INSERT INTO certificate_jobs … RETURNING *`, with its triggers. -/
def insertJob (env : Env) (opts : CreateJobOptions) (status : JobStatus) (kind : ExecutorKind)
    (m : Management) (db : Db) : Except ServiceError (JobRow × Db) := do
  let period ← attributedPeriod opts.subjectType m
  let job ← jobTriggers m db.now none (newJobRow env opts status kind period db.nextId db.now)
  return (job, { db with nextId := db.nextId + 1, jobs := db.jobs ++ [job] })

def getJobByIdempotencyKey (db : Db) (workspaceId : Nat) (key : Option String) : Option JobRow :=
  match key with
  | none => none
  | some k =>
    selectOne (fun j => j.workspaceId = workspaceId ∧ j.idempotencyKey = some k) db.jobs

/-- `{ job, created }`. -/
structure CreateJobOutcome where
  job : JobRow
  created : Bool

/-- `createCertificateJob`.  A key that is in use is a replay when the request
    hash matches, and a conflict otherwise. -/
def createCertificateJob (env : Env) (opts : CreateJobOptions) (reads : CreateReads) (db : Db) :
    Except ServiceError (CreateJobOutcome × Db) := do
  let (status, kind) ← validateJobOptions opts reads db
  match getJobByIdempotencyKey db opts.workspaceId opts.idempotencyKey with
  | some existing =>
    if existing.creationRequestHash =
        env.jobCreationRequestFingerprint (jobCreationRequest opts status) then
      .ok ({ job := existing, created := false }, db)
    else
      .error
        { message := "Idempotency key was already used with a different CertOps job request"
          code := CERTOPS_JOB_IDEMPOTENCY_CONFLICT }
  | none => do
    passes reads.admission
    let (job, db') ← insertJob env opts status kind reads.management db
    .ok ({ job := job, created := true }, db')

/-! ## §7. `updateCertificateJobStatus`. -/

/-- The options of `updateCertificateJobStatus`.  An error column is written only
    when the option is present. -/
structure UpdateStatusOptions where
  workspaceId : Nat
  jobId : Nat
  status : JobStatus
  enrollmentId : Option Nat := none
  errorCode : Option (Option String) := none
  errorMessage : Option (Option String) := none

/-- The SET list of the UPDATE. -/
def setJobStatus (opts : UpdateStatusOptions) (now : Nat) (job : JobRow) : JobRow :=
  { job with
    status := opts.status
    errorCode := opts.errorCode.getD job.errorCode
    errorMessage := opts.errorMessage.getD job.errorMessage
    queuedAt := if isTerminalJobStatus opts.status then job.queuedAt else coalesce job.queuedAt now
    startedAt := if opts.status = .running then coalesce job.startedAt now else job.startedAt
    completedAt :=
      if opts.status ∈ [.succeeded, .failed, .blocked, .dryRunComplete, .orphanedUnknownEffect,
        .awaitingIssuer] then coalesce job.completedAt now
      else job.completedAt
    canceledAt := if opts.status = .cancelled then coalesce job.canceledAt now else job.canceledAt }

/-- One turn of the compare-and-swap loop, which has read the status `seen` at
    some earlier moment: the UPDATE applies only where the row STILL has that
    status.  `none` is the lost race. -/
def casJobStatus (mgmt : JobRow → Management) (opts : UpdateStatusOptions) (job : JobRow)
    (seen : JobStatus) (db : Db) : Except ServiceError (Option (TransitionDecision × Db)) := do
  assertModeAllowsTerminalStatus job.mode opts.status
  let decision ← jobStatusTransitionDecision seen opts.status
  if !decision.applied then .ok (some (decision, db))
  else if job.status = seen then do
    let (_, db') ← updateJob mgmt job.id (setJobStatus opts db.now) db
    .ok (some (decision, db'))
  else .ok none

/-- `updateCertificateJobStatus`.  It runs without a transaction of its own, so
    the two reads of the loop are inputs: whatever status another writer had left
    when they ran. -/
def updateCertificateJobStatus (mgmt : JobRow → Management) (opts : UpdateStatusOptions)
    (firstRead secondRead : JobStatus) (db : Db) :
    Except ServiceError (TransitionDecision × Db) := do
  let found := db.jobOf opts.workspaceId opts.jobId
  require (opts.status ≠ .awaitingIssuer ∨
      (opts.enrollmentId.isSome ∧ (found.bind (·.enrollmentId)) = opts.enrollmentId))
    { message := "awaiting_issuer requires a bound enrollment"
      code := CERTOPS_JOB_STATUS_INVALID }
  match found with
  | none => .error { message := "Certificate job not found", code := CERTOPS_JOB_NOT_FOUND }
  | some job => do
    match ← casJobStatus mgmt opts job firstRead db with
    | some out => .ok out
    | none =>
      match ← casJobStatus mgmt opts job secondRead db with
      | some out => .ok out
      | none =>
        .error
          { message := "CertOps job status transition is invalid"
            code := CERTOPS_JOB_STATUS_TRANSITION_INVALID }

end TokenTimer.CertOps
