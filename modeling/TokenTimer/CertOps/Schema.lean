/-
  TokenTimer.CertOps.Schema — the tables of job dispatch and of the trust
  anchors, as far as the modelled statements read or write them.

    * `certificate_jobs`, split into the columns an INSERT fixes (`JobSpec`) and
      those a later UPDATE may write (`JobRow`).
    * `certops_consumed_nonces`, the ledger of dispatch nonces.
    * `certops_trust_anchors`, `certops_trust_anchor_installations` and
      `certops_trust_reference_release_idempotency`.
    * the workspace switches, and `certops_agents` from `TokenTimer.Basic`.

  `gen_random_uuid()` and the nonce generator draw from ONE counter, `nextId`,
  so a generated identifier is never one that is in use.  Every time is in
  milliseconds of the database clock, `now`.
-/

import TokenTimer.Basic

namespace TokenTimer.CertOps

open Lib.Table

/-! ## §1. Vocabularies of `certificate_jobs`. -/

/-- `JOB_OPERATIONS`. -/
inductive JobOperation
  | issue | renew | deploy | deployFromStore | reload | revoke | noop | protocolSmoke
  | distributeTrust | revokeTrust | continueEnrollment | adcsPreflight
deriving DecidableEq, Repr

def JobOperation.text : JobOperation → String
  | .issue => "issue"
  | .renew => "renew"
  | .deploy => "deploy"
  | .deployFromStore => "deploy-from-store"
  | .reload => "reload"
  | .revoke => "revoke"
  | .noop => "noop"
  | .protocolSmoke => "protocol_smoke"
  | .distributeTrust => "distribute-trust"
  | .revokeTrust => "revoke-trust"
  | .continueEnrollment => "continue-enrollment"
  | .adcsPreflight => "adcs-preflight"

def isTrustAnchorOperation (operation : JobOperation) : Bool :=
  operation = .distributeTrust ∨ operation = .revokeTrust

/-- `wireActionForOperation`: an issue is dispatched to agents as a renew. -/
def wireActionForOperation (operation : JobOperation) : JobOperation :=
  if operation = .issue then .renew else operation

/-- `JOB_STATUSES`. -/
inductive JobStatus
  | pendingApproval | approved | rejected | pending | claimed | running | succeeded | failed
  | blocked | cancelled | dryRunComplete | orphanedUnknownEffect | awaitingIssuer
deriving DecidableEq, Repr

def JobStatus.text : JobStatus → String
  | .pendingApproval => "pending_approval"
  | .approved => "approved"
  | .rejected => "rejected"
  | .pending => "pending"
  | .claimed => "claimed"
  | .running => "running"
  | .succeeded => "succeeded"
  | .failed => "failed"
  | .blocked => "blocked"
  | .cancelled => "cancelled"
  | .dryRunComplete => "dry_run_complete"
  | .orphanedUnknownEffect => "orphaned_unknown_effect"
  | .awaitingIssuer => "awaiting_issuer"

/-- `JOB_MODES`. -/
inductive JobMode
  | real | dryRun
deriving DecidableEq, Repr

/-- `JOB_SOURCES`. -/
inductive JobSource
  | api | executor | system | automation | domainMonitor | endpointMonitor | controlPlane
  | external | controllerProvisioning
deriving DecidableEq, Repr

/-- `JOB_EXECUTOR_KINDS`. -/
inductive ExecutorKind
  | agent | controller
deriving DecidableEq, Repr

/-- `SUBJECT_TYPES`. -/
inductive SubjectType
  | managedCertificate | certificateInstance | certificateTarget | token | domain | endpoint
  | external | trustAnchor
deriving DecidableEq, Repr

/-! ## §2. Vocabularies of the trust anchors. -/

/-- `certops_trust_anchors.anchor_type`. -/
inductive AnchorType
  | root | intermediate
deriving DecidableEq, Repr

/-- `certops_trust_anchors.status`. -/
inductive AnchorStatus
  | active | revoked
deriving DecidableEq, Repr

/-- `certops_trust_anchor_installations.transition_state`. -/
inductive TransitionState
  | pendingInstall | installed | pendingRemove | removed
deriving DecidableEq, Repr

/-- `certops_trust_anchor_installations.provenance`. -/
inductive Provenance
  | preexisting | tokentimerInstalled
deriving DecidableEq, Repr

/-! ## §3. `certificate_jobs`. -/

structure MetadataEntry where
  name : String
  value : String
deriving DecidableEq, Repr

structure TrustPayload where
  trustAnchorId : Nat
  anchorType : AnchorType
  fingerprintSha256 : String
  metadata : List MetadataEntry
deriving DecidableEq, Repr

/-- `certificate_jobs.payload`: the members the modelled code looks at, and the
    text of the rest. -/
structure JobPayload where
  trust : Option TrustPayload := none
  publication : Bool := false
  materialDeployment : Bool := false
  distributionRollout : Bool := false
  rest : String := ""
deriving DecidableEq, Repr

/-- The columns of `certificate_jobs` that only the INSERT writes. -/
structure JobSpec where
  id : Nat
  workspaceId : Nat
  operation : JobOperation
  mode : JobMode
  source : JobSource
  executorKind : ExecutorKind
  subjectType : Option SubjectType
  subjectId : Option Nat
  requestedByUserId : Option Nat
  requestedByApiTokenId : Option Nat
  requestedByConnectionId : Option Nat
  idempotencyKey : Option String
  creationRequestHash : String
  enrollmentId : Option Nat
  managementPeriodId : Option Nat
  assignedAgentId : Option Nat
  requiredTargetSelector : Option String
  requiredDnsProvider : Option String
  requiredCommandProfile : Option String
  maxAttempts : Option Nat
  scheduledFor : Option Nat
  createdAt : Nat

/-- A row of `certificate_jobs`. -/
structure JobRow extends JobSpec where
  status : JobStatus
  payload : JobPayload
  claimedByAgentId : Option Nat := none
  claimId : Option Nat := none
  leaseExpiresAt : Option Nat := none
  leaseRenewedAt : Option Nat := none
  attemptCount : Nat := 0
  nextAttemptAt : Option Nat := none
  approvedByUserId : Option Nat := none
  approvedAt : Option Nat := none
  approvedPayloadHash : Option String := none
  approvedCanonicalIntentHash : Option String := none
  queuedAt : Option Nat := none
  startedAt : Option Nat := none
  completedAt : Option Nat := none
  canceledAt : Option Nat := none
  errorCode : Option String := none
  errorMessage : Option String := none
  needsOperatorReconciliation : Bool := false
  reconciliationReason : Option String := none

def coalesce (column : Option Nat) (now : Nat) : Option Nat :=
  some (column.getD now)

/-! ## §4. The nonce ledger. -/

/-- A row of `certops_consumed_nonces`.  `claimId` is no column: it is the claim
    whose signed payload carries the nonce, which is what "the nonce of a
    dispatch" means. -/
structure NonceRow where
  nonce : Nat
  jobId : Nat
  workspaceId : Nat
  issuedToAgentId : Option Nat
  claimId : Nat
  expiresAt : Nat
  consumedAt : Option Nat
deriving DecidableEq, Repr

/-! ## §5. The trust-anchor tables. -/

/-- A row of `certops_trust_anchors`. -/
structure AnchorRow where
  id : Nat
  workspaceId : Nat
  name : String
  pem : String
  anchorType : AnchorType
  fingerprintSha256 : String
  status : AnchorStatus
  revokedAt : Option Nat
deriving DecidableEq, Repr

/-- A row of `certops_trust_anchor_installations`: one owner's reference to one
    anchor in one store of one agent. -/
structure InstallationRow where
  id : Nat
  workspaceId : Nat
  trustAnchorId : Nat
  agentId : Nat
  store : String
  fingerprintSha256 : String
  owner : String
  transitionState : TransitionState
  provenance : Provenance
  lastJobId : Option Nat
  transitionGeneration : Nat
  lastAttemptAt : Option Nat
  lastError : Option String
  nextReconcileAt : Option Nat
deriving DecidableEq, Repr

/-- The physical slot a reference points at: workspace, agent, store and
    fingerprint. -/
structure TrustTuple where
  workspaceId : Nat
  agentId : Nat
  store : String
  fingerprintSha256 : String
deriving DecidableEq, Repr

def InstallationRow.tuple (row : InstallationRow) : TrustTuple :=
  { workspaceId := row.workspaceId, agentId := row.agentId, store := row.store
    fingerprintSha256 := row.fingerprintSha256 }

/-- The columns of the unique index of the table. -/
def InstallationRow.key (row : InstallationRow) : TrustTuple × String :=
  (row.tuple, row.owner)

/-- A row of `certops_trust_reference_release_idempotency`. -/
structure ReleaseRow where
  workspaceId : Nat
  trustAnchorId : Nat
  agentId : Nat
  store : String
  owner : String
  operation : JobOperation
  idempotencyKey : String
  installationSnapshot : InstallationRow
deriving DecidableEq, Repr

/-! ## §6. The database. -/

/-- The switches of a row of `workspaces`. -/
structure WorkspaceRow where
  id : Nat
  certopsPaused : Bool
  certopsRequireApprovalAlways : Bool
deriving DecidableEq, Repr

/-- The tables, the clock and the source of fresh identifiers. -/
structure Db where
  now : Nat
  nextId : Nat
  workspaces : List WorkspaceRow
  agents : List AgentRow
  jobs : List JobRow
  nonces : List NonceRow
  anchors : List AnchorRow
  installations : List InstallationRow
  releases : List ReleaseRow

/-- A deployment with no row in any modelled table. -/
def Db.empty : Db :=
  { now := 0, nextId := 0, workspaces := [], agents := [], jobs := [], nonces := []
    anchors := [], installations := [], releases := [] }

/-- `SELECT … FROM certificate_jobs WHERE id = …`. -/
def Db.jobById (db : Db) (id : Nat) : Option JobRow :=
  selectOne (fun j => j.id = id) db.jobs

/-- `SELECT … WHERE workspace_id = … AND id = …`. -/
def Db.jobOf (db : Db) (workspaceId id : Nat) : Option JobRow :=
  selectOne (fun j => j.workspaceId = workspaceId ∧ j.id = id) db.jobs

def Db.installationOfJob (db : Db) (workspaceId jobId : Nat) : Option InstallationRow :=
  selectOne (fun r => r.workspaceId = workspaceId ∧ r.lastJobId = some jobId) db.installations

end TokenTimer.CertOps
