/-
  TokenTimer.Distribution.Publication — the publication of group material: the jobs with a
  publication intent and the material versions they allocate (`materialDistribution.js`,
  `jobs.js`, `distributionOperations.js`, the claim, lease and result transactions of
  `agentDispatch.js`, the reaper; `migrations/074`, `075`).

  One active group.  The columns of the group that the operations compare never change
  (`certops_group_authority_immutable`), so they stand in the configuration.  Creation and
  receipts run under the lock of the group, every other operation on one job row.
-/

import TokenTimer.CertOps.Reaper
import TokenTimer.Lib.Runs
import TokenTimer.Lib.Table

namespace TokenTimer.Publication

open Lib.Runs Lib.Table TokenTimer.CertOps

/-! ## §1. Rows. -/

/-- `PROVIDERS`. -/
inductive Provider
  | vaultKv2 | openbaoKv2 | azureKeyVault
deriving DecidableEq, Repr

/-- `provider_version` of a key-value store, or `provider_version_ref`. -/
inductive ProviderVersion
  | number (n : Nat)
  | ref (id : String)
deriving DecidableEq, Repr

def lowerHex (c : Char) : Bool := ('0' ≤ c && c ≤ '9') || ('a' ≤ c && c ≤ 'f')

def validProviderVersion : Provider → ProviderVersion → Bool
  | .azureKeyVault, .ref id => id.toList.length = 32 && id.toList.all lowerHex
  | .azureKeyVault, .number _ => false
  | _, .number n => decide (0 < n) && decide (n ≤ 2147483647)
  | _, .ref _ => false

/-- The frozen columns of a row of `certops_distribution_groups`. -/
structure Group where
  id : Nat
  managedCertificateId : Nat
  managementPeriodId : Nat
  issuerAgentId : Nat
  materialStoreRef : String
  issuanceProfileRef : String
  profileRevision : Nat
  materialStoreProvider : Provider := .vaultKv2
deriving DecidableEq, Repr

/-- `payload.publication`. -/
structure Intent where
  groupId : Nat
  materialVersionId : Nat
  managementPeriodId : Nat
  materialStoreRef : String
  issuanceProfileRef : String
  profileRevision : Nat
  provider : Provider := .vaultKv2
deriving DecidableEq, Repr

/-- The members of a payload that are read here; `mode` is stored with them. -/
structure Payload where
  publication : Intent
  sans : List String
  mode : JobMode
deriving DecidableEq, Repr

/-- A job of `certificate_jobs` with a publication intent. -/
structure Job where
  id : Nat
  operation : JobOperation
  subjectId : Nat
  payload : Payload
  assignedAgentId : Nat
  status : JobStatus
  approvedPayloadHash : Option String := none
  claimedByAgentId : Option Nat := none
  claimId : Option Nat := none
  startedAt : Option Nat := none
  leaseExpiresAt : Option Nat := none
  leaseRenewedAt : Option Nat := none
  attemptCount : Nat := 0
  maxAttempts : Option Nat := none
deriving DecidableEq, Repr

/-- `certops_material_versions.state`. -/
inductive VersionState
  | allocated | staged | published | orphanedUnknownEffect | failed
deriving DecidableEq, Repr

/-- The states that block another publication of the group. -/
def VersionState.unresolved (state : VersionState) : Bool :=
  state = .allocated || state = .staged || state = .orphanedUnknownEffect

/-- A row of `certops_material_versions`. -/
structure Version where
  id : Nat
  managementPeriodId : Nat
  publishingJobId : Nat
  profileRevision : Nat
  state : VersionState := .allocated
  publishingClaimId : Option Nat := none
  providerVersion : Option ProviderVersion := none
  fingerprintSha256 : Option String := none
  validTo : Option Nat := none
  /-- `allocation_release_reason`, before `_before_execution`. -/
  allocationReleaseReason : Option JobStatus := none
deriving DecidableEq, Repr

/-- What the processes are configured with, and the group. -/
structure Config where
  group : Group
  computeJobPayloadApprovalHash : Payload → String
  jobLeaseMs : Nat
  jobLeaseMs_pos : 0 < jobLeaseMs

/-- The publications of the group; times are in milliseconds. -/
structure State where
  now : Nat
  jobs : List Job := []
  versions : List Version := []
  nextJobId : Nat := 0
  nextClaimId : Nat := 0
deriving DecidableEq

def State.job (s : State) (id : Nat) : Option Job := selectOne (fun j => j.id = id) s.jobs

/-! ## §2. Triggers. -/

/-- `certops_material_version_immutable` lets the update pass. -/
def Version.mayBecome (old new : Version) : Bool :=
  !(old.state = .published && decide (new ≠ old)) &&
    decide (new.id = old.id ∧ new.managementPeriodId = old.managementPeriodId ∧
      new.publishingJobId = old.publishingJobId ∧ new.profileRevision = old.profileRevision)

/-- `UPDATE certops_material_versions`. -/
def updateVersions (p : Version → Bool) (f : Version → Version) (versions : List Version) :
    Option (List Version) :=
  if versions.all fun v => !p v || v.mayBecome (f v) then some (updateWhere p f versions) else none

/-- A job that ended before it was ever claimed or started. -/
def Job.unexecuted (j : Job) : Bool :=
  (j.status = .rejected || j.status = .cancelled) && decide (j.attemptCount = 0) &&
    j.claimId.isNone && j.claimedByAgentId.isNone && j.startedAt.isNone &&
    j.leaseExpiresAt.isNone && j.leaseRenewedAt.isNone

/-- The SET list of `certops_release_unexecuted_publication`. -/
def Version.released (status : JobStatus) (v : Version) : Version :=
  { v with state := .failed, allocationReleaseReason := some status }

/-- An update of the status of a job, with `certops_release_unexecuted_publication`. -/
def State.setJob (s : State) (j : Job) : Option State :=
  let versions :=
    if j.unexecuted then
      updateVersions
        (fun v => v.publishingJobId = j.id ∧ v.state = .allocated ∧ v.publishingClaimId = none)
        (Version.released j.status) s.versions
    else some s.versions
  versions.map fun versions => { s with jobs := replaceByKey Job.id j s.jobs, versions }

/-! ## §3. Creation. -/

def CERTOPS_DISTRIBUTION_NOT_FOUND : String := "CERTOPS_DISTRIBUTION_NOT_FOUND"
def CERTOPS_MATERIAL_PROVIDER_MISMATCH : String := "CERTOPS_MATERIAL_PROVIDER_MISMATCH"
def CERTOPS_MATERIAL_ASSIGNMENT_REQUIRED : String := "CERTOPS_MATERIAL_ASSIGNMENT_REQUIRED"
def CERTOPS_PUBLICATION_INTENT_MISMATCH : String := "CERTOPS_PUBLICATION_INTENT_MISMATCH"
def CERTOPS_PUBLICATION_UNRESOLVED : String := "CERTOPS_PUBLICATION_UNRESOLVED"
/-- A second row under a primary key. -/
def UNIQUE_VIOLATION : String := "23505"

def VersionState.workable (state : VersionState) : Bool :=
  state.unresolved || state = .published

/-- `resolveDistributionJobDefaults` of a publication: the agent it is assigned to. -/
def resolveDistributionJobDefaults (group : Group) (versions : List Version)
    (operation : JobOperation) (subjectId : Nat) (intent : Intent) (assignedAgentId jobId : Option Nat) :
    Except String Nat :=
  if intent.groupId ≠ group.id then .error CERTOPS_DISTRIBUTION_NOT_FOUND
  else if intent.provider ≠ group.materialStoreProvider then .error CERTOPS_MATERIAL_PROVIDER_MISMATCH
  else if group.managedCertificateId ≠ subjectId ∨ group.materialStoreRef ≠ intent.materialStoreRef then
    .error CERTOPS_MATERIAL_ASSIGNMENT_REQUIRED
  else if (operation ≠ .issue ∧ operation ≠ .renew) ∨
      group.issuerAgentId ≠ assignedAgentId.getD group.issuerAgentId ∨
      group.managementPeriodId ≠ intent.managementPeriodId ∨
      group.issuanceProfileRef ≠ intent.issuanceProfileRef ∨
      group.profileRevision ≠ intent.profileRevision then
    .error CERTOPS_PUBLICATION_INTENT_MISMATCH
  else if jobId.any fun id => !versions.any fun v =>
      decide (v.id = intent.materialVersionId ∧ v.publishingJobId = id) && v.state.workable then
    .error CERTOPS_PUBLICATION_INTENT_MISMATCH
  else .ok (assignedAgentId.getD group.issuerAgentId)

/-- `allocateMaterialVersion`: the versions with the one of the job. -/
def allocateMaterialVersion (group : Group) (job : Job) (versions : List Version) :
    Except String (List Version) :=
  let intent := job.payload.publication
  if intent.provider ≠ group.materialStoreProvider then .error CERTOPS_MATERIAL_PROVIDER_MISMATCH
  else if group.id ≠ intent.groupId ∨ group.managementPeriodId ≠ intent.managementPeriodId ∨
      group.materialStoreRef ≠ intent.materialStoreRef ∨
      group.issuanceProfileRef ≠ intent.issuanceProfileRef ∨
      group.profileRevision ≠ intent.profileRevision ∨ group.issuerAgentId ≠ job.assignedAgentId ∨
      group.managedCertificateId ≠ job.subjectId ∨
      (job.operation ≠ .issue ∧ job.operation ≠ .renew) then
    .error CERTOPS_PUBLICATION_INTENT_MISMATCH
  else if versions.any fun v => v.state.unresolved && decide (v.publishingJobId ≠ job.id) then
    .error CERTOPS_PUBLICATION_UNRESOLVED
  -- ON CONFLICT covers the publishing job, not the primary key.
  else if versions.any fun v => v.publishingJobId = job.id then .ok versions
  else if versions.any fun v => v.id = intent.materialVersionId then .error UNIQUE_VIOLATION
  else
    .ok (versions ++
      [{ id := intent.materialVersionId, managementPeriodId := intent.managementPeriodId
         publishingJobId := job.id, profileRevision := intent.profileRevision }])

structure Request where
  operation : JobOperation
  subjectId : Nat
  payload : Payload
  assignedAgentId : Option Nat
  requiresApproval : Bool
deriving DecidableEq, Repr

/-- The row of a new job. -/
def Request.job (request : Request) (id assignedAgentId : Nat) : Job :=
  { id, operation := request.operation, subjectId := request.subjectId, payload := request.payload
    assignedAgentId
    status := if request.requiresApproval then .pendingApproval else .pending }

/-- `createCertificateJob` with a publication intent, past the checks that do not read the
    publications of the group. -/
def createCertificateJob (cfg : Config) (request : Request) (s : State) : Except String State := do
  let agentId ← resolveDistributionJobDefaults cfg.group s.versions request.operation
    request.subjectId request.payload.publication request.assignedAgentId none
  let job := request.job s.nextJobId agentId
  let versions ← allocateMaterialVersion cfg.group job s.versions
  return { s with jobs := s.jobs ++ [job], versions, nextJobId := s.nextJobId + 1 }

/-! ## §4. The life of a job. -/

/-- The rows and the intent of a job agree. -/
def State.resolves (cfg : Config) (s : State) (j : Job) : Bool :=
  (resolveDistributionJobDefaults cfg.group s.versions j.operation j.subjectId j.payload.publication
    (some j.assignedAgentId) (some j.id)).isOk

/-- The SET list of `approveJob`. -/
def Job.approve (cfg : Config) (j : Job) : Job :=
  { j with
    status := .pending
    approvedPayloadHash := some (cfg.computeJobPayloadApprovalHash j.payload) }

def approveJob (cfg : Config) (jobId : Nat) (s : State) : Option State :=
  (s.job jobId).bind fun j =>
    if j.status = .pendingApproval then s.setJob (j.approve cfg) else none

/-- Another writer ends a job: `rejectJob`, a cancellation, the fence of a forced agent
    retirement. -/
def endJob (jobId : Nat) (status : JobStatus) (s : State) : Option State :=
  (s.job jobId).bind fun j =>
    if (j.status = .pendingApproval && (status = .rejected || status = .cancelled)) ||
        (j.status = .pending && (status = .cancelled || status = .failed || status = .blocked ||
          status = .rejected)) ||
        (j.status.inFlight && (status = .cancelled || status = .orphanedUnknownEffect)) then
      s.setJob { j with status := status }
    else none

/-- What `claimJobs` selects: pending, or a claim of the same agent that ran out before
    it was renewed. -/
def Job.dispatchable (now agentId : Nat) (j : Job) : Bool :=
  j.status = .pending ||
    (j.status = .claimed && decide (j.claimedByAgentId = some agentId) &&
      j.leaseExpiresAt.any (fun t => t < now) && j.leaseRenewedAt.isNone &&
      decide (j.attemptCount < j.maxAttempts.getD 3))

def Job.approvalStale (cfg : Config) (j : Job) : Bool :=
  j.approvedPayloadHash.any fun hash => hash ≠ cfg.computeJobPayloadApprovalHash j.payload

/-- The SET list of `invalidateApproval`. -/
def Job.invalidated (j : Job) : Job :=
  { j with status := .pendingApproval, approvedPayloadHash := none }

/-- The SET list of a claim. -/
def Job.claimed (agentId claimId leaseExpiresAt : Nat) (j : Job) : Job :=
  { j with
    status := .claimed, claimedByAgentId := some agentId, claimId := some claimId
    leaseExpiresAt := some leaseExpiresAt, leaseRenewedAt := none
    attemptCount := j.attemptCount + 1 }

/-- The claim of a job; `admitted` are the checks that do not read the group. -/
def claimJob (cfg : Config) (jobId agentId : Nat) (admitted : Bool) (s : State) : Option State :=
  (s.job jobId).bind fun j =>
    if admitted && j.dispatchable s.now agentId && decide (j.assignedAgentId = agentId) &&
        s.resolves cfg j then
      if j.approvalStale cfg then s.setJob j.invalidated
      else
        (s.setJob (j.claimed agentId s.nextClaimId (s.now + cfg.jobLeaseMs))).map fun s =>
          { s with nextClaimId := s.nextClaimId + 1 }
    else none

/-- The SET list of a renewal. -/
def Job.renewed (now leaseExpiresAt : Nat) (j : Job) : Job :=
  { j with
    status := .running, startedAt := some (j.startedAt.getD now)
    leaseExpiresAt := some leaseExpiresAt, leaseRenewedAt := some now }

/-- `renewJobLease` of a material job. -/
def renewLease (cfg : Config) (jobId claimId : Nat) (admitted : Bool) (s : State) : Option State :=
  (s.job jobId).bind fun j =>
    if decide (j.claimId = some claimId) && j.status.inFlight && admitted &&
        j.leaseExpiresAt.any (fun t => s.now < t) && s.resolves cfg j then
      s.setJob (j.renewed s.now (s.now + cfg.jobLeaseMs))
    else none

structure Receipt where
  groupId : Nat
  materialVersionId : Nat
  materialStoreRef : String
  provider : Provider
  providerVersion : ProviderVersion
  fingerprintSha256 : String
  validTo : Nat
deriving DecidableEq, Repr

/-- The leaf that `parsePublicCertificateMaterial` reads from the reported chain. -/
structure Leaf where
  fingerprintSha256 : String
  notAfter : Nat
  subjectAltNames : List String
deriving DecidableEq, Repr

def Receipt.belongs (group : Group) (j : Job) (agentId : Nat) (current : Version)
    (receipt : Receipt) : Bool :=
  decide (receipt.groupId = group.id ∧ receipt.materialVersionId = current.id ∧
    receipt.materialStoreRef = group.materialStoreRef ∧ current.publishingJobId = j.id ∧
    j.claimedByAgentId = some agentId ∧ j.assignedAgentId = group.issuerAgentId ∧
    agentId = group.issuerAgentId ∧
    j.payload.publication.managementPeriodId = group.managementPeriodId ∧
    current.profileRevision = group.profileRevision ∧
    j.payload.publication.profileRevision = group.profileRevision)

def Receipt.certified (now : Nat) (sans : List String) (leaf : Leaf) (receipt : Receipt) : Bool :=
  decide (leaf.fingerprintSha256 = receipt.fingerprintSha256 ∧ leaf.notAfter = receipt.validTo ∧
    now < receipt.validTo) && leaf.subjectAltNames.isPerm sans

/-- The SET list of a publication. -/
def Version.publish (claimId : Option Nat) (receipt : Receipt) (v : Version) : Version :=
  { v with
    state := .published, publishingClaimId := claimId
    providerVersion := some receipt.providerVersion
    fingerprintSha256 := some receipt.fingerprintSha256, validTo := some receipt.validTo }

/-- `acceptPublicationReceipt`; `recorded` is that the inventory takes the certificate. -/
def acceptPublicationReceipt (cfg : Config) (j : Job) (agentId : Nat) (receipt : Receipt) (leaf : Leaf)
    (recorded : Bool) (s : State) : Option (List Version) :=
  let provider := cfg.group.materialStoreProvider
  if j.payload.publication.groupId ≠ cfg.group.id ∨ j.payload.publication.provider ≠ provider ∨
      receipt.provider ≠ provider ∨ validProviderVersion provider receipt.providerVersion = false then
    none
  else
    (selectOne (fun v => v.id = j.payload.publication.materialVersionId) s.versions).bind fun current =>
      if receipt.belongs cfg.group j agentId current && j.leaseExpiresAt.any (fun t => s.now < t) &&
          receipt.certified s.now j.payload.sans leaf then
        if current.state = .published then
          if current.fingerprintSha256 = some receipt.fingerprintSha256 ∧
              current.providerVersion = some receipt.providerVersion ∧
              current.publishingClaimId = j.claimId then
            some s.versions
          else none
        else if recorded then
          updateVersions (fun v => v.id = current.id) (Version.publish j.claimId receipt) s.versions
        else none
      else none

/-- The statuses an agent may report for a job of the mode without an enrollment. -/
def reportable (mode : JobMode) (status : JobStatus) : Bool :=
  status = .failed || status = .rejected || status = .blocked ||
    match mode with
    | .real => status = .succeeded || status = .orphanedUnknownEffect
    | .dryRun => status = .dryRunComplete

/-- The SET list of a result. -/
def Job.settled (status : JobStatus) (j : Job) : Job :=
  { j with status := status, leaseExpiresAt := none }

/-- `ingestResult` of a publication job. -/
def ingestResult (cfg : Config) (jobId agentId claimId : Nat) (jobStatus : JobStatus)
    (receipt : Receipt) (leaf : Leaf) (recorded : Bool) (s : State) : Option State :=
  (s.job jobId).bind fun j =>
    if decide (j.claimedByAgentId = some agentId ∧ j.claimId = some claimId) && j.status.inFlight &&
        reportable j.payload.mode jobStatus then
      let versions :=
        if jobStatus = .succeeded then acceptPublicationReceipt cfg j agentId receipt leaf recorded s
        else some s.versions
      versions.bind fun versions => { s with versions }.setJob (j.settled jobStatus)
    else none

/-- The SET list of the reaper: effects are possible once the lease was renewed. -/
def Job.reaped (j : Job) : Job :=
  if j.status = .running || j.leaseRenewedAt.isSome then
    { j with
      status := .orphanedUnknownEffect, claimedByAgentId := none, claimId := none
      leaseExpiresAt := none }
  else
    { j with
      status := if j.attemptCount < j.maxAttempts.getD 3 then .pending else .failed
      claimedByAgentId := none, claimId := none, leaseExpiresAt := none, leaseRenewedAt := none }

/-- The reaper over one job whose lease has run out. -/
def reap (jobId : Nat) (s : State) : Option State :=
  (s.job jobId).bind fun j =>
    if j.status.inFlight && j.leaseExpiresAt.any (fun t => t < s.now) then s.setJob j.reaped
    else none

/-- The statuses `retryDistributionJob` starts from. -/
def retryable (status : JobStatus) : Bool :=
  status = .failed || status = .blocked || status = .orphanedUnknownEffect

/-- The SET list of `retryDistributionJob`. -/
def Job.retried (status : JobStatus) (j : Job) : Job :=
  { j with
    status := status, claimId := none, claimedByAgentId := none, leaseExpiresAt := none
    leaseRenewedAt := none, startedAt := none }

/-- `retryDistributionJob` of a publication; `approvalAlways` is the policy of the
    workspace. -/
def retryDistributionJob (cfg : Config) (jobId : Nat) (approvalAlways : Bool) (s : State) :
    Option State :=
  (s.job jobId).bind fun j =>
    if !retryable j.status || decide (3 ≤ j.attemptCount) then none
    else if s.resolves cfg j = false ∨ j.approvalStale cfg = true then none
    else
      s.setJob
        (j.retried (if approvalAlways && j.approvedPayloadHash.isNone then .pendingApproval else .pending))

/-! ## §5. The system. -/

inductive Event
  | createCertificateJob (request : Request) (admitted : Bool)
  | approveJob (jobId : Nat)
  | endJob (jobId : Nat) (status : JobStatus)
  | claimJob (jobId agentId : Nat) (admitted : Bool)
  | renewLease (jobId claimId : Nat) (admitted : Bool)
  | ingestResult (jobId agentId claimId : Nat) (jobStatus : JobStatus) (receipt : Receipt) (leaf : Leaf)
      (recorded : Bool)
  | reap (jobId : Nat)
  | retryDistributionJob (jobId : Nat) (approvalAlways : Bool)
  | wait (ms : Nat)

/-- One transaction. -/
def next (cfg : Config) (s : State) : Event → Option State
  | .createCertificateJob request admitted =>
    if admitted then (createCertificateJob cfg request s).toOption else none
  | .approveJob jobId => approveJob cfg jobId s
  | .endJob jobId status => endJob jobId status s
  | .claimJob jobId agentId admitted => claimJob cfg jobId agentId admitted s
  | .renewLease jobId claimId admitted => renewLease cfg jobId claimId admitted s
  | .ingestResult jobId agentId claimId jobStatus receipt leaf recorded =>
    ingestResult cfg jobId agentId claimId jobStatus receipt leaf recorded s
  | .reap jobId => reap jobId s
  | .retryDistributionJob jobId approvalAlways => retryDistributionJob cfg jobId approvalAlways s
  | .wait ms => some { s with now := s.now + ms }

/-- A group that was never published. -/
structure Init (s : State) : Prop where
  jobs : s.jobs = []
  versions : s.versions = []

/-- The publications of a group under all interleavings. -/
def system (cfg : Config) : System State Event where
  init := Init
  step s e t := next cfg s e = some t

end TokenTimer.Publication
