/-
  TokenTimer.Distribution.Group — the tables of one distribution group: consumer
  bindings, material versions, rollouts with their consumer snapshots, the recorded
  state of each consumer, the deploy-from-store jobs and the outbox rows of the
  rollouts (`migrations/074`, `075`, `078`).

  A version is joined with the certificate identity it was published as; the group with
  its management period.
-/

import TokenTimer.CertOps.Reaper
import TokenTimer.Lib.Runs
import TokenTimer.Lib.Table

namespace TokenTimer.Distribution

open Lib Lib.Table TokenTimer.CertOps

/-! ## §1. Vocabularies. -/

/-- `verification_policy`, and `verification_method`. -/
inductive VerificationPolicy
  | installed | served | trust
deriving DecidableEq, Repr

/-- `certops_consumer_deployments.stage`. -/
inductive Stage
  | pending | fetched | installed | bound | servedVerified | trustValidated | failed
  | orphanedUnknownEffect
deriving DecidableEq, Repr

/-- `certops_distribution_rollouts.state`. -/
inductive RolloutState
  | pending | deploying | installed | verified | degraded | paused | retired
deriving DecidableEq, Repr

def RolloutState.live (state : RolloutState) : Bool := state = .pending || state = .deploying

def activeStatus (status : JobStatus) : Bool :=
  status = .pending || status = .pendingApproval || status = .claimed || status = .running

/-! ## §2. Rows. -/

/-- What a consumer is authorized for. -/
structure Terms where
  assignedAgentId : Nat
  deploymentProfileRef : String
  profileRevision : Nat
  required : Bool
  wave : Nat
  verificationPolicy : VerificationPolicy
  freshnessSeconds : Nat
deriving DecidableEq, Repr

/-- A row of `certops_consumer_bindings`. -/
structure Binding where
  id : Nat
  terms : Terms
  authorizationRevision : Nat := 1
  active : Bool := true
deriving DecidableEq, Repr

/-- A row of `certops_material_versions`. -/
structure Version where
  id : Nat
  published : Bool
  fingerprintSha256 : String
  validTo : Nat
  /-- `lifecycle_status = 'active'` of its identity. -/
  identityActive : Bool
deriving DecidableEq, Repr

/-- A row of `certops_distribution_rollouts`. -/
structure Rollout where
  id : Nat
  materialVersionId : Nat
  generation : Nat
  maxParallel : Nat
  verificationOnly : Bool
  state : RolloutState := .pending
deriving DecidableEq, Repr

/-- A row of `certops_consumer_deployments`: a consumer as the rollout froze it. -/
structure Deployment where
  rolloutId : Nat
  bindingId : Nat
  terms : Terms
  authorizationRevision : Nat
  jobId : Option Nat := none
  stage : Stage := .pending
deriving DecidableEq, Repr

/-- A row of `certops_consumer_current_state`. -/
structure CurrentState where
  bindingId : Nat
  desiredMaterialVersionId : Nat
  desiredGeneration : Nat
  acceptedGeneration : Nat := 0
  observedMaterialVersionId : Option Nat := none
  observedValidTo : Option Nat := none
  verificationMethod : Option VerificationPolicy := none
  observedAt : Option Nat := none
deriving DecidableEq, Repr

/-- `payload.materialDeployment`. -/
structure Intent where
  bindingId : Nat
  rolloutId : Nat
  materialVersionId : Nat
  fingerprintSha256 : String
  generation : Nat
  deploymentProfileRef : String
  profileRevision : Nat
  authorizationRevision : Nat
  verificationPolicy : VerificationPolicy
  verificationOnly : Bool
deriving DecidableEq, Repr

/-- A deploy-from-store job of `certificate_jobs`. -/
structure Job where
  id : Nat
  intent : Intent
  assignedAgentId : Nat
  status : JobStatus
  claimedByAgentId : Option Nat := none
  claimId : Option Nat := none
  leaseExpiresAt : Option Nat := none
  leaseRenewedAt : Option Nat := none
  attemptCount : Nat := 0
  maxAttempts : Option Nat := none
deriving DecidableEq, Repr

/-- `certops_outbox.status`. -/
inductive OutboxStatus
  | pending | succeeded | skipped | failed
deriving DecidableEq, Repr

/-- `dedupe_key` of a `distribution_rollout_requested` event, after the rollout. -/
inductive DedupeKey
  | snapshot
  | resume (uuid : Nat)
  | result (jobId : Nat) (claimId : Option Nat)
deriving DecidableEq, Repr

/-- A `distribution_rollout_requested` row of `certops_outbox`. -/
structure OutboxRow where
  id : Nat
  rolloutId : Nat
  dedupeKey : DedupeKey
  status : OutboxStatus := .pending
  claimId : Option Nat := none
  claimedUntil : Option Nat := none
  attemptCount : Nat := 0
  maxAttempts : Nat := 5
  nextRetryAt : Nat
deriving DecidableEq, Repr

/-! ## §3. A worker that drains the outbox. -/

/-- What the handler of a row answered, or that it threw. -/
inductive Outcome
  /-- `deferred`, with `retryInMs`. -/
  | deferred (retryInMs : Nat)
  /-- `queued: false, reason: "outbox_claim_lost"`. -/
  | claimLost
  | answered (queued : Bool)
  | thrown
deriving DecidableEq, Repr

/-- A claimed row in the hand of a worker. -/
structure Drain where
  claimId : Nat
  rowId : Nat
  rolloutId : Nat
  /-- `attempt_count` as the claim returned it. -/
  attemptCount : Nat
  maxAttempts : Nat
  outcome : Option Outcome := none
deriving DecidableEq, Repr

/-! ## §4. The group. -/

/-- A deployment receipt that was made the state of its consumer. -/
structure Acceptance where
  bindingId : Nat
  jobId : Nat
  /-- When it came in, and when the agent says it looked. -/
  acceptedAt : Nat
  observedAt : Nat
deriving DecidableEq, Repr

/-- The group and everything that hangs on it; times are in milliseconds. -/
structure State where
  now : Nat
  /-- The workspace is paused, or CertOps is off. -/
  paused : Bool := false
  /-- `state = 'active'`, and its management period has not ended. -/
  groupActive : Bool := true
  generation : Nat := 0
  versions : List Version := []
  bindings : List Binding := []
  rollouts : List Rollout := []
  deployments : List Deployment := []
  current : List CurrentState := []
  jobs : List Job := []
  outbox : List OutboxRow := []
  drains : List Drain := []
  nextRolloutId : Nat := 0
  nextJobId : Nat := 0
  nextEventId : Nat := 0
  nextClaimId : Nat := 0
  /-- The receipts accepted so far. -/
  acceptances : List Acceptance := []
deriving DecidableEq

def State.rollout (s : State) (id : Nat) : Option Rollout := selectOne (fun r => r.id = id) s.rollouts

def State.binding (s : State) (id : Nat) : Option Binding := selectOne (fun b => b.id = id) s.bindings

def State.job (s : State) (id : Nat) : Option Job := selectOne (fun j => j.id = id) s.jobs

def State.version (s : State) (id : Nat) : Option Version := selectOne (fun v => v.id = id) s.versions

def State.currentOf (s : State) (bindingId : Nat) : Option CurrentState :=
  selectOne (fun c => c.bindingId = bindingId) s.current

def State.deployment (s : State) (rolloutId bindingId : Nat) : Option Deployment :=
  selectOne (fun d => d.rolloutId = rolloutId ∧ d.bindingId = bindingId) s.deployments

/-- `assertDeployableVersion`. -/
def State.deployable (s : State) (versionId : Nat) : Bool :=
  (s.version versionId).any fun v => v.published && v.identityActive && decide (s.now < v.validTo)

def failedStatus (status : JobStatus) : Bool :=
  status = .failed || status = .blocked || status = .cancelled || status = .rejected ||
    status = .orphanedUnknownEffect

/-- `done` of `advanceRollout`: the stage the policy of the consumer demands. -/
def Deployment.done (d : Deployment) : Bool :=
  match d.terms.verificationPolicy with
  | .installed => d.stage = .installed
  | .served => d.stage = .trustValidated || d.stage = .servedVerified
  | .trust => d.stage = .trustValidated

/-- The binding of a consumer is as the rollout froze it. -/
def State.authorized (s : State) (d : Deployment) : Bool :=
  (s.binding d.bindingId).any fun b =>
    b.active && decide (b.authorizationRevision = d.authorizationRevision)

/-- `job_status` of a consumer. -/
def State.jobStatus (s : State) (d : Deployment) : Option JobStatus :=
  (d.jobId.bind s.job).map (·.status)

/-- `failed` of `advanceRollout`. -/
def State.failed (s : State) (d : Deployment) : Bool :=
  (s.jobStatus d).any failedStatus || !s.authorized d

/-- `ORDER BY d.wave, d.binding_id`. -/
def Deployment.before (a b : Deployment) : Bool :=
  a.terms.wave < b.terms.wave || (a.terms.wave = b.terms.wave && a.bindingId ≤ b.bindingId)

/-- `rows` of `advanceRollout`. -/
def State.consumers (s : State) (rolloutId : Nat) : List Deployment :=
  (s.deployments.filter fun d => d.rolloutId = rolloutId ∧ (s.binding d.bindingId).isSome).insertionSort
    fun a b => a.before b

/-! ## §5. Writing rows. -/

/-- `enqueueOutboxEvent`: nothing where the key is there. -/
def State.enqueue (s : State) (rolloutId : Nat) (dedupeKey : DedupeKey) : State :=
  if s.outbox.any fun row => row.rolloutId = rolloutId ∧ row.dedupeKey = dedupeKey then s
  else
    { s with
      outbox := s.outbox ++ [{ id := s.nextEventId, rolloutId, dedupeKey, nextRetryAt := s.now }]
      nextEventId := s.nextEventId + 1 }

def State.setRollout (s : State) (id : Nat) (state : RolloutState) : State :=
  { s with
    rollouts := updateWhere (fun r => r.id = id) (fun r => { r with state := state }) s.rollouts }

def State.setJob (s : State) (id : Nat) (f : Job → Job) : State :=
  { s with jobs := updateWhere (fun j => j.id = id) f s.jobs }

def State.setStage (s : State) (p : Deployment → Bool) (stage : Stage) : State :=
  { s with deployments := updateWhere p (fun d => { d with stage := stage }) s.deployments }

def State.setOutbox (s : State) (p : OutboxRow → Bool) (f : OutboxRow → OutboxRow) : State :=
  { s with outbox := updateWhere p f s.outbox }

end TokenTimer.Distribution
