/-
  TokenTimer.Distribution.Rollouts — the operations on a distribution group, each one
  transaction under the lock of the group, and the system of all their interleavings
  (`distributionOperations.js`, `materialDistribution.js`, the claim, lease and result
  transactions of `agentDispatch.js`, the outbox drain and the reaper of
  `certops-worker.js`).

  `assertManualRolloutAuthority` answers from rows outside the group, so its verdict is
  an input; so are the eligibility checks of a claim, which only refuse.
-/

import TokenTimer.Distribution.Group

namespace TokenTimer.Distribution

open Lib.Runs Lib.Table TokenTimer.CertOps

structure Config where
  /-- `certops_agents.platform = 'win32'`. -/
  win32 : Nat → Bool
  jobLeaseMs : Nat

/-! ## §1. Bindings and snapshots. -/

/-- A deployment of the binding that must be reconciled before it can move. -/
def State.unreconciled (s : State) (bindingId : Nat) : Bool :=
  s.deployments.any fun d => decide (d.bindingId = bindingId) &&
    ((s.jobStatus d).any (fun status => status = .claimed || status = .running ||
      status = .orphanedUnknownEffect) || d.stage = .orphanedUnknownEffect)

def putBinding (cfg : Config) (bindingId : Nat) (terms : Terms) (active : Bool) (s : State) :
    Option State :=
  if s.paused || !s.groupActive then none
  else
    match s.binding bindingId with
    | some old =>
      if decide (old.terms.assignedAgentId ≠ terms.assignedAgentId) && s.unreconciled bindingId then
        none
      else if terms.verificationPolicy = .installed ∧ cfg.win32 terms.assignedAgentId then none
      else if old.terms = terms ∧ old.active = active then some s
      else
        some { s with
          bindings :=
            updateWhere (fun b => b.id = bindingId)
              (fun b => { b with terms, active, authorizationRevision := b.authorizationRevision + 1 })
              s.bindings }
    | none =>
      if terms.verificationPolicy = .installed ∧ cfg.win32 terms.assignedAgentId then none
      else some { s with bindings := s.bindings ++ [{ id := bindingId, terms, active }] }

/-- A consumer, frozen. -/
def Binding.snapshot (rolloutId : Nat) (b : Binding) : Deployment :=
  { rolloutId, bindingId := b.id, terms := b.terms, authorizationRevision := b.authorizationRevision }

/-- The SET list of the upsert. -/
def CurrentState.want (versionId generation : Nat) (c : CurrentState) : CurrentState :=
  { c with desiredMaterialVersionId := versionId, desiredGeneration := generation }

/-- The upsert of `certops_consumer_current_state`. -/
def setDesired (versionId generation : Nat) (current : List CurrentState) (bindingId : Nat) :
    List CurrentState :=
  if current.any fun c => c.bindingId = bindingId then
    updateWhere (fun c => c.bindingId = bindingId) (CurrentState.want versionId generation) current
  else
    current ++ [{ bindingId, desiredMaterialVersionId := versionId, desiredGeneration := generation }]

def State.activeBindings (s : State) : List Binding := s.bindings.filter fun b => b.active

/-- The rows of a snapshot, before its event. -/
def State.withSnapshot (s : State) (versionId maxParallel : Nat) (verificationOnly : Bool) : State :=
  { s with
    rollouts := s.rollouts ++
      [{ id := s.nextRolloutId, materialVersionId := versionId, generation := s.generation + 1
         maxParallel, verificationOnly }]
    deployments := s.deployments ++ s.activeBindings.map (Binding.snapshot s.nextRolloutId)
    current := (s.activeBindings.map (·.id)).foldl (setDesired versionId (s.generation + 1)) s.current
    generation := s.generation + 1
    nextRolloutId := s.nextRolloutId + 1 }

/-- `createRolloutSnapshot`; `approved` is what its checks of the approval come to. -/
def createRolloutSnapshot (versionId maxParallel : Nat) (verificationOnly approved : Bool)
    (s : State) : Option State :=
  if s.paused || !s.groupActive || !approved || !s.deployable versionId then none
  else if s.activeBindings.isEmpty || decide (1000 < s.activeBindings.length) ||
      decide (maxParallel < 1) || decide (16 < maxParallel) then none
  else some ((s.withSnapshot versionId maxParallel verificationOnly).enqueue s.nextRolloutId .snapshot)

def setRolloutState (rolloutId : Nat) (state : RolloutState) (authority : Bool) (s : State) :
    Option State :=
  match s.rollout rolloutId with
  | none => none
  | some r =>
    if r.state = .retired then none
    else
      match state with
      | .paused | .retired => some (s.setRollout rolloutId state)
      | .deploying =>
        if s.paused || !s.groupActive || !authority then none
        else some ((s.setRollout rolloutId .deploying).enqueue rolloutId (.resume s.nextEventId))
      | _ => none

/-! ## §2. `advanceRollout`. -/

/-- `createCertificateJob` under the key `distribution:<rollout>:<binding>`. -/
def State.createJob (s : State) (intent : Intent) (assignedAgentId : Nat) (status : JobStatus) :
    State × Nat :=
  match selectOne (fun j => j.intent.rolloutId = intent.rolloutId ∧
      j.intent.bindingId = intent.bindingId) s.jobs with
  | some j => (s, j.id)
  | none =>
    ({ s with
        jobs := s.jobs ++ [{ id := s.nextJobId, intent, assignedAgentId, status }]
        nextJobId := s.nextJobId + 1 }, s.nextJobId)

def Deployment.intent (r : Rollout) (fingerprintSha256 : String) (d : Deployment) : Intent :=
  { bindingId := d.bindingId, rolloutId := r.id, materialVersionId := r.materialVersionId
    fingerprintSha256, generation := r.generation
    deploymentProfileRef := d.terms.deploymentProfileRef, profileRevision := d.terms.profileRevision
    authorizationRevision := d.authorizationRevision
    verificationPolicy := d.terms.verificationPolicy, verificationOnly := r.verificationOnly }

/-- A turn of the loop that creates jobs. -/
def State.startJob (r : Rollout) (fingerprintSha256 : String) (status : JobStatus) (s : State)
    (d : Deployment) : State :=
  let created := s.createJob (d.intent r fingerprintSha256) d.terms.assignedAgentId status
  { created.1 with
    deployments :=
      updateWhere (fun e => e.rolloutId = r.id ∧ e.bindingId = d.bindingId ∧ e.jobId = none)
        (fun e => { e with jobId := some created.2 }) created.1.deployments }

/-- `Math.min(...)` of the waves. -/
def minWave (ds : List Deployment) : Nat := ((ds.map (·.terms.wave)).min?).getD 0

def State.outstanding (s : State) (rolloutId : Nat) : List Deployment :=
  (s.consumers rolloutId).filter fun d => !d.done && !s.failed d

/-- The consumers whose jobs are created. -/
def State.toStart (s : State) (r : Rollout) : List Deployment :=
  let outstanding := s.outstanding r.id
  let active := (outstanding.filter fun d => d.jobId.isSome).length
  (outstanding.filter fun d => d.terms.wave = minWave outstanding ∧ d.jobId = none).take
    (r.maxParallel - active)

/-- The loop that creates jobs. -/
def State.startJobs (s : State) (r : Rollout) (fingerprintSha256 : String) (status : JobStatus) :
    State :=
  (s.toStart r).foldl (State.startJob r fingerprintSha256 status) s

/-- The state of a rollout without outstanding consumers. -/
def State.finalState (s : State) (rolloutId : Nat) : RolloutState :=
  let rows := s.consumers rolloutId
  if rows.isEmpty || !rows.all (fun d => d.done && !s.failed d) then .degraded
  else if rows.any fun d => d.terms.verificationPolicy = .installed then .installed
  else .verified

/-- `advanceRollout` past the lock of the workspace; `status` is the one a new job
    gets. -/
def advanceRollout (authority : Bool) (status : JobStatus) (rolloutId : Nat) (s : State) :
    State × Outcome :=
  match s.rollout rolloutId with
  | none => (s, .answered false)
  | some r =>
    if r.state = .retired ∨ r.state = .installed ∨ r.state = .verified then (s, .answered false)
    else if s.groupActive = false ∨ s.generation ≠ r.generation ∨
        s.deployable r.materialVersionId = false then
      (s.setRollout rolloutId .retired, .answered false)
    else if authority = false then (s.setRollout rolloutId .paused, .answered false)
    else if r.state = .paused then (s, .answered false)
    else if (s.consumers rolloutId).any fun d => d.terms.required && s.failed d then
      (s.setRollout rolloutId .paused, .answered false)
    else if (s.outstanding rolloutId).isEmpty then
      (s.setRollout rolloutId (s.finalState rolloutId), .answered true)
    else
      let fingerprint := ((s.version r.materialVersionId).map (·.fingerprintSha256)).getD ""
      ((s.startJobs r fingerprint status).setRollout rolloutId .deploying, .deferred 15000)

/-! ## §3. Jobs. -/

/-- The rows that `resolveDistributionJobDefaults` joins agree with the intent. -/
def State.intentCurrent (s : State) (j : Job) (agentId : Nat) : Bool :=
  s.groupActive && s.deployable j.intent.materialVersionId &&
  (s.deployment j.intent.rolloutId j.intent.bindingId).any fun d =>
    (s.rollout d.rolloutId).any fun r => (s.binding d.bindingId).any fun b =>
      (s.currentOf d.bindingId).any fun c => (s.version r.materialVersionId).any fun v =>
        decide (d.jobId = some j.id ∧ d.terms.assignedAgentId = agentId ∧
          j.intent.verificationOnly = r.verificationOnly ∧ b.active = true ∧
          r.state.live = true ∧ b.authorizationRevision = j.intent.authorizationRevision ∧
          r.generation = j.intent.generation ∧ c.desiredGeneration = j.intent.generation ∧
          r.materialVersionId = j.intent.materialVersionId ∧
          v.fingerprintSha256 = j.intent.fingerprintSha256 ∧
          d.terms.deploymentProfileRef = j.intent.deploymentProfileRef ∧
          d.terms.profileRevision = j.intent.profileRevision ∧
          d.terms.verificationPolicy = j.intent.verificationPolicy)

/-- What `claimJobs` selects: pending, or a claim of the same agent that ran out before
    it was renewed. -/
def Job.dispatchable (now agentId : Nat) (j : Job) : Bool :=
  j.status = .pending ||
    (j.status = .claimed && decide (j.claimedByAgentId = some agentId) &&
      j.leaseExpiresAt.any (fun t => t < now) && j.leaseRenewedAt.isNone &&
      decide (j.attemptCount < j.maxAttempts.getD 3))

/-- The SET list of a claim. -/
def Job.claimed (agentId claimId leaseExpiresAt : Nat) (j : Job) : Job :=
  { j with
    status := .claimed, claimedByAgentId := some agentId, claimId := some claimId
    leaseExpiresAt := some leaseExpiresAt, leaseRenewedAt := none
    attemptCount := j.attemptCount + 1 }

def claimJob (cfg : Config) (jobId agentId : Nat) (authority : Bool) (s : State) : Option State :=
  (s.job jobId).bind fun j =>
    if !s.paused && authority && j.dispatchable s.now agentId &&
        decide (j.assignedAgentId = agentId) && s.intentCurrent j agentId then
      some { s.setJob jobId (Job.claimed agentId s.nextClaimId (s.now + cfg.jobLeaseMs)) with
        nextClaimId := s.nextClaimId + 1 }
    else none

/-- The SET list of a renewal. -/
def Job.renewed (now leaseExpiresAt : Nat) (j : Job) : Job :=
  { j with
    status := .running, leaseExpiresAt := some leaseExpiresAt, leaseRenewedAt := some now }

/-- `renewJobLease` of a material job. -/
def renewLease (cfg : Config) (jobId claimId : Nat) (authority : Bool) (s : State) : Option State :=
  (s.job jobId).bind fun j =>
    if decide (j.claimId = some claimId) && j.status.inFlight && authority &&
        j.leaseExpiresAt.any (fun t => s.now < t) && s.intentCurrent j j.assignedAgentId then
      some (s.setJob jobId (Job.renewed s.now (s.now + cfg.jobLeaseMs)))
    else none

structure Receipt where
  bindingId : Nat
  materialVersionId : Nat
  generation : Nat
  fingerprintSha256 : String
  validTo : Nat
  fetched : Bool
  installed : Bool
  bound : Bool
  servedVerified : Bool
  trustValidated : Bool
  observedAt : Nat
deriving DecidableEq, Repr

/-- `stage` of `acceptDeploymentReceipt`. -/
def Receipt.stage (receipt : Receipt) (jobStatus : JobStatus) : Stage :=
  if jobStatus = .orphanedUnknownEffect then .orphanedUnknownEffect
  else if jobStatus = .failed then .failed
  else if receipt.trustValidated then .trustValidated
  else if receipt.servedVerified then .servedVerified
  else if receipt.bound then .bound
  else if receipt.installed then .installed
  else .fetched

/-- Each reported stage includes the one before it. -/
def Receipt.ordered (receipt : Receipt) : Bool :=
  (!receipt.trustValidated || receipt.servedVerified) && (!receipt.servedVerified || receipt.bound) &&
    (!receipt.bound || receipt.installed) && (!receipt.installed || receipt.fetched)

def Receipt.assurance (receipt : Receipt) (policy : VerificationPolicy) : Bool :=
  match policy with
  | .installed => receipt.installed
  | .served => receipt.servedVerified
  | .trust => receipt.servedVerified && receipt.trustValidated

/-- What a files-only policy must not report. -/
def Receipt.overclaims (receipt : Receipt) (policy : VerificationPolicy) : Bool :=
  policy = .installed && (receipt.bound || receipt.servedVerified || receipt.trustValidated)

/-- `verification_method` of an accepted receipt. -/
def Receipt.method (receipt : Receipt) (policy : VerificationPolicy) : VerificationPolicy :=
  if policy = .installed then .installed else if receipt.trustValidated then .trust else .served

def RECEIPT_SKEW_MS : Nat := 30000

/-- `age` is neither too young nor too old. -/
def Receipt.fresh (receipt : Receipt) (now freshnessSeconds : Nat) : Bool :=
  receipt.observedAt ≤ now + RECEIPT_SKEW_MS && now ≤ receipt.observedAt + freshnessSeconds * 1000

/-- The rows that `acceptDeploymentReceipt` joins. -/
structure Joined where
  deployment : Deployment
  rollout : Rollout
  binding : Binding
  current : CurrentState
  version : Version

def State.joined (s : State) (intent : Intent) : Option Joined := do
  let deployment ← s.deployment intent.rolloutId intent.bindingId
  let rollout ← s.rollout deployment.rolloutId
  let binding ← s.binding deployment.bindingId
  let current ← s.currentOf deployment.bindingId
  let version ← s.version rollout.materialVersionId
  return { deployment, rollout, binding, current, version }

/-- The receipt, the job and the rows belong together, and the receipt is admissible. -/
def Receipt.admissible (cfg : Config) (now : Nat) (j : Job) (row : Joined) (receipt : Receipt)
    (jobStatus : JobStatus) : Bool :=
  let d := row.deployment
  decide (d.jobId = some j.id ∧ j.claimedByAgentId = some d.terms.assignedAgentId ∧
    receipt.bindingId = d.bindingId ∧ receipt.materialVersionId = row.rollout.materialVersionId ∧
    j.intent.verificationPolicy = d.terms.verificationPolicy ∧
    j.intent.authorizationRevision = d.authorizationRevision ∧
    j.intent.deploymentProfileRef = d.terms.deploymentProfileRef ∧
    j.intent.profileRevision = d.terms.profileRevision ∧
    receipt.generation = row.rollout.generation ∧
    receipt.fingerprintSha256 = row.version.fingerprintSha256 ∧
    receipt.validTo = row.version.validTo) &&
  receipt.ordered &&
  !(d.terms.verificationPolicy = .installed && cfg.win32 d.terms.assignedAgentId) &&
  !receipt.overclaims d.terms.verificationPolicy &&
  (jobStatus ≠ .succeeded || receipt.assurance d.terms.verificationPolicy) &&
  j.leaseExpiresAt.any (fun t => now < t) &&
  receipt.fresh now d.terms.freshnessSeconds

/-- `current` of `acceptDeploymentReceipt`. -/
def Receipt.promotes (row : Joined) (receipt : Receipt) (jobStatus : JobStatus)
    (identityActive : Bool) : Bool :=
  identityActive && row.binding.active &&
    decide (row.binding.authorizationRevision = row.deployment.authorizationRevision ∧
      row.current.desiredGeneration = receipt.generation ∧
      row.current.desiredMaterialVersionId = receipt.materialVersionId) &&
    row.rollout.state.live && jobStatus = .succeeded &&
    receipt.assurance row.deployment.terms.verificationPolicy

/-- The UPDATE of `certops_consumer_current_state`. -/
def CurrentState.accept (policy : VerificationPolicy) (receipt : Receipt) (c : CurrentState) :
    CurrentState :=
  { c with
    acceptedGeneration := receipt.generation
    observedMaterialVersionId := some receipt.materialVersionId
    observedValidTo := some receipt.validTo
    verificationMethod := some (receipt.method policy)
    observedAt := some receipt.observedAt }

/-- The UPDATE of `certops_consumer_deployments`. -/
def State.staged (s : State) (j : Job) (stage : Stage) : State :=
  s.setStage (fun e => e.rolloutId = j.intent.rolloutId ∧ e.bindingId = j.intent.bindingId) stage

def State.promoted (s : State) (j : Job) (row : Joined) (receipt : Receipt) : State :=
  { s with
    current :=
      updateWhere
        (fun c => c.bindingId = row.deployment.bindingId ∧ c.acceptedGeneration ≤ receipt.generation)
        (CurrentState.accept row.deployment.terms.verificationPolicy receipt) s.current
    acceptances := s.acceptances ++
      [{ bindingId := row.deployment.bindingId, jobId := j.id, acceptedAt := s.now
         observedAt := receipt.observedAt }] }

/-- `acceptDeploymentReceipt`; `fenceBusy` is a retirement of the identity under way. -/
def acceptDeploymentReceipt (cfg : Config) (fenceBusy : Bool) (j : Job) (receipt : Receipt)
    (jobStatus : JobStatus) (s : State) : Option State :=
  (s.joined j.intent).bind fun row =>
    if receipt.admissible cfg s.now j row jobStatus then
      let staged := s.staged j (receipt.stage jobStatus)
      let recorded :=
        if receipt.promotes row jobStatus (!fenceBusy && row.version.identityActive) then
          staged.promoted j row receipt
        else staged
      some (recorded.enqueue j.intent.rolloutId (.result j.id j.claimId))
    else none

/-- The SET list of a result. -/
def Job.settled (status : JobStatus) (j : Job) : Job :=
  { j with status := status, leaseExpiresAt := none }

/-- `ingestResult` of a deploy-from-store job. -/
def ingestResult (cfg : Config) (jobId claimId : Nat) (jobStatus : JobStatus)
    (receipt : Option Receipt) (fenceBusy : Bool) (s : State) : Option State :=
  (s.job jobId).bind fun j =>
    if decide (j.claimId = some claimId) && j.status.inFlight &&
        (jobStatus = .succeeded || failedStatus jobStatus && jobStatus ≠ .cancelled) then
      let settled : Option State :=
        match receipt with
        | some receipt => acceptDeploymentReceipt cfg fenceBusy j receipt jobStatus s
        | none =>
          if jobStatus = .succeeded then none
          else
            some <| (s.setStage (fun d => d.jobId = some jobId)
              (if jobStatus = .orphanedUnknownEffect then .orphanedUnknownEffect else .failed)).enqueue
              j.intent.rolloutId (.result jobId j.claimId)
      settled.map fun s => s.setJob jobId (Job.settled jobStatus)
    else none

/-- The SET list of the reaper: effects are possible once the lease was renewed. -/
def Job.reaped (j : Job) : Job :=
  if j.status = .running || j.leaseRenewedAt.isSome then
    { j with
      status := .orphanedUnknownEffect, claimedByAgentId := none, claimId := none
      leaseExpiresAt := none }
  else
    { j with
      status := if j.attemptCount < j.maxAttempts.getD 3 then .pending else .failed
      claimedByAgentId := none, claimId := none, leaseExpiresAt := none, leaseRenewedAt := none }

/-- The reaper over one job whose lease has run out. -/
def reap (jobId : Nat) (s : State) : Option State :=
  (s.job jobId).bind fun j =>
    if j.status.inFlight && j.leaseExpiresAt.any (fun t => t < s.now) then
      some (s.setJob jobId Job.reaped)
    else none

/-- Another writer moves a job: an approval or a rejection, a cancellation, the fence of
    a forced agent retirement. -/
def moveJob (jobId : Nat) (status : JobStatus) (s : State) : Option State :=
  (s.job jobId).bind fun j =>
    if (j.status = .pendingApproval && status = .pending) ||
        (activeStatus j.status && failedStatus status) then
      some (s.setJob jobId fun j => { j with status := status })
    else none

/-- The SET list of a retry. -/
def Job.requeued (toApproval : Bool) (j : Job) : Job :=
  { j with
    status := if toApproval then .pendingApproval else .pending
    claimId := none, claimedByAgentId := none, leaseExpiresAt := none, leaseRenewedAt := none }

/-- What `retryDistributionJob` reads of a deployment. -/
def State.retryCurrent (s : State) (j : Job) (d : Deployment) (r : Rollout) : Bool :=
  (s.binding d.bindingId).any fun b => (s.currentOf d.bindingId).any fun c =>
    decide (b.active = true ∧ b.authorizationRevision = d.authorizationRevision ∧
      d.terms.assignedAgentId = b.terms.assignedAgentId ∧
      d.terms.assignedAgentId = j.assignedAgentId ∧
      (r.state.live = true ∨ r.state = .paused ∨
        (r.state = .degraded ∧ r.verificationOnly = false)) ∧
      r.generation = s.generation ∧ r.generation = c.desiredGeneration ∧
      r.materialVersionId = j.intent.materialVersionId ∧
      c.desiredMaterialVersionId = j.intent.materialVersionId)

/-- `retryDistributionJob` of a deployment. -/
def retryDistributionJob (jobId : Nat) (authority toApproval : Bool) (s : State) : Option State :=
  if s.paused || !s.groupActive then none
  else
    (s.job jobId).bind fun j =>
      (selectOne (fun d => d.jobId = some jobId) s.deployments).bind fun d =>
        (s.rollout d.rolloutId).bind fun r =>
          if (j.status = .failed || j.status = .blocked || j.status = .orphanedUnknownEffect) &&
              decide (j.attemptCount < 3) && s.retryCurrent j d r &&
              s.deployable j.intent.materialVersionId && authority then
            let resumed := if r.state = .degraded then s.setRollout r.id .paused else s
            some <| (resumed.setJob jobId (Job.requeued toApproval)).setStage
              (fun d => d.jobId = some jobId ∧ d.stage ≠ .orphanedUnknownEffect) .pending
          else none

/-- The deployment of a consumer that proves what its binding is recorded with. -/
def State.proves (s : State) (b : Binding) (c : CurrentState) (d : Deployment) : Bool :=
  (s.rollout d.rolloutId).any fun r => (s.version r.materialVersionId).any fun v =>
    decide (d.bindingId = b.id ∧ r.generation = c.acceptedGeneration ∧
      d.authorizationRevision = b.authorizationRevision ∧ v.identityActive = true ∧
      s.groupActive = true ∧ c.observedMaterialVersionId = some v.id ∧
      d.terms.verificationPolicy = b.terms.verificationPolicy) &&
    match b.terms.verificationPolicy with
    | .installed => d.stage = .installed && c.verificationMethod = some .installed
    | .served =>
      (d.stage = .servedVerified || d.stage = .trustValidated) &&
        (c.verificationMethod = some .served || c.verificationMethod = some .trust)
    | .trust => d.stage = .trustValidated && c.verificationMethod = some .trust

/-- `converged` of `consumerMatrix`. -/
def State.converged (cfg : Config) (s : State) (b : Binding) : Bool :=
  (s.currentOf b.id).any fun c =>
    decide (c.acceptedGeneration = c.desiredGeneration ∧
      c.observedMaterialVersionId = some c.desiredMaterialVersionId) &&
    c.observedValidTo.any (fun t => s.now < t) && b.active &&
    (b.terms.verificationPolicy ≠ .installed || !cfg.win32 b.terms.assignedAgentId) &&
    s.deployments.any (s.proves b c) &&
    c.observedAt.any fun t => s.now < t + b.terms.freshnessSeconds * 1000

/-! ## §4. The drain. -/

def OUTBOX_LEASE_MS : Nat := 60000

def State.event (s : State) (id : Nat) : Option OutboxRow := selectOne (fun row => row.id = id) s.outbox

def OutboxRow.claimed (claimId now : Nat) (row : OutboxRow) : OutboxRow :=
  { row with
    claimId := some claimId, claimedUntil := some (now + OUTBOX_LEASE_MS)
    attemptCount := row.attemptCount + 1 }

def OutboxRow.drain (row : OutboxRow) (claimId : Nat) : Drain :=
  { claimId, rowId := row.id, rolloutId := row.rolloutId, attemptCount := row.attemptCount + 1
    maxAttempts := row.maxAttempts }

def claimEvent (rowId : Nat) (s : State) : Option State :=
  (s.event rowId).bind fun row =>
    if row.status = .pending ∧ row.nextRetryAt ≤ s.now ∧ row.claimedUntil.all (· < s.now) then
      some { s.setOutbox (fun row => row.id = rowId) (OutboxRow.claimed s.nextClaimId s.now) with
        drains := s.drains ++ [row.drain s.nextClaimId]
        nextClaimId := s.nextClaimId + 1 }
    else none

def State.drain (s : State) (claimId : Nat) : Option Drain :=
  selectOne (fun d => d.claimId = claimId) s.drains

def State.answer (s : State) (claimId : Nat) (outcome : Outcome) : State :=
  { s with
    drains :=
      updateWhere (fun d => d.claimId = claimId) (fun d => { d with outcome := some outcome }) s.drains }

/-- The claim is still held: `claim_id = $2 AND claimed_until > clock_timestamp()`. -/
def State.holds (s : State) (d : Drain) : Bool :=
  (s.event d.rowId).any fun row =>
    decide (row.claimId = some d.claimId) && row.claimedUntil.any fun t => s.now < t

/-- `handleDistributionIntent`. -/
def handleEvent (claimId : Nat) (throws authority : Bool) (status : JobStatus) (s : State) :
    Option State :=
  (s.drain claimId).bind fun d =>
    if d.outcome ≠ none then none
    else if !s.holds d then some (s.answer claimId .claimLost)
    else if s.paused || throws then some (s.answer claimId .thrown)
    else
      let advanced := advanceRollout authority status d.rolloutId s
      some (advanced.1.answer claimId advanced.2)

/-- The write after the handler, of a row that carries the claim. -/
def OutboxRow.finish (now : Nat) (d : Drain) (row : OutboxRow) : Outcome → OutboxRow
  | .deferred retryInMs =>
    { row with
      claimId := none, claimedUntil := none, attemptCount := row.attemptCount - 1
      nextRetryAt := now + retryInMs }
  | .claimLost => { row with status := .skipped, claimId := none, claimedUntil := none }
  | .answered queued =>
    { row with
      status := if queued then .succeeded else .skipped, claimId := none, claimedUntil := none }
  | .thrown =>
    { row with
      status := if d.maxAttempts ≤ d.attemptCount then .failed else .pending
      nextRetryAt := now + computeBackoffMs d.attemptCount, claimId := none, claimedUntil := none }

/-- `WHERE id = $3 AND claim_id = $4`. -/
def Drain.owns (d : Drain) (row : OutboxRow) : Bool :=
  row.id = d.rowId && row.claimId = some d.claimId

def finishEvent (claimId : Nat) (s : State) : Option State :=
  (s.drain claimId).bind fun d =>
    d.outcome.map fun outcome =>
      { s.setOutbox d.owns (fun row => row.finish s.now d outcome) with
        drains := deleteWhere (fun e => e = d) s.drains }

/-- `resetOutboxEventForRetry`. -/
def resetEvent (rowId : Nat) (s : State) : State :=
  s.setOutbox (fun row => row.id = rowId ∧ row.status = .failed) fun row =>
    { row with
      status := .pending, attemptCount := 0, nextRetryAt := s.now, claimId := none
      claimedUntil := none }

/-! ## §5. The system. -/

inductive Event
  | wait (ms : Nat)
  | setPaused (paused : Bool)
  /-- The group or its management period ends. -/
  | endGroup
  | publish (version : Version)
  /-- The identity of a version is retired. -/
  | retireVersion (versionId : Nat)
  | putBinding (bindingId : Nat) (terms : Terms) (active : Bool)
  | createSnapshot (versionId maxParallel : Nat) (verificationOnly approved : Bool)
  | setRolloutState (rolloutId : Nat) (state : RolloutState) (authority : Bool)
  | claimJob (jobId agentId : Nat) (authority : Bool)
  | renewLease (jobId claimId : Nat) (authority : Bool)
  | result (jobId claimId : Nat) (jobStatus : JobStatus) (receipt : Option Receipt)
      (fenceBusy : Bool)
  | reap (jobId : Nat)
  | moveJob (jobId : Nat) (status : JobStatus)
  | retryJob (jobId : Nat) (authority toApproval : Bool)
  | claimEvent (rowId : Nat)
  | handleEvent (claimId : Nat) (throws authority : Bool) (toApproval : Bool)
  | finishEvent (claimId : Nat)
  /-- The worker dies. -/
  | dropEvent (claimId : Nat)
  | resetEvent (rowId : Nat)

def newStatus (toApproval : Bool) : JobStatus := if toApproval then .pendingApproval else .pending

/-- A step. -/
def next (cfg : Config) (s : State) : Event → Option State
  | .wait ms => some { s with now := s.now + ms }
  | .setPaused paused => some { s with paused := paused }
  | .endGroup => some { s with groupActive := false }
  | .publish version =>
    if (s.version version.id).isNone then some { s with versions := s.versions ++ [version] } else none
  | .retireVersion versionId =>
    some { s with
      versions :=
        updateWhere (fun v => v.id = versionId) (fun v => { v with identityActive := false }) s.versions }
  | .putBinding bindingId terms active => putBinding cfg bindingId terms active s
  | .createSnapshot versionId maxParallel verificationOnly approved =>
    createRolloutSnapshot versionId maxParallel verificationOnly approved s
  | .setRolloutState rolloutId state authority => setRolloutState rolloutId state authority s
  | .claimJob jobId agentId authority => claimJob cfg jobId agentId authority s
  | .renewLease jobId claimId authority => renewLease cfg jobId claimId authority s
  | .result jobId claimId jobStatus receipt fenceBusy =>
    ingestResult cfg jobId claimId jobStatus receipt fenceBusy s
  | .reap jobId => reap jobId s
  | .moveJob jobId status => moveJob jobId status s
  | .retryJob jobId authority toApproval => retryDistributionJob jobId authority toApproval s
  | .claimEvent rowId => claimEvent rowId s
  | .handleEvent claimId throws authority toApproval =>
    handleEvent claimId throws authority (newStatus toApproval) s
  | .finishEvent claimId => finishEvent claimId s
  | .dropEvent claimId => some { s with drains := deleteWhere (fun d => d.claimId = claimId) s.drains }
  | .resetEvent rowId => some (resetEvent rowId s)

/-- A group without rollouts. -/
structure Init (s : State) : Prop where
  rollouts : s.rollouts = []
  deployments : s.deployments = []
  current : s.current = []
  jobs : s.jobs = []
  outbox : s.outbox = []
  drains : s.drains = []
  acceptances : s.acceptances = []
  bindings : (s.bindings.map (·.id)).Nodup
  versions : (s.versions.map (·.id)).Nodup

def system (cfg : Config) : System State Event where
  init := Init
  step s e t := next cfg s e = some t

end TokenTimer.Distribution
