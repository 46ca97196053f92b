/-
  TokenTimer.CertOps.Reaper — the writers that act without an agent: the lease
  reaper and the nonce sweep of the worker
  (`apps/worker/src/certops-worker.js`, `jobSigning.js`), and the fence of a
  forced agent retirement (`agentRegistry.js`).
-/

import TokenTimer.CertOps.Results

namespace TokenTimer.CertOps

open Lib.Table

/-! ## §1. The lease reaper. -/

/-- `computeBackoffMs`: one minute doubled per attempt, at most thirty. -/
def computeBackoffMs (attemptCount : Nat) : Nat :=
  min (30 * 60000) (60000 * 2 ^ (max 1 attemptCount - 1))

/-- `agent_alive` of the reaper's join. -/
def agentAlive (db : Db) (offlineAfterMs : Nat) (job : JobRow) : Bool :=
  db.agents.any fun a => some a.id = job.claimedByAgentId ∧ a.status = .active ∧
    db.now ≤ a.lastSeenAt.getD a.createdAt + offlineAfterMs

def pastHardGrace (now hardGraceMs : Nat) (job : JobRow) : Bool :=
  job.leaseExpiresAt.any fun t => t + hardGraceMs < now

/-- The WHERE of the reaper. -/
def leaseExpired (now : Nat) (job : JobRow) : Bool :=
  job.status.inFlight && (job.executorKind = .agent : Bool) &&
    job.leaseExpiresAt.any fun t => t < now

def sideEffectsPossible (job : JobRow) : Bool :=
  job.status = .running ∨ job.leaseRenewedAt.isSome

def hasRetryBudget (job : JobRow) : Bool :=
  !sideEffectsPossible job && (job.status = .claimed : Bool) &&
    (job.attemptCount < job.maxAttempts.getD 3 : Bool)

def setRequeued (now : Nat) (job : JobRow) : JobRow :=
  { job with
    status := .pending
    claimedByAgentId := none
    claimId := none
    leaseExpiresAt := none
    leaseRenewedAt := none
    nextAttemptAt := some (now + computeBackoffMs job.attemptCount) }

def setReaperOrphaned (now : Nat) (job : JobRow) : JobRow :=
  { job with
    status := .orphanedUnknownEffect
    errorCode := some "effects_unknown"
    errorMessage := some
      "Lease expired after renew; side effects are unknown and require manual reconciliation"
    needsOperatorReconciliation := true
    reconciliationReason := some "lease_expired_after_side_effect_window_agent_unresponsive"
    claimedByAgentId := none
    claimId := none
    leaseExpiresAt := none
    completedAt := coalesce job.completedAt now }

def setReaperFailed (alive : Bool) (now : Nat) (job : JobRow) : JobRow :=
  { job with
    status := .failed
    errorCode := some (if alive then "lease_expired" else "agent_offline")
    errorMessage := some "Agent lease expired and the job cannot be retried"
    claimedByAgentId := none
    claimId := none
    leaseExpiresAt := none
    leaseRenewedAt := none
    completedAt := coalesce job.completedAt now }

/-- The body of the reaper loop for one expired row.  `alive` was computed by the
    selection. -/
def reapRow (mgmt : JobRow → Management) (hardGraceMs : Nat) (alive : Bool) (row : JobRow)
    (db : Db) : Except ServiceError Db :=
  if alive && !pastHardGrace db.now hardGraceMs row then .ok db
  else if hasRetryBudget row then do
    let (_, db') ← updateJob mgmt row.id (setRequeued db.now) db
    .ok db'
  else if sideEffectsPossible row then do
    let (_, db') ← updateJob mgmt row.id (setReaperOrphaned db.now) db
    .ok db'
  else do
    let (_, db') ← updateJob mgmt row.id (setReaperFailed alive db.now) db
    .ok (onTrustJobTerminalTransition row.operation .failed row.workspaceId row.id db')

def reapLoop (mgmt : JobRow → Management) (hardGraceMs : Nat) :
    List (JobRow × Bool) → Db → Except ServiceError Db
  | [], db => .ok db
  | (row, alive) :: rows, db => do
    let db₁ ← reapRow mgmt hardGraceMs alive row db
    reapLoop mgmt hardGraceMs rows db₁

/-- The selection of the reaper, with `agent_alive` per row:
    `ORDER BY lease_expires_at LIMIT batchSize`. -/
def selectExpired (skipLocked : Nat → Bool) (batchSize offlineAfterMs : Nat) (db : Db) :
    List (JobRow × Bool) :=
  (((db.jobs.filter fun j => leaseExpired db.now j && !skipLocked j.id).insertionSort
    fun a b => a.leaseExpiresAt.getD 0 ≤ b.leaseExpiresAt.getD 0).take batchSize).map
      fun j => (j, agentAlive db offlineAfterMs j)

/-- `reapExpiredLeases`, with the hard grace of the shared environment. -/
def reapExpiredLeases (env : Env) (mgmt : JobRow → Management) (skipLocked : Nat → Bool)
    (batchSize offlineAfterMs : Nat) (db : Db) : Except ServiceError Db :=
  reapLoop mgmt (leaseHardGraceMs env.timing) (selectExpired skipLocked batchSize offlineAfterMs db)
    db

/-! ## §2. The nonce sweep. -/

def SWEEP_GRACE_SECONDS : Nat := 3600

def nonceSweepable (now : Nat) (n : NonceRow) : Bool :=
  n.expiresAt + SWEEP_GRACE_SECONDS * 1000 < now

/-- `sweepExpiredNonces`.  The inner `LIMIT` has no order, so which of the
    sweepable rows go is an input. -/
def sweepExpiredNonces (picked : NonceRow → Bool) (db : Db) : Db :=
  { db with nonces := deleteWhere (fun n => picked n && nonceSweepable db.now n) db.nonces }

/-! ## §3. The fence of a forced retirement. -/

/-- The rows the two UPDATEs of the fence match, by status. -/
def fenceSelect (agentRowId : Nat) (status : JobStatus) (db : Db) : List JobRow :=
  db.jobs.filter fun j => j.claimedByAgentId = some agentRowId ∧ j.status = status ∧
    j.leaseExpiresAt.any fun t => db.now < t

/-- The SET list of the first UPDATE. -/
def setFenceCancelled (reason : String) (now : Nat) (job : JobRow) : JobRow :=
  { job with
    status := .cancelled
    leaseExpiresAt := some now
    errorCode := some "CERTOPS_AGENT_FORCE_RETIRED"
    errorMessage := some reason
    completedAt := coalesce job.completedAt now
    canceledAt := coalesce job.canceledAt now }

/-- The SET list of the second UPDATE. -/
def setFenceOrphaned (reason : String) (now : Nat) (job : JobRow) : JobRow :=
  { job with
    status := .orphanedUnknownEffect
    needsOperatorReconciliation := true
    reconciliationReason := some reason
    leaseExpiresAt := some now
    errorCode := some "CERTOPS_AGENT_FORCE_RETIRED_UNKNOWN_EFFECT"
    errorMessage := some reason
    completedAt := coalesce job.completedAt now }

def fenceLoop (mgmt : JobRow → Management) (set : JobRow → JobRow) :
    List JobRow → Db → Except ServiceError Db
  | [], db => .ok db
  | row :: rows, db => do
    let (_, db₁) ← updateJob mgmt row.id set db
    fenceLoop mgmt set rows db₁

def fenceUnwind : List JobRow → Db → Db
  | [], db => db
  | row :: rows, db =>
    fenceUnwind rows
      (onTrustJobTerminalTransition row.operation .cancelled row.workspaceId row.id db)

/-- `fenceAgentInFlightWork`: claimed work is cancelled and unwound, running work
    becomes orphaned. -/
def fenceAgentInFlightWork (mgmt : JobRow → Management) (agentRowId : Nat) (reason : String)
    (db : Db) : Except ServiceError Db := do
  let cancelled := fenceSelect agentRowId .claimed db
  let db₁ ← fenceLoop mgmt (setFenceCancelled reason db.now) cancelled db
  let db₂ ← fenceLoop mgmt (setFenceOrphaned reason db.now) (fenceSelect agentRowId .running db₁) db₁
  return fenceUnwind cancelled db₂

/-- `retireAgent`, forced or not. -/
def retireAgent (mgmt : JobRow → Management) (workspaceId agentRowId : Nat) (force : Bool)
    (reason : String) (db : Db) : Except ServiceError Db := do
  let db' ← if force then fenceAgentInFlightWork mgmt agentRowId reason db else .ok db
  return { db' with agents := retireAgentRow db'.now workspaceId agentRowId db'.agents }

end TokenTimer.CertOps
