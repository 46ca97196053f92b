/-
  TokenTimer.CertOps.TrustLifecycle — what happens to an installation row after
  its job was created (`apps/api/services/certops/trustAnchors.js`).

    * `unwindTerminalTrustJob` — the job ended without an effect.
    * `revalidateTrustJobForDispatch` — the job is about to be handed out.
    * `ingestTrustJobResult` — the agent reports what it did.
    * `sweepOverdueTrustInstallations` — the reconciliation sweep of the worker.

  All four find the row through `last_job_id`.
-/

import TokenTimer.CertOps.TrustAnchors

namespace TokenTimer.CertOps

open Lib.Table

/-! ## §1. Unwinding. -/

/-- `TRUST_JOB_TERMINAL_NEGATIVE_STATUSES`. -/
def trustJobTerminalNegative (status : JobStatus) : Bool :=
  status = .rejected ∨ status = .cancelled ∨ status = .failed ∨ status = .blocked

/-- The action of `unwindTerminalTrustJob`. -/
inductive UnwindOutcome
  | deleted (installationId : Nat)
  | revertedToInstalled (installationId : Nat)
deriving DecidableEq, Repr

/-- The SET list of the revert. -/
def InstallationRow.reverted (status : JobStatus) (r : InstallationRow) : InstallationRow :=
  { r with
    transitionState := .installed
    lastError := some ("terminal_" ++ status.text) }

def unwindInstallation (status : JobStatus) (row : InstallationRow) (db : Db) :
    Option UnwindOutcome × Db :=
  match row.transitionState with
  | .pendingInstall =>
    -- Never a real reference; delete outright.
    (some (.deleted row.id),
      { db with installations := deleteWhere (fun r => r.id = row.id) db.installations })
  | .pendingRemove =>
    -- The anchor was never actually removed; the reference is still real.
    (some (.revertedToInstalled row.id),
      updateInstallation row.id (InstallationRow.reverted status) db)
  | .installed | .removed => (none, db)

/-- `unwindTerminalTrustJob`, for a job that just reached `status`. -/
def unwindTerminalTrustJob (operation : JobOperation) (status : JobStatus)
    (workspaceId jobId : Nat) (db : Db) : Option UnwindOutcome × Db :=
  if !isTrustAnchorOperation operation then (none, db)
  else if !trustJobTerminalNegative status then (none, db)
  else
    match db.installationOfJob workspaceId jobId with
    | none => (none, db)
    | some row => unwindInstallation status row db

def onTrustJobTerminalTransition (operation : JobOperation) (status : JobStatus)
    (workspaceId jobId : Nat) (db : Db) : Db :=
  (unwindTerminalTrustJob operation status workspaceId jobId db).2

/-! ## §2. Revalidation at dispatch. -/

/-- The result of `revalidateTrustJobForDispatch`; the generation is absent for a
    job that is no trust job. -/
inductive Revalidation
  | allow (pem : Option String) (transitionGeneration : Option Nat)
  | deny (reason : String)
deriving DecidableEq, Repr

/-- `allow: true`. -/
def Revalidation.allowed : Revalidation → Bool
  | .allow _ _ => true
  | .deny _ => false

/-- The refusal, if any, that comes before the installation row is looked up. -/
def anchorRefusal (job : JobRow) (anchor : Option AnchorRow) : Option String :=
  match anchor with
  | none => some "trust_anchor_not_found"
  | some a =>
    if some a.anchorType ≠ job.payload.trust.map (·.anchorType) ∨
        some a.fingerprintSha256 ≠ job.payload.trust.map (·.fingerprintSha256) then
      some "trust_anchor_payload_mismatch"
    else if job.operation = .distributeTrust ∧ a.status ≠ .active then
      some "trust_anchor_retired"
    else none

/-- The anchor a job names: its payload's, else its subject. -/
def trustAnchorOfJob (job : JobRow) : Option Nat :=
  match job.payload.trust with
  | some t => some t.trustAnchorId
  | none => job.subjectId

/-- `revalidateTrustJobForDispatch` without its unwinding: the verdict. -/
def revalidationVerdict (job : JobRow) (db : Db) : Revalidation :=
  let anchor := (trustAnchorOfJob job).bind fun id => anchorById db job.workspaceId id
  match anchorRefusal job anchor with
  | some reason => .deny reason
  | none =>
    match db.installationOfJob job.workspaceId job.id with
    | none => .deny "trust_installation_not_found"
    | some row =>
      .allow (if job.operation = .distributeTrust then anchor.map (·.pem) else none)
        (some row.transitionGeneration)

/-- `revalidateTrustJobForDispatch`.  Every refusal unwinds the row as if the job
    had just been rejected. -/
def revalidateTrustJobForDispatch (job : JobRow) (db : Db) : Revalidation × Db :=
  if !isTrustAnchorOperation job.operation then (.allow none none, db)
  else
    match revalidationVerdict job db with
    | .allow pem generation => (.allow pem generation, db)
    | .deny reason =>
      (.deny reason, onTrustJobTerminalTransition job.operation .rejected job.workspaceId job.id db)

/-! ## §3. Results. -/

/-- `outcome` of the trust-result contract. -/
inductive TrustOutcome
  | preexisting | installed | alreadyAbsent | removed
deriving DecidableEq, Repr

def TrustOutcome.text : TrustOutcome → String
  | .preexisting => "preexisting"
  | .installed => "installed"
  | .alreadyAbsent => "already_absent"
  | .removed => "removed"

inductive ReceiptState
  | intentWritten | finalized | missing | corrupt
deriving DecidableEq, Repr

/-- A trust result: the members of `trust-result-contract.schema.json` that the
    ingestion or a conditional rule of the schema reads. -/
structure TrustResult where
  jobId : Nat
  workspaceId : Nat
  agentId : String
  trustAnchorId : Nat
  action : JobOperation
  transitionGeneration : Nat
  store : String
  observedFingerprintBefore : Option String
  observedFingerprintAfter : Option String
  outcome : TrustOutcome
  mutationAttempted : Bool
  mutationPerformed : Bool
  receiptState : ReceiptState
  failureCategory : Option String
deriving DecidableEq, Repr

/-- `validateTrustResult`: the vocabulary of `action`, `minimum: 1` for the
    generation, and the `allOf` rules of the schema in their order. -/
def validateTrustResult (r : TrustResult) : Bool :=
  isTrustAnchorOperation r.action &&
  (1 ≤ r.transitionGeneration : Bool) &&
  (r.mutationAttempted || !r.mutationPerformed) &&
  (!(r.mutationAttempted && !r.mutationPerformed) || r.failureCategory.isSome) &&
  (r.outcome ≠ .removed || (r.receiptState ≠ .missing && r.receiptState ≠ .corrupt)) &&
  (r.outcome ≠ .removed || r.mutationPerformed) &&
  (r.action ≠ .distributeTrust || r.outcome ≠ .removed) &&
  (r.action ≠ .revokeTrust || r.outcome ≠ .preexisting) &&
  (!(r.action = .distributeTrust && r.outcome = .alreadyAbsent : Bool) ||
    r.failureCategory.isSome) &&
  (!(r.action = .distributeTrust && r.outcome = .installed : Bool) ||
    (r.mutationAttempted && r.mutationPerformed && r.observedFingerprintAfter.isSome)) &&
  (!(r.action = .revokeTrust && r.outcome = .installed : Bool) || !r.mutationPerformed) &&
  (!(r.action = .distributeTrust && r.outcome = .preexisting : Bool) ||
    (!r.mutationAttempted && !r.mutationPerformed))

def CERTOPS_TRUST_RESULT_INVALID : String := "CERTOPS_TRUST_RESULT_INVALID"
def CERTOPS_TRUST_RESULT_MISMATCH : String := "CERTOPS_TRUST_RESULT_MISMATCH"
def CERTOPS_TRUST_RESULT_STALE_GENERATION : String := "CERTOPS_TRUST_RESULT_STALE_GENERATION"
def RECEIPT_FINALIZE_CONFLICT_CATEGORY : String := "receipt_finalize_conflict"

/-- `isReceiptFinalizeConflictOnATrueMutation`. -/
def TrustResult.isReceiptFinalizeConflict (r : TrustResult) : Bool :=
  r.failureCategory = some RECEIPT_FINALIZE_CONFLICT_CATEGORY && r.mutationPerformed

/-- `GENUINE_SUCCESS_OUTCOMES_BY_ACTION`. -/
def genuineSuccessOutcome (action : JobOperation) (outcome : TrustOutcome) : Bool :=
  (action = .distributeTrust ∧ (outcome = .preexisting ∨ outcome = .installed)) ∨
    (action = .revokeTrust ∧ (outcome = .alreadyAbsent ∨ outcome = .removed))

/-- A JavaScript string value that is absent or empty is falsy. -/
def nonEmpty (s : Option String) : Option String :=
  match s with
  | some "" => none
  | other => other

/-- `observedFingerprintAfter || observedFingerprintBefore`. -/
def TrustResult.observedFingerprint (r : TrustResult) : Option String :=
  (nonEmpty r.observedFingerprintAfter).or (nonEmpty r.observedFingerprintBefore)

/-- A failed identity check of a result. -/
def resultMismatch (message : String) : ServiceError :=
  { message := message, code := CERTOPS_TRUST_RESULT_MISMATCH }

/-- The checks of `ingestTrustJobResult` on the result alone. -/
def checkTrustResult (r : TrustResult) : Except ServiceError Unit := do
  require (validateTrustResult r)
    { message := "Trust job result does not match trust-result-contract.schema.json"
      code := CERTOPS_TRUST_RESULT_INVALID }
  require ((nonEmpty r.failureCategory).isNone || r.isReceiptFinalizeConflict)
    { message := "Result reports a non-null failureCategory that is not a " ++
        "receipt-finalize conflict on a genuinely completed mutation; " ++
        "such a result must never be ingested as installed/removed"
      code := CERTOPS_TRUST_RESULT_INVALID }
  require (genuineSuccessOutcome r.action r.outcome)
    { message := r.action.text ++ " result reporting outcome \"" ++ r.outcome.text ++ "\" is " ++
        r.action.text ++ "'s failure-fallback shape and must never be ingested as a " ++
        "completed transition"
      code := CERTOPS_TRUST_RESULT_INVALID }

/-- The checks of a result against the job and the row that reference each
    other.  `agentRegistered` is the lookup of the assigned agent. -/
def checkTrustResultIdentity (env : Env) (job : JobRow) (row : InstallationRow) (r : TrustResult)
    (agentRegistered : Bool) : Except ServiceError Unit := do
  require (r.action = job.operation)
    (resultMismatch "Result action does not match the job's own operation")
  require (r.jobId = job.id)
    (resultMismatch "Result jobId does not match the job it was ingested against")
  require (r.workspaceId = job.workspaceId)
    (resultMismatch "Result workspaceId does not match the job's own workspace")
  require (agentRegistered && some r.agentId = job.assignedAgentId.map env.wireAgentId)
    (resultMismatch "Result agentId does not match the agent this job was signed for")
  require (job.assignedAgentId = some row.agentId)
    (resultMismatch
      "Job's assigned agent does not match the installation this job was signed for")
  require (r.store = row.store)
    (resultMismatch "Result store does not match the installation this job was signed for")
  require (r.trustAnchorId = row.trustAnchorId)
    (resultMismatch "Result trustAnchorId does not match the signed job")
  require (r.outcome = .alreadyAbsent ∨ r.observedFingerprint.isSome)
    (resultMismatch "Result did not observe any fingerprint, but its outcome requires one")
  require (r.observedFingerprint.isNone ∨ r.observedFingerprint = some row.fingerprintSha256)
    (resultMismatch "Result fingerprint does not match the installation this job was signed for")
  require (r.transitionGeneration = row.transitionGeneration)
    { message := "Result transitionGeneration is stale; a newer transition has " ++
        "already superseded this generation"
      code := CERTOPS_TRUST_RESULT_STALE_GENERATION }

/-- `nextState`. -/
def settledState (r : TrustResult) : TransitionState :=
  if r.outcome = .preexisting ∨ r.outcome = .installed then .installed else .removed

/-- `nextProvenance`: it only ever tightens. -/
def settledProvenance (r : TrustResult) (current : Provenance) : Provenance :=
  if (r.action = .distributeTrust ∧ r.outcome = .installed ∧ r.mutationPerformed) ∨
      (r.action = .distributeTrust ∧ r.outcome = .preexisting ∧ r.receiptState = .finalized) then
    .tokentimerInstalled
  else current

/-- The SET list of the ingestion. -/
def InstallationRow.settled (r : TrustResult) (row : InstallationRow) : InstallationRow :=
  { row with
    transitionState := settledState r
    provenance := settledProvenance r row.provenance
    lastError := if r.isReceiptFinalizeConflict then r.failureCategory else none
    nextReconcileAt := none }

/-- `ingestTrustJobResult`.  An absent result fails the schema. -/
def ingestTrustJobResult (env : Env) (job : JobRow) (result : Option TrustResult) (db : Db) :
    Except ServiceError Db := do
  match result with
  | none =>
    .error
      { message := "Trust job result does not match trust-result-contract.schema.json"
        code := CERTOPS_TRUST_RESULT_INVALID }
  | some r => do
    checkTrustResult r
    match db.installationOfJob job.workspaceId job.id with
    | none =>
      .error
        { message := "No installation row references this trust job"
          code := CERTOPS_TRUST_INSTALLATION_NOT_FOUND }
    | some row => do
      let registered := db.agents.any fun a =>
        a.workspaceId = job.workspaceId ∧ some a.id = job.assignedAgentId
      checkTrustResultIdentity env job row r registered
      .ok (updateInstallation row.id (InstallationRow.settled r) db)

/-! ## §4. The reconciliation sweep. -/

/-- A pending row whose reconciliation is due. -/
def isOverdue (now : Nat) (row : InstallationRow) : Bool :=
  (row.transitionState = .pendingInstall ∨ row.transitionState = .pendingRemove) ∧
    row.nextReconcileAt.any fun t => t ≤ now

/-- `markTrustInstallationStale`. -/
def InstallationRow.stale (reason : String) (row : InstallationRow) : InstallationRow :=
  { row with nextReconcileAt := none, lastError := some reason }

/-- `rescheduleTrustInstallation`. -/
def InstallationRow.rescheduled (now delayMs : Nat) (row : InstallationRow) : InstallationRow :=
  { row with nextReconcileAt := some (now + delayMs) }

/-- The status of a row's last job, the `LEFT JOIN` of the sweep. -/
def lastJob (db : Db) (row : InstallationRow) : Option JobRow :=
  row.lastJobId.bind fun id => db.jobOf row.workspaceId id

/-- The disposition of one overdue row. -/
def sweepInstallation (maxAgeMs reconcileDelayMs : Nat) (row : InstallationRow) (db : Db) : Db :=
  match lastJob db row with
  | some job =>
    if trustJobTerminalNegative job.status then
      onTrustJobTerminalTransition job.operation job.status row.workspaceId job.id db
    else if row.lastAttemptAt.all fun t => t + maxAgeMs < db.now then
      updateInstallation row.id
        (InstallationRow.stale ("reconciliation_stale_job_" ++ job.status.text)) db
    else updateInstallation row.id (InstallationRow.rescheduled db.now reconcileDelayMs) db
  | none =>
    if row.lastAttemptAt.all fun t => t + maxAgeMs < db.now then
      updateInstallation row.id (InstallationRow.stale "reconciliation_stale_no_job") db
    else updateInstallation row.id (InstallationRow.rescheduled db.now reconcileDelayMs) db

/-- `ORDER BY next_reconcile_at`. -/
def reconcileBefore (a b : InstallationRow) : Bool :=
  a.nextReconcileAt.getD 0 ≤ b.nextReconcileAt.getD 0

/-- `sweepOverdueTrustInstallations`.  `skipLocked` are the rows another worker
    holds. -/
def sweepOverdueTrustInstallations (skipLocked : Nat → Bool) (limit maxAgeMs reconcileDelayMs : Nat)
    (db : Db) : Db :=
  let overdue := ((db.installations.filter fun r => isOverdue db.now r && !skipLocked r.id)
    |>.insertionSort fun a b => reconcileBefore a b = true).take limit
  overdue.foldl (fun db row => sweepInstallation maxAgeMs reconcileDelayMs row db) db

end TokenTimer.CertOps
