/-
  TokenTimer.CertOps.System — the control plane as a transition system.

  A `Call` is one transaction of the API, of the worker or of an operator, with
  everything it reads outside the modelled tables; `exec` runs it.  A call that
  throws leaves the database as it was.  Runs take the calls in ANY order, with
  any agents and any passage of time: this is every interleaving of the
  transactions.

  `createTrustJob` is the only way to a trust job: the routes hand a trust
  operation to `manualTrustJobCreator`, so the generic creation refuses it.
-/

import TokenTimer.CertOps.Reaper
import TokenTimer.Lib.Runs

namespace TokenTimer.CertOps

open Lib.Table Lib.Runs

/-! ## §1. Calls. -/

/-- A transaction with its inputs. -/
inductive Call
  /-- Time passes. -/
  | tick (ms : Nat)
  /-- A workspace is created, or its switches change. -/
  | setWorkspace (row : WorkspaceRow)
  | registerAgent (workspaceId : Nat) (kind : AgentKind)
  | heartbeat (agent : AgentIdentity) (sequence : Option Nat)
  /-- The stale-agent sweep of the worker. -/
  | markStaleAgents (offlineAfterMs : Nat)
  | retireAgent (workspaceId agentRowId : Nat) (force : Bool) (reason : String)
      (management : JobRow → Management)
  | createTrustAnchor (request : ApproveAnchor)
  | retireTrustAnchor (workspaceId anchorId : Nat)
  | createCertificateJob (options : CreateJobOptions) (reads : CreateReads)
  | createTrustJob (options : TrustJobOptions) (reads : TrustReads)
  /-- Another service rewrites the payload of a job that has not started, which
      is what the approval re-check of a claim is there for. -/
  | rewritePayload (jobId : Nat) (payload : JobPayload)
  | approveJob (workspaceId jobId approverUserId : Nat) (review : Option ServiceError)
      (management : JobRow → Management)
  | rejectJob (workspaceId jobId : Nat) (reason : Option String)
      (management : JobRow → Management)
  | claimJobs (agent : AgentIdentity) (sequence : Option Nat) (caps : AgentCaps) (maxJobs : Nat)
      (reads : ClaimReads)
  | renewJobLease (agent : AgentIdentity) (jobId claimId : Nat) (sequence : Option Nat)
      (reads : RenewReads)
  | ingestResult (agent : AgentIdentity) (sequence : Option Nat) (body : ResultBody)
      (reads : ResultReads)
  | updateCertificateJobStatus (options : UpdateStatusOptions) (firstRead secondRead : JobStatus)
      (management : JobRow → Management)
  | reapExpiredLeases (skipLocked : Nat → Bool) (batchSize offlineAfterMs : Nat)
      (management : JobRow → Management)
  | sweepExpiredNonces (picked : NonceRow → Bool)
  | sweepOverdueTrustInstallations (skipLocked : Nat → Bool)
      (limit maxAgeMs reconcileDelayMs : Nat)

/-! ## §2. The small transactions. -/

def setWorkspace (row : WorkspaceRow) (db : Db) : Db :=
  if db.workspaces.any fun w => w.id = row.id then
    { db with workspaces := updateWhere (fun w => w.id = row.id) (fun _ => row) db.workspaces }
  else { db with workspaces := db.workspaces ++ [row] }

/-- A new agent row. -/
def registerAgent (workspaceId : Nat) (kind : AgentKind) (db : Db) : Db :=
  { db with
    nextId := db.nextId + 1
    agents := db.agents ++
      [{ id := db.nextId, workspaceId := workspaceId, agentKind := kind, status := .active
         lastSeenAt := none, createdAt := db.now, pinnedSigningKeyId := none, lastSequence := 0
         retiredAt := none }] }

/-- The agent of a call is a row of its workspace that is not retired. -/
def authenticate (agent : AgentIdentity) (db : Db) : Except ServiceError Unit :=
  require (db.agents.any fun a =>
      a.id = agent.id ∧ a.workspaceId = agent.workspaceId ∧ a.status ≠ .retired)
    { message := "Agent is retired", code := CERTOPS_AGENT_RETIRED }

/-- A heartbeat: the sequence and the liveness touch. -/
def heartbeat (agent : AgentIdentity) (sequence : Option Nat) (db : Db) :
    Except ServiceError Db := do
  let agents ← enforceAgentSequence db.agents agent.id sequence
  return touchAgent agent.id { db with agents := agents }

def markStaleAgents (offlineAfterMs : Nat) (db : Db) : Db :=
  { db with
    agents := updateWhere (AgentRow.isStale db.now offlineAfterMs)
      (fun a => { a with status := .offline }) db.agents }

def rewritePayload (jobId : Nat) (payload : JobPayload) (db : Db) : Db :=
  { db with
    jobs := updateWhere
      (fun j => j.id = jobId ∧ (j.status = .pendingApproval ∨ j.status = .approved ∨
        j.status = .pending))
      (fun j => { j with payload := payload }) db.jobs }

/-- The generic creation, which never makes a trust job. -/
def createOtherJob (env : Env) (options : CreateJobOptions) (reads : CreateReads) (db : Db) :
    Except ServiceError Db := do
  require (!isTrustAnchorOperation options.operation)
    { message := "operation is created by createTrustJob only"
      code := CERTOPS_JOB_OPERATION_INVALID }
  let (_, db') ← createCertificateJob env options reads db
  return db'

/-- A call of an authenticated agent that answers with a value. -/
def asAgent {α : Type} (agent : AgentIdentity) (run : Db → Except ServiceError (α × Db)) (db : Db) :
    Except ServiceError Db := do
  authenticate agent db
  let (_, db') ← run db
  return db'

/-! ## §3. The system. -/

/-- The transaction of a call. -/
def exec (env : Env) : Call → Db → Except ServiceError Db
  | .tick ms, db => .ok { db with now := db.now + ms }
  | .setWorkspace row, db => .ok (setWorkspace row db)
  | .registerAgent ws kind, db => .ok (registerAgent ws kind db)
  | .heartbeat agent sequence, db => do
    authenticate agent db
    heartbeat agent sequence db
  | .markStaleAgents offlineAfterMs, db => .ok (markStaleAgents offlineAfterMs db)
  | .retireAgent ws agent force reason m, db => retireAgent m ws agent force reason db
  | .createTrustAnchor request, db => createTrustAnchor request db
  | .retireTrustAnchor ws anchor, db => retireTrustAnchor env ws anchor db
  | .createCertificateJob options reads, db => createOtherJob env options reads db
  | .createTrustJob options reads, db => do
    let (_, db') ← createTrustJob env options reads db
    return db'
  | .rewritePayload job payload, db => .ok (rewritePayload job payload db)
  | .approveJob ws job approver review m, db => approveJob env m ws job approver review db
  | .rejectJob ws job reason m, db => rejectJob m ws job reason db
  | .claimJobs agent sequence caps maxJobs reads, db =>
    asAgent agent (claimJobs env agent sequence caps maxJobs reads) db
  | .renewJobLease agent job claim sequence reads, db => do
    authenticate agent db
    renewJobLease env agent job claim sequence reads db
  | .ingestResult agent sequence body reads, db =>
    asAgent agent (ingestResult env agent sequence body reads) db
  | .updateCertificateJobStatus options first second m, db => do
    let (_, db') ← updateCertificateJobStatus m options first second db
    return db'
  | .reapExpiredLeases skip batch offlineAfterMs m, db =>
    reapExpiredLeases env m skip batch offlineAfterMs db
  | .sweepExpiredNonces picked, db => .ok (sweepExpiredNonces picked db)
  | .sweepOverdueTrustInstallations skip limit maxAgeMs delayMs, db =>
    .ok (sweepOverdueTrustInstallations skip limit maxAgeMs delayMs db)

/-- The state after a call: a transaction that throws is rolled back. -/
def next (env : Env) (db : Db) (call : Call) : Db :=
  match exec env call db with
  | .ok db' => db'
  | .error _ => db

/-- The control plane, from an empty database. -/
def system (env : Env) : System Db Call where
  init db := db = Db.empty
  step db call db' := db' = next env db call

def play (env : Env) (calls : List Call) : Db :=
  calls.foldl (next env) Db.empty

theorem play_reachable (env : Env) (calls : List Call) :
    Reachable (system env) anyStep (play env calls) :=
  ⟨Db.empty, rfl, Run.of_foldl (fun _ _ => rfl) calls Db.empty⟩

/-- Calls that meet a condition in every state. -/
theorem play_reachable_of_forall (env : Env) {ok : Db → Call → Prop} (calls : List Call)
    (hok : ∀ call ∈ calls, ∀ db, ok db call) : Reachable (system env) ok (play env calls) :=
  ⟨Db.empty, rfl, Run.of_foldl_of_forall (fun _ _ => rfl) calls hok Db.empty⟩

theorem exec_of_isOk {env : Env} {call : Call} {db : Db} (h : (exec env call db).isOk = true) :
    exec env call db = .ok (next env db call) := by
  unfold next
  cases hexec : exec env call db with
  | ok db' => rfl
  | error e =>
    rw [hexec] at h
    cases h

def refusalCode {α : Type} : Except ServiceError α → Option String
  | .error e => some e.code
  | .ok _ => none

/-! ## §4. A small deployment, for evaluation: workspace 7, agent 0, anchor 1. -/

namespace Demo

/-- Default windows, and hash functions that keep the text they are given. -/
def env : Env :=
  { timing := { CERTOPS_JOB_LEASE_SECONDS := none, CERTOPS_LEASE_HARD_GRACE_MS := none }
    certOpsEnabled := true
    sha256Hex := fun text => String.ofList (text.map fun unit => Char.ofNat unit.val)
    jobCreationRequestFingerprint := fun request => request.operation.text ++ request.status.text
    computeJobPayloadApprovalHash := fun payload => payload.rest
    canonicalIntentDigest := fun intent => intent.operation.text ++ intent.payload.rest
    wireAgentId := fun id => "agent-" ++ toString id }

def agent : AgentIdentity := { id := 0, workspaceId := 7 }

def caps : AgentCaps :=
  { supportedActions := [.distributeTrust, .revokeTrust, .renew], targetSelectors := []
    dnsProviders := [], commandProfiles := [], canBindEvidenceToClaim := true
    canBindTrustAnchorDeploy := true, canEnrollAdcs := true }

def setup : List Call :=
  [.setWorkspace { id := 7, certopsPaused := false, certopsRequireApprovalAlways := false },
    .registerAgent 7 .normal,
    .createTrustAnchor
      { workspaceId := 7, name := "ca", pem := "pem", anchorType := .root
        fingerprintSha256 := "fp" }]

/-- A renewal job of a domain; `mode` and `enrollmentId` as given. -/
def renewJob (mode : JobMode) (enrollmentId : Option Nat) : Call :=
  .createCertificateJob
    { workspaceId := 7, operation := .renew, mode := some mode, subjectType := some .domain
      subjectId := some 1, enrollmentId := enrollmentId } {}

def claim : Call := .claimJobs agent none caps 1 {}

def renewLease (job claimId : Nat) : Call := .renewJobLease agent job claimId none {}

def succeed (job claimId nonce : Nat) : Call :=
  .ingestResult agent none
    { jobId := job, claimId := some claimId, status := "succeeded", nonce := some nonce } {}

def trustJobOptions (operation : JobOperation) (owner key : String) : TrustJobOptions :=
  { workspaceId := 7, operation := operation, trustAnchorId := 1, agentId := 0, owner := owner
    idempotencyKey := key }

/-- The reference of an owner to the anchor in the store of the agent. -/
def key (owner : String) : TrustTuple × String :=
  ({ workspaceId := 7, agentId := 0, store := "Root", fingerprintSha256 := "fp" }, owner)

def trustJob (operation : JobOperation) (owner key : String) : Call :=
  .createTrustJob (trustJobOptions operation owner key) {}

/-- The same, with an approval before the dispatch. -/
def trustJobForApproval (operation : JobOperation) (owner key : String) : Call :=
  .createTrustJob { trustJobOptions operation owner key with requiresApproval := true } {}

def trustSucceed (job claimId nonce generation : Nat) (operation : JobOperation)
    (outcome : TrustOutcome) : Call :=
  .ingestResult agent none
    { jobId := job, claimId := some claimId, status := "succeeded", nonce := some nonce
      trustResult := some
        { jobId := job, workspaceId := 7, agentId := "agent-0", trustAnchorId := 1
          action := operation, transitionGeneration := generation, store := "Root"
          observedFingerprintBefore := none, observedFingerprintAfter := some "fp"
          outcome := outcome
          mutationAttempted := outcome = .installed ∨ outcome = .removed
          mutationPerformed := outcome = .installed ∨ outcome = .removed
          receiptState := .finalized, failureCategory := none } } {}

end Demo

end TokenTimer.CertOps
