/-
  TokenTimer.CertOps.TrustAnchors — approving trust anchors and creating trust
  jobs (`apps/api/services/certops/trustAnchors.js`).

  An INSTALLATION row is one owner's reference to one anchor in one store of one
  agent.  `createTrustJob` locks (or inserts) the row, advances it, and creates
  the job that will change the machine — unless a revoke only has to RELEASE the
  reference, because another owner still holds the material or because
  TokenTimer never installed it.

  A transaction that throws leaves no database, so the placeholder row that a
  revoke of an untracked reference inserts and deletes is never seen.

  PEM parsing and the metadata filter are inputs: the parsed certificate of
  `createTrustAnchor`, the kept entries of `createTrustJob`.
-/

import TokenTimer.CertOps.Jobs

namespace TokenTimer.CertOps

open Lib.Table
open Json (JsString CodeUnit unit js quoteJSONString)

/-! ## §1. Error codes and constants. -/

def CERTOPS_DISABLED : String := "CERTOPS_DISABLED"
def CERTOPS_WORKSPACE_PAUSED : String := "CERTOPS_WORKSPACE_PAUSED"
def CERTOPS_WORKSPACE_NOT_FOUND : String := "CERTOPS_WORKSPACE_NOT_FOUND"
def CERTOPS_TRUST_ANCHOR_INVALID : String := "CERTOPS_TRUST_ANCHOR_INVALID"
def CERTOPS_TRUST_ANCHOR_NOT_FOUND : String := "CERTOPS_TRUST_ANCHOR_NOT_FOUND"
def CERTOPS_TRUST_ANCHOR_NOT_ACTIVE : String := "CERTOPS_TRUST_ANCHOR_NOT_ACTIVE"
def CERTOPS_TRUST_ANCHOR_TYPE_IMMUTABLE : String := "CERTOPS_TRUST_ANCHOR_TYPE_IMMUTABLE"
def CERTOPS_TRUST_JOB_OPERATION_INVALID : String := "CERTOPS_TRUST_JOB_OPERATION_INVALID"
def CERTOPS_TRUST_JOB_IDEMPOTENCY_KEY_REQUIRED : String :=
  "CERTOPS_TRUST_JOB_IDEMPOTENCY_KEY_REQUIRED"
def CERTOPS_TRUST_JOB_IDEMPOTENCY_CONFLICT : String := "CERTOPS_TRUST_JOB_IDEMPOTENCY_CONFLICT"
def CERTOPS_TRUST_INSTALLATION_NOT_FOUND : String := "CERTOPS_TRUST_INSTALLATION_NOT_FOUND"
def CERTOPS_TARGET_AGENT_NOT_FOUND : String := "CERTOPS_TARGET_AGENT_NOT_FOUND"
def CERTOPS_TARGET_AGENT_INELIGIBLE : String := "CERTOPS_TARGET_AGENT_INELIGIBLE"

def OWNER_MAX_LENGTH : Nat := 128

/-- `DEFAULT_RECONCILE_DELAY_MS`: fifteen minutes. -/
def DEFAULT_RECONCILE_DELAY_MS : Nat := 15 * 60 * 1000

/-! ## §2. Text. -/

def utf16 (s : String) : JsString :=
  s.toList.flatMap fun c =>
    if c.toNat < 0x10000 then [unit c]
    else
      let v := c.toNat - 0x10000
      [Fin.ofNat 65536 (0xD800 + v / 0x400), Fin.ofNat 65536 (0xDC00 + v % 0x400)]

/-- `JSON.stringify` of an array of strings. -/
def jsonStringArray (parts : List String) : JsString :=
  unit '[' :: List.intercalate [unit ','] (parts.map fun p => quoteJSONString (utf16 p)) ++
    [unit ']']

/-- `resolveTrustAnchorStoreLabel`: the store follows from the anchor type alone. -/
def resolveTrustAnchorStoreLabel : AnchorType → String
  | .root => "Root"
  | .intermediate => "CA"

def normalizeOwner (value : String) : Except ServiceError String :=
  let owner := jsTrim value
  if owner = "" ∨ OWNER_MAX_LENGTH < (utf16 owner).length then
    .error
      { message := "owner is required and must be 1-128 characters"
        code := CERTOPS_TRUST_ANCHOR_INVALID }
  else .ok owner

def normalizeIdempotencyKey (value : String) : Except ServiceError String :=
  let key := jsTrim value
  if key = "" then
    .error
      { message := "idempotencyKey is required to create a distribute-trust or revoke-trust job"
        code := CERTOPS_TRUST_JOB_IDEMPOTENCY_KEY_REQUIRED }
  else .ok key

/-- `deriveTrustJobIdempotencyKey`: the storage key binds the operation and the
    whole target, so one raw key never names two different requests. -/
def deriveTrustJobIdempotencyKey (env : Env) (operation : JobOperation)
    (trustAnchorId agentId : Nat) (store owner idempotencyKey : String) : String :=
  "trust:" ++ env.sha256Hex
    (jsonStringArray
      [operation.text, toString trustAnchorId, toString agentId, store, owner, idempotencyKey])

/-! ## §3. The workspace switch. -/

/-- `lockWorkspaceForCertOpsSideEffect`, without `skipLocked`. -/
def lockWorkspaceForCertOpsSideEffect (env : Env) (workspaceId : Nat) (db : Db) :
    Except ServiceError WorkspaceRow :=
  match selectOne (fun w => w.id = workspaceId) db.workspaces with
  | none =>
    .error { message := "Workspace not found", code := CERTOPS_WORKSPACE_NOT_FOUND }
  | some workspace =>
    if !env.certOpsEnabled then
      .error { message := "CertOps is disabled for this deployment", code := CERTOPS_DISABLED }
    else if workspace.certopsPaused then
      .error
        { message := "CertOps is paused for this workspace", code := CERTOPS_WORKSPACE_PAUSED }
    else .ok workspace

/-! ## §4. Anchors. -/

/-- A validated approval request: the options of `createTrustAnchor` and what
    `parseAndValidateAnchorPem` read out of the PEM. -/
structure ApproveAnchor where
  workspaceId : Nat
  name : String
  pem : String
  anchorType : AnchorType
  fingerprintSha256 : String

def anchorByFingerprint (db : Db) (workspaceId : Nat) (fingerprint : String) : Option AnchorRow :=
  selectOne (fun a => a.workspaceId = workspaceId ∧ a.fingerprintSha256 = fingerprint) db.anchors

/-- A reference to the anchor that is not removed. -/
def hasLiveInstallation (db : Db) (workspaceId anchorId : Nat) : Bool :=
  db.installations.any fun r =>
    r.workspaceId = workspaceId ∧ r.trustAnchorId = anchorId ∧ r.transitionState ≠ .removed

/-- `runCreateTrustAnchor`: insert, or re-approve and reactivate.  The type
    decides the store, so it is fixed while any reference is live. -/
def createTrustAnchor (req : ApproveAnchor) (db : Db) : Except ServiceError Db :=
  match anchorByFingerprint db req.workspaceId req.fingerprintSha256 with
  | some existing =>
    if existing.anchorType ≠ req.anchorType ∧
        hasLiveInstallation db req.workspaceId existing.id then
      .error
        { message := "Cannot change anchorType: a live (non-removed) installation " ++
            "already exists for this fingerprint under the current " ++
            "anchorType. Release every installation first, or re-approve " ++
            "with the existing anchorType."
          code := CERTOPS_TRUST_ANCHOR_TYPE_IMMUTABLE }
    else
      .ok { db with
        anchors := updateWhere (fun a => a.id = existing.id)
          (fun a => { a with
            name := req.name
            pem := req.pem
            anchorType := req.anchorType
            status := .active
            revokedAt := none }) db.anchors }
  | none =>
    .ok { db with
      nextId := db.nextId + 1
      anchors := db.anchors ++
        [{ id := db.nextId, workspaceId := req.workspaceId, name := req.name, pem := req.pem
           anchorType := req.anchorType, fingerprintSha256 := req.fingerprintSha256
           status := .active, revokedAt := none }] }

/-- `getTrustAnchorById`, as a locked read. -/
def anchorById (db : Db) (workspaceId anchorId : Nat) : Option AnchorRow :=
  selectOne (fun a => a.workspaceId = workspaceId ∧ a.id = anchorId) db.anchors

/-- `retireTrustAnchor`.  A retired anchor accepts no new distribution; its
    references are left alone. -/
def retireTrustAnchor (env : Env) (workspaceId anchorId : Nat) (db : Db) :
    Except ServiceError Db := do
  let _ ← lockWorkspaceForCertOpsSideEffect env workspaceId db
  match anchorById db workspaceId anchorId with
  | none =>
    .error { message := "Trust anchor not found", code := CERTOPS_TRUST_ANCHOR_NOT_FOUND }
  | some _ =>
    .ok { db with
      anchors := updateWhere
        (fun a => a.workspaceId = workspaceId ∧ a.id = anchorId ∧ a.status ≠ .revoked)
        (fun a => { a with status := .revoked, revokedAt := some db.now }) db.anchors }

/-! ## §5. Installation rows. -/

/-- The row of a unique key, `SELECT … FOR UPDATE`. -/
def installationByKey (db : Db) (key : TrustTuple × String) : Option InstallationRow :=
  selectOne (fun r => r.key = key) db.installations

/-- The row `lockOrCreateInstallation` inserts: the column defaults
    `pending_install` and generation 1, provenance `preexisting` until a result
    proves a mutation. -/
def freshInstallation (id trustAnchorId : Nat) (key : TrustTuple × String) : InstallationRow :=
  { id := id, workspaceId := key.1.workspaceId, trustAnchorId := trustAnchorId
    agentId := key.1.agentId, store := key.1.store
    fingerprintSha256 := key.1.fingerprintSha256, owner := key.2
    transitionState := .pendingInstall, provenance := .preexisting, lastJobId := none
    transitionGeneration := 1, lastAttemptAt := none, lastError := none
    nextReconcileAt := none }

/-- `UPDATE certops_trust_anchor_installations SET … WHERE id = …`. -/
def updateInstallation (id : Nat) (set : InstallationRow → InstallationRow) (db : Db) : Db :=
  { db with installations := updateWhere (fun r => r.id = id) set db.installations }

/-- The states in which the material is confirmed present. -/
def confirmedLive (state : TransitionState) : Bool :=
  state = .installed ∨ state = .pendingRemove

/-- `countOtherLiveReferences`: the confirmed references of OTHER owners. -/
def countOtherLiveReferences (db : Db) (key : TrustTuple × String) : Nat :=
  (db.installations.filter fun r =>
    r.tuple = key.1 ∧ r.owner ≠ key.2 ∧ confirmedLive r.transitionState).length

/-- `tupleHasTokenTimerInstalledRow`: some row of the tuple, of any owner and in
    any state, records a mutation by TokenTimer. -/
def tupleHasTokenTimerInstalledRow (db : Db) (tuple : TrustTuple) : Bool :=
  db.installations.any fun r => r.tuple = tuple ∧ r.provenance = .tokentimerInstalled

/-- The SET list of the two release branches. -/
def InstallationRow.released (now : Nat) (r : InstallationRow) : InstallationRow :=
  { r with
    transitionState := .removed
    transitionGeneration := r.transitionGeneration + 1
    lastAttemptAt := some now
    lastError := none
    nextReconcileAt := none }

def nextTransitionState (operation : JobOperation) : TransitionState :=
  if operation = .distributeTrust then .pendingInstall else .pendingRemove

/-- The SET list of the advance before the job is created. -/
def InstallationRow.advanced (operation : JobOperation) (now : Nat) (r : InstallationRow) :
    InstallationRow :=
  { r with
    transitionState := nextTransitionState operation
    transitionGeneration := r.transitionGeneration + 1
    lastAttemptAt := some now
    lastError := none
    nextReconcileAt := some (now + DEFAULT_RECONCILE_DELAY_MS) }

/-- The SET list that undoes the advance on a replay: the columns of the row as
    it was locked. -/
def InstallationRow.restored (locked r : InstallationRow) : InstallationRow :=
  { r with
    transitionState := locked.transitionState
    transitionGeneration := locked.transitionGeneration
    nextReconcileAt := locked.nextReconcileAt
    lastAttemptAt := locked.lastAttemptAt
    lastError := locked.lastError }

/-! ## §6. `createTrustJob`. -/

/-- The options of `createTrustJob`; `metadata` is what
    `buildTrustJobPublicMetadataEntries` keeps of `publicMetadata`. -/
structure TrustJobOptions where
  workspaceId : Nat
  operation : JobOperation
  trustAnchorId : Nat
  agentId : Nat
  owner : String
  idempotencyKey : String
  metadata : List MetadataEntry := []
  requiresApproval : Bool := false
  requestedByUserId : Option Nat := none
  requestedByApiTokenId : Option Nat := none
  source : JobSource := .api

/-- What a call reads outside the modelled tables. -/
structure TrustReads where
  /-- `compatibilityState = 'blocked'` for the target agent. -/
  compatibilityBlocked : Bool := false
  create : CreateReads := {}

/-- What the guards of `runCreateTrustJob` establish before the installation row
    is touched. -/
structure TrustContext where
  workspace : WorkspaceRow
  anchor : AnchorRow
  owner : String
  /-- `scopedIdempotencyKey`. -/
  scopedKey : String

/-- The store the job works on. -/
def TrustContext.store (ctx : TrustContext) : String :=
  resolveTrustAnchorStoreLabel ctx.anchor.anchorType

/-- The unique key of the row the call works on. -/
def TrustContext.key (ctx : TrustContext) (opts : TrustJobOptions) : TrustTuple × String :=
  ({ workspaceId := opts.workspaceId, agentId := opts.agentId, store := ctx.store
     fingerprintSha256 := ctx.anchor.fingerprintSha256 }, ctx.owner)

/-- `assertTargetAgentRegistered` and `assertTargetAgentEligibleForTrustJob`: of
    all the reasons an agent cannot claim, only the two that no heartbeat can
    cure block the creation. -/
def assertTargetAgent (workspaceId agentId : Nat) (compatibilityBlocked : Bool) (db : Db) :
    Except ServiceError Unit :=
  match selectOne (fun a => a.workspaceId = workspaceId ∧ a.id = agentId) db.agents with
  | none =>
    .error
      { message := "Target agent not found in this workspace"
        code := CERTOPS_TARGET_AGENT_NOT_FOUND }
  | some agent =>
    if agent.status = .retired then
      .error
        { message := "This agent has been retired and can no longer be assigned any job."
          code := CERTOPS_TARGET_AGENT_INELIGIBLE }
    else if compatibilityBlocked then
      .error
        { message := "This agent's build or protocol version is outside what this " ++
            "control plane accepts and can never claim a job until it is upgraded."
          code := CERTOPS_TARGET_AGENT_INELIGIBLE }
    else .ok ()

def lockTrustAnchor (opts : TrustJobOptions) (db : Db) : Except ServiceError AnchorRow :=
  match anchorById db opts.workspaceId opts.trustAnchorId with
  | none =>
    .error { message := "Trust anchor not found", code := CERTOPS_TRUST_ANCHOR_NOT_FOUND }
  | some anchor =>
    if opts.operation = .distributeTrust ∧ anchor.status ≠ .active then
      .error
        { message := "Trust anchor is retired and cannot be distributed; retire is not " ++
            "reversible without a fresh approval"
          code := CERTOPS_TRUST_ANCHOR_NOT_ACTIVE }
    else .ok anchor

/-- The normalisers of `createTrustJob` and the guards of `runCreateTrustJob`. -/
def trustContext (env : Env) (opts : TrustJobOptions) (reads : TrustReads) (db : Db) :
    Except ServiceError TrustContext := do
  require (isTrustAnchorOperation opts.operation)
    { message := "operation must be one of: distribute-trust, revoke-trust"
      code := CERTOPS_TRUST_JOB_OPERATION_INVALID }
  let owner ← normalizeOwner opts.owner
  let idempotencyKey ← normalizeIdempotencyKey opts.idempotencyKey
  let workspace ← lockWorkspaceForCertOpsSideEffect env opts.workspaceId db
  let anchor ← lockTrustAnchor opts db
  let store := resolveTrustAnchorStoreLabel anchor.anchorType
  let scopedKey := deriveTrustJobIdempotencyKey env opts.operation opts.trustAnchorId
    opts.agentId store owner idempotencyKey
  assertTargetAgent opts.workspaceId opts.agentId reads.compatibilityBlocked db
  return { workspace := workspace, anchor := anchor, owner := owner, scopedKey := scopedKey }

/-- `{ job, created, skippedOsMutation, transitionGeneration, installation }`. -/
structure TrustJobReply where
  job : Option JobRow
  created : Bool
  skippedOsMutation : Bool
  transitionGeneration : Nat
  installation : InstallationRow

/-- The options `runCreateTrustJob` hands to `createCertificateJob`. -/
def trustJobCreateOptions (opts : TrustJobOptions) (ctx : TrustContext) : CreateJobOptions :=
  { workspaceId := opts.workspaceId
    operation := opts.operation
    source := opts.source
    executorKind := some .agent
    subjectType := some .trustAnchor
    subjectId := some ctx.anchor.id
    payload :=
      { trust := some
          { trustAnchorId := ctx.anchor.id
            anchorType := ctx.anchor.anchorType
            fingerprintSha256 := ctx.anchor.fingerprintSha256
            metadata := opts.metadata } }
    requestedByUserId := opts.requestedByUserId
    requestedByApiTokenId := opts.requestedByApiTokenId
    idempotencyKey := some ctx.scopedKey
    assignedAgentId := some opts.agentId
    requiresApproval := opts.requiresApproval
    workspaceRequiresApprovalAlways := ctx.workspace.certopsRequireApprovalAlways }

/-- The tail of `runCreateTrustJob`: advance the row, create the job, then point
    the row at a NEW job or, on a replay, undo the advance. -/
def dispatchTrustJob (env : Env) (opts : TrustJobOptions) (reads : TrustReads)
    (ctx : TrustContext) (locked : InstallationRow) (db : Db) :
    Except ServiceError (TrustJobReply × Db) := do
  let advance := InstallationRow.advanced opts.operation db.now
  let (outcome, db') ← createCertificateJob env (trustJobCreateOptions opts ctx) reads.create
    (updateInstallation locked.id advance db)
  if outcome.created then
    .ok
      ({ job := some outcome.job, created := true, skippedOsMutation := false
         transitionGeneration := locked.transitionGeneration + 1
         installation := { advance locked with lastJobId := some outcome.job.id } },
        updateInstallation locked.id (fun r => { r with lastJobId := some outcome.job.id }) db')
  else
    .ok
      ({ job := some outcome.job, created := false, skippedOsMutation := false
         transitionGeneration := locked.transitionGeneration
         installation :=
          { locked with lastJobId := some (locked.lastJobId.getD outcome.job.id) } },
        updateInstallation locked.id (InstallationRow.restored locked) db')

/-- `findTrustReferenceReleaseIdempotencyRecord`. -/
def findTrustReferenceRelease (db : Db) (workspaceId : Nat) (key : String) : Option ReleaseRow :=
  selectOne (fun x => x.workspaceId = workspaceId ∧ x.idempotencyKey = key) db.releases

def releaseRow (opts : TrustJobOptions) (ctx : TrustContext) (installation : InstallationRow) :
    ReleaseRow :=
  { workspaceId := opts.workspaceId, trustAnchorId := ctx.anchor.id, agentId := opts.agentId
    store := ctx.store, owner := ctx.owner, operation := opts.operation
    idempotencyKey := ctx.scopedKey, installationSnapshot := installation }

/-- `recordTrustReferenceReleaseIdempotency`: `ON CONFLICT DO NOTHING`. -/
def recordTrustReferenceRelease (row : ReleaseRow) (db : Db) : Db :=
  match findTrustReferenceRelease db row.workspaceId row.idempotencyKey with
  | some _ => db
  | none => { db with releases := db.releases ++ [row] }

/-- A branch that releases the reference and creates NO job.  `last_job_id` is
    left as it is. -/
def releaseReference (opts : TrustJobOptions) (ctx : TrustContext) (locked : InstallationRow)
    (db : Db) : TrustJobReply × Db :=
  let installation := locked.released db.now
  ({ job := none, created := false, skippedOsMutation := true
     transitionGeneration := installation.transitionGeneration
     installation := installation },
    recordTrustReferenceRelease (releaseRow opts ctx installation)
      (updateInstallation locked.id (InstallationRow.released db.now) db))

/-- `matchesTuple` of the replay check. -/
def releaseMatches (opts : TrustJobOptions) (ctx : TrustContext) (x : ReleaseRow) : Bool :=
  x.trustAnchorId = opts.trustAnchorId ∧ x.agentId = opts.agentId ∧ x.store = ctx.store ∧
    x.owner = ctx.owner ∧ x.operation = opts.operation

/-- The answer to a replay of a release: the snapshot of the first call. -/
def releaseReply (x : ReleaseRow) : TrustJobReply :=
  { job := none, created := false, skippedOsMutation := true
    transitionGeneration := x.installationSnapshot.transitionGeneration
    installation := x.installationSnapshot }

/-- The `revoke-trust` branches on a tracked row: the replay of a release, the
    refusal of a row that is already removed, the two releases without a job, and
    the real removal. -/
def revokeTrust (env : Env) (opts : TrustJobOptions) (reads : TrustReads) (ctx : TrustContext)
    (locked : InstallationRow) (db : Db) : Except ServiceError (TrustJobReply × Db) :=
  match findTrustReferenceRelease db opts.workspaceId ctx.scopedKey with
  | some x =>
    if releaseMatches opts ctx x then .ok (releaseReply x, db)
    else
      .error
        { message := "Idempotency key was already used with a different CertOps " ++
            "trust-reference-release request"
          code := CERTOPS_TRUST_JOB_IDEMPOTENCY_CONFLICT }
  | none =>
    if locked.transitionState = .removed ∧
        (getJobByIdempotencyKey db opts.workspaceId (some ctx.scopedKey)).isNone then
      .error
        { message := "This installation has already been removed; nothing to revoke"
          code := CERTOPS_TRUST_INSTALLATION_NOT_FOUND }
    else if 0 < countOtherLiveReferences db (ctx.key opts) then
      .ok (releaseReference opts ctx locked db)
    else if !tupleHasTokenTimerInstalledRow db (ctx.key opts).1 then
      .ok (releaseReference opts ctx locked db)
    else dispatchTrustJob env opts reads ctx locked db

/-- `runCreateTrustJob` after its guards. -/
def runCreateTrustJob (env : Env) (opts : TrustJobOptions) (reads : TrustReads)
    (ctx : TrustContext) (db : Db) : Except ServiceError (TrustJobReply × Db) :=
  match installationByKey db (ctx.key opts) with
  | some locked =>
    if opts.operation = .revokeTrust then revokeTrust env opts reads ctx locked db
    else dispatchTrustJob env opts reads ctx locked db
  | none =>
    if opts.operation = .revokeTrust then
      .error
        { message := "No tracked installation exists for this agent/store/owner; nothing " ++
            "to remove"
          code := CERTOPS_TRUST_INSTALLATION_NOT_FOUND }
    else
      let row := freshInstallation db.nextId opts.trustAnchorId (ctx.key opts)
      dispatchTrustJob env opts reads ctx row
        { db with nextId := db.nextId + 1, installations := db.installations ++ [row] }

def createTrustJob (env : Env) (opts : TrustJobOptions) (reads : TrustReads) (db : Db) :
    Except ServiceError (TrustJobReply × Db) := do
  let ctx ← trustContext env opts reads db
  runCreateTrustJob env opts reads ctx db

end TokenTimer.CertOps
