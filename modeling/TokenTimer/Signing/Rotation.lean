/-
  TokenTimer.Signing.Rotation — the Ed25519 job-signing keys and their rotation
  (`apps/api/services/certops/jobSigning.js`, key lifecycle).

  The deployment has ONE table `certops_signing_keys`, with a unique index on
  `signing_key_id` and a partial unique index that allows a single row with
  status `active`, and one table `certops_signing_key_acks`, unique on
  (agent, key) and with a foreign key to `certops_agents`.

  The rotation is run by the operator script on the connection POOL, so a
  statement of `beginSigningKeyRotation` that succeeded stays even when a later
  one fails: the functions here return the result AND the tables they leave.

  Key generation, PEM export and the AES-GCM envelope are the inputs `pem` and
  `envelope` of the generated key; the environment key is the flag
  `encryptionKeyOk` (set and 64 hex characters).
-/

import Mathlib.Data.List.Dedup
import Mathlib.Data.List.Sort
import TokenTimer.Basic
import TokenTimer.Lib.Runs

namespace TokenTimer.Signing

open Lib.Table Lib.Runs

/-! ## §1. Tables. -/

/-- `certops_signing_keys.status`. -/
inductive KeyStatus
  | active | retiring | retired
deriving DecidableEq, Repr

/-- A row of `certops_signing_keys`. -/
structure SigningKeyRow where
  id : Nat
  signingKeyId : String
  publicKeyPem : String
  privateKeyEncrypted : String
  encryptionVersion : Nat
  status : KeyStatus
  supersedesSigningKeyId : Option String
  rotationStartedAt : Option Nat
  rotationForcedAt : Option Nat
  rotationForceReason : Option String
  retiredAt : Option Nat
  createdAt : Nat
  updatedAt : Nat
deriving DecidableEq, Repr

/-- A row of `certops_signing_key_acks`. -/
structure SigningKeyAckRow where
  workspaceId : Nat
  agentId : Nat
  signingKeyId : String
  acknowledgedAt : Nat
deriving DecidableEq, Repr

/-- The tables of the rotation, and the clock. -/
structure SigningDb where
  now : Nat
  agents : List AgentRow
  keys : List SigningKeyRow
  acks : List SigningKeyAckRow
deriving DecidableEq, Repr

def SigningDb.empty : SigningDb := { now := 0, agents := [], keys := [], acks := [] }

/-! ## §2. The two row selections. -/

inductive KeyColumn
  | id | signingKeyId | publicKeyPem | privateKeyEncrypted | encryptionVersion | status
  | supersedesSigningKeyId | rotationStartedAt | rotationForcedAt | rotationForceReason
deriving DecidableEq, Repr

/-- A result row of a key query.  `supersedesSigningKeyId` is `none` both for a
    NULL and for a column the query did not select: reading either in
    JavaScript is falsy. -/
structure KeyResultRow where
  id : Nat
  signingKeyId : String
  publicKeyPem : String
  supersedesSigningKeyId : Option String
deriving DecidableEq, Repr

/-- The result row of `SELECT cols`. -/
def SigningKeyRow.project (cols : List KeyColumn) (row : SigningKeyRow) : KeyResultRow :=
  { id := row.id
    signingKeyId := row.signingKeyId
    publicKeyPem := row.publicKeyPem
    supersedesSigningKeyId :=
      if KeyColumn.supersedesSigningKeyId ∈ cols then row.supersedesSigningKeyId else none }

/-- The select list of `selectActiveKeyRow`. -/
def activeKeyColumns : List KeyColumn :=
  [.id, .signingKeyId, .publicKeyPem, .privateKeyEncrypted, .encryptionVersion, .status]

/-- The select list of `selectRetiringKeyRow`. -/
def retiringKeyColumns : List KeyColumn :=
  [.id, .signingKeyId, .publicKeyPem, .status, .supersedesSigningKeyId, .rotationStartedAt,
    .rotationForcedAt, .rotationForceReason]

/-- The stored row that `selectActiveKeyRow` reads. -/
def activeKey (keys : List SigningKeyRow) : Option SigningKeyRow :=
  selectOne (fun k => k.status = .active) keys

def selectActiveKeyRow (keys : List SigningKeyRow) : Option KeyResultRow :=
  (activeKey keys).map (SigningKeyRow.project activeKeyColumns)

/-- `ORDER BY rotation_started_at DESC NULLS LAST, created_at DESC`. -/
def retiringBefore (a b : SigningKeyRow) : Bool :=
  match a.rotationStartedAt, b.rotationStartedAt with
  | some x, some y => y < x ∨ (x = y ∧ b.createdAt ≤ a.createdAt)
  | some _, none => true
  | none, some _ => false
  | none, none => b.createdAt ≤ a.createdAt

/-- The stored row that `selectRetiringKeyRow` reads. -/
def retiringKey (keys : List SigningKeyRow) : Option SigningKeyRow :=
  ((keys.filter fun k => k.status = .retiring).insertionSort
    (fun a b => retiringBefore a b = true)).head?

def selectRetiringKeyRow (keys : List SigningKeyRow) : Option KeyResultRow :=
  (retiringKey keys).map (SigningKeyRow.project retiringKeyColumns)

/-! ## §3. Key creation. -/

def CERTOPS_SIGNING_ENCRYPTION_KEY_MISSING : String := "CERTOPS_SIGNING_ENCRYPTION_KEY_MISSING"
def CERTOPS_SIGNING_KEY_UNAVAILABLE : String := "CERTOPS_SIGNING_KEY_UNAVAILABLE"

structure GeneratedKey where
  id : Nat
  signingKeyId : String
  publicKeyPem : String
  privateKeyEncrypted : String
deriving DecidableEq, Repr

/-- `getEncryptionKey`'s refusal. -/
def encryptionKeyMissing : ServiceError :=
  { message := "CERTOPS_SIGNING_ENCRYPTION_KEY is not set or malformed (expected 64 hex chars = " ++
      "32 bytes); refusing to handle the job-signing private key"
    code := CERTOPS_SIGNING_ENCRYPTION_KEY_MISSING }

/-- Whether an insert of an `active` row violates a unique index. -/
def keyConflict (keys : List SigningKeyRow) (gen : GeneratedKey) : Bool :=
  keys.any fun k => k.status = .active ∨ k.signingKeyId = gen.signingKeyId ∨ k.id = gen.id

/-- The row an insert adds, with `ENCRYPTION_VERSION` 1. -/
def newKeyRow (now : Nat) (gen : GeneratedKey) (supersedes : Option String)
    (rotationStartedAt : Option Nat) : SigningKeyRow :=
  { id := gen.id, signingKeyId := gen.signingKeyId, publicKeyPem := gen.publicKeyPem
    privateKeyEncrypted := gen.privateKeyEncrypted, encryptionVersion := 1, status := .active
    supersedesSigningKeyId := supersedes, rotationStartedAt := rotationStartedAt
    rotationForcedAt := none, rotationForceReason := none, retiredAt := none
    createdAt := now, updatedAt := now }

/-- `publicInfoFromRow`. -/
structure KeyPublicInfo where
  signingKeyId : String
  publicKeyPem : String
  supersedesSigningKeyId : Option String := none
deriving DecidableEq, Repr

def publicInfoFromRow (row : KeyResultRow) : KeyPublicInfo :=
  { signingKeyId := row.signingKeyId, publicKeyPem := row.publicKeyPem }

/-- `ensureActiveSigningKey`: the active key, generated when there is none, with
    `INSERT … ON CONFLICT DO NOTHING` and a re-select. -/
def ensureActiveSigningKey (encryptionKeyOk : Bool) (gen : GeneratedKey) (db : SigningDb) :
    Except ServiceError KeyPublicInfo × SigningDb :=
  match selectActiveKeyRow db.keys with
  | some existing => (.ok (publicInfoFromRow existing), db)
  | none =>
    if !encryptionKeyOk then (.error encryptionKeyMissing, db)
    else if keyConflict db.keys gen then
      -- DO NOTHING inserted nothing; the re-select finds the winner, if any.
      match selectActiveKeyRow db.keys with
      | some winner => (.ok (publicInfoFromRow winner), db)
      | none =>
        (.error
          { message := "Active signing key could not be created or found"
            code := CERTOPS_SIGNING_KEY_UNAVAILABLE }, db)
    else
      (.ok { signingKeyId := gen.signingKeyId, publicKeyPem := gen.publicKeyPem },
        { db with keys := db.keys ++ [newKeyRow db.now gen none none] })

/-- The UPDATE of `beginSigningKeyRotation`: the current key starts retiring. -/
def startRetiring (now id : Nat) (keys : List SigningKeyRow) : List SigningKeyRow :=
  updateWhere (fun k => k.id = id ∧ k.status = .active)
    (fun k => { k with
      status := .retiring
      rotationStartedAt := some (k.rotationStartedAt.getD now)
      updatedAt := now }) keys

def beginSigningKeyRotation (encryptionKeyOk : Bool) (gen : GeneratedKey) (db : SigningDb) :
    Except ServiceError KeyPublicInfo × SigningDb :=
  if !encryptionKeyOk then (.error encryptionKeyMissing, db)
  else
    match selectActiveKeyRow db.keys with
    | none => ensureActiveSigningKey encryptionKeyOk gen db
    | some current =>
      match selectRetiringKeyRow db.keys with
      | some _ =>
        (.error
          { message := "A signing-key rotation is already in progress"
            code := CERTOPS_SIGNING_KEY_UNAVAILABLE }, db)
      | none =>
        let keys := startRetiring db.now current.id db.keys
        if keyConflict keys gen then
          -- The INSERT raises 23505; on the pool the UPDATE above has committed.
          (.error
            { message := "duplicate key value violates unique constraint", code := "23505" },
            { db with keys := keys })
        else
          (.ok
            { signingKeyId := gen.signingKeyId, publicKeyPem := gen.publicKeyPem
              supersedesSigningKeyId := some current.signingKeyId },
            { db with
              keys := keys ++
                [newKeyRow db.now gen (some current.signingKeyId) (some db.now)] })

/-! ## §4. Notice, acknowledgement, completion. -/

structure RotationNotice where
  pendingSigningKeyId : String
  pendingPublicKeyPem : String
  supersedesSigningKeyId : Option String
  status : String
deriving DecidableEq, Repr

/-- A JavaScript string is truthy when it is present and not empty. -/
def truthy (s : Option String) : Bool :=
  match s with
  | none => false
  | some x => x ≠ ""

def getSigningKeyRotationNotice (pinnedSigningKeyId : Option String) (db : SigningDb) :
    Option RotationNotice :=
  match selectActiveKeyRow db.keys with
  | none => none
  | some active =>
    if truthy pinnedSigningKeyId ∧ pinnedSigningKeyId = some active.signingKeyId then none
    else
      let retiring := selectRetiringKeyRow db.keys
      if retiring.isNone ∧ !truthy active.supersedesSigningKeyId then none
      else
        some
          { pendingSigningKeyId := active.signingKeyId
            pendingPublicKeyPem := active.publicKeyPem
            supersedesSigningKeyId :=
              if truthy active.supersedesSigningKeyId then active.supersedesSigningKeyId
              else retiring.map (·.signingKeyId)
            status := "pending_ack" }

/-- A character of `SIGNING_KEY_ID_PATTERN`. -/
def isSigningKeyIdChar (c : Char) : Bool :=
  ('A' ≤ c ∧ c ≤ 'Z') ∨ ('a' ≤ c ∧ c ≤ 'z') ∨ ('0' ≤ c ∧ c ≤ '9') ∨
    c = '_' ∨ c = '.' ∨ c = ':' ∨ c = '-'

/-- `SIGNING_KEY_ID_PATTERN.test`: `^[A-Za-z0-9_.:-]{1,128}$`. -/
def signingKeyIdPattern (s : String) : Bool :=
  s.toList.all isSigningKeyIdChar ∧ 1 ≤ s.toList.length ∧ s.toList.length ≤ 128

/-- `acknowledgeSigningKey`: the upsert on (agent, key).  An agent row that does
    not exist violates the foreign key. -/
def acknowledgeSigningKey (workspaceId agentRowId : Nat) (signingKeyId : String)
    (db : SigningDb) : Except ServiceError Bool × SigningDb :=
  let key := jsTrim signingKeyId
  if !signingKeyIdPattern key then (.ok false, db)
  else if !db.agents.any fun a => a.id = agentRowId then
    (.error { message := "violates foreign key constraint", code := "23503" }, db)
  else if db.acks.any fun x => x.agentId = agentRowId ∧ x.signingKeyId = key then
    (.ok true, { db with
      acks := updateWhere (fun x => x.agentId = agentRowId ∧ x.signingKeyId = key)
        (fun x => { x with acknowledgedAt := db.now }) db.acks })
  else
    (.ok true, { db with
      acks := db.acks ++
        [{ workspaceId := workspaceId, agentId := agentRowId
           signingKeyId := key, acknowledgedAt := db.now }] })

/-- The fleet of the completion gate: `status = 'active'` and not diagnostic. -/
def inFleet (a : AgentRow) : Bool :=
  a.status = .active ∧ a.agentKind ≠ .diagnostic

/-- `COUNT(*)` of the fleet. -/
def activeAgents (db : SigningDb) : Nat :=
  (db.agents.filter inFleet).length

/-- `COUNT(DISTINCT agent_id)` of the acknowledgements of a key. -/
def ackCount (signingKeyId : String) (db : SigningDb) : Nat :=
  ((db.acks.filter fun x => x.signingKeyId = signingKeyId).map (·.agentId)).dedup.length

/-- The result of `completeSigningKeyRotation`. -/
inductive CompleteResult
  | noRetiringKey
  | fleetIncomplete (activeAgents ackCount : Nat)
  | completed (forced : Bool) (retiredSigningKeyId activeSigningKeyId : String)
      (activeAgents ackCount : Nat)
deriving DecidableEq, Repr

/-- `result.completed`. -/
def CompleteResult.isCompleted : CompleteResult → Bool
  | .completed .. => true
  | _ => false

/-- The reason recorded when a forced completion gives none. -/
def defaultForceReason : String :=
  "Forced incomplete rotation: retiring key stopped before full fleet acknowledgement"

/-- The UPDATE of `completeSigningKeyRotation`. -/
def retireKey (now id : Nat) (force : Bool) (reason : Option String)
    (keys : List SigningKeyRow) : List SigningKeyRow :=
  updateWhere (fun k => k.id = id ∧ k.status = .retiring)
    (fun k => { k with
      status := .retired
      retiredAt := some now
      rotationForcedAt := if force then some now else k.rotationForcedAt
      rotationForceReason :=
        if force then
          (if truthy reason then reason else some defaultForceReason)
        else k.rotationForceReason
      updatedAt := now }) keys

def completeSigningKeyRotation (force : Bool) (reason : Option String) (db : SigningDb) :
    Except ServiceError CompleteResult × SigningDb :=
  match selectRetiringKeyRow db.keys with
  | none => (.ok .noRetiringKey, db)
  | some retiring =>
    match selectActiveKeyRow db.keys with
    | none =>
      (.error
        { message := "No active CertOps signing key is available"
          code := CERTOPS_SIGNING_KEY_UNAVAILABLE }, db)
    | some active =>
      let active_agents := activeAgents db
      let ack_count := ackCount active.signingKeyId db
      let fullyAcked : Bool := active_agents = 0 ∨ ack_count ≥ active_agents
      if !fullyAcked && !force then
        (.ok (.fleetIncomplete active_agents ack_count), db)
      else
        (.ok (.completed (force && !fullyAcked) retiring.signingKeyId active.signingKeyId
          active_agents ack_count),
          { db with keys := retireKey db.now retiring.id force reason db.keys })

/-! ## §5. The system. -/

/-- The calls that touch the rotation's tables. -/
inductive SigningCall
  /-- Registration (or a diagnostic bootstrap): ensures the key, inserts the row. -/
  | registerAgent (encryptionKeyOk : Bool) (gen : GeneratedKey) (id workspaceId : Nat)
      (kind : AgentKind) (sequence : Option Nat)
  /-- A heartbeat, with the key id the agent has pinned. -/
  | recordHeartbeat (agentRowId workspaceId : Nat) (sequence : Option Nat)
      (pinnedSigningKeyId : Option String)
  | acknowledgeSigningKey (workspaceId agentRowId : Nat) (signingKeyId : String)
  /-- The worker's stale sweep of one agent. -/
  | markAgentOffline (agentRowId offlineAfterMs : Nat)
  | retireAgent (workspaceId agentRowId : Nat)
  | ensureActiveSigningKey (encryptionKeyOk : Bool) (gen : GeneratedKey)
  | beginSigningKeyRotation (encryptionKeyOk : Bool) (gen : GeneratedKey)
  | completeSigningKeyRotation (force : Bool) (reason : Option String)
  /-- Time passes. -/
  | tick (ms : Nat)
deriving DecidableEq, Repr

/-- Registration's transaction: an error rolls the key insert back. -/
def registerAgent (encryptionKeyOk : Bool) (gen : GeneratedKey) (id workspaceId : Nat)
    (kind : AgentKind) (sequence : Option Nat) (db : SigningDb) : SigningDb :=
  match ensureActiveSigningKey encryptionKeyOk gen db with
  | (.error _, _) => db
  | (.ok _, db') =>
    if db.agents.any fun a => a.id = id then db
    else
      { db' with
        agents := db.agents ++ [{ id := id, workspaceId := workspaceId, agentKind := kind
                                  status := .active, lastSeenAt := none, createdAt := db.now
                                  pinnedSigningKeyId := none, lastSequence := sequence.getD 0
                                  retiredAt := none }] }

/-- `COALESCE($5, pinned_signing_key_id)` and the touch of `recordHeartbeat`. -/
def heartbeatRow (now : Nat) (pinned : Option String) (a : AgentRow) : AgentRow :=
  { a.touch now with pinnedSigningKeyId := pinned <|> a.pinnedSigningKeyId }

/-- The row the heartbeat UPDATE returns; a retired agent is frozen. -/
def liveAgent (agents : List AgentRow) (agentRowId : Nat) : Except ServiceError AgentRow :=
  match selectOne (fun a => a.id = agentRowId ∧ a.status ≠ .retired) agents with
  | none => .error { message := "Agent is retired", code := CERTOPS_AGENT_RETIRED }
  | some row => .ok row

/-- The acknowledgement inside the heartbeat, when the body pins a key. -/
def ackPinned (workspaceId agentRowId : Nat) (pinned : Option String) (db : SigningDb) :
    Except ServiceError SigningDb :=
  match pinned with
  | none => .ok db
  | some key =>
    match acknowledgeSigningKey workspaceId agentRowId key db with
    | (.error e, _) => .error e
    | (.ok _, db') => .ok db'

/-- The heartbeat UPDATE on its live row. -/
def touchAgent (agentRowId : Nat) (pinned : Option String) (agents : List AgentRow)
    (db : SigningDb) : SigningDb :=
  { db with
    agents := updateWhere (fun a => a.id = agentRowId ∧ a.status ≠ .retired)
      (heartbeatRow db.now pinned) agents }

/-- `recordHeartbeat`, one transaction: sequence check, touch, acknowledgement
    and the notice it answers with. -/
def recordHeartbeat (agentRowId workspaceId : Nat) (sequence : Option Nat)
    (pinnedSigningKeyId : Option String) (db : SigningDb) :
    Except ServiceError (Option RotationNotice × SigningDb) := do
  let pinned := if truthy pinnedSigningKeyId then pinnedSigningKeyId else none
  let agents ← enforceAgentSequence db.agents agentRowId sequence
  let row ← liveAgent agents agentRowId
  let acked ← ackPinned workspaceId agentRowId pinned (touchAgent agentRowId pinned agents db)
  .ok (getSigningKeyRotationNotice (pinned <|> row.pinnedSigningKeyId) acked, acked)

def runCall (call : SigningCall) (db : SigningDb) : SigningDb :=
  match call with
  | .registerAgent ok gen id ws kind seq => registerAgent ok gen id ws kind seq db
  | .recordHeartbeat a ws seq pinned =>
    match recordHeartbeat a ws seq pinned db with
    | .error _ => db
    | .ok (_, db') => db'
  | .acknowledgeSigningKey ws a key => (acknowledgeSigningKey ws a key db).2
  | .markAgentOffline a after =>
    { db with
      agents := updateWhere (fun r => r.id = a ∧ r.isStale db.now after)
        (fun r => { r with status := .offline }) db.agents }
  | .retireAgent ws a => { db with agents := retireAgentRow db.now ws a db.agents }
  | .ensureActiveSigningKey ok gen => (ensureActiveSigningKey ok gen db).2
  | .beginSigningKeyRotation ok gen => (beginSigningKeyRotation ok gen db).2
  | .completeSigningKeyRotation force reason => (completeSigningKeyRotation force reason db).2
  | .tick ms => { db with now := db.now + ms }

def rotationSystem : System SigningDb SigningCall where
  init db := db = SigningDb.empty
  step db call db' := runCall call db = db'

end TokenTimer.Signing
