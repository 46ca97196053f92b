/-
  TokenTimer.CertOps.Registration — how an agent registers with a bootstrap
  token (`registerAgent` of `apps/api/services/certops/agentDispatch.js`, with
  `agentCredentials.js` and `registrationCredentialCrypto.js`).

  A call authenticates with the raw token, opens a transaction, locks the row of
  the token, and then either replays the response of an earlier registration or
  mints a credential, inserts the agent, consumes the token and records the
  response for later replays.  Every statement is a step of its own; a
  transaction shows its writes when it commits, `NOW()` is its beginning, and a
  statement over a row that another transaction has locked waits.  A statement
  that fails rolls the transaction back.
-/

import TokenTimer.Lib.Runs
import TokenTimer.Lib.Table
import Mathlib.Logic.Function.Basic

namespace TokenTimer.CertOps.Registration

open Lib.Runs Lib.Table

/-! ## §1. Secrets and rows. -/

/-- A raw `ttboot_…` or `ttagent_…` secret: its public id and its secret part. -/
structure RawSecret where
  idPart : Nat
  secretPart : Nat
deriving DecidableEq, Repr

/-- `certops_agent_bootstrap_tokens.status`. -/
inductive TokenStatus
  | active | used | revoked | expired
deriving DecidableEq, Repr

/-- A row of `certops_agent_bootstrap_tokens`. -/
structure TokenRow where
  id : Nat
  workspaceId : Nat
  tokenPrefix : Nat
  tokenHash : Nat
  status : TokenStatus
  expiresAt : Nat
  usedByAgentId : Option Nat := none
deriving DecidableEq, Repr

/-- The columns of a row of `certops_agents` that say who the agent is. -/
structure AgentRow where
  id : Nat
  workspaceId : Nat
  agentId : String
  protocolVersion : String
  credentialPrefix : Nat
  credentialHash : Nat
  bootstrapTokenId : Nat
deriving DecidableEq, Repr

/-- What `ensureActiveSigningKey` returns. -/
structure SigningKey where
  signingKeyId : String
  publicKeyPem : String
deriving DecidableEq, Repr

/-- A row of `certops_agent_registration_replays`. -/
structure ReplayRow where
  workspaceId : Nat
  bootstrapTokenId : Nat
  registrationId : String
  agentId : String
  credentialCiphertext : List Nat
  encryptionVersion : Nat
  protocolVersion : String
  signingKeyId : Option String
  signingPublicKeyPem : Option String
  expiresAt : Nat
deriving DecidableEq, Repr

/-- What a registration answers. -/
structure Response where
  agentId : String
  credential : RawSecret
  protocolVersion : String
  signingKeyId : Option String
  signingPublicKeyPem : Option String
deriving DecidableEq, Repr

/-- One call: the token it presents (`none` is malformed), and its envelope. -/
structure Request where
  rawToken : Option RawSecret
  registrationId : String
  agentId : String
  protocolVersion : String

def ENCRYPTION_VERSION : Nat := 1

/-- The calls, the hash, and the encryption under the configured key, which
    fails where no key is set. -/
structure Config where
  request : Nat → Request
  sha256Hex : RawSecret → Nat
  /-- `encryptRegistrationCredential`, with the nonce it draws. -/
  encrypt : Nat → RawSecret → Option (List Nat)
  /-- `decryptRegistrationCredential`, by version and ciphertext. -/
  decrypt : Nat → List Nat → Option RawSecret
  decrypt_encrypt : ∀ iv credential ciphertext, encrypt iv credential = some ciphertext →
    decrypt ENCRYPTION_VERSION ciphertext = some credential
  registrationReplayTtlMs : Nat := 15 * 60 * 1000

/-! ## §2. Authentication. -/

def CERTOPS_AGENT_BOOTSTRAP_TOKEN_INVALID : String := "CERTOPS_AGENT_BOOTSTRAP_TOKEN_INVALID"
def CERTOPS_AGENT_BOOTSTRAP_TOKEN_MALFORMED : String := "CERTOPS_AGENT_BOOTSTRAP_TOKEN_MALFORMED"
def CERTOPS_AGENT_BOOTSTRAP_TOKEN_EXPIRED : String := "CERTOPS_AGENT_BOOTSTRAP_TOKEN_EXPIRED"
def CERTOPS_AGENT_BOOTSTRAP_TOKEN_USED : String := "CERTOPS_AGENT_BOOTSTRAP_TOKEN_USED"
def CERTOPS_AGENT_BOOTSTRAP_TOKEN_REVOKED : String := "CERTOPS_AGENT_BOOTSTRAP_TOKEN_REVOKED"
def CERTOPS_AGENT_CREDENTIAL_INVALID : String := "CERTOPS_AGENT_CREDENTIAL_INVALID"
def CERTOPS_AGENT_REGISTRATION_UNAUTHORIZED : String := "CERTOPS_AGENT_REGISTRATION_UNAUTHORIZED"
def CERTOPS_AGENT_REGISTRATION_CONFLICT : String := "CERTOPS_AGENT_REGISTRATION_CONFLICT"
def CERTOPS_AGENT_REQUEST_FAILED : String := "CERTOPS_AGENT_REQUEST_FAILED"

def validateBootstrapToken (cfg : Config) (now : Nat) (tokens : List TokenRow)
    (rawToken : Option RawSecret) (allowUsed : Bool) : Except String TokenRow :=
  match rawToken with
  | none => .error CERTOPS_AGENT_BOOTSTRAP_TOKEN_MALFORMED
  | some parsed =>
    match selectOne (fun t => t.tokenPrefix = parsed.idPart) tokens with
    | none => .error CERTOPS_AGENT_BOOTSTRAP_TOKEN_INVALID
    | some row =>
      if cfg.sha256Hex parsed ≠ row.tokenHash then .error CERTOPS_AGENT_BOOTSTRAP_TOKEN_INVALID
      else
        match row.status with
        | .used => if allowUsed then .ok row else .error CERTOPS_AGENT_BOOTSTRAP_TOKEN_USED
        | .revoked => .error CERTOPS_AGENT_BOOTSTRAP_TOKEN_REVOKED
        | .expired => .error CERTOPS_AGENT_BOOTSTRAP_TOKEN_EXPIRED
        | .active =>
          if row.expiresAt ≤ now then .error CERTOPS_AGENT_BOOTSTRAP_TOKEN_EXPIRED else .ok row

/-- `validateAgentCredential`, of a credential that parses. -/
def validateAgentCredential (cfg : Config) (agents : List AgentRow) (rawCredential : RawSecret) :
    Except String AgentRow :=
  match selectOne (fun a => a.credentialPrefix = rawCredential.idPart) agents with
  | none => .error CERTOPS_AGENT_CREDENTIAL_INVALID
  | some row =>
    if cfg.sha256Hex rawCredential ≠ row.credentialHash then .error CERTOPS_AGENT_CREDENTIAL_INVALID
    else .ok row

/-! ## §3. The replay. -/

def findRegistrationReplay (replays : List ReplayRow) (bootstrapTokenId : Nat) (registrationId : String)
    (now : Nat) : Option ReplayRow :=
  selectOne (fun r => r.bootstrapTokenId = bootstrapTokenId ∧ r.registrationId = registrationId ∧
    now < r.expiresAt) replays

/-- `registrationReplayResponse`; an envelope that cannot be read is no replay. -/
def registrationReplayResponse (cfg : Config) (row : ReplayRow) : Option Response :=
  (cfg.decrypt row.encryptionVersion row.credentialCiphertext).map fun credential =>
    { agentId := row.agentId, credential, protocolVersion := row.protocolVersion,
      signingKeyId := row.signingKeyId, signingPublicKeyPem := row.signingPublicKeyPem }

/-! ## §4. Where a call is. -/

/-- An open transaction: the token as the call authenticated with it, and `NOW()`. -/
structure Tx where
  token : TokenRow
  now : Nat
deriving DecidableEq, Repr

/-- What a call has prepared before it inserts anything. -/
structure Minted where
  credential : RawSecret
  ciphertext : List Nat
  signingKey : Option SigningKey
deriving DecidableEq, Repr

/-- What a call of `registerAgent` does next. -/
inductive Phase
  | idle
  /-- The middleware let it pass; it begins its transaction. -/
  | authenticated (token : TokenRow)
  /-- `SELECT … FROM certops_agent_bootstrap_tokens … FOR UPDATE`. -/
  | begun (tx : Tx)
  /-- `findRegistrationReplay`. -/
  | locked (tx : Tx) (status : TokenStatus)
  /-- The signing key, the credential and its envelope. -/
  | missed (tx : Tx) (status : TokenStatus)
  /-- `INSERT INTO certops_agents … ON CONFLICT DO NOTHING`. -/
  | generated (tx : Tx) (minted : Minted)
  /-- `replaceAssetContactGroups` and `consumeBootstrapToken`. -/
  | inserted (tx : Tx) (minted : Minted) (agent : AgentRow)
  /-- `INSERT INTO certops_agent_registration_replays … ON CONFLICT DO NOTHING`. -/
  | consumed (tx : Tx) (minted : Minted) (agent : AgentRow)
  /-- The audit row and `COMMIT`. -/
  | recorded (tx : Tx) (minted : Minted) (agent : AgentRow) (replay : Option ReplayRow)
  /-- The answer, with the token the call authenticated with. -/
  | done (tokenId : Option Nat) (result : Except String Response)

/-- The transaction of a call that has locked the row of its token. -/
def Phase.tx : Phase → Option Tx
  | .locked tx _ | .missed tx _ | .generated tx _ | .inserted tx _ _ | .consumed tx _ _
  | .recorded tx _ _ _ => some tx
  | _ => none

/-- A registration that committed: what it read of the token it consumed, and
    what it answered. -/
structure Creation where
  token : TokenRow
  now : Nat
  registrationId : String
  agent : AgentRow
  response : Response
deriving DecidableEq, Repr

/-- The committed tables, the row locks, the agents that open transactions have
    inserted, and where each call is.  `created` are the registrations. -/
structure State where
  now : Nat
  tokens : List TokenRow
  agents : List AgentRow
  replays : List ReplayRow
  nextAgentId : Nat
  lockedBy : Nat → Option Nat
  inserting : List (Nat × AgentRow)
  phase : Nat → Phase
  created : List Creation

def State.initial : State :=
  ⟨0, [], [], [], 0, fun _ => none, [], fun _ => .idle, []⟩

/-- What the code around a statement answers: whether it fails, and what
    `generateAgentCredential`, the cipher and `ensureActiveSigningKey` draw. -/
structure Env where
  fails : Bool := false
  credential : RawSecret := ⟨0, 0⟩
  iv : Nat := 0
  signingKey : Option SigningKey := none

def State.setPhase (s : State) (p : Nat) (phase : Phase) : State :=
  { s with phase := Function.update s.phase p phase }

/-- A row lock of the call `p`. -/
def State.lock (s : State) (p tokenId : Nat) : State :=
  { s with lockedBy := Function.update s.lockedBy tokenId (some p) }

/-- An agent that is inserted but not committed. -/
def State.insert (s : State) (p : Nat) (agent : AgentRow) : State :=
  { s with nextAgentId := s.nextAgentId + 1, inserting := s.inserting ++ [(p, agent)] }

/-- The end of a transaction: its locks and its pending rows are gone. -/
def State.finish (s : State) (p : Nat) (tokenId : Nat) (result : Except String Response) : State :=
  { s with
    lockedBy := fun t => if s.lockedBy t = some p then none else s.lockedBy t
    inserting := s.inserting.filter (·.1 ≠ p) }.setPhase p (.done (some tokenId) result)

/-! ## §5. The statements. -/

/-- Two agents that no two rows of the table may be. -/
def AgentRow.clashes (a b : AgentRow) : Bool :=
  (a.workspaceId = b.workspaceId ∧ a.agentId = b.agentId) ∨
    a.credentialPrefix = b.credentialPrefix ∨ a.credentialHash = b.credentialHash

/-- The row that a registration inserts. -/
def newAgent (cfg : Config) (request : Request) (tx : Tx) (minted : Minted) (id : Nat) : AgentRow where
  id := id
  workspaceId := tx.token.workspaceId
  agentId := request.agentId
  protocolVersion := request.protocolVersion
  credentialPrefix := minted.credential.idPart
  credentialHash := cfg.sha256Hex minted.credential
  bootstrapTokenId := tx.token.id

/-- What a registration answers. -/
def newResponse (agent : AgentRow) (minted : Minted) : Response where
  agentId := agent.agentId
  credential := minted.credential
  protocolVersion := agent.protocolVersion
  signingKeyId := minted.signingKey.map (·.signingKeyId)
  signingPublicKeyPem := minted.signingKey.map (·.publicKeyPem)

def newReplay (cfg : Config) (request : Request) (tx : Tx) (minted : Minted) (agent : AgentRow) :
    ReplayRow where
  workspaceId := tx.token.workspaceId
  bootstrapTokenId := tx.token.id
  registrationId := request.registrationId
  agentId := agent.agentId
  credentialCiphertext := minted.ciphertext
  encryptionVersion := ENCRYPTION_VERSION
  protocolVersion := agent.protocolVersion
  signingKeyId := minted.signingKey.map (·.signingKeyId)
  signingPublicKeyPem := minted.signingKey.map (·.publicKeyPem)
  expiresAt := tx.now + cfg.registrationReplayTtlMs / 1000 * 1000

/-- `consumeBootstrapToken`'s WHERE. -/
def TokenRow.consumable (tokenId now : Nat) (row : TokenRow) : Bool :=
  row.id = tokenId ∧ row.status = .active ∧ now < row.expiresAt

/-- `consumeBootstrapToken`'s SET. -/
def TokenRow.consume (agentRowId : Nat) (row : TokenRow) : TokenRow :=
  { row with status := .used, usedByAgentId := some agentRowId }

/-- What a registration leaves in the history when it commits. -/
def State.creation (s : State) (request : Request) (tx : Tx) (minted : Minted) (agent : AgentRow) :
    Creation where
  token := (selectOne (·.id = tx.token.id) s.tokens).getD tx.token
  now := tx.now
  registrationId := request.registrationId
  agent := agent
  response := newResponse agent minted

/-- The writes of a registration, as its `COMMIT` shows them. -/
def commitRegistration (request : Request) (tx : Tx) (minted : Minted) (agent : AgentRow)
    (replay : Option ReplayRow) (s : State) : State :=
  { s with
    tokens := updateWhere (TokenRow.consumable tx.token.id tx.now) (TokenRow.consume agent.id) s.tokens
    agents := s.agents ++ [agent]
    replays := s.replays ++ replay.toList
    created := s.created ++ [s.creation request tx minted agent] }

/-- The next statement of the call `p`; `none` where it waits. -/
def registerStep (cfg : Config) (p : Nat) (env : Env) (s : State) : Option State :=
  let request := cfg.request p
  let rollback (tx : Tx) (code : String) := some (s.finish p tx.token.id (.error code))
  let unauthorized := CERTOPS_AGENT_REGISTRATION_UNAUTHORIZED
  let failed := CERTOPS_AGENT_REQUEST_FAILED
  match s.phase p with
  | .idle | .done _ _ => none
  | .authenticated token => some (s.setPhase p (.begun ⟨token, s.now⟩))
  | .begun tx =>
    if env.fails then rollback tx failed
    else if (s.lockedBy tx.token.id).isSome then none
    else
      match selectOne (·.id = tx.token.id) s.tokens with
      | none => rollback tx unauthorized
      | some row =>
        some ((s.lock p tx.token.id).setPhase p (.locked tx row.status))
  | .locked tx status =>
    if env.fails then rollback tx failed
    else
      match (findRegistrationReplay s.replays tx.token.id request.registrationId tx.now).bind
          (registrationReplayResponse cfg) with
      | some response => some (s.finish p tx.token.id (.ok response))
      | none => some (s.setPhase p (.missed tx status))
  | .missed tx status =>
    if env.fails then rollback tx failed
    -- Spent token and unknown registrationId.
    else if status = .used then rollback tx unauthorized
    else
      match cfg.encrypt env.iv env.credential with
      | none => rollback tx failed
      | some ciphertext =>
        some (s.setPhase p (.generated tx ⟨env.credential, ciphertext, env.signingKey⟩))
  | .generated tx minted =>
    let agent := newAgent cfg request tx minted s.nextAgentId
    if env.fails then rollback tx failed
    -- The insert waits for an open transaction with a row it clashes with.
    else if s.inserting.any (·.2.clashes agent) then none
    else if s.agents.any (·.clashes agent) then rollback tx CERTOPS_AGENT_REGISTRATION_CONFLICT
    else
      some ((s.insert p agent).setPhase p (.inserted tx minted agent))
  | .inserted tx minted agent =>
    if env.fails then rollback tx failed
    else if s.tokens.any (TokenRow.consumable tx.token.id tx.now) then
      some (s.setPhase p (.consumed tx minted agent))
    else rollback tx unauthorized
  | .consumed tx minted agent =>
    if env.fails then rollback tx failed
    else
      let replay := newReplay cfg request tx minted agent
      let conflict := s.replays.any fun r =>
        r.bootstrapTokenId = replay.bootstrapTokenId ∧ r.registrationId = replay.registrationId
      some (s.setPhase p (.recorded tx minted agent (if conflict then none else some replay)))
  | .recorded tx minted agent replay =>
    if env.fails then rollback tx failed
    else
      some ((commitRegistration request tx minted agent replay s).finish p tx.token.id
        (.ok (newResponse agent minted)))

/-! ## §6. Runs. -/

inductive Label
  | tick (ms : Nat)
  | createBootstrapToken (id workspaceId : Nat) (raw : RawSecret) (expiresAt : Nat)
  | revokeBootstrapToken (workspaceId tokenId : Nat)
  /-- `sweepExpiredRegistrationReplays`, with the rows its LIMIT lets it take. -/
  | sweepExpiredRegistrationReplays (rows : List ReplayRow)
  /-- A call arrives at the middleware. -/
  | call (p : Nat)
  | step (p : Nat) (env : Env)

/-- `revokeBootstrapToken`'s WHERE. -/
def TokenRow.revocable (workspaceId tokenId : Nat) (row : TokenRow) : Bool :=
  row.workspaceId = workspaceId ∧ row.id = tokenId ∧ row.status = .active

/-- One step of the system; `none` where it is not possible now. -/
def next (cfg : Config) (s : State) : Label → Option State
  | .tick ms => some { s with now := s.now + ms }
  | .createBootstrapToken id workspaceId raw expiresAt =>
    if s.tokens.any (fun t => t.id = id ∨ t.tokenPrefix = raw.idPart ∨ t.tokenHash = cfg.sha256Hex raw)
    then none
    else
      some
        { s with
          tokens := s.tokens ++
            [{ id, workspaceId, tokenPrefix := raw.idPart, tokenHash := cfg.sha256Hex raw,
               status := .active, expiresAt }] }
  | .revokeBootstrapToken workspaceId tokenId =>
    if (s.lockedBy tokenId).isSome then none
    else
      some
        { s with
          tokens := updateWhere (TokenRow.revocable workspaceId tokenId)
            (fun t => { t with status := .revoked }) s.tokens }
  | .sweepExpiredRegistrationReplays rows =>
    some { s with replays := deleteWhere (fun r => r.expiresAt < s.now ∧ r ∈ rows) s.replays }
  | .call p =>
    match s.phase p with
    | .idle =>
      match validateBootstrapToken cfg s.now s.tokens (cfg.request p).rawToken true with
      | .ok token => some (s.setPhase p (.authenticated token))
      | .error code => some (s.setPhase p (.done none (.error code)))
    | _ => none
  | .step p env => registerStep cfg p env s

def registrationSystem (cfg : Config) : System State Label where
  init s := s = .initial
  step s a t := next cfg s a = some t

end TokenTimer.CertOps.Registration
