/-
  TokenTimer.Recipients.Consent — recipient verification
  (`packages/recipient-verification/index.js`, in `enforce` mode).

  Consent lives in three tables: `contact_channel_verifications` (one row for each
  contact and channel), `contact_verification_challenges` (the invitations) and
  `notification_suppressions` (by destination).  What changes a verification locks the
  row of its contact first, so a call is one step; only the preview of a challenge is
  read before the lock, and is a step of its own.

  The keyed hash of a destination is injective (`hmac_inj`); tokens and confirmation
  codes are fresh numbers, given by their hashes.  Budgets and dispatch markers of an
  invitation are inputs.
-/

import TokenTimer.Basic
import TokenTimer.Lib.Runs

namespace TokenTimer.Recipients

open Lib.Table Lib.Runs

/-! ## §1. Destinations. -/

inductive Channel
  | email | whatsapp
deriving DecidableEq, Repr

/-- The text functions of JavaScript and of the database, and the keyed hash. -/
structure Env where
  /-- `String.prototype.toLowerCase`. -/
  toLowerCase : String → String
  toLowerCase_empty : toLowerCase "" = ""
  /-- `lower` of the database. -/
  lower : String → String
  /-- `fingerprintSecret()` is configured. -/
  hasSecret : Bool
  hmac : Channel → String → Nat
  hmac_inj : ∀ {c c' : Channel} {d d' : String}, hmac c d = hmac c' d' → c = c' ∧ d = d'

def MAX_EMAIL_LENGTH : Nat := 254

def isDisallowedEmailChar (c : Char) : Bool :=
  c.toNat ≤ 32 || c.toNat ≥ 127 || c ∈ ['"', '\\', '(', ')', ',', ':', ';', '<', '>', '[', ']']

def isAsciiEdgeSpace (c : Char) : Bool :=
  c.toNat ∈ [9, 10, 13, 32]

def trimAsciiEdges (text : List Char) : List Char :=
  ((text.dropWhile isAsciiEdgeSpace).reverse.dropWhile isAsciiEdgeSpace).reverse

/-- A domain has a dot that is neither its first nor its last character. -/
def domainHasDot (domain : List Char) : Bool :=
  match domain.reverse.dropWhile (· ≠ '.') with
  | [] => false
  | _ :: before => !before.isEmpty && domain.getLast? ≠ some '.'

def isValidEmail (value : String) : Bool :=
  let trimmed := trimAsciiEdges value.toList
  !trimmed.isEmpty && trimmed.length ≤ MAX_EMAIL_LENGTH &&
    !trimmed.any isDisallowedEmailChar && trimmed.count '@' = 1 &&
    !(trimmed.takeWhile (· ≠ '@')).isEmpty && domainHasDot ((trimmed.dropWhile (· ≠ '@')).drop 1)

/-- `normalizeEmail`: `none` is `ok: false`. -/
def normalizeEmail (env : Env) (value : String) : Option String :=
  let normalized := env.toLowerCase (jsTrim value)
  if isValidEmail normalized then some normalized else none

/-- `.replace(/^whatsapp:/i, "")`. -/
def dropWhatsAppPrefix (text : List Char) : List Char :=
  if (text.take 9).map Char.toLower = "whatsapp:".toList then text.drop 9 else text

/-- The digits of `/^\+?[1-9]\d{6,14}$/`. -/
def isPhoneNumber : List Char → Bool
  | [] => false
  | first :: rest =>
    ('1' ≤ first && first ≤ '9') && (6 ≤ rest.length && rest.length ≤ 14) && rest.all Char.isDigit

def normalizePhone (value : String) : Option String :=
  match dropWhatsAppPrefix (jsTrim value).toList with
  | '+' :: digits => if isPhoneNumber digits then some (String.ofList ('+' :: digits)) else none
  | digits => if isPhoneNumber digits then some (String.ofList ('+' :: digits)) else none

def normalizeDestination (env : Env) : Channel → String → Option String
  | .email, value => normalizeEmail env value
  | .whatsapp, value => normalizePhone value

def destinationFingerprint (env : Env) (channel : Channel) (normalized : String) : Option Nat :=
  if env.hasSecret then some (env.hmac channel normalized) else none

/-! ## §2. The tables. -/

/-- A row of `workspace_contacts`: the two destinations (`details.email` as text). -/
structure ContactRow where
  workspaceId : Nat
  id : Nat
  phoneE164 : Option String
  email : Option String
deriving DecidableEq, Repr

/-- The stored destination of a channel, `""` where there is none. -/
def ContactRow.raw (c : ContactRow) : Channel → String
  | .email => c.email.getD ""
  | .whatsapp => c.phoneE164.getD ""

inductive VerificationStatus
  | pending | verified | revoked | optedOut
deriving DecidableEq, Repr

/-- A row of `contact_channel_verifications`. -/
structure VerificationRow where
  workspaceId : Nat
  contactId : Nat
  channel : Channel
  destination : String
  fingerprint : Nat
  status : VerificationStatus
  consentAt : Option Nat
deriving DecidableEq, Repr

inductive ChallengeStatus
  | pending | consumed | declined | superseded
deriving DecidableEq, Repr

/-- A row of `contact_verification_challenges`. -/
structure ChallengeRow where
  workspaceId : Nat
  contactId : Nat
  channel : Channel
  destination : String
  fingerprint : Nat
  tokenHash : Nat
  codeHash : Option Nat
  status : ChallengeStatus := .pending
  expiresAt : Nat
  attemptCount : Nat := 0
deriving DecidableEq, Repr

/-- `scope` with its workspace. -/
inductive SuppressionScope
  | global
  | workspace (id : Nat)
deriving DecidableEq, Repr

inductive SuppressionReason
  | recipientDeclined | verificationAbuse
deriving DecidableEq, Repr

/-- A row of `notification_suppressions`. -/
structure SuppressionRow where
  channel : Channel
  fingerprint : Nat
  scope : SuppressionScope
  reason : SuppressionReason
  expiresAt : Option Nat := none
deriving DecidableEq, Repr

/-- The tables, with the clock and the next fresh number. -/
structure Db where
  now : Nat := 0
  nextId : Nat := 0
  contacts : List ContactRow := []
  verifications : List VerificationRow := []
  challenges : List ChallengeRow := []
  suppressions : List SuppressionRow := []
  /-- `twilio_inbound_messages`. -/
  inbound : List Nat := []

/-- `SELECT … FROM workspace_contacts WHERE workspace_id = … AND id = …`. -/
def Db.contact (db : Db) (workspaceId id : Nat) : Option ContactRow :=
  selectOne (fun c => c.workspaceId = workspaceId ∧ c.id = id) db.contacts

/-- `expires_at IS NULL OR expires_at > NOW()`. -/
def SuppressionRow.active (now : Nat) (s : SuppressionRow) : Bool :=
  s.expiresAt.all fun t => now < t

/-- The key of `contact_channel_verifications`. -/
def VerificationRow.hasKey (v : VerificationRow) (workspaceId contactId : Nat) (channel : Channel) :
    Bool :=
  v.workspaceId = workspaceId ∧ v.contactId = contactId ∧ v.channel = channel

/-! ## §3. `evaluateRecipient`. -/

/-- `INSERT … ON CONFLICT (workspace_id, contact_id, channel) DO UPDATE`, where the
    conflict writes every modelled column of the new row. -/
def upsertRow (v : VerificationRow) (rows : List VerificationRow) : List VerificationRow :=
  if rows.any (·.hasKey v.workspaceId v.contactId v.channel) then
    updateWhere (·.hasKey v.workspaceId v.contactId v.channel) (fun _ => v) rows
  else rows ++ [v]

/-- `RV_CLEAR_DECLINE`. -/
def clearDecline (c : ChallengeRow) (rows : List SuppressionRow) : List SuppressionRow :=
  deleteWhere (fun s => s.channel = c.channel ∧ s.fingerprint = c.fingerprint ∧
    s.scope = .workspace c.workspaceId ∧ s.reason = .recipientDeclined) rows

/-- `RV_INSERT_SUPPRESSION` of a decline. -/
def insertDecline (c : ChallengeRow) (rows : List SuppressionRow) : List SuppressionRow :=
  if rows.any fun s => s.channel = c.channel ∧ s.fingerprint = c.fingerprint ∧
      s.scope = .workspace c.workspaceId ∧ s.reason = .recipientDeclined then rows
  else
    rows ++ [{ channel := c.channel, fingerprint := c.fingerprint
               scope := .workspace c.workspaceId, reason := .recipientDeclined }]

def upsertVerification (c : ChallengeRow) (accepted : Bool) (db : Db) : Db :=
  { db with
    verifications := upsertRow
      { workspaceId := c.workspaceId, contactId := c.contactId, channel := c.channel
        destination := c.destination, fingerprint := c.fingerprint
        status := if accepted then .verified else .optedOut
        consentAt := if accepted then some db.now else none } db.verifications
    suppressions :=
      if accepted then clearDecline c db.suppressions else insertDecline c db.suppressions }

/-! ## §5. Consuming a challenge. -/

/-- The three operations that consume a challenge: the email link, the decline page of
    a WhatsApp invitation, and the inbound WhatsApp message with its code. -/
inductive Consume
  | consumeEmailChallenge (tokenHash : Nat) (accept : Bool)
  | declineWhatsAppChallenge (tokenHash : Nat)
  | confirmWhatsAppInbound (codeHash : Nat) (sender : String)
deriving DecidableEq, Repr

def Consume.channel : Consume → Channel
  | .consumeEmailChallenge .. => .email
  | .declineWhatsAppChallenge _ | .confirmWhatsAppInbound .. => .whatsapp

def Consume.accepts : Consume → Bool
  | .consumeEmailChallenge _ accept => accept
  | .declineWhatsAppChallenge _ => false
  | .confirmWhatsAppInbound .. => true

/-- The WHERE of `RV_PREVIEW_CHALLENGE`. -/
def Consume.finds (op : Consume) (now : Nat) (c : ChallengeRow) : Bool :=
  c.channel = op.channel && c.status = .pending && now < c.expiresAt &&
    match op with
    | .consumeEmailChallenge tokenHash _ | .declineWhatsAppChallenge tokenHash =>
      c.tokenHash = tokenHash
    | .confirmWhatsAppInbound codeHash sender =>
      c.codeHash = some codeHash && c.destination = sender

structure Preview where
  workspaceId : Nat
  contactId : Nat
  destination : String
deriving DecidableEq, Repr

/-- `RV_PREVIEW_CHALLENGE`. -/
def Consume.preview (op : Consume) (db : Db) : Option Preview :=
  (selectOne (op.finds db.now) db.challenges).map fun c =>
    { workspaceId := c.workspaceId, contactId := c.contactId, destination := c.destination }

/-- The destination that the locked contact must still have. -/
def Consume.expected (op : Consume) (p : Preview) : String :=
  match op with
  | .consumeEmailChallenge .. | .declineWhatsAppChallenge _ => p.destination
  | .confirmWhatsAppInbound _ sender => sender

/-- The WHERE of `RV_CONSUME_CHALLENGE`, of the destination that the contact has. -/
def Consume.consumes (op : Consume) (now : Nat) (current : String) (c : ChallengeRow) : Bool :=
  op.finds now c &&
    match op with
    | .declineWhatsAppChallenge _ => c.destination = current
    | _ => true

/-- The SET list of `RV_CONSUME_CHALLENGE`. -/
def Consume.close (op : Consume) (c : ChallengeRow) : ChallengeRow :=
  { c with
    status := if op.accepts then .consumed else .declined, attemptCount := c.attemptCount + 1 }

/-- The transaction of a consuming operation, after its preview.  `none` is `ok: false`;
    a result is the challenge that was consumed. -/
def Consume.run (env : Env) (op : Consume) (p : Preview) (db : Db) : Option (ChallengeRow × Db) :=
  let current := (db.contact p.workspaceId p.contactId).bind fun c =>
    normalizeDestination env op.channel (c.raw op.channel)
  if current = some (op.expected p) then
    match selectOne (op.consumes db.now (op.expected p)) db.challenges with
    | none => none
    | some c =>
      some (c, upsertVerification c op.accepts
        { db with
          challenges :=
            updateWhere (op.consumes db.now (op.expected p)) op.close db.challenges })
  else none

/-! ## §6. Invitations, updates and revocations. -/

/-- `RV_SUPERSEDE`. -/
def supersede (workspaceId contactId : Nat) (channel : Channel) (rows : List ChallengeRow) :
    List ChallengeRow :=
  updateWhere (fun c => c.workspaceId = workspaceId ∧ c.contactId = contactId ∧
    c.channel = channel ∧ c.status = .pending) (fun c => { c with status := .superseded }) rows

def EMAIL_TTL_SECONDS : Nat := 48 * 60 * 60
def WHATSAPP_TTL_SECONDS : Nat := 60 * 60

/-- The invitation that `createInvitation` inserts. -/
def newChallenge (db : Db) (workspaceId contactId : Nat) (channel : Channel) (destination : String)
    (fingerprint : Nat) : ChallengeRow :=
  { workspaceId := workspaceId, contactId := contactId, channel := channel
    destination := destination, fingerprint := fingerprint, tokenHash := db.nextId
    codeHash := if channel = .whatsapp then some db.nextId else none
    expiresAt :=
      db.now + (if channel = .email then EMAIL_TTL_SECONDS else WHATSAPP_TTL_SECONDS) * 1000 }

/-- `createInvitation`.  `admitted` says that the dispatch markers and the budgets let
    it through; the contact is not locked, so the destination it had is an input too. -/
def createInvitation (env : Env) (workspaceId contactId : Nat) (channel : Channel) (raw : String)
    (recipientInitiated admitted : Bool) (db : Db) : Option Db := do
  let _ ← db.contact workspaceId contactId
  let destination ← normalizeDestination env channel raw
  let fingerprint ← destinationFingerprint env channel destination
  let suppressed (reason : SuppressionReason) (scopes : List SuppressionScope) :=
    db.suppressions.any fun s => s.channel = channel ∧ s.fingerprint = fingerprint ∧
      s.reason = reason ∧ s.active db.now ∧ s.scope ∈ scopes
  if suppressed .verificationAbuse [.global, .workspace workspaceId] then none
  else if suppressed .recipientDeclined [.workspace workspaceId] ∧ !recipientInitiated then some db
  else if !admitted then none
  else
    some { db with
      nextId := db.nextId + 1
      challenges := supersede workspaceId contactId channel db.challenges ++
        [newChallenge db workspaceId contactId channel destination fingerprint] }

def recordAbuseSuppression (channel : Channel) (fingerprint : Nat) (db : Db) : Db :=
  let isAbuse (s : SuppressionRow) : Bool :=
    s.channel = channel ∧ s.fingerprint = fingerprint ∧ s.scope = .global ∧
      s.reason = .verificationAbuse
  let expires := db.now + 24 * 60 * 60 * 1000
  { db with
    suppressions :=
      if db.suppressions.any isAbuse then
        updateWhere isAbuse
          (fun s => { s with expiresAt := some ((s.expiresAt.map (max expires)).getD expires) })
          db.suppressions
      else
        db.suppressions ++ [{ channel := channel, fingerprint := fingerprint, scope := .global
                              reason := .verificationAbuse, expiresAt := some expires }] }

/-- `invalidateChangedDestination`, in `enforce` mode; `none` is a throw. -/
def invalidateChangedDestination (env : Env) (workspaceId contactId : Nat) (channel : Channel)
    (previousDestination nextDestination : String) (db : Db) : Option Db :=
  let previous := normalizeDestination env channel previousDestination
  let next := normalizeDestination env channel nextDestination
  if previous.isSome ∧ previous = next then some db
  else
    let db' := { db with challenges := supersede workspaceId contactId channel db.challenges }
    match next with
    | none =>
      some { db' with
        verifications := deleteWhere (·.hasKey workspaceId contactId channel) db'.verifications }
    | some value => do
      let fingerprint ← destinationFingerprint env channel value
      return { db' with
        verifications := updateWhere
          (fun v => v.hasKey workspaceId contactId channel ∧ v.destination ≠ value)
          (fun v =>
            { v with
              status := .pending, consentAt := none, destination := value
              fingerprint := fingerprint })
          db'.verifications }

/-- `detailsObj.email` after the update normalized it. -/
def storedEmail (env : Env) (email : String) : String :=
  let emailStr := env.toLowerCase (jsTrim email)
  if emailStr = "" then email else emailStr

/-- The fields of an update: `some` where the request has the field. -/
structure ContactUpdate where
  phoneE164 : Option (Option String) := none
  email : Option String := none
deriving DecidableEq, Repr

def ContactUpdate.apply (env : Env) (u : ContactUpdate) (c : ContactRow) : ContactRow :=
  { c with
    phoneE164 := u.phoneE164.getD c.phoneE164
    email := (u.email.map (storedEmail env)).or c.email }

def updateContactWithVerification (env : Env) (workspaceId contactId : Nat) (u : ContactUpdate)
    (db : Db) : Option Db := do
  let previous ← db.contact workspaceId contactId
  let db₁ := { db with
    contacts := updateWhere (fun c => c.workspaceId = workspaceId ∧ c.id = contactId)
      (u.apply env) db.contacts }
  let nextEmail := (u.email.map fun e => env.toLowerCase (jsTrim e)).getD (previous.email.getD "")
  let db₂ ← invalidateChangedDestination env workspaceId contactId .email
    (previous.email.getD "") nextEmail db₁
  match u.phoneE164 with
  | none => some db₂
  | some phone =>
    invalidateChangedDestination env workspaceId contactId .whatsapp (previous.phoneE164.getD "")
      (phone.getD "") db₂

def revokeChannel (env : Env) (workspaceId contactId : Nat) (channel : Channel) (db : Db) :
    Option Db := do
  let contact ← db.contact workspaceId contactId
  let destination ← normalizeDestination env channel (contact.raw channel)
  let fingerprint ← destinationFingerprint env channel destination
  return { db with
    challenges := supersede workspaceId contactId channel db.challenges
    verifications := upsertRow
      { workspaceId := workspaceId, contactId := contactId, channel := channel
        destination := destination, fingerprint := fingerprint, status := .revoked
        consentAt := none } db.verifications }

/-! ## §7. The system. -/

/-- What happened to a recipient.  The log records it beside the tables. -/
inductive Event
  | accepted (tokenHash workspaceId contactId : Nat) (channel : Channel) (destination : String)
  | declined (tokenHash workspaceId contactId : Nat) (channel : Channel) (destination : String)
  | revoked (workspaceId contactId : Nat) (channel : Channel)
  /-- An update moved the contact away from a destination. -/
  | departed (workspaceId contactId : Nat) (channel : Channel) (destination : String)
deriving DecidableEq, Repr

/-- The tables, the operations between preview and lock, and the log, newest first. -/
structure State where
  db : Db := {}
  inFlight : List (Consume × Preview) := []
  log : List Event := []

/-- A step. -/
inductive Act
  | tick (ms : Nat)
  | addContact (workspaceId : Nat) (phoneE164 email : Option String)
  | createInvitation (workspaceId contactId : Nat) (channel : Channel) (raw : String)
      (recipientInitiated admitted : Bool)
  | recordAbuseSuppression (channel : Channel) (fingerprint : Nat)
  /-- The preview of a consuming operation; an inbound message comes with its id. -/
  | preview (op : Consume) (messageSid : Nat)
  | consume (op : Consume) (p : Preview)
  | updateContact (workspaceId contactId : Nat) (u : ContactUpdate)
  | revokeChannel (workspaceId contactId : Nat) (channel : Channel)
deriving DecidableEq, Repr

def consumedEvent (op : Consume) (c : ChallengeRow) : Event :=
  if op.accepts then .accepted c.tokenHash c.workspaceId c.contactId c.channel c.destination
  else .declined c.tokenHash c.workspaceId c.contactId c.channel c.destination

/-- The destinations that an update moves a contact away from. -/
def departures (env : Env) (before after : ContactRow) : List Event :=
  [Channel.email, Channel.whatsapp].filterMap fun channel =>
    (normalizeDestination env channel (before.raw channel)).bind fun d =>
      if normalizeDestination env channel (after.raw channel) = some d then none
      else some (.departed before.workspaceId before.id channel d)

/-- `RV_INBOUND_DEDUPE`, for the operation that has a message. -/
def isDuplicateMessage (db : Db) (op : Consume) (messageSid : Nat) : Bool :=
  match op with
  | .confirmWhatsAppInbound .. => messageSid ∈ db.inbound
  | _ => false

def rememberMessage (op : Consume) (messageSid : Nat) (db : Db) : Db :=
  match op with
  | .confirmWhatsAppInbound .. => { db with inbound := messageSid :: db.inbound }
  | _ => db

/-- The state after a step; an operation that is refused or throws changes nothing. -/
def next (env : Env) (s : State) : Act → State
  | .tick ms => { s with db := { s.db with now := s.db.now + ms } }
  | .addContact ws phone email =>
    { s with
      db := { s.db with
        nextId := s.db.nextId + 1
        contacts := s.db.contacts ++
          [{ workspaceId := ws, id := s.db.nextId, phoneE164 := phone, email := email }] } }
  | .createInvitation ws contact channel raw recipientInitiated admitted =>
    match createInvitation env ws contact channel raw recipientInitiated admitted s.db with
    | some db => { s with db := db }
    | none => s
  | .recordAbuseSuppression channel fingerprint =>
    { s with db := recordAbuseSuppression channel fingerprint s.db }
  | .preview op messageSid =>
    if isDuplicateMessage s.db op messageSid then s
    else
      { s with
        db := rememberMessage op messageSid s.db
        inFlight := (op.preview s.db).elim s.inFlight fun p => (op, p) :: s.inFlight }
  | .consume op p =>
    if (op, p) ∈ s.inFlight then
      let s' := { s with inFlight := s.inFlight.erase (op, p) }
      match op.run env p s.db with
      | some (c, db) => { s' with db := db, log := consumedEvent op c :: s.log }
      | none => s'
    else s
  | .updateContact ws contact u =>
    match s.db.contact ws contact, updateContactWithVerification env ws contact u s.db with
    | some before, some db =>
      { s with db := db, log := departures env before (u.apply env before) ++ s.log }
    | _, _ => s
  | .revokeChannel ws contact channel =>
    match revokeChannel env ws contact channel s.db with
    | some db => { s with db := db, log := .revoked ws contact channel :: s.log }
    | none => s

/-- Recipient verification, from empty tables. -/
def system (env : Env) : System State Act where
  init s := s = {}
  step s a t := t = next env s a

end TokenTimer.Recipients
