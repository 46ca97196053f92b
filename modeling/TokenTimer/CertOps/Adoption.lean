/-
  TokenTimer.CertOps.Adoption — adopting a certificate into automatic renewal, and
  detaching it again (`renewalAdoption.js`, `outbox.js`, and the outbox drain of
  `certops-worker.js`).

  An adoption is recorded as an intent in `certops_outbox` and carried out later by
  a drain.  A detach and the transaction of `handleProfileDerivationIntent` take
  the SAME TWO row locks in opposite orders:

    * a detach locks the certificate, then the intents it withdraws.
    * the handler locks its own intent, then the certificate.

  Each of the two is two steps here, and its locks block every other writer between
  them.  Where both wait for each other the database aborts one, which is a step of
  its own.  Everything else a transaction does is one step.

  The job an intent waits for, the evidence of its run and the audit writer are
  inputs.  A certificate is named by the TEXT of a URL, a `uuid` column by its value.
-/

import TokenTimer.CertOps.Enrollments
import TokenTimer.Lib.Runs

namespace TokenTimer.CertOps.Adoption

open Lib.Table Lib.Runs
open Enrollment (uuidIn)

/-! ## §1. `certops_outbox`. -/

/-- `OUTBOX_EVENT_TYPES`. -/
inductive OutboxEventType
  | materialPublished | distributionApprovalGranted | distributionRolloutRequested
  | renewalAlertRequested | profileDerivationRequested
deriving DecidableEq, Repr

/-- `certops_outbox.status`. -/
inductive OutboxStatus
  | pending | succeeded | skipped | failed
deriving DecidableEq, Repr

def OutboxStatus.text : OutboxStatus → String
  | .pending => "pending"
  | .succeeded => "succeeded"
  | .skipped => "skipped"
  | .failed => "failed"

/-- `REVIVABLE_OUTBOX_STATUSES`. -/
def OutboxStatus.revivable (status : OutboxStatus) : Bool :=
  status ∈ [.pending, .failed]

/-- `payload`, the members of a `profile_derivation_requested` row. -/
structure OutboxPayload where
  jobId : Option String := none
  certificateId : Option String := none
  operation : Option String := none
deriving DecidableEq, Repr

/-- A row of `certops_outbox`. -/
structure OutboxRow where
  id : Nat
  workspaceId : Nat
  eventType : OutboxEventType
  dedupeKey : String
  payload : OutboxPayload
  status : OutboxStatus
  outcomeReason : Option String
  attemptCount : Nat
  maxAttempts : Nat
  nextRetryAt : Nat
  lastError : Option String
  claimId : Option Nat
  claimedUntil : Option Nat
  createdAt : Nat
deriving DecidableEq, Repr

/-- A row of `managed_certificates`. -/
structure CertificateRow where
  id : Nat
  workspaceId : Nat
  profileId : Option Nat
deriving DecidableEq, Repr

/-- The committed rows.  `nextId` is the source of `gen_random_uuid()` and of
    `randomUUID()`. -/
structure Tables where
  now : Nat
  nextId : Nat
  certificates : List CertificateRow
  outbox : List OutboxRow
deriving DecidableEq, Repr

def Tables.certificateOf (t : Tables) (workspaceId certificate : Nat) : Option CertificateRow :=
  selectOne (fun c => c.workspaceId = workspaceId && c.id = certificate) t.certificates

/-- `managed_certificates.profile_id` of a certificate. -/
def Tables.profileOf (t : Tables) (certificate : Nat) : Option Nat :=
  (selectOne (fun c => c.id = certificate) t.certificates).bind (·.profileId)

def DEDUPE_KEY_MAX_LENGTH : Nat := 256
def PAYLOAD_VALUE_MAX_LENGTH : Nat := 512
def CERTOPS_OUTBOX_INVALID : String := "CERTOPS_OUTBOX_INVALID"
def CERTOPS_OUTBOX_EVENT_NOT_FOUND : String := "CERTOPS_OUTBOX_EVENT_NOT_FOUND"
def CERTOPS_OUTBOX_EVENT_NOT_RETRYABLE : String := "CERTOPS_OUTBOX_EVENT_NOT_RETRYABLE"

def outboxError (message : String) : ServiceError :=
  { message := message, code := CERTOPS_OUTBOX_INVALID }

/-- The length check of `assertValidPayload` on one member. -/
def assertPayloadValue (key : String) (value : Option String) : Except ServiceError Unit :=
  require (value.all fun v => (utf16 v).length ≤ PAYLOAD_VALUE_MAX_LENGTH)
    (outboxError ("Outbox payload field " ++ key ++ " is too long"))

/-- `assertValidPayload`, on the members a row has. -/
def assertValidPayload (payload : OutboxPayload) : Except ServiceError Unit := do
  assertPayloadValue "jobId" payload.jobId
  assertPayloadValue "certificateId" payload.certificateId
  assertPayloadValue "operation" payload.operation

/-- The `ON CONFLICT` of the insert: an intent of this key is there already. -/
def Tables.hasIntent (t : Tables) (workspaceId : Nat) (eventType : OutboxEventType)
    (key : String) : Bool :=
  t.outbox.any fun r => r.workspaceId = workspaceId && r.eventType = eventType && r.dedupeKey = key

/-- The row `enqueueOutboxEvent` inserts. -/
def newIntent (workspaceId : Nat) (eventType : OutboxEventType) (key : String)
    (payload : OutboxPayload) (t : Tables) : OutboxRow :=
  { id := t.nextId, workspaceId := workspaceId, eventType := eventType, dedupeKey := key
    payload := payload, status := .pending, outcomeReason := none, attemptCount := 0
    maxAttempts := 5, nextRetryAt := t.now, lastError := none, claimId := none
    claimedUntil := none, createdAt := t.now }

/-- `enqueueOutboxEvent`, with the id of the row it inserted. -/
def enqueueOutboxEvent (workspaceId : Nat) (eventType : OutboxEventType) (dedupeKey : String)
    (payload : OutboxPayload) (t : Tables) : Except ServiceError (Option Nat × Tables) := do
  let key := jsTrim dedupeKey
  require (decide (0 < (utf16 key).length ∧ (utf16 key).length ≤ DEDUPE_KEY_MAX_LENGTH))
    (outboxError "dedupeKey is required and must be bounded")
  assertValidPayload payload
  if t.hasIntent workspaceId eventType key then return (none, t)
  else
    return (some t.nextId,
      { t with
        nextId := t.nextId + 1
        outbox := t.outbox ++ [newIntent workspaceId eventType key payload t] })

def resetOutboxEventForRetry (workspaceId outboxId : Nat) (t : Tables) :
    Except ServiceError Tables :=
  match selectOne (fun r => r.workspaceId = workspaceId && r.id = outboxId) t.outbox with
  | none => .error { message := "Outbox event not found", code := CERTOPS_OUTBOX_EVENT_NOT_FOUND }
  | some row => do
    require (row.status = .failed)
      { message := "Only a failed outbox event can be retried; this one is " ++ row.status.text
        code := CERTOPS_OUTBOX_EVENT_NOT_RETRYABLE }
    return { t with
      outbox := updateWhere
        (fun r => r.workspaceId = workspaceId && r.id = outboxId && r.status = .failed)
        (fun r => { r with
          status := .pending, attemptCount := 0, nextRetryAt := t.now, lastError := none
          outcomeReason := none, claimId := none, claimedUntil := none }) t.outbox }

/-- `retryRenewalSetupIntent`: a derivation intent only. -/
def retryRenewalSetupIntent (workspaceId outboxId : Nat) (t : Tables) :
    Except ServiceError Tables :=
  match selectOne (fun r => r.workspaceId = workspaceId && r.id = outboxId) t.outbox with
  | none => .error { message := "Outbox event not found", code := CERTOPS_OUTBOX_EVENT_NOT_FOUND }
  | some row => do
    require (row.eventType = .profileDerivationRequested)
      { message := "Only a profile-derivation intent can be retried through this route"
        code := CERTOPS_OUTBOX_EVENT_NOT_RETRYABLE }
    resetOutboxEventForRetry workspaceId outboxId t

/-! ## §2. Setting renewal up. -/

def CERTOPS_CERTIFICATE_NOT_FOUND : String := "CERTOPS_CERTIFICATE_NOT_FOUND"
def CERTOPS_CERTIFICATE_NOT_PROFILED : String := "CERTOPS_CERTIFICATE_NOT_PROFILED"
def CERTOPS_CERTIFICATE_NOT_AGENT_DEPLOYABLE : String := "CERTOPS_CERTIFICATE_NOT_AGENT_DEPLOYABLE"
def CERTOPS_RENEWAL_SETUP_ALREADY_CONFIGURED : String := "CERTOPS_RENEWAL_SETUP_ALREADY_CONFIGURED"
def CERTOPS_RENEWAL_SETUP_MULTI_LOCATION : String := "CERTOPS_RENEWAL_SETUP_MULTI_LOCATION"
def CERTOPS_RENEWAL_SETUP_NO_DEPLOYED_PATH : String := "CERTOPS_RENEWAL_SETUP_NO_DEPLOYED_PATH"
def CERTOPS_RENEWAL_SETUP_WINDOWS_TOPOLOGY_INCOMPLETE : String :=
  "CERTOPS_RENEWAL_SETUP_WINDOWS_TOPOLOGY_INCOMPLETE"
def CERTOPS_RENEWAL_SETUP_NO_COMMON_NAME : String := "CERTOPS_RENEWAL_SETUP_NO_COMMON_NAME"

def ADOPTION_DEDUPE_KEY_PREFIX : String := "derive-profile:"

def adoptionIntentDedupeKey (jobId : String) : String :=
  ADOPTION_DEDUPE_KEY_PREFIX ++ jobId

/-- `enqueueRenewalAdoptionIntent`: the certificate as the caller spells it. -/
def enqueueRenewalAdoptionIntent (workspaceId : Nat) (jobId certificateId : String)
    (operation : Option String) (t : Tables) : Except ServiceError (Option Nat × Tables) :=
  enqueueOutboxEvent workspaceId .profileDerivationRequested (adoptionIntentDedupeKey jobId)
    { jobId := some jobId, certificateId := some certificateId, operation := operation } t

/-- What `renewalSetupJobCreator` reads of the certificate and its locations, and
    the job `createJob` answers. -/
structure SetupReads where
  deployable : Bool := true
  windows : Bool := false
  deployedCertPath : Bool := true
  locations : Nat := 1
  deployedAgentId : Bool := true
  windowsTopology : Bool := true
  domainTargetReference : Bool := true
  createJob : Except ServiceError Unit := .ok ()
  jobId : String
  created : Bool := true
  dryRun : Bool := false

/-- A text that no `uuid` column reads. -/
def invalidUuid : ServiceError :=
  { message := "invalid input syntax for type uuid", code := "22P02" }

/-- The value of a `$n::uuid` parameter. -/
def uuidParameter (text : String) : Except ServiceError Nat :=
  match uuidIn text with
  | some value => .ok value
  | none => .error invalidUuid

/-- The refusals of `renewalSetupJobCreator`, in their order. -/
def assertRenewalSetup (r : SetupReads) (certificate : CertificateRow) :
    Except ServiceError Unit := do
  require certificate.profileId.isNone
    { message := "This certificate already has a renewal profile. Detach it before setting " ++
        "renewal up again."
      code := CERTOPS_RENEWAL_SETUP_ALREADY_CONFIGURED }
  require r.deployable
    { message := "TokenTimer does not hold this certificate's key, so it is monitored only and " ++
        "cannot be renewed by an agent."
      code := CERTOPS_CERTIFICATE_NOT_AGENT_DEPLOYABLE }
  require (r.windows || r.deployedCertPath)
    { message := "No discovered deployment path is recorded for this certificate, so automatic " ++
        "renewal has nowhere to deploy to."
      code := CERTOPS_RENEWAL_SETUP_NO_DEPLOYED_PATH }
  require (r.locations ≤ 1)
    { message := "Automatic renewal setup is refused: this certificate is deployed to " ++
        toString r.locations ++ " locations and only one can be automated today."
      code := CERTOPS_RENEWAL_SETUP_MULTI_LOCATION }
  if r.windows then do
    require r.deployedAgentId
      { message := "The discovered Windows deployment is not associated with an executor agent."
        code := CERTOPS_RENEWAL_SETUP_WINDOWS_TOPOLOGY_INCOMPLETE }
    require r.windowsTopology
      { message := "The discovered Windows certificate does not have one complete IIS " ++
          "store/binding topology with a claimable target selector."
        code := CERTOPS_RENEWAL_SETUP_WINDOWS_TOPOLOGY_INCOMPLETE }
  else
    require r.domainTargetReference
      { message := "This certificate has no usable common name or subject alternative name on " ++
          "record, so an automatic renewal job cannot be built."
        code := CERTOPS_RENEWAL_SETUP_NO_COMMON_NAME }

/-- `renewalSetupJobCreator`: with the certificate locked, the job and its intent in
    one transaction.  The id of the intent it recorded, if it recorded one. -/
def renewalSetupJobCreator (workspaceId : Nat) (certificateId : String) (r : SetupReads)
    (t : Tables) : Except ServiceError (Option Nat × Tables) := do
  let certificate ← uuidParameter certificateId
  match t.certificateOf workspaceId certificate with
  | none =>
    .error { message := "Certificate not found", code := CERTOPS_CERTIFICATE_NOT_FOUND }
  | some row => do
    assertRenewalSetup r row
    r.createJob
    if r.created && !r.dryRun then
      enqueueRenewalAdoptionIntent workspaceId r.jobId certificateId (some "renew") t
    else return (none, t)

/-! ## §3. Detaching. -/

def OUTBOX_OUTCOME_DETACHED : String := "detached"

/-- The transaction of a detach that holds the lock of its certificate. -/
structure DetachTransaction where
  workspaceId : Nat
  certificateId : String
  certificate : Nat
deriving DecidableEq, Repr

/-- `detachRenewalProfile` up to the first write: the certificate is locked and has
    a profile. -/
def beginDetach (workspaceId : Nat) (certificateId : String) (t : Tables) :
    Except ServiceError DetachTransaction := do
  let certificate ← uuidParameter certificateId
  match t.certificateOf workspaceId certificate with
  | none =>
    .error { message := "Certificate not found", code := CERTOPS_CERTIFICATE_NOT_FOUND }
  | some row => do
    require row.profileId.isSome
      { message := "This certificate is not linked to a renewal profile"
        code := CERTOPS_CERTIFICATE_NOT_PROFILED }
    return { workspaceId := workspaceId, certificateId := certificateId, certificate := certificate }

/-- The rows `invalidateProfileDerivationIntents` locks: `payload->>'certificateId'`
    is compared as text. -/
def DetachTransaction.withdraws (d : DetachTransaction) (r : OutboxRow) : Bool :=
  r.workspaceId = d.workspaceId && r.eventType = .profileDerivationRequested &&
    r.payload.certificateId = some d.certificateId && r.status.revivable

def invalidateProfileDerivationIntents (d : DetachTransaction) (t : Tables) : Tables :=
  { t with
    outbox := updateWhere d.withdraws
      (fun r => { r with
        status := .skipped, outcomeReason := some OUTBOX_OUTCOME_DETACHED
        claimId := none, claimedUntil := none }) t.outbox }

/-- The writes of `detachRenewalProfile`. -/
def commitDetach (d : DetachTransaction) (t : Tables) : Tables :=
  invalidateProfileDerivationIntents d
    { t with
      certificates := updateWhere
        (fun c => c.workspaceId = d.workspaceId && c.id = d.certificate)
        (fun c => { c with profileId := none }) t.certificates }

/-! ## §4. Carrying an intent out. -/

def OUTBOX_LEASE_MS : Nat := 60000
def DEFAULT_OUTBOX_DEFER_MS : Nat := 60000
def DEFAULT_ADOPTION_WAIT_DEADLINE_MS : Nat := 72 * 60 * 60 * 1000
def BACKOFF_BASE_MS : Nat := 60000
def BACKOFF_MAX_MS : Nat := 30 * 60000

def computeBackoffMs (attemptCount : Nat) : Nat :=
  min BACKOFF_MAX_MS (BACKOFF_BASE_MS * 2 ^ (max 1 attemptCount - 1))

/-- `ADOPTION_NON_SUCCESS_TERMINAL_REASONS`. -/
def adoptionNonSuccessTerminalReason : JobStatus → Option String
  | .dryRunComplete => some "dry_run"
  | .failed => some "job_failed"
  | .rejected => some "job_rejected"
  | .cancelled => some "job_cancelled"
  | .blocked => some "job_blocked"
  | .orphanedUnknownEffect => some "orphaned_unknown_effect"
  | .awaitingIssuer => some "awaiting_issuer"
  | _ => none

/-- What a handler returns to the loop: `{ queued, reason }`, `deferredOutcome` or
    `completedOutcome`. -/
inductive HandlerOutcome
  | decided (queued : Bool) (reason : Option String)
  | deferred (reason : String) (retryInMs : Nat)
  | completed (terminalStatus : OutboxStatus) (reason : Option String)
deriving DecidableEq, Repr

/-- Where `handleProfileDerivationIntent` stands when it comes to its transaction. -/
inductive IntentStart
  | outcome (outcome : HandlerOutcome)
  | transaction (certificateId : String)
deriving DecidableEq, Repr

/-- `value ? String(value) : null`. -/
def truthyText (value : Option String) : Option String :=
  value.filter fun v => v ≠ ""

/-- `handleProfileDerivationIntent` up to its transaction; `job` is the status of the
    job it reads. -/
def startIntent (job : Option JobStatus) (waitDeadlineMs now : Nat) (row : OutboxRow) :
    IntentStart :=
  match truthyText row.payload.certificateId with
  | none => .outcome (.decided false (some "missing_certificate_id"))
  | some certificateId =>
    match truthyText row.payload.jobId with
    | none => .outcome (.decided false (some "missing_job_id"))
    | some _ =>
      match job with
      | none => .outcome (.decided false (some "job_not_found"))
      | some status =>
        if isTerminalJobStatus status = false then
          if waitDeadlineMs < now - row.createdAt then
            .outcome (.decided false (some "job_never_terminated"))
          else .outcome (.deferred status.text DEFAULT_OUTBOX_DEFER_MS)
        else
          match adoptionNonSuccessTerminalReason status with
          | some reason => .outcome (.decided false (some reason))
          | none => .transaction certificateId

/-- What `ensureDerivedRenewalProfile` makes of the job's payload, and the profile
    its upsert returns. -/
inductive DerivedProfile
  | failed (error : String)
  | operatorOwned
  | stored (profileId : Nat)
deriving DecidableEq, Repr

/-- What `ensureDerivedRenewalProfile` returns. -/
structure Derivation where
  profileId : Option Nat
  reason : Option String
  error : Option String := none
deriving DecidableEq, Repr

/-- `ensureDerivedRenewalProfile`: the link is written where the column is null. -/
def ensureDerivedRenewalProfile (workspaceId certificate : Nat) (profile : DerivedProfile)
    (t : Tables) : Derivation × Tables :=
  match (t.certificateOf workspaceId certificate).bind (·.profileId) with
  | some existing => ({ profileId := some existing, reason := some "already_linked" }, t)
  | none =>
    match profile with
    | .failed error =>
      ({ profileId := none, reason := some "derivation_failed", error := some error }, t)
    | .operatorOwned => ({ profileId := none, reason := some "profile_operator_owned" }, t)
    | .stored profileId =>
      let unlinked := fun c : CertificateRow =>
        c.workspaceId = workspaceId && c.id = certificate && c.profileId.isNone
      if t.certificates.any unlinked then
        ({ profileId := some profileId, reason := none },
          { t with
            certificates :=
              updateWhere unlinked (fun c => { c with profileId := some profileId })
                t.certificates })
      else ({ profileId := none, reason := some "certificate_link_conflict" }, t)

def completeOwnRow (id claimId : Nat) (status : OutboxStatus) (reason : Option String)
    (t : Tables) : HandlerOutcome × Tables :=
  (.completed status reason,
    { t with
      outbox := updateWhere (fun r => r.id = id && r.claimId = some claimId)
        (fun r => { r with
          status := status, outcomeReason := reason, claimId := none, claimedUntil := none })
        t.outbox })

/-- What the transaction of the handler reads beside the two locked rows. -/
structure DeriveReads where
  evidence : Bool := true
  profile : DerivedProfile
deriving DecidableEq, Repr

/-- The transaction of `handleProfileDerivationIntent` from the lock of the
    certificate on.  An error is thrown with everything rolled back. -/
def deriveIntent (claimId : Nat) (row : OutboxRow) (certificateId : String) (reads : DeriveReads)
    (t : Tables) : Except String (HandlerOutcome × Tables) :=
  match uuidIn certificateId with
  | none => .error invalidUuid.message
  | some certificate =>
    match t.certificateOf row.workspaceId certificate with
    | none => .ok (completeOwnRow row.id claimId .skipped (some "certificate_not_found") t)
    | some stored =>
      if stored.profileId.isSome then
        .ok (completeOwnRow row.id claimId .skipped (some "already_linked") t)
      else if !reads.evidence then
        .ok (completeOwnRow row.id claimId .skipped (some "no_claim_bound_verify_evidence") t)
      else
        match ensureDerivedRenewalProfile row.workspaceId certificate reads.profile t with
        | ({ profileId := some _, .. }, t') => .ok (completeOwnRow row.id claimId .succeeded none t')
        | ({ profileId := none, reason, error }, t') =>
          if reason = some "profile_operator_owned" ∨ reason = some "already_linked" ∨
              reason = some "certificate_link_conflict" then
            .ok (completeOwnRow row.id claimId .skipped reason t')
          else
            .error (error.getD
              ("Renewal profile could not be derived (" ++ reason.getD "unknown" ++ ")"))

/-! ## §5. The loop of the drain. -/

/-- The WHERE of the claim; a locked row is skipped. -/
def due (locked : Nat → Bool) (now : Nat) (r : OutboxRow) : Bool :=
  r.status = .pending && r.nextRetryAt ≤ now && (r.claimedUntil.all fun t => t < now) &&
    !locked r.id

def claimRow (claimId now : Nat) (r : OutboxRow) : OutboxRow :=
  { r with
    claimId := some claimId, claimedUntil := some (now + OUTBOX_LEASE_MS)
    attemptCount := r.attemptCount + 1 }

/-- The rows a drain claims. -/
def dueRows (batchSize : Nat) (locked : Nat → Bool) (t : Tables) : List OutboxRow :=
  ((t.outbox.filter (due locked t.now)).insertionSort
    fun a b => a.nextRetryAt ≤ b.nextRetryAt).take batchSize

def claimDue (batchSize claimId : Nat) (locked : Nat → Bool) (t : Tables) : Tables :=
  { t with
    outbox := updateWhere (fun r => (dueRows batchSize locked t).any fun d => d.id = r.id)
      (claimRow claimId t.now) t.outbox }

def deferOutboxRow (id claimId retryInMs : Nat) (t : Tables) : Tables :=
  { t with
    outbox := updateWhere (fun r => r.id = id && r.claimId = some claimId)
      (fun r => { r with
        claimId := none, claimedUntil := none, attemptCount := r.attemptCount - 1
        nextRetryAt :=
          t.now + if 0 < retryInMs then retryInMs else DEFAULT_OUTBOX_DEFER_MS }) t.outbox }

/-- What the loop writes for an outcome. -/
def settleOutcome (row : OutboxRow) (claimId : Nat) (t : Tables) : HandlerOutcome → Tables
  | .deferred _ retryInMs => deferOutboxRow row.id claimId retryInMs t
  -- the handler has written the row in its own transaction
  | .completed _ _ => t
  | .decided queued reason =>
    (completeOwnRow row.id claimId (if queued then .succeeded else .skipped) reason t).2

/-- What the loop writes for a thrown error. -/
def settleError (row : OutboxRow) (claimId : Nat) (message : String) (t : Tables) : Tables :=
  { t with
    outbox := updateWhere (fun r => r.id = row.id && r.claimId = some claimId)
      (fun r => { r with
        status := if row.maxAttempts ≤ row.attemptCount then .failed else .pending
        lastError := some message
        nextRetryAt := t.now + computeBackoffMs row.attemptCount
        claimId := none, claimedUntil := none }) t.outbox }

/-- Where the loop of a drain stands on its current row. -/
inductive DrainPhase
  | next
  /-- The transaction of the handler is open and its own row is locked. -/
  | inTransaction (row : OutboxRow) (certificateId : String)
  | returned (row : OutboxRow) (outcome : HandlerOutcome)
  | threw (row : OutboxRow) (message : String)
deriving DecidableEq, Repr

/-- A running `drainCertOpsOutbox`: its claim, the rows still to do as the claim
    returned them, and the row it is at. -/
structure Drain where
  claimId : Nat
  rows : List OutboxRow
  phase : DrainPhase := .next
deriving DecidableEq, Repr

def Drain.holds (d : Drain) : Option Nat :=
  match d.phase with
  | .inTransaction row _ => some row.id
  | _ => none

/-! ## §6. The system. -/

/-- What a committed step did, for one certificate. -/
inductive Event
  /-- The intent of this id was recorded for the certificate. -/
  | recorded (intent certificate : Nat)
  | detached (certificate : Nat)
  /-- The handler of this intent changed `profile_id` of the certificate. -/
  | linked (intent certificate : Nat) (profileId : Option Nat)
deriving DecidableEq, Repr

/-- The committed tables, the open transactions that hold a lock, the drains of all
    workers, and what has been committed, oldest first. -/
structure State where
  tables : Tables
  detaches : List DetachTransaction := []
  drains : List Drain := []
  log : List Event := []
deriving DecidableEq, Repr

def State.certificateLocked (s : State) (certificate : Nat) : Bool :=
  s.detaches.any fun d => d.certificate = certificate

/-- A drain holds the lock of the intent. -/
def State.rowLocked (s : State) (id : Nat) : Bool :=
  s.drains.any fun d => d.holds = some id

def State.drainOf (s : State) (claimId : Nat) : Option Drain :=
  selectOne (fun d => d.claimId = claimId) s.drains

/-- The drain of a claim moves on. -/
def State.setDrain (s : State) (d : Drain) : State :=
  { s with drains := updateWhere (fun e => e.claimId = d.claimId) (fun _ => d) s.drains }

/-- The change of `profile_id` between two states of the tables. -/
def linkedBy (intent certificate : Nat) (t t' : Tables) : List Event :=
  if t.profileOf certificate = t'.profileOf certificate then []
  else [.linked intent certificate (t'.profileOf certificate)]

def recordedBy (certificateId : String) (intent : Option Nat) : List Event :=
  match intent, uuidIn certificateId with
  | some id, some certificate => [.recorded id certificate]
  | _, _ => []

/-- What a drain reads for the row it takes: the status of the job of a derivation
    intent, the answer of another event's handler. -/
structure HandleReads where
  job : Option JobStatus := none
  waitDeadlineMs : Nat := DEFAULT_ADOPTION_WAIT_DEADLINE_MS
  other : HandlerOutcome := .decided false none
deriving DecidableEq, Repr

/-- A step. -/
inductive Act
  | tick (ms : Nat)
  /-- Another service writes `profile_id`. -/
  | writeProfile (certificate : Nat) (profileId : Option Nat)
  /-- Another service records an intent of another event. -/
  | enqueueOther (workspaceId : Nat) (eventType : OutboxEventType) (dedupeKey : String)
      (payload : OutboxPayload)
  | renewalSetup (workspaceId : Nat) (certificateId : String) (reads : SetupReads)
  | beginDetach (workspaceId : Nat) (certificateId : String)
  | commitDetach (certificate : Nat)
  | rollbackDetach (certificate : Nat)
  | retryIntent (workspaceId outboxId : Nat)
  | drain (batchSize : Nat)
  | handle (claimId : Nat) (reads : HandleReads)
  /-- The transaction of the handler ends; its answer may be lost. -/
  | derive (claimId : Nat) (reads : DeriveReads) (acknowledged : Bool)
  | fail (claimId : Nat) (message : String)
  | settle (claimId : Nat)
  | crash (claimId : Nat)

def handleRow (s : State) (d : Drain) (row : OutboxRow) (reads : HandleReads) : Option DrainPhase :=
  if row.eventType = .profileDerivationRequested then
    match startIntent reads.job reads.waitDeadlineMs s.tables.now row with
    | .outcome outcome => some (.returned row outcome)
    | .transaction certificateId =>
      if s.rowLocked row.id then none
      else
        match selectOne (fun r => r.id = row.id && r.claimId = some d.claimId) s.tables.outbox with
        | none => some (.returned row (.completed .skipped none))
        | some current =>
          if current.status = .pending then some (.inTransaction row certificateId)
          else some (.returned row (.completed .skipped (some "detached")))
  else some (.returned row reads.other)

/-- The step of a drain that takes its next row. -/
def handle (s : State) (d : Drain) (reads : HandleReads) : Option State :=
  match d.phase, d.rows with
  | .next, row :: rest =>
    (handleRow s d row reads).map fun phase => s.setDrain { d with rows := rest, phase := phase }
  | _, _ => none

/-- The step of a drain that ends the transaction of its handler. -/
def derive (s : State) (d : Drain) (reads : DeriveReads) (acknowledged : Bool) : Option State :=
  match d.phase with
  | .inTransaction row certificateId =>
    if (uuidIn certificateId).any s.certificateLocked then none
    else
      match deriveIntent d.claimId row certificateId reads s.tables with
      | .error message => some (s.setDrain { d with phase := .threw row message })
      | .ok (outcome, t) =>
        let phase := if acknowledged then .returned row outcome else .threw row "connection lost"
        some { s.setDrain { d with phase := phase } with
          tables := t
          log := s.log ++
            ((uuidIn certificateId).elim [] fun c => linkedBy row.id c s.tables t) }
  | _ => none

/-- The handler throws: the connection fails, or the database aborts its transaction. -/
def failHandler (s : State) (d : Drain) (message : String) : Option State :=
  match d.phase, d.rows with
  | .next, row :: rest => some (s.setDrain { d with rows := rest, phase := .threw row message })
  | .inTransaction row _, _ => some (s.setDrain { d with phase := .threw row message })
  | .returned row _, _ => some (s.setDrain { d with phase := .threw row message })
  | _, _ => none

/-- The write of the loop after its handler, which waits for the lock of the row. -/
def settle (s : State) (d : Drain) : Option State :=
  match d.phase with
  | .returned row outcome =>
    if s.rowLocked row.id then none
    else some { s.setDrain { d with phase := .next } with
      tables := settleOutcome row d.claimId s.tables outcome }
  | .threw row message =>
    if s.rowLocked row.id then none
    else some { s.setDrain { d with phase := .next } with
      tables := settleError row d.claimId message s.tables }
  | _ => none

/-- One step; `none` where a lock blocks it, where the call is refused and where
    there is nothing to do. -/
def next (s : State) : Act → Option State
  | .tick ms => some { s with tables := { s.tables with now := s.tables.now + ms } }
  | .writeProfile certificate profileId =>
    if s.certificateLocked certificate then none
    else some { s with tables := { s.tables with
      certificates := updateWhere (fun c => c.id = certificate)
        (fun c => { c with profileId := profileId }) s.tables.certificates } }
  | .enqueueOther ws eventType dedupeKey payload =>
    if eventType = .profileDerivationRequested then none
    else (enqueueOutboxEvent ws eventType dedupeKey payload s.tables).toOption.map fun r =>
      { s with tables := r.2 }
  | .renewalSetup ws certificateId reads =>
    if (uuidIn certificateId).any s.certificateLocked then none
    else (renewalSetupJobCreator ws certificateId reads s.tables).toOption.map fun r =>
      { s with tables := r.2, log := s.log ++ recordedBy certificateId r.1 }
  | .beginDetach ws certificateId =>
    if (uuidIn certificateId).any s.certificateLocked then none
    else (beginDetach ws certificateId s.tables).toOption.map fun d =>
      { s with detaches := s.detaches ++ [d] }
  | .commitDetach certificate =>
    match selectOne (fun d => d.certificate = certificate) s.detaches with
    | none => none
    | some d =>
      if s.tables.outbox.any fun r => d.withdraws r && s.rowLocked r.id then none
      else some { s with
        tables := commitDetach d s.tables
        detaches := deleteWhere (fun e => e.certificate = certificate) s.detaches
        log := s.log ++ [.detached certificate] }
  | .rollbackDetach certificate =>
    some { s with detaches := deleteWhere (fun e => e.certificate = certificate) s.detaches }
  | .retryIntent ws outboxId =>
    if s.rowLocked outboxId then none
    else (retryRenewalSetupIntent ws outboxId s.tables).toOption.map fun t => { s with tables := t }
  | .drain batchSize =>
    let claimId := s.tables.nextId
    some { s with
      tables := { claimDue batchSize claimId s.rowLocked s.tables with nextId := claimId + 1 }
      drains := s.drains ++ [{
        claimId := claimId
        rows := (dueRows batchSize s.rowLocked s.tables).map (claimRow claimId s.tables.now) }] }
  | .handle claimId reads => (s.drainOf claimId).bind fun d => handle s d reads
  | .derive claimId reads acknowledged =>
    (s.drainOf claimId).bind fun d => derive s d reads acknowledged
  | .fail claimId message => (s.drainOf claimId).bind fun d => failHandler s d message
  | .settle claimId => (s.drainOf claimId).bind fun d => settle s d
  | .crash claimId =>
    some { s with drains := deleteWhere (fun d => d.claimId = claimId) s.drains }

/-- The system, from any certificates and an empty outbox. -/
def system : System State Act where
  init s := s.tables.outbox = [] ∧ KeyNodup (·.id) s.tables.certificates ∧
    s.detaches = [] ∧ s.drains = [] ∧ s.log = []
  step s a t := next s a = some t

end TokenTimer.CertOps.Adoption
