/-
  TokenTimer.CertOps.Enrollments — AD CS enrollments
  (`apps/api/services/certops/enrollmentLifecycle.js`,
  `certificateEnrollments.js`, the enrollment parts of `agentDispatch.js` and
  `managementClaim.js`, and the tables of migration 70).

  An enrollment is the CA side of a job: it stays open while one job after the
  other is dispatched for it (`continue-enrollment`), and the agent's results
  move it along `FORWARD`.  The tables stand beside the job tables of
  `TokenTimer.CertOps.Schema`; a call of either side is one transaction.

  Two reads of the source are not covered by a row lock, so what they saw is an
  INPUT: the unlocked SELECT of `recordEnrollmentResult` (`SeenEnrollment`), and
  the job that the scheduler's join read before it owned the enrollment row.

  Facts of tables that are not modelled (certificate identities, profiles, the
  lifecycle and capacity gates of a creation) are inputs too.
-/

import TokenTimer.CertOps.System

namespace TokenTimer.CertOps.Enrollment

open Lib.Table Lib.Runs

/-! ## §1. `enrollmentLifecycle.js`: states. -/

/-- `ENROLLMENT_STATES`. -/
inductive EnrollmentState
  | requested | prepared | submitting | pendingIssuance | submissionUncertain | issued
  | validationDeferred | validated | installing | installed | installFailed | denied
  | rejectedInvalid | validationExpired | refused | abandoned | expired | cancelled
deriving DecidableEq, Repr

def FORWARD : EnrollmentState → List EnrollmentState
  | .requested => [.prepared, .refused, .cancelled]
  | .prepared => [.submitting, .refused, .cancelled]
  | .submitting =>
    [.pendingIssuance, .issued, .denied, .submissionUncertain, .refused, .cancelled]
  | .submissionUncertain => [.pendingIssuance, .issued, .abandoned, .refused, .cancelled]
  | .pendingIssuance => [.issued, .denied, .expired, .cancelled, .refused]
  | .issued => [.validated, .rejectedInvalid, .validationDeferred, .refused]
  | .validationDeferred => [.validated, .rejectedInvalid, .validationExpired, .refused]
  | .validated => [.installing, .refused]
  | .installing => [.installed, .installFailed]
  | .installFailed => [.installed]
  | _ => []

/-- `TERMINAL`. -/
def isTerminalEnrollment : EnrollmentState → Bool
  | .refused | .denied | .abandoned | .expired | .cancelled | .rejectedInvalid
  | .validationExpired | .installed => true
  | _ => false

def CONTINUATION_STATES : List EnrollmentState :=
  [.installing, .pendingIssuance, .submitting, .submissionUncertain, .validationDeferred,
    .cancelled, .expired, .abandoned]

def OPEN_ENROLLMENT_STATES : List EnrollmentState :=
  [.requested, .prepared, .submitting, .pendingIssuance, .submissionUncertain, .issued,
    .validationDeferred, .validated, .installing, .installFailed]

/-- The inner loop of `canReachEnrollmentState`: `none` is the early return. -/
def visitNext (dest : EnrollmentState) :
    List EnrollmentState → List EnrollmentState → List EnrollmentState →
      Option (List EnrollmentState × List EnrollmentState)
  | [], seen, queue => some (seen, queue)
  | next :: rest, seen, queue =>
    if next = dest then none
    else if next ∈ seen then visitNext dest rest seen queue
    else visitNext dest rest (next :: seen) (queue ++ [next])

/-- The queue loop of `canReachEnrollmentState`.  A state enters the queue at
    most once, so eighteen turns are enough. -/
def reachLoop (dest : EnrollmentState) : Nat → List EnrollmentState → List EnrollmentState → Bool
  | 0, _, _ => false
  | _ + 1, _, [] => false
  | turns + 1, seen, current :: queue =>
    match visitNext dest (FORWARD current) seen queue with
    | none => true
    | some (seen', queue') => reachLoop dest turns seen' queue'

def canReachEnrollmentState (orig dest : EnrollmentState) : Bool :=
  orig = dest || reachLoop dest 18 [orig] [orig]

def CERTOPS_ENROLLMENT_TRANSITION_INVALID : String := "CERTOPS_ENROLLMENT_TRANSITION_INVALID"
def CERTOPS_ENROLLMENT_UNBOUND : String := "CERTOPS_ENROLLMENT_UNBOUND"
def CERTOPS_ENROLLMENT_NOT_FOUND : String := "CERTOPS_ENROLLMENT_NOT_FOUND"
def CERTOPS_ENROLLMENT_OPEN : String := "CERTOPS_ENROLLMENT_OPEN"
def CERTOPS_ENROLLMENT_REPLAY : String := "CERTOPS_ENROLLMENT_REPLAY"
def CERTOPS_ENROLLMENT_JOB_ACTIVE : String := "CERTOPS_ENROLLMENT_JOB_ACTIVE"
def CERTOPS_ISSUER_NOT_FOUND : String := "CERTOPS_ISSUER_NOT_FOUND"
def CERTOPS_ISSUER_KIND_INVALID : String := "CERTOPS_ISSUER_KIND_INVALID"
def CERTOPS_SNAPSHOT_INVALID : String := "CERTOPS_SNAPSHOT_INVALID"
def CERTOPS_CERTIFICATE_RETIRED : String := "CERTOPS_CERTIFICATE_RETIRED"

/-- The refusal of a transition, with the texts of both states left out. -/
def transitionInvalid : ServiceError :=
  { message := "enrollment cannot move", code := CERTOPS_ENROLLMENT_TRANSITION_INVALID }

def assertForwardTransition (orig dest : EnrollmentState) : Except ServiceError Unit :=
  require (canReachEnrollmentState orig dest) transitionInvalid

def assertDirectTransition (orig dest : EnrollmentState) : Except ServiceError Unit :=
  require (dest ∈ FORWARD orig) transitionInvalid

/-! ## §2. Certificate identifiers as text. -/

def hexDigit (c : Char) : Option Nat :=
  if '0' ≤ c ∧ c ≤ '9' then some (c.toNat - 48)
  else if 'a' ≤ c ∧ c ≤ 'f' then some (c.toNat - 87)
  else if 'A' ≤ c ∧ c ≤ 'F' then some (c.toNat - 55)
  else none

/-- What is left after `n` hexadecimal digits. -/
def dropHexDigits : Nat → List Char → Option (List Char)
  | 0, rest => some rest
  | n + 1, c :: rest => if (hexDigit c).isSome then dropHexDigits n rest else none
  | _ + 1, [] => none

/-- Groups of hexadecimal digits with a hyphen between them, and nothing else. -/
def matchesHexGroups : List Nat → List Char → Bool
  | [], text => text.isEmpty
  | [n], text => dropHexDigits n text = some []
  | n :: m :: groups, text =>
    match dropHexDigits n text with
    | some ('-' :: rest) => matchesHexGroups (m :: groups) rest
    | _ => false

/-- `CERTIFICATE_ID_UUID.test(text)`. -/
def certificateIdUuid (text : String) : Bool :=
  matchesHexGroups [8, 4, 4, 4, 12] text.toList

/-- The byte loop of the input function of a `uuid` column, `n` bytes before the
    end: a hyphen may follow every second byte but the last. -/
def uuidBytes : Nat → Nat → List Char → Option (Nat × List Char)
  | 0, value, rest => some (value, rest)
  | n + 1, value, hi :: lo :: rest =>
    match hexDigit hi, hexDigit lo with
    | some h, some l =>
      uuidBytes n (value * 256 + h * 16 + l)
        (if n % 2 = 0 ∧ 0 < n ∧ rest.head? = some '-' then rest.tail else rest)
    | _, _ => none
  | _ + 1, _, _ => none

/-- The value a `uuid` column stores for a text: any case, the hyphens optional,
    braces allowed. -/
def uuidIn (text : String) : Option Nat :=
  match text.toList with
  | '{' :: rest =>
    match uuidBytes 16 0 rest with
    | some (value, ['}']) => some value
    | _ => none
  | rest =>
    match uuidBytes 16 0 rest with
    | some (value, []) => some value
    | _ => none

/-! ## §3. The tables. -/

/-- `certificate_enrollments.last_error_code`.  The last code is written by the
    control plane only. -/
inductive AdcsErrorCode
  | templateUnsafe | caConfigUnsafe | caKeyUnpinned | caUnreachable | dispositionUnknown
  | certificateInvalid | caKeyChanged | retrievalReconciliationRequired
deriving DecidableEq, Repr

def UNREACHABLE_ERROR : AdcsErrorCode := .caUnreachable

/-- The members of the frozen snapshot that the control plane reads back. -/
structure EnrollmentSnapshot where
  pollInterval : Nat
  pendingTimeout : Nat
deriving DecidableEq, Repr

/-- The columns of `certificate_enrollments` that only the INSERT writes. -/
structure EnrollmentSpec where
  id : Nat
  workspaceId : Nat
  certificateId : Option Nat
  issuerId : Nat
  agentId : Option Nat
  snapshot : EnrollmentSnapshot
  /-- `deploy_target.type = 'windows-iis'`. -/
  targetIsWindowsIis : Bool
deriving DecidableEq, Repr

/-- A row of `certificate_enrollments`. -/
structure EnrollmentRow extends EnrollmentSpec where
  state : EnrollmentState := .requested
  attempt : Nat := 0
  requestId : Option Nat := none
  operatorRequestId : Option Nat := none
  lastErrorCode : Option AdcsErrorCode := none
  pendingSince : Option Nat := none
  nextPollAt : Option Nat := none
  currentJobId : Option Nat := none
  installedAt : Option Nat := none
deriving DecidableEq, Repr

structure PreflightResult where
  caConfig : String
  template : String
  templateSafe : Bool
  caSafe : Bool
  caKeys : List String
  rest : String
deriving DecidableEq, Repr

/-- A row of `certificate_issuers`; only a confirmed key raises the version. -/
structure IssuerRow where
  id : Nat
  workspaceId : Nat
  isAdcs : Bool
  currentVersion : Nat := 0
  revalidationRequired : Bool := false
  preflightSeq : Nat := 0
  lastPreflight : Option PreflightResult := none
  lastPreflightJobId : Option Nat := none
deriving DecidableEq, Repr

/-- The payload and the `preflight_seq` of an `adcs-preflight` job. -/
structure PreflightJobRow where
  jobId : Nat
  workspaceId : Nat
  issuerId : Nat
  caConfig : String
  template : String
  preflightSeq : Nat
deriving DecidableEq, Repr

/-- The job tables and the enrollment tables. -/
structure EnrollDb where
  core : Db
  issuers : List IssuerRow
  preflights : List PreflightJobRow
  enrollments : List EnrollmentRow

/-- A deployment with no row in any modelled table. -/
def EnrollDb.empty : EnrollDb :=
  { core := Db.empty, issuers := [], preflights := [], enrollments := [] }

/-- The enrollment half of `loadEnrollment`. -/
def EnrollDb.enrollmentOf (s : EnrollDb) (workspaceId id : Nat) : Option EnrollmentRow :=
  selectOne (fun e => e.workspaceId = workspaceId ∧ e.id = id) s.enrollments

/-- `job_status` of the join: the status of the current job. -/
def EnrollDb.jobStatus (s : EnrollDb) (row : EnrollmentRow) : Option JobStatus :=
  (row.currentJobId.bind fun id => s.core.jobOf row.workspaceId id).map (·.status)

/-- `UPDATE certificate_enrollments … WHERE workspace_id = … AND id = …`. -/
def EnrollDb.updateEnrollment (s : EnrollDb) (workspaceId id : Nat)
    (set : EnrollmentRow → EnrollmentRow) : EnrollDb :=
  { s with
    enrollments :=
      updateWhere (fun e => e.workspaceId = workspaceId ∧ e.id = id) set s.enrollments }

/-- The active statuses of `enrollmentView`. -/
def isActiveJobStatus (status : JobStatus) : Bool :=
  status ∈ [.pendingApproval, .approved, .pending, .claimed, .running]

def RUNNING_JOB (status : JobStatus) : Bool :=
  status = .claimed ∨ status = .running

def UNSTARTED_JOB (status : JobStatus) : Bool :=
  status = .pending ∨ status = .pendingApproval ∨ status = .approved

/-! ## §4. `enrollmentLifecycle.js`: continuations. -/

def REQUEST_ID_MAX : Nat := 2147483647

/-- `parseRequestId` of a stored or proposed number. -/
def parseRequestId (value : Option Nat) : Option Nat :=
  value.filter fun n => 1 ≤ n ∧ n ≤ REQUEST_ID_MAX

/-- `nextPollAt(now, snapshot.pollInterval || 900)`. -/
def pollDate (now : Nat) (snapshot : EnrollmentSnapshot) : Nat :=
  now + (if snapshot.pollInterval = 0 then 900 else snapshot.pollInterval) * 1000

/-- What `decideContinuation` may decide. -/
inductive Continuation
  | retrieveReconciliation
  | expire
  | resumeInstallation
  | unreachable
  | reconcile
  | freeKey
  | poll
deriving DecidableEq, Repr

/-- The pending deadline has passed. -/
def pastPendingTimeout (row : EnrollmentRow) (now : Nat) : Bool :=
  row.state = .pendingIssuance ∧
    row.pendingSince.any fun since => since + row.snapshot.pendingTimeout * 1000 ≤ now

/-- `decideContinuation`, of a row and whether its joined job is active. -/
def decideContinuation (row : EnrollmentRow) (activeJob : Bool) (now : Nat) :
    Option Continuation :=
  if row.state ∉ CONTINUATION_STATES then none
  else if activeJob then none
  else if pastPendingTimeout row now then
    some (if row.lastErrorCode = some .dispositionUnknown then .retrieveReconciliation
      else .expire)
  else if row.nextPollAt.any fun t => now < t then none
  else if row.state = .installing then some .resumeInstallation
  else if row.state = .submitting ∧ row.lastErrorCode = some UNREACHABLE_ERROR then
    some .unreachable
  else if row.state = .submissionUncertain then
    (parseRequestId row.operatorRequestId).map fun _ => .reconcile
  else if row.state = .cancelled ∨ row.state = .expired ∨ row.state = .abandoned then
    some .freeKey
  else if row.state = .pendingIssuance ∨ row.state = .validationDeferred then some .poll
  else none

/-! ## §5. The jobs of an enrollment. -/

/-- The text of a `metadata` entry of a stored payload. -/
def metadataText (name : String) (value : Nat) : String :=
  name ++ "=" ++ toString value

/-- `storedAdcsPayload`, with its one metadata entry. -/
def storedAdcsPayload (metadata : String) : JobPayload :=
  { rest := metadata }

/-- A creation reads the OPEN management period of its subject under a lock, so
    the guard of the same INSERT finds it open. -/
def underOpenPeriod (reads : CreateReads) : CreateReads :=
  { reads with
    management :=
      { reads.management with
        periodFound := reads.management.periodFound || reads.management.openPeriod.isSome
        periodEnded := reads.management.periodEnded && reads.management.openPeriod.isNone } }

def continuationJob (row : EnrollmentRow) (source : JobSource) (actorUserId : Option Nat)
    (metadata : String) : CreateJobOptions :=
  { workspaceId := row.workspaceId, operation := .continueEnrollment
    allowEnrollmentContinuation := true, source := source, requestedByUserId := actorUserId
    subjectType := some .managedCertificate, subjectId := row.certificateId
    assignedAgentId := row.agentId, enrollmentId := some row.id
    payload := storedAdcsPayload metadata }

/-- Create a continuation and make it the current job of its enrollment.  What
    else the transaction writes to the row is `set`. -/
def createContinuation (env : Env) (row : EnrollmentRow) (source : JobSource)
    (actorUserId : Option Nat) (metadata : String) (reads : CreateReads)
    (set : EnrollmentRow → EnrollmentRow) (s : EnrollDb) :
    Except ServiceError (Nat × EnrollDb) := do
  let (outcome, core) ← createCertificateJob env
    (continuationJob row source actorUserId metadata) (underOpenPeriod reads) s.core
  return (outcome.job.id,
    { s with core := core }.updateEnrollment row.workspaceId row.id fun e =>
      { set e with attempt := row.attempt + 1, currentJobId := some outcome.job.id })

/-! ## §6. `createEnrollment`. -/

/-- What `createEnrollment` finds under a `profileId`. -/
inductive ProfileRead
  | notGiven
  | missing
  | acme
  | issuer (id : Nat)
deriving DecidableEq, Repr

/-- The options of `createEnrollment`. -/
structure EnrollOptions where
  workspaceId : Nat
  issuerId : Option Nat
  certificateId : Option String
  agentId : Option Nat
  targetIsWindowsIis : Bool := true
  pollInterval : Option Nat := none
  pendingTimeout : Option Nat := none
  source : JobSource := .api
  mode : Option JobMode := none
  idempotencyKey : Option String := none
  actorUserId : Option Nat := none

/-- What it reads outside the modelled tables. -/
structure EnrollReads where
  profile : ProfileRead := .notGiven
  /-- The refusal of `freezeSnapshot` for the members that are not modelled. -/
  snapshot : Option ServiceError := none
  job : CreateReads := {}

/-- `DEFAULT_POLL_INTERVAL_SECONDS` and `DEFAULT_PENDING_TIMEOUT_SECONDS`. -/
def DEFAULT_POLL_INTERVAL_SECONDS : Nat := 900
def DEFAULT_PENDING_TIMEOUT_SECONDS : Nat := 14 * 24 * 60 * 60

/-- `freezeSnapshot`, with the bounds of the snapshot contract. -/
def freezeSnapshot (o : EnrollOptions) (reads : EnrollReads) :
    Except ServiceError EnrollmentSnapshot := do
  passes reads.snapshot
  let pollInterval := o.pollInterval.getD DEFAULT_POLL_INTERVAL_SECONDS
  let pendingTimeout := o.pendingTimeout.getD DEFAULT_PENDING_TIMEOUT_SECONDS
  require (60 ≤ pollInterval ∧ pollInterval ≤ 86400 ∧ 3600 ≤ pendingTimeout ∧
      pendingTimeout ≤ 7776000)
    { message := "enrollment snapshot does not match its contract"
      code := CERTOPS_SNAPSHOT_INVALID }
  return { pollInterval := pollInterval, pendingTimeout := pendingTimeout }

/-- An automatic creation needs the side-effect switch of the workspace. -/
def assertSourceAllowed (env : Env) (o : EnrollOptions) (db : Db) : Except ServiceError Unit :=
  if o.source = .automation then
    (lockWorkspaceForCertOpsSideEffect env o.workspaceId db).map fun _ => ()
  else .ok ()

/-- `findOpenEnrollment`, of the value the certificate id has as a UUID. -/
def findOpenEnrollment (s : EnrollDb) (workspaceId certificateId : Nat) : Option EnrollmentRow :=
  selectOne (fun e => e.workspaceId = workspaceId ∧ e.certificateId = some certificateId ∧
    e.state ∈ OPEN_ENROLLMENT_STATES) s.enrollments

/-- The certificate lock and the open-enrollment check: both are taken only for
    an id that the pattern matches. -/
def assertNoOpenEnrollment (o : EnrollOptions) (s : EnrollDb) : Except ServiceError Unit :=
  if certificateIdUuid (o.certificateId.getD "") then
    require (((uuidIn (o.certificateId.getD "")).bind (findOpenEnrollment s o.workspaceId)).isNone)
      { message := "This certificate already has an enrollment in progress. " ++
          "Wait for it, or cancel or abandon it first."
        code := CERTOPS_ENROLLMENT_OPEN }
  else .ok ()

/-- The value of the `certificate_id` column, or the cast error of the INSERT. -/
def certificateIdColumn (certificateId : Option String) : Except ServiceError (Option Nat) :=
  match certificateId with
  | none => .ok none
  | some text =>
    match uuidIn text with
    | some value => .ok (some value)
    | none => .error { message := "invalid input syntax for type uuid", code := "22P02" }

def resolveIssuer (o : EnrollOptions) (reads : EnrollReads) : Except ServiceError (Option Nat) :=
  match reads.profile with
  | .notGiven => .ok o.issuerId
  | .missing =>
    .error { message := "renewal profile not found", code := "CERTOPS_PROFILE_NOT_FOUND" }
  | .acme =>
    .error
      { message := "this profile uses ACME; select an AD CS issuer before enrolling"
        code := "CERTOPS_PROFILE_ISSUER_NOT_SELECTED" }
  | .issuer id =>
    if o.issuerId.all fun given => given = id then .ok (some id)
    else
      .error
        { message := "enrollment issuer does not match the renewal profile"
          code := "CERTOPS_PROFILE_ISSUER_MISMATCH" }

def confirmedIssuer (workspaceId : Nat) (issuerId : Option Nat) (s : EnrollDb) :
    Except ServiceError IssuerRow :=
  match selectOne (fun i => i.workspaceId = workspaceId ∧ some i.id = issuerId ∧
      0 < i.currentVersion) s.issuers with
  | none =>
    .error { message := "confirmed issuer version not found", code := CERTOPS_ISSUER_NOT_FOUND }
  | some issuer =>
    if issuer.revalidationRequired then
      .error
        { message := "issuer requires revalidation before new enrollments"
          code := "CERTOPS_ISSUER_REVALIDATION_REQUIRED" }
    else .ok issuer

/-- The options of the first job. -/
def enrollmentJob (o : EnrollOptions) (certificateId : Option Nat) (enrollmentId : Nat) :
    CreateJobOptions :=
  { workspaceId := o.workspaceId, operation := .renew, source := o.source
    requestedByUserId := o.actorUserId, mode := o.mode, idempotencyKey := o.idempotencyKey
    subjectType := some .managedCertificate, subjectId := certificateId
    assignedAgentId := o.agentId, enrollmentId := some enrollmentId
    payload := storedAdcsPayload "" }

def createEnrollment (env : Env) (o : EnrollOptions) (reads : EnrollReads) (s : EnrollDb) :
    Except ServiceError (Nat × EnrollDb) := do
  require o.targetIsWindowsIis
    { message := "enrollment target must be a windows-iis binding"
      code := CERTOPS_SNAPSHOT_INVALID }
  assertSourceAllowed env o s.core
  assertNoOpenEnrollment o s
  let issuerId ← resolveIssuer o reads
  let issuer ← confirmedIssuer o.workspaceId issuerId s
  let snapshot ← freezeSnapshot o reads
  let certificateId ← certificateIdColumn o.certificateId
  let enrollmentId := s.core.nextId
  let (outcome, core) ← createCertificateJob env (enrollmentJob o certificateId enrollmentId)
    (underOpenPeriod reads.job) { s.core with nextId := s.core.nextId + 1 }
  require outcome.created
    { message := "an automatic renewal for this certificate expiry already exists"
      code := CERTOPS_ENROLLMENT_REPLAY }
  return (enrollmentId,
    { s with
      core := core
      enrollments := s.enrollments ++
        [{ id := enrollmentId, workspaceId := o.workspaceId, certificateId := certificateId
           issuerId := issuer.id, agentId := o.agentId, snapshot := snapshot
           targetIsWindowsIis := o.targetIsWindowsIis
           currentJobId := some outcome.job.id }] })

/-! ## §7. `recordEnrollmentResult`. -/

/-- `resultBody.enrollmentResult`. -/
structure EnrollmentResult where
  enrollmentId : Nat
  attempt : Nat
  state : EnrollmentState
  requestId : Option Nat := none
  errorCode : Option AdcsErrorCode := none
  caHresult : Option Nat := none
deriving DecidableEq, Repr

def errorCodeAllows (state : EnrollmentState) : AdcsErrorCode → Bool
  | .templateUnsafe | .caConfigUnsafe | .caKeyUnpinned => state = .refused
  | .certificateInvalid | .caKeyChanged => state = .rejectedInvalid
  | .caUnreachable => state = .submitting
  | .dispositionUnknown => state = .submissionUncertain ∨ state = .pendingIssuance
  | .retrievalReconciliationRequired => false

def validateEnrollmentResult (r : EnrollmentResult) : Bool :=
  (1 ≤ r.attempt ∧ r.attempt ≤ 1000000 : Bool) && (r.state ≠ .requested : Bool) &&
  (r.requestId.all fun n => 1 ≤ n ∧ n ≤ REQUEST_ID_MAX) &&
  (r.state ≠ .pendingIssuance || r.requestId.isSome) &&
  (r.state ≠ .denied || r.caHresult.isSome) &&
  (r.state ≠ .rejectedInvalid || r.errorCode.isSome) &&
  r.errorCode.all (errorCodeAllows r.state)

/-- The columns an unlocked SELECT may have read before another transaction
    changed them. -/
structure SeenEnrollment where
  state : EnrollmentState
  attempt : Nat
  operatorRequestId : Option Nat
  pendingSince : Option Nat
deriving DecidableEq, Repr

def EnrollmentRow.seen (row : EnrollmentRow) (stale : Option SeenEnrollment) : SeenEnrollment :=
  stale.getD
    { state := row.state, attempt := row.attempt, operatorRequestId := row.operatorRequestId
      pendingSince := row.pendingSince }

def keepsPolling (seen : SeenEnrollment) (r : EnrollmentResult) : Bool :=
  (r.state = .submissionUncertain && (parseRequestId seen.operatorRequestId).isSome) ||
  r.state = .pendingIssuance || r.state = .validationDeferred || r.state = .installing ||
  (r.state = .submitting && r.errorCode = some UNREACHABLE_ERROR)

/-- The SET list of `recordEnrollmentResult`. -/
def setReported (seen : SeenEnrollment) (r : EnrollmentResult) (now : Nat) (row : EnrollmentRow) :
    EnrollmentRow :=
  { row with
    state := r.state
    requestId := r.requestId.or row.requestId
    lastErrorCode := r.errorCode
    pendingSince :=
      if r.state = .pendingIssuance ∧ seen.pendingSince = none then some now
      else seen.pendingSince
    nextPollAt := if keepsPolling seen r then some (pollDate now row.snapshot) else none
    installedAt := if r.state = .installed then coalesce row.installedAt now else row.installedAt }

/-- The issuer whose CA key has changed needs a new confirmation. -/
def flagIssuer (r : EnrollmentResult) (row : EnrollmentRow) (issuers : List IssuerRow) :
    List IssuerRow :=
  if r.errorCode = some .caKeyChanged then
    updateWhere (fun i => i.workspaceId = row.workspaceId ∧ i.id = row.issuerId)
      (fun i => { i with revalidationRequired := true }) issuers
  else issuers

/-- `recordEnrollmentResult`.  The UPDATE applies only where the row still has
    the state that was read. -/
def recordEnrollmentResult (job : JobRow) (r : EnrollmentResult) (stale : Option SeenEnrollment)
    (s : EnrollDb) : Except ServiceError EnrollDb := do
  require (validateEnrollmentResult r)
    { message := "enrollment report does not match its contract"
      code := CERTOPS_ENROLLMENT_TRANSITION_INVALID }
  require (job.enrollmentId = some r.enrollmentId)
    { message := "enrollmentResult.enrollmentId does not match the job"
      code := CERTOPS_ENROLLMENT_UNBOUND }
  match s.enrollmentOf job.workspaceId r.enrollmentId with
  | none => .error { message := "enrollment not found", code := CERTOPS_ENROLLMENT_NOT_FOUND }
  | some row => do
    let seen := row.seen stale
    require (r.attempt = seen.attempt ∨ seen.attempt = 0)
      { message := "enrollmentResult.attempt does not match the enrollment"
        code := CERTOPS_ENROLLMENT_UNBOUND }
    assertForwardTransition seen.state r.state
    require (row.state = seen.state)
      { message := "enrollment state changed before the agent result was recorded"
        code := CERTOPS_ENROLLMENT_TRANSITION_INVALID }
    let s' := s.updateEnrollment row.workspaceId row.id (setReported seen r s.core.now)
    return { s' with issuers := flagIssuer r row s'.issuers }

/-! ## §8. Preflights. -/

def PREFLIGHT_PER_HOUR : Nat := 20

def dispatchPreflight (env : Env) (workspaceId issuerId : Nat) (agentId : Option Nat)
    (caConfig template : String) (reads : CreateReads) (s : EnrollDb) :
    Except ServiceError EnrollDb := do
  let recent := s.core.jobs.countP fun j => j.workspaceId = workspaceId ∧
    j.operation = .adcsPreflight ∧ s.core.now < j.createdAt + 3600000
  require (recent < PREFLIGHT_PER_HOUR)
    { message := "AD CS preflight rate limit exceeded for this workspace"
      code := "CERTOPS_PREFLIGHT_RATE_LIMITED" }
  let (outcome, core) ← createCertificateJob env
    { workspaceId := workspaceId, operation := .adcsPreflight, allowIssuerPreflight := true
      subjectType := some .external, subjectId := some issuerId, assignedAgentId := agentId
      payload := { rest := caConfig ++ "/" ++ template } } (underOpenPeriod reads) s.core
  match selectOne (fun i => i.workspaceId = workspaceId ∧ i.id = issuerId) s.issuers with
  | none => .error { message := "issuer not found", code := CERTOPS_ISSUER_NOT_FOUND }
  | some issuer =>
    return { s with
      core := core
      issuers := updateWhere (fun i => i.workspaceId = workspaceId ∧ i.id = issuerId)
        (fun i => { i with preflightSeq := i.preflightSeq + 1 }) s.issuers
      preflights := s.preflights ++
        [{ jobId := outcome.job.id, workspaceId := workspaceId, issuerId := issuerId
           caConfig := caConfig, template := template
           preflightSeq := issuer.preflightSeq + 1 }] }

def EnrollDb.preflightOf (s : EnrollDb) (workspaceId jobId : Nat) : Option PreflightJobRow :=
  selectOne (fun p => p.workspaceId = workspaceId ∧ p.jobId = jobId) s.preflights

/-- The WHERE of the preflight UPDATE: no preflight is stored, or the stored one
    is not of a later job. -/
def preflightIsNewer (s : EnrollDb) (incoming : PreflightJobRow) (issuer : IssuerRow) : Bool :=
  match issuer.lastPreflightJobId.bind fun id => s.preflightOf issuer.workspaceId id with
  | none => true
  | some stored =>
    stored.preflightSeq < incoming.preflightSeq ||
      (stored.preflightSeq = incoming.preflightSeq && stored.jobId ≤ incoming.jobId)

/-- The UPDATE of `recordPreflightResult`. -/
def storePreflight (incoming : PreflightJobRow) (p : PreflightResult) (s : EnrollDb) : EnrollDb :=
  { s with
    issuers := updateWhere
      (fun i => i.workspaceId = incoming.workspaceId ∧ i.id = incoming.issuerId ∧
        preflightIsNewer s incoming i)
      (fun i =>
        { i with lastPreflight := some p, lastPreflightJobId := some incoming.jobId }) s.issuers }

def recordPreflightResult (job : JobRow) (jobStatus : JobStatus) (p : PreflightResult)
    (s : EnrollDb) : Except ServiceError EnrollDb := do
  require (jobStatus = .succeeded)
    { message := "preflightResult requires a succeeded adcs-preflight job"
      code := CERTOPS_AGENT_RESULT_STATUS_INVALID }
  match s.preflightOf job.workspaceId job.id with
  | none =>
    .error
      { message := "preflightResult does not match the job CA and template"
        code := CERTOPS_SNAPSHOT_INVALID }
  | some incoming => do
    require (incoming.caConfig = p.caConfig ∧ incoming.template = p.template)
      { message := "preflightResult does not match the job CA and template"
        code := CERTOPS_SNAPSHOT_INVALID }
    return storePreflight incoming p s

def confirmedKeyAllowed (preflight : Option PreflightResult) (caKeySha256 : String) : Bool :=
  preflight.any fun p => p.templateSafe && p.caSafe && (caKeySha256 ∈ p.caKeys : Bool)

def confirmIssuerKey (workspaceId issuerId : Nat) (caKeySha256 : String)
    (caConfig template : Option String) (s : EnrollDb) : Except ServiceError EnrollDb :=
  match selectOne (fun i => i.workspaceId = workspaceId ∧ i.id = issuerId) s.issuers with
  | none => .error { message := "issuer not found", code := CERTOPS_ISSUER_NOT_FOUND }
  | some issuer => do
    require issuer.isAdcs
      { message := "only an adcs issuer confirms a CA key", code := CERTOPS_ISSUER_KIND_INVALID }
    require (confirmedKeyAllowed issuer.lastPreflight caKeySha256)
      { message := "caKeySha256 must be a key from a safe preflight result"
        code := CERTOPS_SNAPSHOT_INVALID }
    require (caConfig.all fun c => issuer.lastPreflight.any fun p => p.caConfig = c)
      { message := "caConfig does not match the preflight result"
        code := CERTOPS_SNAPSHOT_INVALID }
    require (template.all fun t => issuer.lastPreflight.any fun p => p.template = t)
      { message := "template does not match the preflight result"
        code := CERTOPS_SNAPSHOT_INVALID }
    return { s with
      issuers := updateWhere (fun i => i.workspaceId = workspaceId ∧ i.id = issuerId)
        (fun i => { i with currentVersion := i.currentVersion + 1, revalidationRequired := false })
        s.issuers }

def createIssuer (workspaceId : Nat) (isAdcs : Bool) (s : EnrollDb) : EnrollDb :=
  { s with
    core := { s.core with nextId := s.core.nextId + 1 }
    issuers := s.issuers ++ [{ id := s.core.nextId, workspaceId := workspaceId, isAdcs := isAdcs }] }

def discardUnconfiguredIssuer (workspaceId issuerId : Nat) (s : EnrollDb) : EnrollDb :=
  { s with
    issuers := deleteWhere (fun i => i.workspaceId = workspaceId ∧ i.id = issuerId ∧
      i.currentVersion = 0 ∧
      !(s.enrollments.any fun e => e.workspaceId = i.workspaceId ∧ e.issuerId = i.id)) s.issuers }

end TokenTimer.CertOps.Enrollment
