/-
  TokenTimer.Agent.Retention — the retention of superseded Windows certificates: the
  ledger with one row per certificate (`windows-retention/index.js`), the supersession a
  verified IIS cutover records and the sweep over the ledger
  (`recordSupersededWindowsCertificate`, `runWindowsRetentionSweep` in `index.js`).

  Thumbprints are compared in upper case everywhere, so they are numbers here; times are in
  milliseconds.  A sweep holds the store lock of a row while it reads the live facts and
  cleans up, and a cutover of the agent takes the same lock (every lock set has `My`).  Other
  programs on the host may change the http.sys bindings at any time.
-/

import TokenTimer.Lib.Runs
import TokenTimer.Lib.Table

namespace TokenTimer.WindowsRetention

open Lib.Runs Lib.Table

/-! ## §1. Rows of the ledger. -/

def MIN_RETENTION_HOURS : Nat := 24
def MAX_RETENTION_HOURS : Nat := 720
def CLOCK_SKEW_GRACE_SECONDS : Nat := 300

/-- `OWNERSHIP_PROVENANCE_VALUES`. -/
inductive Provenance
  | tokentimerInstalled | preexisting
deriving DecidableEq, Repr

/-- `LIFECYCLE_STATE_VALUES`. -/
inductive LifecycleState
  | pendingRetention | eligible | deferred | removed
deriving DecidableEq, Repr

/-- `DEFERRAL_REASONS`. -/
inductive DeferralReason
  | ownershipUnrecorded | bindingStillPresent | activeReferencePresent | sharedKeyContainer
  | replacementHandshakeFailed | deadlineNotReached
deriving DecidableEq, Repr

structure JournalRef where
  ref : String
  active : Bool
deriving DecidableEq, Repr

/-- A row of the ledger, in the file of its `oldThumbprint`. -/
structure Row where
  oldThumbprint : Nat
  replacementThumbprint : Nat
  cngKeyContainerId : String
  verifiedCutoverAt : Nat
  oldNotAfter : Nat
  ownershipProvenance : Provenance
  store : Option String
  jobOrRollbackJournalRefs : List JournalRef
  lifecycleState : LifecycleState := .pendingRetention
  deferralReason : Option DeferralReason := none
deriving DecidableEq, Repr

/-- `row.store || "My"`, in upper case. -/
def Row.storeName (row : Row) : String := (row.store.getD "My").toUpper

/-! ## §2. The host. -/

/-- A TLS binding of http.sys. -/
structure Binding where
  id : Nat
  thumbprint : Nat
  storeName : Option String
deriving DecidableEq, Repr

/-- A certificate as `listMachineStoreCertificates` reports it. -/
structure StoreCertificate where
  thumbprint : Nat
  notAfter : Option Nat
  keyContainer : Option String
deriving DecidableEq, Repr

/-- `status` of an issued-container record. -/
inductive IssuedStatus
  | generated | enrolledByAgent
deriving DecidableEq, Repr

/-- A record of `recordIssuedContainer`. -/
structure IssuedRecord where
  containerName : String
  status : IssuedStatus := .generated
  acceptedThumbprint : Option Nat := none
deriving DecidableEq, Repr

structure Cutover where
  oldThumbprint : Nat
  replacementThumbprint : Nat
  completedAt : Nat
deriving DecidableEq, Repr

/-- A call of `performCleanup`, with what held when it was made. -/
structure Cleanup where
  thumbprint : Nat
  calledAt : Nat
  bindings : List Binding
  accepted : List Nat
  cutovers : List Cutover
  succeeded : Bool
deriving DecidableEq, Repr

/-- What a sweep read about a row under its lock. -/
structure Gathered where
  row : Row
  bindingStillReferencesOldThumbprint : Bool
  keyContainerSharedWithSurvivor : Bool
  replacementPassesHandshakeNow : Bool
deriving DecidableEq, Repr

/-- The agent's policy, and the validity of each certificate. -/
structure Config where
  retentionHours : Nat
  retentionHours_range : MIN_RETENTION_HOURS ≤ retentionHours ∧ retentionHours ≤ MAX_RETENTION_HOURS
  notAfter : Nat → Nat

structure State where
  now : Nat
  bindings : List Binding := []
  issued : List IssuedRecord := []
  ledger : List Row := []
  /-- The row a sweep holds the lock of. -/
  sweeping : Option Gathered := none
  /-- The certificates the agent accepted into a container of its own, the cutovers and the
      cleanups so far. -/
  accepted : List Nat := []
  cutovers : List Cutover := []
  cleanups : List Cleanup := []
deriving DecidableEq

def readLedgerRow (ledger : List Row) (oldThumbprint : Nat) : Option Row :=
  selectOne (fun row => row.oldThumbprint = oldThumbprint) ledger

def references (bindings : List Binding) (thumbprint : Nat) : Bool :=
  bindings.any fun b => b.thumbprint = thumbprint

/-! ## §3. Issued containers. -/

def AGENT_CONTAINER_NAME_PREFIX : String := "tokentimer-"

/-- A character of `CONTAINER_NAME_PATTERN`. -/
def containerChar (c : Char) : Bool := c.isAlphanum || c = '_' || c = '-'

def isAgentOwnedContainerName (name : String) : Bool :=
  decide (0 < name.length) && decide (name.length ≤ 128) && name.toList.all containerChar &&
    AGENT_CONTAINER_NAME_PREFIX.toList.isPrefixOf name.toList

def readIssuedContainerRecord (issued : List IssuedRecord) (containerName : String) :
    Option IssuedRecord :=
  selectOne (fun r => r.containerName = containerName) issued

def removeIssuedContainerRecord (containerName : String) (issued : List IssuedRecord) :
    List IssuedRecord :=
  deleteWhere (fun r => r.containerName = containerName) issued

def recordIssuedContainer (containerName : String) (issued : List IssuedRecord) : List IssuedRecord :=
  removeIssuedContainerRecord containerName issued ++ [{ containerName := containerName }]

def markIssuedContainerAccepted (containerName : String) (thumbprint : Nat)
    (issued : List IssuedRecord) : List IssuedRecord :=
  updateWhere (fun r => r.containerName = containerName)
    (fun r => { r with status := .enrolledByAgent, acceptedThumbprint := some thumbprint }) issued

/-! ## §4. The supersession of a certificate. -/

def provenConfidently (issued : List IssuedRecord) (oldThumbprint : Nat)
    (predecessor : Option StoreCertificate) : Option String :=
  (predecessor.bind (·.keyContainer)).filter fun name =>
    isAgentOwnedContainerName name &&
      (readIssuedContainerRecord issued name).any fun r =>
        r.status = .enrolledByAgent && r.acceptedThumbprint = some oldThumbprint

/-- `recordSupersededWindowsCertificate`; `listing` is what the store query answered, and
    `placeholder` the container name of a predecessor of unknown origin. -/
def recordSupersededWindowsCertificate (jobId store : String) (oldThumbprint replacementThumbprint : Nat)
    (listing : Option (List StoreCertificate)) (placeholder : String) (s : State) : State :=
  match readLedgerRow s.ledger oldThumbprint with
  | some _ => s
  | none =>
    let predecessor := listing.bind (selectOne fun c => c.thumbprint = oldThumbprint)
    let proof := provenConfidently s.issued oldThumbprint predecessor
    { s with
      ledger := s.ledger ++
        [{ oldThumbprint, replacementThumbprint
           cngKeyContainerId := proof.getD placeholder
           verifiedCutoverAt := s.now
           oldNotAfter := (predecessor.bind (·.notAfter)).getD s.now
           ownershipProvenance := if proof.isSome then .tokentimerInstalled else .preexisting
           store := some store
           jobOrRollbackJournalRefs := [{ ref := jobId, active := false }] }] }

def rebind (bindingId thumbprint : Nat) (bindings : List Binding) : List Binding :=
  updateWhere (fun b => b.id = bindingId) (fun b => { b with thumbprint }) bindings

/-- A verified cutover: `deployIisBinding` answers `ok` with an outgoing certificate. -/
def cutover (bindingId thumbprint : Nat) (s : State) : Option State :=
  match selectOne (fun b => b.id = bindingId) s.bindings with
  | none => none
  | some b =>
    if s.sweeping.isSome ∨ b.thumbprint = thumbprint then none
    else
      some { s with
        bindings := rebind bindingId thumbprint s.bindings
        cutovers := s.cutovers ++
          [{ oldThumbprint := b.thumbprint, replacementThumbprint := thumbprint, completedAt := s.now }] }

/-! ## §5. The sweep. -/

def isBound (bindings : List Binding) (thumbprint : Nat) (store : String) : Bool :=
  bindings.any fun b => decide (b.thumbprint = thumbprint) &&
    decide ((b.storeName.getD "My").toUpper = store)

/-- The loop of `resolveBoundReplacement` along the ledger. -/
def followReplacements (ledger : List Row) (bindings : List Binding) (store : String) (now : Nat) :
    Nat → List Nat → Nat → Nat → Option Nat
  | 0, _, _, _ => none
  | depth + 1, visited, thumbprint, cutoverAt =>
    if thumbprint ∈ visited then none
    else if isBound bindings thumbprint store then some thumbprint
    else
      match readLedgerRow ledger thumbprint with
      | none => none
      | some row =>
        if row.ownershipProvenance ≠ .tokentimerInstalled ∨ row.storeName ≠ store ∨
            (row.jobOrRollbackJournalRefs.any fun r => r.active) = true ∨
            row.verifiedCutoverAt < cutoverAt ∨ now < row.verifiedCutoverAt then none
        else
          followReplacements ledger bindings store now depth (thumbprint :: visited)
            row.replacementThumbprint row.verifiedCutoverAt

def resolveBoundReplacement (s : State) (row : Row) : Option Nat :=
  followReplacements s.ledger s.bindings row.storeName s.now 64 [row.oldThumbprint]
    row.replacementThumbprint row.verifiedCutoverAt

/-- `gatherContext`: `readable` is that http.sys could be queried, `shared` what the survivor
    inventory answered, `observed` the certificate the TLS probe saw. -/
def gatherContext (readable : Bool) (shared : Option Bool) (observed : Option Nat) (row : Row)
    (s : State) : Gathered :=
  let replacement := resolveBoundReplacement s row
  { row
    bindingStillReferencesOldThumbprint := !readable || references s.bindings row.oldThumbprint
    keyContainerSharedWithSurvivor := shared ≠ some false
    replacementPassesHandshakeNow := readable && replacement.isSome && decide (observed = replacement) }

def computeCleanupDeadline (cfg : Config) (row : Row) : Nat :=
  min (row.verifiedCutoverAt + cfg.retentionHours * 60 * 60 * 1000)
    (row.oldNotAfter + CLOCK_SKEW_GRACE_SECONDS * 1000)

/-- `evaluateEligibility`: `none` is eligible. -/
def evaluateEligibility (cfg : Config) (now : Nat) (g : Gathered) : Option DeferralReason :=
  if g.row.ownershipProvenance ≠ .tokentimerInstalled then some .ownershipUnrecorded
  else if g.bindingStillReferencesOldThumbprint then some .bindingStillPresent
  else if g.row.jobOrRollbackJournalRefs.any fun r => r.active then some .activeReferencePresent
  else if g.keyContainerSharedWithSurvivor then some .sharedKeyContainer
  else if !g.replacementPassesHandshakeNow then some .replacementHandshakeFailed
  else if now ≤ computeCleanupDeadline cfg g.row then some .deadlineNotReached
  else none

/-- `writeLedgerRow`: the whole row is rewritten. -/
def writeLedgerRow (row : Row) (ledger : List Row) : List Row := replaceByKey Row.oldThumbprint row ledger

/-- The sweep takes the lock of a row, reads it again and gathers its facts. -/
def sweepGather (oldThumbprint : Nat) (readable : Bool) (shared : Option Bool) (observed : Option Nat)
    (s : State) : Option State :=
  match readLedgerRow s.ledger oldThumbprint with
  | none => none
  | some row =>
    if s.sweeping.isSome ∨ row.lifecycleState = .removed then none
    else some { s with sweeping := some (gatherContext readable shared observed row s) }

/-- How a call of `performCleanup` ends. -/
inductive CleanupOutcome
  | deleted
  /-- The native deletion failed. -/
  | failed
  /-- The store lock was lost under way: no row is written. -/
  | lockLost
  /-- The agent died after the deletion, before the row was written. -/
  | crashed
deriving DecidableEq, Repr

/-- The call of `performCleanup` of a row. -/
def State.cleanedUp (s : State) (row : Row) (succeeded : Bool) : State :=
  { s with
    issued := if succeeded then removeIssuedContainerRecord row.cngKeyContainerId s.issued else s.issued
    cleanups := s.cleanups ++
      [{ thumbprint := row.oldThumbprint, calledAt := s.now, bindings := s.bindings
         accepted := s.accepted, cutovers := s.cutovers, succeeded }] }

/-- The rest of `processRow`. -/
def sweepFinish (cfg : Config) (outcome : CleanupOutcome) (s : State) : Option State :=
  match s.sweeping with
  | none => none
  | some g =>
    let s := { s with sweeping := none }
    match evaluateEligibility cfg s.now g with
    | some reason =>
      some { s with
        ledger := writeLedgerRow { g.row with lifecycleState := .deferred, deferralReason := some reason }
          s.ledger }
    | none =>
      match outcome with
      | .deleted =>
        some { s.cleanedUp g.row true with
          ledger := writeLedgerRow { g.row with lifecycleState := .removed, deferralReason := none }
            s.ledger }
      | .failed =>
        some { s.cleanedUp g.row false with
          ledger := writeLedgerRow { g.row with lifecycleState := .eligible, deferralReason := none }
            s.ledger }
      | .lockLost => some (s.cleanedUp g.row false)
      | .crashed => some (s.cleanedUp g.row true)

def closeJournalReference (oldThumbprint : Nat) (ref : String) (s : State) : State :=
  match readLedgerRow s.ledger oldThumbprint with
  | none => s
  | some row =>
    { s with
      ledger := writeLedgerRow
        { row with
          jobOrRollbackJournalRefs := row.jobOrRollbackJournalRefs.map fun r =>
            if r.ref = ref then { r with active := false } else r } s.ledger }

/-! ## §6. The system. -/

inductive Event
  | recordIssuedContainer (containerName : String)
  /-- `certreq -accept`, and whether its record could be marked. -/
  | acceptCertificate (containerName : String) (thumbprint : Nat) (marked : Bool)
  | removeIssuedContainer (containerName : String)
  /-- Another program changes the bindings, or the agent restores one. -/
  | setBindings (bindings : List Binding)
  | cutover (bindingId thumbprint : Nat)
  | recordSuperseded (jobId store : String) (cutover : Cutover) (listing : Option (List StoreCertificate))
      (placeholder : String)
  | sweepGather (oldThumbprint : Nat) (readable : Bool) (shared : Option Bool) (observed : Option Nat)
  | sweepFinish (outcome : CleanupOutcome)
  | sweepAbort
  | closeJournalReference (oldThumbprint : Nat) (ref : String)
  | wait (ms : Nat)

/-- The store reports the validity of its certificates. -/
def truthful (cfg : Config) (listing : Option (List StoreCertificate)) : Bool :=
  listing.all fun certificates => certificates.all fun c => c.notAfter = some (cfg.notAfter c.thumbprint)

/-- What an event does.  A supersession is recorded after its cutover, any number of times. -/
def next (cfg : Config) (s : State) : Event → Option State
  | .recordIssuedContainer name => some { s with issued := recordIssuedContainer name s.issued }
  | .acceptCertificate name thumbprint marked =>
    some { s with
      issued := if marked then markIssuedContainerAccepted name thumbprint s.issued else s.issued
      accepted := s.accepted ++ [thumbprint] }
  | .removeIssuedContainer name => some { s with issued := removeIssuedContainerRecord name s.issued }
  | .setBindings bindings => some { s with bindings }
  | .cutover bindingId thumbprint => cutover bindingId thumbprint s
  | .recordSuperseded jobId store c listing placeholder =>
    if c ∈ s.cutovers ∧ truthful cfg listing = true then
      some (recordSupersededWindowsCertificate jobId store c.oldThumbprint c.replacementThumbprint listing
        placeholder s)
    else none
  | .sweepGather oldThumbprint readable shared observed =>
    sweepGather oldThumbprint readable shared observed s
  | .sweepFinish outcome => sweepFinish cfg outcome s
  | .sweepAbort => some { s with sweeping := none }
  | .closeJournalReference oldThumbprint ref => some (closeJournalReference oldThumbprint ref s)
  | .wait ms => some { s with now := s.now + ms }

/-- A host the agent has not worked on; its bindings are whatever they are. -/
structure Init (s : State) : Prop where
  issued : s.issued = []
  ledger : s.ledger = []
  sweeping : s.sweeping = none
  cutovers : s.cutovers = []
  cleanups : s.cleanups = []

/-- The retention of superseded certificates on a host. -/
def system (cfg : Config) : System State Event where
  init := Init
  step s e t := next cfg s e = some t

end TokenTimer.WindowsRetention
