/-
  TokenTimer.Agent.PinnedDeployment — the deployment of a pinned material version to one
  binding, and the local record of the binding (`material-store/lifecycle.js`:
  `executePinnedDeployment`, `deployWroteNothing`, `reconcilePinnedDeployment`).

  The record says which generation the binding is at and whether the host is UNCERTAIN.  It
  is marked uncertain before the destinations are touched, and the mark is taken back on the
  failures that touched nothing.

  Each operation of a call that can fail answers from a field of the call; an operation whose
  answer is missing there cannot fail.  A write of the record may fail before or after the
  rename.  The deploy is the one of `TokenTimer.Agent.Deploy`, seen from the destinations.
-/

import TokenTimer.Agent.Deploy
import TokenTimer.Lib.Runs

namespace TokenTimer.PinnedDeployment

open Lib.Runs TokenTimer.Json
open TokenTimer.Agent (Path Bytes Environment Stage)

/-! ## §1. Intents, bundles and the record. -/

/-- `material-deployment` of a job, up to what its binding fixes. -/
structure Intent where
  generation : Nat
  materialVersionId : JsString
  fingerprintSha256 : JsString
  verificationOnly : Bool
deriving DecidableEq

structure Bundle where
  certificatePem : JsString
  privateKeyPem : JsString
  fingerprintSha256 : JsString
deriving DecidableEq

/-- `material-bindings/<bindingId>.json`. -/
structure Record where
  generation : Nat
  intentHash : JsString
  uncertain : Bool
  certificatePem : Option JsString
deriving DecidableEq

inductive VerificationPolicy
  | installed | served | trust
deriving DecidableEq

/-- `binding.target`. -/
inductive Target
  | endpoint (certPath keyPath : Path) (chainPath : Option Path)
  | windowsIis
deriving DecidableEq

/-- A binding, and functions of the language and of `node:crypto`. -/
structure Config where
  target : Target
  verificationPolicy : VerificationPolicy
  env : Environment
  /-- `sha256(canonicalizeJobPayload(intent))`. -/
  intentHash : Intent → JsString
  /-- The certificate blocks of a PEM text. -/
  certificateBlocks : JsString → List JsString
  /-- What `installedPairMatches` says of the certificate, key and chain it read, for a
      fingerprint and a certificate PEM. -/
  pairMatches : Bytes → Bytes → Option Bytes → JsString → JsString → Bool
  /-- The fingerprint of a certificate PEM; `none` where it does not parse. -/
  fingerprint : JsString → Option JsString

/-! ## §2. The host. -/

abbrev Files := Path → Option Bytes

def Files.write (files : Files) (path : Path) (content : Bytes) : Files :=
  fun p => if p = path then some content else files p

/-- The certificate store and the binding of IIS, by fingerprints. -/
structure WindowsHost where
  imported : List JsString
  bound : Option JsString
deriving DecidableEq

/-- What a deployment may change. -/
structure Destination where
  files : Files
  windows : WindowsHost

structure Material where
  fingerprintSha256 : JsString
  certificatePem : JsString
deriving DecidableEq

inductive Outcome
  | succeeded | failed | orphanedUnknownEffect | threw
deriving DecidableEq

/-- A call that is over. -/
structure Performed where
  outcome : Outcome
  destination : Destination
  destination' : Destination
  record : Option Record
  record' : Option Record

/-- A write of the destinations, with the generations installed before it. -/
structure Write where
  generation : Nat
  installed : List Nat
deriving DecidableEq

structure State where
  destination : Destination
  record : Option Record := none
  /-- The lock file of the binding was left behind. -/
  lockFile : Bool := false
  /-- The destinations and the material at the last success; before one, the destinations at
      the start. -/
  settled : Destination
  success : Option Material := none
  installed : List Nat := []
  writes : List Write := []
  performed : List Performed := []

/-! ## §3. A call. -/

/-- A replacement of the record: it may fail before or after the rename. -/
inductive WriteOutcome
  | done | failedBefore | failedAfter
deriving DecidableEq

/-- `DEPLOY_STAGES_BEFORE_WRITE`; the stage `permissions` is of Windows only. -/
def DEPLOY_STAGES_BEFORE_WRITE : List Stage :=
  [.validate, .realpath, .realpathPolicy, .readKey, .readExisting, .backup]

/-- How the operations of a deploy fare: `writeFails` is a failure after so many destinations
    were written, `restored` the number of restorations before one fails. -/
inductive DeployRun
  | completes
  | throws
  | stops (stage : Stage) (early : stage ∈ DEPLOY_STAGES_BEFORE_WRITE)
  | writeFails (written : Nat) (restored : Option Nat)
deriving DecidableEq

/-- A call of the Windows connector that changes the host. -/
inductive ImportRun
  | imports
  | throws (imported : Bool)
deriving DecidableEq

inductive ActivateRun
  | activates
  | throws (bound : Option JsString)
deriving DecidableEq

/-- What `probeListener` saw. -/
structure ProbeResult where
  servedVerified : Bool
  trustValidated : Bool
deriving DecidableEq

/-- A call of `executePinnedDeployment`: its job, and how its operations fare. -/
structure Call where
  intent : Intent
  recoveryOnly : Bool := false
  /-- `resolveBindingPolicy`, `createMaterialStore` and the directory of the locks. -/
  policyAccepts : Bool := true
  locks : Bool := true
  recordReadable : Bool := true
  /-- What the lease, the fetch and the checks of the bundle come to. -/
  bundle : Option Bundle
  /-- The key is staged on the endpoint; the store locks are taken on Windows. -/
  prepares : Bool := true
  /-- The lease and, on Windows, the preflight before the marker. -/
  leaseBeforeMarker : Bool := true
  marker : WriteOutcome := .done
  onBeforeMutation : Bool := true
  /-- Windows: the lease before the import. -/
  leaseBeforeImport : Bool := true
  deploy : DeployRun := .completes
  imports : ImportRun := .imports
  withdrawal : WriteOutcome := .done
  /-- The files or the Windows host can be read back. -/
  readable : Bool := true
  leaseAfterInstall : Bool := true
  /-- Windows: the lease between the verification and the probes. -/
  leaseAfterVerify : Bool := true
  activates : ActivateRun := .activates
  reload : Bool := true
  probes : Option (List ProbeResult) := some []
  leaseBeforeRecord : Bool := true
  outcomeRecord : WriteOutcome := .done
  /-- Windows: the record of a verification that failed. -/
  failureRecord : WriteOutcome := .done
  /-- The staged key is removed; on Windows, no store lock was lost. -/
  cleansUp : Bool := true
  unlocks : Bool := true
deriving DecidableEq

/-- `writeProtectedJson(record, …)`, or `rmSync(record)`: whether it returned. -/
def writeRecord (outcome : WriteOutcome) (record : Option Record) (s : State) : Bool × State :=
  match outcome with
  | .done => (true, { s with record })
  | .failedBefore => (false, s)
  | .failedAfter => (false, { s with record })

variable (cfg : Config)

def recordOf (intent : Intent) (uncertain : Bool) (bundle : Bundle) : Record :=
  { generation := intent.generation, intentHash := cfg.intentHash intent, uncertain
    certificatePem := some bundle.certificatePem }

def Bundle.material (bundle : Bundle) : Material :=
  { fingerprintSha256 := bundle.fingerprintSha256, certificatePem := bundle.certificatePem }

def writeSuccess (outcome : WriteOutcome) (record : Record) (material : Material) (s : State) :
    Bool × State :=
  match outcome with
  | .failedBefore => (false, s)
  | _ =>
    (decide (outcome = .done),
      { s with record := some record, settled := s.destination, success := some material })

/-! ## §4. The deploy, seen from the destinations. -/

/-- The destinations with the content each is to have. -/
def slots (certPath keyPath : Path) (chainPath : Option Path) (bundle : Bundle) : List (Path × Bytes) :=
  let blocks := cfg.certificateBlocks bundle.certificatePem
  match chainPath with
  | none =>
    [(certPath, cfg.env.encode bundle.certificatePem), (keyPath, cfg.env.encode bundle.privateKeyPem)]
  | some chainPath =>
    [(certPath, cfg.env.encode (blocks.headD [] ++ js "\n")), (keyPath, cfg.env.encode bundle.privateKeyPem),
      (chainPath, cfg.env.encode ((js "\n").intercalate blocks.tail ++ js "\n"))]

inductive Deployed
  | deployed
  | skipped
  | threw
  | failed (stage : Stage) (rolledBack : Option Bool)
deriving DecidableEq

def writeSlots (slots : List (Path × Bytes)) (files : Files) : Files :=
  slots.foldl (fun files slot => files.write slot.1 slot.2) files

/-- The destinations that held a file, with what they held. -/
def existing (slots : List (Path × Bytes)) (files : Files) : List (Path × Bytes) :=
  slots.filterMap fun slot => (files slot.1).map fun content => (slot.1, content)

/-- `rollbackPair`: whether it restored something and all it had. -/
def rollbackPair (restored : Option Nat) (held : List (Path × Bytes)) (files : Files) : Bool × Files :=
  match restored with
  | none => (!held.isEmpty, writeSlots held files)
  | some count =>
    if held.length ≤ count then (!held.isEmpty, writeSlots held files)
    else (false, writeSlots (held.take count) files)

/-- `deployCertificateAndKey` with `retainPrivateKeyStaging`. -/
def deployCertificateAndKey (slots : List (Path × Bytes)) (run : DeployRun) (files : Files) :
    Deployed × Files :=
  let unchanged := slots.all fun slot => files slot.1 = some slot.2
  match run with
  | .throws => (.threw, files)
  | .stops stage _ =>
    if stage = .backup ∧ unchanged = true then (.skipped, files) else (.failed stage none, files)
  | .completes => if unchanged then (.skipped, files) else (.deployed, writeSlots slots files)
  | .writeFails written restored =>
    if unchanged then (.skipped, files)
    else if slots.length ≤ written then (.deployed, writeSlots slots files)
    else
      let rolledBack := rollbackPair restored (existing slots files) (writeSlots (slots.take written) files)
      (.failed .write (some rolledBack.1), rolledBack.2)

def deployWroteNothing : Deployed → Bool
  | .failed stage rolledBack =>
    stage ∈ DEPLOY_STAGES_BEFORE_WRITE || (stage = .write && rolledBack = some true)
  | _ => false

/-- `installedPairMatches`; an unreadable file throws, which its callers take for no. -/
def installedPairMatches (certPath keyPath : Path) (chainPath : Option Path) (readable : Bool)
    (material : Material) (files : Files) : Bool :=
  readable &&
    match files certPath, files keyPath with
    | some cert, some key =>
      match chainPath with
      | none => cfg.pairMatches cert key none material.fingerprintSha256 material.certificatePem
      | some chainPath =>
        match files chainPath with
        | none => false
        | some chain =>
          cfg.pairMatches cert key (some chain) material.fingerprintSha256 material.certificatePem
    | _, _ => false

/-- `connector.verify`: the binding uses the certificate, and the store has it. -/
def WindowsHost.verify (windows : WindowsHost) (fingerprintSha256 : JsString) : Bool :=
  decide (fingerprintSha256 ∈ windows.imported) && decide (windows.bound = some fingerprintSha256)

/-- What the probes of a service policy must show. -/
def probesPass (probes : Option (List ProbeResult)) : Bool :=
  match probes with
  | none => false
  | some proofs =>
    (proofs.all fun p => p.servedVerified) &&
      (cfg.verificationPolicy ≠ .trust || proofs.all fun p => p.trustValidated)

/-! ## §5. `executePinnedDeployment`. -/

inductive Refusal
  | materialBindingStateInvalid | materialStaleGeneration | materialBindingUncertain
deriving DecidableEq

def refusal (call : Call) (record : Option Record) : Option Refusal :=
  match record with
  | some previous =>
    if !call.recordReadable then some .materialBindingStateInvalid
    else if call.intent.generation < previous.generation ∨
        (previous.generation = call.intent.generation ∧
          previous.intentHash ≠ cfg.intentHash call.intent) then
      some .materialStaleGeneration
    else if previous.uncertain then some .materialBindingUncertain
    else none
  | none => if call.recoveryOnly then some .materialBindingUncertain else none

def State.writing (s : State) (generation : Nat) : State :=
  { s with writes := s.writes ++ [{ generation, installed := s.installed }] }

/-- `verificationOnly` on an endpoint. -/
def verifyEndpoint (certPath keyPath : Path) (chainPath : Option Path) (call : Call) (bundle : Bundle)
    (s : State) : Outcome × State :=
  let installed :=
    installedPairMatches cfg certPath keyPath chainPath call.readable bundle.material s.destination.files
  let verified := installed && (cfg.verificationPolicy = .installed || probesPass cfg call.probes)
  if !call.leaseBeforeRecord then (.threw, s)
  else
    let record := recordOf cfg call.intent false bundle
    let (returned, s') :=
      if verified then writeSuccess call.outcomeRecord record bundle.material s
      else writeRecord call.outcomeRecord (some record) s
    if !returned then (.threw, s') else (if verified then .succeeded else .failed, s')

/-- What follows a deploy that left the new files. -/
def confirmEndpoint (certPath keyPath : Path) (chainPath : Option Path) (call : Call) (bundle : Bundle)
    (s : State) : Outcome × State :=
  if !installedPairMatches cfg certPath keyPath chainPath call.readable bundle.material
      s.destination.files then (.orphanedUnknownEffect, s)
  else if !call.leaseAfterInstall then (.orphanedUnknownEffect, s)
  else if cfg.verificationPolicy ≠ .installed ∧ (call.reload && probesPass cfg call.probes) = false then
    (.orphanedUnknownEffect, s)
  else if !call.leaseBeforeRecord then (.orphanedUnknownEffect, s)
  else
    let (returned, s') :=
      writeSuccess call.outcomeRecord (recordOf cfg call.intent false bundle) bundle.material s
    (if returned then .succeeded else .orphanedUnknownEffect, s')

def deployEndpoint (certPath keyPath : Path) (chainPath : Option Path) (call : Call) (bundle : Bundle)
    (previous : Option Record) (s : State) : Outcome × State :=
  let slots := slots cfg certPath keyPath chainPath bundle
  let (outcome, files) := deployCertificateAndKey slots call.deploy s.destination.files
  let s := { s with destination := { s.destination with files } }
  match outcome with
  | .threw => (.orphanedUnknownEffect, s)
  | .failed stage rolledBack =>
    let s := if stage = .write then s.writing call.intent.generation else s
    if deployWroteNothing (.failed stage rolledBack) then
      -- Nothing was written: the marker is dropped.
      let (returned, s') := writeRecord call.withdrawal previous s
      (if returned then .failed else .orphanedUnknownEffect, s')
    else (.orphanedUnknownEffect, s)
  | .deployed =>
    let s := s.writing call.intent.generation
    confirmEndpoint cfg certPath keyPath chainPath call bundle
      { s with installed := s.installed ++ [call.intent.generation] }
  | .skipped =>
    confirmEndpoint cfg certPath keyPath chainPath call bundle
      { s with installed := s.installed ++ [call.intent.generation] }

def installEndpoint (certPath keyPath : Path) (chainPath : Option Path) (call : Call) (bundle : Bundle)
    (s : State) : Outcome × State :=
  if !call.prepares then (.threw, s)
  else
    let (outcome, s') :=
      if !call.leaseBeforeMarker then (.failed, s)
      else
        let (returned, s') := writeRecord call.marker (some (recordOf cfg call.intent true bundle)) s
        if !returned then (.failed, s')
        else if !call.onBeforeMutation then (.failed, s')
        else deployEndpoint cfg certPath keyPath chainPath call bundle s.record s'
    -- `finally`: the staged key is removed.
    if call.cleansUp then (outcome, s') else (.threw, s')

/-- How far the `try` block on Windows came: whether it completed, and its flags. -/
structure Attempt where
  completed : Bool
  mutated : Bool
  prepared : Bool
  state : State

/-- The block from `connector.verify` on. -/
def confirmWindows (call : Call) (bundle : Bundle) (mutated : Bool) (s : State) : Attempt :=
  if !(call.readable && s.destination.windows.verify bundle.fingerprintSha256) then
    ⟨false, mutated, mutated, s⟩
  else if !(call.leaseAfterVerify && probesPass cfg call.probes && call.leaseBeforeRecord) then
    ⟨false, mutated, mutated, s⟩
  else
    let (returned, s') :=
      writeSuccess call.outcomeRecord (recordOf cfg call.intent false bundle) bundle.material s
    ⟨returned, mutated, mutated, s'⟩

/-- `connector.import`. -/
def importWindows (call : Call) (bundle : Bundle) (s : State) : Bool × State :=
  let imported : State :=
    { s with
      destination := { s.destination with
        windows := { s.destination.windows with
          imported := bundle.fingerprintSha256 :: s.destination.windows.imported } } }
  match call.imports with
  | .imports => (true, imported)
  | .throws true => (false, imported)
  | .throws false => (false, s)

/-- `connector.activate`. -/
def activateWindows (call : Call) (bundle : Bundle) (s : State) : Bool × State :=
  let bind (bound : Option JsString) : State :=
    { s with destination := { s.destination with windows := { s.destination.windows with bound } } }
  match call.activates with
  | .activates => (true, bind (some bundle.fingerprintSha256))
  | .throws bound => (false, bind bound)

def mutateWindows (call : Call) (bundle : Bundle) (s : State) : Attempt :=
  let s := s.writing call.intent.generation
  let (returned, s) := importWindows call bundle { s with installed := s.installed ++ [call.intent.generation] }
  if !returned then ⟨false, true, true, s⟩
  else if !call.leaseAfterInstall then ⟨false, true, true, s⟩
  else
    let (returned, s) := activateWindows call bundle s
    if !returned then ⟨false, true, true, s⟩ else confirmWindows cfg call bundle true s

/-- The `try` block on Windows. -/
def attemptWindows (call : Call) (bundle : Bundle) (s : State) : Attempt :=
  if !call.leaseBeforeMarker then ⟨false, false, false, s⟩
  else if call.intent.verificationOnly then confirmWindows cfg call bundle false s
  else
    let (returned, s') := writeRecord call.marker (some (recordOf cfg call.intent true bundle)) s
    if !returned then ⟨false, false, false, s'⟩
    else if !(call.onBeforeMutation && call.leaseBeforeImport) then ⟨false, false, true, s'⟩
    else mutateWindows cfg call bundle s'

/-- The `catch` block on Windows. -/
def catchWindows (call : Call) (bundle : Bundle) (previous : Option Record) (a : Attempt) :
    Outcome × State :=
  let (returned, s) :=
    if a.prepared && !a.mutated then writeRecord call.withdrawal previous a.state else (true, a.state)
  if !returned then (.threw, s)
  else
    let (returned, s) :=
      if call.intent.verificationOnly && !a.mutated then
        writeRecord call.failureRecord (some (recordOf cfg call.intent false bundle)) s
      else (true, s)
    if !returned then (.threw, s)
    else (if a.mutated then .orphanedUnknownEffect else .failed, s)

def deployWindows (call : Call) (bundle : Bundle) (s : State) : Outcome × State :=
  if !call.prepares then (.threw, s)
  else
    let a := attemptWindows cfg call bundle s
    let (outcome, s') :=
      if a.completed then (.succeeded, a.state) else catchWindows cfg call bundle s.record a
    -- A store lock that was lost makes `withLock` throw.
    if call.cleansUp then (outcome, s') else (.threw, s')

/-- The call under the lock of the binding. -/
def deployLocked (call : Call) (s : State) : Outcome × State :=
  match refusal cfg call s.record, call.bundle with
  | some _, _ => (.threw, s)
  | none, none => (.threw, s)
  | none, some bundle =>
    match cfg.target with
    | .windowsIis => deployWindows cfg call bundle s
    | .endpoint certPath keyPath chainPath =>
      if call.intent.verificationOnly then verifyEndpoint cfg certPath keyPath chainPath call bundle s
      else installEndpoint cfg certPath keyPath chainPath call bundle s

def executePinnedDeployment (call : Call) (s : State) : Outcome × State :=
  if !call.policyAccepts || s.lockFile || !call.locks then (.threw, s)
  else
    let (outcome, s') := deployLocked cfg call s
    if call.unlocks then (outcome, s') else (.threw, { s' with lockFile := true })

/-! ## §6. `reconcilePinnedDeployment`. -/

/-- A call of `reconcilePinnedDeployment`; `fetched` is the bundle of the store, for a record
    without the public chain. -/
structure Reconciliation where
  intent : Intent
  policyAccepts : Bool := true
  locks : Bool := true
  recordReadable : Bool := true
  fetched : Option Bundle := none
  readable : Bool := true
  probes : Option (List ProbeResult) := some []
  outcomeRecord : WriteOutcome := .done
  unlocks : Bool := true
deriving DecidableEq

/-- The public chain the proof is made against: of the record, for a record of an endpoint
    without one that of the store. -/
def expectedPem (r : Reconciliation) (previous : Record) : Option JsString :=
  match cfg.target with
  | .windowsIis => previous.certificatePem
  | .endpoint .. => previous.certificatePem.or (r.fetched.map (·.certificatePem))

/-- The pair or the binding is proved. -/
def reconciles (r : Reconciliation) (material : Material) (destination : Destination) : Bool :=
  match cfg.target with
  | .windowsIis =>
    decide (cfg.fingerprint material.certificatePem = some material.fingerprintSha256) &&
      (r.readable && destination.windows.verify material.fingerprintSha256) && probesPass cfg r.probes
  | .endpoint certPath keyPath chainPath =>
    installedPairMatches cfg certPath keyPath chainPath r.readable material destination.files &&
      (cfg.verificationPolicy = .installed || probesPass cfg r.probes)

/-- The reconciliation under the lock of the binding: the state it leaves. -/
def reconcileLocked (r : Reconciliation) (s : State) : State :=
  match s.record with
  | none => s
  | some previous =>
    if !r.recordReadable || decide (previous.generation ≠ r.intent.generation ∨
        previous.intentHash ≠ cfg.intentHash r.intent) then s
    else
      match expectedPem cfg r previous with
      | none => s
      | some certificatePem =>
        let material : Material := ⟨r.intent.fingerprintSha256, certificatePem⟩
        if reconciles cfg r material s.destination then
          (writeSuccess r.outcomeRecord
            { previous with uncertain := false, certificatePem := some certificatePem } material s).2
        else s

def reconcilePinnedDeployment (r : Reconciliation) (s : State) : State :=
  if !r.policyAccepts || s.lockFile || !r.locks then s
  else if r.unlocks then reconcileLocked cfg r s
  else { reconcileLocked cfg r s with lockFile := true }

/-! ## §7. The system. -/

inductive Event
  | execute (call : Call)
  | reconcile (r : Reconciliation)
  /-- An operator removes the lock file that was left behind. -/
  | removeLockFile

/-- What an event does; a call notes what it returned. -/
def next (s : State) : Event → State
  | .execute call =>
    let (outcome, t) := executePinnedDeployment cfg call s
    { t with
      performed := t.performed ++ [{ outcome, destination := s.destination, destination' := t.destination
                                     record := s.record, record' := t.record }] }
  | .reconcile r => reconcilePinnedDeployment cfg r s
  | .removeLockFile => { s with lockFile := false }

/-- A host whose binding has no record. -/
structure Init (s : State) : Prop where
  record : s.record = none
  settled : s.settled = s.destination
  success : s.success = none
  installed : s.installed = []
  writes : s.writes = []
  performed : s.performed = []

/-- The deployments to a binding. -/
def system : System State Event where
  init := Init
  step s e t := t = next cfg s e

end TokenTimer.PinnedDeployment
