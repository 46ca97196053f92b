/-
  TokenTimer.Agent.Host — the host an agent executes jobs on.

  The FILES are those a job reads or writes: destinations of certificates, keys
  and chains, their backups, and the agent's keys directory.  Next to them stand
  the side-effect journal and the outbox of the agent's state directory.  A name
  the agent makes up for a file (a backup, a staging sibling, a marker) is a
  constructor over the name it is made from, so names of different kinds never
  coincide; `named` is a path of a job or of the configuration.  Paths are native
  real paths and the host is POSIX.

  What the outside world answers (leases, reloads, probes, an issuer) is read off
  lists.  The history notes which attempt touches the host: nothing reads it.
-/

import Mathlib.Data.List.AList
import TokenTimer.Agent.Outbox

namespace TokenTimer.Agent

open Lib.Faulty TokenTimer.Json

/-! ## §1. Files. -/

abbrev Bytes := List UInt8

inductive Path
  | named (text : JsString)
  /-- `path.dirname(path)`. -/
  | dirname (path : Path)
  /-- `<basename>.<stamp>.<destination tag>.<nonce>.bak` in the backup directory. -/
  | backup (destination directory : Path) (stamp nonce : Nat)
  /-- `${path}.restore-staging`. -/
  | restoreStaging (path : Path)
  /-- `.${basename}.staging-<suffix>` beside the live key. -/
  | rotationStaging (live : Path) (suffix : JsString)
  /-- `${path}.custody-quarantine`. -/
  | quarantineMarker (live : Path)
  /-- `${path}.stale-<pid>`. -/
  | stale (live : Path)
deriving DecidableEq

abbrev Files := AList fun _ : Path => Bytes

/-! ## §2. The host. -/

/-- A side-effect marker.  Its stage and timestamp are only printed. -/
structure JournalEntry where
  jobId : JsString
  attemptId : JsString
  reconciled : Bool
deriving DecidableEq

/-- A file of `job-journal`; `none` where it holds no JSON object. -/
structure JournalFile where
  name : JsString
  content : Option JournalEntry
deriving DecidableEq

/-- The outcome of an issuer: a certificate, a refusal, or any other outcome. -/
inductive Issuance
  | issued (certificatePem : JsString)
  | refused
  | unissued
deriving DecidableEq

/-- What the outside world answers, in the order it is asked; with an order of a
    certificate and a change of the trust store, the number of operations it
    took. -/
structure Answers where
  leases : List Bool
  reloads : List Bool
  probes : List Bool
  issuances : List (Nat × Issuance)
  trustResults : List (Nat × Bool)
  /-- The generated keys with the suffix of their staging names. -/
  keys : List (JsString × Bytes)

/-- What happens in the life of an attempt. -/
inductive HostEvent
  | started (jobId attemptId : JsString)
  | mutated (jobId attemptId : JsString)
  | recorded (jobId attemptId : JsString)
  | acknowledged (jobId attemptId : JsString)
deriving DecidableEq

structure Host where
  files : Files
  journal : List JournalFile
  outbox : Disk
  clock : Nat
  /-- Above every random nonce drawn so far. -/
  nextNonce : Nat
  answers : Answers
  /-- The job and attempt being executed. -/
  attempt : JsString × JsString
  history : List HostEvent

abbrev OnHost := Prog Host FileError

/-! ## §3. What the agent's code is given. -/

/-- Functions of the language, of `node:crypto` and of the agent-local policy. -/
structure Environment where
  /-- `Buffer.from(text, "utf8")`. -/
  encode : JsString → Bytes
  /-- `toString("utf8")`. -/
  decode : Bytes → JsString
  /-- `PRIVATE_KEY_PEM_HEADER_PATTERN.test`. -/
  hasPrivateKeyHeader : JsString → Bool
  /-- The public key of a private key PEM is that of a certificate PEM. -/
  publicKeysEqual : JsString → JsString → Bool
  splitLeafAndChainPem : JsString → JsString × Option JsString
  validateCertificateForDeploy : JsString → Option JsString → List JsString → Bool
  /-- `computeCertificateFingerprint` does not throw. -/
  hasFingerprint : JsString → Bool
  isAbsolute : Path → Bool
  checkPath : Path → Bool
  checkCommandRef : JsString → Bool
  /-- `checkVerifyHost` of a host, for a target reference. -/
  checkVerifyHost : JsString → JsString → Bool
  checkDnsProvider : JsString → Bool
  checkDnsZone : JsString → Bool
  /-- `execution.keysDir`. -/
  keysDir : JsString
  /-- `execution.dryRun`. -/
  localDryRun : Bool
  /-- `AGENT_TRUST_STORE_PREREQUISITES.candidate`. -/
  trustStoreAvailable : Bool
  /-- `trustStoreCommandRefForFamily`. -/
  trustStoreCommandRef : JsString

/-! ## §4. Operations. -/

/-- The attempt begins to change the host, whether or not the operation that
    follows succeeds. -/
def mutation : OnHost Unit :=
  note fun host =>
    { host with history := host.history ++ [.mutated host.attempt.1 host.attempt.2] }

/-- Operations on the host whose effects no modelled file shows. -/
def effects (count : Nat) : OnHost Unit :=
  forEach (fun _ => do mutation; tick) (List.range count)

def readFile (path : Path) : OnHost Bytes :=
  op fun host =>
    match host.files.lookup path with
    | none => .error .enoent
    | some content => .ok (content, host)

/-- `readFile` as its callers wrap it: `null` for a file that is not there. -/
def readExisting (path : Path) : OnHost (Except FileError (Option Bytes)) := do
  match ← attempt (readFile path) with
  | .ok content => pure (.ok (some content))
  | .error .enoent => pure (.ok none)
  | .error error => pure (.error error)

def existsFile (path : Path) : OnHost Bool :=
  op fun host => .ok ((host.files.lookup path).isSome, host)

def putFileAt (path : Path) (content : Bytes) : OnHost Unit :=
  op fun host => .ok ((), { host with files := host.files.insert path content })

/-- `writeFile`. -/
def overwriteFile (path : Path) (content : Bytes) : OnHost Unit := do
  mutation
  putFileAt path content

/-- `writeFile` with the flag `wx`. -/
def writeNewFile (path : Path) (content : Bytes) : OnHost Unit := do
  mutation
  op fun host =>
    if (host.files.lookup path).isSome then .error (.other (js "EEXIST"))
    else .ok ((), { host with files := host.files.insert path content })

/-- `atomicWrite`: a temporary file is written and synced, then renamed over the
    destination.  The sync of the directory never throws. -/
def atomicWrite (path : Path) (content : Bytes) : OnHost Unit := do
  mutation
  tick
  putFileAt path content
  let _ ← attempt tick

def unlinkFile (path : Path) : OnHost Unit := do
  mutation
  op fun host =>
    if (host.files.lookup path).isSome then
      .ok ((), { host with files := host.files.erase path })
    else .error .enoent

/-- `rmSync(path, { force: true })`. -/
def removeFileForce (path : Path) : OnHost Unit := do
  mutation
  op fun host => .ok ((), { host with files := host.files.erase path })

def renameFile (source destination : Path) : OnHost Unit := do
  mutation
  op fun host =>
    match host.files.lookup source with
    | none => .error .enoent
    | some content =>
      .ok ((), { host with files := (host.files.erase source).insert destination content })

/-- The next of the world's answers, `fallback` when the list is used up. -/
def answer {β : Type} (get : Answers → List β) (set : Answers → List β → Answers) (fallback : β) :
    OnHost β :=
  op fun host =>
    match get host.answers with
    | [] => .ok (fallback, host)
    | b :: rest => .ok (b, { host with answers := set host.answers rest })

/-- `renewJobLeaseOrAbort` as its callers read it: whether the job goes on. -/
def renewJobLeaseOrAbort : OnHost Bool := do
  match ← attempt (answer (·.leases) (fun answers rest => { answers with leases := rest }) true) with
  | .ok held => pure held
  | .error _ => pure false

/-- Step evidence goes to the buffer of the attempt; evidence that is not safe to
    report throws. -/
def reportStepEvidence : OnHost Unit := tick

end TokenTimer.Agent
