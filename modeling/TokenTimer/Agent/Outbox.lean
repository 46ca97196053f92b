/-
  TokenTimer.Agent.Outbox — the agent's durable outbox for job outcomes
  (`packages/agent/src/outbox/index.js`) and the process that works on it.

  The DISK is the outbox directory and its dead-letter directory, as lists of
  files.  Every function of the outbox is a program over that disk whose file
  operations may fail, in a process that may die between any two of them
  (`Lib.Faulty`).  `drainOutbox` waits for the control plane between its
  file operations, so any number of drains may be under way at once; the
  process is a state machine whose calls are one stretch of code between two
  such waits.

  A timestamp member of an entry is kept as what `Date.parse` reads in it
  (`none` for NaN); only `createdAt` is compared as text.  `bytes content` is
  `Buffer.byteLength` of the JSON text of `content` and its line end.

  The history of a disk is what happened on it: nothing reads it.
-/

import TokenTimer.Lib.Runs
import TokenTimer.Lib.Faulty
import TokenTimer.Json.Canonical

namespace TokenTimer.Agent

open Lib.Faulty TokenTimer.Json

/-! ## §1. Constants. -/

def ENTRY_FILE_SUFFIX : JsString := js ".json"
def TEMPORARY_SUFFIX : JsString := js ".tmp"
def MAX_ENTRY_BYTES : Nat := 512 * 1024
def MAX_TRANSIENT_RETRY_AGE_MS : Int := 48 * 60 * 60000
def MIN_ATTEMPTS_BEFORE_AGE_QUARANTINE : Nat := 8
def FALLBACK_MAX_ATTEMPTS_BEFORE_QUARANTINE : Nat := 500
def MAX_OUTBOX_ENTRIES : Nat := 5000
def MAX_OUTBOX_AGE_MS : Int := 7 * 24 * 60 * 60000
def MAX_DEAD_LETTER_ENTRIES : Nat := 5000
def MAX_DEAD_LETTER_AGE_MS : Int := 30 * 24 * 60 * 60000

/-! ## §2. Entries and files. -/

/-- What `Date.parse` reads in a timestamp: `none` is NaN, also for a member that
    is missing. -/
abbrev Reading := Option Int

/-- A timestamp that is also compared as text. -/
structure Stamp where
  text : JsString
  time : Reading

/-- An outbox entry as `validateEntry` accepts it.  `firstAttemptAt` is `none`
    when missing or empty. -/
structure Entry where
  id : JsString
  createdAt : Stamp
  result : JsValue
  evidence : List JsValue
  attempts : Option Nat
  firstAttemptAt : Option Reading
  lastAttemptAt : Reading
  lastErrorMessage : Option JsString
  nextRetryAt : Reading
  quarantinedAt : Reading

/-- What reading a file gives: JSON of a valid entry, JSON of an object that
    `validateEntry` refuses, or text that is neither. -/
inductive Content
  | entry (e : Entry)
  | object (value : JsValue) (quarantinedAt : Reading)
  | text

/-- A link's content is that of its target. -/
inductive FileKind
  | regular
  | link (dangling : Bool)
  | directory
deriving DecidableEq

structure File where
  name : JsString
  kind : FileKind
  size : Nat
  mtime : Int
  content : Content

/-- A body sent to the control plane. -/
inductive Body
  | evidence (value : JsValue)
  | result (value : JsValue)

/-- The entries of one pass over dead-letter with their age basis. -/
structure PrunePass where
  now : Int
  maxEntries : Nat
  maxAgeMs : Int
  listed : List (Entry × Reading)

/-- Why an entry is moved to dead-letter: the drain's classification of the last
    error, and the number of entries the outbox held at the retention pass. -/
structure QuarantineCause where
  permanent : Bool
  held : Nat

/-- What happened on the disk and on the wire. -/
inductive Event
  | enqueued (e : Entry)
  | reported (drain : Nat) (body : Body)
  | failed (id : JsString)
  | acknowledged (drain : Nat) (id : JsString)
  | quarantined (id : JsString) (cause : QuarantineCause)
  | pruned (id : JsString) (pass : PrunePass)

structure Disk where
  outbox : List File
  deadLetter : List File
  clock : Int
  history : List Event

/-- An error with or without the code `ENOENT`. -/
inductive FileError
  | enoent
  | other (message : JsString)
deriving DecidableEq

abbrev Outbox := Prog Disk FileError

/-! ## §3. Directories. -/

/-- `${id}.json`. -/
def entryName (id : JsString) : JsString := id ++ ENTRY_FILE_SUFFIX

/-- `name.endsWith(".json") && !name.endsWith(".tmp")`. -/
def isEntryName (name : JsString) : Bool :=
  ENTRY_FILE_SUFFIX.isSuffixOf name && !TEMPORARY_SUFFIX.isSuffixOf name

/-- `name.slice(0, -".json".length)`. -/
def nameId (name : JsString) : JsString := name.take (name.length - ENTRY_FILE_SUFFIX.length)

def findFile (name : JsString) (dir : List File) : Option File := dir.find? (·.name = name)

def removeFile (name : JsString) (dir : List File) : List File := dir.filter (·.name ≠ name)

/-- A file is renamed into the directory. -/
def putFile (file : File) (dir : List File) : List File := removeFile file.name dir ++ [file]

/-- The entry `readEntriesFromDir` finds in a file. -/
def File.readable (f : File) : Option Entry :=
  if f.kind = .regular ∧ 1 ≤ f.size ∧ f.size ≤ MAX_ENTRY_BYTES then
    match f.content with
    | .entry e => some e
    | _ => none
  else none

/-- `fs.readdirSync`; a directory that cannot be listed is empty. -/
def readEntryDirNames (dir : Disk → List File) : Outbox (List File) := do
  match ← attempt (op fun disk => .ok (dir disk, disk)) with
  | .ok files => pure files
  | .error _ => pure []

/-- One turn of `readEntriesFromDir`: a file that cannot be read is skipped. -/
def readEntryFile (f : File) : Outbox (Option Entry) :=
  if isEntryName f.name then do
    match ← attempt tick with
    | .ok _ => pure f.readable
    | .error _ => pure none
  else pure none

def readEntriesFromDir (dir : Disk → List File) : Outbox (List Entry) := do
  let files ← readEntryDirNames dir
  collect readEntryFile files

/-- The comparator of `sortEntriesByCreatedAtThenId` is at most zero. -/
def createdBefore (a b : Entry) : Bool :=
  if a.createdAt.text < b.createdAt.text then true
  else if b.createdAt.text < a.createdAt.text then false
  else !decide (b.id < a.id)

def sortEntriesByCreatedAtThenId (entries : List Entry) : List Entry :=
  entries.insertionSort fun a b => createdBefore a b = true

def listOutboxEntries : Outbox (List Entry) := do
  let entries ← readEntriesFromDir Disk.outbox
  pure (sortEntriesByCreatedAtThenId entries)

def listDeadLetterEntries : Outbox (List Entry) := do
  let entries ← readEntriesFromDir Disk.deadLetter
  pure (sortEntriesByCreatedAtThenId entries)

/-! ## §4. Writing. -/

section Writing

variable (bytes : Content → Nat)

/-- `writeFileAtomically` into the outbox directory.  The temporary file is
    written and synced first; what fails after the rename leaves the new file. -/
def writeFileAtomically (name : JsString) (content : Content) (events : List Event) :
    Outbox Unit := do
  tick
  op fun disk => .ok ((),
    { disk with
      outbox := putFile ⟨name, .regular, bytes content, disk.clock, content⟩ disk.outbox
      history := disk.history ++ events })
  -- `applyRestrictivePermissions` and `fsyncParentDirectory`.
  tick
  tick

/-- A draft of an entry.  `randomId` is `outbox-<random>`, `createdNow` the
    current time. -/
structure Draft where
  id : Option JsString
  randomId : JsString
  createdAt : Option Stamp
  createdNow : Stamp
  result : JsValue
  evidence : Option (List JsValue)

def Draft.entryId (draft : Draft) : JsString :=
  match draft.id with
  | some id => if id.length > 0 then id else draft.randomId
  | none => draft.randomId

def Draft.entry (draft : Draft) : Entry where
  id := draft.entryId
  createdAt :=
    match draft.createdAt with
    | some stamp => if stamp.text.length > 0 then stamp else draft.createdNow
    | none => draft.createdNow
  result := draft.result
  evidence := draft.evidence.getD []
  attempts := none
  firstAttemptAt := none
  lastAttemptAt := none
  lastErrorMessage := none
  nextRetryAt := none
  quarantinedAt := none

/-- `/[A-Za-z0-9_.:-]/`. -/
def isIdUnit (c : CodeUnit) : Bool :=
  (0x30 ≤ c.val && c.val ≤ 0x39) || (0x41 ≤ c.val && c.val ≤ 0x5A) ||
    (0x61 ≤ c.val && c.val ≤ 0x7A) || c = unit '_' || c = unit '.' || c = unit ':' || c = unit '-'

/-- A value of `typeof` `object` that is neither `null` nor an array. -/
def isObject : JsValue → Bool
  | .object _ _ => true
  | _ => false

def validateEntry (entry : Entry) : Outbox Entry :=
  if entry.id.length = 0 ∨ entry.id.length > 128 then
    raise (.other (js "tokentimer-agent: outbox entry.id must be a 1-128 char string"))
  else if !entry.id.all isIdUnit then
    raise (.other (js "tokentimer-agent: outbox entry.id has an invalid format"))
  else if entry.createdAt.text.length = 0 then
    raise (.other (js "tokentimer-agent: outbox entry.createdAt is required"))
  else if !isObject entry.result then
    raise (.other (js "tokentimer-agent: outbox entry.result must be an object"))
  else pure entry

def enqueueOutboxEntry (draft : Draft) : Outbox Entry := do
  -- `ensureOutboxDir`.
  tick
  let entry ← validateEntry draft.entry
  if bytes (.entry entry) > MAX_ENTRY_BYTES then
    raise (.other (js "tokentimer-agent: outbox entry exceeds 524288 bytes"))
  else do
    writeFileAtomically bytes (entryName entry.id) (.entry entry) [.enqueued entry]
    pure entry

/-! ## §5. Moving and removing. -/

/-- `fs.unlinkSync` of a file of the outbox. -/
def unlinkOutbox (name : JsString) (event : Event) : Outbox Unit :=
  op fun disk =>
    match findFile name disk.outbox with
    | none => .error .enoent
    | some f =>
      if f.kind = .directory then .error (.other (js "EISDIR"))
      else .ok ((), { disk with
        outbox := removeFile name disk.outbox, history := disk.history ++ [event] })

/-- `fs.unlinkSync` of a file of dead-letter. -/
def unlinkDeadLetter (name : JsString) (event : Event) : Outbox Unit :=
  op fun disk =>
    match findFile name disk.deadLetter with
    | none => .error .enoent
    | some f =>
      if f.kind = .directory then .error (.other (js "EISDIR"))
      else .ok ((), { disk with
        deadLetter := removeFile name disk.deadLetter, history := disk.history ++ [event] })

/-- A removal as both callers wrap it: `ENOENT` answers `false`. -/
def removal (unlink : Outbox Unit) : Outbox Bool := do
  match ← attempt (do unlink; tick) with
  | .ok _ => pure true
  | .error .enoent => pure false
  | .error error => raise error

def acknowledgeOutboxEntry (drain : Nat) (id : JsString) : Outbox Bool :=
  removal (unlinkOutbox (entryName id) (.acknowledged drain id))

def deleteDeadLetterEntry (pass : PrunePass) (id : JsString) : Outbox Bool :=
  removal (unlinkDeadLetter (entryName id) (.pruned id pass))

/-- `fs.readFileSync` of a file of the outbox. -/
def readOutboxFile (name : JsString) : Outbox Content :=
  op fun disk =>
    match findFile name disk.outbox with
    | none => .error .enoent
    | some f =>
      if f.kind = .link true then .error .enoent
      else if f.kind = .directory then .error (.other (js "EISDIR"))
      else .ok (f.content, disk)

/-- `{ ...parsed, quarantinedAt: now }`, for the contents that are objects. -/
def Content.stamped (nowMs : Int) : Content → Option Content
  | .entry e => some (.entry { e with quarantinedAt := some nowMs })
  | .object value _ => some (.object value (some nowMs))
  | .text => none

/-- The stamping block of `quarantineOutboxEntry`. -/
def stampEntry (id : JsString) (nowMs : Int) : Outbox Unit := do
  let parsed ← readOutboxFile (entryName id)
  match parsed.stamped nowMs with
  | none => pure ()
  | some content =>
    -- `toISOString` throws on a clock reading out of range.
    tick
    if bytes content ≤ MAX_ENTRY_BYTES then
      writeFileAtomically bytes (entryName id) content []
    else pure ()

/-- `fs.renameSync(source, destination)`. -/
def renameToDeadLetter (id : JsString) (cause : QuarantineCause) : Outbox Unit :=
  op fun disk =>
    match findFile (entryName id) disk.outbox with
    | none => .error .enoent
    | some f => .ok ((),
        { disk with
          outbox := removeFile (entryName id) disk.outbox
          deadLetter := putFile f disk.deadLetter
          history := disk.history ++ [.quarantined id cause] })

/-- The rename of `quarantineOutboxEntry` and what follows it. -/
def moveEntry (id : JsString) (cause : QuarantineCause) : Outbox Bool := do
  match ← attempt (renameToDeadLetter id cause) with
  | .error .enoent => pure false
  | .error error => raise error
  | .ok _ =>
    tick
    tick
    tick
    pure true

def quarantineOutboxEntry (id : JsString) (nowMs : Int) (cause : QuarantineCause) :
    Outbox Bool := do
  -- `ensureDeadLetterDir`.
  tick
  match ← attempt (stampEntry bytes id nowMs) with
  | .error .enoent => pure false
  | _ => moveEntry id cause

/-! ## §6. Failures of a transmission. -/

/-- What a transmission failed with: an error of the client, by the integer
    `Number(err.statusCode ?? err.status ?? err.code)` and its message, or an
    error of the acknowledgement's file operations. -/
inductive Failure
  | client (status : Option Int) (message : Option JsString)
  | file (error : FileError)

def defaultIsPermanentFailure : Failure → Bool
  | .client (some status) _ =>
    if status < 400 ∨ status > 499 then false
    else if status = 401 ∨ status = 403 ∨ status = 408 ∨ status = 429 then false
    else true
  | _ => false

def Failure.message : Failure → JsString
  | .client _ (some message) => message.take 500
  | .client _ none => js "unknown error"
  | .file .enoent => js "ENOENT"
  | .file (.other message) => message.take 500

/-- The entry with the failure on record.  `retryInMs` is the random
    `computeRetryBackoffMs` of this failure. -/
def Entry.afterFailure (entry : Entry) (failure : Failure) (nowMs retryInMs : Int) : Entry :=
  { entry with
    attempts := some (entry.attempts.getD 0 + 1)
    firstAttemptAt := some (entry.firstAttemptAt.getD (some nowMs))
    lastAttemptAt := some nowMs
    lastErrorMessage := some failure.message
    nextRetryAt := some (nowMs + retryInMs) }

def recordTransmissionFailure (entry : Entry) (failure : Failure) (nowMs retryInMs : Int) :
    Outbox Entry := do
  tick
  let updated := entry.afterFailure failure nowMs retryInMs
  if bytes (.entry updated) > MAX_ENTRY_BYTES then pure updated
  else do
    -- Best effort: the entry is retried every tick when the rewrite fails.
    let _ ← attempt (writeFileAtomically bytes (entryName entry.id) (.entry updated) [])
    pure updated

def hasExceededTransientRetryWindow (entry : Entry) (nowMs : Int) : Bool :=
  let attempts := entry.attempts.getD 0
  if attempts ≥ FALLBACK_MAX_ATTEMPTS_BEFORE_QUARANTINE then true
  else if attempts < MIN_ATTEMPTS_BEFORE_AGE_QUARANTINE then false
  else
    match entry.firstAttemptAt.join with
    | none => false
    | some first => nowMs - first ≥ MAX_TRANSIENT_RETRY_AGE_MS

def isDueForRetry (entry : Entry) (nowMs : Int) : Bool :=
  match entry.nextRetryAt with
  | none => true
  | some due => due ≤ nowMs

/-! ## §7. Retention. -/

/-- The order in which a `Set` yields what was added to it. -/
def inSet (ids : List JsString) : List JsString := ids.eraseDups

/-- `nowMs - readingMs > maxAgeMs`, false for NaN. -/
def olderThan (maxAgeMs nowMs : Int) : Reading → Bool
  | none => false
  | some t => decide (nowMs - t > maxAgeMs)

/-- The ids the first loop of `pruneStaleOutboxEntries` collects from the sorted
    entries. -/
def idsToQuarantine (entries : List Entry) (nowMs : Int) : List JsString :=
  let overflowCount := entries.length - MAX_OUTBOX_ENTRIES
  inSet ((entries.zipIdx.filter fun (entry, index) =>
    olderThan MAX_OUTBOX_AGE_MS nowMs entry.createdAt.time || decide (index < overflowCount)).map
      (·.1.id))

/-- One turn of `quarantineUnreadableEntries`. -/
def quarantineUnreadableFile (readableIds : List JsString) (nowMs : Int) (cause : QuarantineCause)
    (f : File) : Outbox Nat :=
  if !isEntryName f.name || decide (nameId f.name = []) ||
      decide (nameId f.name ∈ readableIds) then pure 0
  else do
    match ← attempt tick with
    | .error _ => pure 0
    | .ok _ =>
      if f.kind ≠ .regular then pure 0
      else if nowMs - min f.mtime nowMs ≤ MAX_OUTBOX_AGE_MS then pure 0
      else do
        let moved ← quarantineOutboxEntry bytes (nameId f.name) nowMs cause
        pure moved.toNat

def quarantineUnreadableEntries (nowMs : Int) (cause : QuarantineCause) : Outbox Nat := do
  let readable ← listOutboxEntries
  let files ← readEntryDirNames Disk.outbox
  sumEach (quarantineUnreadableFile bytes (readable.map (·.id)) nowMs cause) files

/-- The entries a directory holds. -/
def heldEntries (dir : List File) : Nat :=
  dir.countP fun f => isEntryName f.name && f.readable.isSome

def pruneStaleOutboxEntries (nowMs : Int) : Outbox Nat := do
  let disk ← look
  let entries ← listOutboxEntries
  -- For the history only.
  let cause : QuarantineCause := ⟨false, heldEntries disk.outbox⟩
  let quarantined ← sumEach
    (fun id => do
      let moved ← quarantineOutboxEntry bytes id nowMs cause
      pure moved.toNat)
    (idsToQuarantine entries nowMs)
  let unreadable ← quarantineUnreadableEntries bytes nowMs cause
  pure (quarantined + unreadable)

/-- `fs.statSync(filePath).mtimeMs` of a file of dead-letter. -/
def statDeadLetter (name : JsString) : Outbox Int :=
  op fun disk =>
    match findFile name disk.deadLetter with
    | none => .error .enoent
    | some f => if f.kind = .link true then .error .enoent else .ok (f.mtime, disk)

def resolveDeadLetterAgeBasisMs (entry : Entry) : Outbox Reading :=
  match entry.quarantinedAt with
  | some t => pure (some t)
  | none =>
    match entry.lastAttemptAt with
    | some t => pure (some t)
    | none => do
      match ← attempt (statDeadLetter (entryName entry.id)) with
      | .ok mtime => pure (some mtime)
      | .error _ => pure entry.createdAt.time

/-- The comparator of the count-overflow sort is at most zero. -/
def agedBefore (a b : Entry × Reading) : Bool :=
  match a.2, b.2 with
  | some s, some t => decide (s ≤ t)
  | some _, none => true
  | none, some _ => false
  | none, none => !decide (b.1.id < a.1.id)

/-- The ids past their retention. -/
def PrunePass.aged (pass : PrunePass) : List JsString :=
  (pass.listed.filter fun (_, ageBasisMs) => olderThan pass.maxAgeMs pass.now ageBasisMs).map (·.1.id)

/-- The ids of the oldest entries over the cap. -/
def PrunePass.overflow (pass : PrunePass) : List JsString :=
  ((pass.listed.insertionSort fun a b => agedBefore a b = true).take
    (pass.listed.length - pass.maxEntries)).map (·.1.id)

def PrunePass.idsToDelete (pass : PrunePass) : List JsString := inSet (pass.aged ++ pass.overflow)

def pruneDeadLetterEntries (nowMs : Int) (maxEntries : Nat) (maxAgeMs : Int) : Outbox Nat := do
  let entries ← listDeadLetterEntries
  let listed ← collect
    (fun entry => do
      let ageBasisMs ← resolveDeadLetterAgeBasisMs entry
      pure (some (entry, ageBasisMs)))
    entries
  let pass : PrunePass := ⟨nowMs, maxEntries, maxAgeMs, listed⟩
  sumEach
    (fun id => do
      let removed ← deleteDeadLetterEntry pass id
      pure removed.toNat)
    pass.idsToDelete

/-! ## §8. Drains. -/

/-- A transmission under way: a `drainOutbox`, or the single entry of
    `persistAndTransmitOutcome`.  The head of `pending` is being sent, and
    `accepted` of its evidence bodies have been taken. -/
structure Drain where
  tag : Nat
  single : Bool
  nowMs : Int
  pending : List Entry
  accepted : Nat
  transmitted : Nat
  deferred : Nat
  quarantined : Nat
  remaining : Nat

/-- The bodies of an entry in the order `transmitOutboxEntry` sends them. -/
def Entry.bodies (e : Entry) : List Body := e.evidence.map .evidence ++ [.result e.result]

/-- Up to the next entry that is due. -/
def Drain.skip (drain : Drain) : Drain :=
  let rest := drain.pending.dropWhile fun e => !isDueForRetry e drain.nowMs
  { drain with
    pending := rest, accepted := 0
    deferred := drain.deferred + (drain.pending.length - rest.length) }

/-- The drain after its head entry. -/
def Drain.next (drain : Drain) (transmitted quarantined : Nat) : Drain :=
  let drain' := { drain with
    pending := drain.pending.tail, accepted := 0
    transmitted := drain.transmitted + transmitted
    quarantined := drain.quarantined + quarantined
    remaining := drain.remaining - (transmitted + quarantined) }
  if drain.single then drain' else drain'.skip

/-- The first stretch of `drainOutbox`. -/
def startDrain (tag : Nat) (nowMs : Int) : Outbox Drain := do
  let pending ← listOutboxEntries
  pure (Drain.skip ⟨tag, false, nowMs, pending, 0, 0, 0, 0, pending.length⟩)

/-- The control plane's answer to the body in flight: taken, or an error.
    `retryInMs` is the random backoff and `onErrorThrows` what `onError` does,
    should this stretch of code come to them. -/
structure Reply where
  failure : Option Failure
  retryInMs : Int
  onErrorThrows : Bool

/-- The catch block of `drainOutbox`.  `isPermanent` answers `none` where the
    classifier throws. -/
def failEntry (isPermanent : Failure → Entry → Option Bool) (drain : Drain) (entry : Entry)
    (failure : Failure) (reply : Reply) : Outbox Drain := do
  note fun disk => { disk with history := disk.history ++ [.failed entry.id] }
  let updated ← recordTransmissionFailure bytes entry failure drain.nowMs reply.retryInMs
  if reply.onErrorThrows then raise (.other (js "onError"))
  else
    let permanent := (isPermanent failure updated).getD false
    if permanent || hasExceededTransientRetryWindow updated drain.nowMs then do
      let moved ← quarantineOutboxEntry bytes entry.id drain.nowMs ⟨permanent, 0⟩
      pure (drain.next 0 moved.toNat)
    else pure (drain.next 0 0)

/-- A failed transmission: `persistAndTransmitOutcome` only logs it. -/
def transmissionFailed (isPermanent : Failure → Entry → Option Bool) (drain : Drain)
    (entry : Entry) (failure : Failure) (reply : Reply) : Outbox Drain :=
  if drain.single then pure (drain.next 0 0)
  else failEntry bytes isPermanent drain entry failure reply

/-- The stretch of `drainOutbox` after a reply to the body in flight of the head
    entry. -/
def handleReply (isPermanent : Failure → Entry → Option Bool) (drain : Drain) (entry : Entry)
    (reply : Reply) : Outbox Drain :=
  match reply.failure with
  | some failure => transmissionFailed bytes isPermanent drain entry failure reply
  | none =>
    if drain.accepted < entry.evidence.length then
      pure { drain with accepted := drain.accepted + 1 }
    else do
      match ← attempt (acknowledgeOutboxEntry drain.tag entry.id) with
      | .ok _ => pure (drain.next 1 0)
      | .error error => transmissionFailed bytes isPermanent drain entry (.file error) reply

end Writing

/-! ## §9. The process. -/

structure Process where
  disk : Disk
  drains : List Drain
  nextTag : Nat

def Process.fresh : Process := ⟨⟨[], [], 0, []⟩, [], 0⟩

/-- What the process does between two waits, or what happens to it.  Every call
    has the clock it runs at and the faults of its file operations. -/
inductive Call
  | enqueue (draft : Draft) (clock : Int) (script : List (Fault FileError))
  | persistAndTransmit (draft : Draft) (clock : Int) (script : List (Fault FileError))
  | drain (clock : Int) (script : List (Fault FileError))
  | reply (tag : Nat) (reply : Reply) (clock : Int) (script : List (Fault FileError))
  | pruneStale (clock : Int) (script : List (Fault FileError))
  | pruneDeadLetter (clock : Int) (script : List (Fault FileError))
  | crash

section Calls

variable {α : Type}

/-- Runs a program: what it returns goes to `returned`; a crash takes all drains
    with it. -/
def Process.perform (process : Process) (clock : Int) (script : List (Fault FileError))
    (m : Outbox α) (returned : α → List Drain → List Drain) : Process :=
  match exec m script { process.disk with clock := clock } with
  | (.ok a, disk) => { process with disk := disk, drains := returned a process.drains }
  | (.error (.thrown _), disk) => { process with disk := disk }
  | (.error .crashed, disk) => { process with disk := disk, drains := [] }

/-- A drain with nothing left to send is over. -/
def keepUnfinished (drain : Drain) (drains : List Drain) : List Drain :=
  if drain.pending = [] then drains else drain :: drains

variable (bytes : Content → Nat) (isPermanent : Failure → Entry → Option Bool)

def Drain.inFlight (drain : Drain) : Option Body :=
  drain.pending.head?.bind fun e => e.bodies[drain.accepted]?

/-- The call of a drain that has an entry in flight. -/
def Process.answer (process : Process) (drain : Drain) (reply : Reply) (clock : Int)
    (script : List (Fault FileError)) : Process :=
  match drain.pending with
  | [] => process
  | entry :: _ =>
    -- The drain is under way no more until its stretch returns.
    let others := process.drains.filter (·.tag ≠ drain.tag)
    let taken := if reply.failure.isNone then drain.inFlight.toList else []
    let disk := { process.disk with
      history := process.disk.history ++ taken.map (.reported drain.tag) }
    { process with disk := disk, drains := others }.perform clock script
      (handleReply bytes isPermanent drain entry reply) keepUnfinished

def Process.call (process : Process) : Call → Process
  | .enqueue draft clock script =>
    process.perform clock script (enqueueOutboxEntry bytes draft) fun _ drains => drains
  | .persistAndTransmit draft clock script =>
    { process with nextTag := process.nextTag + 1 }.perform clock script
      (enqueueOutboxEntry bytes draft) fun entry drains =>
        ⟨process.nextTag, true, clock, [entry], 0, 0, 0, 0, 1⟩ :: drains
  | .drain clock script =>
    { process with nextTag := process.nextTag + 1 }.perform clock script
      (startDrain process.nextTag clock) keepUnfinished
  | .reply tag reply clock script =>
    match process.drains.find? (·.tag = tag) with
    | none => process
    | some drain => process.answer bytes isPermanent drain reply clock script
  | .pruneStale clock script =>
    process.perform clock script (pruneStaleOutboxEntries bytes clock) fun _ drains => drains
  | .pruneDeadLetter clock script =>
    process.perform clock script
      (pruneDeadLetterEntries clock MAX_DEAD_LETTER_ENTRIES MAX_DEAD_LETTER_AGE_MS)
      fun _ drains => drains
  | .crash => { process with drains := [] }

/-- The outbox of an agent over its life. -/
def outboxSystem : Lib.Runs.System Process Call where
  init process := process = .fresh
  step process call process' := process' = process.call bytes isPermanent call

end Calls

end TokenTimer.Agent
