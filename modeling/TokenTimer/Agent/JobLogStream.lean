/-
  TokenTimer.Agent.JobLogStream — the sender of a claim's execution console
  (`packages/agent/src/job-log-stream/index.js`).

  A session buffers the lines of the log calls, drops the oldest when the buffer
  is full, and posts them in batches.  `sendBatch` is asynchronous: it waits for
  the answer to a post or for a timer, halves a batch that is too large, and calls
  itself on the halves.  Here it is a value that says what it waits for, and every
  event of the session may come between its steps.  Whether a deadline is past, and
  what the other sessions of the agent hold, is part of the event.

  The session keeps the history: the lines that got a number, the batches that were
  taken from the buffer, and the posts, each with the batch it comes from.
-/

import TokenTimer.Agent.JobLog
import TokenTimer.Lib.Runs

namespace TokenTimer.Agent.JobLog

open TokenTimer.Json Lib.Numeric

/-! ## §1. Bounds. -/

def MAX_LINES : Nat := 1000
def MAX_CLAIM_BYTES : Nat := 256 * 1024
def MAX_AGENT_BYTES : Nat := 2 * 1024 * 1024
def MAX_BATCH_BYTES : Nat := 64 * 1024
def MAX_BATCH_LINES : Nat := 200
def ENVELOPE_HEADROOM_BYTES : Nat := 2048
def FLUSH_LINES : Nat := 50

/-- `Math.min(Math.max(Number(maxBatchBytes) || MAX_BATCH_BYTES, 4096), MAX_BATCH_BYTES)`. -/
def batchCap : JsNumber → ℚ
  | .finite x =>
    if x.mant = 0 then MAX_BATCH_BYTES
    else min (max (if x.neg then -x.magnitude else x.magnitude) 4096) MAX_BATCH_BYTES
  | .nan => MAX_BATCH_BYTES
  | .infinity true => 4096
  | .infinity false => MAX_BATCH_BYTES

def lineBudget (maxBatchBytes : JsNumber) : ℚ := batchCap maxBatchBytes - ENVELOPE_HEADROOM_BYTES

/-- What a session is created with. -/
structure Config where
  detectors : Detectors
  /-- `Number(maxBatchBytes)`. -/
  maxBatchBytes : JsNumber

/-! ## §2. The session. -/

structure Line where
  payload : Payload
  bytes : Nat
deriving DecidableEq

structure Batch where
  lines : List Payload
  droppedBefore : Nat
  firstSeq : Option Nat
deriving DecidableEq

/-- A body passed to `post`.  `origin` is the number of the batch it comes from; the
    closing body comes from none. -/
structure Post where
  origin : Option Nat
  firstSeq : Option Nat
  lines : List Payload
  droppedBefore : Nat
  final : Bool
deriving DecidableEq

/-- What a call of `sendBatch` waits for. -/
inductive Send
  /-- The answer to its post. -/
  | posted (batch : Batch) (final : Bool)
  /-- Its next attempt. -/
  | resting (batch : Batch) (final : Bool)
  /-- The first half of its batch. -/
  | head (half : Send) (batch : Batch)
  /-- The second half of its batch. -/
  | tail (headOk : Bool) (half : Send) (batch : Batch)
  /-- Nothing: it has returned. -/
  | returned (ok : Bool)
deriving DecidableEq

/-- What `close` waits for. -/
inductive Closing
  | notClosed
  /-- The send that was under way. -/
  | awaiting (origin : Nat)
  | draining (origin : Nat) (send : Send)
  | finishing (send : Send)
  | finished
deriving DecidableEq

structure Session where
  lines : List Line
  bytes : Int
  dropped : Nat
  nextSeq : Nat
  closed : Bool
  stopped : Bool
  /-- The send of `flush`, with the number of its batch. -/
  inflight : Option (Nat × Send)
  closing : Closing
  /-- The lines that got a number. -/
  numbered : List Payload
  /-- The batches taken from the buffer. -/
  taken : List Batch
  posts : List Post
deriving DecidableEq

/-- A session that was just created. -/
def Session.fresh : Session where
  lines := []
  bytes := 0
  dropped := 0
  nextSeq := 1
  closed := false
  stopped := false
  inflight := none
  closing := .notClosed
  numbered := []
  taken := []
  posts := []

def Session.stop (s : Session) : Session := { s with stopped := true, lines := [], bytes := 0 }

def Session.drop (s : Session) (batch : Batch) : Session :=
  { s with dropped := s.dropped + (batch.lines.length + batch.droppedBefore) }

/-! ## §3. `sendBatch`. -/

/-- What comes of a post. -/
inductive Answer
  /-- `post` throws; `network` is the code of a network error. -/
  | thrown (network : Bool)
  | response (status : Option Nat) (streamDisabled : Bool)
deriving DecidableEq, Repr

/-- What a send waits for has come. -/
inductive Signal
  | answer (answer : Answer)
  /-- The timer is over; `inTime` is `now() < deadline()`. -/
  | woke (inTime : Bool)
  /-- The half that was sent has returned. -/
  | resumed
deriving DecidableEq, Repr

def STOP_STATUSES : List Nat := [401, 403, 404, 409, 410]

section Sending

variable (origin : Option Nat)

def Batch.body (batch : Batch) (final : Bool) : Post where
  origin := origin
  firstSeq := batch.firstSeq.filter (· ≠ 0)
  lines := batch.lines
  droppedBefore := batch.droppedBefore
  final := final

/-- The call of `post` in the loop. -/
def Session.post (s : Session) (batch : Batch) (final : Bool) : Session :=
  { s with posts := s.posts ++ [batch.body origin final] }

/-- The head of the loop: one more attempt, or the batch is dropped. -/
def attemptPost (s : Session) (batch : Batch) (final inTime : Bool) : Send × Session :=
  if !s.stopped && inTime then (.posted batch final, s.post origin batch final)
  else (.returned false, s.drop batch)

/-- `Math.ceil(lines.length / 2)`. -/
def middle (batch : Batch) : Nat := (batch.lines.length + 1) / 2

def headBatch (batch : Batch) : Batch where
  lines := batch.lines.take (middle batch)
  droppedBefore := batch.droppedBefore
  firstSeq := batch.lines.head?.map Payload.seq

def tailBatch (batch : Batch) : Batch where
  lines := batch.lines.drop (middle batch)
  droppedBefore := 0
  firstSeq := batch.lines[middle batch]?.map Payload.seq

def Session.answered (s : Session) (batch : Batch) (final : Bool) : Answer → Send × Session
  | .thrown network => if network then (.resting batch final, s) else (.returned false, s.drop batch)
  | .response status streamDisabled =>
    let status := status.getD 0
    if 200 ≤ status ∧ status < 300 then
      if streamDisabled then (.returned false, s.stop) else (.returned true, s)
    else if status = 413 ∧ 1 < batch.lines.length then
      let (half, s') := attemptPost origin s (headBatch batch) false true
      (.head half batch, s')
    else if status = 429 ∨ status = 503 then (.resting batch final, s)
    else if status ∈ STOP_STATUSES then (.returned false, s.stop)
    else if status = 408 ∨ 500 ≤ status then (.resting batch final, s)
    else (.returned false, s.drop batch)

/-- The first half is sent: on to the second. -/
def Session.headSent (s : Session) (headOk : Bool) (batch : Batch) : Send × Session :=
  if s.stopped then (.returned false, s)
  else
    let (half, s') := attemptPost origin s (tailBatch batch) false true
    (.tail headOk half batch, s')

/-- Both halves are sent. -/
def Session.tailSent (s : Session) (headOk tailOk : Bool) (batch : Batch) : Send × Session :=
  if s.stopped then (.returned false, s)
  else
    (.returned (headOk && tailOk),
      if !headOk && tailOk then
        { s with dropped := s.dropped - (headBatch batch).lines.length - (headBatch batch).droppedBefore }
      else s)

/-- A step of `sendBatch`; `none` where the send does not wait for the signal. -/
def Send.next (s : Session) (signal : Signal) : Send → Option (Send × Session)
  | .posted batch final =>
    match signal with
    | .answer answer => some (s.answered origin batch final answer)
    | _ => none
  | .resting batch final =>
    match signal with
    | .woke inTime => some (attemptPost origin s batch final inTime)
    | _ => none
  | .head (.returned headOk) batch =>
    match signal with
    | .resumed => some (s.headSent origin headOk batch)
    | _ => none
  | .head half batch => (Send.next s signal half).map fun (half', s') => (.head half' batch, s')
  | .tail headOk (.returned tailOk) batch =>
    match signal with
    | .resumed => some (s.tailSent headOk tailOk batch)
    | _ => none
  | .tail headOk half batch =>
    (Send.next s signal half).map fun (half', s') => (.tail headOk half' batch, s')
  | .returned _ => none

end Sending

/-! ## §4. The buffer. -/

/-- The loop of `takeBatch`: the lines at the front that go into a batch. -/
def takeLines (budget : ℚ) : Nat → Nat → List Line → List Line
  | _, _, [] => []
  | count, bytes, line :: rest =>
    if count < MAX_BATCH_LINES ∧ ¬(0 < count ∧ budget < (bytes + line.bytes : Nat)) then
      line :: takeLines budget (count + 1) (bytes + line.bytes) rest
    else []

def takeBatch (budget : ℚ) (s : Session) : Batch × Session :=
  let lines := takeLines budget 0 2 s.lines
  let batch : Batch :=
    { lines := lines.map Line.payload, droppedBefore := s.dropped
      firstSeq := (lines.map Line.payload).head?.map Payload.seq }
  (batch,
    { s with
      lines := s.lines.drop lines.length
      bytes := s.bytes - (lines.map Line.bytes).sum
      dropped := 0
      taken := s.taken ++ [batch] })

/-- The send of the next batch, with its number. -/
def sendTaken (budget : ℚ) (s : Session) : (Nat × Send) × Session :=
  let (batch, s') := takeBatch budget s
  let (send, s'') := attemptPost (some s.taken.length) s' batch false true
  ((s.taken.length, send), s'')

def flush (budget : ℚ) (s : Session) : Session :=
  if s.inflight.isSome || s.stopped || s.lines.isEmpty then s
  else
    let (send, s') := sendTaken budget s
    { s' with inflight := some send }

/-- The loop that drops the oldest lines; `agentBytes` is what all sessions hold when
    this one holds so much. -/
def evict (agentBytes : Int → Nat) : List Line → Int → Nat → List Line × Int × Nat
  | [], bytes, dropped => ([], bytes, dropped)
  | line :: rest, bytes, dropped =>
    if MAX_LINES < rest.length + 1 ∨ MAX_CLAIM_BYTES < bytes ∨ MAX_AGENT_BYTES < agentBytes bytes then
      evict agentBytes rest (bytes - line.bytes) (dropped + 1)
    else (line :: rest, bytes, dropped)

structure LogCall where
  level : JsString
  step : JsString
  /-- `String(message ?? "")`. -/
  message : JsString
  /-- `none` where the fields are no record. -/
  fields : Option (List (JsString × FieldValue))
  /-- `new Date(now()).toISOString()`. -/
  ts : JsString
  agentBytes : Int → Nat

/-- `text.trim().length === 0`. -/
def isBlank (text : JsString) : Bool := text.all fun c => isJsSpace (Char.ofNat c.val)

/-- The line a call makes with a number; `none` where the scrubber rejects it. -/
def LogCall.payload (call : LogCall) (detectors : Detectors) (seq : Nat) : Option Payload := do
  let text ← scrubAgentLogText detectors call.message
  let fields ← scrubAgentLogFields detectors call.fields
  some
    { seq, ts := call.ts, level := if call.level ∈ LEVELS then call.level else js "info"
      step := if call.step ∈ STEPS then call.step else js "other", message := text, fields }

/-- The line is put into the buffer. -/
def Session.push (s : Session) (call : LogCall) (payload : Payload) : Session :=
  let (lines, bytes, dropped) :=
    evict call.agentBytes (s.lines ++ [⟨payload, payload.bytes⟩]) (s.bytes + payload.bytes) s.dropped
  { s with lines, bytes, dropped }

def enqueue (config : Config) (s : Session) (call : LogCall) : Session :=
  let budget := lineBudget config.maxBatchBytes
  if s.closed || s.stopped then s
  else
    match call.payload config.detectors s.nextSeq with
    | none => { s with dropped := s.dropped + 1 }
    | some payload =>
      if isBlank payload.message then s
      else
        let s := { s with nextSeq := s.nextSeq + 1, numbered := s.numbered ++ [payload] }
        if budget < payload.bytes then { s with dropped := s.dropped + 1 }
        else
          let s := s.push call payload
          if FLUSH_LINES ≤ s.lines.length ∨ budget ≤ s.bytes then flush budget s else s

/-! ## §5. `close`. -/

/-- The loop of `close`, and the closing body after it; `inTime` is
    `now() < closeDeadline`. -/
def drain (budget : ℚ) (s : Session) (inTime : Bool) : Session :=
  if !s.stopped && !s.lines.isEmpty && inTime then
    let ((origin, send), s') := sendTaken budget s
    { s' with closing := .draining origin send }
  else if s.stopped then { s with closing := .finished }
  else
    let batch : Batch := { lines := [], droppedBefore := s.dropped + s.lines.length, firstSeq := none }
    let (send, s') := attemptPost none { s with lines := [], bytes := 0, dropped := 0 } batch true true
    { s' with closing := .finishing send }

/-- `close`, up to where it waits. -/
def close (budget : ℚ) (s : Session) (inTime : Bool) : Session :=
  match s.closing with
  | .notClosed =>
    let s := { s with closed := true }
    match s.inflight with
    | some (origin, _) => { s with closing := .awaiting origin }
    | none => drain budget s inTime
  | _ => s

/-- What `close` waits for has returned. -/
def resumeClose (budget : ℚ) (s : Session) (inTime : Bool) : Option Session :=
  match s.closing with
  | .awaiting origin =>
    if s.inflight.any fun inflight => inflight.1 = origin then none else some (drain budget s inTime)
  | .draining _ (.returned _) => some (drain budget s inTime)
  | .finishing (.returned _) => some { s with closing := .finished }
  | _ => none

/-! ## §6. Runs. -/

inductive Event
  | log (call : LogCall)
  /-- The timer, or a caller. -/
  | flush
  /-- The send of `flush` goes on. -/
  | sending (signal : Signal)
  /-- It has returned. -/
  | sent
  | close (inTime : Bool)
  /-- The send of `close` goes on. -/
  | closing (signal : Signal)
  | resumeClose (inTime : Bool)

/-- The session after an event; `none` where it cannot happen. -/
def Session.next (config : Config) (s : Session) : Event → Option Session
  | .log call => some (enqueue config s call)
  | .flush => some (flush (lineBudget config.maxBatchBytes) s)
  | .sending signal =>
    match s.inflight with
    | some (origin, send) =>
      (send.next (some origin) s signal).map fun (send', s') => { s' with inflight := some (origin, send') }
    | none => none
  | .sent =>
    match s.inflight with
    | some (_, .returned _) => some { s with inflight := none }
    | _ => none
  | .close inTime => some (close (lineBudget config.maxBatchBytes) s inTime)
  | .closing signal =>
    match s.closing with
    | .draining origin send =>
      (send.next (some origin) s signal).map fun (send', s') => { s' with closing := .draining origin send' }
    | .finishing send =>
      (send.next none s signal).map fun (send', s') => { s' with closing := .finishing send' }
    | _ => none
  | .resumeClose inTime => resumeClose (lineBudget config.maxBatchBytes) s inTime

def console (config : Config) : Lib.Runs.System Session Event where
  init s := s = Session.fresh
  step s event s' := s.next config event = some s'

end TokenTimer.Agent.JobLog
