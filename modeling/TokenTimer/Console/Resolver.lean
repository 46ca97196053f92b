/-
  TokenTimer.Console.Resolver — the server side of the execution console:
  `resolveIngest` of `agentJobLogs.js`, what `applyIngest` does with its
  decision, and the two statements that close a stream.

  A stream is the log of ONE claim.  The agent numbers its lines from 1 and
  sends them in batches; a batch may be lost, repeated or overtaken.  The
  resolver keeps `resolvedThroughSeq`, everything at or below which has been
  decided for good, and three counters that say what became of it: stored,
  dropped by the server's caps, missing.

  Of a line the resolver reads its sequence number, the hash of its content and
  its size; its text is passed on to the INSERT and is not modelled.  `stored`
  and `conflicts` are the source's objects keyed by sequence number.
-/

import TokenTimer.Basic
import TokenTimer.Lib.Runs
import Mathlib.Data.List.Sort
import Mathlib.Logic.Function.Basic
import Mathlib.Algebra.BigOperators.Group.List.Basic
import Mathlib.Algebra.GroupWithZero.Nat

namespace TokenTimer.Console

open Lib.Runs

/-! ## §1. Data. -/

/-- `certops_agent_log_stream.status`. -/
inductive StreamStatus
  | pending | streaming | final | abandoned | disabled
deriving DecidableEq, Repr

/-- A scrubbed line of a batch. -/
structure LogLine where
  seq : Nat
  hash : String
  bytes : Nat
deriving DecidableEq, Repr

/-- The body of a 200 response. -/
structure LogAck where
  ackThroughSeq : Nat
  newlyStored : Nat
  duplicateCount : Nat
  serverDroppedCount : Nat
  streamDisabled : Bool
  retryAfterMs : Option Nat
deriving DecidableEq, Repr

/-- `last_ack`: the ack of an applied batch or the error of a rejected one. -/
inductive StoredAck
  | ack (body : LogAck)
  | rejection (error code : String)
deriving DecidableEq, Repr

/-- The stream state `rowToState` builds from a `certops_agent_log_stream` row
    and the stored hashes. -/
structure StreamState where
  streamingEnabled : Bool
  status : StreamStatus
  acceptUntil : Option Nat
  resolvedThroughSeq : Nat
  acceptedLines : Nat
  acceptedBytes : Nat
  serverDroppedLines : Nat
  agentGapLines : Nat
  rejectedBatches : Nat
  conflictCount : Nat
  conflicts : Nat → Option String
  lastBatchKey : Option String
  lastAck : Option StoredAck
  lastHttpStatus : Option Nat
  stored : Nat → Option String

/-- The row `openStreamForClaim` inserts. -/
def StreamState.fresh (streamingEnabled : Bool) : StreamState where
  streamingEnabled := streamingEnabled
  status := if streamingEnabled then .pending else .disabled
  acceptUntil := none
  resolvedThroughSeq := 0
  acceptedLines := 0
  acceptedBytes := 0
  serverDroppedLines := 0
  agentGapLines := 0
  rejectedBatches := 0
  conflictCount := 0
  conflicts := fun _ => none
  lastBatchKey := none
  lastAck := none
  lastHttpStatus := none
  stored := fun _ => none

/-- A batch as `applyIngest` hands it to the resolver. -/
structure Batch where
  key : String
  lines : List LogLine
  final : Bool
  rejected : Bool
  droppedBefore : Int
deriving DecidableEq, Repr

/-- The options of one call: the clock, the caps of the claim and the daily
    quota of the workspace (0 is no quota). -/
structure IngestOptions where
  now : Nat
  maxLines : Nat
  maxBytes : Nat
  quotaLimitBytes : Nat
  quotaUsedBytes : Nat
deriving DecidableEq, Repr

def CLAIM_LINE_CAP : Nat := 5000
def CLAIM_BYTE_CAP : Nat := 1024 * 1024
def ACCEPT_GRACE_MS : Nat := 5 * 60 * 1000

/-- `Number.MAX_SAFE_INTEGER`. -/
def MAX_SAFE_INTEGER : Nat := 2 ^ 53 - 1

inductive DecisionKind
  | replay | disabled | closed | rejected | invalid | applied
deriving DecidableEq, Repr

/-- `delta` of a decision. -/
structure QuotaDelta where
  quotaBytes : Nat
  quotaLines : Nat
  serverDropped : Nat
deriving DecidableEq, Repr

def ZERO_DELTA : QuotaDelta := { quotaBytes := 0, quotaLines := 0, serverDropped := 0 }

/-- What `resolveIngest` returns.  A `closed` or `invalid` decision carries no
    ack, no next state and no delta. -/
structure Decision where
  kind : DecisionKind
  httpStatus : Nat
  code : Option String
  ack : Option StoredAck
  nextState : Option StreamState
  delta : QuotaDelta
  inserts : List LogLine

def CERTOPS_AGENT_LOG_PRIVATE_MATERIAL : String := "CERTOPS_AGENT_LOG_PRIVATE_MATERIAL"
def CERTOPS_AGENT_LOG_CLOSED : String := "CERTOPS_AGENT_LOG_CLOSED"
def CERTOPS_AGENT_LOG_INVALID : String := "CERTOPS_AGENT_LOG_INVALID"

def disabledAck (state : StreamState) : LogAck :=
  { ackThroughSeq := state.resolvedThroughSeq
    newlyStored := 0
    duplicateCount := 0
    serverDroppedCount := 0
    streamDisabled := true
    retryAfterMs := none }

def emptyAck (resolvedThroughSeq duplicateCount : Nat) : LogAck :=
  { ackThroughSeq := resolvedThroughSeq
    newlyStored := 0
    duplicateCount := duplicateCount
    serverDroppedCount := 0
    streamDisabled := false
    retryAfterMs := none }

/-! ## §2. The lines of one batch. -/

/-- `[...lines].sort((a, b) => a.seq - b.seq)`. -/
def sortBySeq (lines : List LogLine) : List LogLine :=
  lines.insertionSort fun a b => a.seq ≤ b.seq

/-- No two neighbours of the sorted batch are more or less than one apart. -/
def contiguous : List LogLine → Bool
  | a :: b :: rest => decide (b.seq = a.seq + 1) && contiguous (b :: rest)
  | _ => true

/-- `Number.isSafeInteger(droppedBefore) && droppedBefore > 0 ? droppedBefore : 0`. -/
def safeCount (droppedBefore : Int) : Nat :=
  if 0 < droppedBefore ∧ droppedBefore ≤ (MAX_SAFE_INTEGER : Int) then droppedBefore.toNat else 0

structure LineLoop where
  resolved : Nat
  acceptedLines : Nat
  acceptedBytes : Nat
  serverDroppedLines : Nat
  conflictCount : Nat
  conflicts : Nat → Option String
  stored : Nat → Option String
  inserts : List LogLine
  newlyStored : Nat
  serverDroppedCount : Nat
  duplicateCount : Nat
  quotaUsed : Nat
  quotaBytes : Nat
  quotaLines : Nat
  sawNew : Bool
  seqGapLines : Nat

def LineLoop.start (state : StreamState) (options : IngestOptions) : LineLoop where
  resolved := state.resolvedThroughSeq
  acceptedLines := state.acceptedLines
  acceptedBytes := state.acceptedBytes
  serverDroppedLines := state.serverDroppedLines
  conflictCount := state.conflictCount
  conflicts := state.conflicts
  stored := state.stored
  inserts := []
  newlyStored := 0
  serverDroppedCount := 0
  duplicateCount := 0
  quotaUsed := options.quotaUsedBytes
  quotaBytes := 0
  quotaLines := 0
  sawNew := false
  seqGapLines := 0

/-- A line at or below `resolved`: a conflict with the stored content, counted
    once per new content, or a duplicate. -/
def LineLoop.resolvedLine (loop : LineLoop) (line : LogLine) : LineLoop :=
  match loop.stored line.seq with
  | some previous =>
    if previous ≠ "" ∧ previous ≠ line.hash then
      if loop.conflicts line.seq ≠ some line.hash then
        { loop with
          conflicts := Function.update loop.conflicts line.seq (some line.hash)
          conflictCount := loop.conflictCount + 1 }
      else loop
    else { loop with duplicateCount := loop.duplicateCount + 1 }
  | none => { loop with duplicateCount := loop.duplicateCount + 1 }

/-- The first new line of a batch fixes the gap before it. -/
def LineLoop.noteNew (loop : LineLoop) (line : LogLine) : LineLoop :=
  if !loop.sawNew then
    { loop with
      sawNew := true
      seqGapLines :=
        if line.seq > loop.resolved + 1 then line.seq - loop.resolved - 1 else loop.seqGapLines }
  else loop

/-- `overClaim || overQuota`. -/
def LineLoop.overCap (loop : LineLoop) (options : IngestOptions) (line : LogLine) : Bool :=
  decide (loop.acceptedLines + 1 > options.maxLines) ||
    decide (loop.acceptedBytes + line.bytes > options.maxBytes) ||
    (decide (options.quotaLimitBytes > 0) &&
      decide (loop.quotaUsed + line.bytes > options.quotaLimitBytes))

/-- A new line over a cap is resolved without being stored. -/
def LineLoop.dropLine (loop : LineLoop) (line : LogLine) : LineLoop :=
  { loop with
    serverDroppedLines := loop.serverDroppedLines + 1
    serverDroppedCount := loop.serverDroppedCount + 1
    resolved := line.seq }

def LineLoop.insertLine (loop : LineLoop) (line : LogLine) : LineLoop :=
  { loop with
    inserts := loop.inserts ++ [line]
    stored := Function.update loop.stored line.seq (some line.hash)
    acceptedLines := loop.acceptedLines + 1
    acceptedBytes := loop.acceptedBytes + line.bytes
    quotaUsed := loop.quotaUsed + line.bytes
    quotaBytes := loop.quotaBytes + line.bytes
    quotaLines := loop.quotaLines + 1
    newlyStored := loop.newlyStored + 1
    resolved := line.seq }

/-- The body of `for (const line of ordered)`. -/
def LineLoop.step (options : IngestOptions) (loop : LineLoop) (line : LogLine) : LineLoop :=
  if line.seq ≤ loop.resolved then loop.resolvedLine line
  else
    let loop := loop.noteNew line
    if loop.overCap options line then loop.dropLine line else loop.insertLine line

def runLines (state : StreamState) (options : IngestOptions) (ordered : List LogLine) : LineLoop :=
  ordered.foldl (LineLoop.step options) (LineLoop.start state options)

/-! ## §3. `resolveIngest`. -/

/-- `seqs.every((seq) => seq <= state.resolvedThroughSeq)`. -/
def allResolved (state : StreamState) (batch : Batch) : Bool :=
  batch.lines.all fun line => decide (line.seq ≤ state.resolvedThroughSeq)

/-- `acceptUntil && acceptUntil <= now`. -/
def windowClosed (state : StreamState) (now : Nat) : Bool :=
  match state.acceptUntil with
  | some t => decide (t ≤ now)
  | none => false

/-- `state.lastBatchKey && state.lastBatchKey === batch.key`. -/
def isLastBatch (state : StreamState) (batch : Batch) : Bool :=
  match state.lastBatchKey with
  | some key => decide (key ≠ "") && decide (key = batch.key)
  | none => false

/-- `newlyStored === 0 && serverDroppedCount === 0` over lines that were all
    resolved before: the batch is an old one come back. -/
def pureResolvedReplay (state : StreamState) (batch : Batch) (loop : LineLoop) : Bool :=
  decide (batch.lines.length > 0) && allResolved state batch &&
    decide (loop.newlyStored = 0) && decide (loop.serverDroppedCount = 0)

def statusAfter (state : StreamState) (batch : Batch) (loop : LineLoop) : StreamStatus :=
  if batch.final then .final
  else if state.status = .pending ∧ (loop.inserts.length > 0 ∨ loop.serverDroppedCount > 0) then
    .streaming
  else state.status

def applied (state : StreamState) (batch : Batch) (loop : LineLoop) : Decision :=
  let ack : LogAck :=
    { ackThroughSeq := loop.resolved
      newlyStored := loop.newlyStored
      duplicateCount := loop.duplicateCount
      serverDroppedCount := loop.serverDroppedCount
      streamDisabled := false
      retryAfterMs := none }
  { kind := .applied
    httpStatus := 200
    code := none
    ack := some (.ack ack)
    nextState := some
      { state with
        status := statusAfter state batch loop
        resolvedThroughSeq := loop.resolved
        acceptedLines := loop.acceptedLines
        acceptedBytes := loop.acceptedBytes
        serverDroppedLines := loop.serverDroppedLines
        agentGapLines :=
          if !pureResolvedReplay state batch loop then
            state.agentGapLines + max (safeCount batch.droppedBefore) loop.seqGapLines
          else state.agentGapLines
        conflictCount := loop.conflictCount
        conflicts := loop.conflicts
        stored := loop.stored
        lastBatchKey := some batch.key
        lastAck := some (.ack ack)
        lastHttpStatus := some 200 }
    delta :=
      { quotaBytes := loop.quotaBytes
        quotaLines := loop.quotaLines
        serverDropped := loop.serverDroppedCount }
    inserts := loop.inserts }

/-- An answer that changes nothing. -/
def unchanged (state : StreamState) (kind : DecisionKind) (httpStatus : Nat)
    (ack : Option StoredAck) : Decision :=
  { kind := kind
    httpStatus := httpStatus
    code := none
    ack := ack
    nextState := some state
    delta := ZERO_DELTA
    inserts := [] }

def refused (kind : DecisionKind) (httpStatus : Nat) (code : String) : Decision :=
  { kind := kind
    httpStatus := httpStatus
    code := some code
    ack := none
    nextState := none
    delta := ZERO_DELTA
    inserts := [] }

/-- `lastHttpStatus || 200`. -/
def replayStatus (state : StreamState) : Nat :=
  match state.lastHttpStatus with
  | some 0 => 200
  | some status => status
  | none => 200

def resolveIngest (state : StreamState) (batch : Batch) (options : IngestOptions) : Decision :=
  if isLastBatch state batch then
    unchanged state .replay (replayStatus state) state.lastAck
  else if !state.streamingEnabled ∨ state.status = .disabled then
    unchanged state .disabled 200 (some (.ack (disabledAck state)))
  else if state.status = .abandoned then
    refused .closed 409 CERTOPS_AGENT_LOG_CLOSED
  else if state.status = .final ∨ windowClosed state options.now then
    if (batch.final ∧ batch.lines.length = 0) ∨ allResolved state batch then
      unchanged state .replay 200
        (some (.ack (emptyAck state.resolvedThroughSeq batch.lines.length)))
    else refused .closed 409 CERTOPS_AGENT_LOG_CLOSED
  else if batch.rejected then
    let lastAck : StoredAck :=
      .rejection "Agent log batch rejected" CERTOPS_AGENT_LOG_PRIVATE_MATERIAL
    { kind := .rejected
      httpStatus := 422
      code := some CERTOPS_AGENT_LOG_PRIVATE_MATERIAL
      ack := some lastAck
      nextState := some
        { state with
          rejectedBatches := state.rejectedBatches + 1
          lastBatchKey := some batch.key
          lastAck := some lastAck
          lastHttpStatus := some 422 }
      delta := ZERO_DELTA
      inserts := [] }
  else if !contiguous (sortBySeq batch.lines) then
    refused .invalid 400 CERTOPS_AGENT_LOG_INVALID
  else applied state batch (runLines state options (sortBySeq batch.lines))

/-- The row after `applyIngest`: the next state of the decision, or the row as it
    was after a refusal. -/
def Decision.after (decision : Decision) (state : StreamState) : StreamState :=
  decision.nextState.getD state

/-! ## §4. The stream over time. -/

/-- The caps of a claim, the same for all its batches. -/
structure Caps where
  maxLines : Nat
  maxBytes : Nat
deriving DecidableEq, Repr

/-- The caps `applyIngest` runs with. -/
def claimCaps : Caps := { maxLines := CLAIM_LINE_CAP, maxBytes := CLAIM_BYTE_CAP }

/-- One arrival of a batch: the batch, the server's clock and the quota of the
    day as it finds it. -/
structure Delivery where
  batch : Batch
  now : Nat
  quotaLimitBytes : Nat
  quotaUsedBytes : Nat
deriving DecidableEq, Repr

def Delivery.options (caps : Caps) (d : Delivery) : IngestOptions :=
  { now := d.now
    maxLines := caps.maxLines
    maxBytes := caps.maxBytes
    quotaLimitBytes := d.quotaLimitBytes
    quotaUsedBytes := d.quotaUsedBytes }

/-- A stream row with the `certops_agent_job_log` rows of its claim and what the
    claim has been charged of the workspace's daily quota. -/
structure Stream where
  state : StreamState
  log : List LogLine
  quotaBytes : Nat
  quotaLines : Nat

def Stream.fresh (streamingEnabled : Bool) : Stream :=
  { state := .fresh streamingEnabled, log := [], quotaBytes := 0, quotaLines := 0 }

/-- What `resolveIngest` decides about an arrival. -/
def Stream.decide (caps : Caps) (stream : Stream) (d : Delivery) : Decision :=
  resolveIngest stream.state d.batch (d.options caps)

/-- What `applyIngest` writes after the decision. -/
def Stream.ingest (caps : Caps) (stream : Stream) (d : Delivery) : Stream :=
  { state := (stream.decide caps d).after stream.state
    log := stream.log ++ (stream.decide caps d).inserts
    quotaBytes := stream.quotaBytes + (stream.decide caps d).delta.quotaBytes
    quotaLines := stream.quotaLines + (stream.decide caps d).delta.quotaLines }

/-- `closeClaimStream`: an open stream keeps accepting for `ACCEPT_GRACE_MS`. -/
def closeClaimStream (now : Nat) (state : StreamState) : StreamState :=
  if state.status = .pending ∨ state.status = .streaming then
    { state with acceptUntil := some (state.acceptUntil.getD (now + ACCEPT_GRACE_MS)) }
  else state

/-- `abandonExpiredStreams`: an open stream past its window is abandoned. -/
def abandonExpiredStream (now : Nat) (state : StreamState) : StreamState :=
  match state.acceptUntil with
  | some t =>
    if (state.status = .pending ∨ state.status = .streaming) ∧ t < now then
      { state with status := .abandoned }
    else state
  | none => state

inductive StreamCall
  | ingest (d : Delivery)
  | close (now : Nat)
  | abandon (now : Nat)
deriving DecidableEq, Repr

def Stream.call (caps : Caps) (stream : Stream) : StreamCall → Stream
  | .ingest d => stream.ingest caps d
  | .close now => { stream with state := closeClaimStream now stream.state }
  | .abandon now => { stream with state := abandonExpiredStream now stream.state }

/-- The streams of a claim: from the row `openStreamForClaim` inserts, any calls
    in any order. -/
def streamSystem (caps : Caps) : System Stream StreamCall where
  init stream := ∃ enabled, stream = .fresh enabled
  step stream c next := next = stream.call caps c

end TokenTimer.Console
