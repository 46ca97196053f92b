/-
  TokenTimer.Agent.Replay — the replay cache of signed jobs
  (`packages/agent/src/replay/index.js`), the clock offset
  (`packages/agent/src/clock/index.js`), the time window
  (`packages/agent/src/signing/index.js`) and the gates of `handleSignedJob`
  that use them.

  A job goes on when its nonce is not in the cache, the adjusted clock is in its
  window and the policy allows it; its nonce is then recorded and persisted.  A
  full cache forgets what is past its expiry by the tolerance, on the adjusted
  clock.  The offset of that clock is the median of the last Date headers and is
  lost with the process.
-/

import TokenTimer.Agent.Outbox

namespace TokenTimer.Agent

open Lib.Faulty TokenTimer.Json

/-! ## §1. Entries. -/

def DEFAULT_MAX_ENTRIES : Nat := 5000

structure ReplayEntry where
  nonce : JsString
  jobId : JsString
  expiresAtMs : Int
deriving DecidableEq

/-- `${nonce.length}:${nonce}|${jobId.length}:${jobId}`. -/
def cacheKey (nonce jobId : JsString) : JsString :=
  js (toString nonce.length) ++ js ":" ++ nonce ++ js "|" ++ js (toString jobId.length) ++ js ":" ++
    jobId

/-- A member of a job that should be a point in time; of a string, what
    `Date.parse` reads. -/
inductive Timestamp
  | text (reading : Option Int)
  | number (ms : Int)
  | other
deriving DecidableEq

/-- `typeof expiresAt === "number" ? expiresAt : Date.parse(expiresAt)`. -/
def Timestamp.ms : Timestamp → Option Int
  | .text reading => reading
  | .number ms => some ms
  | .other => none

/-- The reading of a string. -/
def Timestamp.parsed : Timestamp → Option Int
  | .text reading => reading
  | _ => none

/-- A verified job; `nonce` is empty where it is not a string. -/
structure SignedJob where
  nonce : JsString
  jobId : JsString
  issuedAt : Timestamp
  expiresAt : Timestamp
deriving DecidableEq

/-- What a nonce is consumed for. -/
abbrev DispatchPair := JsString × JsString

def SignedJob.pair (job : SignedJob) : DispatchPair := (job.nonce, job.jobId)

def ReplayEntry.pair (entry : ReplayEntry) : DispatchPair := (entry.nonce, entry.jobId)

/-! ## §2. The cache. -/

/-- The store file and the map in memory.  `forgotten` notes what was swept, and
    the time less the tolerance it was swept at: nothing reads it. -/
structure ReplayCache where
  store : List ReplayEntry
  entries : List ReplayEntry
  forgotten : List (ReplayEntry × Int)

abbrev OnCache := Prog ReplayCache FileError

/-- `entries.has(key)`. -/
def hasKey (key : JsString) (entries : List ReplayEntry) : Bool :=
  entries.any fun entry => cacheKey entry.nonce entry.jobId = key

/-- The store is written and synced under another name, then renamed. -/
def persist : OnCache Unit := do
  tick
  tick
  tick
  op fun cache => .ok ((), { cache with store := cache.entries })
  -- `applyRestrictivePermissions` and `fsyncDirectorySync`.
  tick
  tick

/-- `entry.expiresAtMs + retentionToleranceMs < nowMs`. -/
def ReplayEntry.expired (retentionToleranceMs nowMs : Int) (entry : ReplayEntry) : Bool :=
  entry.expiresAtMs + retentionToleranceMs < nowMs

def ReplayCache.swept (cache : ReplayCache) (retentionToleranceMs nowMs : Int) : ReplayCache :=
  { cache with
    entries := cache.entries.filter fun entry => !entry.expired retentionToleranceMs nowMs
    forgotten := cache.forgotten ++
      (cache.entries.filter fun entry => entry.expired retentionToleranceMs nowMs).map
        fun entry => (entry, nowMs - retentionToleranceMs) }

/-- `if (removed > 0) persist()`. -/
def persistRemoved (removed : Nat) : OnCache Unit := if removed > 0 then persist else pure ()

def sweep (retentionToleranceMs nowMs : Int) : OnCache Nat := do
  let cache ← look
  let removed := cache.entries.countP fun entry => entry.expired retentionToleranceMs nowMs
  note fun cache => cache.swept retentionToleranceMs nowMs
  persistRemoved removed
  pure removed

def assertEntryInput (job : SignedJob) : OnCache Int :=
  if job.nonce = [] then raise (.other (js "replay: a non-empty nonce string is required"))
  else if job.jobId = [] then raise (.other (js "replay: a non-empty jobId string is required"))
  else
    match job.expiresAt.ms with
    | none => raise (.other (js "replay: expiresAt is required"))
    | some expiresAtMs => pure expiresAtMs

def check (job : SignedJob) : OnCache Bool := do
  let _ ← assertEntryInput job
  let cache ← look
  pure !(hasKey (cacheKey job.nonce job.jobId) cache.entries)

/-- `entries.set(key, …)` and the write of the store. -/
def remember (entry : ReplayEntry) : OnCache Bool := do
  note fun cache => { cache with entries := cache.entries ++ [entry] }
  persist
  pure true

def consume (retentionToleranceMs nowMs : Int) (job : SignedJob) : OnCache Bool := do
  let expiresAtMs ← assertEntryInput job
  let cache ← look
  if hasKey (cacheKey job.nonce job.jobId) cache.entries then pure false
  else if cache.entries.length ≥ DEFAULT_MAX_ENTRIES then do
    let _ ← sweep retentionToleranceMs nowMs
    let cache ← look
    if cache.entries.length ≥ DEFAULT_MAX_ENTRIES then pure false
    else remember ⟨job.nonce, job.jobId, expiresAtMs⟩
  else remember ⟨job.nonce, job.jobId, expiresAtMs⟩

/-! ## §3. The clock. -/

def DEFAULT_MAX_SAMPLES : Nat := 5

/-- `estimateFromResponseDate`: the samples after a header, oldest first. -/
def estimateFromResponseDate (samples : List Int) (header : Option Int) (localNowMs : Int) :
    List Int :=
  match header with
  | none => samples
  | some serverMs =>
    let pushed := samples ++ [serverMs - localNowMs]
    if pushed.length > DEFAULT_MAX_SAMPLES then pushed.tail else pushed

/-- `getOffsetMs`: the median, a half rounded up as `Math.round` does. -/
def getOffsetMs (samples : List Int) : Option Int :=
  if samples.length = 0 then none
  else
    let sorted := samples.insertionSort (· ≤ ·)
    let mid := sorted.length / 2
    if sorted.length % 2 = 1 then some (sorted.getD mid 0)
    else some ((sorted.getD (mid - 1) 0 + sorted.getD mid 0 + 1) / 2)

inductive WindowVerdict
  | allowed
  | jobIntegrityFailed
  | clockDriftSuspected
deriving DecidableEq

def checkJobTimeWindow (job : SignedJob) (nowMs : Int) (clockOffsetMs : Option Int)
    (toleranceMs : Int) : WindowVerdict :=
  match job.issuedAt.parsed, job.expiresAt.parsed with
  | some issuedAtMs, some expiresAtMs =>
    let adjustedNowMs := nowMs + clockOffsetMs.getD 0
    if expiresAtMs < issuedAtMs then .jobIntegrityFailed
    else if adjustedNowMs < issuedAtMs - toleranceMs then .clockDriftSuspected
    else if adjustedNowMs > expiresAtMs + toleranceMs then .clockDriftSuspected
    else .allowed
  | _, _ => .jobIntegrityFailed

/-! ## §4. The gates. -/

/-- The readings of the local clock at the window and, should it come to that,
    at the sweep; whether the policy allows the job, and whether what follows the
    gates starts it. -/
structure Handling where
  job : SignedJob
  nowMs : Int
  sweepNowMs : Int
  policyAllows : Bool
  proceeds : Bool

/-- A process: the samples of its estimator and its `clockDriftToleranceMs`, which
    is also the retention of its cache. -/
structure Running where
  samples : List Int
  toleranceMs : Int

def Running.adjusted (process : Running) (nowMs : Int) : Int :=
  nowMs + (getOffsetMs process.samples).getD 0

/-- The gates of `handleSignedJob` from the replay check to the consumed nonce. -/
def admitJob (process : Running) (handling : Handling) : OnCache Bool := do
  if !(← check handling.job) then pure false
  else if checkJobTimeWindow handling.job handling.nowMs (getOffsetMs process.samples)
      process.toleranceMs ≠ .allowed then pure false
  else if !handling.policyAllows then pure false
  else consume process.toleranceMs (process.adjusted handling.sweepNowMs) handling.job

/-! ## §5. The agent. -/

/-- The agent between two events; `executed` lists what reached `executeJob`. -/
structure ReplayAgent where
  cache : ReplayCache
  process : Option Running
  clock : Int
  executed : List DispatchPair

def ReplayAgent.fresh : ReplayAgent := ⟨⟨[], [], []⟩, none, 0, []⟩

/-- What happens to the agent: it starts with a configuration and reads its store
    or fails to, it stops, a response carries a Date header or none it can read,
    or it handles a job. -/
inductive ReplayEvent
  | start (toleranceMs : Int) (loads : Bool)
  | stop
  | date (header : Option Int) (localNowMs : Int)
  | handle (handling : Handling) (script : List (Fault FileError))

def ReplayAgent.stopped (agent : ReplayAgent) : ReplayAgent :=
  { agent with process := none, cache := { agent.cache with entries := [] } }

def ReplayAgent.next (agent : ReplayAgent) : ReplayEvent → ReplayAgent
  | .start toleranceMs loads =>
    -- `execution.clockDriftToleranceMs must be a positive integer`.
    if 0 < toleranceMs ∧ loads = true then
      { agent with
        process := some ⟨[], toleranceMs⟩
        cache := { agent.cache with entries := agent.cache.store } }
    else agent.stopped
  | .stop => agent.stopped
  | .date header localNowMs =>
    match agent.process with
    | none => agent
    | some process => { agent with
        process := some { process with
          samples := estimateFromResponseDate process.samples header localNowMs }
        clock := localNowMs }
  | .handle handling script =>
    match agent.process with
    | none => agent
    | some process =>
      match exec (admitJob process handling) script agent.cache with
      | (.ok admitted, cache) => { agent with
          cache := cache
          clock := handling.sweepNowMs
          executed :=
            if admitted && handling.proceeds then agent.executed ++ [handling.job.pair]
            else agent.executed }
      | (.error (.thrown _), cache) => { agent with cache := cache, clock := handling.sweepNowMs }
      | (.error .crashed, cache) => { agent with cache := cache, clock := handling.sweepNowMs }.stopped

def replaySystem : Lib.Runs.System ReplayAgent ReplayEvent where
  init agent := agent = .fresh
  step agent event agent' := agent' = agent.next event

/-- The local clock does not go back. -/
def ReplayEvent.forward (agent : ReplayAgent) : ReplayEvent → Prop
  | .date _ localNowMs => agent.clock ≤ localNowMs
  | .handle handling _ => agent.clock ≤ handling.nowMs ∧ handling.nowMs ≤ handling.sweepNowMs
  | _ => True

end TokenTimer.Agent
