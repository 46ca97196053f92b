/-
  TokenTimer.Delivery.Queue — one `token_expiry` row of `alert_queue`, and everything
  that works on it: discovery passes, delivery passes of any number of workers, bulk
  and manual requeues, and changes of the settings (`queue-manager.js`,
  `delivery-worker.js`, `alertQueue.js`, the manual retry of the API).

  A pass works on the row as its claim READ it; its writes only land while the row
  still carries its claim.  What the sends of a channel come to is an input; a channel
  counts as tried once a pass has started it.
-/

import TokenTimer.Delivery.Discovery
import TokenTimer.Lib.Runs

namespace TokenTimer.Delivery

open Lib Lib.Runs

/-! ## §1. States. -/

structure Config where
  env : Env
  defaultThresholds : List ℚ
  claimMarkerMs : Nat

/-- A delivery pass that has the row in hand. -/
structure Pass where
  claimId : Nat
  /-- `alert`, the row as the claim read it. -/
  before : Row
  /-- The settings that were joined to it. -/
  asset : Asset
  /-- `priorDeliveryRows`. -/
  logRows : List LogRow := []
  /-- The channels whose turn has come. -/
  started : List Channel := []
deriving DecidableEq

/-- `liveChannels` of the pass. -/
def Pass.live (p : Pass) : List Channel := liveChannels p.asset p.before

/-- `finalChannels` of the pass. -/
def Pass.final (p : Pass) : List Channel := finalChannels p.asset p.before

/-- The row, the settings, and the passes in flight. -/
structure State where
  now : Nat
  asset : Asset
  row : Row
  log : List LogRow := []
  passes : List Pass := []
  /-- The settings that a discovery pass still running has read. -/
  reads : List Asset := []
  nextClaimId : Nat := 0
  /-- The channels that some pass has started. -/
  tried : List Channel := []
deriving DecidableEq

inductive Event
  | wait (ms : Nat)
  /-- A reassignment, or any other change of the settings. -/
  | configure (asset : Asset)
  | readSettings
  | discover (settings : Asset) (referenceDay : Int)
  | claim
  | renew (claimId : Nat)
  /-- The pass ends: its worker dies, or sees that the claim is lost. -/
  | abandon (claimId : Nat)
  | readLog (claimId : Nat) (fails : Bool)
  | start (claimId : Nat)
  | writeLog (row : LogRow)
  | discard (claimId : Nat)
  | postpone (claimId : Nat) (ms : Nat)
  | block (claimId : Nat)
  | noContacts (claimId : Nat) (nextAttemptAt : Option Nat)
  | idle (claimId : Nat) (nextAttemptAt : Option Nat)
  | settle (claimId : Nat) (results : List Attempt) (whatsappPermanentFailure : Bool)
      (reachedMaxAttempts : Bool) (nextAttemptAt : Option Nat)
  | requeue
  | retry (requestedChannel : Option Channel)

/-! ## §2. The statements. -/

/-- `aq.channels` with an empty retry set. -/
def Stored.exhausted : Stored → Bool
  | .legacy retry => retry.isEmpty
  | .ledger retry _ _ => retry.isEmpty
  | .unsupported => false

def Row.claimable (now : Nat) (row : Row) : Bool :=
  row.status.live && !(row.status = .partially && row.channels.exhausted) &&
    row.nextAttemptAt.all (· ≤ now)

def Row.claim (markerMs now claimId : Nat) (row : Row) : Row :=
  { row with nextAttemptAt := some (now + markerMs), deliveryClaimId := some claimId }

def Row.rediscovered (defaults : List ℚ) (asset : Asset) (referenceDay : Int) (row : Row) : Row :=
  ((discoverPass defaults asset referenceDay [row]).head?).getD row

/-- The row that a blocked delivery leaves: a partial delivery stays one. -/
def Row.blocked (row : Row) : Row :=
  { row with
    status := if row.status = .partially then .partially else .blocked
    nextAttemptAt := none, deliveryClaimId := none }

/-- `requeueAlertsCore`, where the texts of the row let it through. -/
def Row.requeued (now : Nat) (row : Row) : Row :=
  { row with
    channels := bulkRequeueWebhook row.channels, status := .pending, attempts := 0
    nextAttemptAt := some now }

/-- The statuses `requeueAlertsCore` selects. -/
def QueueStatus.requeueable (status : QueueStatus) : Bool :=
  status = .failed || status = .limitExceeded || status = .partially || status = .blocked

/-- `manualRetryUpdateSql`. -/
def Row.retried (now : Nat) (plan : RetryPlan) (row : Row) : Row :=
  { row with
    status := .pending, channels := plan.channels, nextAttemptAt := some now
    deliveryClaimId := none }

/-! ## §3. The end of a pass. -/

/-- `idle` of `deliveryJob`. -/
def Pass.idleResults (cfg : Config) (p : Pass) : List Result :=
  mergedResults cfg.env p.before.channels p.logRows [] p.live

def Pass.idleKnown (cfg : Config) (p : Pass) : Bool :=
  !(p.idleResults cfg).isEmpty || !p.live.isEmpty

def Pass.idleRow (cfg : Config) (p : Pass) (nextAttemptAt : Option Nat) (row : Row) : Row :=
  let results := p.idleResults cfg
  let outcome := queueDeliveryOutcome results false
  { row with
    status := if outcome.status = .sent ∧ results.any (fun r => !r.success) then .partially
      else outcome.status
    attempts := row.attempts + 1
    channels := mergedLedger cfg.env p.before.channels p.logRows [] p.live
    nextAttemptAt := if outcome.retry then nextAttemptAt else none
    deliveryClaimId := none }

/-- `settlementChannels` of the pass. -/
def Pass.settlementChannels (p : Pass) : List Channel :=
  Delivery.settlementChannels p.before.channels p.live

/-- `settlement.results`. -/
def Pass.settledResults (cfg : Config) (p : Pass) (results : List Attempt) : List Result :=
  mergedResults cfg.env p.before.channels p.logRows results p.settlementChannels

/-- `settlement.ledger`. -/
def Pass.settledLedger (cfg : Config) (p : Pass) (results : List Attempt) : Stored :=
  mergedLedger cfg.env p.before.channels p.logRows results p.settlementChannels

/-- `channelsToStore.retry = []`. -/
def Stored.withoutRetry : Stored → Stored
  | .ledger _ required outcomes => .ledger [] required outcomes
  | stored => stored

def Pass.settledRow (cfg : Config) (p : Pass) (results : List Attempt)
    (whatsappPermanentFailure reachedMaxAttempts : Bool) (nextAttemptAt : Option Nat) (row : Row) :
    Row :=
  let outcome := queueDeliveryOutcome (p.settledResults cfg results)
    (whatsappPermanentFailure || reachedMaxAttempts)
  let ledger := p.settledLedger cfg results
  { row with
    status := outcome.status
    attempts := p.before.attempts + 1
    channels := if whatsappPermanentFailure then ledger.withoutRetry else ledger
    nextAttemptAt := if outcome.retry then nextAttemptAt else none
    deliveryClaimId := none }

/-! ## §4. Steps. -/

def State.pass (s : State) (claimId : Nat) : Option Pass :=
  s.passes.find? fun p => p.claimId = claimId

/-- `delivery_claim_id = $n`. -/
def State.owned (s : State) (claimId : Nat) : Bool := s.row.deliveryClaimId = some claimId

def State.without (s : State) (claimId : Nat) : List Pass :=
  s.passes.filter fun p => p.claimId ≠ claimId

/-- The pass ends with a write, which lands while it owns the row. -/
def State.finish (s : State) (claimId : Nat) (write : Row → Row) : State :=
  { s with
    row := if s.owned claimId then write s.row else s.row
    passes := s.without claimId }

/-- The pass goes on, changed. -/
def State.update (s : State) (claimId : Nat) (f : Pass → Pass) : State :=
  { s with passes := s.passes.map fun p => if p.claimId = claimId then f p else p }

def Pass.upcoming (p : Pass) : Option Channel := p.final[p.started.length]?

/-- A step. -/
def next (cfg : Config) (s : State) : Event → Option State
  | .wait ms => some { s with now := s.now + ms }
  | .configure asset => some { s with asset := asset }
  | .readSettings => some { s with reads := s.asset :: s.reads }
  | .discover settings day =>
    if settings ∈ s.reads then
      some { s with row := s.row.rediscovered cfg.defaultThresholds settings day }
    else none
  | .claim =>
    if s.row.claimable s.now then
      some { s with
        row := s.row.claim cfg.claimMarkerMs s.now s.nextClaimId
        passes := s.passes ++ [{ claimId := s.nextClaimId, before := s.row, asset := s.asset }]
        nextClaimId := s.nextClaimId + 1 }
    else none
  | .renew claimId =>
    if s.owned claimId && s.row.status.live then
      some { s with row := { s.row with nextAttemptAt := some (s.now + cfg.claimMarkerMs) } }
    else none
  | .abandon claimId => some { s with passes := s.without claimId }
  | .readLog claimId fails =>
    some (s.update claimId fun p => { p with logRows := if fails then [] else s.log })
  | .start claimId =>
    (s.pass claimId).bind fun p =>
      p.upcoming.map fun channel =>
        { s.update claimId fun p => { p with started := p.started ++ [channel] } with
          tried := channel :: s.tried }
  | .writeLog row => if row.channel ∈ s.tried then some { s with log := s.log ++ [row] } else none
  | .discard claimId =>
    (s.pass claimId).map fun _ => s.finish claimId fun row =>
      { row with status := .sent, nextAttemptAt := none, deliveryClaimId := none }
  | .postpone claimId ms =>
    (s.pass claimId).map fun _ => s.finish claimId fun row =>
      { row with status := .pending, nextAttemptAt := some (s.now + ms), deliveryClaimId := none }
  | .block claimId =>
    (s.pass claimId).bind fun p =>
      if p.before.channels = .unsupported ∨ (p.before.channels.isLegacy = false ∧ p.final = []) then
        some (s.finish claimId Row.blocked)
      else none
  | .noContacts claimId nextAttemptAt =>
    (s.pass claimId).bind fun p =>
      if p.before.channels.isLegacy ∧ p.final = [] ∧ p.idleKnown cfg = false then
        some <| s.finish claimId fun row =>
          { row with
            status := .failed, attempts := row.attempts + 1
            nextAttemptAt := nextAttemptAt, deliveryClaimId := none }
      else none
  | .idle claimId nextAttemptAt =>
    (s.pass claimId).bind fun p =>
      if p.before.channels.isLegacy ∧ p.before.channels ≠ .unsupported ∧ p.final = [] ∧
          p.idleKnown cfg then
        some (s.finish claimId (p.idleRow cfg nextAttemptAt))
      else none
  | .settle claimId results whatsappPermanentFailure reachedMaxAttempts nextAttemptAt =>
    (s.pass claimId).bind fun p =>
      if p.final ≠ [] ∧ p.started = p.final ∧ results.map (·.channel) = p.final then
        some <| s.finish claimId <|
          p.settledRow cfg results whatsappPermanentFailure reachedMaxAttempts nextAttemptAt
      else none
  | .requeue => if s.row.status.requeueable then some { s with row := s.row.requeued s.now } else none
  | .retry requestedChannel =>
    if s.row.status ≠ .sent ∧ s.row.nextAttemptAt.all (· ≤ s.now) then
      match planManualRetry s.row.channels requestedChannel with
      | .ok plan => some { s with row := s.row.retried s.now plan }
      | .error _ => none
    else none

/-- A row that a discovery pass has just queued, and nothing else under way. -/
def Init (cfg : Config) (s : State) : Prop :=
  (∃ asset day, queuedRow cfg.defaultThresholds asset day = some s.row) ∧
    s.log = [] ∧ s.passes = [] ∧ s.tried = []

def system (cfg : Config) : System State Event where
  init := Init cfg
  step s e t := next cfg s e = some t

end TokenTimer.Delivery
