/-
  TokenTimer.Delivery.Endpoint — one endpoint monitor, its `down` and `recovered` rows
  of `alert_queue`, and everything that works on them: health checks of the worker and
  of the API (`endpoint-check-worker.js`, `routes/admin.js`), delivery passes of the
  `down` row (`delivery-worker.js`) and requeues.

  A check result is one transaction that holds the monitor, so it is one step, except
  for a recovery: that one reads the `down` row and deletes it in two statements, and a
  delivery pass may move the row in between.

  What the sends of a pass come to is an input, and so are the results it settles on.
-/

import TokenTimer.Delivery.Queue

namespace TokenTimer.Delivery.Endpoint

open Lib Lib.Runs

/-! ## §1. The monitor. -/

/-- `last_health_status`. -/
inductive HealthStatus
  | healthy | unhealthy | error | pending
deriving DecidableEq, Repr

/-- A row of `domain_monitors`. -/
structure Monitor where
  lastHealthStatus : Option HealthStatus := none
  consecutiveFailures : Nat := 0
  alertAfterFailures : Int := 2
  /-- `token_id` is set. -/
  tokenLinked : Bool := true
deriving DecidableEq

/-- `prevStatus && prevStatus === "healthy" && !isHealthy`. -/
def transitionedDown (prevStatus : Option HealthStatus) (status : HealthStatus) : Bool :=
  prevStatus = some .healthy && status ≠ .healthy

/-- `prevStatus && prevStatus !== "healthy" && isHealthy`. -/
def transitionedUp (prevStatus : Option HealthStatus) (status : HealthStatus) : Bool :=
  prevStatus.any (· ≠ .healthy) && status = .healthy

def Monitor.checked (m : Monitor) (status : HealthStatus) : Monitor :=
  { m with
    lastHealthStatus := some status
    consecutiveFailures := if status = .healthy then 0 else m.consecutiveFailures + 1 }

/-- The monitor after a check of the API, which leaves the failures as they are. -/
def Monitor.checkedByHand (m : Monitor) (status : HealthStatus) : Monitor :=
  { m with lastHealthStatus := some status }

/-- What `deliveryJob` makes of a `down` row before it delivers. -/
inductive Gate
  | defer | discard | deliver
deriving DecidableEq, Repr

/-- `alert_after_failures || 2`. -/
def Monitor.threshold (m : Monitor) : Int :=
  if m.alertAfterFailures = 0 then 2 else m.alertAfterFailures

/-- The gate on `alert_after_failures`. -/
def Monitor.gate (m : Monitor) : Gate :=
  if (m.consecutiveFailures : Int) < m.threshold then .defer
  else if m.consecutiveFailures = 0 then .discard
  else .deliver

/-! ## §2. The rows. -/

/-- A row of `alert_queue` under a key of the monitor. -/
structure QueuedRow where
  id : Nat
  /-- The channels left to try, of `channels`. -/
  retry : List Channel
  status : QueueStatus := .pending
  nextAttemptAt : Option Nat := none
  deliveryClaimId : Option Nat := none
deriving DecidableEq

def QueuedRow.claimable (now : Nat) (row : QueuedRow) : Bool :=
  row.status.live && !(row.status = .partially && row.retry.isEmpty) &&
    row.nextAttemptAt.all (· ≤ now)

/-- A write that ends a pass. -/
inductive Closing
  /-- Outside the delivery window. -/
  | postponed (ms : Nat)
  | blocked
  | noContacts (nextAttemptAt : Option Nat)
  | idle (results : List Result) (nextAttemptAt : Option Nat)
  | settled (results : List Result) (whatsappPermanentFailure reachedMaxAttempts : Bool)
      (nextAttemptAt : Option Nat)

def Closing.write (now : Nat) (closing : Closing) (row : QueuedRow) : QueuedRow :=
  match closing with
  | .postponed ms =>
    { row with status := .pending, nextAttemptAt := some (now + ms), deliveryClaimId := none }
  | .blocked =>
    { row with
      status := if row.status = .partially then .partially else .blocked
      nextAttemptAt := none, deliveryClaimId := none }
  | .noContacts nextAttemptAt =>
    { row with status := .failed, nextAttemptAt := nextAttemptAt, deliveryClaimId := none }
  | .idle results nextAttemptAt =>
    let outcome := queueDeliveryOutcome results false
    { row with
      status := if outcome.status = .sent ∧ results.any (fun r => !r.success) then .partially
        else outcome.status
      retry := outcome.channels
      nextAttemptAt := if outcome.retry then nextAttemptAt else none
      deliveryClaimId := none }
  | .settled results whatsappPermanentFailure reachedMaxAttempts nextAttemptAt =>
    let outcome := queueDeliveryOutcome results (whatsappPermanentFailure || reachedMaxAttempts)
    { row with
      status := outcome.status
      retry := if whatsappPermanentFailure then [] else (queueDeliveryOutcome results false).channels
      nextAttemptAt := if outcome.retry then nextAttemptAt else none
      deliveryClaimId := none }

/-- The row after the gate has let a pass through, or not. -/
def Gate.write (gate : Gate) (row : QueuedRow) : QueuedRow :=
  match gate with
  | .defer => { row with nextAttemptAt := none, deliveryClaimId := none }
  | .discard => { row with status := .sent, nextAttemptAt := none, deliveryClaimId := none }
  | .deliver => row

/-! ## §3. States. -/

/-- A delivery pass that has the `down` row in hand. -/
structure Pass where
  claimId : Nat
  rowId : Nat
  /-- It is past the gate. -/
  admitted : Bool := false
  /-- One of its sends is under way. -/
  sending : Bool := false
deriving DecidableEq

/-- An outage as the recorded check results show it. -/
structure Outage where
  /-- The result before it was `healthy`. -/
  fromHealthy : Bool
  /-- The `down` row queued for it. -/
  queued : Option Nat
deriving DecidableEq

structure PastOutage where
  outage : Outage
  /-- A `recovered` row was queued when it ended. -/
  recovered : Bool
deriving DecidableEq

/-- What the alerts of the workspace are routed by. -/
structure Routing where
  /-- The workspace has an admin. -/
  hasAdmin : Bool := true
  /-- The token of the monitor, with the settings of its workspace. -/
  asset : Asset
deriving DecidableEq

/-- `channels` of `queueEndpointAlert`. -/
def Routing.channels (r : Routing) : List Channel :=
  channelsFromGroups r.asset.resolvedGroups r.asset.emailEnabled r.asset.webhookUrls

/-- The monitor, its rows, and who works on them. -/
structure State where
  now : Nat
  monitor : Monitor
  routing : Routing
  /-- The row `endpoint_health:<id>:down`. -/
  down : Option QueuedRow := none
  /-- The row `endpoint_health:<id>:recovered`. -/
  recovered : Option QueuedRow := none
  /-- The recovery under way, with whether it has found a `down` row that is `sent`. -/
  recovering : Option Bool := none
  passes : List Pass := []
  nextRowId : Nat := 0
  nextClaimId : Nat := 0
  /-- The outage now, and those before. -/
  outage : Option Outage := none
  past : List PastOutage := []
  /-- The rows some destination has accepted a notification of. -/
  accepted : List Nat := []
deriving DecidableEq

inductive Event
  | wait (ms : Nat)
  /-- The token, the groups, the members or the threshold change. -/
  | configure (routing : Routing) (tokenLinked : Bool) (alertAfterFailures : Int)
  | check (status : HealthStatus)
  | finishRecovery
  | rollback
  | checkByHand (status : HealthStatus)
  /-- The row goes with the account it was queued for. -/
  | removeDown
  | claim
  | renew (claimId : Nat)
  | reachGate (claimId : Nat) (readFails : Bool)
  | send (claimId : Nat)
  | finishSend (claimId : Nat) (accepted : Bool)
  | close (claimId : Nat) (closing : Closing)
  | abandon (claimId : Nat)
  /-- `requeueAlertsCore`. -/
  | requeue
  /-- A manual retry, with the channels its plan leaves. -/
  | retry (channels : List Channel)

/-! ## §4. `queueEndpointAlert`. -/

/-- The row it inserts, where it gets that far. -/
def State.newAlert (s : State) : Option QueuedRow :=
  if s.routing.hasAdmin && !s.routing.channels.isEmpty then
    some { id := s.nextRowId, retry := s.routing.channels }
  else none

/-- The `down` row it queues. -/
def State.downAlert (s : State) : Option QueuedRow :=
  if s.monitor.tokenLinked && s.down.isNone then s.newAlert else none

def State.queueDown (s : State) : State :=
  match s.downAlert with
  | some row => { s with down := some row, nextRowId := s.nextRowId + 1 }
  | none => s

/-- `sentDown.rows.length > 0`. -/
def State.sentDown (s : State) : Bool :=
  s.monitor.tokenLinked && s.down.any fun row => row.status = .sent

/-- The `recovered` row it queues. -/
def State.recoveredAlert (s : State) (sentDown : Bool) : Option QueuedRow :=
  if s.monitor.tokenLinked && sentDown then s.newAlert else none

def State.queueRecovered (s : State) (sentDown : Bool) : State :=
  if s.monitor.tokenLinked then
    match s.recoveredAlert sentDown with
    | some row =>
      { s with down := none, recovered := some row, nextRowId := s.nextRowId + 1 }
    | none => { s with down := none, recovered := if sentDown then none else s.recovered }
  else s

/-! ## §5. Steps. -/

/-- An outage that a result opens. -/
def State.newOutage (s : State) (queued : Option Nat) : Outage :=
  { fromHealthy := s.monitor.lastHealthStatus = some .healthy, queued }

/-- The outages after a check result, with the rows it queued. -/
def State.observe (s : State) (status : HealthStatus) (queued : Option Nat) (recovered : Bool) :
    State :=
  if status = .healthy then
    { s with
      outage := none
      past := s.past ++ (s.outage.map fun outage => { outage, recovered }).toList }
  else { s with outage := s.outage.or (some (s.newOutage queued)) }

/-- A check of the worker that does not end an outage. -/
def State.checked (s : State) (status : HealthStatus) : State :=
  let down := transitionedDown s.monitor.lastHealthStatus status
  let observed := s.observe status (if down then s.downAlert.map (·.id) else none) false
  { (if down then observed.queueDown else observed) with monitor := s.monitor.checked status }

/-- A check that ends one. -/
def State.recover (s : State) (sentDown : Bool) : State :=
  let observed := s.observe .healthy none (s.recoveredAlert sentDown).isSome
  { observed.queueRecovered sentDown with
    monitor := s.monitor.checked .healthy, recovering := none }

def State.pass (s : State) (claimId : Nat) : Option Pass :=
  s.passes.find? fun p => p.claimId = claimId

/-- `WHERE id = $1 AND delivery_claim_id = $2`. -/
def Pass.owns (p : Pass) (row : QueuedRow) : Bool :=
  row.id = p.rowId && row.deliveryClaimId = some p.claimId

/-- A write of a pass, which lands while it owns the row. -/
def State.write (s : State) (p : Pass) (f : QueuedRow → QueuedRow) : State :=
  { s with down := s.down.map fun row => if p.owns row then f row else row }

def State.without (s : State) (p : Pass) : State :=
  { s with passes := s.passes.filter fun q => q ≠ p }

/-- The pass goes on, changed. -/
def State.update (s : State) (p p' : Pass) : State :=
  { s with passes := s.passes.map fun q => if q = p then p' else q }

/-- A step; `markerMs` is how long a claim lasts. -/
def next (markerMs : Nat) (s : State) : Event → Option State
  | .wait ms => some { s with now := s.now + ms }
  | .configure routing tokenLinked alertAfterFailures =>
    if s.recovering = none then
      some { s with
        routing := routing
        monitor := { s.monitor with
          tokenLinked := tokenLinked, alertAfterFailures := alertAfterFailures } }
    else none
  | .check status =>
    if s.recovering = none then
      if transitionedUp s.monitor.lastHealthStatus status then
        some { s with recovering := some s.sentDown }
      else some (s.checked status)
    else none
  | .finishRecovery => s.recovering.map s.recover
  | .rollback => some { s with recovering := none }
  | .checkByHand status =>
    if s.recovering = none then
      some { s.observe status none false with monitor := s.monitor.checkedByHand status }
    else none
  | .removeDown => some { s with down := none }
  | .claim =>
    s.down.bind fun row =>
      if row.claimable s.now then
        some { s with
          down := some { row with
            nextAttemptAt := some (s.now + markerMs), deliveryClaimId := some s.nextClaimId }
          passes := s.passes ++ [{ claimId := s.nextClaimId, rowId := row.id }]
          nextClaimId := s.nextClaimId + 1 }
      else none
  | .renew claimId =>
    (s.pass claimId).bind fun p =>
      if s.down.any fun row => p.owns row && row.status.live then
        some (s.write p fun row => { row with nextAttemptAt := some (s.now + markerMs) })
      else none
  | .reachGate claimId readFails =>
    (s.pass claimId).map fun p =>
      let gate := if readFails then .deliver else s.monitor.gate
      if gate = .deliver then s.update p { p with admitted := true }
      else (s.write p gate.write).without p
  | .send claimId =>
    (s.pass claimId).bind fun p =>
      if p.admitted && !p.sending && s.down.any fun row => p.owns row && row.status.live then
        some <| (s.update p { p with sending := true }).write p fun row =>
          { row with nextAttemptAt := some (s.now + markerMs) }
      else none
  | .finishSend claimId accepted =>
    (s.pass claimId).bind fun p =>
      if p.sending then
        some { s.update p { p with sending := false } with
          accepted := if accepted then p.rowId :: s.accepted else s.accepted }
      else none
  | .close claimId closing =>
    (s.pass claimId).bind fun p =>
      if p.admitted && !p.sending then some ((s.write p (closing.write s.now)).without p) else none
  | .abandon claimId =>
    (s.pass claimId).bind fun p => if p.sending then none else some (s.without p)
  | .requeue =>
    s.down.bind fun row =>
      if row.status.requeueable then
        some { s with down := some { row with status := .pending, nextAttemptAt := some s.now } }
      else none
  | .retry channels =>
    s.down.bind fun row =>
      if row.status ≠ .sent ∧ row.nextAttemptAt.all (· ≤ s.now) then
        some { s with
          down := some { row with
            status := .pending, retry := channels, nextAttemptAt := some s.now
            deliveryClaimId := none } }
      else none

/-- A new monitor. -/
def Init (s : State) : Prop :=
  s.monitor.lastHealthStatus = none ∧ s.down = none ∧ s.recovering = none ∧ s.passes = [] ∧
    s.outage = none ∧ s.past = [] ∧ s.accepted = []

def system (markerMs : Nat) : System State Event where
  init := Init
  step s e t := next markerMs s e = some t

end TokenTimer.Delivery.Endpoint
