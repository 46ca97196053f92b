/-
  TokenTimer.Delivery.Ledger — the delivery ledger of a row of `alert_queue`
  (`packages/recipient-verification/index.js`).

  A pass settles a row from three partial views: the ledger stored with the row, the
  rows of `alert_delivery_log`, and what the pass itself attempted.  Recipients
  (email, WhatsApp) and endpoints (webhooks) are kept apart, each channel in one of
  the two.

  A stored ledger is its parsed form; texts that name an unknown state, channel or
  reason are kept as they are.  `deliveryData` has dropped the unsafe keys.
-/

import TokenTimer.Basic
import TokenTimer.Lib.Dict

namespace TokenTimer.Delivery

open Lib

/-! ## §1. Names. -/

/-- A channel name; the three that a group can select, and any other stored text. -/
inductive Channel
  | email | webhooks | whatsapp
  | other (name : String)
deriving DecidableEq, Repr

def safeDeliveryKey (key : String) : Bool :=
  key ≠ "__proto__" && key ≠ "constructor" && key ≠ "prototype"

/-- `key && safeDeliveryKey(key)` of a channel name. -/
def Channel.safe : Channel → Bool
  | .other name => name ≠ "" && safeDeliveryKey name
  | _ => true

/-- `channel === "email" || channel === "whatsapp"`. -/
def Channel.hasRecipients : Channel → Bool
  | .email | .whatsapp => true
  | _ => false

def deliveryChannelNames (names : List Channel) : List Channel :=
  names.filter Channel.safe

def ELIGIBILITY_CODES : List String :=
  ["NO_VERIFIED_RECIPIENTS", "RECIPIENT_NOT_VERIFIED", "RECIPIENT_OPTED_OUT", "RECIPIENT_REVOKED",
    "RECIPIENT_SUPPRESSED"]

def TEMPORARY_VERIFICATION_CODE : String := "RECIPIENT_VERIFICATION_UNAVAILABLE"

/-- `ELIGIBILITY_CODES.has(code)`. -/
def isEligibilityCode (code : Option String) : Bool :=
  code.any fun c => c ∈ ELIGIBILITY_CODES

/-- `value || null` of a text. -/
def orNull (value : Option String) : Option String :=
  value.filter fun v => v ≠ ""

/-- `String.prototype.toLowerCase` and the checks of an address. -/
structure Env where
  toLowerCase : String → String
  isValidEmail : String → Bool

def recipientIdentity (env : Env) (channel : Channel) (value : Option String) : String :=
  let text := jsTrim (value.getD "")
  if text = "" then "" else if channel = .email then env.toLowerCase text else text

/-! ## §2. Outcomes. -/

/-- `state` of a recipient. -/
inductive RecipientState
  | sent | failed | unavailable | excluded | blocked
  | other (name : String)
deriving DecidableEq, Repr

structure RecipientResult where
  state : RecipientState
  code : Option String := none
deriving DecidableEq, Repr

inductive EndpointState
  | sent | failed | permanent | pending
  | other (name : String)
deriving DecidableEq, Repr

/-- `state` of a channel. -/
inductive OutcomeState
  | sent | partially | failed | blocked
  | other (name : String)
deriving DecidableEq, Repr

/-- `reason` of an outcome. -/
inductive Reason
  | verification | eligibility | provider
  | other (name : String)
deriving DecidableEq, Repr

structure Outcome where
  state : OutcomeState
  terminal : Bool
  reason : Option Reason := none
  code : Option String := none
  endpoints : Dict String EndpointState := .empty
  recipients : Option (Dict String RecipientResult) := none
  currentRecipients : Option (List String) := none
  retryGeneration : Nat := 0
  reopened : Bool := false
deriving DecidableEq

/-- The keys of `new Set(currentRecipients ...)`. -/
def selectedRecipients (currentRecipients : List String) : List String :=
  (currentRecipients.filter fun key => key ≠ "" && safeDeliveryKey key).dedup

/-- `{ state: "failed", code: "DELIVERY_NOT_ATTEMPTED" }`. -/
def notAttempted : RecipientResult :=
  { state := .failed, code := some "DELIVERY_NOT_ATTEMPTED" }

/-- `outcome.recipients` with every selected recipient in it. -/
def withSelected (recipients : Dict String RecipientResult) :
    Option (List String) → Dict String RecipientResult
  | none => recipients
  | some selected =>
    selected.foldl (fun d key => if d.has key then d else d.set key notAttempted) recipients

/-- The verdict of `recipientChannelOutcome` on the entries it counts. -/
def recipientVerdict (current : List RecipientResult) : Outcome :=
  let required := current.filter fun value => value.state ≠ .excluded
  if required.any fun value => value.state = .unavailable then
    { state := .failed, terminal := false, reason := some .verification
      code := some TEMPORARY_VERIFICATION_CODE }
  else if required.any fun value => value.state = .failed then
    { state := .failed, terminal := false, reason := none
      code := (required.find? fun value => value.state = .failed).bind fun value =>
        orNull value.code }
  else if required.isEmpty then
    let codes := current.filterMap fun value => orNull value.code
    { state := .blocked, terminal := true, reason := some .eligibility
      code := some (if !codes.isEmpty && codes.all (· = "RECIPIENT_OPTED_OUT") then
        "RECIPIENT_OPTED_OUT" else "NO_VERIFIED_RECIPIENTS") }
  else if required.all fun value => value.state = .sent then
    { state := .sent, terminal := true }
  else
    { state := if required.any fun value => value.state = .sent then .partially else .blocked
      terminal := true, reason := some .provider
      code := some (((required.filterMap fun value => orNull value.code).head?).getD
        "PERMANENT_DELIVERY_FAILURE") }

def recipientChannelOutcome (recipients : Dict String RecipientResult)
    (currentRecipients : Option (List String)) : Outcome :=
  let recipients := recipients.filterKeys safeDeliveryKey
  let selected := currentRecipients.map selectedRecipients
  let known := withSelected recipients selected
  let current := known.entries.filter fun e => selected.all fun keys => e.1 ∈ keys
  { recipientVerdict (current.map Prod.snd) with
    recipients := some known, currentRecipients := selected }

/-! ## §3. From outcomes to the status of the row. -/

def isEligibilityOutcome (outcome : Outcome) : Bool :=
  if outcome.reason = some .verification ∨ outcome.code = some TEMPORARY_VERIFICATION_CODE then false
  else if outcome.reason = some .provider then false
  else if outcome.reason = some .eligibility then true
  else if isEligibilityCode outcome.code then true
  else outcome.state = .blocked && outcome.terminal && (orNull outcome.code).isNone &&
    outcome.endpoints.entries.isEmpty

/-- The result of a channel that `deliveryDisposition` reads. -/
structure Result where
  channel : Channel
  success : Bool
  partialSuccess : Bool := false
  eligibilityTerminal : Bool := false
  terminal : Bool := false
  providerTerminal : Bool := false
  errorCode : Option String := none
deriving DecidableEq, Repr

def resultFromOutcome (channel : Channel) : Option Outcome → Result
  | none => { channel := channel, success := false }
  | some outcome =>
    if outcome.state = .sent then { channel := channel, success := true }
    else
      let eligibility := isEligibilityOutcome outcome
      let terminal := outcome.terminal || decide (outcome.state = .blocked)
      if outcome.state = .partially then
        { channel := channel, success := false, partialSuccess := true
          eligibilityTerminal := eligibility && terminal, terminal := terminal
          providerTerminal := terminal && !eligibility, errorCode := orNull outcome.code }
      else if terminal then
        { channel := channel, success := false, eligibilityTerminal := eligibility, terminal := true
          providerTerminal := !eligibility
          errorCode := some ((orNull outcome.code).getD
            (if eligibility then "NO_VERIFIED_RECIPIENTS" else "PERMANENT_DELIVERY_FAILURE")) }
      else { channel := channel, success := false, errorCode := orNull outcome.code }

/-- `alert_queue.status`. -/
inductive QueueStatus
  | pending | sent | partially | failed | blocked | limitExceeded
deriving DecidableEq, Repr

/-- What `deliveryDisposition` and `queueDeliveryOutcome` return. -/
structure Disposition where
  status : QueueStatus
  retry : Bool
  channels : List Channel
deriving DecidableEq, Repr

/-- `!row.eligibilityTerminal && !row.terminal && !row.providerTerminal`. -/
def Result.retryable (row : Result) : Bool :=
  !row.eligibilityTerminal && !row.terminal && !row.providerTerminal

def deliveryDisposition (results : List Result) : Disposition :=
  let unsuccessful := results.filter fun row => !row.success
  let retryable := unsuccessful.filter Result.retryable
  let anySuccess := results.any fun row => row.success || row.partialSuccess
  if unsuccessful.isEmpty then { status := .sent, retry := false, channels := [] }
  else if retryable.isEmpty then
    { status := if anySuccess then .partially else .blocked, retry := false, channels := [] }
  else
    { status := if anySuccess then .partially else .failed, retry := true
      channels := retryable.map (·.channel) }

/-- `queueDeliveryOutcome`; `forcedBlock` is a permanent WhatsApp failure or the
    attempt limit. -/
def queueDeliveryOutcome (results : List Result) (forcedBlock : Bool) : Disposition :=
  let disposition := deliveryDisposition results
  let status := if forcedBlock then .blocked else disposition.status
  let retry := !forcedBlock && disposition.retry && decide (status ≠ .sent) &&
    decide (status ≠ .blocked)
  { status := status, retry := retry, channels := if retry then disposition.channels else [] }

/-! ## §4. The stored ledger. -/

/-- `parseDeliveryLedger` of `alert_queue.channels`; `unsupported` is what
    `deliveryState.parse` answers `null` to. -/
inductive Stored
  | legacy (retry : List Channel)
  | ledger (retry required : List Channel) (outcomes : Dict Channel Outcome)
  | unsupported
deriving DecidableEq

def Stored.retry : Stored → List Channel
  | .legacy retry => deliveryChannelNames retry
  | .ledger retry _ _ => deliveryChannelNames retry
  | .unsupported => []

def Stored.required : Stored → List Channel
  | .ledger _ required _ => deliveryChannelNames required
  | _ => []

def Stored.outcomes : Stored → Dict Channel Outcome
  | .ledger _ _ outcomes => outcomes.filterKeys Channel.safe
  | _ => .empty

/-- `legacy`. -/
def Stored.isLegacy : Stored → Bool
  | .ledger _ _ _ => false
  | _ => true

def webhookRetryGeneration : Option Outcome → Nat
  | none => 0
  | some outcome =>
    if 0 < outcome.retryGeneration then outcome.retryGeneration
    else if outcome.reopened then 1 else 0

/-! ## §5. The delivery log. -/

/-- `alert_delivery_log.status`. -/
inductive LogStatus
  | success | failed | blocked | deferred
deriving DecidableEq, Repr

/-- `metadata` of a log row, the members this package reads. -/
structure LogMetadata where
  kind : Option String := none
  eventAction : Option String := none
  destinationId : Option String := none
  urlHash : Option String := none
  terminal : Bool := false
  recipient : Option String := none
  destination : Option String := none
  code : Option String := none
  retryGeneration : Nat := 0
deriving DecidableEq, Repr

/-- A row of `alert_delivery_log`. -/
structure LogRow where
  channel : Channel
  status : LogStatus
  errorMessage : Option String := none
  metadata : LogMetadata := {}
deriving DecidableEq, Repr

def LogRow.endpoint (row : LogRow) : Option String :=
  if row.channel = .webhooks then
    orNull (if row.metadata.kind = some "pagerduty" then row.metadata.destinationId
      else row.metadata.urlHash)
  else none

/-- The outcome `foldDeliveryLog` starts a channel with. -/
def unknownOutcome : Outcome := { state := .failed, terminal := false }

def endpointsOutcome (current : Outcome) (endpoints : Dict String EndpointState) : Outcome :=
  let values := endpoints.entries.map Prod.snd
  let state : OutcomeState × Bool :=
    if values.any (· = .failed) then (.failed, false)
    else if values.all (· = .sent) then (.sent, true)
    else if values.any (· = .sent) then (.partially, true)
    else (.blocked, true)
  { current with
    endpoints := endpoints, state := state.1, terminal := state.2, reason := some .provider }

def LogRow.endpointState (row : LogRow) : EndpointState :=
  if row.status = .success then .sent
  else if row.status = .blocked ∨ row.metadata.terminal then .permanent
  else .failed

/-- `row.error_message || meta.code || null`. -/
def LogRow.code (row : LogRow) : Option String :=
  (orNull row.errorMessage).or (orNull row.metadata.code)

def LogRow.recipientResult (row : LogRow) : RecipientResult :=
  if row.status = .success then { state := .sent }
  else if row.code = some TEMPORARY_VERIFICATION_CODE then
    { state := .unavailable, code := row.code }
  else if isEligibilityCode row.code then { state := .excluded, code := row.code }
  else if row.status = .blocked then { state := .blocked, code := row.code }
  else { state := .failed, code := row.code }

def LogRow.recipientKey (env : Env) (row : LogRow) : String :=
  recipientIdentity env row.channel
    ((orNull row.metadata.recipient).or (orNull row.metadata.destination))

/-- A log row that names no destination. -/
def foldChannelRow (current : Outcome) (row : LogRow) : Outcome :=
  if row.status = .success then { current with state := .sent, terminal := true }
  else if row.status = .blocked then
    if current.state = .sent then current
    else
      let code := (orNull row.errorMessage).or (orNull current.code)
      { current with
        state := .blocked, terminal := true, code := code
        reason := some (if isEligibilityCode code then .eligibility else .provider) }
  else if current.state = .sent ∨ (current.state = .blocked ∧ current.reason = some .eligibility) then
    current
  else { current with state := .failed, terminal := false, code := orNull row.errorMessage }

/-- One turn of `foldDeliveryLog`. -/
def foldLogRow (env : Env) (outcomes : Dict Channel Outcome) (row : LogRow) :
    Dict Channel Outcome :=
  let current := (outcomes.get row.channel).getD unknownOutcome
  let action := (orNull row.metadata.eventAction).getD "trigger"
  if !row.channel.safe then outcomes
  else if row.channel = .webhooks ∧ action ≠ "trigger" then outcomes
  else if row.channel = .webhooks ∧ row.metadata.kind = some "pagerduty" ∧ row.endpoint = none then
    outcomes
  else
    match row.endpoint with
    | some endpoint =>
      if safeDeliveryKey endpoint then
        outcomes.set row.channel
          (endpointsOutcome current (current.endpoints.set endpoint row.endpointState))
      else outcomes
    | none =>
      if row.channel.hasRecipients then
        let key := row.recipientKey env
        if key = "" ∨ safeDeliveryKey key = false then
          if isEligibilityCode row.code && current.recipients.isNone then
            outcomes.set row.channel
              { state := .blocked, terminal := true, reason := some .eligibility, code := row.code }
          else outcomes
        else
          let recipients := (current.recipients.getD .empty).set key row.recipientResult
          outcomes.set row.channel
            { recipientChannelOutcome recipients none with
              endpoints := current.endpoints, retryGeneration := current.retryGeneration
              reopened := current.reopened }
      else if row.channel = .webhooks ∧ !current.endpoints.entries.isEmpty then outcomes
      else outcomes.set row.channel (foldChannelRow current row)

def foldDeliveryLog (env : Env) (rows : List LogRow) : Dict Channel Outcome :=
  rows.foldl (foldLogRow env) .empty

/-! ## §6. Merging an attempt. -/

/-- An element of `deliveryResults`: what a pass made of one channel. -/
structure Attempt where
  channel : Channel
  success : Bool
  errorCode : Option String := none
  eligibilityTerminal : Bool := false
  terminal : Bool := false
  partialSuccess : Bool := false
  endpoints : Option (Dict String EndpointState) := none
  recipients : Option (Dict String RecipientResult) := none
  currentRecipients : Option (List String) := none
deriving DecidableEq

/-- `outcomeFromAttempt` without recipients. -/
def endpointAttemptOutcome (row : Attempt) : Outcome :=
  let endpoints := (row.endpoints.getD .empty).filterKeys safeDeliveryKey
  if row.success then { state := .sent, terminal := true, endpoints := endpoints }
  else if row.partialSuccess then
    let terminal := row.terminal || row.eligibilityTerminal
    { state := .partially, terminal := terminal, code := orNull row.errorCode
      reason :=
        if row.eligibilityTerminal then some .eligibility
        else if terminal then some .provider else none
      endpoints := endpoints }
  else
    let terminal := row.eligibilityTerminal || row.terminal
    { state := if terminal then .blocked else .failed, terminal := terminal
      code := orNull row.errorCode
      reason :=
        if row.eligibilityTerminal then some .eligibility
        else if row.terminal then some .provider else none
      endpoints := endpoints }

/-- The recipients an attempt reports, where `outcomeFromAttempt` reads them. -/
def Attempt.reported (row : Attempt) : Option (Dict String RecipientResult) :=
  if row.channel.hasRecipients then row.recipients else none

def settleOpenRecipients (previous : Outcome) (recipients : Dict String RecipientResult) :
    Dict String RecipientResult :=
  let current := previous.currentRecipients.getD recipients.keys
  recipients.entries.foldl
    (fun d e =>
      if e.1 ∈ current ∧ (e.2.state = .failed ∨ e.2.state = .unavailable) then
        d.set e.1 { state := .sent }
      else d) recipients

def attemptedOutcome (previous : Option Outcome) (row : Attempt) : Outcome :=
  let before := previous.bind (·.recipients)
  let beforeCurrent := previous.bind (·.currentRecipients)
  match row.reported, previous, before with
  | some reported, _, _ =>
    recipientChannelOutcome ((before.getD .empty).assign (reported.filterKeys safeDeliveryKey))
      (row.currentRecipients.or beforeCurrent)
  | none, some outcome, some recipients =>
    if row.success && row.channel.hasRecipients then
      recipientChannelOutcome (settleOpenRecipients outcome recipients) beforeCurrent
    else if row.channel ≠ .webhooks ∧ !row.success ∧ !row.eligibilityTerminal ∧
        row.errorCode ≠ some TEMPORARY_VERIFICATION_CODE then
      recipientChannelOutcome recipients beforeCurrent
    else endpointAttemptOutcome row
  | none, _, _ => endpointAttemptOutcome row

def overlayLog (env : Env) (outcomes : Dict Channel Outcome) (logRows : List LogRow) :
    Dict Channel Outcome :=
  (foldDeliveryLog env logRows).entries.foldl
    (fun acc e =>
      let previous := acc.get e.1
      acc.set e.1 <|
        match e.2.recipients with
        | some logged =>
          recipientChannelOutcome (((previous.bind (·.recipients)).getD .empty).assign logged)
            (previous.bind (·.currentRecipients))
        | none => e.2) outcomes

def overlayAttempts (outcomes : Dict Channel Outcome) (attempted : List Attempt) :
    Dict Channel Outcome :=
  attempted.foldl
    (fun acc row =>
      if row.channel.safe then acc.set row.channel (attemptedOutcome (acc.get row.channel) row)
      else acc) outcomes

/-- The webhook outcome keeps the retry generation of the stored ledger. -/
def keepGeneration (stored : Stored) (outcomes : Dict Channel Outcome) : Dict Channel Outcome :=
  let generation := webhookRetryGeneration (stored.outcomes.get .webhooks)
  match outcomes.get .webhooks with
  | some outcome =>
    if 0 < generation then
      outcomes.set .webhooks { outcome with retryGeneration := generation, reopened := false }
    else outcomes
  | none => outcomes

/-- `outcomes` of `mergeDeliveryAttempt`. -/
def mergedOutcomes (env : Env) (prior : Stored) (logRows : List LogRow) (attempted : List Attempt) :
    Dict Channel Outcome :=
  keepGeneration prior (overlayAttempts (overlayLog env prior.outcomes logRows) attempted)

/-- `required` of `mergeDeliveryAttempt`. -/
def requiredChannels (liveChannels : List Channel) (outcomes : Dict Channel Outcome) :
    List Channel :=
  let configured := deliveryChannelNames liveChannels
  if configured.isEmpty then outcomes.keys else configured

/-- `results` of `mergeDeliveryAttempt`. -/
def mergedResults (env : Env) (prior : Stored) (logRows : List LogRow) (attempted : List Attempt)
    (liveChannels : List Channel) : List Result :=
  let outcomes := mergedOutcomes env prior logRows attempted
  (requiredChannels liveChannels outcomes).map fun channel =>
    resultFromOutcome channel (outcomes.get channel)

/-- `ledger` of `mergeDeliveryAttempt`. -/
def mergedLedger (env : Env) (prior : Stored) (logRows : List LogRow) (attempted : List Attempt)
    (liveChannels : List Channel) : Stored :=
  let outcomes := mergedOutcomes env prior logRows attempted
  let required := requiredChannels liveChannels outcomes
  .ledger
    (queueDeliveryOutcome (mergedResults env prior logRows attempted liveChannels) false).channels
    required (outcomes.filterKeys fun channel => channel ∈ required)

/-! ## §7. What the next pass attempts. -/

def channelsForDeliveryAttempt (liveChannels : List Channel) (stored : Stored) (isRetry : Bool) :
    List Channel :=
  if isRetry then liveChannels.filter fun channel => channel ∈ stored.retry else liveChannels

/-- `channelNamesForSettlement`, of a ledger. -/
def channelNamesForSettlement (stored : Stored) : List Channel :=
  let source := if stored.required.isEmpty then stored.outcomes.keys else stored.required
  source.filter fun channel => channel ∈ [.email, .webhooks, .whatsapp]

/-- `settlementChannels` of `deliveryJob`. -/
def settlementChannels (stored : Stored) (liveChannels : List Channel) : List Channel :=
  if stored.isLegacy then liveChannels
  else
    (channelNamesForSettlement stored ++ stored.retry ++ stored.outcomes.keys ++
      liveChannels).dedup

/-! ## §8. Requeues. -/

/-- An outcome that leaves its channel to be tried. -/
def stillOpen : Option Outcome → Bool
  | none => true
  | some outcome => !(outcome.state = .sent || outcome.terminal || outcome.state = .blocked)

def providerTerminalOutcome : Option Outcome → Bool
  | none => false
  | some outcome =>
    !(outcome.state = .sent || isEligibilityOutcome outcome) &&
      (outcome.terminal || outcome.state = .blocked)

def canRecheckRecipientOutcome (channel : Channel) : Option Outcome → Bool
  | none => false
  | some outcome =>
    channel.hasRecipients && isEligibilityOutcome outcome &&
      (outcome.code = some "NO_VERIFIED_RECIPIENTS" || outcome.code = some "RECIPIENT_NOT_VERIFIED")

/-- A provider refusal set back to `failed`. -/
def reopen (channel : Channel) (outcome : Outcome) : Outcome :=
  { outcome with
    state := .failed, terminal := false, reason := some .provider, reopened := false
    retryGeneration := if channel = .webhooks then webhookRetryGeneration (some outcome) + 1
      else outcome.retryGeneration }

/-- `code` of a plan that is not `ok`. -/
inductive RetryRefusal
  | channelRequired | noEligibleChannels | channelNotEligible | channelPermanent | alreadyDelivered
  /-- The code of the recipients' outcome. -/
  | recipients (code : String)
deriving DecidableEq, Repr

/-- A plan of `planManualRetry`. -/
structure RetryPlan where
  channel : Channel
  eligible : List Channel
  channels : Stored
deriving DecidableEq

def chosenChannel (requestedChannel : Option Channel) (eligible : List Channel) : Option Channel :=
  requestedChannel.or (match eligible with | [channel] => some channel | _ => none)

def retriedOutcomes (channel : Channel) (outcomes : Dict Channel Outcome) : Dict Channel Outcome :=
  if canRecheckRecipientOutcome channel (outcomes.get channel) then outcomes.erase channel
  else
    match outcomes.get channel with
    | some outcome =>
      if providerTerminalOutcome (some outcome) then outcomes.set channel (reopen channel outcome)
      else outcomes
    | none => outcomes

def planManualRetry (stored : Stored) (requestedChannel : Option Channel) :
    Except RetryRefusal RetryPlan :=
  if stored.isLegacy then
    let eligible := stored.retry
    match chosenChannel requestedChannel eligible with
    | none => .error (if eligible.isEmpty then .noEligibleChannels else .channelRequired)
    | some channel =>
      if channel ∈ eligible then .ok { channel, eligible, channels := .legacy [channel] }
      else .error .channelNotEligible
  else
    let outcomes := stored.outcomes
    let known := if stored.required.isEmpty then outcomes.keys else stored.required
    let pending := stored.retry.filter fun channel => stillOpen (outcomes.get channel)
    let recheckable := known.filter fun channel =>
      canRecheckRecipientOutcome channel (outcomes.get channel)
    let eligible := (pending ++ recheckable).dedup
    let permanent := known.filter fun channel => providerTerminalOutcome (outcomes.get channel)
    match chosenChannel requestedChannel eligible with
    | none =>
      .error (if 1 < eligible.length then .channelRequired
        else if permanent.isEmpty then .noEligibleChannels else .channelPermanent)
    | some channel =>
      let outcome := outcomes.get channel
      if outcome.any (·.state = .sent) then .error .alreadyDelivered
      else if outcome.any isEligibilityOutcome && !canRecheckRecipientOutcome channel outcome then
        .error (.recipients (((outcome.bind (·.code)).filter (· ≠ "")).getD "RECIPIENT_NOT_VERIFIED"))
      else if channel ∉ known ∧ channel ∉ eligible then .error .channelNotEligible
      else
        .ok { channel, eligible
              channels := .ledger [channel] (if channel ∈ known then known else known ++ [channel])
                (retriedOutcomes channel outcomes) }

/-- `bulkRequeueWebhookSql`. -/
def bulkRequeueWebhook : Stored → Stored
  | .ledger retry required outcomes =>
    match outcomes.get .webhooks with
    | some outcome =>
      if outcome.state ≠ .sent ∧ outcome.reason ≠ some .eligibility ∧
          (outcome.terminal ∨ outcome.state = .blocked ∨ outcome.state = .partially) then
        .ledger (if .webhooks ∈ retry then retry else retry ++ [.webhooks]) required
          (outcomes.set .webhooks (reopen .webhooks outcome))
      else .ledger retry required outcomes
    | none => .ledger retry required outcomes
  | stored => stored

end TokenTimer.Delivery
