/-
  TokenTimer.Worker.Digest — the recipient rows of the weekly digest
  (`apps/worker/src/shared/weeklyDigestRecipients.js` and the recipient loop of
  `weekly-digest.js`).

  One row of `weekly_digest_recipient_log` stands for one (workspace, week,
  channel, recipient).  A digest run claims the row, begins a delivery, calls the
  provider and records the answer.  Each SQL statement is one step; the provider
  call lies BETWEEN two statements, so another run may claim the row under it.

  Claim tokens are fresh numbers (`crypto.randomUUID`); times are milliseconds.
-/

import TokenTimer.Lib.Runs

namespace TokenTimer.Worker.Digest

open Lib.Runs

/-! ## §1. The row. -/

/-- `status`. -/
inductive RecipientStatus
  | pending | sent
deriving DecidableEq, Repr

/-- `delivery_state`, where `NULL` is idle. -/
inductive DeliveryState
  | inProgress | accepted | rejected | uncertain
deriving DecidableEq, Repr

/-- A row of `weekly_digest_recipient_log`. -/
structure RecipientRow where
  status : RecipientStatus := .pending
  attemptCount : Nat := 1
  leaseExpiresAt : Option Nat := none
  tokensCount : Nat := 0
  claimToken : Option Nat := none
  deliveryState : Option DeliveryState := none
  providerAcceptedAt : Option Nat := none
  retryAfter : Option Nat := none
deriving DecidableEq, Repr

/-- What the worker is configured with: the lease of a claim, and
    `digestUncertainRetrySeconds()`. -/
structure DigestConfig where
  leaseMs : Nat := 300000
  uncertainRetrySeconds : Nat := 900

/-- `NOW() + ($8::int * interval '1 second')`. -/
def DigestConfig.uncertainUntil (cfg : DigestConfig) (now : Nat) : Nat :=
  now + cfg.uncertainRetrySeconds * 1000

/-- `lease_expires_at IS NULL OR lease_expires_at < NOW()`. -/
def leaseOver (now : Nat) (row : RecipientRow) : Bool :=
  row.leaseExpiresAt.all fun t => t < now

/-- `COALESCE(delivery_state, 'idle') IN ('idle', 'rejected')`. -/
def idleOrRejected (row : RecipientRow) : Bool :=
  row.deliveryState = none ∨ row.deliveryState = some .rejected

/-- The WHERE of `CLAIM_SQL`. -/
def claimable (now : Nat) (row : RecipientRow) : Bool :=
  row.status ≠ .sent &&
    ((idleOrRejected row && leaseOver now row) ||
      (row.providerAcceptedAt.isSome && leaseOver now row) ||
      (row.deliveryState = some .uncertain && (row.retryAfter.any fun t => t ≤ now) &&
        leaseOver now row) ||
      (row.deliveryState = some .inProgress && row.providerAcceptedAt.isNone &&
        row.leaseExpiresAt.any fun t => t < now))

/-- The claim takes over a delivery whose outcome nobody recorded. -/
def takesOver (row : RecipientRow) : Bool :=
  row.providerAcceptedAt.isNone && row.deliveryState = some .inProgress

/-- The SET list of `CLAIM_SQL`. -/
def reclaimed (cfg : DigestConfig) (now token tokensCount : Nat) (row : RecipientRow) :
    RecipientRow :=
  { row with
    status := .pending
    attemptCount := row.attemptCount + 1
    leaseExpiresAt := some (if takesOver row then cfg.uncertainUntil now else now + cfg.leaseMs)
    tokensCount := tokensCount
    claimToken := some token
    deliveryState :=
      if row.providerAcceptedAt.isSome then some .accepted
      else if row.deliveryState = some .inProgress then some .uncertain
      else none
    retryAfter := if takesOver row then some (cfg.uncertainUntil now) else none }

/-- The row that the INSERT of `CLAIM_SQL` makes. -/
def inserted (cfg : DigestConfig) (now token tokensCount : Nat) : RecipientRow :=
  { leaseExpiresAt := some (now + cfg.leaseMs), tokensCount := tokensCount
    claimToken := some token }

/-- `claimWeeklyDigestRecipient`: the row after the claim, if the claim holds. -/
def claimWeeklyDigestRecipient (cfg : DigestConfig) (now token tokensCount : Nat) :
    Option RecipientRow → Option RecipientRow
  | none => some (inserted cfg now token tokensCount)
  | some row => if claimable now row then some (reclaimed cfg now token tokensCount row) else none

/-! ## §2. The statements of a claim's holder. -/

/-- The WHERE of `ownedPendingSql`. -/
def ownedPending (token : Nat) (row : RecipientRow) : Bool :=
  row.status = .pending ∧ row.claimToken = some token

def updateRow (p : RecipientRow → Bool) (set : RecipientRow → RecipientRow)
    (row : Option RecipientRow) : Option RecipientRow :=
  (row.filter p).map set

def beginWeeklyDigestDelivery (cfg : DigestConfig) (now token : Nat) :
    Option RecipientRow → Option RecipientRow :=
  updateRow
    (fun row => ownedPending token row && row.providerAcceptedAt.isNone && idleOrRejected row)
    fun row =>
      { row with
        deliveryState := some .inProgress, retryAfter := none
        leaseExpiresAt := some (now + cfg.leaseMs) }

def renewWeeklyDigestClaimLease (cfg : DigestConfig) (now token : Nat) :
    Option RecipientRow → Option RecipientRow :=
  updateRow
    (fun row => ownedPending token row && row.deliveryState = some .inProgress &&
      row.providerAcceptedAt.isNone)
    fun row => { row with leaseExpiresAt := some (now + cfg.leaseMs) }

def markWeeklyDigestRecipientSent (token : Nat) : Option RecipientRow → Option RecipientRow :=
  updateRow (ownedPending token) fun row => { row with status := .sent, leaseExpiresAt := none }

def noteWeeklyDigestProviderAccepted (now token : Nat) :
    Option RecipientRow → Option RecipientRow :=
  updateRow (ownedPending token) fun row =>
    { row with
      providerAcceptedAt := some (row.providerAcceptedAt.getD now)
      deliveryState := some .accepted, retryAfter := none }

def noteWeeklyDigestRejected (cfg : DigestConfig) (now token : Nat) :
    Option RecipientRow → Option RecipientRow :=
  updateRow (fun row => ownedPending token row && row.providerAcceptedAt.isNone) fun row =>
    { row with deliveryState := some .rejected, leaseExpiresAt := some (now + cfg.leaseMs) }

def noteWeeklyDigestUncertain (cfg : DigestConfig) (now token : Nat) :
    Option RecipientRow → Option RecipientRow :=
  updateRow (fun row => ownedPending token row && row.providerAcceptedAt.isNone) fun row =>
    { row with
      deliveryState := some .uncertain, retryAfter := some (cfg.uncertainUntil now)
      leaseExpiresAt := some (cfg.uncertainUntil now) }

/-! ## §3. The provider's answer. -/

/-- A result of `deliver`, or an error it threw: the members that are read. -/
structure ProviderAnswer where
  success : Bool := false
  uncertain : Bool := false
  code : String := ""
  message : String := ""
  error : String := ""
deriving DecidableEq, Repr

/-- How a `deliver` call ends. -/
inductive DeliverOutcome
  | returned (answer : Option ProviderAnswer)
  | threw (error : ProviderAnswer)
deriving DecidableEq, Repr

/-- The words of the regular expression of `isUncertainProviderFailure`. -/
def UNCERTAIN_WORDS : List String :=
  ["timeout", "econnreset", "econnaborted", "eai_again", "esocket", "epipe"]

def occursIn (word : List Char) : List Char → Bool
  | [] => word.isEmpty
  | c :: rest => word.isPrefixOf (c :: rest) || occursIn word rest

/-- `isUncertainProviderFailure` of a value that is there. -/
def isUncertainProviderFailure (value : ProviderAnswer) : Bool :=
  value.uncertain ||
    UNCERTAIN_WORDS.any fun word =>
      occursIn word.toList
        ((value.code ++ " " ++ value.message ++ " " ++ value.error).toList.map Char.toLower)

/-- `uncertain` of `runOwnedDigestDelivery`. -/
def DeliverOutcome.isUncertain : DeliverOutcome → Bool
  | .returned answer => answer.any isUncertainProviderFailure
  | .threw error => isUncertainProviderFailure error

/-- `!thrown && result && result.success`. -/
def DeliverOutcome.isSuccess : DeliverOutcome → Bool
  | .returned answer => answer.any (·.success)
  | .threw _ => false

/-! ## §4. A digest run. -/

/-- Where a run stands.  A run that has not claimed yet is `claiming`, a run that
    is over (or has crashed) is `done`. -/
inductive Phase
  | claiming
  | claimed (token : Nat) (acceptedAt : Option Nat) (deliveryState : Option DeliveryState)
  /-- `beginWeeklyDigestDelivery` has committed, with the lease it wrote. -/
  | begun (token lease : Nat)
  | sending (token : Nat)
  | returned (token : Nat) (outcome : DeliverOutcome)
  | renewed (token : Nat) (outcome : DeliverOutcome)
  /-- The acceptance is recorded. -/
  | noted (token : Nat)
  | done
deriving DecidableEq, Repr

/-- A send that was started: the claim it was started under. -/
structure Send where
  token : Nat
  startedAt : Nat
deriving DecidableEq, Repr

/-- The row, the clock, the runs, and the sends that were started. -/
structure State where
  row : Option RecipientRow := none
  now : Nat := 0
  nextToken : Nat := 0
  runs : Nat → Phase := fun _ => .claiming
  sends : List Send := []

/-- Run `r` moves on. -/
def State.setPhase (s : State) (r : Nat) (phase : Phase) : State :=
  { s with runs := Function.update s.runs r phase }

/-- A statement of run `r`: the row it leaves and the phase after it, or the phase
    after a statement that matched no row. -/
def State.apply (s : State) (r : Nat) (result : Option RecipientRow) (hit miss : Phase) : State :=
  match result with
  | some row => { s with row := some row }.setPhase r hit
  | none => s.setPhase r miss

/-- `claim` of the recipient loop, and what it does with the claimed row. -/
def State.claim (cfg : DigestConfig) (r tokensCount : Nat) (s : State) : State :=
  match claimWeeklyDigestRecipient cfg s.now s.nextToken tokensCount s.row with
  | none => s.setPhase r .done
  | some row =>
    { s with row := some row, nextToken := s.nextToken + 1 }.setPhase r
      (.claimed s.nextToken row.providerAcceptedAt row.deliveryState)

/-- What follows the claim.  `consent` is the second check of the recipient. -/
def State.proceed (cfg : DigestConfig) (r token : Nat) (acceptedAt : Option Nat)
    (deliveryState : Option DeliveryState) (consent : Bool) (s : State) : State :=
  if acceptedAt.isSome then
    s.apply r (markWeeklyDigestRecipientSent token s.row) .done .done
  else if deliveryState = some .uncertain then s.setPhase r .done
  else if !consent then
    -- `releaseWeeklyDigestRecipientClaim`
    { s with row := s.row.filter fun row => !ownedPending token row }.setPhase r .done
  else
    s.apply r (beginWeeklyDigestDelivery cfg s.now token s.row)
      (.begun token (s.now + cfg.leaseMs)) .done

/-- What follows a renewal that held. -/
def State.note (cfg : DigestConfig) (r token : Nat) (outcome : DeliverOutcome) (s : State) : State :=
  if outcome.isUncertain then
    s.apply r (noteWeeklyDigestUncertain cfg s.now token s.row) .done .done
  else if !outcome.isSuccess then
    s.apply r (noteWeeklyDigestRejected cfg s.now token s.row) .done .done
  else
    s.apply r (noteWeeklyDigestProviderAccepted s.now token s.row) (.noted token) .done

/-- What may happen next.  A step that the phase of its run does not allow does
    nothing. -/
inductive Act
  | tick (ms : Nat)
  | claim (r tokensCount : Nat)
  | proceed (r : Nat) (consent : Bool)
  | send (r : Nat)
  /-- The renewal timer of a delivery in flight; its last query may still run after
      the answer. -/
  | renewTimer (r : Nat)
  | answer (r : Nat) (outcome : DeliverOutcome)
  | renew (r : Nat)
  | note (r : Nat)
  | markSent (r : Nat)
  | crash (r : Nat)
deriving DecidableEq, Repr

/-- The state after a step. -/
def next (cfg : DigestConfig) (s : State) : Act → State
  | .tick ms => { s with now := s.now + ms }
  | .claim r tokensCount =>
    match s.runs r with
    | .claiming => s.claim cfg r tokensCount
    | _ => s
  | .proceed r consent =>
    match s.runs r with
    | .claimed token acceptedAt deliveryState =>
      s.proceed cfg r token acceptedAt deliveryState consent
    | _ => s
  | .send r =>
    match s.runs r with
    | .begun token _ =>
      { s with sends := { token := token, startedAt := s.now } :: s.sends }.setPhase r
        (.sending token)
    | _ => s
  | .renewTimer r =>
    match s.runs r with
    | .sending token =>
      s.apply r (renewWeeklyDigestClaimLease cfg s.now token s.row) (.sending token)
        (.sending token)
    | .returned token outcome =>
      s.apply r (renewWeeklyDigestClaimLease cfg s.now token s.row) (.returned token outcome)
        (.returned token outcome)
    | _ => s
  | .answer r outcome =>
    match s.runs r with
    | .sending token => s.setPhase r (.returned token outcome)
    | _ => s
  | .renew r =>
    match s.runs r with
    | .returned token outcome =>
      s.apply r (renewWeeklyDigestClaimLease cfg s.now token s.row) (.renewed token outcome) .done
    | _ => s
  | .note r =>
    match s.runs r with
    | .renewed token outcome => s.note cfg r token outcome
    | _ => s
  | .markSent r =>
    match s.runs r with
    | .noted token => s.apply r (markWeeklyDigestRecipientSent token s.row) .done .done
    | _ => s
  | .crash r => s.setPhase r .done

/-- Any number of digest runs over one row. -/
def system (cfg : DigestConfig) : System State Act where
  init s := s = {}
  step s a t := t = next cfg s a

/-- Every delivery that was begun is started before the lease that its begin wrote
    is over. -/
def startsWithinLease (s : State) : Act → Prop
  | .send r => ∀ token lease, s.runs r = .begun token lease → s.now ≤ lease
  | _ => True

end TokenTimer.Worker.Digest
