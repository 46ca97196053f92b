/-
  TokenTimer.Delivery.Settlement — what the merged ledger holds, and what it leaves to
  be tried.

  Main results:
    * `mergedOutcomes_support` — an outcome comes from the ledger, the log or the pass.
    * `stillOpen_iff` — a channel is retried exactly while its outcome is open.
-/

import TokenTimer.Delivery.Ledger

namespace TokenTimer.Delivery

open Lib

/-! ## §1. Where an outcome comes from. -/

theorem foldLogRow_cases (env : Env) (outcomes : Dict Channel Outcome) (row : LogRow) :
    foldLogRow env outcomes row = outcomes ∨
      ∃ o, foldLogRow env outcomes row = outcomes.set row.channel o := by
  unfold foldLogRow
  dsimp only
  split
  · exact .inl rfl
  · split
    · exact .inl rfl
    · split
      · exact .inl rfl
      · split
        · split
          · exact .inr ⟨_, rfl⟩
          · exact .inl rfl
        · split
          · split
            · split
              · exact .inr ⟨_, rfl⟩
              · exact .inl rfl
            · exact .inr ⟨_, rfl⟩
          · split
            · exact .inl rfl
            · exact .inr ⟨_, rfl⟩

/-- A loop that only sets the keys of what it goes over. -/
theorem foldl_set_support {α β : Type} {d : Dict Channel α} {xs : List β}
    {f : Dict Channel α → β → Dict Channel α} {c : Channel} (key : β → Channel)
    (hf : ∀ d x, f d x = d ∨ ∃ a, f d x = d.set (key x) a)
    (h : (xs.foldl f d).get c ≠ none) : d.get c ≠ none ∨ ∃ x ∈ xs, key x = c := by
  induction xs generalizing d with
  | nil => exact .inl h
  | cons x xs ih =>
    cases ih h with
    | inr hlater =>
      obtain ⟨y, hy, hc⟩ := hlater
      exact .inr ⟨y, List.mem_cons_of_mem _ hy, hc⟩
    | inl hnow =>
      by_cases hc : key x = c
      · exact .inr ⟨x, List.mem_cons_self, hc⟩
      · left
        obtain hkeep | ⟨a, hset⟩ := hf d x
        · rwa [hkeep] at hnow
        · rw [hset, Dict.get_set_of_ne fun e => hc e.symm] at hnow
          exact hnow

variable {outcomes : Dict Channel Outcome} {env : Env} {rows : List LogRow}

theorem foldDeliveryLog_support {c : Channel} (h : (foldDeliveryLog env rows).get c ≠ none) :
    ∃ row ∈ rows, row.channel = c := by
  unfold foldDeliveryLog at h
  cases foldl_set_support LogRow.channel (foldLogRow_cases env) h with
  | inl hempty => exact absurd Dict.get_empty hempty
  | inr hrow => exact hrow

theorem overlayLog_support {c : Channel} (h : (overlayLog env outcomes rows).get c ≠ none) :
    outcomes.get c ≠ none ∨ ∃ row ∈ rows, row.channel = c := by
  unfold overlayLog at h
  cases foldl_set_support Prod.fst (fun _ _ => .inr ⟨_, rfl⟩) h with
  | inl hold => exact .inl hold
  | inr hlogged =>
    obtain ⟨e, he, hc⟩ := hlogged
    right
    apply @foldDeliveryLog_support env
    rw [← hc, Dict.mem_entries.mp he]
    simp

theorem overlayAttempts_support {attempted : List Attempt} {c : Channel}
    (h : (overlayAttempts outcomes attempted).get c ≠ none) :
    outcomes.get c ≠ none ∨ ∃ row ∈ attempted, row.channel = c := by
  unfold overlayAttempts at h
  refine foldl_set_support Attempt.channel (fun d x => ?_) h
  split
  · exact .inr ⟨_, rfl⟩
  · exact .inl rfl

theorem keepGeneration_support {stored : Stored} {c : Channel}
    (h : (keepGeneration stored outcomes).get c ≠ none) : outcomes.get c ≠ none := by
  unfold keepGeneration at h
  dsimp only at h
  split at h
  · rename_i outcome hwebhooks
    split at h
    · by_cases hc : c = .webhooks
      · rw [hc, hwebhooks]
        simp
      · rwa [Dict.get_set_of_ne hc] at h
    · exact h
  · exact h

theorem mergedOutcomes_support {prior : Stored} {attempted : List Attempt} {c : Channel}
    (h : (mergedOutcomes env prior rows attempted).get c ≠ none) :
    prior.outcomes.get c ≠ none ∨ (∃ row ∈ rows, row.channel = c) ∨
      ∃ row ∈ attempted, row.channel = c := by
  cases overlayAttempts_support (keepGeneration_support h) with
  | inr hattempted => exact .inr (.inr hattempted)
  | inl hlog =>
    cases overlayLog_support hlog with
    | inl hold => exact .inl hold
    | inr hrow => exact .inr (.inl hrow)

/-! ## §2. What is retried. -/

@[simp] theorem resultFromOutcome_channel (c : Channel) (o : Option Outcome) :
    (resultFromOutcome c o).channel = c := by
  cases o with
  | none => rfl
  | some outcome =>
    unfold resultFromOutcome
    dsimp only
    split
    · rfl
    · split
      · rfl
      · split
        · rfl
        · rfl

theorem stillOpen_iff (c : Channel) (o : Option Outcome) :
    stillOpen o = true ↔ (resultFromOutcome c o).success = false ∧
      (resultFromOutcome c o).retryable = true := by
  cases o with
  | none => simp [stillOpen, resultFromOutcome, Result.retryable]
  | some outcome =>
    by_cases hsent : outcome.state = .sent
    · simp [stillOpen, resultFromOutcome, hsent]
    · by_cases hpartial : outcome.state = .partially
      · cases hterminal : outcome.terminal <;>
          simp [stillOpen, resultFromOutcome, Result.retryable, hpartial, hterminal]
      · by_cases hblocked : outcome.state = .blocked
        · simp [stillOpen, resultFromOutcome, Result.retryable, hblocked]
        · cases hterminal : outcome.terminal <;>
            simp [stillOpen, resultFromOutcome, Result.retryable, hpartial, hblocked, hsent,
              hterminal]

theorem mem_queueDeliveryOutcome_channels {results : List Result} {c : Channel} :
    c ∈ (queueDeliveryOutcome results false).channels ↔
      ∃ r ∈ results, r.success = false ∧ r.retryable = true ∧ r.channel = c := by
  have hdisposition : (queueDeliveryOutcome results false).channels =
      (deliveryDisposition results).channels := by
    unfold queueDeliveryOutcome deliveryDisposition
    dsimp only
    split
    · simp
    · split
      · simp
      · split
        · simp
        · simp
  have hmem : ∀ r, r ∈ (results.filter fun row => !row.success).filter Result.retryable ↔
      r ∈ results ∧ r.success = false ∧ r.retryable = true := by
    intro r
    rw [List.mem_filter, List.mem_filter, and_assoc]
    simp
  rw [hdisposition]
  unfold deliveryDisposition
  dsimp only
  split
  · rename_i hnone
    rw [List.isEmpty_iff] at hnone
    simp only [List.not_mem_nil, false_iff]
    rintro ⟨r, hr, hsuccess, -⟩
    have : r ∈ results.filter fun row => !row.success := List.mem_filter.mpr ⟨hr, by simp [hsuccess]⟩
    rw [hnone] at this
    cases this
  · split
    · rename_i hnone
      rw [List.isEmpty_iff] at hnone
      simp only [List.not_mem_nil, false_iff]
      rintro ⟨r, hr, hsuccess, hretry, -⟩
      have := (hmem r).mpr ⟨hr, hsuccess, hretry⟩
      rw [hnone] at this
      cases this
    · rw [List.mem_map]
      constructor
      · rintro ⟨r, hr, hc⟩
        obtain ⟨hin, hsuccess, hretry⟩ := (hmem r).mp hr
        exact ⟨r, hin, hsuccess, hretry, hc⟩
      · rintro ⟨r, hin, hsuccess, hretry, hc⟩
        exact ⟨r, (hmem r).mpr ⟨hin, hsuccess, hretry⟩, hc⟩

theorem mem_deliveryChannelNames {c : Channel} {names : List Channel} :
    c ∈ deliveryChannelNames names ↔ c ∈ names ∧ c.safe = true :=
  List.mem_filter

section

variable {env : Env} {prior : Stored} {rows : List LogRow} {attempted : List Attempt}
  {live : List Channel} {c : Channel}

theorem mem_merged_channels :
    c ∈ (queueDeliveryOutcome (mergedResults env prior rows attempted live) false).channels ↔
      c ∈ requiredChannels live (mergedOutcomes env prior rows attempted) ∧
        stillOpen ((mergedOutcomes env prior rows attempted).get c) = true := by
  rw [mem_queueDeliveryOutcome_channels]
  unfold mergedResults
  constructor
  · rintro ⟨r, hr, hsuccess, hretry, hc⟩
    obtain ⟨c', hc', rfl⟩ := List.mem_map.mp hr
    rw [resultFromOutcome_channel] at hc
    subst hc
    exact ⟨hc', (stillOpen_iff _ _).mpr ⟨hsuccess, hretry⟩⟩
  · rintro ⟨hin, hopen⟩
    obtain ⟨hsuccess, hretry⟩ := (stillOpen_iff c _).mp hopen
    exact ⟨_, List.mem_map_of_mem hin, hsuccess, hretry, resultFromOutcome_channel _ _⟩

theorem get_mergedLedger_outcomes : (mergedLedger env prior rows attempted live).outcomes.get c =
    if c.safe ∧ c ∈ requiredChannels live (mergedOutcomes env prior rows attempted) then
      (mergedOutcomes env prior rows attempted).get c
    else none := by
  show (((mergedOutcomes env prior rows attempted).filterKeys _).filterKeys Channel.safe).get c = _
  rw [Dict.get_filterKeys, Dict.get_filterKeys]
  by_cases hsafe : c.safe = true
  · by_cases hin : c ∈ requiredChannels live (mergedOutcomes env prior rows attempted)
    · simp [hsafe, hin]
    · simp [hsafe, hin]
  · simp [hsafe]

theorem mem_requiredChannels (hlive : c ∈ live) (hsafe : c.safe = true)
    (outcomes : Dict Channel Outcome) : c ∈ requiredChannels live outcomes := by
  have hin : c ∈ deliveryChannelNames live := mem_deliveryChannelNames.mpr ⟨hlive, hsafe⟩
  unfold requiredChannels
  dsimp only
  rw [if_neg (by simp [List.ne_nil_of_mem hin])]
  exact hin

/-! ## §3. A status nothing is retried from. -/

theorem sent_iff {results : List Result} {forced : Bool} :
    (queueDeliveryOutcome results forced).status = .sent ↔
      forced = false ∧ ∀ r ∈ results, r.success = true := by
  have hdisposition : (deliveryDisposition results).status = .sent ↔
      ∀ r ∈ results, r.success = true := by
    have hnone : (results.filter fun row => !row.success).isEmpty = true ↔
        ∀ r ∈ results, r.success = true := by
      rw [List.isEmpty_iff, List.filter_eq_nil_iff]
      simp
    rw [← hnone]
    unfold deliveryDisposition
    dsimp only
    split
    · rename_i h
      simp [h]
    · rename_i h
      split
      · split
        · simp [h]
        · simp [h]
      · split
        · simp [h]
        · simp [h]
  rw [← hdisposition]
  cases forced with
  | true | false => simp [queueDeliveryOutcome]

theorem settled_of_stuck
    (h : (queueDeliveryOutcome (mergedResults env prior rows attempted live) false).status = .blocked ∨
      (queueDeliveryOutcome (mergedResults env prior rows attempted live) false).channels = [])
    (hin : c ∈ requiredChannels live (mergedOutcomes env prior rows attempted)) :
    stillOpen ((mergedOutcomes env prior rows attempted).get c) = false := by
  by_contra hopen
  have hretry := mem_merged_channels.mpr ⟨hin, by simpa using hopen⟩
  cases h with
  | inr hnone =>
    rw [hnone] at hretry
    cases hretry
  | inl hblocked =>
    -- a status that is `blocked` has no channel to retry
    unfold queueDeliveryOutcome at hblocked hretry
    dsimp only at hblocked hretry
    rw [if_neg (by simp)] at hblocked
    rw [hblocked] at hretry
    simp at hretry

end

end TokenTimer.Delivery
