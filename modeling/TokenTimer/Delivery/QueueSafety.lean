/-
  TokenTimer.Delivery.QueueSafety — no live channel is lost, as long as the ledger a
  pass claims covers the channels that are live.

  Discovery rewrites the retry set, delivery intersects it with the live channels.  A
  channel that becomes live after the row has a ledger is in no retry set until a
  discovery pass or a settlement has seen it; a delivery pass that runs first finds
  nothing to retry and closes the row.

  Main results:
    * `LedgerOk`, `Inv.step` — what the ledger holds has been tried, and what it
        retries is open.
    * `no_live_channel_lost` — the property, on every run whose closing writes meet
        `Covered`.
-/

import TokenTimer.Delivery.Queue
import TokenTimer.Delivery.Settlement
import Mathlib.Data.List.Dedup

namespace TokenTimer.Delivery

open Lib Lib.Runs

variable {cfg : Config} {tried tried' : List Channel} {stored : Stored} {c : Channel}

/-! ## §1. What a stored ledger may hold. -/

/-- The channels it has outcomes of have been tried; the channels it retries are open. -/
structure LedgerOk (tried : List Channel) (stored : Stored) : Prop where
  supported : stored ≠ .unsupported
  listed : stored.isLegacy = true → stored.retry ≠ []
  tried : ∀ c, stored.outcomes.get c ≠ none → c ∈ tried
  open_ : stored.isLegacy = false → ∀ c ∈ stored.retry, stillOpen (stored.outcomes.get c) = true

theorem LedgerOk.mono (h : LedgerOk tried stored) (hsub : ∀ c ∈ tried, c ∈ tried') :
    LedgerOk tried' stored :=
  { h with tried := fun c hc => hsub c (h.tried c hc) }

variable {outcomes : Dict Channel Outcome} {e : Event} {live required retry : List Channel}
  {p : Pass} {row : Row}

theorem LedgerOk.legacy (h : deliveryChannelNames retry ≠ []) :
    LedgerOk tried (.legacy retry) where
  supported := by simp
  listed _ := h
  tried c hc := absurd Dict.get_empty hc
  open_ h := by cases h

/-- What a ledger has of a channel, as `deliveryData` reads it. -/
theorem get_ledger_outcomes :
    (Stored.ledger retry required outcomes).outcomes.get c =
      if c.safe then outcomes.get c else none :=
  Dict.get_filterKeys

theorem mem_ledger_retry :
    c ∈ (Stored.ledger retry required outcomes).retry ↔ c ∈ retry ∧ c.safe = true :=
  mem_deliveryChannelNames

/-- A channel of a ledger that is read safely. -/
theorem safe_of_get_outcomes (h : stored.outcomes.get c ≠ none) : c.safe = true := by
  cases stored with
  | legacy | unsupported => exact absurd Dict.get_empty h
  | ledger retry required outcomes =>
    rw [get_ledger_outcomes] at h
    by_contra hsafe
    simp [hsafe] at h

theorem LedgerOk.ledger (htried : ∀ c, c.safe = true → outcomes.get c ≠ none → c ∈ tried)
    (hopen : ∀ c ∈ retry, c.safe = true → stillOpen (outcomes.get c) = true) :
    LedgerOk tried (.ledger retry required outcomes) where
  supported := by simp
  listed h := by cases h
  tried c hc := by
    have hsafe := safe_of_get_outcomes hc
    rw [get_ledger_outcomes, if_pos hsafe] at hc
    exact htried c hsafe hc
  open_ _ c hc := by
    obtain ⟨hin, hsafe⟩ := mem_ledger_retry.mp hc
    rw [get_ledger_outcomes, if_pos hsafe]
    exact hopen c hin hsafe

/-! ## §2. Each write keeps it. -/

theorem LedgerOk.reconcile {next : Stored} (h : LedgerOk tried stored)
    (hnext : reconcileDeliveryChannels stored live = some next) : LedgerOk tried next := by
  cases stored with
  | unsupported => exact absurd rfl h.supported
  | legacy retry =>
    obtain ⟨-, rfl⟩ := of_not_guard hnext
    apply LedgerOk.legacy
    have hlisted : (Stored.legacy retry).retry ≠ [] := h.listed rfl
    unfold reconciledList
    dsimp only
    rw [if_neg (by simpa using hlisted)]
    split
    · -- nothing in common: the list stays
      intro hnil
      apply hlisted
      have hself : deliveryChannelNames (Stored.legacy retry).retry = (Stored.legacy retry).retry :=
        List.filter_eq_self.mpr fun c hc => (mem_deliveryChannelNames.mp hc).2
      rw [← hself]
      exact hnil
    · rename_i hsome
      obtain ⟨c, hc⟩ := List.exists_mem_of_ne_nil
        ((deliveryChannelNames live).filter fun channel => channel ∈ (Stored.legacy retry).retry)
        (by simpa using hsome)
      have hlive := (mem_deliveryChannelNames.mp (List.mem_of_mem_filter hc)).2
      exact List.ne_nil_of_mem (mem_deliveryChannelNames.mpr ⟨hc, hlive⟩)
  | ledger retry required outcomes =>
    obtain ⟨-, rfl⟩ := of_not_guard hnext
    apply LedgerOk.ledger
    · intro c _ hc
      rw [Dict.get_filterKeys] at hc
      apply h.tried c
      intro hnone
      simp [hnone] at hc
    · intro c hc _
      obtain ⟨hlive, hopen⟩ := List.mem_filter.mp hc
      rw [Dict.get_filterKeys, if_pos (by simpa using hlive)]
      exact hopen

variable {rows : List LogRow} {attempted : List Attempt} {claimId : Nat} {asset : Asset}

theorem LedgerOk.merged (env : Env) (live : List Channel) (h : LedgerOk tried stored)
    (hrows : ∀ r ∈ rows, r.channel ∈ tried) (hattempted : ∀ r ∈ attempted, r.channel ∈ tried) :
    LedgerOk tried (mergedLedger env stored rows attempted live) := by
  have houtcomes : ∀ c, (mergedOutcomes env stored rows attempted).get c ≠ none → c ∈ tried := by
    intro c hc
    obtain hold | ⟨r, hr, rfl⟩ | ⟨r, hr, rfl⟩ := mergedOutcomes_support hc
    · exact h.tried c hold
    · exact hrows r hr
    · exact hattempted r hr
  apply LedgerOk.ledger
  · intro c _ hc
    rw [Dict.get_filterKeys] at hc
    apply houtcomes c
    intro hnone
    simp [hnone] at hc
  · intro c hc hsafe
    obtain ⟨hin, hopen⟩ := mem_merged_channels.mp hc
    rw [Dict.get_filterKeys, if_pos (by simpa using hin)]
    exact hopen

theorem LedgerOk.withoutRetry (h : LedgerOk tried stored) : LedgerOk tried stored.withoutRetry := by
  cases stored with
  | legacy | unsupported => exact h
  | ledger retry required outcomes =>
    apply LedgerOk.ledger
    · intro c hsafe hc
      apply h.tried c
      rwa [get_ledger_outcomes, if_pos hsafe]
    · intro c hc
      cases hc

theorem stillOpen_reopen (channel : Channel) (outcome : Outcome) :
    stillOpen (some (reopen channel outcome)) = true := by
  simp [stillOpen, reopen]

theorem LedgerOk.bulk (h : LedgerOk tried stored) : LedgerOk tried (bulkRequeueWebhook stored) := by
  cases stored with
  | legacy | unsupported => exact h
  | ledger retry required outcomes =>
    have hget : ∀ c, c.safe = true →
        (Stored.ledger retry required outcomes).outcomes.get c = outcomes.get c := by
      intro c hsafe
      rw [get_ledger_outcomes, if_pos hsafe]
    unfold bulkRequeueWebhook
    dsimp only
    split
    · rename_i outcome hwebhooks
      split
      · apply LedgerOk.ledger
        · intro c hsafe hc
          apply h.tried c
          rw [hget c hsafe]
          by_cases hweb : c = .webhooks
          · rw [hweb, hwebhooks]
            simp
          · rwa [Dict.get_set_of_ne hweb] at hc
        · intro c hc hsafe
          by_cases hweb : c = .webhooks
          · rw [hweb, Dict.get_set_self]
            exact stillOpen_reopen _ _
          · rw [Dict.get_set_of_ne hweb, ← hget c hsafe]
            apply h.open_ rfl c
            apply mem_ledger_retry.mpr
            refine ⟨?_, hsafe⟩
            split at hc
            · exact hc
            · simpa [hweb] using hc
      · exact h
    · exact h

theorem retriedOutcomes_spec {channel : Channel}
    (hsent : (outcomes.get channel).any (·.state = .sent) = false)
    (hrefused :
    ((outcomes.get channel).any isEligibilityOutcome && !canRecheckRecipientOutcome channel (outcomes.get channel)) = false) :
    (∀ c, (retriedOutcomes channel outcomes).get c ≠ none → outcomes.get c ≠ none) ∧
      stillOpen ((retriedOutcomes channel outcomes).get channel) = true := by
  unfold retriedOutcomes
  split
  · refine ⟨fun c hc hnone => ?_, ?_⟩
    · rw [Dict.get_erase] at hc
      simp [hnone] at hc
    · rw [Dict.get_erase]
      simp [stillOpen]
  · rename_i hrecheck
    split
    · rename_i outcome houtcome
      split
      · refine ⟨fun c hc => ?_, ?_⟩
        · by_cases hchannel : c = channel
          · rw [hchannel, houtcome]
            simp
          · rwa [Dict.get_set_of_ne hchannel] at hc
        · rw [Dict.get_set_self]
          exact stillOpen_reopen _ _
      · rename_i hprovider
        refine ⟨fun c hc => hc, ?_⟩
        rw [houtcome] at hsent hrefused hrecheck ⊢
        simp only [Option.any_some, decide_eq_false_iff_not] at hsent
        have heligible : isEligibilityOutcome outcome = false := by
          simpa [hrecheck] using hrefused
        simpa [providerTerminalOutcome, hsent, heligible, stillOpen] using hprovider
    · rename_i hnone
      refine ⟨fun c hc => hc, ?_⟩
      rw [hnone]
      rfl

theorem LedgerOk.planned {requested : Option Channel} {plan : RetryPlan}
    (h : LedgerOk tried stored) (hplan : planManualRetry stored requested = .ok plan) :
    LedgerOk tried plan.channels := by
  unfold planManualRetry at hplan
  split at hplan
  · dsimp only at hplan
    split at hplan
    · cases hplan
    · split at hplan
      · rename_i channel _ hin
        cases hplan
        apply LedgerOk.legacy
        have hsafe : channel.safe = true := by
          cases stored with
          | legacy | ledger => exact (mem_deliveryChannelNames.mp hin).2
          | unsupported => cases hin
        exact List.ne_nil_of_mem (mem_deliveryChannelNames.mpr ⟨List.mem_singleton.mpr rfl, hsafe⟩)
      · cases hplan
  · dsimp only at hplan
    generalize (if stored.required.isEmpty then stored.outcomes.keys else stored.required) = known
      at hplan
    split at hplan
    · cases hplan
    · split at hplan
      · cases hplan
      · split at hplan
        · cases hplan
        · split at hplan
          · cases hplan
          · rename_i channel _ hsent hrefused _
            cases hplan
            obtain ⟨hsub, hopen⟩ := retriedOutcomes_spec (by simpa using hsent)
              (by simpa using hrefused)
            apply LedgerOk.ledger
            · intro c _ hc
              exact h.tried c (hsub c hc)
            · intro c hc _
              rw [List.mem_singleton.mp hc]
              exact hopen

/-! ## §3. A discovery pass over the row. -/

theorem rediscovered_cases (defaults : List ℚ) (asset : Asset) (day : Int) (row : Row) :
    row.rediscovered defaults asset day = row ∨
      row.rediscovered defaults asset day =
        row.reconcile (discoveryChannels defaults asset row.thresholdDays) := by
  unfold Row.rediscovered discoverPass
  cases hfound : discover defaults asset day with
  | none => exact .inl rfl
  | some found =>
    dsimp only
    unfold queueFound
    cases hz : asInteger found.window.thresholdReached with
    | none => exact .inl rfl
    | some z =>
      dsimp only
      by_cases hfor : row.isFor found.window = true
      · right
        have hthreshold : (row.thresholdDays : ℚ) = found.window.thresholdReached := by
          simp only [Row.isFor, Bool.and_eq_true, decide_eq_true_eq] at hfor
          exact hfor.2
        simp [hfor, discover_channels hfound, hthreshold]
      · left
        rw [if_neg (by simpa using hfor)]
        split
        · rfl
        · split
          · rfl
          · rfl

theorem reconcile_cases (row : Row) (live : List Channel) : row.reconcile live = row ∨
    ∃ next, reconcileDeliveryChannels row.channels live = some next ∧
      row.reconcile live = { row with channels := next } := by
  unfold Row.reconcile
  split
  · cases hnext : reconcileDeliveryChannels row.channels live with
    | none => exact .inl rfl
    | some next => exact .inr ⟨next, rfl, rfl⟩
  · exact .inl rfl

theorem rediscovered_channels (defaults : List ℚ) (asset : Asset) (day : Int) (row : Row) :
    row.rediscovered defaults asset day = row ∨
      ∃ next, reconcileDeliveryChannels row.channels
          (discoveryChannels defaults asset row.thresholdDays) = some next ∧
        row.rediscovered defaults asset day = { row with channels := next } := by
  obtain hsame | hreconciled := rediscovered_cases defaults asset day row
  · exact .inl hsame
  · rw [hreconciled]
    exact reconcile_cases row _

theorem thresholdDays_rediscovered (defaults : List ℚ) (asset : Asset) (day : Int) (row : Row) :
    (row.rediscovered defaults asset day).thresholdDays = row.thresholdDays := by
  obtain hsame | ⟨next, -, hnext⟩ := rediscovered_channels defaults asset day row
  · rw [hsame]
  · rw [hnext]

theorem LedgerOk.rediscovered (h : LedgerOk tried row.channels) (defaults : List ℚ) (asset : Asset)
    (day : Int) :
    LedgerOk tried (row.rediscovered defaults asset day).channels := by
  obtain hsame | ⟨next, hreconcile, hnext⟩ := rediscovered_channels defaults asset day row
  · rwa [hsame]
  · rw [hnext]
    exact h.reconcile hreconcile

/-! ## §4. The invariant. -/

variable {s t : State}

/-- A pass works on a row that was right, and on channels that count as tried. -/
structure PassOk (s : State) (p : Pass) : Prop where
  ledger : LedgerOk s.tried p.before.channels
  logRows : ∀ r ∈ p.logRows, r.channel ∈ s.tried
  started : ∀ c ∈ p.started, c ∈ s.tried
  threshold : p.before.thresholdDays = s.row.thresholdDays

structure Inv (s : State) : Prop where
  ledger : LedgerOk s.tried s.row.channels
  log : ∀ r ∈ s.log, r.channel ∈ s.tried
  passes : ∀ p ∈ s.passes, PassOk s p

theorem PassOk.frame (h : PassOk s p) (htried : ∀ c ∈ s.tried, c ∈ t.tried)
    (hthreshold : t.row.thresholdDays = s.row.thresholdDays) : PassOk t p where
  ledger := h.ledger.mono htried
  logRows r hr := htried _ (h.logRows r hr)
  started c hc := htried c (h.started c hc)
  threshold := h.threshold.trans hthreshold.symm

/-- A step that keeps its passes, or leaves right ones. -/
theorem Inv.frame (h : Inv s) (htried : ∀ c ∈ s.tried, c ∈ t.tried)
    (hledger : LedgerOk t.tried t.row.channels)
    (hthreshold : t.row.thresholdDays = s.row.thresholdDays)
    (hlog : ∀ r ∈ t.log, r.channel ∈ t.tried) (hpasses : ∀ p ∈ t.passes, p ∈ s.passes ∨ PassOk t p) :
    Inv t where
  ledger := hledger
  log := hlog
  passes p hp := by
    obtain hold | hnew := hpasses p hp
    · exact (h.passes p hold).frame htried hthreshold
    · exact hnew

theorem Inv.write (h : Inv s) (row : Row) (hledger : LedgerOk s.tried row.channels)
    (hthreshold : row.thresholdDays = s.row.thresholdDays) : Inv { s with row := row } :=
  h.frame (fun _ hc => hc) hledger hthreshold h.log fun _ hp => .inl hp

theorem Inv.finish (h : Inv s) (claimId : Nat) {write : Row → Row}
    (hledger : LedgerOk s.tried (write s.row).channels)
    (hthreshold : (write s.row).thresholdDays = s.row.thresholdDays) :
    Inv (s.finish claimId write) := by
  refine h.frame (fun _ hc => hc) ?_ ?_ h.log fun p hp => .inl (List.mem_of_mem_filter hp)
  · show LedgerOk s.tried (if s.owned claimId then write s.row else s.row).channels
    split
    · exact hledger
    · exact h.ledger
  · show (if s.owned claimId then write s.row else s.row).thresholdDays = _
    split
    · exact hthreshold
    · rfl

theorem mem_of_pass (h : s.pass claimId = some p) : p ∈ s.passes :=
  List.mem_of_find?_eq_some h

theorem Inv.ofInit (h : Init cfg s) : Inv s := by
  obtain ⟨⟨asset, day, hrow⟩, hlog, hpasses, htried⟩ := h
  refine ⟨?_, by simp [hlog], by simp [hpasses]⟩
  unfold queuedRow at hrow
  obtain ⟨found, hfound, hrow⟩ := Option.bind_eq_some_iff.mp hrow
  obtain ⟨z, -, hrow⟩ := Option.bind_eq_some_iff.mp hrow
  split at hrow
  · cases hrow
  · rename_i hsome
    rw [← Option.some.inj hrow]
    apply LedgerOk.legacy
    rw [discover_channels hfound, deliveryChannelNames_discoveryChannels, ← discover_channels hfound]
    simpa using hsome

theorem Inv.step (h : Inv s) (hstep : next cfg s e = some t) : Inv t := by
  cases e with
  | wait | configure | readSettings =>
    cases hstep
    exact h.frame (fun _ hc => hc) h.ledger rfl h.log fun _ hp => .inl hp
  | discover settings day =>
    obtain ⟨-, rfl⟩ := of_guard hstep
    exact h.write _ (h.ledger.rediscovered _ _ _) (thresholdDays_rediscovered _ _ _ _)
  | claim =>
    obtain ⟨-, rfl⟩ := of_guard hstep
    refine h.frame (fun _ hc => hc) h.ledger rfl h.log fun p hp => ?_
    cases List.mem_append.mp hp with
    | inl hold => exact .inl hold
    | inr hnew =>
      rw [List.mem_singleton.mp hnew]
      exact .inr ⟨h.ledger, by simp, by simp, rfl⟩
  | renew claimId =>
    obtain ⟨-, rfl⟩ := of_guard hstep
    exact h.write _ h.ledger rfl
  | abandon claimId =>
    cases hstep
    exact h.frame (fun _ hc => hc) h.ledger rfl h.log fun p hp => .inl (List.mem_of_mem_filter hp)
  | readLog claimId fails =>
    cases hstep
    refine h.frame (fun _ hc => hc) h.ledger rfl h.log fun p hp => ?_
    obtain ⟨q, hq, rfl⟩ := List.mem_map.mp hp
    split
    · right
      refine { h.passes q hq with logRows := fun r hr => ?_ }
      cases fails with
      | true => cases hr
      | false => exact h.log r hr
    · exact .inl hq
  | start claimId =>
    simp only [next] at hstep
    obtain ⟨p, -, hstep⟩ := Option.bind_eq_some_iff.mp hstep
    obtain ⟨channel, -, rfl⟩ := Option.map_eq_some_iff.mp hstep
    have htried : ∀ c ∈ s.tried, c ∈ channel :: s.tried := fun c hc => List.mem_cons_of_mem _ hc
    refine h.frame htried (h.ledger.mono htried) rfl (fun r hr => htried _ (h.log r hr)) fun p hp => ?_
    obtain ⟨q, hq, rfl⟩ := List.mem_map.mp hp
    split
    · right
      have hold := (h.passes q hq).frame (t := { s with tried := channel :: s.tried }) htried rfl
      refine { hold with started := fun c hc => ?_ }
      cases List.mem_append.mp hc with
      | inl hbefore => exact hold.started c hbefore
      | inr hnow =>
        rw [List.mem_singleton.mp hnow]
        exact List.mem_cons_self
    · exact .inl hq
  | writeLog row =>
    obtain ⟨htried, rfl⟩ := of_guard hstep
    refine h.frame (fun _ hc => hc) h.ledger rfl (fun r hr => ?_) fun _ hp => .inl hp
    cases List.mem_append.mp hr with
    | inl hold => exact h.log r hold
    | inr hnew =>
      rw [List.mem_singleton.mp hnew]
      exact htried
  | discard claimId | postpone claimId =>
    obtain ⟨p, -, rfl⟩ := Option.map_eq_some_iff.mp hstep
    exact h.finish claimId h.ledger rfl
  | block claimId | noContacts claimId =>
    simp only [next] at hstep
    obtain ⟨p, -, hstep⟩ := Option.bind_eq_some_iff.mp hstep
    obtain ⟨-, rfl⟩ := of_guard hstep
    exact h.finish claimId h.ledger rfl
  | idle claimId nextAttemptAt =>
    simp only [next] at hstep
    obtain ⟨p, hp, hstep⟩ := Option.bind_eq_some_iff.mp hstep
    obtain ⟨-, rfl⟩ := of_guard hstep
    have hpass := h.passes p (mem_of_pass hp)
    exact h.finish claimId (LedgerOk.merged cfg.env p.live hpass.ledger hpass.logRows (by simp)) rfl
  | settle claimId results whatsapp maxAttempts nextAttemptAt =>
    simp only [next] at hstep
    obtain ⟨p, hp, hstep⟩ := Option.bind_eq_some_iff.mp hstep
    obtain ⟨hguard, rfl⟩ := of_guard hstep
    have hpass := h.passes p (mem_of_pass hp)
    have hattempted : ∀ r ∈ results, r.channel ∈ s.tried := by
      intro r hr
      apply hpass.started
      rw [hguard.2.1, ← hguard.2.2]
      exact List.mem_map_of_mem hr
    have hledger := LedgerOk.merged cfg.env p.settlementChannels hpass.ledger hpass.logRows
      hattempted
    refine h.finish claimId ?_ rfl
    show LedgerOk s.tried (if whatsapp then (p.settledLedger cfg results).withoutRetry
      else p.settledLedger cfg results)
    split
    · exact hledger.withoutRetry
    · exact hledger
  | requeue =>
    obtain ⟨-, rfl⟩ := of_guard hstep
    exact h.write _ h.ledger.bulk rfl
  | retry requested =>
    obtain ⟨-, hstep⟩ := Option.ite_none_right_eq_some.mp hstep
    split at hstep
    · rename_i plan hplan
      cases hstep
      exact h.write _ (h.ledger.planned hplan) rfl
    · cases hstep

/-! ## §5. When a row is given up. -/

/-- A status from which the row is not claimed again on its own. -/
def Stuck (row : Row) : Prop :=
  row.status = .blocked ∨ (row.status = .partially ∧ row.channels.exhausted = true)

/-- The pass whose closing write an event is, unless a provider's refusal or the
    attempt limit forces the status. -/
def Event.closing : Event → Option Nat
  | .block claimId => some claimId
  | .idle claimId _ => some claimId
  | .settle claimId _ whatsappPermanentFailure reachedMaxAttempts _ =>
    if whatsappPermanentFailure || reachedMaxAttempts then none else some claimId
  | _ => none

/-- No live channel is lost: each has been tried, and a discovery pass right before
    the claim would have had the same channels attempted. -/
structure NothingLost (cfg : Config) (s : State) (p : Pass) : Prop where
  tried : ∀ c ∈ liveChannels s.asset s.row, c ∈ s.tried
  undisturbed : ∀ day c,
    c ∈ finalChannels p.asset (p.before.rediscovered cfg.defaultThresholds p.asset day) ↔ c ∈ p.final

/-- What the pass claimed covers the channels that are live. -/
structure PassCovered (cfg : Config) (s : State) (p : Pass) : Prop where
  /-- No channel has become live since the claim. -/
  current : ∀ c ∈ liveChannels s.asset s.row, c ∈ p.live
  /-- On a retry, discovery and delivery take the same channels from the settings. -/
  agreed : 0 < p.before.attempts → ∀ c,
    c ∈ discoveryChannels cfg.defaultThresholds p.asset p.before.thresholdDays ↔ c ∈ p.live
  /-- On a retry, a live channel that the ledger has no settled outcome of is in its
      retry set. -/
  retried : 0 < p.before.attempts → p.before.channels.isLegacy = false → ∀ c ∈ p.live,
    stillOpen (p.before.channels.outcomes.get c) = true → c ∈ p.before.channels.retry

/-- Every closing write is of a pass that is covered. -/
def Covered (cfg : Config) (s : State) (e : Event) : Prop :=
  ∀ claimId, e.closing = some claimId → ∀ p, s.pass claimId = some p → PassCovered cfg s p

/-! ## §6. The channels a pass attempts. -/

theorem mem_finalChannels : c ∈ finalChannels asset row ↔
    c ∈ liveChannels asset row ∧ (0 < row.attempts → c ∈ row.channels.retry) := by
  unfold finalChannels channelsForDeliveryAttempt
  by_cases hattempts : 0 < row.attempts
  · simp [hattempts]
  · simp [hattempts]

theorem safe_of_live (h : c ∈ liveChannels asset row) :
    c.safe = true := by
  have hlive : deliveryChannelNames (liveChannels asset row) = liveChannels asset row :=
    safe_channelsWhere
  rw [← hlive] at h
  exact (mem_deliveryChannelNames.mp h).2

/-- Reconciling with the live channels keeps which of them are retried. -/
theorem mem_reconciled_retry {next : Stored} (h : LedgerOk tried stored)
    (hnext : reconcileDeliveryChannels stored live = some next) (hlive : c ∈ live)
    (hsafe : c.safe = true)
    (hretried : stored.isLegacy = false → stillOpen (stored.outcomes.get c) = true → c ∈ stored.retry) :
    c ∈ next.retry ↔ c ∈ stored.retry := by
  have hin : c ∈ deliveryChannelNames live := mem_deliveryChannelNames.mpr ⟨hlive, hsafe⟩
  cases stored with
  | unsupported => exact absurd rfl h.supported
  | legacy retry =>
    obtain ⟨-, rfl⟩ := of_not_guard hnext
    show c ∈ deliveryChannelNames (reconciledList _ _) ↔ _
    rw [mem_deliveryChannelNames]
    have hlisted : (Stored.legacy retry).retry ≠ [] := h.listed rfl
    unfold reconciledList
    dsimp only
    rw [if_neg (by simpa using hlisted)]
    split
    · exact ⟨fun hc => hc.1, fun hc => ⟨hc, hsafe⟩⟩
    · constructor
      · rintro ⟨hc, -⟩
        simpa using (List.mem_filter.mp hc).2
      · intro hc
        exact ⟨List.mem_filter.mpr ⟨hin, by simpa using hc⟩, hsafe⟩
  | ledger retry required outcomes =>
    obtain ⟨-, rfl⟩ := of_not_guard hnext
    unfold reconciledLedger
    rw [mem_ledger_retry, List.mem_filter]
    constructor
    · rintro ⟨⟨-, hopen⟩, -⟩
      exact hretried rfl hopen
    · intro hc
      exact ⟨⟨hin, h.open_ rfl c hc⟩, hsafe⟩

theorem PassCovered.undisturbed (h : PassCovered cfg s p) (hledger : LedgerOk tried p.before.channels)
    (day : Int) :
    c ∈ finalChannels p.asset (p.before.rediscovered cfg.defaultThresholds p.asset day) ↔
      c ∈ p.final := by
  obtain hsame | ⟨next, hreconcile, hnext⟩ :=
    rediscovered_channels cfg.defaultThresholds p.asset day p.before
  · rw [hsame]
    rfl
  · rw [hnext]
    show c ∈ finalChannels p.asset { p.before with channels := next } ↔
      c ∈ finalChannels p.asset p.before
    rw [mem_finalChannels, mem_finalChannels]
    apply and_congr_right
    intro hlive
    have hlive : c ∈ p.live := hlive
    by_cases hattempts : 0 < p.before.attempts
    · have hretry : c ∈ next.retry ↔ c ∈ p.before.channels.retry :=
        mem_reconciled_retry hledger hreconcile ((h.agreed hattempts c).mpr hlive)
          (safe_of_live hlive) fun hlegacy hopen => h.retried hattempts hlegacy c hlive hopen
      exact ⟨fun hc _ => hretry.mp (hc hattempts), fun hc _ => hretry.mpr (hc hattempts)⟩
    · exact ⟨fun _ hpos => absurd hpos hattempts, fun _ hpos => absurd hpos hattempts⟩

/-! ## §7. The channels that are live have been tried. -/

theorem tried_of_block (h : PassCovered cfg s p) (hpass : PassOk s p)
    (hlegacy : p.before.channels.isLegacy = false) (hfinal : p.final = []) :
    ∀ c ∈ p.live, c ∈ s.tried := by
  intro c hlive
  have hnot : c ∉ p.final := by simp [hfinal]
  have hattempts : 0 < p.before.attempts := by
    by_contra hzero
    exact hnot (mem_finalChannels.mpr ⟨hlive, fun hpos => absurd hpos hzero⟩)
  apply hpass.ledger.tried
  intro hnone
  apply hnot
  refine mem_finalChannels.mpr ⟨hlive, fun _ => h.retried hattempts hlegacy c hlive ?_⟩
  rw [hnone]
  rfl

theorem tried_of_merged {results : List Attempt} (hpass : PassOk s p)
    (hresults : ∀ r ∈ results, r.channel ∈ s.tried) (hsub : ∀ c ∈ p.live, c ∈ live)
    (hstuck :
    (queueDeliveryOutcome (mergedResults cfg.env p.before.channels p.logRows results live) false).status = .blocked ∨ (queueDeliveryOutcome (mergedResults cfg.env p.before.channels p.logRows results live) false).channels = []) :
    ∀ c ∈ p.live, c ∈ s.tried := by
  intro c hlive
  have hin := mem_requiredChannels (hsub c hlive) (safe_of_live hlive)
    (mergedOutcomes cfg.env p.before.channels p.logRows results)
  have hclosed := settled_of_stuck hstuck hin
  have hsome : (mergedOutcomes cfg.env p.before.channels p.logRows results).get c ≠ none := by
    intro hnone
    rw [hnone] at hclosed
    cases hclosed
  obtain hold | ⟨r, hr, rfl⟩ | ⟨r, hr, rfl⟩ := mergedOutcomes_support hsome
  · exact hpass.ledger.tried c hold
  · exact hpass.logRows r hr
  · exact hresults r hr

theorem stuck_merged {env : Env}
    (hchannels : row.channels = mergedLedger env stored rows attempted live)
    (hstatus :
    row.status = (queueDeliveryOutcome (mergedResults env stored rows attempted live) false).status)
    (h : Stuck row) :
    (queueDeliveryOutcome (mergedResults env stored rows attempted live) false).status = .blocked ∨
      (queueDeliveryOutcome (mergedResults env stored rows attempted live) false).channels = [] := by
  cases h with
  | inl hblocked =>
    left
    rw [← hstatus]
    exact hblocked
  | inr hpartial =>
    right
    have hempty := hpartial.2
    rw [hchannels] at hempty
    exact List.isEmpty_iff.mp hempty

theorem status_idleRow (p : Pass) (nextAttemptAt : Option Nat) (row : Row) :
    (p.idleRow cfg nextAttemptAt row).status =
      (queueDeliveryOutcome (p.idleResults cfg) false).status := by
  show (if _ then _ else _) = _
  split
  · rename_i h
    obtain ⟨hsent, hfailed⟩ := h
    obtain ⟨r, hr, hfailure⟩ := List.any_eq_true.mp hfailed
    rw [(sent_iff.mp hsent).2 r hr] at hfailure
    cases hfailure
  · rfl

theorem mem_settlementChannels (h : c ∈ live) :
    c ∈ settlementChannels stored live := by
  unfold settlementChannels
  split
  · exact h
  · rw [List.mem_dedup]
    exact List.mem_append_right _ h

/-! ## §8. The property. -/

/-- **NO LIVE CHANNEL IS LOST**: over every run in which each closing write is of a
    covered pass, a closing write that gives the row up leaves no live channel
    untried, and a discovery pass right before the claim would have changed nothing. -/
theorem no_live_channel_lost {e : Event} {claimId : Nat} {p : Pass}
    (hs : Reachable (system cfg) (Covered cfg) s) (hstep : next cfg s e = some t)
    (hcovered : Covered cfg s e) (hclosing : e.closing = some claimId)
    (hp : s.pass claimId = some p) (howned : s.owned claimId = true) (hstuck : Stuck t.row) :
    NothingLost cfg s p := by
  have hinv : Inv s := hs.invariant (fun _ h => Inv.ofInit h) fun _ _ _ h _ => h.step
  have hpass := hinv.passes p (mem_of_pass hp)
  have hpassCovered := hcovered claimId hclosing p hp
  refine ⟨fun c hc => ?_, fun day c => hpassCovered.undisturbed hpass.ledger day⟩
  have hlive := hpassCovered.current c hc
  clear hc
  revert c
  cases e with
  | block id =>
    cases hclosing
    simp only [next, hp, Option.bind_some] at hstep
    split at hstep
    · rename_i hguard
      obtain hunsupported | ⟨hlegacy, hfinal⟩ := hguard
      · exact absurd hunsupported hpass.ledger.supported
      · exact tried_of_block hpassCovered hpass hlegacy hfinal
    · cases hstep
  | idle id nextAttemptAt =>
    cases hclosing
    simp only [next, hp, Option.bind_some] at hstep
    obtain ⟨-, rfl⟩ := of_guard hstep
    have hrow : (s.finish claimId (p.idleRow cfg nextAttemptAt)).row =
        p.idleRow cfg nextAttemptAt s.row := if_pos howned
    rw [hrow] at hstuck
    exact tried_of_merged hpass (by simp) (fun _ hc => hc)
      (stuck_merged rfl (status_idleRow p nextAttemptAt s.row) hstuck)
  | settle id results whatsapp maxAttempts nextAttemptAt =>
    obtain ⟨hforced, hclosing⟩ := of_not_guard hclosing
    cases hclosing
    simp only [Bool.or_eq_true, not_or, Bool.not_eq_true] at hforced
    obtain ⟨rfl, rfl⟩ := hforced
    simp only [next, hp, Option.bind_some] at hstep
    obtain ⟨hguard, rfl⟩ := of_guard hstep
    have hattempted : ∀ r ∈ results, r.channel ∈ s.tried := by
      intro r hr
      apply hpass.started
      rw [hguard.2.1, ← hguard.2.2]
      exact List.mem_map_of_mem hr
    have hrow : (s.finish claimId (p.settledRow cfg results false false nextAttemptAt)).row =
        p.settledRow cfg results false false nextAttemptAt s.row := if_pos howned
    rw [hrow] at hstuck
    exact tried_of_merged hpass hattempted (fun _ hc => mem_settlementChannels hc)
      (stuck_merged rfl rfl hstuck)
  | wait | configure | readSettings | discover | claim | renew | abandon | readLog | start | writeLog
  | discard | postpone | noContacts | requeue | retry => cases hclosing

/-! ## §9. Two runs. -/

def demoConfig : Config where
  env := { toLowerCase := id, isValidEmail := fun _ => true }
  defaultThresholds := [30, 14, 7, 1, 0]
  claimMarkerMs := 900000

/-- An asset five days before its expiration, assigned to one of two groups. -/
def demoAsset (assignedId : String) : Asset where
  expiration := some 20005
  contactGroups := [
    { id := "mail", emailContactIds := ["c1"] }, { id := "chat", whatsappContactIds := ["c2"] }]
  assignedIds := [assignedId]
  alertThresholds := some [{ number := some 7 }]

/-- Its row, just queued for the email group. -/
def demoQueued : State where
  now := 0
  asset := demoAsset "mail"
  row := { negativeWindow := false, thresholdDays := 7, channels := .legacy [.email] }

theorem demoQueued_init : Init demoConfig demoQueued :=
  ⟨⟨demoAsset "mail", 20000, by decide +kernel⟩, rfl, rfl, rfl⟩

def firstAttempt : List Event :=
  [.claim, .start 0, .writeLog { channel := .email, status := .failed }]

def firstSettlement : Event :=
  .settle 0 [{ channel := .email, success := false, errorCode := some "EMAIL_FAILED" }] false false
    none

/-- The email fails, the asset is reassigned to the WhatsApp group, and a delivery
    pass runs before any discovery pass: the row is blocked and WhatsApp never tried. -/
theorem live_channel_lost : ∃ s t p, Reachable (system demoConfig) anyStep s ∧
    next demoConfig s (.block 1) = some t ∧ s.pass 1 = some p ∧ s.owned 1 = true ∧ Stuck t.row ∧
    ¬NothingLost demoConfig s p := by
  have hplay : ∃ s, played (next demoConfig)
      (firstAttempt ++ [firstSettlement, .configure (demoAsset "chat"), .claim]) demoQueued = some s ∧
      ∃ t, next demoConfig s (.block 1) = some t ∧ t.row.status = .blocked ∧
        ∃ p, s.pass 1 = some p ∧ s.owned 1 = true ∧
          Channel.whatsapp ∈ liveChannels s.asset s.row ∧ Channel.whatsapp ∉ s.tried := by
    refine ⟨_, rfl, _, rfl, ?_, _, rfl, ?_, ?_, ?_⟩ <;> decide +kernel
  obtain ⟨s, hs, t, ht, hblocked, p, hp, howned, hlive, huntried⟩ := hplay
  refine ⟨s, t, p, ⟨demoQueued, demoQueued_init, ?_⟩, ht, hp, howned, .inl hblocked, fun h => ?_⟩
  · exact Run.of_played (fun _ _ _ h => h) _ (fun _ _ _ => trivial) hs
  · exact huntried (h.tried _ hlive)

/-- The same failure, with a discovery pass after the reassignment: WhatsApp is tried
    and refused for good. -/
def secondAttempt : List Event :=
  [.configure (demoAsset "chat"), .readSettings, .discover (demoAsset "chat") 20000, .claim, .start 1]

def secondSettlement : Event :=
  .settle 1 [{ channel := .whatsapp, success := false, terminal := true }] false false none

/-- `PassCovered`, computed. -/
def coveredCheck (cfg : Config) (s : State) (p : Pass) : Bool :=
  (liveChannels s.asset s.row).all (· ∈ p.live) &&
    (p.before.attempts = 0 ||
      (discoveryChannels cfg.defaultThresholds p.asset p.before.thresholdDays = p.live &&
        p.live.all fun c =>
          !stillOpen (p.before.channels.outcomes.get c) || c ∈ p.before.channels.retry))

theorem PassCovered.of_check (h : coveredCheck cfg s p = true) : PassCovered cfg s p := by
  simp only [coveredCheck, Bool.and_eq_true, Bool.or_eq_true, List.all_eq_true, decide_eq_true_eq,
    Bool.not_eq_true'] at h
  refine ⟨h.1, fun hattempts c => ?_, fun hattempts _ c hlive hopen => ?_⟩
  · obtain hzero | ⟨hsame, -⟩ := h.2
    · omega
    · rw [hsame]
  · obtain hzero | ⟨-, hretried⟩ := h.2
    · omega
    · exact (hretried c hlive).resolve_left (by simp [hopen])

theorem Covered.of_check (hclosing : e.closing = some claimId) (hp : s.pass claimId = some p)
    (h : coveredCheck cfg s p = true) : Covered cfg s e := by
  intro id hid q hq
  rw [hclosing] at hid
  cases hid
  rw [hp] at hq
  cases hq
  exact .of_check h

theorem Covered.of_open (h : e.closing = none) : Covered cfg s e := by
  intro id hid
  rw [h] at hid
  cases hid

theorem no_live_channel_lost_demo : ∃ s t p, next demoConfig s secondSettlement = some t ∧
    t.row.status = .blocked ∧ p ∈ s.passes ∧ 0 < p.before.attempts ∧ NothingLost demoConfig s p := by
  have hplay : ∃ s₁, played (next demoConfig) firstAttempt demoQueued = some s₁ ∧
      ∃ p₁, s₁.pass 0 = some p₁ ∧ coveredCheck demoConfig s₁ p₁ = true ∧
      ∃ s₂, next demoConfig s₁ firstSettlement = some s₂ ∧
      ∃ s₃, played (next demoConfig) secondAttempt s₂ = some s₃ ∧
      ∃ p₂, s₃.pass 1 = some p₂ ∧ coveredCheck demoConfig s₃ p₂ = true ∧
        0 < p₂.before.attempts ∧ s₃.owned 1 = true ∧
      ∃ t, next demoConfig s₃ secondSettlement = some t ∧ t.row.status = .blocked := by
    refine ⟨_, rfl, _, rfl, ?_, _, rfl, _, rfl, _, rfl, ?_, ?_, ?_, _, rfl, ?_⟩ <;> decide +kernel
  obtain ⟨s₁, h₁, p₁, hp₁, hc₁, s₂, h₂, s₃, h₃, p₂, hp₂, hc₂, hattempts, howned, t, ht, hblocked⟩ :=
    hplay
  have hopen₁ : ∀ e ∈ firstAttempt, e.closing = none := by decide
  have hopen₂ : ∀ e ∈ secondAttempt, e.closing = none := by decide
  have hfirst : Run (system demoConfig) (Covered demoConfig) demoQueued s₁ :=
    .of_played (fun _ _ _ h => h) _ (fun e he _ => .of_open (hopen₁ e he)) h₁
  have hsettled : Run (system demoConfig) (Covered demoConfig) demoQueued s₂ :=
    .tail hfirst (.of_check rfl hp₁ hc₁) h₂
  have hsecond : Run (system demoConfig) (Covered demoConfig) s₂ s₃ :=
    .of_played (fun _ _ _ h => h) _ (fun e he _ => .of_open (hopen₂ e he)) h₃
  exact ⟨s₃, t, p₂, ht, hblocked, mem_of_pass hp₂, hattempts,
    no_live_channel_lost ⟨demoQueued, demoQueued_init, hsettled.trans hsecond⟩ ht
      (.of_check rfl hp₂ hc₂) rfl hp₂ howned (.inl hblocked)⟩

end TokenTimer.Delivery
