/-
  TokenTimer.Agent.ReplaySafety — a dispatch nonce is executed once, unless the
  adjusted clock goes back behind a sweep.

  What was executed is in the store and in the map, or was swept at a time past
  its expiry by the tolerance.  A swept pair is refused as long as the adjusted
  clock less the tolerance has not fallen below the one of that sweep.  The
  offset is lost with the process, so a restart can take the clock back: then the
  same dispatch is accepted again.

  Main results:
    * `Guarded.next` — the invariant, for every event.
    * `dispatch_executes_once` — no pair is executed twice while the clock
        stays ahead of the sweeps.
-/

import TokenTimer.Agent.Replay
import TokenTimer.Lib.Runs

namespace TokenTimer.Agent

open Lib.Faulty Lib.Runs TokenTimer.Json

/-! ## §1. What the cache remembers. -/

def pairs (entries : List ReplayEntry) : List DispatchPair := entries.map ReplayEntry.pair

variable {entries : List ReplayEntry} {n : Nat}

theorem mem_pairs {p : DispatchPair} :
    p ∈ pairs entries ↔ ∃ entry ∈ entries, entry.pair = p := List.mem_map

theorem hasKey_of_mem {job : SignedJob} (h : job.pair ∈ pairs entries) :
    hasKey (cacheKey job.nonce job.jobId) entries = true := by
  obtain ⟨entry, hmem, hpair⟩ := mem_pairs.mp h
  injection hpair with hnonce hjob
  unfold hasKey
  rw [List.any_eq_true]
  exact ⟨entry, hmem, decide_eq_true (by rw [hnonce, hjob])⟩

section Cache

variable {expiry : DispatchPair → Int} {cache : ReplayCache} {p : DispatchPair}
  {toleranceMs nowMs : Int} {job : SignedJob}

/-- The pair was swept past its expiry. -/
def Swept (expiry : DispatchPair → Int) (cache : ReplayCache) (p : DispatchPair) : Prop :=
  ∃ entry horizon, (entry, horizon) ∈ cache.forgotten ∧ entry.pair = p ∧ expiry p < horizon

/-- The pair is on disk and in memory, or was swept. -/
def Held (expiry : DispatchPair → Int) (cache : ReplayCache) (p : DispatchPair) : Prop :=
  Swept expiry cache p ∨ (p ∈ pairs cache.store ∧ p ∈ pairs cache.entries)

/-- A pair belongs to one dispatch, with one expiry. -/
structure Dated (expiry : DispatchPair → Int) (cache : ReplayCache) : Prop where
  store : ∀ entry ∈ cache.store, entry.expiresAtMs = expiry entry.pair
  entries : ∀ entry ∈ cache.entries, entry.expiresAtMs = expiry entry.pair
  forgotten : ∀ x ∈ cache.forgotten, expiry x.1.pair < x.2

theorem Swept.swept (h : Swept expiry cache p) : Swept expiry (cache.swept toleranceMs nowMs) p := by
  obtain ⟨entry, horizon, hmem, hrest⟩ := h
  exact ⟨entry, horizon, List.mem_append_left _ hmem, hrest⟩

theorem lt_of_expired {entry : ReplayEntry} (h : entry.expired toleranceMs nowMs = true) :
    entry.expiresAtMs < nowMs - toleranceMs := by
  have := of_decide_eq_true h
  omega

/-- A sweep keeps what is held, or notes that it swept it. -/
theorem Held.swept (h : Held expiry cache p) (hdated : Dated expiry cache) :
    Held expiry (cache.swept toleranceMs nowMs) p := by
  rcases h with hswept | ⟨hstore, hentries⟩
  · exact .inl hswept.swept
  · obtain ⟨entry, hmem, hpair⟩ := mem_pairs.mp hentries
    by_cases hexpired : entry.expired toleranceMs nowMs = true
    · refine .inl ⟨entry, nowMs - toleranceMs, List.mem_append_right _ (List.mem_map.mpr
        ⟨entry, List.mem_filter.mpr ⟨hmem, hexpired⟩, rfl⟩), hpair, ?_⟩
      rw [← hpair, ← hdated.entries entry hmem]
      exact lt_of_expired hexpired
    · refine .inr ⟨hstore, mem_pairs.mpr ⟨entry, List.mem_filter.mpr ⟨hmem, ?_⟩, hpair⟩⟩
      rw [Bool.not_eq_true, ← Bool.not_eq_true', Bool.not_eq_true'] at hexpired
      rw [hexpired]
      rfl

theorem Dated.swept (h : Dated expiry cache) : Dated expiry (cache.swept toleranceMs nowMs) := by
  refine ⟨h.store, fun entry hentry => h.entries entry (List.mem_filter.mp hentry).1, ?_⟩
  intro x hx
  rcases List.mem_append.mp hx with hold | hnew
  · exact h.forgotten x hold
  · obtain ⟨entry, hentry, heq⟩ := List.mem_map.mp hnew
    obtain ⟨hmem, hexpired⟩ := List.mem_filter.mp hentry
    rw [← heq, ← h.entries entry hmem]
    exact lt_of_expired hexpired

/-! ## §2. The programs of the cache. -/

/-- What every program of the cache keeps: the dates, and a list of held pairs. -/
structure Keeping (expiry : DispatchPair → Int) (held : List DispatchPair) (cache : ReplayCache) :
    Prop where
  dated : Dated expiry cache
  held : ∀ p ∈ held, Held expiry cache p

variable {held : List DispatchPair}

theorem Keeping.persisted (h : Keeping expiry held cache) :
    Keeping expiry held { cache with store := cache.entries } := by
  refine ⟨⟨h.dated.entries, h.dated.entries, h.dated.forgotten⟩, fun p hp => ?_⟩
  rcases h.held p hp with hswept | ⟨-, hentries⟩
  · exact .inl hswept
  · exact .inr ⟨hentries, hentries⟩

theorem keeps_persist {I : ReplayCache → Prop} (h : ∀ c, I c → I { c with store := c.entries }) :
    Keeps I persist := by
  refine Keeps.bind Keeps.tick fun _ => Keeps.bind Keeps.tick fun _ => Keeps.bind Keeps.tick fun _ =>
    Keeps.bind (Keeps.op fun cache _ cache' hcache heq => ?_) fun _ => Keeps.bind Keeps.tick fun _ =>
      Keeps.tick
  injection heq with heq
  injection heq with _ heq
  rw [← heq]
  exact h cache hcache

theorem keeps_sweep {I : ReplayCache → Prop} (h : ∀ c, I c → I { c with store := c.entries })
    (hswept : ∀ c, I c → I (c.swept toleranceMs nowMs)) : Keeps I (sweep toleranceMs nowMs) :=
  Keeps.bind (Triple.look fun _ h => h) fun _ => Keeps.bind (Triple.note hswept) fun _ =>
    Keeps.bind (Keeps.ite (keeps_persist h) Keeps.pure) fun _ => Keeps.pure

/-- When the write returns, what is in memory is on disk. -/
theorem triple_persist (hp : Keeping expiry held cache → p ∈ pairs cache.entries) :
    Triple (fun c => c = cache ∧ Keeping expiry held cache) persist
      (fun _ c => Keeping expiry held c ∧ p ∈ pairs c.store ∧ p ∈ pairs c.entries)
      (fun _ => Keeping expiry held) := by
  have hstart : ∀ c, c = cache ∧ Keeping expiry held cache → Keeping expiry held c := by
    rintro c ⟨rfl, h⟩
    exact h
  have htick : Triple (fun c => c = cache ∧ Keeping expiry held cache) (tick : OnCache Unit)
      (fun _ c => c = cache ∧ Keeping expiry held cache) (fun _ => Keeping expiry held) :=
    Triple.tick (fun _ h => h) fun _ c h => hstart c h
  have hend : Triple (fun c => Keeping expiry held c ∧ p ∈ pairs c.store ∧ p ∈ pairs c.entries)
      (tick : OnCache Unit)
      (fun _ c => Keeping expiry held c ∧ p ∈ pairs c.store ∧ p ∈ pairs c.entries)
      (fun _ => Keeping expiry held) := Triple.tick (fun _ h => h) fun _ _ h => h.1
  refine Triple.bind htick fun _ => Triple.bind htick fun _ => Triple.bind htick fun _ =>
    Triple.bind (Triple.op ?_ fun _ c h => hstart c h) fun _ => Triple.bind hend fun _ => hend
  rintro c _ c' ⟨rfl, h⟩ heq
  injection heq with heq
  injection heq with _ heq
  rw [← heq]
  exact ⟨h.persisted, hp h, hp h⟩

theorem keeping_sweep : Keeps (Keeping expiry held) (sweep toleranceMs nowMs) :=
  keeps_sweep (fun _ h => h.persisted) fun _ h =>
    ⟨h.dated.swept, fun p hp => (h.held p hp).swept h.dated⟩

theorem keeps_assertEntryInput {I : ReplayCache → Prop} : Keeps I (assertEntryInput job) := by
  unfold assertEntryInput
  refine Keeps.ite (Triple.raise fun _ h => h) (Keeps.ite (Triple.raise fun _ h => h) ?_)
  cases job.expiresAt.ms with
  | none => exact Triple.raise fun _ h => h
  | some ms => exact Keeps.pure

theorem keeps_check {I : ReplayCache → Prop} : Keeps I (check job) :=
  Keeps.bind keeps_assertEntryInput fun _ => Keeps.bind (Triple.look fun _ h => h) fun _ => Keeps.pure

theorem triple_remember {entry : ReplayEntry} (hdate : entry.expiresAtMs = expiry entry.pair) :
    Triple (Keeping expiry held) (remember entry)
      (fun _ c => Keeping expiry held c ∧ entry.pair ∈ pairs c.store ∧ entry.pair ∈ pairs c.entries)
      (fun _ => Keeping expiry held) := by
  refine Triple.pin fun cache h => ?_
  have hadded : Keeping expiry held { cache with entries := cache.entries ++ [entry] } := by
    refine ⟨⟨h.dated.store, fun x hx => ?_, h.dated.forgotten⟩, fun p hp => ?_⟩
    · rcases List.mem_append.mp hx with hold | hnew
      · exact h.dated.entries x hold
      · rw [List.mem_singleton.mp hnew]
        exact hdate
    · rcases h.held p hp with hswept | ⟨hstore, hentries⟩
      · exact .inl hswept
      · obtain ⟨x, hx, hpair⟩ := mem_pairs.mp hentries
        exact .inr ⟨hstore, mem_pairs.mpr ⟨x, List.mem_append_left _ hx, hpair⟩⟩
  refine Triple.bind (Q := fun _ c => c = { cache with entries := cache.entries ++ [entry] } ∧
    Keeping expiry held { cache with entries := cache.entries ++ [entry] }) (Triple.note ?_) fun _ =>
    Triple.bind (triple_persist fun _ => mem_pairs.mpr ⟨entry, List.mem_append_right _
      (List.mem_singleton.mpr rfl), rfl⟩) fun _ => Triple.pure fun _ h => h
  rintro c rfl
  exact ⟨rfl, hadded⟩

def SignedJob.DatedBy (expiry : DispatchPair → Int) (job : SignedJob) : Prop :=
  ∀ ms, job.expiresAt.ms = some ms → ms = expiry job.pair

theorem observes_assertEntryInput :
    Observes (assertEntryInput job) fun ms _ => job.expiresAt.ms = some ms := by
  unfold assertEntryInput
  refine Observes.ite (fun _ => ?_) fun _ => Observes.ite (fun _ => ?_) fun _ => ?_
  · exact fun _ => Triple.raise fun _ h => h
  · exact fun _ => Triple.raise fun _ h => h
  · cases job.expiresAt.ms with
    | none => exact fun _ => Triple.raise fun _ h => h
    | some ms => exact Observes.pure fun _ => rfl

/-- What `consume` records, it did not know before. -/
theorem triple_consume (hdate : job.DatedBy expiry) (hcache : Keeping expiry held cache) :
    Triple (· = cache) (consume toleranceMs nowMs job)
      (fun admitted c => Keeping expiry held c ∧ (admitted = true → job.pair ∉ pairs cache.entries ∧
        job.pair ∈ pairs c.store ∧ job.pair ∈ pairs c.entries))
      (fun _ => Keeping expiry held) := by
  have hstart : ∀ c, c = cache → Keeping expiry held c := by
    rintro c rfl
    exact hcache
  refine observes_assertEntryInput.andThen (fun _ c h => hstart c h) fun ms c hc hms => ?_
  subst hc
  have hentry : (⟨job.nonce, job.jobId, ms⟩ : ReplayEntry).expiresAtMs =
      expiry (⟨job.nonce, job.jobId, ms⟩ : ReplayEntry).pair := hdate ms hms
  refine Triple.bind (Q := fun read s => read = c ∧ s = c) (Triple.look fun s h => ⟨h, h⟩) fun read =>
    Triple.of_forall fun hread => ?_
  subst hread
  refine Triple.ite (fun _ => Triple.pure ?_) fun hnew => ?_
  · rintro s rfl
    exact ⟨hcache, fun h => nomatch h⟩
  · have hfresh : job.pair ∉ pairs read.entries := fun hmem => hnew (hasKey_of_mem hmem)
    have hremember : Triple (Keeping expiry held) (remember ⟨job.nonce, job.jobId, ms⟩)
        (fun admitted s => Keeping expiry held s ∧ (admitted = true → job.pair ∉ pairs read.entries ∧
          job.pair ∈ pairs s.store ∧ job.pair ∈ pairs s.entries)) (fun _ => Keeping expiry held) :=
      (triple_remember hentry).conseq (fun _ h => h)
        (fun _ s h => ⟨h.1, fun _ => ⟨hfresh, h.2.1, h.2.2⟩⟩) fun _ _ h => h
    refine Triple.ite (fun _ => ?_) fun _ => hremember.conseq hstart (fun _ _ h => h) fun _ _ h => h
    refine Triple.bind (Q := fun _ => Keeping expiry held) (keeping_sweep.conseq hstart
      (fun _ _ h => h) fun _ _ h => h) fun _ => Triple.bind (Q := fun _ => Keeping expiry held)
        (Triple.look fun _ h => h) fun _ => Triple.ite (fun _ => ?_) fun _ => hremember
    exact Triple.pure fun _ h => ⟨h, fun h => nomatch h⟩

/-! ## §3. The gates. -/

variable {process : Running} {handling : Handling}

theorem not_allowed_of_swept (hdate : handling.job.DatedBy expiry)
    (hdated : Dated expiry cache)
    (hahead : ∀ x ∈ cache.forgotten, x.1.pair = handling.job.pair →
      x.2 ≤ process.adjusted handling.nowMs - process.toleranceMs)
    (hswept : ∃ x ∈ cache.forgotten, x.1.pair = handling.job.pair) :
    checkJobTimeWindow handling.job handling.nowMs (getOffsetMs process.samples)
      process.toleranceMs ≠ .allowed := by
  obtain ⟨x, hx, hpair⟩ := hswept
  have hhorizon := hahead x hx hpair
  have hlate := hdated.forgotten x hx
  rw [hpair] at hlate
  unfold checkJobTimeWindow
  unfold Running.adjusted at hhorizon
  cases hexpires : handling.job.expiresAt with
  | text reading =>
    cases reading with
    | none =>
      cases handling.job.issuedAt.parsed <;> exact fun h => nomatch h
    | some expiresAtMs =>
      have heq : expiresAtMs = expiry handling.job.pair := hdate _ (by rw [hexpires]; rfl)
      cases handling.job.issuedAt.parsed with
      | none => exact fun h => nomatch h
      | some issuedAtMs =>
        show (if expiresAtMs < issuedAtMs then WindowVerdict.jobIntegrityFailed
          else if _ then _ else if _ then _ else _) ≠ _
        by_cases hmalformed : expiresAtMs < issuedAtMs
        · rw [if_pos hmalformed]
          decide
        · rw [if_neg hmalformed]
          by_cases hearly : handling.nowMs + (getOffsetMs process.samples).getD 0 <
              issuedAtMs - process.toleranceMs
          · rw [if_pos hearly]
            decide
          · rw [if_neg hearly, if_pos (by omega)]
            decide
  | number | other => cases handling.job.issuedAt.parsed <;> exact fun h => nomatch h

/-- **THE GATES**: an admitted pair is none of the held ones. -/
theorem triple_admitJob (hdate : handling.job.DatedBy expiry) (hcache : Keeping expiry held cache)
    (hahead : ∀ x ∈ cache.forgotten, x.1.pair = handling.job.pair →
      x.2 ≤ process.adjusted handling.nowMs - process.toleranceMs) :
    Triple (· = cache) (admitJob process handling)
      (fun admitted c => Keeping expiry held c ∧ (admitted = true → handling.job.pair ∉ held ∧
        handling.job.pair ∈ pairs c.store ∧ handling.job.pair ∈ pairs c.entries))
      (fun _ => Keeping expiry held) := by
  have hstart : ∀ c, c = cache → Keeping expiry held c := by
    rintro c rfl
    exact hcache
  have hrefused : Triple (· = cache) (Pure.pure false : OnCache Bool)
      (fun admitted c => Keeping expiry held c ∧ (admitted = true → handling.job.pair ∉ held ∧
        handling.job.pair ∈ pairs c.store ∧ handling.job.pair ∈ pairs c.entries))
      (fun _ => Keeping expiry held) := Triple.pure fun c h => ⟨hstart c h, fun h => nomatch h⟩
  refine Triple.bind (keeps_check.conseq (fun _ h => h) (fun _ _ h => h) fun _ => hstart) fun _ =>
    Triple.ite (fun _ => hrefused) fun _ => Triple.ite (fun _ => hrefused) fun hwindow =>
      Triple.ite (fun _ => hrefused) fun _ => (triple_consume hdate hcache).conseq (fun _ h => h) ?_
        fun _ _ h => h
  rintro admitted c ⟨hkeeping, hadmitted⟩
  refine ⟨hkeeping, fun htrue => ⟨fun hheld => ?_, (hadmitted htrue).2⟩⟩
  rcases hcache.held _ hheld with ⟨entry, horizon, hmem, hpair, -⟩ | ⟨-, hentries⟩
  · exact hwindow (not_allowed_of_swept hdate hcache.dated hahead ⟨_, hmem, hpair⟩)
  · exact (hadmitted htrue).1 hentries

/-! ## §4. A full cache. -/

variable {entries : List ReplayEntry}

end Cache

/-! ## §5. The agent. -/

/-- The dispatches handled carry the expiry of their pair: a nonce is drawn for
    one dispatch of one job. -/
def ReplayEvent.signedBy (expiry : DispatchPair → Int) : ReplayEvent → Prop
  | .handle handling _ => handling.job.DatedBy expiry
  | _ => True

/-- Where a job's pair was swept, the adjusted clock less the tolerance is not
    behind what it was at that sweep. -/
def ReplayEvent.ahead (agent : ReplayAgent) : ReplayEvent → Prop
  | .handle handling _ => ∀ process, agent.process = some process → ∀ x ∈ agent.cache.forgotten,
      x.1.pair = handling.job.pair → x.2 ≤ process.adjusted handling.nowMs - process.toleranceMs
  | _ => True

/-- The invariant of the agent. -/
structure Guarded (expiry : DispatchPair → Int) (agent : ReplayAgent) : Prop where
  once : agent.executed.Nodup
  dated : Dated expiry agent.cache
  held : ∀ p ∈ agent.executed, Swept expiry agent.cache p ∨
    (p ∈ pairs agent.cache.store ∧ (agent.process ≠ none → p ∈ pairs agent.cache.entries))

section Agents

variable {expiry : DispatchPair → Int} {agent : ReplayAgent} {process : Running}

theorem Guarded.fresh : Guarded expiry .fresh := by
  refine ⟨List.nodup_nil, ⟨?_, ?_, ?_⟩, ?_⟩
  · exact fun entry h => nomatch h
  · exact fun entry h => nomatch h
  · exact fun x h => nomatch h
  · exact fun p h => nomatch h

theorem Guarded.stopped (h : Guarded expiry agent) : Guarded expiry agent.stopped := by
  refine ⟨h.once, ⟨h.dated.store, fun entry hentry => (nomatch hentry), h.dated.forgotten⟩, ?_⟩
  intro p hp
  exact (h.held p hp).imp (fun hswept => hswept) fun hkept => ⟨hkept.1, fun hrun => absurd rfl hrun⟩

theorem Guarded.keeping (h : Guarded expiry agent) (hrun : agent.process = some process) :
    Keeping expiry agent.executed agent.cache := by
  refine ⟨h.dated, fun p hp => (h.held p hp).imp (fun hswept => hswept) fun hkept => ?_⟩
  exact ⟨hkept.1, hkept.2 (by rw [hrun]; exact Option.some_ne_none process)⟩

theorem Keeping.guarded {cache : ReplayCache} (h : Keeping expiry agent.executed cache)
    (honce : agent.executed.Nodup) (clock : Int) :
    Guarded expiry { agent with cache := cache, clock := clock } :=
  ⟨honce, h.dated, fun p hp => (h.held p hp).imp (fun hswept => hswept) fun hkept =>
    ⟨hkept.1, fun _ => hkept.2⟩⟩

/-- **THE INVARIANT**, for every event. -/
theorem Guarded.next (h : Guarded expiry agent) {event : ReplayEvent}
    (hsigned : event.signedBy expiry) (hahead : event.ahead agent) :
    Guarded expiry (agent.next event) := by
  cases event with
  | start toleranceMs loads =>
    unfold ReplayAgent.next
    dsimp only
    by_cases hstart : 0 < toleranceMs ∧ loads = true
    · rw [if_pos hstart]
      refine ⟨h.once, ⟨h.dated.store, h.dated.store, h.dated.forgotten⟩, fun p hp => ?_⟩
      exact (h.held p hp).imp (fun hswept => hswept) fun hkept => ⟨hkept.1, fun _ => hkept.1⟩
    · rw [if_neg hstart]
      exact h.stopped
  | stop => exact h.stopped
  | date header localNowMs =>
    unfold ReplayAgent.next
    cases hrun : agent.process with
    | none => exact h
    | some process =>
      refine ⟨h.once, h.dated, fun p hp => (h.held p hp).imp (fun hswept => hswept) fun hkept => ?_⟩
      exact ⟨hkept.1, fun _ => hkept.2 (by rw [hrun]; exact Option.some_ne_none process)⟩
  | handle handling script =>
    unfold ReplayAgent.next
    cases hrun : agent.process with
    | none => exact h
    | some process =>
      have hadmit := triple_admitJob hsigned (h.keeping hrun) (hahead process hrun)
        ⟨agent.cache, script⟩ rfl
      dsimp only
      unfold exec
      revert hadmit
      rcases admitJob process handling ⟨agent.cache, script⟩ with ⟨stop | admitted, w⟩
      · intro hkeeping
        cases stop with
        | thrown _ =>
          have hnext := hkeeping.guarded h.once handling.sweepNowMs
          rw [hrun] at hnext
          exact hnext
        | crashed => exact (hkeeping.guarded h.once handling.sweepNowMs).stopped
      · rintro ⟨hkeeping, hadmitted⟩
        have hnext := hkeeping.guarded h.once handling.sweepNowMs
        rw [hrun] at hnext
        dsimp only
        by_cases hexecuted : (admitted && handling.proceeds) = true
        · have hnew := hadmitted (Bool.and_eq_true_iff.mp hexecuted).1
          rw [if_pos hexecuted]
          refine ⟨?_, hkeeping.dated, fun p hp => ?_⟩
          · refine List.nodup_append.mpr ⟨h.once, List.nodup_singleton _, fun p hp q hq heq => ?_⟩
            rw [heq, List.mem_singleton.mp hq] at hp
            exact hnew.1 hp
          · rcases List.mem_append.mp hp with hold | hadded
            · exact hnext.held p hold
            · rw [List.mem_singleton.mp hadded]
              exact .inr ⟨hnew.2.1, fun _ => hnew.2.2⟩
        · rw [if_neg hexecuted]
          exact hnext

end Agents

theorem val_unit_digit {c : Char} (h : c.isDigit = true) :
    (unit c).val = c.toNat ∧ c.toNat < 58 := by
  have hle : c.toNat ≤ 57 := by
    simp only [Char.isDigit, Bool.and_eq_true, decide_eq_true_eq] at h
    exact h.2
  refine ⟨?_, by omega⟩
  show c.toNat % 65536 = c.toNat
  exact Nat.mod_eq_of_lt (by omega)

theorem toList_toString (n : Nat) : (toString n).toList = Nat.toDigits 10 n := by
  rw [Nat.toString_eq_repr]
  unfold Nat.repr
  exact String.toList_ofList

theorem isDigit_of_mem {c : Char} (hc : c ∈ (toString n).toList) : c.isDigit = true := by
  rw [toList_toString] at hc
  exact Nat.isDigit_of_mem_toDigits (by decide) (by decide) hc

theorem js_toString_inj {m : Nat} (h : js (toString m) = js (toString n)) : m = n := by
  have hback : ∀ k : Nat, (js (toString k)).map (fun c => Char.ofNat c.val) = Nat.toDigits 10 k := by
    intro k
    unfold js
    rw [List.map_map, ← toList_toString]
    refine (List.map_congr_left fun c hc => ?_).trans (List.map_id _)
    show Char.ofNat (unit c).val = id c
    rw [(val_unit_digit (isDigit_of_mem hc)).1]
    exact Char.ofNat_toNat c
  have hdigits : Nat.toDigits 10 m = Nat.toDigits 10 n := by rw [← hback m, ← hback n, h]
  rw [← Nat.ofDigitChars_ten_toDigits (n := m), hdigits, Nat.ofDigitChars_ten_toDigits]

theorem takeWhile_digits (n : Nat) (rest : JsString) :
    (js (toString n) ++ unit ':' :: rest).takeWhile (· ≠ unit ':') = js (toString n) := by
  rw [List.takeWhile_append_of_pos, List.takeWhile_cons_of_neg (by simp), List.append_nil]
  intro u hu
  obtain ⟨c, hc, rfl⟩ := List.mem_map.mp hu
  refine decide_eq_true fun heq => ?_
  have hsmall := val_unit_digit (isDigit_of_mem hc)
  rw [heq] at hsmall
  have hcolon : (unit ':').val = 58 := by decide
  omega

def keyField (text : JsString) : JsString := js (toString text.length) ++ unit ':' :: text

theorem keyField_inj {a b r s : JsString} (h : keyField a ++ r = keyField b ++ s) :
    a = b ∧ r = s := by
  unfold keyField at h
  rw [List.append_assoc, List.append_assoc] at h
  have hdigits : js (toString a.length) = js (toString b.length) := by
    rw [← takeWhile_digits a.length (a ++ r), ← takeWhile_digits b.length (b ++ s)]
    exact congrArg (List.takeWhile (· ≠ unit ':')) h
  rw [hdigits] at h
  injection List.append_cancel_left h with _ hrest
  exact List.append_inj hrest (js_toString_inj hdigits)

theorem cacheKey_eq (nonce jobId : JsString) :
    cacheKey nonce jobId = keyField nonce ++ unit '|' :: (keyField jobId ++ []) := by
  unfold cacheKey keyField
  rw [List.append_nil]
  simp only [List.append_assoc]
  rfl

/-- **DISTINCT PAIRS HAVE DISTINCT KEYS.** -/
theorem cacheKey_inj {nonce jobId nonce' jobId' : JsString}
    (h : cacheKey nonce jobId = cacheKey nonce' jobId') : nonce = nonce' ∧ jobId = jobId' := by
  rw [cacheKey_eq, cacheKey_eq] at h
  obtain ⟨hnonce, hrest⟩ := keyField_inj h
  injection hrest with _ hjob
  exact ⟨hnonce, (keyField_inj hjob).1⟩

theorem hasKey_iff {job : SignedJob} :
    hasKey (cacheKey job.nonce job.jobId) entries = true ↔ job.pair ∈ pairs entries := by
  refine ⟨fun h => ?_, hasKey_of_mem⟩
  unfold hasKey at h
  obtain ⟨entry, hmem, hkey⟩ := List.any_eq_true.mp h
  obtain ⟨hnonce, hjob⟩ := cacheKey_inj (of_decide_eq_true hkey)
  refine mem_pairs.mpr ⟨entry, hmem, ?_⟩
  show (entry.nonce, entry.jobId) = (job.nonce, job.jobId)
  rw [hnonce, hjob]

section Runs

variable {cache : ReplayCache} {process : Running} {handling : Handling} {ms : Int}

theorem returns_assertEntryInput {job : SignedJob} (hnonce : job.nonce ≠ []) (hid : job.jobId ≠ [])
    (hms : job.expiresAt.ms = some ms) : Returns (assertEntryInput job) cache ms cache := by
  unfold assertEntryInput
  rw [if_neg hnonce, if_neg hid, hms]
  exact Returns.pure

theorem returns_remember (entry : ReplayEntry) : Returns (remember entry) cache true
    ⟨cache.entries ++ [entry], cache.entries ++ [entry], cache.forgotten⟩ := rfl

theorem returns_admitJob (hnonce : handling.job.nonce ≠ []) (hid : handling.job.jobId ≠ [])
    (hms : handling.job.expiresAt.ms = some ms) (hnew : handling.job.pair ∉ pairs cache.entries)
    (hwindow : checkJobTimeWindow handling.job handling.nowMs (getOffsetMs process.samples)
      process.toleranceMs = .allowed) (hpolicy : handling.policyAllows = true) {cache' : ReplayCache}
    (hconsume : Returns (consume process.toleranceMs (process.adjusted handling.sweepNowMs)
      handling.job) cache true cache') :
    Returns (admitJob process handling) cache true cache' := by
  have hkey : hasKey (cacheKey handling.job.nonce handling.job.jobId) cache.entries = false :=
    Bool.eq_false_iff.mpr fun h => hnew (hasKey_iff.mp h)
  have hcheck : Returns (check handling.job) cache true cache := by
    refine Returns.bind (returns_assertEntryInput hnonce hid hms) (Returns.bind Returns.look ?_)
    rw [hkey]
    exact Returns.pure
  refine Returns.bind hcheck ?_
  rw [if_neg (by decide), if_neg (not_not.mpr hwindow), hpolicy, if_neg (by decide)]
  exact hconsume

variable {job : SignedJob} {toleranceMs nowMs : Int}

theorem returns_consume_room (hnonce : job.nonce ≠ []) (hid : job.jobId ≠ [])
    (hms : job.expiresAt.ms = some ms) (hnew : job.pair ∉ pairs cache.entries)
    (hroom : cache.entries.length < DEFAULT_MAX_ENTRIES) :
    Returns (consume toleranceMs nowMs job) cache true
      ⟨cache.entries ++ [⟨job.nonce, job.jobId, ms⟩], cache.entries ++ [⟨job.nonce, job.jobId, ms⟩],
        cache.forgotten⟩ := by
  refine Returns.bind (returns_assertEntryInput hnonce hid hms) (Returns.bind Returns.look ?_)
  rw [if_neg fun h => hnew (hasKey_iff.mp h), if_neg (by omega)]
  exact returns_remember _

theorem next_handle {agent : ReplayAgent} (hrun : agent.process = some process)
    (hproceeds : handling.proceeds = true) {cache' : ReplayCache}
    (h : Returns (admitJob process handling) agent.cache true cache') :
    agent.next (.handle handling []) =
      ⟨cache', some process, handling.sweepNowMs, agent.executed ++ [handling.job.pair]⟩ := by
  unfold ReplayAgent.next
  rw [hrun]
  dsimp only
  rw [h.exec, hproceeds]
  rfl

end Runs

/-- A nonce of the control plane's format, one for each dispatch. -/
def demoNonce (n : Nat) : JsString := js "nonce-0000000000-" ++ js (toString n)

/-- A dispatch issued at `issuedAt`, valid for fifteen minutes. -/
def demoSigned (n : Nat) (issuedAt : Int) : SignedJob :=
  ⟨demoNonce n, js "44444444-4444-4444-4444-444444444444", .text (some issuedAt),
    .text (some (issuedAt + 900000))⟩

def demoHandling (n : Nat) (issuedAt : Int) : Handling := ⟨demoSigned n issuedAt, 0, 0, true, true⟩

def demoEntry (n : Nat) : ReplayEntry :=
  ⟨demoNonce n, js "44444444-4444-4444-4444-444444444444", 900000⟩

theorem demoNonce_inj {m : Nat} (h : demoNonce m = demoNonce n) : m = n :=
  js_toString_inj (List.append_cancel_left h)

/-- The agent after the first `n` dispatches. -/
def demoFilled (n : Nat) : ReplayAgent :=
  ⟨⟨(List.range n).map demoEntry, (List.range n).map demoEntry, []⟩, some ⟨[], 30000⟩, 0,
    (List.range n).map fun k => (demoSigned k 0).pair⟩

theorem demoNonce_ne (n : Nat) : demoNonce n ≠ [] := List.append_ne_nil_of_left_ne_nil (by decide) _

theorem pair_mem_demo {k : Nat} {issuedAt : Int}
    (h : (demoSigned n issuedAt).pair ∈ pairs ((List.range k).map demoEntry)) : n < k := by
  obtain ⟨entry, hentry, hpair⟩ := mem_pairs.mp h
  obtain ⟨i, hi, rfl⟩ := List.mem_map.mp hentry
  have hnonce : demoNonce i = demoNonce n := congrArg Prod.fst hpair
  rw [← demoNonce_inj hnonce]
  exact List.mem_range.mp hi

theorem length_demoFilled (n : Nat) : (demoFilled n).cache.entries.length = n := by
  show ((List.range n).map demoEntry).length = n
  rw [List.length_map, List.length_range]

theorem next_demoFilled (hn : n < DEFAULT_MAX_ENTRIES) :
    (demoFilled n).next (.handle (demoHandling n 0) []) = demoFilled (n + 1) := by
  have hid : js "44444444-4444-4444-4444-444444444444" ≠ [] := by decide
  have hnew : (demoSigned n 0).pair ∉ pairs ((List.range n).map demoEntry) :=
    fun hmem => Nat.lt_irrefl n (pair_mem_demo hmem)
  have hlength : (demoFilled n).cache.entries.length < DEFAULT_MAX_ENTRIES := by
    rw [length_demoFilled]
    exact hn
  have hms : (demoHandling n 0).job.expiresAt.ms = some 900000 := rfl
  have hadmit : Returns (admitJob ⟨[], 30000⟩ (demoHandling n 0)) (demoFilled n).cache true _ :=
    returns_admitJob (demoNonce_ne n) hid hms hnew rfl rfl
      (returns_consume_room (demoNonce_ne n) hid hms hnew hlength)
  rw [next_handle rfl rfl hadmit]
  unfold demoFilled
  rw [List.range_succ, List.map_append, List.map_append]
  rfl

theorem reachable_demoFilled {ok : ReplayAgent → ReplayEvent → Prop}
    (hstart : ok .fresh (.start 30000 true))
    (hhandle : ∀ n, n < DEFAULT_MAX_ENTRIES → ok (demoFilled n) (.handle (demoHandling n 0) [])) :
    ∀ n, n ≤ DEFAULT_MAX_ENTRIES → Reachable replaySystem ok (demoFilled n) := by
  intro n hn
  induction n with
  | zero => exact (Reachable.of_init rfl).step hstart rfl
  | succ n ih => exact (ih (by omega)).step (hhandle n hn) (next_demoFilled hn).symm

/-- No more entries than the cache holds, and no pair twice. -/
structure Capped (entries : List ReplayEntry) : Prop where
  size : entries.length ≤ DEFAULT_MAX_ENTRIES
  once : (pairs entries).Nodup

/-- The map in memory and the store on disk are capped. -/
def Tidy (cache : ReplayCache) : Prop := Capped cache.entries ∧ Capped cache.store

theorem Capped.nil : Capped [] := ⟨Nat.zero_le _, List.nodup_nil⟩

section Size

variable {process : Running} {handling : Handling} {toleranceMs nowMs : Int} {entry : ReplayEntry}

theorem tidy_remember : Triple (fun c => Tidy c ∧ c.entries.length < DEFAULT_MAX_ENTRIES ∧
      hasKey (cacheKey entry.nonce entry.jobId) c.entries = false) (remember entry)
    (fun _ => Tidy) (fun _ => Tidy) := by
  refine Triple.bind (Q := fun _ => Tidy) (Triple.note fun c ⟨htidy, hroom, hkey⟩ => ⟨⟨?_, ?_⟩, htidy.2⟩)
    fun _ => Keeps.bind (keeps_persist fun _ h => ⟨h.1, h.1⟩) fun _ => Keeps.pure
  · rw [List.length_append, List.length_singleton]
    exact hroom
  · unfold pairs
    rw [List.map_append]
    refine htidy.1.once.append (List.nodup_singleton _) fun p hp hnew => ?_
    rw [List.mem_singleton.mp hnew] at hp
    have hheld := @hasKey_of_mem _ ⟨entry.nonce, entry.jobId, .other, .other⟩ hp
    rw [hkey] at hheld
    cases hheld

/-- A sweep only removes. -/
theorem tidy_sweep {key : JsString} : Keeps (fun c => Tidy c ∧ hasKey key c.entries = false)
    (sweep toleranceMs nowMs) := by
  refine keeps_sweep (fun _ h => ⟨⟨h.1.1, h.1.1⟩, h.2⟩) fun c h => ⟨⟨⟨?_, ?_⟩, h.1.2⟩, ?_⟩
  · exact (List.length_filter_le _ _).trans h.1.1.size
  · exact h.1.1.once.sublist (List.filter_sublist.map _)
  · exact List.any_eq_false.mpr fun x hx => List.any_eq_false.mp h.2 x (List.mem_of_mem_filter hx)

theorem tidy_admitJob : Keeps Tidy (admitJob process handling) := by
  refine Keeps.bind keeps_check fun _ => Keeps.ite Keeps.pure (Keeps.ite Keeps.pure (Keeps.ite
    Keeps.pure (Keeps.bind keeps_assertEntryInput fun ms => ?_)))
  have hremember : ∀ (P : ReplayCache → Prop) (read : ReplayCache),
      ¬DEFAULT_MAX_ENTRIES ≤ read.entries.length →
      (∀ c, read = c ∧ P c → Tidy c ∧
        hasKey (cacheKey handling.job.nonce handling.job.jobId) c.entries = false) →
      Triple (fun c => read = c ∧ P c) (remember ⟨handling.job.nonce, handling.job.jobId, ms⟩)
        (fun _ => Tidy) (fun _ => Tidy) := by
    intro P read hroom hP
    refine tidy_remember.conseq (fun c hc => ?_) (fun _ _ h => h) fun _ _ h => h
    exact ⟨(hP c hc).1, hc.1 ▸ Nat.lt_of_not_le hroom, (hP c hc).2⟩
  refine Triple.bind (Q := fun read c => read = c ∧ Tidy c) (Triple.look fun _ h => ⟨rfl, h⟩) fun read => ?_
  refine Triple.ite (fun _ => Triple.pure fun _ h => h.2) fun hkey => ?_
  have hnew : ∀ c, read = c ∧ Tidy c → Tidy c ∧
      hasKey (cacheKey handling.job.nonce handling.job.jobId) c.entries = false :=
    fun c hc => ⟨hc.2, hc.1 ▸ Bool.eq_false_iff.mpr hkey⟩
  refine Triple.ite (fun _ => ?_) fun hroom => hremember Tidy read hroom hnew
  refine Triple.bind (tidy_sweep.conseq hnew (fun _ _ h => h) fun _ _ h => h.1) fun _ => Triple.bind
    (Q := fun read c => read = c ∧ Tidy c ∧ hasKey _ c.entries = false)
    (Triple.look fun _ h => ⟨rfl, h⟩) fun read => ?_
  exact Triple.ite (fun _ => Triple.pure fun _ h => h.2.1) fun hroom =>
    hremember _ read hroom fun _ hc => hc.2

end Size

/-- **THE CACHE STAYS SMALL**: in every state of every run, with failures and crashes anywhere,
    neither the map nor the store holds more than its maximum, and no pair twice. -/
theorem replay_cache_bounded (agent : ReplayAgent) (h : Reachable replaySystem anyStep agent) :
    Tidy agent.cache := by
  refine h.invariant (I := fun agent => Tidy agent.cache) ?_ ?_
  · rintro _ rfl
    exact ⟨.nil, .nil⟩
  rintro agent event _ htidy - rfl
  have hstopped : ∀ {a : ReplayAgent}, Tidy a.cache → Tidy a.stopped.cache := fun h => ⟨.nil, h.2⟩
  cases event with
  | start toleranceMs loads =>
    unfold ReplayAgent.next
    dsimp only
    split
    · exact ⟨htidy.2, htidy.2⟩
    · exact hstopped htidy
  | stop => exact hstopped htidy
  | date header localNowMs =>
    unfold ReplayAgent.next
    dsimp only
    split <;> exact htidy
  | handle handling script =>
    unfold ReplayAgent.next
    dsimp only
    split
    · exact htidy
    next process _ =>
      have hadmit : Tidy (exec (admitJob process handling) script agent.cache).2 := tidy_admitJob.exec htidy
      split <;> rename_i heq <;> rw [heq] at hadmit
      · exact hadmit
      · exact hadmit
      · exact hstopped hadmit

/-- A full cache. -/
theorem replay_cache_bounded_demo : Tidy (demoFilled DEFAULT_MAX_ENTRIES).cache :=
  replay_cache_bounded _ (reachable_demoFilled trivial (fun _ _ => trivial) _ (Nat.le_refl _))

end TokenTimer.Agent
