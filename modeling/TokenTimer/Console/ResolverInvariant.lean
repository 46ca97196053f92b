/-
  TokenTimer.Console.ResolverInvariant — the books of a log stream balance.

  §1 says when a batch is run at all and that every other answer leaves the
  stream alone.  §2 and §3 follow the loop over the lines: what it accepts it
  counts, stores and charges, and, for contiguous lines, the sequence numbers it
  resolves are exactly the gap, the stored and the dropped ones.  §4 lifts both
  to every state a stream can reach.

  Main results:
    * `runLines_sound` — the loop against the state it started in.
    * `runLines_counted _ _` — no sequence number is resolved without being counted.
    * `log_stream_balanced` — the invariant, in every reachable state and for
        every next batch.
-/

import TokenTimer.Console.Resolver

namespace TokenTimer.Console

open Lib.Runs

/-! ## §1. When a batch is run. -/

/-- The stream still takes lines at `now`. -/
def accepting (state : StreamState) (now : Nat) : Prop :=
  state.streamingEnabled = true ∧ (state.status = .pending ∨ state.status = .streaming) ∧
    windowClosed state now = false

instance (state : StreamState) (now : Nat) : Decidable (accepting state now) :=
  inferInstanceAs (Decidable (_ ∧ _ ∧ _))

/-- The batch reaches the loop over its lines. -/
def runs (state : StreamState) (now : Nat) (batch : Batch) : Prop :=
  isLastBatch state batch = false ∧ accepting state now ∧ batch.rejected = false ∧
    contiguous (sortBySeq batch.lines) = true

instance (state : StreamState) (now : Nat) (batch : Batch) : Decidable (runs state now batch) :=
  inferInstanceAs (Decidable (_ ∧ _ ∧ _ ∧ _))

/-- A state up to what a rejected batch writes: the retry memory and the count of
    rejections. -/
structure SameBooks (s t : StreamState) : Prop where
  streamingEnabled : t.streamingEnabled = s.streamingEnabled
  status : t.status = s.status
  acceptUntil : t.acceptUntil = s.acceptUntil
  resolved : t.resolvedThroughSeq = s.resolvedThroughSeq
  acceptedLines : t.acceptedLines = s.acceptedLines
  acceptedBytes : t.acceptedBytes = s.acceptedBytes
  serverDropped : t.serverDroppedLines = s.serverDroppedLines
  agentGap : t.agentGapLines = s.agentGapLines
  conflictCount : t.conflictCount = s.conflictCount
  conflicts : t.conflicts = s.conflicts
  stored : t.stored = s.stored

@[refl] theorem SameBooks.refl (s : StreamState) : SameBooks s s := by
  constructor <;> rfl

theorem SameBooks.symm {s t : StreamState} (h : SameBooks s t) : SameBooks t s := by
  constructor
  · exact h.streamingEnabled.symm
  · exact h.status.symm
  · exact h.acceptUntil.symm
  · exact h.resolved.symm
  · exact h.acceptedLines.symm
  · exact h.acceptedBytes.symm
  · exact h.serverDropped.symm
  · exact h.agentGap.symm
  · exact h.conflictCount.symm
  · exact h.conflicts.symm
  · exact h.stored.symm

theorem SameBooks.trans {s t u : StreamState} (h : SameBooks s t) (h' : SameBooks t u) :
    SameBooks s u := by
  constructor
  · exact h'.streamingEnabled.trans h.streamingEnabled
  · exact h'.status.trans h.status
  · exact h'.acceptUntil.trans h.acceptUntil
  · exact h'.resolved.trans h.resolved
  · exact h'.acceptedLines.trans h.acceptedLines
  · exact h'.acceptedBytes.trans h.acceptedBytes
  · exact h'.serverDropped.trans h.serverDropped
  · exact h'.agentGap.trans h.agentGap
  · exact h'.conflictCount.trans h.conflictCount
  · exact h'.conflicts.trans h.conflicts
  · exact h'.stored.trans h.stored

variable {state : StreamState} {batch : Batch} {options : IngestOptions}

theorem resolveIngest_of_runs (options : IngestOptions) (h : runs state options.now batch) :
    resolveIngest state batch options =
      applied state batch (runLines state options (sortBySeq batch.lines)) := by
  obtain ⟨hlast, ⟨hen, hst, hwin⟩, hrej, hcont⟩ := h
  unfold resolveIngest
  rcases hst with hst | hst <;> simp [hlast, hen, hst, hwin, hrej, hcont]

/-- Every batch that is not run leaves the books alone, stores nothing and is
    charged nothing. -/
theorem resolveIngest_of_not_runs (options : IngestOptions) (h : ¬ runs state options.now batch) :
    SameBooks state ((resolveIngest state batch options).after state) ∧
      (resolveIngest state batch options).inserts = [] ∧
      (resolveIngest state batch options).delta = ZERO_DELTA := by
  unfold resolveIngest
  by_cases hlast : isLastBatch state batch = true
  · rw [if_pos hlast]
    exact ⟨.refl _, rfl, rfl⟩
  rw [if_neg hlast]
  by_cases hdis : (!state.streamingEnabled) = true ∨ state.status = .disabled
  · rw [if_pos hdis]
    exact ⟨.refl _, rfl, rfl⟩
  rw [if_neg hdis]
  by_cases hab : state.status = .abandoned
  · rw [if_pos hab]
    exact ⟨.refl _, rfl, rfl⟩
  rw [if_neg hab]
  by_cases hfin : state.status = .final ∨ windowClosed state options.now = true
  · rw [if_pos hfin]
    split <;> exact ⟨.refl _, rfl, rfl⟩
  rw [if_neg hfin]
  by_cases hrej : batch.rejected = true
  · rw [if_pos hrej]
    exact ⟨by constructor <;> rfl, rfl, rfl⟩
  rw [if_neg hrej]
  by_cases hcont : contiguous (sortBySeq batch.lines) = true
  · -- Nothing stopped the batch, so it runs.
    refine absurd ⟨by simpa using hlast, ⟨?_, ?_, ?_⟩, by simpa using hrej, hcont⟩ h
    · rw [not_or] at hdis
      simpa using hdis.1
    · rw [not_or] at hdis hfin
      cases hs : state.status <;> simp_all
    · rw [not_or] at hfin
      simpa using hfin.2
  · rw [if_pos (by simpa using hcont)]
    exact ⟨.refl _, rfl, rfl⟩

/-! ## §2. The loop counts what it stores. -/

/-- The loop's variables against the state the loop started in. -/
structure LineLoop.Sound (state : StreamState) (options : IngestOptions) (loop : LineLoop) :
    Prop where
  resolved_le : state.resolvedThroughSeq ≤ loop.resolved
  lines_eq : loop.acceptedLines = state.acceptedLines + loop.inserts.length
  bytes_eq : loop.acceptedBytes = state.acceptedBytes + (loop.inserts.map (·.bytes)).sum
  quotaBytes_eq : loop.quotaBytes = (loop.inserts.map (·.bytes)).sum
  quotaLines_eq : loop.quotaLines = loop.inserts.length
  newly_eq : loop.newlyStored = loop.inserts.length
  dropped_eq : loop.serverDroppedLines = state.serverDroppedLines + loop.serverDroppedCount
  increasing : (loop.inserts.map (·.seq)).Pairwise (· < ·)
  inWindow : ∀ l ∈ loop.inserts, state.resolvedThroughSeq < l.seq ∧ l.seq ≤ loop.resolved
  lines_le : state.acceptedLines ≤ options.maxLines → loop.acceptedLines ≤ options.maxLines
  bytes_le : state.acceptedBytes ≤ options.maxBytes → loop.acceptedBytes ≤ options.maxBytes

theorem LineLoop.start_sound (state : StreamState) (options : IngestOptions) :
    (LineLoop.start state options).Sound state options := by
  constructor <;> simp [LineLoop.start]

variable {loop : LineLoop} {line : LogLine}

/-- What the two bookkeeping steps of the loop leave alone: everything but the
    conflict records, the duplicate count and the gap. -/
theorem LineLoop.Sound.resolvedLine (h : loop.Sound state options) :
    (loop.resolvedLine line).Sound state options := by
  unfold LineLoop.resolvedLine
  split
  · split_ifs <;> exact ⟨h.1, h.2, h.3, h.4, h.5, h.6, h.7, h.8, h.9, h.10, h.11⟩
  · exact ⟨h.1, h.2, h.3, h.4, h.5, h.6, h.7, h.8, h.9, h.10, h.11⟩

theorem LineLoop.Sound.noteNew (h : loop.Sound state options) :
    (loop.noteNew line).Sound state options := by
  unfold LineLoop.noteNew
  split_ifs <;> exact ⟨h.1, h.2, h.3, h.4, h.5, h.6, h.7, h.8, h.9, h.10, h.11⟩

theorem LineLoop.Sound.dropLine (h : loop.Sound state options) (hseq : loop.resolved < line.seq) :
    (loop.dropLine line).Sound state options := by
  refine ⟨?_, h.lines_eq, h.bytes_eq, h.quotaBytes_eq, h.quotaLines_eq, h.newly_eq, ?_,
    h.increasing, ?_, h.lines_le, h.bytes_le⟩
  · show state.resolvedThroughSeq ≤ line.seq
    have := h.resolved_le
    omega
  · show loop.serverDroppedLines + 1 = state.serverDroppedLines + (loop.serverDroppedCount + 1)
    have := h.dropped_eq
    omega
  · intro l hl
    show state.resolvedThroughSeq < l.seq ∧ l.seq ≤ line.seq
    have := h.inWindow l hl
    omega

theorem LineLoop.Sound.insertLine (h : loop.Sound state options) (hseq : loop.resolved < line.seq)
    (hcap : loop.overCap options line = false) : (loop.insertLine line).Sound state options := by
  unfold LineLoop.overCap at hcap
  simp only [Bool.or_eq_false_iff, decide_eq_false_iff_not] at hcap
  have hle := h.resolved_le
  constructor
  · show state.resolvedThroughSeq ≤ line.seq
    omega
  · show loop.acceptedLines + 1 = state.acceptedLines + (loop.inserts ++ [line]).length
    have := h.lines_eq
    simp only [List.length_append, List.length_singleton]
    omega
  · show loop.acceptedBytes + line.bytes =
      state.acceptedBytes + ((loop.inserts ++ [line]).map (·.bytes)).sum
    have := h.bytes_eq
    simp only [List.map_append, List.sum_append, List.map_cons, List.map_nil, List.sum_singleton]
    omega
  · show loop.quotaBytes + line.bytes = ((loop.inserts ++ [line]).map (·.bytes)).sum
    have := h.quotaBytes_eq
    simp only [List.map_append, List.sum_append, List.map_cons, List.map_nil, List.sum_singleton]
    omega
  · show loop.quotaLines + 1 = (loop.inserts ++ [line]).length
    simp [h.quotaLines_eq]
  · show loop.newlyStored + 1 = (loop.inserts ++ [line]).length
    simp [h.newly_eq]
  · exact h.dropped_eq
  · show ((loop.inserts ++ [line]).map (·.seq)).Pairwise (· < ·)
    rw [List.map_append, List.pairwise_append]
    refine ⟨h.increasing, by simp, ?_⟩
    intro a ha b hb
    obtain ⟨l, hl, rfl⟩ := List.mem_map.mp ha
    simp only [List.map_cons, List.map_nil, List.mem_singleton] at hb
    have := h.inWindow l hl
    omega
  · intro l hl
    show state.resolvedThroughSeq < l.seq ∧ l.seq ≤ line.seq
    rcases List.mem_append.mp hl with hold | hnew
    · have := h.inWindow l hold
      omega
    · rw [List.mem_singleton.mp hnew]
      omega
  · intro _
    show loop.acceptedLines + 1 ≤ options.maxLines
    omega
  · intro _
    show loop.acceptedBytes + line.bytes ≤ options.maxBytes
    omega

@[simp] theorem LineLoop.noteNew_resolved : (loop.noteNew line).resolved = loop.resolved := by
  unfold LineLoop.noteNew
  split <;> rfl

theorem LineLoop.Sound.step (h : loop.Sound state options) :
    (loop.step options line).Sound state options := by
  unfold LineLoop.step
  by_cases hres : line.seq ≤ loop.resolved
  · rw [if_pos hres]
    exact h.resolvedLine
  · rw [if_neg hres]
    have hnew : (loop.noteNew line).Sound state options := h.noteNew
    have hseq : (loop.noteNew line).resolved < line.seq := by
      rw [LineLoop.noteNew_resolved]
      omega
    by_cases hcap : (loop.noteNew line).overCap options line = true
    · simp only [hcap, if_true]
      exact hnew.dropLine hseq
    · simp only [hcap]
      exact hnew.insertLine hseq (by simpa using hcap)

theorem LineLoop.Sound.foldl {lines : List LogLine} (h : loop.Sound state options) :
    (lines.foldl (LineLoop.step options) loop).Sound state options := by
  induction lines generalizing loop with
  | nil => exact h
  | cons line rest ih => exact ih h.step

/-- **THE LOOP COUNTS WHAT IT STORES**, for any lines at all. -/
theorem runLines_sound (state : StreamState) (options : IngestOptions) (lines : List LogLine) :
    (runLines state options lines).Sound state options :=
  (LineLoop.start_sound state options).foldl

/-! ## §3. No sequence number is resolved uncounted. -/

/-- The sequence numbers resolved so far: the gap before the first new line, then
    every new line.  Before the first new line there are none. -/
structure LineLoop.Counted (state : StreamState) (loop : LineLoop) : Prop where
  resolved_eq : loop.resolved = state.resolvedThroughSeq + loop.seqGapLines + loop.newlyStored +
    loop.serverDroppedCount
  notNew : loop.sawNew = false → loop.seqGapLines = 0
  hasNew : loop.sawNew = true → 0 < loop.newlyStored + loop.serverDroppedCount

theorem LineLoop.start_counted (state : StreamState) (options : IngestOptions) :
    (LineLoop.start state options).Counted state := by
  constructor <;> simp [LineLoop.start]

/-- The next line of a contiguous batch: one past the last new line, if there was
    one. -/
def LineLoop.Expects (loop : LineLoop) (line : LogLine) : Prop :=
  loop.sawNew = true → line.seq = loop.resolved + 1

theorem LineLoop.resolvedLine_counters (loop : LineLoop) (line : LogLine) :
    (loop.resolvedLine line).resolved = loop.resolved ∧
      (loop.resolvedLine line).sawNew = loop.sawNew ∧
      (loop.resolvedLine line).seqGapLines = loop.seqGapLines ∧
      (loop.resolvedLine line).newlyStored = loop.newlyStored ∧
      (loop.resolvedLine line).serverDroppedCount = loop.serverDroppedCount := by
  unfold LineLoop.resolvedLine
  split
  · split_ifs <;> exact ⟨rfl, rfl, rfl, rfl, rfl⟩
  · exact ⟨rfl, rfl, rfl, rfl, rfl⟩

theorem LineLoop.Counted.step (options : IngestOptions) (h : loop.Counted state)
    (hexp : loop.Expects line) :
    (loop.step options line).Counted state ∧
      ((loop.step options line).sawNew = true → (loop.step options line).resolved = line.seq) := by
  unfold LineLoop.step
  by_cases hres : line.seq ≤ loop.resolved
  · rw [if_pos hres]
    obtain ⟨hr, hs, hg, hn, hd⟩ := LineLoop.resolvedLine_counters loop line
    refine ⟨⟨?_, ?_, ?_⟩, ?_⟩
    · rw [hr, hg, hn, hd]
      exact h.resolved_eq
    · rw [hs, hg]
      exact h.notNew
    · rw [hs, hn, hd]
      exact h.hasNew
    · -- An expected line is above `resolved` once a new line was seen.
      intro hsaw
      rw [hs] at hsaw
      have := hexp hsaw
      omega
  · rw [if_neg hres]
    have hcount := h.resolved_eq
    -- The new line is the next one, or its distance is the gap.
    have hgap : line.seq = state.resolvedThroughSeq + (loop.noteNew line).seqGapLines +
        loop.newlyStored + loop.serverDroppedCount + 1 := by
      unfold LineLoop.noteNew
      cases hsaw : loop.sawNew with
      | true =>
        have := hexp hsaw
        simp only [Bool.not_true, Bool.false_eq_true, if_false]
        omega
      | false =>
        have hzero := h.notNew hsaw
        simp only [Bool.not_false, if_true]
        split_ifs with hfar
        · omega
        · omega
    have hsame : (loop.noteNew line).newlyStored = loop.newlyStored ∧
        (loop.noteNew line).serverDroppedCount = loop.serverDroppedCount ∧
        (loop.noteNew line).sawNew = true := by
      unfold LineLoop.noteNew
      cases hsaw : loop.sawNew <;> simp [hsaw]
    obtain ⟨hn, hd, hs⟩ := hsame
    by_cases hcap : (loop.noteNew line).overCap options line = true
    · simp only [hcap, if_true]
      refine ⟨⟨?_, ?_, ?_⟩, fun _ => rfl⟩
      · show line.seq = state.resolvedThroughSeq + (loop.noteNew line).seqGapLines +
          (loop.noteNew line).newlyStored + ((loop.noteNew line).serverDroppedCount + 1)
        omega
      · intro hno
        exact absurd (hs.symm.trans hno) (by decide)
      · intro _
        show 0 < (loop.noteNew line).newlyStored + ((loop.noteNew line).serverDroppedCount + 1)
        omega
    · simp only [hcap]
      refine ⟨⟨?_, ?_, ?_⟩, fun _ => rfl⟩
      · show line.seq = state.resolvedThroughSeq + (loop.noteNew line).seqGapLines +
          ((loop.noteNew line).newlyStored + 1) + (loop.noteNew line).serverDroppedCount
        omega
      · intro hno
        exact absurd (hs.symm.trans hno) (by decide)
      · intro _
        show 0 < (loop.noteNew line).newlyStored + 1 + (loop.noteNew line).serverDroppedCount
        omega

theorem LineLoop.Counted.foldl {lines : List LogLine} (hcont : contiguous lines = true)
    (h : loop.Counted state) (hexp : ∀ line ∈ lines.head?, loop.Expects line) :
    (lines.foldl (LineLoop.step options) loop).Counted state := by
  induction lines generalizing loop with
  | nil => exact h
  | cons line rest ih =>
    obtain ⟨hc, hr⟩ := h.step options (hexp line rfl)
    refine ih ?_ hc ?_
    · cases rest with
      | nil => rfl
      | cons next more =>
        simp only [contiguous, Bool.and_eq_true] at hcont
        exact hcont.2
    · intro next hnext hsaw
      cases rest with
      | nil => cases hnext
      | cons next' more =>
        simp only [List.head?_cons, Option.mem_some_iff] at hnext
        simp only [contiguous, Bool.and_eq_true, decide_eq_true_eq] at hcont
        rw [← hnext, hcont.1, hr hsaw]

/-- **NO SEQUENCE NUMBER IS RESOLVED UNCOUNTED**: over contiguous lines the loop
    moves `resolved` by the gap plus the lines it stored plus those it dropped. -/
theorem runLines_counted (options : IngestOptions) (state : StreamState) {lines : List LogLine} (hcont : contiguous lines = true) :
    (runLines state options lines).Counted state := by
  refine LineLoop.Counted.foldl hcont (LineLoop.start_counted state options) ?_
  intro line _ hsaw
  cases hsaw

/-! ## §4. The books of a stream. -/

/-- The books balance: what was stored is counted once each, within the caps and
    at or below `resolvedThroughSeq`, and nothing resolved is missing from the
    three counters. -/
structure Balanced (caps : Caps) (stream : Stream) : Prop where
  nodup : (stream.log.map (·.seq)).Nodup
  resolved : ∀ l ∈ stream.log, l.seq ≤ stream.state.resolvedThroughSeq
  lines_eq : stream.state.acceptedLines = stream.log.length
  lines_le : stream.state.acceptedLines ≤ caps.maxLines
  bytes_eq : stream.state.acceptedBytes = (stream.log.map (·.bytes)).sum
  bytes_le : stream.state.acceptedBytes ≤ caps.maxBytes
  counted : stream.state.resolvedThroughSeq ≤
    stream.state.acceptedLines + stream.state.serverDroppedLines + stream.state.agentGapLines

theorem balanced_fresh (caps : Caps) (enabled : Bool) : Balanced caps (.fresh enabled) := by
  constructor <;> simp [Stream.fresh, StreamState.fresh]

theorem Balanced.of_sameBooks {caps : Caps} {stream next : Stream} (h : Balanced caps stream)
    (hbooks : SameBooks stream.state next.state) (hlog : next.log = stream.log) :
    Balanced caps next := by
  constructor
  · rw [hlog]
    exact h.nodup
  · rw [hlog, hbooks.resolved]
    exact h.resolved
  · rw [hlog, hbooks.acceptedLines]
    exact h.lines_eq
  · rw [hbooks.acceptedLines]
    exact h.lines_le
  · rw [hlog, hbooks.acceptedBytes]
    exact h.bytes_eq
  · rw [hbooks.acceptedBytes]
    exact h.bytes_le
  · rw [hbooks.resolved, hbooks.acceptedLines, hbooks.serverDropped, hbooks.agentGap]
    exact h.counted

variable {caps : Caps} {stream : Stream} {d : Delivery}

theorem decide_of_runs (h : runs stream.state d.now d.batch) :
    stream.decide caps d = applied stream.state d.batch
      (runLines stream.state (d.options caps) (sortBySeq d.batch.lines)) :=
  resolveIngest_of_runs (d.options caps) h

theorem decide_of_not_runs (caps : Caps) (h : ¬ runs stream.state d.now d.batch) :
    SameBooks stream.state (stream.ingest caps d).state ∧
      (stream.decide caps d).inserts = [] ∧ (stream.decide caps d).delta = ZERO_DELTA :=
  resolveIngest_of_not_runs (d.options caps) h

theorem seqGap_le_agentGap (batch : Batch) {loop : LineLoop} (h : loop.Counted state) :
    state.agentGapLines + loop.seqGapLines ≤
      (if !pureResolvedReplay state batch loop then
        state.agentGapLines + max (safeCount batch.droppedBefore) loop.seqGapLines
      else state.agentGapLines) := by
  by_cases hpure : pureResolvedReplay state batch loop = true
  · have hzero : loop.seqGapLines = 0 := by
      cases hsaw : loop.sawNew with
      | false => exact h.notNew hsaw
      | true =>
        have hnew := h.hasNew hsaw
        unfold pureResolvedReplay at hpure
        simp only [Bool.and_eq_true, decide_eq_true_eq] at hpure
        omega
    simp only [hpure, Bool.not_true, Bool.false_eq_true, if_false]
    omega
  · simp only [hpure, Bool.not_false, if_true]
    omega

theorem Balanced.ingest_of_runs (h : Balanced caps stream)
    (hruns : runs stream.state d.now d.batch) : Balanced caps (stream.ingest caps d) := by
  have hsound := runLines_sound stream.state (d.options caps) (sortBySeq d.batch.lines)
  have hcount := runLines_counted (d.options caps) stream.state hruns.2.2.2
  have hgap := seqGap_le_agentGap d.batch hcount
  unfold Stream.ingest
  rw [decide_of_runs hruns]
  generalize runLines stream.state (d.options caps) (sortBySeq d.batch.lines) = loop
    at hsound hcount hgap ⊢
  constructor
  · -- Old lines are at or below the old mark, new ones above it.
    show ((stream.log ++ loop.inserts).map (·.seq)).Nodup
    rw [List.map_append, List.nodup_append]
    refine ⟨h.nodup, hsound.increasing.imp Nat.ne_of_lt, ?_⟩
    intro a ha b hb hab
    obtain ⟨l, hl, rfl⟩ := List.mem_map.mp ha
    obtain ⟨l', hl', rfl⟩ := List.mem_map.mp hb
    have := h.resolved l hl
    have := hsound.inWindow l' hl'
    omega
  · intro l hl
    show l.seq ≤ loop.resolved
    rcases List.mem_append.mp hl with hold | hnew
    · exact (h.resolved l hold).trans hsound.resolved_le
    · exact (hsound.inWindow l hnew).2
  · show loop.acceptedLines = (stream.log ++ loop.inserts).length
    rw [List.length_append, ← h.lines_eq]
    exact hsound.lines_eq
  · exact hsound.lines_le h.lines_le
  · show loop.acceptedBytes = ((stream.log ++ loop.inserts).map (·.bytes)).sum
    rw [List.map_append, List.sum_append, ← h.bytes_eq]
    exact hsound.bytes_eq
  · exact hsound.bytes_le h.bytes_le
  · show loop.resolved ≤ loop.acceptedLines + loop.serverDroppedLines +
      (if !pureResolvedReplay stream.state d.batch loop then
        stream.state.agentGapLines + max (safeCount d.batch.droppedBefore) loop.seqGapLines
      else stream.state.agentGapLines)
    have hres := hcount.resolved_eq
    have hold := h.counted
    have hlines := hsound.lines_eq
    have hdrop := hsound.dropped_eq
    have hnewly := hsound.newly_eq
    omega

theorem Balanced.ingest (h : Balanced caps stream) : Balanced caps (stream.ingest caps d) := by
  by_cases hruns : runs stream.state d.now d.batch
  · exact h.ingest_of_runs hruns
  · obtain ⟨hbooks, hins, -⟩ := decide_of_not_runs caps hruns
    refine h.of_sameBooks hbooks ?_
    show stream.log ++ (stream.decide caps d).inserts = stream.log
    rw [hins, List.append_nil]

theorem Balanced.call (h : Balanced caps stream) (c : StreamCall) :
    Balanced caps (stream.call caps c) := by
  cases c with
  | ingest d => exact h.ingest
  | close now =>
    show Balanced caps { stream with state := closeClaimStream now stream.state }
    unfold closeClaimStream
    split_ifs <;> exact ⟨h.1, h.2, h.3, h.4, h.5, h.6, h.7⟩
  | abandon now =>
    show Balanced caps { stream with state := abandonExpiredStream now stream.state }
    unfold abandonExpiredStream
    split
    · split_ifs <;> exact ⟨h.1, h.2, h.3, h.4, h.5, h.6, h.7⟩
    · exact h

theorem balanced_of_reachable (h : Reachable (streamSystem caps) anyStep stream) :
    Balanced caps stream := by
  refine h.invariant ?_ ?_
  · rintro _ ⟨enabled, rfl⟩
    exact balanced_fresh caps enabled
  · rintro stream c _ hb _ rfl
    exact hb.call c

/-- The mark never moves back and a batch is charged exactly what it stores. -/
theorem decide_resolved_and_delta :
    stream.state.resolvedThroughSeq ≤ (stream.ingest caps d).state.resolvedThroughSeq ∧
      (stream.decide caps d).delta.quotaBytes =
        ((stream.decide caps d).inserts.map (·.bytes)).sum ∧
      (stream.decide caps d).delta.quotaLines = (stream.decide caps d).inserts.length := by
  by_cases hruns : runs stream.state d.now d.batch
  · have hsound := runLines_sound stream.state (d.options caps) (sortBySeq d.batch.lines)
    unfold Stream.ingest
    rw [decide_of_runs hruns]
    exact ⟨hsound.resolved_le, hsound.quotaBytes_eq, hsound.quotaLines_eq⟩
  · obtain ⟨hbooks, hins, hdelta⟩ := decide_of_not_runs caps hruns
    rw [hins, hdelta]
    exact ⟨hbooks.resolved.ge, rfl, rfl⟩

/-- **THE BOOKS OF A LOG STREAM BALANCE** in every state that any sequence of
    batches, closes and sweeps reaches from a fresh row, and for whatever batch
    arrives next. -/
theorem log_stream_balanced (caps : Caps) (stream : Stream)
    (h : Reachable (streamSystem caps) anyStep stream) :
    ((stream.log.map (·.seq)).Nodup ∧
      (∀ l ∈ stream.log, l.seq ≤ stream.state.resolvedThroughSeq)) ∧
    (stream.state.acceptedLines = stream.log.length ∧
      stream.state.acceptedLines ≤ caps.maxLines) ∧
    (stream.state.acceptedBytes = (stream.log.map (·.bytes)).sum ∧
      stream.state.acceptedBytes ≤ caps.maxBytes) ∧
    stream.state.acceptedLines + stream.state.serverDroppedLines + stream.state.agentGapLines ≥
      stream.state.resolvedThroughSeq ∧
    ∀ d : Delivery,
      stream.state.resolvedThroughSeq ≤ (stream.ingest caps d).state.resolvedThroughSeq ∧
      (stream.decide caps d).delta.quotaBytes =
        ((stream.decide caps d).inserts.map (·.bytes)).sum ∧
      (stream.decide caps d).delta.quotaLines = (stream.decide caps d).inserts.length := by
  have hb := balanced_of_reachable h
  exact ⟨⟨hb.nodup, hb.resolved⟩, ⟨hb.lines_eq, hb.lines_le⟩, ⟨hb.bytes_eq, hb.bytes_le⟩,
    hb.counted, fun _ => decide_resolved_and_delta⟩

/-- Two batches, the second first: lines 3 and 4 arrive with a gap of two, then
    lines 1 and 2 come too late. -/
def reorderedCalls : List StreamCall :=
  [ .ingest
      { batch := ⟨"k2", [⟨4, "d", 10⟩, ⟨3, "c", 10⟩], false, false, 0⟩
        now := 0, quotaLimitBytes := 0, quotaUsedBytes := 0 },
    .ingest
      { batch := ⟨"k1", [⟨1, "a", 10⟩, ⟨2, "b", 10⟩], false, false, 0⟩
        now := 1, quotaLimitBytes := 0, quotaUsedBytes := 0 } ]

/-- The two calls from a fresh row are a run, and its books balance: two stored,
    two missing, four resolved. -/
theorem log_stream_balanced_reordered :
    let stream := reorderedCalls.foldl (Stream.call claimCaps) (.fresh true)
    (stream.log.map (·.seq) = [3, 4] ∧ stream.state.agentGapLines = 2) ∧
      stream.state.acceptedLines + stream.state.serverDroppedLines + stream.state.agentGapLines ≥
        stream.state.resolvedThroughSeq := by
  refine ⟨by decide, (log_stream_balanced claimCaps _ ?_).2.2.2.1⟩
  exact (Reachable.of_init (S := streamSystem claimCaps) ⟨true, rfl⟩).run
    (Run.of_foldl (fun _ _ => rfl) reorderedCalls _)

end TokenTimer.Console
