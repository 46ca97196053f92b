/-
  TokenTimer.Console.Redelivery — what a batch that comes back does to a stream.

  Only the batch before is recognised by its key.  Every older one is run again,
  and has to be neutralised line by line.  A batch is SETTLED in a state when
  running it there would change nothing but the retry memory.  §1 to §3 prove
  that a batch is settled once it has been handled and that a settled batch is
  harmless; §4 that it stays settled UNLESS a later batch overwrites a recorded
  conflict: `conflicts` keeps ONE hash per sequence number, so the third content
  for a stored line pushes out the second, and the second is counted again when
  it comes back.

  Main results:
    * `ingest_of_settled` — a settled batch changes nothing.
    * `settled_after_ingest` — a handled batch is settled.
    * `redelivery_harmless_iff` — redeliveries never change the stream EXACTLY
        when no batch overwrites a recorded conflict.
-/

import TokenTimer.Console.ResolverInvariant
import Mathlib.Data.List.Induction

namespace TokenTimer.Console

open Lib.Runs

/-! ## §1. One line at a time. -/

/-- The line is at odds with what is stored under its number. -/
def Differs (stored : Nat → Option String) (line : LogLine) : Prop :=
  ∃ previous, stored line.seq = some previous ∧ previous ≠ "" ∧ previous ≠ line.hash

/-- If the line is at odds with what is stored, that is on record. -/
def Quiet (stored conflicts : Nat → Option String) (line : LogLine) : Prop :=
  Differs stored line → conflicts line.seq = some line.hash

variable {options : IngestOptions} {loop : LineLoop} {line : LogLine} {state : StreamState}

@[simp] theorem LineLoop.noteNew_stored : (loop.noteNew line).stored = loop.stored := by
  unfold LineLoop.noteNew
  split <;> rfl

@[simp] theorem LineLoop.noteNew_conflicts : (loop.noteNew line).conflicts = loop.conflicts := by
  unfold LineLoop.noteNew
  split <;> rfl

@[simp] theorem LineLoop.noteNew_conflictCount :
    (loop.noteNew line).conflictCount = loop.conflictCount := by
  unfold LineLoop.noteNew
  split <;> rfl

/-- What one line can do: record a conflict, be seen before, be dropped or be
    stored. -/
theorem LineLoop.step_cases (options : IngestOptions) (loop : LineLoop) (line : LogLine) :
    (line.seq ≤ loop.resolved ∧ Differs loop.stored line ∧
      loop.conflicts line.seq ≠ some line.hash ∧
      loop.step options line =
        { loop with
          conflicts := Function.update loop.conflicts line.seq (some line.hash)
          conflictCount := loop.conflictCount + 1 }) ∨
    (line.seq ≤ loop.resolved ∧ Quiet loop.stored loop.conflicts line ∧
      ∃ k, loop.step options line = { loop with duplicateCount := k }) ∨
    (loop.resolved < line.seq ∧ loop.step options line = (loop.noteNew line).dropLine line) ∨
    (loop.resolved < line.seq ∧ loop.step options line = (loop.noteNew line).insertLine line) := by
  unfold LineLoop.step
  by_cases hres : line.seq ≤ loop.resolved
  · rw [if_pos hres]
    unfold LineLoop.resolvedLine
    cases hst : loop.stored line.seq with
    | none =>
      refine .inr (.inl ⟨hres, ?_, _, rfl⟩)
      rintro ⟨previous, hprev, -⟩
      rw [hst] at hprev
      cases hprev
    | some previous =>
      by_cases hdiff : previous ≠ "" ∧ previous ≠ line.hash
      · by_cases hrec : loop.conflicts line.seq ≠ some line.hash
        · refine .inl ⟨hres, ⟨previous, hst, hdiff⟩, hrec, ?_⟩
          simp only [hdiff, hrec, if_true, ne_eq, not_false_eq_true, and_self]
        · refine .inr (.inl ⟨hres, fun _ => not_not.mp hrec, loop.duplicateCount, ?_⟩)
          simp only [hdiff, hrec, if_true, ne_eq, not_false_eq_true, and_self, if_false]
      · refine .inr (.inl ⟨hres, ?_, loop.duplicateCount + 1, ?_⟩)
        · rintro ⟨other, hother, hne⟩
          rw [hst, Option.some.injEq] at hother
          subst hother
          exact absurd hne hdiff
        · simp only [hdiff, if_false]
  · rw [if_neg hres]
    have hlt : loop.resolved < line.seq := by omega
    by_cases hcap : (loop.noteNew line).overCap options line = true
    · refine .inr (.inr (.inl ⟨hlt, ?_⟩))
      simp only [hcap, if_true]
    · refine .inr (.inr (.inr ⟨hlt, ?_⟩))
      simp only [hcap, Bool.false_eq_true, if_false]

/-- A line leaves alone what is kept under other numbers. -/
theorem LineLoop.step_frame (options : IngestOptions) (loop : LineLoop) {n : Nat} (hn : n ≠ line.seq) :
    (loop.step options line).stored n = loop.stored n ∧
      (loop.step options line).conflicts n = loop.conflicts n := by
  rcases loop.step_cases options line with ⟨-, -, -, h⟩ | ⟨-, -, k, h⟩ | ⟨-, h⟩ | ⟨-, h⟩ <;> rw [h]
  · exact ⟨rfl, Function.update_of_ne hn _ _⟩
  · exact ⟨rfl, rfl⟩
  · exact ⟨by simp [LineLoop.dropLine], by simp [LineLoop.dropLine]⟩
  · refine ⟨?_, by simp [LineLoop.insertLine]⟩
    show Function.update (loop.noteNew line).stored line.seq (some line.hash) n = loop.stored n
    rw [Function.update_of_ne hn, LineLoop.noteNew_stored]

/-- Nothing at or below the mark is ever stored again. -/
theorem LineLoop.step_stored_of_le {n : Nat} (hn : n ≤ loop.resolved) :
    (loop.step options line).stored n = loop.stored n := by
  by_cases heq : n = line.seq
  · subst heq
    rcases loop.step_cases options line with ⟨-, -, -, h⟩ | ⟨-, -, k, h⟩ | ⟨hlt, h⟩ | ⟨hlt, h⟩
    · rw [h]
    · rw [h]
    · omega
    · omega
  · exact (LineLoop.step_frame _ _ heq).1

theorem LineLoop.step_resolved (options : IngestOptions) (loop : LineLoop) (line : LogLine) :
    loop.resolved ≤ (loop.step options line).resolved ∧
      line.seq ≤ (loop.step options line).resolved ∧
      (loop.step options line).resolved ≤ max loop.resolved line.seq := by
  rcases loop.step_cases options line with ⟨hle, -, -, h⟩ | ⟨hle, -, k, h⟩ | ⟨hlt, h⟩ | ⟨hlt, h⟩ <;>
    rw [h]
  · exact ⟨le_refl _, hle, le_max_left _ _⟩
  · exact ⟨le_refl _, hle, le_max_left _ _⟩
  · exact ⟨hlt.le, le_refl _, le_max_right _ _⟩
  · exact ⟨hlt.le, le_refl _, le_max_right _ _⟩

theorem LineLoop.step_quiet (options : IngestOptions) (line : LogLine) (hbelow : ∀ n, loop.stored n ≠ none → n ≤ loop.resolved) :
    Quiet (loop.step options line).stored (loop.step options line).conflicts line := by
  rcases loop.step_cases options line with ⟨-, -, -, h⟩ | ⟨-, hq, k, h⟩ | ⟨hlt, h⟩ | ⟨hlt, h⟩ <;>
    rw [h]
  · exact fun _ => Function.update_self _ _ _
  · exact hq
  · rintro ⟨previous, hprev, -⟩
    have hst : loop.stored line.seq = some previous := by
      simpa [LineLoop.dropLine] using hprev
    have := hbelow line.seq (by simp [hst])
    omega
  · rintro ⟨previous, hprev, -, hne⟩
    have hst : some line.hash = some previous := by
      simpa [LineLoop.insertLine] using hprev
    exact absurd (Option.some.inj hst).symm hne

theorem LineLoop.step_storedBelow (hbelow : ∀ n, loop.stored n ≠ none → n ≤ loop.resolved) :
    ∀ n, (loop.step options line).stored n ≠ none → n ≤ (loop.step options line).resolved := by
  intro n hn
  by_cases heq : n = line.seq
  · rw [heq]
    exact (LineLoop.step_resolved options loop line).2.1
  · rw [(LineLoop.step_frame _ _ heq).1] at hn
    exact (hbelow n hn).trans (LineLoop.step_resolved options loop line).1

theorem LineLoop.step_conflictCount (options : IngestOptions) (loop : LineLoop) (line : LogLine) :
    loop.conflictCount ≤ (loop.step options line).conflictCount ∧
      (loop.step options line).conflictCount ≤ loop.conflictCount + 1 := by
  rcases loop.step_cases options line with ⟨-, -, -, h⟩ | ⟨-, -, k, h⟩ | ⟨-, h⟩ | ⟨-, h⟩ <;> rw [h]
  · exact ⟨Nat.le_succ _, le_refl _⟩
  · exact ⟨le_refl _, Nat.le_succ _⟩
  · simp [LineLoop.dropLine]
  · simp [LineLoop.insertLine]

theorem LineLoop.step_counts (options : IngestOptions) (hle : line.seq ≤ loop.resolved) (hdiff : Differs loop.stored line)
    (hrec : loop.conflicts line.seq ≠ some line.hash) :
    (loop.step options line).conflictCount = loop.conflictCount + 1 := by
  rcases loop.step_cases options line with ⟨-, -, -, h⟩ | ⟨-, hq, -⟩ | ⟨hlt, -⟩ | ⟨hlt, -⟩
  · rw [h]
  · exact absurd (hq hdiff) hrec
  · omega
  · omega

/-- The record of a number is the old one, or the line's. -/
theorem LineLoop.step_conflicts (options : IngestOptions) (loop : LineLoop) (line : LogLine) (n : Nat) :
    (loop.step options line).conflicts n = loop.conflicts n ∨
      (line.seq = n ∧ Differs loop.stored line ∧
        (loop.step options line).conflicts n = some line.hash) := by
  by_cases heq : n = line.seq
  · subst heq
    rcases loop.step_cases options line with ⟨-, hd, -, hs⟩ | ⟨-, -, k, hs⟩ | ⟨-, hs⟩ | ⟨-, hs⟩ <;>
      rw [hs]
    · exact .inr ⟨rfl, hd, Function.update_self _ _ _⟩
    · exact .inl rfl
    · left
      simp [LineLoop.dropLine]
    · left
      simp [LineLoop.insertLine]
  · exact .inl (LineLoop.step_frame _ _ heq).2

/-! ## §2. The lines of one batch. -/

section Lines

variable {lines : List LogLine}

/-- `loop` after the remaining lines. -/
abbrev LineLoop.run (options : IngestOptions) (loop : LineLoop) (lines : List LogLine) : LineLoop :=
  lines.foldl (LineLoop.step options) loop

theorem LineLoop.run_cons {rest : List LogLine} :
    loop.run options (line :: rest) = (loop.step options line).run options rest := rfl

theorem LineLoop.run_frame (options : IngestOptions) (loop : LineLoop) {n : Nat} (hn : n ∉ lines.map (·.seq)) :
    (loop.run options lines).stored n = loop.stored n ∧
      (loop.run options lines).conflicts n = loop.conflicts n := by
  induction lines generalizing loop with
  | nil => exact ⟨rfl, rfl⟩
  | cons line rest ih =>
    rw [List.map_cons, List.mem_cons, not_or] at hn
    obtain ⟨hst, hco⟩ := LineLoop.step_frame options loop hn.1
    obtain ⟨hst', hco'⟩ := ih (loop.step options line) hn.2
    exact ⟨hst'.trans hst, hco'.trans hco⟩

theorem LineLoop.run_resolved (options : IngestOptions) (loop : LineLoop) (lines : List LogLine) :
    loop.resolved ≤ (loop.run options lines).resolved ∧
      ∀ line ∈ lines, line.seq ≤ (loop.run options lines).resolved := by
  induction lines generalizing loop with
  | nil => exact ⟨le_refl _, by simp⟩
  | cons line rest ih =>
    obtain ⟨hle, hall⟩ := ih (loop.step options line)
    have hstep := LineLoop.step_resolved options loop line
    refine ⟨hstep.1.trans hle, ?_⟩
    rw [List.forall_mem_cons]
    exact ⟨hstep.2.1.trans hle, hall⟩

theorem LineLoop.run_stored_of_le (options : IngestOptions) (loop : LineLoop) (lines : List LogLine) {n : Nat} (hn : n ≤ loop.resolved) :
    (loop.run options lines).stored n = loop.stored n := by
  induction lines generalizing loop with
  | nil => rfl
  | cons line rest ih =>
    have hstep := LineLoop.step_resolved options loop line
    exact (ih (loop.step options line) (hn.trans hstep.1)).trans
      (LineLoop.step_stored_of_le hn)

theorem LineLoop.run_storedBelow (hbelow : ∀ n, loop.stored n ≠ none → n ≤ loop.resolved) :
    ∀ n, (loop.run options lines).stored n ≠ none → n ≤ (loop.run options lines).resolved := by
  induction lines generalizing loop with
  | nil => exact hbelow
  | cons line rest ih => exact ih (LineLoop.step_storedBelow hbelow)

theorem LineLoop.run_conflictCount (options : IngestOptions) (loop : LineLoop) (lines : List LogLine) :
    loop.conflictCount ≤ (loop.run options lines).conflictCount ∧
      (loop.run options lines).conflictCount ≤ loop.conflictCount + lines.length := by
  induction lines generalizing loop with
  | nil => exact ⟨le_refl _, le_refl _⟩
  | cons line rest ih =>
    have hstep := LineLoop.step_conflictCount options loop line
    have hrest := ih (loop.step options line)
    rw [List.length_cons]
    constructor
    · exact hstep.1.trans hrest.1
    · have := hrest.2
      rw [LineLoop.run_cons]
      omega

/-- Every line of a batch is quiet once the batch is through: with distinct
    numbers no line touches another one's record. -/
theorem LineLoop.run_quiet (options : IngestOptions) (loop : LineLoop) (hnodup : (lines.map (·.seq)).Nodup)
    (hbelow : ∀ n, loop.stored n ≠ none → n ≤ loop.resolved) :
    ∀ line ∈ lines,
      Quiet (loop.run options lines).stored (loop.run options lines).conflicts line := by
  induction lines generalizing loop with
  | nil => simp
  | cons first rest ih =>
    rw [List.map_cons, List.nodup_cons] at hnodup
    rw [List.forall_mem_cons]
    refine ⟨?_, ih _ hnodup.2 (LineLoop.step_storedBelow hbelow)⟩
    obtain ⟨hst, hco⟩ :=
      LineLoop.run_frame options (loop.step options first) hnodup.1
    have hq := LineLoop.step_quiet options first hbelow
    unfold Quiet Differs at hq ⊢
    rw [LineLoop.run_cons, hst, hco]
    exact hq

theorem LineLoop.run_counts (options : IngestOptions) (loop : LineLoop) (hnodup : (lines.map (·.seq)).Nodup) (hmem : line ∈ lines)
    (hle : line.seq ≤ loop.resolved) (hdiff : Differs loop.stored line)
    (hrec : loop.conflicts line.seq ≠ some line.hash) :
    loop.conflictCount + 1 ≤ (loop.run options lines).conflictCount := by
  induction lines generalizing loop with
  | nil => cases hmem
  | cons first rest ih =>
    rw [List.map_cons, List.nodup_cons] at hnodup
    have hstep := LineLoop.step_conflictCount options loop first
    have hrest := LineLoop.run_conflictCount options (loop.step options first) rest
    rcases List.mem_cons.mp hmem with rfl | hin
    · have hone := LineLoop.step_counts options hle hdiff hrec
      have := hrest.1
      rw [LineLoop.run_cons]
      omega
    · -- The lines before it leave its record alone.
      have hne : line.seq ≠ first.seq := by
        intro heq
        exact hnodup.1 (heq ▸ List.mem_map_of_mem hin)
      obtain ⟨hst, hco⟩ := LineLoop.step_frame options loop hne
      have hres := LineLoop.step_resolved options loop first
      have hcount := ih (loop.step options first) hnodup.2 hin (hle.trans hres.1)
        (by unfold Differs at hdiff ⊢; rw [hst]; exact hdiff) (by rw [hco]; exact hrec)
      have := hstep.1
      rw [LineLoop.run_cons]
      omega

/-- The record of a number after the batch is the old one, or that of a line of
    the batch at odds with the stored one. -/
theorem LineLoop.run_conflicts (options : IngestOptions) (loop : LineLoop) (hnodup : (lines.map (·.seq)).Nodup) (n : Nat) :
    (loop.run options lines).conflicts n = loop.conflicts n ∨
      ∃ line ∈ lines, line.seq = n ∧ Differs loop.stored line ∧
        (loop.run options lines).conflicts n = some line.hash := by
  induction lines generalizing loop with
  | nil => exact .inl rfl
  | cons first rest ih =>
    rw [List.map_cons, List.nodup_cons] at hnodup
    rw [LineLoop.run_cons]
    rcases ih (loop.step options first) hnodup.2 with hsame | ⟨l, hl, hn, hd, hc⟩
    · rw [hsame]
      rcases LineLoop.step_conflicts options loop first n with
        hstep | ⟨hn, hd, hc⟩
      · exact .inl hstep
      · exact .inr ⟨first, List.mem_cons_self, hn, hd, hc⟩
    · refine .inr ⟨l, List.mem_cons_of_mem _ hl, hn, ?_, hc⟩
      have hne : l.seq ≠ first.seq := fun heq => hnodup.1 (heq ▸ List.mem_map_of_mem hl)
      unfold Differs at hd ⊢
      rw [(LineLoop.step_frame _ _ hne).1] at hd
      exact hd

theorem LineLoop.run_of_quiet (options : IngestOptions) (loop : LineLoop)
    (h : ∀ line ∈ lines, line.seq ≤ loop.resolved ∧ Quiet loop.stored loop.conflicts line) :
    ∃ k, loop.run options lines = { loop with duplicateCount := k } := by
  induction lines generalizing loop with
  | nil => exact ⟨loop.duplicateCount, rfl⟩
  | cons first rest ih =>
    rw [List.forall_mem_cons] at h
    have hfirst : ∃ k, loop.step options first = { loop with duplicateCount := k } := by
      rcases loop.step_cases options first with ⟨-, hd, hne, -⟩ | ⟨-, -, hk⟩ | ⟨hlt, -⟩ | ⟨hlt, -⟩
      · exact absurd (h.1.2 hd) hne
      · exact hk
      · have := h.1.1
        omega
      · have := h.1.1
        omega
    obtain ⟨k, hk⟩ := hfirst
    obtain ⟨k', hk'⟩ := ih ({ loop with duplicateCount := k }) h.2
    refine ⟨k', ?_⟩
    rw [LineLoop.run_cons, hk, hk']

theorem contiguous_pairwise (h : contiguous lines = true) :
    (lines.map (·.seq)).Pairwise (· < ·) := by
  have hchain : (lines.map (·.seq)).IsChain (· < ·) := by
    induction lines with
    | nil => exact List.IsChain.nil
    | cons a rest ih =>
      cases rest with
      | nil => exact List.IsChain.singleton _
      | cons b more =>
        simp only [contiguous, Bool.and_eq_true, decide_eq_true_eq] at h
        refine List.IsChain.cons_cons ?_ (ih h.2)
        show a.seq < b.seq
        omega
  exact List.isChain_iff_pairwise.mp hchain

theorem contiguous_congr {other : List LogLine}
    (h : lines.map (·.seq) = other.map (·.seq)) : contiguous lines = contiguous other := by
  induction lines generalizing other with
  | nil =>
    cases other with
    | nil => rfl
    | cons _ _ => cases h
  | cons a rest ih =>
    cases other with
    | nil => cases h
    | cons a' rest' =>
      rw [List.map_cons, List.map_cons, List.cons.injEq] at h
      have hrest := ih h.2
      cases rest with
      | nil =>
        cases rest' with
        | nil => rfl
        | cons _ _ => exact absurd h.2 (by simp)
      | cons b more =>
        cases rest' with
        | nil => exact absurd h.2 (by simp)
        | cons b' more' =>
          have hb : b.seq = b'.seq := by
            have := h.2
            rw [List.map_cons, List.map_cons, List.cons.injEq] at this
            exact this.1
          simp only [contiguous, h.1, hb, hrest]

theorem mem_sortBySeq : line ∈ sortBySeq lines ↔ line ∈ lines :=
  List.mem_insertionSort _

theorem sortBySeq_map_seq :
    (sortBySeq lines).map (·.seq) = (lines.map (·.seq)).insertionSort (· ≤ ·) :=
  List.map_insertionSort (fun a b : LogLine => a.seq ≤ b.seq) (· ≤ ·) (·.seq) lines
    (fun _ _ _ _ => Iff.rfl)

end Lines

/-! ## §3. Settled batches. -/

def Batch.contents (batch : Batch) : Bool × Nat × List (Nat × String) :=
  (batch.final, safeCount batch.droppedBefore, batch.lines.map fun l => (l.seq, l.hash))

structure SettledLines (state : StreamState) (batch : Batch) : Prop where
  nonempty : batch.lines ≠ []
  notFinal : batch.final = false
  quiet : ∀ line ∈ batch.lines,
    line.seq ≤ state.resolvedThroughSeq ∧ Quiet state.stored state.conflicts line

/-- Handling the batch at `now` or later would change nothing: the stream takes no
    lines any more, the batch is malformed, or all its lines are settled. -/
def Settled (state : StreamState) (now : Nat) (batch : Batch) : Prop :=
  ¬ accepting state now ∨ contiguous (sortBySeq batch.lines) = false ∨ SettledLines state batch

/-- Nothing is stored above the mark. -/
def StoredBelow (state : StreamState) : Prop :=
  ∀ n, state.stored n ≠ none → n ≤ state.resolvedThroughSeq

/-- Two streams that differ in the retry memory only. -/
structure SameStream (p q : Stream) : Prop where
  books : SameBooks p.state q.state
  log : q.log = p.log
  quotaBytes : q.quotaBytes = p.quotaBytes
  quotaLines : q.quotaLines = p.quotaLines

theorem SameStream.refl (p : Stream) : SameStream p p :=
  ⟨.refl _, rfl, rfl, rfl⟩

variable {p q : Stream}

theorem SameStream.symm (h : SameStream p q) : SameStream q p :=
  ⟨h.books.symm, h.log.symm, h.quotaBytes.symm, h.quotaLines.symm⟩

theorem SameStream.trans {r : Stream} (h : SameStream p q) (h' : SameStream q r) :
    SameStream p r :=
  ⟨h.books.trans h'.books, h'.log.trans h.log, h'.quotaBytes.trans h.quotaBytes,
    h'.quotaLines.trans h.quotaLines⟩

section Settled

variable {s t : StreamState} {now now' : Nat} {batch other : Batch}

theorem SameBooks.accepting_iff (h : SameBooks s t) : accepting t now ↔ accepting s now := by
  unfold accepting windowClosed
  rw [h.streamingEnabled, h.status, h.acceptUntil]

theorem accepting.earlier (h : accepting s now') (hle : now ≤ now') : accepting s now := by
  refine ⟨h.1, h.2.1, ?_⟩
  have hopen := h.2.2
  unfold windowClosed at hopen ⊢
  cases hw : s.acceptUntil with
  | none => rfl
  | some u =>
    simp only [hw, decide_eq_false_iff_not] at hopen ⊢
    omega

theorem Settled.later (h : Settled s now batch) (hle : now ≤ now') : Settled s now' batch := by
  rcases h with hacc | hcont | hlines
  · exact .inl fun hlater => hacc (hlater.earlier hle)
  · exact .inr (.inl hcont)
  · exact .inr (.inr hlines)

theorem Settled.of_sameBooks (hbooks : SameBooks s t) (h : Settled s now batch) :
    Settled t now batch := by
  rcases h with hacc | hcont | hlines
  · exact .inl fun ht => hacc (hbooks.accepting_iff.mp ht)
  · exact .inr (.inl hcont)
  · refine .inr (.inr ⟨hlines.nonempty, hlines.notFinal, ?_⟩)
    rw [hbooks.resolved, hbooks.stored, hbooks.conflicts]
    exact hlines.quiet

theorem Settled.of_contents (hsame : other.contents = batch.contents) (h : Settled s now batch) :
    Settled s now other := by
  unfold Batch.contents at hsame
  simp only [Prod.mk.injEq] at hsame
  obtain ⟨hfinal, -, hlines⟩ := hsame
  have hseqs : other.lines.map (·.seq) = batch.lines.map (·.seq) := by
    have := congrArg (List.map Prod.fst) hlines
    simpa [List.map_map, Function.comp_def] using this
  rcases h with hacc | hcont | hset
  · exact .inl hacc
  · refine .inr (.inl ?_)
    rw [← hcont]
    apply contiguous_congr
    rw [sortBySeq_map_seq, sortBySeq_map_seq, hseqs]
  · refine .inr (.inr ⟨?_, hfinal.trans hset.notFinal, ?_⟩)
    · intro hnil
      rw [hnil] at hseqs
      exact hset.nonempty (List.map_eq_nil_iff.mp hseqs.symm)
    · intro line hl
      have hmem : (line.seq, line.hash) ∈ batch.lines.map fun l => (l.seq, l.hash) := by
        rw [← hlines]
        exact List.mem_map_of_mem (f := fun l : LogLine => (l.seq, l.hash)) hl
      obtain ⟨l', hl', heq⟩ := List.mem_map.mp hmem
      simp only [Prod.mk.injEq] at heq
      have := hset.quiet l' hl'
      unfold Quiet Differs at this ⊢
      rw [heq.1, heq.2] at this
      exact this

end Settled

/-! ## §4. Handling a batch. -/

section Handling

variable {caps : Caps} {p q stream : Stream} {d : Delivery}

theorem LineLoop.start_congr {s t : StreamState} (h : SameBooks s t) (options : IngestOptions) :
    LineLoop.start t options = LineLoop.start s options := by
  unfold LineLoop.start
  rw [h.resolved, h.acceptedLines, h.acceptedBytes, h.serverDropped, h.conflictCount, h.conflicts,
    h.stored]

theorem runLines_eq_run (state : StreamState) (options : IngestOptions) (lines : List LogLine) :
    runLines state options lines = (LineLoop.start state options).run options lines := rfl

theorem ingest_congr (h : SameStream p q) (hp : runs p.state d.now d.batch)
    (hq : runs q.state d.now d.batch) : SameStream (p.ingest caps d) (q.ingest caps d) := by
  have hloop : runLines q.state (d.options caps) (sortBySeq d.batch.lines) =
      runLines p.state (d.options caps) (sortBySeq d.batch.lines) := by
    rw [runLines_eq_run, runLines_eq_run, LineLoop.start_congr h.books]
  have hpure : ∀ loop, pureResolvedReplay q.state d.batch loop =
      pureResolvedReplay p.state d.batch loop := by
    intro loop
    unfold pureResolvedReplay allResolved
    rw [h.books.resolved]
  unfold Stream.ingest
  rw [decide_of_runs hp, decide_of_runs hq, hloop]
  generalize runLines p.state (d.options caps) (sortBySeq d.batch.lines) = loop
  refine ⟨⟨h.books.streamingEnabled, ?_, h.books.acceptUntil, rfl, rfl, rfl, rfl, ?_, rfl, rfl, rfl⟩,
    ?_, ?_, ?_⟩
  · show statusAfter q.state d.batch loop = statusAfter p.state d.batch loop
    unfold statusAfter
    rw [h.books.status]
  · show (if !pureResolvedReplay q.state d.batch loop then
        q.state.agentGapLines + max (safeCount d.batch.droppedBefore) loop.seqGapLines
      else q.state.agentGapLines) = (if !pureResolvedReplay p.state d.batch loop then
        p.state.agentGapLines + max (safeCount d.batch.droppedBefore) loop.seqGapLines
      else p.state.agentGapLines)
    rw [hpure, h.books.agentGap]
  · show q.log ++ loop.inserts = p.log ++ loop.inserts
    rw [h.log]
  · show q.quotaBytes + loop.quotaBytes = p.quotaBytes + loop.quotaBytes
    rw [h.quotaBytes]
  · show q.quotaLines + loop.quotaLines = p.quotaLines + loop.quotaLines
    rw [h.quotaLines]

theorem ingest_of_not_runs (caps : Caps) (h : ¬ runs stream.state d.now d.batch) :
    SameStream stream (stream.ingest caps d) := by
  obtain ⟨hbooks, hins, hdelta⟩ := decide_of_not_runs caps h
  refine ⟨hbooks, ?_, ?_, ?_⟩
  · show stream.log ++ (stream.decide caps d).inserts = stream.log
    rw [hins, List.append_nil]
  · show stream.quotaBytes + (stream.decide caps d).delta.quotaBytes = stream.quotaBytes
    rw [hdelta]
    rfl
  · show stream.quotaLines + (stream.decide caps d).delta.quotaLines = stream.quotaLines
    rw [hdelta]
    rfl

/-- **A SETTLED BATCH IS HARMLESS.** -/
theorem ingest_of_settled (h : Settled stream.state d.now d.batch) :
    SameStream stream (stream.ingest caps d) := by
  by_cases hruns : runs stream.state d.now d.batch
  · rcases h with hacc | hcont | hset
    · exact absurd hruns.2.1 hacc
    · exact absurd (hruns.2.2.2.symm.trans hcont) (by decide)
    · -- The loop only counts duplicates, and the batch counts as a replay.
      have hquiet : ∀ line ∈ sortBySeq d.batch.lines,
          line.seq ≤ (LineLoop.start stream.state (d.options caps)).resolved ∧
            Quiet (LineLoop.start stream.state (d.options caps)).stored
              (LineLoop.start stream.state (d.options caps)).conflicts line :=
        fun line hl => hset.quiet line (mem_sortBySeq.mp hl)
      obtain ⟨k, hk⟩ := LineLoop.run_of_quiet (d.options caps) _ hquiet
      have hpure : pureResolvedReplay stream.state d.batch
          { LineLoop.start stream.state (d.options caps) with duplicateCount := k } = true := by
        unfold pureResolvedReplay allResolved
        simp only [LineLoop.start, Bool.and_eq_true, decide_eq_true_eq, List.all_eq_true, and_true]
        exact ⟨List.length_pos_iff.mpr hset.nonempty, fun l hl => (hset.quiet l hl).1⟩
      unfold Stream.ingest
      rw [decide_of_runs hruns, runLines_eq_run, hk]
      refine ⟨⟨rfl, ?_, rfl, rfl, rfl, rfl, rfl, ?_, rfl, rfl, rfl⟩, List.append_nil _, rfl, rfl⟩
      · show statusAfter stream.state d.batch _ = stream.state.status
        unfold statusAfter
        simp [hset.notFinal, LineLoop.start]
      · show (if !pureResolvedReplay stream.state d.batch _ then _ else stream.state.agentGapLines) =
          stream.state.agentGapLines
        rw [hpure]
        rfl
  · exact ingest_of_not_runs _ hruns

/-- The state after a batch that ran, field by field where it is used. -/
theorem ingest_state_of_runs (caps : Caps) (h : runs stream.state d.now d.batch) :
    let loop := (LineLoop.start stream.state (d.options caps)).run (d.options caps)
      (sortBySeq d.batch.lines)
    (stream.ingest caps d).state.resolvedThroughSeq = loop.resolved ∧
      (stream.ingest caps d).state.stored = loop.stored ∧
      (stream.ingest caps d).state.conflicts = loop.conflicts ∧
      (stream.ingest caps d).state.conflictCount = loop.conflictCount ∧
      (stream.ingest caps d).state.status = statusAfter stream.state d.batch loop ∧
      (stream.ingest caps d).state.streamingEnabled = stream.state.streamingEnabled ∧
      (stream.ingest caps d).state.acceptUntil = stream.state.acceptUntil ∧
      (stream.ingest caps d).state.lastBatchKey = some d.batch.key := by
  unfold Stream.ingest
  rw [decide_of_runs h, runLines_eq_run]
  exact ⟨rfl, rfl, rfl, rfl, rfl, rfl, rfl, rfl⟩

theorem runs_nodup (h : runs stream.state d.now d.batch) :
    ((sortBySeq d.batch.lines).map (·.seq)).Nodup :=
  (contiguous_pairwise h.2.2.2).imp Nat.ne_of_lt

theorem StoredBelow.ingest (h : StoredBelow stream.state) :
    StoredBelow (stream.ingest caps d).state := by
  by_cases hruns : runs stream.state d.now d.batch
  · obtain ⟨hres, hst, -⟩ := ingest_state_of_runs caps hruns
    unfold StoredBelow
    rw [hres, hst]
    exact LineLoop.run_storedBelow h
  · have hbooks := (ingest_of_not_runs caps hruns).books
    unfold StoredBelow
    rw [hbooks.resolved, hbooks.stored]
    exact h

/-- **A HANDLED BATCH IS SETTLED**, unless it was taken for the batch before:
    then that one was settled. -/
theorem settled_after_ingest (hbelow : StoredBelow stream.state) (hrej : d.batch.rejected = false)
    (hshape : d.batch.lines ≠ [] ∨ d.batch.final = true)
    (hlast : isLastBatch stream.state d.batch = true → Settled stream.state d.now d.batch) :
    Settled (stream.ingest caps d).state d.now d.batch := by
  by_cases hruns : runs stream.state d.now d.batch
  · obtain ⟨hres, hst, hco, -, hstatus, -, -, -⟩ := ingest_state_of_runs caps hruns
    cases hfinal : d.batch.final with
    | true =>
      -- A final batch closes the stream.
      left
      rintro ⟨-, hopen, -⟩
      rw [hstatus] at hopen
      unfold statusAfter at hopen
      simp [hfinal] at hopen
    | false =>
      right; right
      refine ⟨hshape.resolve_right (by simp [hfinal]), hfinal, ?_⟩
      intro line hl
      rw [hres, hst, hco]
      have hmem := mem_sortBySeq.mpr hl
      exact ⟨(LineLoop.run_resolved _ _ _).2 line hmem,
        LineLoop.run_quiet _ (LineLoop.start stream.state (d.options caps))
          (runs_nodup hruns) hbelow line hmem⟩
  · refine Settled.of_sameBooks (ingest_of_not_runs caps hruns).books ?_
    cases hl : isLastBatch stream.state d.batch with
    | true => exact hlast hl
    | false =>
      by_cases hacc : accepting stream.state d.now
      · right; left
        by_contra hcont
        exact hruns ⟨hl, hacc, hrej, by simpa using hcont⟩
      · exact .inl hacc

/-- A line of the batch is at odds with the stored one AND with the one on
    record, so that the record is overwritten. -/
def Overwrites (state : StreamState) (now : Nat) (batch : Batch) : Prop :=
  runs state now batch ∧ batch.final = false ∧
    ∃ line ∈ batch.lines, Differs state.stored line ∧
      ∃ h, state.conflicts line.seq = some h ∧ h ≠ line.hash

/-- A stream that takes no lines takes none after any batch either. -/
theorem accepting_of_ingest (h : accepting (stream.ingest caps d).state d.now) :
    accepting stream.state d.now := by
  by_cases hruns : runs stream.state d.now d.batch
  · exact hruns.2.1
  · exact (ingest_of_not_runs caps hruns).books.accepting_iff.mp h

/-- **SETTLED BATCHES STAY SETTLED** under a batch that overwrites no record. -/
theorem Settled.ingest {batch : Batch} (h : Settled stream.state d.now batch)
    (hover : ¬ Overwrites stream.state d.now d.batch) :
    Settled (stream.ingest caps d).state d.now batch := by
  by_cases hruns : runs stream.state d.now d.batch
  · rcases h with hacc | hcont | hset
    · exact .inl fun hlater => hacc (accepting_of_ingest hlater)
    · exact .inr (.inl hcont)
    obtain ⟨hres, hst, hco, -, hstatus, -, -, -⟩ := ingest_state_of_runs caps hruns
    cases hfinal : d.batch.final with
    | true =>
      left
      rintro ⟨-, hopen, -⟩
      rw [hstatus] at hopen
      unfold statusAfter at hopen
      simp [hfinal] at hopen
    | false =>
      right; right
      refine ⟨hset.nonempty, hset.notFinal, ?_⟩
      intro line hl
      obtain ⟨hle, hquiet⟩ := hset.quiet line hl
      rw [hres, hst, hco]
      refine ⟨hle.trans (LineLoop.run_resolved _ (LineLoop.start stream.state (d.options caps)) _).1, ?_⟩
      intro hdiff
      have hstored := LineLoop.run_stored_of_le (d.options caps) (LineLoop.start stream.state (d.options caps)) (sortBySeq d.batch.lines) hle
      have hold : Differs stream.state.stored line := by
        unfold Differs at hdiff ⊢
        rw [hstored] at hdiff
        exact hdiff
      have hrec := hquiet hold
      rcases LineLoop.run_conflicts (d.options caps) (LineLoop.start stream.state (d.options caps)) (runs_nodup hruns) line.seq with
        hsame | ⟨l, hlm, hseq, hld, hnew⟩
      · rw [hsame]
        exact hrec
      · -- The line that wrote the record agrees with it, or it would overwrite it.
        rw [hnew]
        by_contra hne
        refine hover ⟨hruns, hfinal, l, mem_sortBySeq.mp hlm, hld, line.hash, ?_, ?_⟩
        · rw [hseq]
          exact hrec
        · intro heq
          exact hne (by rw [heq])
  · exact h.of_sameBooks (ingest_of_not_runs caps hruns).books

end Handling

/-! ## §5. Schedules. -/

/-- The server's clock at a call. -/
def StreamCall.now : StreamCall → Nat
  | .ingest d => d.now
  | .close now => now
  | .abandon now => now

def StreamCall.batches : StreamCall → List Batch
  | .ingest d => [d.batch]
  | .close _ => []
  | .abandon _ => []

/-- `schedule` is `calls` with batches that were handled before handed in again,
    unchanged, at any later points. -/
inductive Redelivers : List Batch → List StreamCall → List StreamCall → Prop
  | done (seen : List Batch) : Redelivers seen [] []
  | first {seen : List Batch} {calls schedule : List StreamCall} (c : StreamCall) :
      Redelivers (c.batches ++ seen) calls schedule → Redelivers seen (c :: calls) (c :: schedule)
  | again {seen : List Batch} {calls schedule : List StreamCall} (d : Delivery) :
      d.batch ∈ seen → Redelivers seen calls schedule → Redelivers seen calls (.ingest d :: schedule)

/-- The server's clock does not run backwards. -/
def Clocked (calls : List StreamCall) : Prop :=
  (calls.map StreamCall.now).Pairwise (· ≤ ·)

/-- Calls of one stream: batches that are not rejected and carry a line or are
    final, with keys that determine their contents (no SHA-256 collision). -/
structure StreamCalls (calls : List StreamCall) : Prop where
  clocked : Clocked calls
  shape : ∀ d, .ingest d ∈ calls →
    d.batch.rejected = false ∧ (d.batch.lines ≠ [] ∨ d.batch.final = true)
  keys : ∀ d e, .ingest d ∈ calls → .ingest e ∈ calls → d.batch.key = e.batch.key →
    d.batch.contents = e.batch.contents

/-- What the redeliveries may not change. -/
structure SameOutcome (p q : Stream) : Prop where
  acceptedLines : q.state.acceptedLines = p.state.acceptedLines
  acceptedBytes : q.state.acceptedBytes = p.state.acceptedBytes
  serverDropped : q.state.serverDroppedLines = p.state.serverDroppedLines
  agentGap : q.state.agentGapLines = p.state.agentGapLines
  conflictCount : q.state.conflictCount = p.state.conflictCount
  resolved : q.state.resolvedThroughSeq = p.state.resolvedThroughSeq
  storedLines : ∀ l, l ∈ q.log ↔ l ∈ p.log
  quotaBytes : q.quotaBytes = p.quotaBytes
  quotaLines : q.quotaLines = p.quotaLines

theorem SameStream.outcome (h : SameStream p q) : SameOutcome p q :=
  ⟨h.books.acceptedLines, h.books.acceptedBytes, h.books.serverDropped, h.books.agentGap,
    h.books.conflictCount, h.books.resolved, fun l => by rw [h.log], h.quotaBytes, h.quotaLines⟩

def Stream.after (caps : Caps) (stream : Stream) (calls : List StreamCall) : Stream :=
  calls.foldl (Stream.call caps) stream

/-- No call of the list overwrites a recorded conflict, in the state it finds. -/
def NeverOverwrites (caps : Caps) (stream : Stream) (calls : List StreamCall) : Prop :=
  ∀ earlier d later, calls = earlier ++ .ingest d :: later →
    ¬ Overwrites (stream.after caps earlier).state d.now d.batch

section Schedules

variable {caps : Caps} {p q stream : Stream} {seen : List Batch}
  {calls schedule : List StreamCall}

variable {batch : Batch} {d : Delivery} {now : Nat} {c : StreamCall} {s t : StreamState}

theorem NeverOverwrites.tail (h : NeverOverwrites caps stream (c :: calls)) :
    NeverOverwrites caps (stream.call caps c) calls := by
  intro earlier d later heq
  exact h (c :: earlier) d later (by rw [heq]; rfl)

/-- Closing and sweeping touch the window and the status only. -/
theorem closeClaimStream_frame (now : Nat) (s : StreamState) :
    (closeClaimStream now s).lastBatchKey = s.lastBatchKey ∧
      (closeClaimStream now s).resolvedThroughSeq = s.resolvedThroughSeq ∧
      (closeClaimStream now s).stored = s.stored ∧
      (closeClaimStream now s).conflicts = s.conflicts ∧
      (closeClaimStream now s).conflictCount = s.conflictCount := by
  unfold closeClaimStream
  split_ifs <;> exact ⟨rfl, rfl, rfl, rfl, rfl⟩

theorem abandonExpiredStream_frame (now : Nat) (s : StreamState) :
    (abandonExpiredStream now s).lastBatchKey = s.lastBatchKey ∧
      (abandonExpiredStream now s).resolvedThroughSeq = s.resolvedThroughSeq ∧
      (abandonExpiredStream now s).stored = s.stored ∧
      (abandonExpiredStream now s).conflicts = s.conflicts ∧
      (abandonExpiredStream now s).conflictCount = s.conflictCount := by
  unfold abandonExpiredStream
  split
  · split_ifs <;> exact ⟨rfl, rfl, rfl, rfl, rfl⟩
  · exact ⟨rfl, rfl, rfl, rfl, rfl⟩

theorem SameBooks.close (h : SameBooks s t) (now : Nat) :
    SameBooks (closeClaimStream now s) (closeClaimStream now t) := by
  unfold closeClaimStream
  rw [h.status, h.acceptUntil]
  split_ifs
  · exact ⟨h.1, rfl, rfl, h.4, h.5, h.6, h.7, h.8, h.9, h.10, h.11⟩
  · exact h

theorem SameBooks.abandon (h : SameBooks s t) (now : Nat) :
    SameBooks (abandonExpiredStream now s) (abandonExpiredStream now t) := by
  unfold abandonExpiredStream
  rw [h.status, h.acceptUntil]
  split
  · split_ifs
    · exact ⟨h.1, rfl, rfl, h.4, h.5, h.6, h.7, h.8, h.9, h.10, h.11⟩
    · exact h
  · exact h

theorem Settled.close (h : Settled s now batch) :
    Settled (closeClaimStream now s) now batch := by
  unfold closeClaimStream
  by_cases hopen : s.status = .pending ∨ s.status = .streaming
  · rw [if_pos hopen]
    rcases h with hacc | hcont | hset
    · refine .inl fun hlater => hacc ⟨hlater.1, hlater.2.1, ?_⟩
      have hwin := hlater.2.2
      unfold windowClosed at hwin ⊢
      cases hu : s.acceptUntil with
      | none => rfl
      | some u => simpa [hu] using hwin
    · exact .inr (.inl hcont)
    · exact .inr (.inr ⟨hset.nonempty, hset.notFinal, hset.quiet⟩)
  · rw [if_neg hopen]
    exact h

theorem Settled.abandon (h : Settled s now batch) :
    Settled (abandonExpiredStream now s) now batch := by
  unfold abandonExpiredStream
  split
  · split_ifs
    · left
      rintro ⟨-, hopen, -⟩
      simp at hopen
    · exact h
  · exact h

/-- What links the plain stream `p` and the scheduled one `q` at time `now`: the
    same books, every batch handled so far is settled, and the batch each of them
    remembers is one of those. -/
structure Linked (seen : List Batch) (now : Nat) (p q : Stream) : Prop where
  same : SameStream p q
  below : StoredBelow p.state
  settled : ∀ b ∈ seen, Settled p.state now b
  last : ∀ k, p.state.lastBatchKey = some k → ∃ b ∈ seen, b.key = k
  lastAgain : ∀ k, q.state.lastBatchKey = some k → ∃ b ∈ seen, b.key = k

theorem Linked.later {now' : Nat} (h : Linked seen now p q) (hle : now ≤ now') :
    Linked seen now' p q :=
  ⟨h.same, h.below, fun b hb => (h.settled b hb).later hle, h.last, h.lastAgain⟩

/-- The batch a stream takes for the one before has the contents of a handled one. -/
theorem settled_of_isLastBatch (hkeys : ∀ b ∈ seen, b.key = batch.key → b.contents = batch.contents)
    (hlast : ∀ k, s.lastBatchKey = some k → ∃ b ∈ seen, b.key = k) (hset : ∀ b ∈ seen, Settled t now b)
    (h : isLastBatch s batch = true) :
    Settled t now batch := by
  unfold isLastBatch at h
  cases hk : s.lastBatchKey with
  | none => simp [hk] at h
  | some key =>
    simp only [hk, Bool.and_eq_true, decide_eq_true_eq] at h
    obtain ⟨b, hb, hbk⟩ := hlast key hk
    exact (hset b hb).of_contents (hkeys b hb (hbk.trans h.2)).symm

/-- The retry memory after an arrival is the arrival or what it was. -/
theorem lastBatchKey_ingest (caps : Caps) (stream : Stream) (d : Delivery) :
    (stream.ingest caps d).state.lastBatchKey = some d.batch.key ∨
      (stream.ingest caps d).state.lastBatchKey = stream.state.lastBatchKey := by
  by_cases hruns : runs stream.state d.now d.batch
  · exact .inl (ingest_state_of_runs caps hruns).2.2.2.2.2.2.2
  · show ((resolveIngest stream.state d.batch (d.options caps)).after stream.state).lastBatchKey =
        some d.batch.key ∨
      ((resolveIngest stream.state d.batch (d.options caps)).after stream.state).lastBatchKey =
        stream.state.lastBatchKey
    unfold resolveIngest
    split_ifs
    · exact .inr rfl
    · exact .inr rfl
    · exact .inr rfl
    · exact .inr rfl
    · exact .inr rfl
    · exact .inl rfl
    · exact .inr rfl
    · exact .inl rfl

theorem last_ingest {b : Batch} (hb : b ∈ seen) (hbk : b.key = d.batch.key)
    (h : ∀ k, stream.state.lastBatchKey = some k → ∃ b ∈ seen, b.key = k) :
    ∀ k, (stream.ingest caps d).state.lastBatchKey = some k → ∃ b ∈ seen, b.key = k := by
  intro k hk
  rcases lastBatchKey_ingest caps stream d with hnew | hold
  · rw [hnew, Option.some.injEq] at hk
    exact ⟨b, hb, hbk.trans hk⟩
  · exact h k (hold ▸ hk)

/-- A batch handled before comes back: only the retry memory of `q` moves. -/
theorem Linked.again (h : Linked seen d.now p q) (hmem : d.batch ∈ seen) :
    Linked seen d.now p (q.ingest caps d) := by
  have hset : Settled q.state d.now d.batch := (h.settled _ hmem).of_sameBooks h.same.books
  exact ⟨h.same.trans (ingest_of_settled hset), h.below, h.settled, h.last,
    last_ingest hmem rfl h.lastAgain⟩

/-- A new batch: both streams run it, or one of them takes it for the batch before
    and it is settled. -/
theorem Linked.first (h : Linked seen d.now p q) (hrej : d.batch.rejected = false)
    (hshape : d.batch.lines ≠ [] ∨ d.batch.final = true)
    (hkeys : ∀ b ∈ seen, b.key = d.batch.key → b.contents = d.batch.contents)
    (hover : ¬ Overwrites p.state d.now d.batch) :
    Linked (d.batch :: seen) d.now (p.ingest caps d) (q.ingest caps d) := by
  have hlastP := fun hl => settled_of_isLastBatch hkeys h.last h.settled hl
  have hlastQ := fun hl => settled_of_isLastBatch hkeys h.lastAgain h.settled hl
  have hsame : SameStream (p.ingest caps d) (q.ingest caps d) := by
    by_cases hset : Settled p.state d.now d.batch
    · -- Settled: neither stream moves.
      have hset' : Settled q.state d.now d.batch := hset.of_sameBooks h.same.books
      exact (ingest_of_settled hset).symm.trans (h.same.trans (ingest_of_settled hset'))
    · have hp : isLastBatch p.state d.batch = false := by
        by_contra hl
        exact hset (hlastP (by simpa using hl))
      have hq : isLastBatch q.state d.batch = false := by
        by_contra hl
        exact hset (hlastQ (by simpa using hl))
      by_cases hruns : runs p.state d.now d.batch
      · exact ingest_congr h.same hruns
          ⟨hq, h.same.books.accepting_iff.mpr hruns.2.1, hruns.2.2⟩
      · have hruns' : ¬ runs q.state d.now d.batch := fun hr =>
          hruns ⟨hp, h.same.books.accepting_iff.mp hr.2.1, hr.2.2⟩
        exact (ingest_of_not_runs _ hruns).symm.trans (h.same.trans (ingest_of_not_runs _ hruns'))
  refine ⟨hsame, h.below.ingest, ?_, ?_, ?_⟩
  · rw [List.forall_mem_cons]
    exact ⟨settled_after_ingest h.below hrej hshape hlastP,
      fun b hb => (h.settled b hb).ingest hover⟩
  · refine last_ingest List.mem_cons_self rfl ?_
    intro k hk
    obtain ⟨b, hb, hbk⟩ := h.last k hk
    exact ⟨b, List.mem_cons_of_mem _ hb, hbk⟩
  · refine last_ingest List.mem_cons_self rfl ?_
    intro k hk
    obtain ⟨b, hb, hbk⟩ := h.lastAgain k hk
    exact ⟨b, List.mem_cons_of_mem _ hb, hbk⟩

theorem Linked.call (h : Linked seen c.now p q)
    (hshape : ∀ d, c = .ingest d → d.batch.rejected = false ∧ (d.batch.lines ≠ [] ∨ d.batch.final = true))
    (hkeys : ∀ d, c = .ingest d → ∀ b ∈ seen, b.key = d.batch.key → b.contents = d.batch.contents)
    (hover : ∀ d, c = .ingest d → ¬ Overwrites p.state d.now d.batch) :
    Linked (c.batches ++ seen) c.now (p.call caps c) (q.call caps c) := by
  cases c with
  | ingest d =>
    exact Linked.first h (hshape d rfl).1 (hshape d rfl).2 (hkeys d rfl) (hover d rfl)
  | close now =>
    obtain ⟨hpk, hpr, hps, -, -⟩ := closeClaimStream_frame now p.state
    obtain ⟨hqk, -⟩ := closeClaimStream_frame now q.state
    refine ⟨⟨h.same.books.close now, h.same.log, h.same.quotaBytes, h.same.quotaLines⟩, ?_,
      fun b hb => (h.settled b hb).close, fun k hk => h.last k (hpk ▸ hk),
      fun k hk => h.lastAgain k (hqk ▸ hk)⟩
    show StoredBelow (closeClaimStream now p.state)
    unfold StoredBelow
    rw [hpr, hps]
    exact h.below
  | abandon now =>
    obtain ⟨hpk, hpr, hps, -, -⟩ := abandonExpiredStream_frame now p.state
    obtain ⟨hqk, -⟩ := abandonExpiredStream_frame now q.state
    refine ⟨⟨h.same.books.abandon now, h.same.log, h.same.quotaBytes, h.same.quotaLines⟩, ?_,
      fun b hb => (h.settled b hb).abandon, fun k hk => h.last k (hpk ▸ hk),
      fun k hk => h.lastAgain k (hqk ▸ hk)⟩
    show StoredBelow (abandonExpiredStream now p.state)
    unfold StoredBelow
    rw [hpr, hps]
    exact h.below

/-- The batches of `seen` and of `calls` have keys that determine their contents. -/
def KeysDetermine (seen : List Batch) (calls : List StreamCall) : Prop :=
  ∀ b d, b ∈ seen ∨ (∃ c ∈ calls, b ∈ c.batches) → .ingest d ∈ calls →
    b.key = d.batch.key → b.contents = d.batch.contents

theorem KeysDetermine.tail (h : KeysDetermine seen (c :: calls)) :
    KeysDetermine (c.batches ++ seen) calls := by
  rintro b d (hb | ⟨c', hc', hb⟩) hd
  · rcases List.mem_append.mp hb with hnew | hold
    · exact h b d (.inr ⟨c, List.mem_cons_self, hnew⟩) (List.mem_cons_of_mem _ hd)
    · exact h b d (.inl hold) (List.mem_cons_of_mem _ hd)
  · exact h b d (.inr ⟨c', List.mem_cons_of_mem _ hc', hb⟩) (List.mem_cons_of_mem _ hd)

/-- **REDELIVERIES ARE HARMLESS** while no batch overwrites a recorded conflict.
    The induction is on the schedule; `Linked` carries it. -/
theorem Redelivers.sameStream (now : Nat) (hsched : Redelivers seen calls schedule)
    (hlink : Linked seen now p q) (hclock : Clocked schedule) (hnow : ∀ c ∈ schedule, now ≤ c.now)
    (hshape : ∀ d, .ingest d ∈ calls →
      d.batch.rejected = false ∧ (d.batch.lines ≠ [] ∨ d.batch.final = true))
    (hkeys : KeysDetermine seen calls) (hover : NeverOverwrites caps p calls) :
    SameStream (p.after caps calls) (q.after caps schedule) := by
  induction hsched generalizing p q now with
  | done _ => exact hlink.same
  | first c _ ih =>
    have hc := List.pairwise_cons.mp hclock
    have hlink' := hlink.later (hnow _ List.mem_cons_self)
    refine ih _ (hlink'.call ?_ ?_ ?_) hc.2 ?_ ?_ hkeys.tail hover.tail
    · rintro d rfl
      exact hshape d List.mem_cons_self
    · rintro d rfl b hb
      exact hkeys b d (.inl hb) List.mem_cons_self
    · rintro d rfl
      exact hover [] d _ rfl
    · intro c' hc'
      exact hc.1 _ (List.mem_map_of_mem hc')
    · intro d hd
      exact hshape d (List.mem_cons_of_mem _ hd)
  | again d hmem _ ih =>
    have hc := List.pairwise_cons.mp hclock
    have hlink' := hlink.later (hnow _ List.mem_cons_self)
    exact ih _ (hlink'.again hmem) hc.2 (fun c hcm => hc.1 _ (List.mem_map_of_mem hcm)) hshape hkeys
      hover

end Schedules

/-! ## §6. An overwritten record is counted again. -/

section Bounce

variable {caps : Caps} {stream : Stream} {calls : List StreamCall}

def totalLines (calls : List StreamCall) : Nat :=
  (calls.map fun c => (c.batches.map (·.lines.length)).sum).sum

theorem conflictCount_call (caps : Caps) (stream : Stream) (c : StreamCall) :
    stream.state.conflictCount ≤ (stream.call caps c).state.conflictCount ∧
      (stream.call caps c).state.conflictCount ≤
        stream.state.conflictCount + (c.batches.map (·.lines.length)).sum := by
  cases c with
  | ingest d =>
    show _ ≤ (stream.ingest caps d).state.conflictCount ∧
      (stream.ingest caps d).state.conflictCount ≤ _
    by_cases hruns : runs stream.state d.now d.batch
    · rw [(ingest_state_of_runs caps hruns).2.2.2.1]
      have hcount := LineLoop.run_conflictCount (d.options caps) (LineLoop.start stream.state (d.options caps)) (sortBySeq d.batch.lines)
      have hlen : (sortBySeq d.batch.lines).length = d.batch.lines.length :=
        List.length_insertionSort _ _
      have hsum : ((StreamCall.ingest d).batches.map (·.lines.length)).sum = d.batch.lines.length := by
        simp [StreamCall.batches]
      rw [hlen] at hcount
      rw [hsum]
      exact hcount
    · rw [(ingest_of_not_runs caps hruns).books.conflictCount]
      exact ⟨le_refl _, Nat.le_add_right _ _⟩
  | close now =>
    show _ ≤ (closeClaimStream now stream.state).conflictCount ∧
      (closeClaimStream now stream.state).conflictCount ≤ _
    rw [(closeClaimStream_frame now stream.state).2.2.2.2]
    exact ⟨le_refl _, Nat.le_add_right _ _⟩
  | abandon now =>
    show _ ≤ (abandonExpiredStream now stream.state).conflictCount ∧
      (abandonExpiredStream now stream.state).conflictCount ≤ _
    rw [(abandonExpiredStream_frame now stream.state).2.2.2.2]
    exact ⟨le_refl _, Nat.le_add_right _ _⟩

/-- A run moves the count up, by at most one for each line. -/
theorem conflictCount_after (caps : Caps) (calls : List StreamCall) (stream : Stream) :
    stream.state.conflictCount ≤ (stream.after caps calls).state.conflictCount ∧
      (stream.after caps calls).state.conflictCount ≤
        stream.state.conflictCount + totalLines calls := by
  induction calls generalizing stream with
  | nil => exact ⟨le_refl _, le_refl _⟩
  | cons c rest ih =>
    have hstep := conflictCount_call caps stream c
    have hrest := ih (stream.call caps c)
    have htotal : totalLines (c :: rest) =
        (c.batches.map (·.lines.length)).sum + totalLines rest := by
      simp [totalLines]
    show _ ≤ ((stream.call caps c).after caps rest).state.conflictCount ∧
      ((stream.call caps c).after caps rest).state.conflictCount ≤ _
    omega

/-- Where the records of a state come from: each is a line of a batch of `calls`
    that was run and is at odds with the stored one. -/
def Recorded (calls : List StreamCall) (state : StreamState) : Prop :=
  ∀ n h, state.conflicts n = some h →
    (∃ previous, state.stored n = some previous ∧ previous ≠ "" ∧ previous ≠ h) ∧
    ∃ e, .ingest e ∈ calls ∧ contiguous (sortBySeq e.batch.lines) = true ∧
      (∃ line ∈ e.batch.lines, line.seq = n ∧ line.hash = h) ∧
      (e.batch.final = true → state.status = .final ∨ state.status = .abandoned)

theorem Recorded.mono {s t : StreamState} {more : List StreamCall} (h : Recorded calls s)
    (hco : t.conflicts = s.conflicts) (hst : t.stored = s.stored) (hsub : ∀ c ∈ calls, c ∈ more)
    (hstatus : s.status = .final ∨ s.status = .abandoned → t.status = .final ∨ t.status = .abandoned) :
    Recorded more t := by
  intro n hash hrec
  rw [hco] at hrec
  obtain ⟨hprev, e, he, hcont, hline, hfin⟩ := h n hash hrec
  rw [hst]
  exact ⟨hprev, e, hsub _ he, hcont, hline, fun hf => hstatus (hfin hf)⟩

variable {d : Delivery} {c : StreamCall} {previous : String}

theorem Recorded.ingest (h : Recorded calls stream.state) (hbelow : StoredBelow stream.state) :
    Recorded (calls ++ [.ingest d]) (stream.ingest caps d).state := by
  by_cases hruns : runs stream.state d.now d.batch
  · obtain ⟨hres, hst, hco, -, hstatus, -, -, -⟩ := ingest_state_of_runs caps hruns
    intro n hash hrec
    rw [hco] at hrec
    rw [hst]
    have hkeep : ∀ previous, stream.state.stored n = some previous →
        ((LineLoop.start stream.state (d.options caps)).run (d.options caps)
          (sortBySeq d.batch.lines)).stored n = some previous := by
      intro previous hprev
      rw [LineLoop.run_stored_of_le _ _ _ (hbelow n (by simp [hprev]))]
      exact hprev
    rcases LineLoop.run_conflicts (d.options caps) (LineLoop.start stream.state (d.options caps)) (runs_nodup hruns) n with
      hsame | ⟨l, hl, hn, ⟨previous, hprev, hne, hdiff⟩, hnew⟩
    · -- An old record: the batch that runs found the stream open.
      rw [hsame] at hrec
      obtain ⟨⟨previous, hprev, hne⟩, e, he, hcont, hline, hfin⟩ := h n hash hrec
      refine ⟨⟨previous, hkeep previous hprev, hne⟩, e, List.mem_append_left _ he, hcont, hline, ?_⟩
      intro hf
      rcases hruns.2.1.2.1 with hp | hp <;> rcases hfin hf with hs | hs <;> rw [hp] at hs <;> cases hs
    · rw [hnew, Option.some.injEq] at hrec
      subst hn
      refine ⟨⟨previous, hkeep previous hprev, hne, by rw [← hrec]; exact hdiff⟩, d,
        List.mem_append_right _ List.mem_cons_self, hruns.2.2.2,
        ⟨l, mem_sortBySeq.mp hl, rfl, hrec⟩, ?_⟩
      intro hf
      left
      rw [hstatus]
      unfold statusAfter
      rw [if_pos hf]
  · have hbooks := (ingest_of_not_runs caps hruns).books
    refine h.mono hbooks.conflicts hbooks.stored (fun c hc => List.mem_append_left _ hc) ?_
    rw [hbooks.status]
    exact id

theorem Recorded.call (h : Recorded calls stream.state) (hbelow : StoredBelow stream.state) :
    Recorded (calls ++ [c]) (stream.call caps c).state := by
  cases c with
  | ingest d => exact h.ingest hbelow
  | close now =>
    obtain ⟨-, -, hst, hco, -⟩ := closeClaimStream_frame now stream.state
    refine h.mono hco hst (fun c hc => List.mem_append_left _ hc) ?_
    intro hs
    show (closeClaimStream now stream.state).status = .final ∨
      (closeClaimStream now stream.state).status = .abandoned
    unfold closeClaimStream
    split_ifs <;> exact hs
  | abandon now =>
    obtain ⟨-, -, hst, hco, -⟩ := abandonExpiredStream_frame now stream.state
    refine h.mono hco hst (fun c hc => List.mem_append_left _ hc) ?_
    intro hs
    show (abandonExpiredStream now stream.state).status = .final ∨
      (abandonExpiredStream now stream.state).status = .abandoned
    unfold abandonExpiredStream
    split
    · split_ifs
      · exact .inr rfl
      · exact hs
    · exact hs

theorem StoredBelow.call (h : StoredBelow stream.state) :
    StoredBelow (stream.call caps c).state := by
  cases c with
  | ingest d => exact h.ingest
  | close now =>
    obtain ⟨-, hres, hst, -, -⟩ := closeClaimStream_frame now stream.state
    show StoredBelow (closeClaimStream now stream.state)
    unfold StoredBelow
    rw [hres, hst]
    exact h
  | abandon now =>
    obtain ⟨-, hres, hst, -, -⟩ := abandonExpiredStream_frame now stream.state
    show StoredBelow (abandonExpiredStream now stream.state)
    unfold StoredBelow
    rw [hres, hst]
    exact h

theorem after_append (stream : Stream) (calls more : List StreamCall) :
    stream.after caps (calls ++ more) = (stream.after caps calls).after caps more :=
  List.foldl_append

theorem recorded_after (caps : Caps) (enabled : Bool) (calls : List StreamCall) :
    Recorded calls ((Stream.fresh enabled).after caps calls).state ∧
      StoredBelow ((Stream.fresh enabled).after caps calls).state := by
  induction calls using List.reverseRecOn with
  | nil =>
    refine ⟨?_, ?_⟩
    · intro n h hrec
      cases hrec
    · intro n hn
      exact absurd rfl hn
  | append_singleton calls c ih =>
    rw [after_append]
    exact ⟨ih.1.call ih.2, ih.2.call⟩

/-- The state a bounce starts from and leaves: the stream takes lines, remembers
    the batch `key`, and has `hash` on record for the stored line `n`. -/
structure Bouncing (n : Nat) (previous hash key : String) (now : Nat) (state : StreamState) :
    Prop where
  accepting : accepting state now
  stored : state.stored n = some previous
  below : n ≤ state.resolvedThroughSeq
  record : state.conflicts n = some hash
  key : state.lastBatchKey = some key
  storedBelow : StoredBelow state

/-- A batch that takes the stored line's record over is counted. -/
theorem bounce (caps : Caps) (d : Delivery) {hash key : String}
    (h : Bouncing line.seq previous hash key d.now stream.state) (hrej : d.batch.rejected = false)
    (hfinal : d.batch.final = false) (hcont : contiguous (sortBySeq d.batch.lines) = true)
    (hmem : line ∈ d.batch.lines) (hkey : key ≠ d.batch.key) (hne : previous ≠ "")
    (hdiff : previous ≠ line.hash) (hhash : hash ≠ line.hash) :
    Bouncing line.seq previous line.hash d.batch.key d.now (stream.ingest caps d).state ∧
      stream.state.conflictCount + 1 ≤ (stream.ingest caps d).state.conflictCount := by
  have hlast : isLastBatch stream.state d.batch = false := by
    unfold isLastBatch
    rw [h.key]
    simp [hkey]
  have hruns : runs stream.state d.now d.batch := ⟨hlast, h.accepting, hrej, hcont⟩
  have hodd : Differs stream.state.stored line := ⟨previous, h.stored, hne, hdiff⟩
  have hsorted := mem_sortBySeq.mpr hmem
  obtain ⟨hres, hst, hco, hcount, hstatus, hen, hwin, hlastKey⟩ :=
    ingest_state_of_runs caps hruns
  have hstored := LineLoop.run_stored_of_le (d.options caps) (LineLoop.start stream.state (d.options caps)) (sortBySeq d.batch.lines) h.below
  refine ⟨⟨⟨hen.trans h.accepting.1, ?_, ?_⟩, ?_, ?_, ?_, hlastKey, h.storedBelow.ingest⟩, ?_⟩
  · rw [hstatus]
    unfold statusAfter
    simp only [hfinal, Bool.false_eq_true, if_false]
    split_ifs
    · exact .inr rfl
    · exact h.accepting.2.1
  · unfold windowClosed
    rw [hwin]
    exact h.accepting.2.2
  · rw [hst, hstored]
    exact h.stored
  · rw [hres]
    exact h.below.trans (LineLoop.run_resolved _ (LineLoop.start stream.state (d.options caps)) _).1
  · rw [hco]
    refine LineLoop.run_quiet _ (LineLoop.start stream.state (d.options caps))
      (runs_nodup hruns) h.storedBelow line hsorted ⟨previous, ?_, hne, hdiff⟩
    rw [hstored]
    exact h.stored
  · rw [hcount]
    refine LineLoop.run_counts _ (LineLoop.start stream.state (d.options caps))
      (runs_nodup hruns) hsorted h.below hodd ?_
    show stream.state.conflicts line.seq ≠ some line.hash
    rw [h.record]
    exact fun heq => hhash (Option.some.inj heq)

/-- The two batches handed in again and again. -/
def bounces (e d : Delivery) : Nat → List StreamCall
  | 0 => []
  | n + 1 => .ingest { e with now := d.now } :: .ingest d :: bounces e d n

theorem conflictCount_bounces (caps : Caps) {e : Delivery} {line' : LogLine}
    (h : Bouncing line.seq previous line.hash d.batch.key d.now stream.state)
    (hrej : d.batch.rejected = false ∧ e.batch.rejected = false)
    (hfinal : d.batch.final = false ∧ e.batch.final = false)
    (hcont : contiguous (sortBySeq d.batch.lines) = true ∧ contiguous (sortBySeq e.batch.lines) = true)
    (hmem : line ∈ d.batch.lines ∧ line' ∈ e.batch.lines) (hseq : line'.seq = line.seq)
    (hkey : d.batch.key ≠ e.batch.key) (hne : previous ≠ "")
    (hdiff : previous ≠ line.hash ∧ previous ≠ line'.hash) (hhash : line.hash ≠ line'.hash)
    (k : Nat) :
    stream.state.conflictCount + 2 * k ≤
      (stream.after caps (bounces e d k)).state.conflictCount := by
  induction k generalizing stream with
  | zero => exact le_refl _
  | succ k ih =>
    have h1 : Bouncing line'.seq previous line.hash d.batch.key d.now stream.state := by
      rw [hseq]
      exact h
    obtain ⟨hb, hc⟩ := bounce caps { e with now := d.now } h1 hrej.2 hfinal.2
      hcont.2 hmem.2 hkey hne hdiff.2 hhash
    have h2 : Bouncing line.seq previous line'.hash e.batch.key d.now
        (stream.ingest caps { e with now := d.now }).state := by
      rw [← hseq]
      exact hb
    obtain ⟨hb', hc'⟩ := bounce caps d h2 hrej.1 hfinal.1 hcont.1 hmem.1
      hkey.symm hne hdiff.1 hhash.symm
    have hrest := ih hb'
    show stream.state.conflictCount + 2 * (k + 1) ≤
      (((stream.ingest caps { e with now := d.now }).ingest caps d).after caps
        (bounces e d k)).state.conflictCount
    omega

end Bounce

/-! ## §7. The exact condition. -/

section Exact

variable {caps : Caps} {seen : List Batch}

theorem Redelivers.refl (seen : List Batch) (calls : List StreamCall) :
    Redelivers seen calls calls := by
  induction calls generalizing seen with
  | nil => exact .done seen
  | cons c rest ih => exact .first c (ih _)

variable {d e : Delivery} {earlier : List StreamCall}

variable {calls later : List StreamCall} {k : Nat}

/-- A common beginning adds its batches to those handled before. -/
theorem Redelivers.append_left {schedule : List StreamCall}
    (h : ∀ more, (∀ c ∈ earlier, ∀ b ∈ c.batches, b ∈ more) → (∀ b ∈ seen, b ∈ more) → Redelivers more calls schedule) :
    Redelivers seen (earlier ++ calls) (earlier ++ schedule) := by
  induction earlier generalizing seen with
  | nil => exact h seen (by simp) (fun _ hb => hb)
  | cons c rest ih =>
    refine .first c (ih ?_)
    intro more hrest hmore
    refine h more ?_ (fun b hb => hmore b (List.mem_append_right _ hb))
    rw [List.forall_mem_cons]
    exact ⟨fun b hb => hmore b (List.mem_append_left _ hb), hrest⟩

theorem Redelivers.bounces (hd : d.batch ∈ seen) (he : e.batch ∈ seen) (k : Nat) :
    Redelivers seen calls (Console.bounces e d k ++ calls) := by
  induction k with
  | zero => exact .refl _ _
  | succ k ih => exact .again { e with now := d.now } he (.again d hd ih)

theorem now_bounces {c : StreamCall} (h : c ∈ bounces e d k) :
    c.now = d.now := by
  induction k with
  | zero => cases h
  | succ k ih =>
    rcases List.mem_cons.mp h with rfl | h
    · rfl
    · rcases List.mem_cons.mp h with rfl | h
      · rfl
      · exact ih h

theorem Clocked.bounces (h : Clocked (earlier ++ .ingest d :: later)) :
    Clocked (earlier ++ .ingest d :: (Console.bounces e d k ++ later)) := by
  unfold Clocked at h ⊢
  simp only [List.map_append, List.map_cons, List.pairwise_append, List.pairwise_cons] at h ⊢
  obtain ⟨hearly, ⟨hd, hlate⟩, hcross⟩ := h
  have hnow : ∀ t ∈ (Console.bounces e d k).map StreamCall.now, t = d.now := by
    intro t ht
    obtain ⟨c, hc, rfl⟩ := List.mem_map.mp ht
    exact now_bounces hc
  refine ⟨hearly, ⟨?_, ?_, hlate, ?_⟩, ?_⟩
  · intro t ht
    rcases List.mem_append.mp ht with ht | ht
    · rw [hnow t ht]
      exact le_refl _
    · exact hd t ht
  · exact List.Pairwise.imp_of_mem (R := fun _ _ => True)
      (fun ha hb _ => by rw [hnow _ ha, hnow _ hb]) (List.pairwise_of_forall fun _ _ => trivial)
  · intro a ha b hb
    rw [hnow a ha]
    exact hd b hb
  · intro a ha b hb
    rcases List.mem_cons.mp hb with rfl | hb
    · exact hcross a ha _ List.mem_cons_self
    · rcases List.mem_append.mp hb with hb | hb
      · rw [hnow b hb]
        exact hcross a ha _ List.mem_cons_self
      · exact hcross a ha b (List.mem_cons_of_mem _ hb)

theorem hash_eq_of_contiguous {batch : Batch} {l l' : LogLine}
    (hcont : contiguous (sortBySeq batch.lines) = true) (hl : l ∈ batch.lines)
    (hl' : l' ∈ batch.lines) (hseq : l.seq = l'.seq) : l = l' := by
  have hnodup : ((sortBySeq batch.lines).map (·.seq)).Nodup :=
    (contiguous_pairwise hcont).imp Nat.ne_of_lt
  exact List.inj_on_of_nodup_map hnodup (mem_sortBySeq.mpr hl) (mem_sortBySeq.mpr hl') hseq

theorem overwrite_is_counted_again {enabled : Bool}
    (hcalls : StreamCalls (earlier ++ .ingest d :: later))
    (hover : Overwrites ((Stream.fresh enabled).after caps earlier).state d.now d.batch) :
    ∃ schedule, Redelivers [] (earlier ++ .ingest d :: later) schedule ∧ Clocked schedule ∧
      ((Stream.fresh enabled).after caps (earlier ++ .ingest d :: later)).state.conflictCount <
        ((Stream.fresh enabled).after caps schedule).state.conflictCount := by
  obtain ⟨hrec, hbelow⟩ := recorded_after caps enabled earlier
  obtain ⟨hruns, hfinal, line, hline, hodd, hash, hold, hne⟩ := hover
  obtain ⟨⟨previous, hprev, hpne, hpdiff⟩, e, he, hcont, ⟨line', hline', hseq, hhash⟩, hefinal⟩ :=
    hrec line.seq hash hold
  have hdiff : previous ≠ line.hash := by
    obtain ⟨other, hother, -, hoff⟩ := hodd
    rw [hprev, Option.some.injEq] at hother
    rw [hother]
    exact hoff
  have hdmem : StreamCall.ingest d ∈ earlier ++ .ingest d :: later :=
    List.mem_append_right _ List.mem_cons_self
  have hemem : StreamCall.ingest e ∈ earlier ++ .ingest d :: later := List.mem_append_left _ he
  -- The two batches disagree about the line, so their keys differ.
  have hkey : d.batch.key ≠ e.batch.key := by
    intro heq
    have hcontents := hcalls.keys d e hdmem hemem heq
    unfold Batch.contents at hcontents
    simp only [Prod.mk.injEq] at hcontents
    have hin : (line'.seq, line'.hash) ∈ d.batch.lines.map fun l => (l.seq, l.hash) := by
      rw [hcontents.2.2]
      exact List.mem_map_of_mem (f := fun l : LogLine => (l.seq, l.hash)) hline'
    obtain ⟨l, hl, hpair⟩ := List.mem_map.mp hin
    simp only [Prod.mk.injEq] at hpair
    have := hash_eq_of_contiguous hruns.2.2.2 hl hline (hpair.1.trans hseq)
    subst this
    exact hne (hhash.symm.trans hpair.2.symm)
  have hefin : e.batch.final = false := by
    by_contra hf
    rcases hruns.2.1.2.1 with hp | hp <;>
      rcases hefinal (by simpa using hf) with hs | hs <;> rw [hp] at hs <;> cases hs
  -- After `d` its own content is on record.
  obtain ⟨hres, hst, hco, -, hstatus, hen, hwin, hlast⟩ := ingest_state_of_runs caps hruns
  have hle : line.seq ≤ ((Stream.fresh enabled).after caps earlier).state.resolvedThroughSeq :=
    hbelow line.seq (by rw [hprev]; exact Option.some_ne_none _)
  have hstored := LineLoop.run_stored_of_le (d.options caps) (LineLoop.start ((Stream.fresh enabled).after caps earlier).state (d.options caps)) (sortBySeq d.batch.lines) hle
  have hstart : Bouncing line.seq previous line.hash d.batch.key d.now
      (((Stream.fresh enabled).after caps earlier).ingest caps d).state := by
    refine ⟨⟨hen.trans hruns.2.1.1, ?_, ?_⟩, ?_, ?_, ?_, hlast, hbelow.ingest⟩
    · rw [hstatus]
      unfold statusAfter
      simp only [hfinal, Bool.false_eq_true, if_false]
      split_ifs
      · exact .inr rfl
      · exact hruns.2.1.2.1
    · unfold windowClosed
      rw [hwin]
      exact hruns.2.1.2.2
    · rw [hst, hstored]
      exact hprev
    · rw [hres]
      exact hle.trans (LineLoop.run_resolved _ (LineLoop.start _ (d.options caps)) _).1
    · rw [hco]
      refine LineLoop.run_quiet _ (LineLoop.start _ (d.options caps)) (runs_nodup hruns) hbelow
        line (mem_sortBySeq.mpr hline) ⟨previous, ?_, hpne, hdiff⟩
      rw [hstored]
      exact hprev
  refine ⟨earlier ++ .ingest d :: (bounces e d (totalLines later + 1) ++ later), ?_,
    hcalls.clocked.bounces, ?_⟩
  · refine Redelivers.append_left fun more hbatches _ => .first _ (.bounces ?_ ?_ _)
    · exact List.mem_cons_self
    · exact List.mem_cons_of_mem _ (hbatches _ he _ List.mem_cons_self)
  · have hmany := conflictCount_bounces caps (e := e) hstart
      ⟨(hcalls.shape d hdmem).1, (hcalls.shape e hemem).1⟩ ⟨hfinal, hefin⟩
      ⟨hruns.2.2.2, hcont⟩ ⟨hline, hline'⟩ hseq hkey hpne ⟨hdiff, by rw [hhash]; exact hpdiff⟩
      (by rw [hhash]; exact hne.symm) (totalLines later + 1)
    have hplain := (conflictCount_after caps later
      (((Stream.fresh enabled).after caps earlier).ingest caps d)).2
    have hsched := (conflictCount_after caps later
      ((((Stream.fresh enabled).after caps earlier).ingest caps d).after caps
        (bounces e d (totalLines later + 1)))).1
    rw [after_append, after_append]
    show ((((Stream.fresh enabled).after caps earlier).ingest caps d).after caps
      later).state.conflictCount < ((((Stream.fresh enabled).after caps earlier).ingest caps d).after
        caps (bounces e d (totalLines later + 1) ++ later)).state.conflictCount
    rw [after_append]
    omega

/-- **WHEN REDELIVERIES ARE HARMLESS, EXACTLY**: whatever batches are handed in
    again, whenever and however often, the stream ends as it would without — if
    and only if no batch overwrites a conflict recorded for a stored line. -/
theorem redelivery_harmless_iff (caps : Caps) (enabled : Bool) (calls : List StreamCall)
    (hcalls : StreamCalls calls) :
    (∀ schedule, Redelivers [] calls schedule → Clocked schedule →
      SameOutcome ((Stream.fresh enabled).after caps calls)
        ((Stream.fresh enabled).after caps schedule)) ↔
    NeverOverwrites caps (.fresh enabled) calls := by
  constructor
  · intro hall earlier d later heq hover
    subst heq
    obtain ⟨schedule, hsched, hclock, hcount⟩ := overwrite_is_counted_again hcalls hover
    have := (hall schedule hsched hclock).conflictCount
    omega
  · intro hnever schedule hsched hclock
    refine (hsched.sameStream 0 ⟨.refl _, ?_, by simp, ?_, ?_⟩ hclock (fun _ _ => Nat.zero_le _)
      hcalls.shape ?_ hnever).outcome
    · exact (recorded_after caps enabled []).2
    · intro k hk
      cases hk
    · intro k hk
      cases hk
    · rintro b d (hb | ⟨c, hc, hb⟩) hd hkey
      · cases hb
      · cases c with
        | ingest e =>
          rw [StreamCall.batches, List.mem_singleton] at hb
          subst hb
          exact hcalls.keys e d hc hd hkey
        | close _ => cases hb
        | abandon _ => cases hb

end Exact

/-- A batch that carries line 1 with the content `hash`. -/
def firstLine (key hash : String) (now : Nat) : StreamCall :=
  .ingest
    { batch := ⟨key, [⟨1, hash, 10⟩], false, false, 0⟩
      now := now, quotaLimitBytes := 0, quotaUsedBytes := 0 }

/-- Batches about one line, each with a key of its own, are calls of a stream. -/
theorem streamCalls_firstLines (contents : List (String × String × Nat))
    (hclock : (contents.map (·.2.2)).Pairwise (· ≤ ·))
    (hkeys : (contents.map (·.1)).Nodup) :
    StreamCalls (contents.map fun c => firstLine c.1 c.2.1 c.2.2) := by
  refine ⟨?_, ?_, ?_⟩
  · unfold Clocked
    rw [List.map_map]
    exact hclock
  · intro d hd
    obtain ⟨c, -, hc⟩ := List.mem_map.mp hd
    injection hc with hc
    subst hc
    exact ⟨rfl, .inl (by simp)⟩
  · intro d e hd he hkey
    obtain ⟨c, hin, hc⟩ := List.mem_map.mp hd
    obtain ⟨c', hin', hc'⟩ := List.mem_map.mp he
    injection hc with hc
    injection hc' with hc'
    subst hc hc'
    have heq : c = c' := List.inj_on_of_nodup_map hkeys hin hin' hkey
    rw [heq]

/-- Two contents for one line: the second is a conflict, and handing either in
    again changes nothing, since no record is overwritten. -/
theorem redelivery_harmless_two_contents :
    ((Stream.fresh true).after claimCaps
      [firstLine "k1" "a" 0, firstLine "k2" "b" 1]).state.conflictCount = 1 ∧
    ∀ schedule, Redelivers [] [firstLine "k1" "a" 0, firstLine "k2" "b" 1] schedule →
      Clocked schedule →
      SameOutcome ((Stream.fresh true).after claimCaps [firstLine "k1" "a" 0, firstLine "k2" "b" 1])
        ((Stream.fresh true).after claimCaps schedule) := by
  refine ⟨by decide, (redelivery_harmless_iff claimCaps true _ ?_).mpr ?_⟩
  · exact streamCalls_firstLines [("k1", "a", 0), ("k2", "b", 1)] (by decide) (by decide)
  · rintro earlier d later heq ⟨-, -, line, hline, -, h, hrec, -⟩
    rcases earlier with _ | ⟨first, _ | ⟨second, rest⟩⟩
    · cases hrec
    · obtain ⟨hfirst, hrest⟩ := List.cons.inj heq
      subst hfirst
      injection (List.cons.inj hrest).1 with hd
      subst hd
      rw [List.mem_singleton.mp hline] at hrec
      revert hrec
      decide +revert
    · simp at heq

/-- **A CONFLICT COUNTED TWICE**: three contents for line 1 make two conflicts,
    but the second batch, handed in again after the third, is counted once more:
    the record keeps only the last conflicting hash. -/
theorem redelivery_counts_overwritten_conflict :
    ¬ ∀ (caps : Caps) (enabled : Bool) (calls schedule : List StreamCall), StreamCalls calls →
      Redelivers [] calls schedule → Clocked schedule →
      SameOutcome ((Stream.fresh enabled).after caps calls)
        ((Stream.fresh enabled).after caps schedule) := by
  intro h
  have hcalls : StreamCalls [firstLine "k1" "a" 0, firstLine "k2" "b" 1, firstLine "k3" "c" 2] :=
    streamCalls_firstLines [("k1", "a", 0), ("k2", "b", 1), ("k3", "c", 2)]
      (by decide) (by decide)
  have hsched : Redelivers [] [firstLine "k1" "a" 0, firstLine "k2" "b" 1, firstLine "k3" "c" 2]
      [firstLine "k1" "a" 0, firstLine "k2" "b" 1, firstLine "k3" "c" 2, firstLine "k2" "b" 3] :=
    .first _ (.first _ (.first _ (.again _ (by decide) (.done _))))
  have hcount := (h claimCaps true _ _ hcalls hsched (by unfold Clocked; decide)).conflictCount
  revert hcount
  decide

end TokenTimer.Console
