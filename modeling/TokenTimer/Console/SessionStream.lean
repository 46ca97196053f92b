/-
  TokenTimer.Console.SessionStream — the sender of a console and its resolver together.

  The agent posts the batches of one session over a connection that loses, repeats and
  reorders them; `applyIngest` turns the lines of a body into rows, always in the same
  way.  A number names one line of the session, so nothing that arrives conflicts with
  what is stored.

  Main results:
    * `session_stream` — no post is refused as invalid, no line conflicts, and the log
        holds lines of the session, each once.
-/

import TokenTimer.Agent.JobLogSafety
import TokenTimer.Console.ResolverInvariant

namespace TokenTimer.Console

open Lib.Runs TokenTimer.Agent

/-! ## §1. What arrives. -/

/-- The batch is what `applyIngest` makes of the post; `row` scrubs and hashes a line. -/
structure Carries (row : JobLog.Payload → LogLine) (post : JobLog.Post) (batch : Batch) : Prop where
  lines : batch.lines = if batch.rejected then [] else post.lines.map row
  final : batch.final = post.final
  droppedBefore : batch.droppedBefore = post.droppedBefore

section Session

variable {row : JobLog.Payload → LogLine} {config : JobLog.Config} {session : JobLog.Session}

variable (row session) in
/-- The row of a line that the session has posted. -/
def Posted (line : LogLine) : Prop := ∃ post ∈ session.posts, ∃ p ∈ post.lines, row p = line

variable (row session) in
/-- Only posts of the session arrive. -/
def fromSession (_ : Stream) : StreamCall → Prop
  | .ingest d => ∃ post ∈ session.posts, Carries row post d.batch
  | _ => True

theorem Posted.unique (hinv : JobLog.Inv config session) (hrow : ∀ p, (row p).seq = p.seq)
    {a b : LogLine} (ha : Posted row session a) (hb : Posted row session b) (hseq : a.seq = b.seq) :
    a = b := by
  obtain ⟨post, hpost, p, hp, rfl⟩ := ha
  obtain ⟨post', hpost', q, hq, rfl⟩ := hb
  rw [hrow, hrow] at hseq
  obtain ⟨k, whole, ⟨-, batch, hbatch, hpart⟩, hk, hin⟩ := hinv.part hpost (List.mem_map_of_mem hp)
  obtain ⟨k', whole', ⟨-, batch', hbatch', hpart'⟩, hk', hin'⟩ :=
    hinv.part hpost' (List.mem_map_of_mem hq)
  obtain rfl := hinv.taken_inj hk hk' hin (hseq ▸ hin')
  obtain rfl := Option.some.inj (hbatch.symm.trans hbatch')
  have hsorted := (List.pairwise_flatMap.mp (List.pairwise_append.mp hinv.ordered).1).1 batch
    (List.mem_of_getElem? hbatch)
  rw [List.inj_on_of_nodup_map (hsorted.imp Nat.ne_of_lt) (hpart.subset hp) (hpart'.subset hq) hseq]

/-! ## §2. The batch. -/

theorem contiguous_of_range {lines : List LogLine} {first : Nat}
    (h : lines.map (·.seq) = List.range' first lines.length) : contiguous lines = true := by
  induction lines generalizing first with
  | nil => rfl
  | cons a rest ih =>
    rw [List.map_cons, List.length_cons, List.range'_succ, List.cons.injEq] at h
    cases rest with
    | nil => rfl
    | cons b rest =>
      have hnext := ih h.2
      rw [List.map_cons, List.length_cons, List.range'_succ, List.cons.injEq] at h
      rw [contiguous, hnext, Bool.and_true, decide_eq_true_eq, h.2.1, h.1]

theorem Carries.contiguous {post : JobLog.Post} {batch : Batch} (h : Carries row post batch)
    (hinv : JobLog.Inv config session) (hrow : ∀ p, (row p).seq = p.seq) (hpost : post ∈ session.posts) :
    contiguous (sortBySeq batch.lines) = true := by
  obtain ⟨sent, final, hsent, hbody⟩ := hinv.posts post hpost
  have hlines : post.lines = sent.lines := by rw [hbody]; rfl
  obtain ⟨first, -, hseqs⟩ := hsent.consecutive
  have hrange : batch.lines.map (·.seq) = List.range' first batch.lines.length := by
    rw [h.lines]
    split
    · rfl
    · rw [hlines, List.map_map, List.length_map, ← List.length_map JobLog.Payload.seq]
      exact (List.map_congr_left fun p _ => hrow p).trans hseqs
  have hsorted : batch.lines.Pairwise fun a b => a.seq ≤ b.seq :=
    List.pairwise_map.mp (hrange ▸ (List.pairwise_lt_range' (s := first) (n := batch.lines.length)).imp Nat.le_of_lt)
  rw [sortBySeq, hsorted.insertionSort_eq]
  exact contiguous_of_range hrange

/-! ## §3. The stream. -/

variable (row session) in
/-- What is stored was posted, and nothing has conflicted with it. -/
structure Faithful (stored : Nat → Option String) (conflictCount : Nat) (log : List LogLine) : Prop where
  stored : ∀ seq hash, stored seq = some hash → ∃ line, Posted row session line ∧
    line.seq = seq ∧ line.hash = hash
  agrees : conflictCount = 0
  log : ∀ line ∈ log, Posted row session line

variable (row session) in
abbrev LineLoop.Faithful (log : List LogLine) (loop : LineLoop) : Prop :=
  Console.Faithful row session loop.stored loop.conflictCount (log ++ loop.inserts)

theorem Faithful.step {loop : LineLoop} {log : List LogLine} {line : LogLine} (options : IngestOptions)
    (h : loop.Faithful row session log) (hline : Posted row session line)
    (hunique : ∀ a b, Posted row session a → Posted row session b → a.seq = b.seq → a = b) :
    (loop.step options line).Faithful row session log := by
  have hnoted : (loop.noteNew line).Faithful row session log := by
    unfold LineLoop.noteNew
    split <;> exact h
  unfold LineLoop.step
  dsimp only
  split_ifs
  · -- a resolved line is the one that was stored
    unfold LineLoop.resolvedLine
    split
    · rename_i previous hprevious
      obtain ⟨old, hold, hseq, rfl⟩ := h.stored _ _ hprevious
      obtain rfl := hunique old line hold hline hseq
      rw [if_neg fun hne => hne.2 rfl]
      exact h
    · exact h
  · exact hnoted
  · refine ⟨fun seq hash hstored => ?_, hnoted.agrees, ?_⟩
    · change Function.update (loop.noteNew line).stored line.seq (some line.hash) seq = some hash at hstored
      by_cases hseq : seq = line.seq
      · subst hseq
        rw [Function.update_self] at hstored
        exact ⟨line, hline, rfl, Option.some.inj hstored⟩
      · rw [Function.update_of_ne hseq] at hstored
        exact hnoted.stored seq hash hstored
    · show ∀ x ∈ log ++ ((loop.noteNew line).inserts ++ [line]), Posted row session x
      rw [← List.append_assoc, List.forall_mem_append]
      exact ⟨hnoted.log, List.forall_mem_singleton.mpr hline⟩

/-- **THE LOOP** over lines of the session. -/
theorem Faithful.foldl {lines : List LogLine} {loop : LineLoop} {log : List LogLine}
    (options : IngestOptions) (h : loop.Faithful row session log)
    (hlines : ∀ line ∈ lines, Posted row session line)
    (hunique : ∀ a b, Posted row session a → Posted row session b → a.seq = b.seq → a = b) :
    (lines.foldl (LineLoop.step options) loop).Faithful row session log := by
  induction lines generalizing loop with
  | nil => exact h
  | cons line rest ih =>
    rw [List.forall_mem_cons] at hlines
    exact ih (h.step options hlines.1 hunique) hlines.2

variable (row session) in
abbrev Stream.Faithful (stream : Stream) : Prop :=
  Console.Faithful row session stream.state.stored stream.state.conflictCount stream.log

theorem Faithful.call {stream : Stream} (caps : Caps) {call : StreamCall}
    (h : stream.Faithful row session) (hcall : fromSession row session stream call)
    (hunique : ∀ a b, Posted row session a → Posted row session b → a.seq = b.seq → a = b) :
    (stream.call caps call).Faithful row session := by
  cases call with
  | ingest d =>
    obtain ⟨post, hpost, hcarries⟩ := hcall
    by_cases hruns : runs stream.state d.now d.batch
    · have hlines : ∀ line ∈ sortBySeq d.batch.lines, Posted row session line := by
        intro line hline
        rw [sortBySeq, List.mem_insertionSort, hcarries.lines, hruns.2.2.1] at hline
        obtain ⟨p, hp, rfl⟩ := List.mem_map.mp hline
        exact ⟨post, hpost, p, hp, rfl⟩
      have hstart : (LineLoop.start stream.state (d.options caps)).Faithful row session stream.log :=
        ⟨h.stored, h.agrees, (List.append_nil stream.log).symm ▸ h.log⟩
      show (stream.ingest caps d).Faithful row session
      unfold Stream.Faithful Stream.ingest
      rw [decide_of_runs hruns]
      exact hstart.foldl _ hlines hunique
    · obtain ⟨hbooks, hinserts, -⟩ := decide_of_not_runs caps hruns
      refine ⟨hbooks.stored ▸ h.stored, hbooks.conflictCount.trans h.agrees, ?_⟩
      show ∀ x ∈ stream.log ++ (stream.decide caps d).inserts, Posted row session x
      rw [hinserts, List.append_nil]
      exact h.log
  | close now =>
    unfold Stream.Faithful Stream.call closeClaimStream
    dsimp only
    split <;> exact h
  | abandon now =>
    unfold Stream.Faithful Stream.call abandonExpiredStream
    dsimp only
    split
    · split <;> exact h
    · exact h

end Session

/-- **ONE CONSOLE**: whatever is lost, repeated or reordered on the way, no post of the session
    is refused as invalid, no line conflicts with what is stored, and the log holds rows of
    the lines that were posted, each number once. -/
theorem session_stream (config : JobLog.Config) (caps : Caps) (row : JobLog.Payload → LogLine)
    (hrow : ∀ p, (row p).seq = p.seq) (session : JobLog.Session)
    (hsession : Reachable (JobLog.console config) (JobLog.NoGapBehind config) session) (stream : Stream)
    (hstream : Reachable (streamSystem caps) (fromSession row session) stream) :
    (∀ d, fromSession row session stream (.ingest d) → (stream.decide caps d).kind ≠ .invalid) ∧
      stream.state.conflictCount = 0 ∧ (∀ line ∈ stream.log, Posted row session line) ∧
      (stream.log.map (·.seq)).Nodup := by
  have hinv : JobLog.Inv config session := hsession.invariant
    (by rintro s rfl; exact JobLog.Inv.fresh config) fun _ _ _ ht hgap hnext => ht.next hgap hnext
  have hunique := fun a b ha hb => Posted.unique (a := a) (b := b) hinv hrow ha hb
  have hfaithful : stream.Faithful row session := by
    refine hstream.invariant ?_ ?_
    · rintro _ ⟨enabled, rfl⟩
      constructor <;> simp [Stream.fresh, StreamState.fresh]
    · rintro s call _ hs hcall rfl
      exact hs.call caps hcall hunique
  obtain ⟨first, hfirst, hrun⟩ := hstream
  refine ⟨?_, hfaithful.agrees, hfaithful.log,
    (balanced_of_reachable ⟨first, hfirst, hrun.mono fun _ _ _ => trivial⟩).nodup⟩
  rintro d ⟨post, hpost, hcarries⟩
  have hcontiguous := hcarries.contiguous hinv hrow hpost
  unfold Stream.decide resolveIngest
  rw [hcontiguous]
  split_ifs <;> simp_all [unchanged, refused, applied]

def plainRow (p : JobLog.Payload) : LogLine := ⟨p.seq, "content", p.bytes⟩

/-- A batch of two lines that arrives twice. -/
theorem session_stream_redelivered : ∃ session d, JobLog.postedSeqs session = [[1, 2]] ∧
    ([.ingest d, .ingest d].foldl (Stream.call claimCaps) (.fresh true)).state.conflictCount = 0 := by
  have hplayed : (playedWithin (JobLog.Session.next JobLog.smallBatches)
      (fun s _ => !JobLog.gapBehind s)
      [JobLog.info (Json.js "a"), JobLog.info (Json.js "b"), .flush] .fresh).map JobLog.postedSeqs =
        some [[1, 2]] := by
    decide +kernel
  obtain ⟨session, hs, hposted⟩ := Option.map_eq_some_iff.mp hplayed
  obtain ⟨post, rest, hposts, -⟩ := List.map_eq_cons_iff.mp hposted
  refine ⟨session, ⟨⟨"key", post.lines.map plainRow, post.final, false, post.droppedBefore⟩, 0, 0, 0⟩,
    hposted, (session_stream JobLog.smallBatches claimCaps plainRow (fun _ => rfl) session
      ⟨.fresh, rfl, ?_⟩ _ ⟨.fresh true, ⟨true, rfl⟩, ?_⟩).2.1⟩
  · refine Run.of_playedWithin (fun _ _ _ h => h) (fun s event hcheck => ?_) _ hs
    cases event with
    | log call => exact fun _ _ _ _ => by simpa using hcheck
    | _ => trivial
  · refine Run.of_foldl_of_forall (fun _ _ => rfl) _ (fun call hcall _ => ?_) _
    simp only [List.mem_cons, List.not_mem_nil, or_false, or_self] at hcall
    subst hcall
    exact ⟨post, by rw [hposts]; exact List.mem_cons_self, rfl, rfl, rfl⟩

end TokenTimer.Console
