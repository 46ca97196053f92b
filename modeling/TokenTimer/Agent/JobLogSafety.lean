/-
  TokenTimer.Agent.JobLogSafety — what the posts of a console session look like.

  A line gets its number before it is known whether it fits a batch, so a line that
  does not fit leaves a gap between the line before it and the line after it.  A batch
  is a piece of the buffer: it has a gap only where the buffer has one.  As long as no
  line is put behind a gap, every batch is consecutive, and so is every half of it.

  Main results:
    * `Inv.next` — the invariant of a session, event by event.
    * `posts_wellFormed` — the runs that put no line behind a gap.
-/

import TokenTimer.Agent.JobLogStream

namespace TokenTimer.Agent.JobLog

open TokenTimer.Json Lib.Runs

/-! ## §1. What is claimed of a post. -/

/-- The lines of a post have consecutive numbers from `firstSeq` on, are not too many
    and not too long. -/
structure WellFormed (maxBatchBytes : JsNumber) (post : Post) : Prop where
  starts : post.firstSeq = post.lines.head?.map Payload.seq
  consecutive : post.lines.map Payload.seq = List.range' (post.firstSeq.getD 0) post.lines.length
  short : post.lines.length ≤ MAX_BATCH_LINES
  small : (utf8Length (linesText post.lines) : ℚ) ≤ batchCap maxBatchBytes

def PartOf (taken : List Batch) (origin : Nat) (post : Post) : Prop :=
  post.origin = some origin ∧ ∃ batch, taken[origin]? = some batch ∧ post.lines <:+: batch.lines

/-- Two posts share a number only as parts of one batch. -/
def Reposts (s : Session) : Prop :=
  ∀ post ∈ s.posts, ∀ post' ∈ s.posts, ∀ seq ∈ post.lines.map Payload.seq,
    seq ∈ post'.lines.map Payload.seq → ∃ origin, PartOf s.taken origin post ∧ PartOf s.taken origin post'

/-- The number of the last line in the buffer is not the one before the next. -/
def gapBehind (s : Session) : Bool := s.lines.getLast?.any fun line => line.payload.seq + 1 ≠ s.nextSeq

/-- A line that goes into the buffer goes behind the line with the number before. -/
def NoGapBehind (config : Config) (s : Session) : Event → Prop
  | .log call =>
    ∀ payload, call.payload config.detectors s.nextSeq = some payload →
      isBlank payload.message = false → (payload.bytes : ℚ) ≤ lineBudget config.maxBatchBytes →
      gapBehind s = false
  | _ => True

/-! ## §2. Batches. -/

/-- Numbers that follow one another. -/
def Consecutive (seqs : List Nat) : Prop := ∃ first, 1 ≤ first ∧ seqs = List.range' first seqs.length

theorem Consecutive.nil : Consecutive [] := ⟨1, Nat.le_refl 1, rfl⟩

theorem Consecutive.piece {seqs seqs' : List Nat} (h : Consecutive seqs) (hpiece : seqs' <:+: seqs) :
    Consecutive seqs' := by
  obtain ⟨before, after, heq⟩ := hpiece
  obtain ⟨first, hfirst, hseqs⟩ := h
  rw [hseqs] at heq
  obtain ⟨k, -, hprefix, -⟩ := List.range'_eq_append_iff.mp heq.symm
  obtain ⟨j, hj, -, hmiddle⟩ := List.range'_eq_append_iff.mp hprefix.symm
  refine ⟨first + j, by omega, ?_⟩
  rw [hmiddle, List.length_range', Nat.mul_one]

/-- The number behind the last one goes on with them. -/
theorem Consecutive.snoc {seqs : List Nat} (h : Consecutive seqs) {next : Nat} (hnext : 1 ≤ next)
    (hlast : ∀ last ∈ seqs.getLast?, last + 1 = next) : Consecutive (seqs ++ [next]) := by
  obtain ⟨first, hfirst, hseqs⟩ := h
  cases hlength : seqs.length with
  | zero =>
    rw [List.length_eq_zero_iff.mp hlength]
    exact ⟨next, hnext, rfl⟩
  | succ n =>
    rw [hlength] at hseqs
    have hfollows : first + (n + 1) = next := by
      have hend : first + n ∈ seqs.getLast? := by
        rw [hseqs, List.getLast?_range', if_neg (Nat.succ_ne_zero n)]
        exact congrArg some (by omega)
      have := hlast _ hend
      omega
    refine ⟨first, hfirst, ?_⟩
    rw [List.length_append, hlength, List.length_singleton, List.range'_1_concat, ← hseqs, hfollows]

/-- A batch that may be posted. -/
structure Postable (cap : ℚ) (taken : List Batch) (origin : Option Nat) (batch : Batch) : Prop where
  starts : batch.firstSeq = batch.lines.head?.map Payload.seq
  consecutive : Consecutive (batch.lines.map Payload.seq)
  short : batch.lines.length ≤ MAX_BATCH_LINES
  small : ((2 + (batch.lines.map Payload.bytes).sum : Nat) : ℚ) ≤ cap
  part : batch.lines = [] ∨
    ∃ k whole, origin = some k ∧ taken[k]? = some whole ∧ batch.lines <:+: whole.lines

section Batches

variable {cap : ℚ} {taken : List Batch} {origin : Option Nat} {batch : Batch}

theorem Postable.later (h : Postable cap taken origin batch) (more : List Batch) :
    Postable cap (taken ++ more) origin batch :=
  { h with
    part := by
      obtain hnone | ⟨k, whole, horigin, hk, hpart⟩ := h.part
      · exact .inl hnone
      · have hlt : k < taken.length := (List.getElem?_eq_some_iff.mp hk).1
        exact .inr ⟨k, whole, horigin, by rw [List.getElem?_append_left hlt, hk], hpart⟩ }

theorem Postable.piece (h : Postable cap taken origin batch) {lines : List Payload}
    (hpiece : lines <:+: batch.lines) (droppedBefore : Nat) :
    Postable cap taken origin ⟨lines, droppedBefore, lines.head?.map Payload.seq⟩ where
  starts := rfl
  consecutive := h.consecutive.piece (hpiece.map _)
  short := hpiece.length_le.trans h.short
  small := by
    refine le_trans ?_ h.small
    have hsum : (lines.map Payload.bytes).sum ≤ (batch.lines.map Payload.bytes).sum :=
      (hpiece.sublist.map _).sum_le_sum fun _ _ => Nat.zero_le _
    exact_mod_cast Nat.add_le_add_left hsum 2
  part := by
    obtain hnone | ⟨k, whole, horigin, hk, hpart⟩ := h.part
    · have hempty : lines <:+: [] := by
        rw [← hnone]
        exact hpiece
      exact .inl (List.infix_nil.mp hempty)
    · exact .inr ⟨k, whole, horigin, hk, hpiece.trans hpart⟩

theorem Postable.headBatch (h : Postable cap taken origin batch) :
    Postable cap taken origin (headBatch batch) := by
  have hhead := h.piece (List.take_prefix (middle batch) batch.lines).isInfix batch.droppedBefore
  have hfirst : (batch.lines.take (middle batch)).head? = batch.lines.head? := by
    cases hlines : batch.lines with
    | nil => rw [List.take_nil]
    | cons line rest =>
      have hmiddle : middle batch ≠ 0 := by
        unfold middle
        rw [hlines, List.length_cons]
        omega
      rw [List.head?_take, if_neg hmiddle]
  rw [hfirst] at hhead
  exact hhead

theorem Postable.tailBatch (h : Postable cap taken origin batch) :
    Postable cap taken origin (tailBatch batch) := by
  have htail := h.piece (List.drop_suffix (middle batch) batch.lines).isInfix 0
  rw [List.head?_drop] at htail
  exact htail

theorem postable_closing (taken : List Batch) (origin : Option Nat) (hcap : 2 ≤ cap) (droppedBefore : Nat) :
    Postable cap taken origin ⟨[], droppedBefore, none⟩ where
  starts := rfl
  consecutive := Consecutive.nil
  short := Nat.zero_le _
  small := hcap
  part := .inl rfl

theorem Postable.wellFormed {maxBatchBytes : JsNumber}
    (h : Postable (batchCap maxBatchBytes) taken origin batch) (final : Bool) :
    WellFormed maxBatchBytes (batch.body origin final) := by
  obtain ⟨first, hfirst, hseqs⟩ := h.consecutive
  rw [List.length_map] at hseqs
  have hstarts : (batch.body origin final).firstSeq = batch.lines.head?.map Payload.seq := by
    unfold Batch.body
    rw [h.starts]
    cases hlines : batch.lines with
    | nil => rfl
    | cons line rest =>
      rw [hlines, List.map_cons, List.length_cons, List.range'_succ] at hseqs
      have hseq : line.seq = first := (List.cons.inj hseqs).1
      have hne : line.seq ≠ 0 := by omega
      simp [hne]
  refine ⟨hstarts, ?_, h.short, ?_⟩
  · have hlines : (batch.body origin final).lines = batch.lines := rfl
    rw [hstarts, hlines, hseqs]
    cases hlines : batch.lines with
    | nil => rfl
    | cons line rest =>
      rw [hlines, List.map_cons, List.length_cons, List.range'_succ] at hseqs
      rw [List.head?_cons, Option.map_some, Option.getD_some, (List.cons.inj hseqs).1]
  · have hlength : (utf8Length (linesText batch.lines) : ℚ) ≤
        ((2 + (batch.lines.map Payload.bytes).sum : Nat) : ℚ) :=
      Nat.cast_le.mpr (utf8Length_linesText batch.lines)
    exact hlength.trans h.small

end Batches

/-! ## §3. Sends. -/

/-- The batches a send may still post. -/
def Send.Carries (P : Batch → Prop) : Send → Prop
  | .posted batch _ => P batch
  | .resting batch _ => P batch
  | .head half batch => half.Carries P ∧ P batch
  | .tail _ half batch => half.Carries P ∧ P batch
  | .returned _ => True

theorem Send.Carries.mono {P Q : Batch → Prop} (hPQ : ∀ batch, P batch → Q batch) {send : Send}
    (h : send.Carries P) : send.Carries Q := by
  induction send with
  | posted batch | resting batch => exact hPQ batch h
  | head _ batch ih | tail _ _ batch ih => exact ⟨ih h.1, hPQ batch h.2⟩
  | returned ok => trivial

/-- What a send may do to its session. -/
structure Sent (P : Batch → Prop) (origin : Option Nat) (s s' : Session) : Prop where
  lines : s'.lines = s.lines ∨ s'.lines = []
  nextSeq : s'.nextSeq = s.nextSeq
  numbered : s'.numbered = s.numbered
  taken : s'.taken = s.taken
  inflight : s'.inflight = s.inflight
  closing : s'.closing = s.closing
  posts : ∀ post ∈ s'.posts, post ∈ s.posts ∨ ∃ batch final, P batch ∧ post = batch.body origin final

section Sends

variable {P : Batch → Prop} {origin : Option Nat} {s s' : Session} {send send' : Send} {batch : Batch}
  {final inTime : Bool}

theorem Sent.refl (s : Session) : Sent P origin s s :=
  ⟨.inl rfl, rfl, rfl, rfl, rfl, rfl, fun _ h => .inl h⟩

theorem Sent.drop (s : Session) (batch : Batch) : Sent P origin s (s.drop batch) :=
  ⟨.inl rfl, rfl, rfl, rfl, rfl, rfl, fun _ h => .inl h⟩

theorem Sent.stop (s : Session) : Sent P origin s s.stop :=
  ⟨.inr rfl, rfl, rfl, rfl, rfl, rfl, fun _ h => .inl h⟩

theorem attemptPost_sent (origin : Option Nat) (s : Session) (final inTime : Bool) (hbatch : P batch) :
    (attemptPost origin s batch final inTime).1.Carries P ∧
      Sent P origin s (attemptPost origin s batch final inTime).2 := by
  unfold attemptPost
  split
  · refine ⟨hbatch, .inl rfl, rfl, rfl, rfl, rfl, rfl, fun post hpost => ?_⟩
    obtain hold | hnew := List.mem_append.mp hpost
    · exact .inl hold
    · exact .inr ⟨batch, final, hbatch, List.mem_singleton.mp hnew⟩
  · exact ⟨trivial, Sent.drop s batch⟩

theorem answered_sent (hbatch : P batch) (hhead : P (headBatch batch)) (answer : Answer) :
    (s.answered origin batch final answer).1.Carries P ∧
      Sent P origin s (s.answered origin batch final answer).2 := by
  unfold Session.answered
  cases answer with
  | thrown network =>
    dsimp only
    split
    · exact ⟨hbatch, Sent.refl s⟩
    · exact ⟨trivial, Sent.drop s batch⟩
  | response status streamDisabled =>
    dsimp only
    split_ifs
    · exact ⟨trivial, Sent.stop s⟩
    · exact ⟨trivial, Sent.refl s⟩
    · obtain ⟨hcarries, hsent⟩ := attemptPost_sent origin s false true hhead
      exact ⟨⟨hcarries, hbatch⟩, hsent⟩
    · exact ⟨hbatch, Sent.refl s⟩
    · exact ⟨trivial, Sent.stop s⟩
    · exact ⟨hbatch, Sent.refl s⟩
    · exact ⟨trivial, Sent.drop s batch⟩

theorem headSent_sent (hbatch : P batch) (htail : P (tailBatch batch)) (headOk : Bool) :
    (s.headSent origin headOk batch).1.Carries P ∧ Sent P origin s (s.headSent origin headOk batch).2 := by
  unfold Session.headSent
  split
  · exact ⟨trivial, Sent.refl s⟩
  · obtain ⟨hcarries, hsent⟩ := attemptPost_sent origin s false true htail
    exact ⟨⟨hcarries, hbatch⟩, hsent⟩

theorem tailSent_sent (headOk tailOk : Bool) :
    (s.tailSent headOk tailOk batch).1.Carries P ∧ Sent P origin s (s.tailSent headOk tailOk batch).2 := by
  unfold Session.tailSent
  split
  · exact ⟨trivial, Sent.refl s⟩
  · refine ⟨trivial, ?_⟩
    dsimp only
    split
    · exact ⟨.inl rfl, rfl, rfl, rfl, rfl, rfl, fun _ h => .inl h⟩
    · exact Sent.refl s

/-- A call that waits for a half goes on with the half. -/
theorem Send.next_head {half : Send} {signal : Signal} (h : ∀ ok, half ≠ .returned ok) :
    (Send.head half batch).next origin s signal =
      (half.next origin s signal).map fun r => (.head r.1 batch, r.2) := by
  cases half with
  | returned ok => exact absurd rfl (h ok)
  | _ => rfl

theorem Send.next_tail {headOk : Bool} {half : Send} {signal : Signal} (h : ∀ ok, half ≠ .returned ok) :
    (Send.tail headOk half batch).next origin s signal =
      (half.next origin s signal).map fun r => (.tail headOk r.1 batch, r.2) := by
  cases half with
  | returned ok => exact absurd rfl (h ok)
  | _ => rfl

/-- **A SEND POSTS ONLY WHAT IT CARRIES**, and halves of it. -/
theorem Send.next_sent (hhead : ∀ batch, P batch → P (headBatch batch))
    (htail : ∀ batch, P batch → P (tailBatch batch)) {signal : Signal} {r : Send × Session}
    (h : send.next origin s signal = some r) (hcarries : send.Carries P) :
    r.1.Carries P ∧ Sent P origin s r.2 := by
  induction send generalizing r with
  | posted batch final =>
    cases signal with
    | answer answer =>
      rw [← Option.some.inj h]
      exact answered_sent hcarries (hhead batch hcarries) answer
    | woke | resumed => cases h
  | resting batch final =>
    cases signal with
    | woke inTime =>
      rw [← Option.some.inj h]
      exact attemptPost_sent origin s final inTime hcarries
    | answer | resumed => cases h
  | head half batch ih =>
    obtain ⟨hhalf, hbatch⟩ := hcarries
    by_cases hreturned : ∃ ok, half = .returned ok
    · obtain ⟨headOk, rfl⟩ := hreturned
      cases signal with
      | resumed =>
        rw [← Option.some.inj h]
        exact headSent_sent hbatch (htail batch hbatch) headOk
      | answer | woke => cases h
    · rw [Send.next_head fun ok heq => hreturned ⟨ok, heq⟩] at h
      obtain ⟨r', hr', rfl⟩ := Option.map_eq_some_iff.mp h
      obtain ⟨hcarries', hsent⟩ := ih hr' hhalf
      exact ⟨⟨hcarries', hbatch⟩, hsent⟩
  | tail headOk half batch ih =>
    obtain ⟨hhalf, hbatch⟩ := hcarries
    by_cases hreturned : ∃ ok, half = .returned ok
    · obtain ⟨tailOk, rfl⟩ := hreturned
      cases signal with
      | resumed =>
        rw [← Option.some.inj h]
        exact tailSent_sent headOk tailOk
      | answer | woke => cases h
    · rw [Send.next_tail fun ok heq => hreturned ⟨ok, heq⟩] at h
      obtain ⟨r', hr', rfl⟩ := Option.map_eq_some_iff.mp h
      obtain ⟨hcarries', hsent⟩ := ih hr' hhalf
      exact ⟨⟨hcarries', hbatch⟩, hsent⟩
  | returned ok => cases h

end Sends

/-! ## §4. The buffer. -/

section Buffer

variable {budget cap : ℚ} {s : Session}

theorem takeLines_prefix (budget : ℚ) (count bytes : Nat) (lines : List Line) :
    takeLines budget count bytes lines <+: lines := by
  induction lines generalizing count bytes with
  | nil => exact List.prefix_rfl
  | cons line rest ih =>
    unfold takeLines
    split
    · exact List.cons_prefix_cons.mpr ⟨rfl, ih _ _⟩
    · exact List.nil_prefix

theorem takeLines_length (budget : ℚ) (count bytes : Nat) (lines : List Line) (hcount : count ≤ MAX_BATCH_LINES) :
    count + (takeLines budget count bytes lines).length ≤ MAX_BATCH_LINES := by
  induction lines generalizing count bytes with
  | nil => exact hcount
  | cons line rest ih =>
    unfold takeLines
    split
    · rename_i htake
      have hrest := ih (count + 1) (bytes + line.bytes) htake.1
      rw [List.length_cons]
      omega
    · exact hcount

/-- The lines of a batch stay in the cap: the first fits by itself, and each further
    one fits with those before it. -/
theorem takeLines_bytes (hbudget : budget ≤ cap) (count bytes : Nat) (lines : List Line)
    (hbytes : (bytes : ℚ) ≤ cap)
    (hfirst : count = 0 → ∀ line ∈ lines, ((bytes + line.bytes : Nat) : ℚ) ≤ cap) :
    ((bytes + ((takeLines budget count bytes lines).map Line.bytes).sum : Nat) : ℚ) ≤ cap := by
  induction lines generalizing count bytes with
  | nil => exact hbytes
  | cons line rest ih =>
    unfold takeLines
    split
    · rename_i htake
      have hline : ((bytes + line.bytes : Nat) : ℚ) ≤ cap := by
        cases count with
        | zero => exact hfirst rfl line List.mem_cons_self
        | succ n => exact (not_lt.mp fun hlt => htake.2 ⟨Nat.succ_pos n, hlt⟩).trans hbudget
      have hrest := ih (count + 1) (bytes + line.bytes) hline fun hzero => absurd hzero (Nat.succ_ne_zero _)
      rw [List.map_cons, List.sum_cons, ← Nat.add_assoc]
      exact hrest
    · exact hbytes

/-- What eviction leaves is the end of the buffer. -/
theorem evict_suffix (agentBytes : Int → Nat) (lines : List Line) (bytes : Int) (dropped : Nat) :
    (evict agentBytes lines bytes dropped).1 <:+ lines := by
  induction lines generalizing bytes dropped with
  | nil => exact List.suffix_rfl
  | cons line rest ih =>
    unfold evict
    split
    · exact (ih _ _).trans (List.suffix_cons line rest)
    · exact List.suffix_rfl

theorem batchCap_bounds (maxBatchBytes : JsNumber) : 4096 ≤ batchCap maxBatchBytes := by
  unfold batchCap
  cases maxBatchBytes with
  | finite x =>
    dsimp only
    split
    · norm_num [MAX_BATCH_BYTES]
    · exact le_min (le_max_right _ _) (by norm_num [MAX_BATCH_BYTES])
  | nan => norm_num [MAX_BATCH_BYTES]
  | infinity neg =>
    cases neg with
    | true => exact le_refl _
    | false => norm_num [MAX_BATCH_BYTES]

end Buffer

/-! ## §5. The invariant. -/

def Line.seq (line : Line) : Nat := line.payload.seq

def Batch.seqs (batch : Batch) : List Nat := batch.lines.map Payload.seq

/-- The batches `close` may still post. -/
def Closing.Carries (P : Option Nat → Batch → Prop) : Closing → Prop
  | .draining origin send => send.Carries (P (some origin))
  | .finishing send => send.Carries (P none)
  | _ => True

/-- A session that put no line behind a gap. -/
structure Inv (config : Config) (s : Session) : Prop where
  first : 1 ≤ s.nextSeq
  numbered : s.numbered.map Payload.seq = List.range' 1 (s.nextSeq - 1)
  buffer : Consecutive (s.lines.map Line.seq)
  sized : ∀ line ∈ s.lines,
    line.bytes = line.payload.bytes ∧ (line.bytes : ℚ) ≤ lineBudget config.maxBatchBytes
  ordered : (s.taken.flatMap Batch.seqs ++ (s.lines.map Line.seq ++ [s.nextSeq])).Pairwise (· < ·)
  inflight : ∀ origin send, s.inflight = some (origin, send) →
    send.Carries (Postable (batchCap config.maxBatchBytes) s.taken (some origin))
  closing : s.closing.Carries (Postable (batchCap config.maxBatchBytes) s.taken)
  posts : ∀ post ∈ s.posts, ∃ batch final,
    Postable (batchCap config.maxBatchBytes) s.taken post.origin batch ∧ post = batch.body post.origin final

section Invariant

variable {config : Config} {s s' : Session} {origin : Option Nat} {send : Send} {inTime : Bool}

theorem Closing.Carries.mono {P Q : Option Nat → Batch → Prop} (hPQ : ∀ origin batch, P origin batch → Q origin batch)
    {closing : Closing} (h : closing.Carries P) : closing.Carries Q := by
  cases closing with
  | draining | finishing => exact Send.Carries.mono (hPQ _) h
  | _ => trivial

theorem Inv.fresh (config : Config) : Inv config Session.fresh where
  first := Nat.le_refl 1
  numbered := rfl
  buffer := Consecutive.nil
  sized := List.forall_mem_nil _
  ordered := List.pairwise_singleton _ _
  inflight := fun _ _ h => by cases h
  closing := trivial
  posts := List.forall_mem_nil _

/-- Lines may go from the front of the buffer. -/
theorem Inv.shorter (h : Inv config s) {lines : List Line} (hlines : lines <:+ s.lines) (bytes : Int)
    (dropped : Nat) : Inv config { s with lines := lines, bytes := bytes, dropped := dropped } :=
  { h with
    buffer := h.buffer.piece (hlines.isInfix.map _)
    sized := fun line hline => h.sized line (hlines.subset hline)
    ordered := h.ordered.sublist
      ((List.Sublist.refl _).append ((hlines.sublist.map _).append (List.Sublist.refl _))) }

/-- A send keeps the invariant. -/
theorem Inv.sent (h : Inv config s)
    (hsent : Sent (Postable (batchCap config.maxBatchBytes) s.taken origin) origin s s') : Inv config s' where
  first := by
    rw [hsent.nextSeq]
    exact h.first
  numbered := by
    rw [hsent.numbered, hsent.nextSeq]
    exact h.numbered
  buffer := by
    obtain hsame | hnone := hsent.lines
    · rw [hsame]
      exact h.buffer
    · rw [hnone]
      exact Consecutive.nil
  sized := by
    obtain hsame | hnone := hsent.lines
    · rw [hsame]
      exact h.sized
    · rw [hnone]
      exact List.forall_mem_nil _
  ordered := by
    rw [hsent.taken, hsent.nextSeq]
    obtain hsame | hnone := hsent.lines
    · rw [hsame]
      exact h.ordered
    · rw [hnone]
      exact h.ordered.sublist ((List.Sublist.refl _).append (List.sublist_append_right _ _))
  inflight := by
    rw [hsent.inflight, hsent.taken]
    exact h.inflight
  closing := by
    rw [hsent.closing, hsent.taken]
    exact h.closing
  posts := by
    rw [hsent.taken]
    intro post hpost
    obtain hold | ⟨batch, final, hbatch, rfl⟩ := hsent.posts post hpost
    · exact h.posts post hold
    · exact ⟨batch, final, hbatch, rfl⟩

theorem Inv.withInflight (h : Inv config s) {k : Nat}
    (hsend : send.Carries (Postable (batchCap config.maxBatchBytes) s.taken (some k))) :
    Inv config { s with inflight := some (k, send) } :=
  { h with
    inflight := fun _ _ heq => by
      cases heq
      exact hsend }

theorem Inv.withoutInflight (h : Inv config s) : Inv config { s with inflight := none } :=
  { h with inflight := fun _ _ heq => by cases heq }

theorem Inv.withClosing (h : Inv config s) (closing : Closing)
    (hclosing : closing.Carries (Postable (batchCap config.maxBatchBytes) s.taken)) (closed : Bool) :
    Inv config { s with closed := closed, closing := closing } :=
  { h with closing := hclosing }

theorem Inv.number (h : Inv config s) {payload : Payload} (hseq : payload.seq = s.nextSeq) (dropped : Nat) :
    Inv config { s with nextSeq := s.nextSeq + 1, numbered := s.numbered ++ [payload], dropped := dropped } :=
  { h with
    first := Nat.le_add_left 1 _
    numbered := by
      have hfirst := h.first
      show (s.numbered ++ [payload]).map Payload.seq = List.range' 1 (s.nextSeq + 1 - 1)
      obtain ⟨n, hn⟩ : ∃ n, s.nextSeq = n + 1 := ⟨s.nextSeq - 1, by omega⟩
      rw [List.map_append, h.numbered, List.map_singleton, hseq, hn, Nat.add_sub_cancel, Nat.add_sub_cancel,
        List.range'_1_concat, Nat.add_comm 1 n]
    ordered := by
      have hordered := h.ordered
      rw [← List.append_assoc, List.pairwise_append] at hordered ⊢
      refine ⟨hordered.1, List.pairwise_singleton _ _, fun a ha b hb => ?_⟩
      rw [List.mem_singleton.mp hb]
      exact (hordered.2.2 a ha s.nextSeq List.mem_cons_self).trans (Nat.lt_succ_self _) }

theorem Inv.append (h : Inv config s) (hgap : gapBehind s = false) {payload : Payload}
    (hseq : payload.seq = s.nextSeq) (hfits : (payload.bytes : ℚ) ≤ lineBudget config.maxBatchBytes) :
    Inv config
      { s with
        nextSeq := s.nextSeq + 1
        numbered := s.numbered ++ [payload]
        lines := s.lines ++ [⟨payload, payload.bytes⟩] } where
  first := Nat.le_add_left 1 _
  numbered := (h.number hseq s.dropped).numbered
  buffer := by
    rw [List.map_append, List.map_singleton]
    refine h.buffer.snoc (by rw [Line.seq, hseq]; exact h.first) fun last hlast => ?_
    rw [List.getLast?_map] at hlast
    obtain ⟨line, hline, rfl⟩ := Option.map_eq_some_iff.mp hlast
    unfold gapBehind at hgap
    rw [hline] at hgap
    show line.payload.seq + 1 = payload.seq
    rw [hseq]
    simpa using hgap
  sized := by
    rw [List.forall_mem_append, List.forall_mem_singleton]
    exact ⟨h.sized, rfl, hfits⟩
  ordered := by
    have hseqs : (s.lines ++ [(⟨payload, payload.bytes⟩ : Line)]).map Line.seq =
        s.lines.map Line.seq ++ [s.nextSeq] := by
      rw [List.map_append, List.map_singleton, Line.seq, hseq]
    rw [hseqs, ← List.append_assoc, List.pairwise_append]
    refine ⟨h.ordered, List.pairwise_singleton _ _, fun a ha b hb => ?_⟩
    rw [List.mem_singleton.mp hb]
    rw [← List.append_assoc] at ha
    obtain hbefore | hlast := List.mem_append.mp ha
    · have hpairs := h.ordered
      rw [← List.append_assoc, List.pairwise_append] at hpairs
      exact (hpairs.2.2 a hbefore s.nextSeq List.mem_cons_self).trans (Nat.lt_succ_self _)
    · rw [List.mem_singleton.mp hlast]
      exact Nat.lt_succ_self _
  inflight := h.inflight
  closing := h.closing
  posts := h.posts

theorem Inv.take (h : Inv config s) :
    Postable (batchCap config.maxBatchBytes) (takeBatch (lineBudget config.maxBatchBytes) s).2.taken
        (some s.taken.length) (takeBatch (lineBudget config.maxBatchBytes) s).1 ∧
      Inv config (takeBatch (lineBudget config.maxBatchBytes) s).2 := by
  obtain ⟨rest, hrest⟩ := takeLines_prefix (lineBudget config.maxBatchBytes) 0 2 s.lines
  have hcap := batchCap_bounds config.maxBatchBytes
  have hbudget : lineBudget config.maxBatchBytes = batchCap config.maxBatchBytes - 2048 := by
    norm_num [lineBudget, ENVELOPE_HEADROOM_BYTES]
  set lines := takeLines (lineBudget config.maxBatchBytes) 0 2 s.lines with hlines
  have hpart : lines <:+: s.lines := ⟨[], rest, by rw [List.nil_append]; exact hrest⟩
  have hdrop : s.lines.drop lines.length = rest := by rw [← hrest, List.drop_left]
  have hbytes : (lines.map Line.payload).map Payload.bytes = lines.map Line.bytes := by
    rw [List.map_map]
    exact List.map_congr_left fun line hline => (h.sized line (hpart.subset hline)).1.symm
  have hseqs : (lines.map Line.payload).map Payload.seq = lines.map Line.seq := by
    rw [List.map_map]
    rfl
  constructor
  · refine ⟨rfl, ?_, ?_, ?_, .inr ⟨s.taken.length, _, rfl, ?_, List.infix_rfl⟩⟩
    · show Consecutive ((lines.map Line.payload).map Payload.seq)
      rw [hseqs]
      exact h.buffer.piece (hpart.map _)
    · show (lines.map Line.payload).length ≤ MAX_BATCH_LINES
      have hlength := takeLines_length (lineBudget config.maxBatchBytes) 0 2 s.lines (Nat.zero_le _)
      rw [← hlines] at hlength
      rw [List.length_map]
      omega
    · show ((2 + ((lines.map Line.payload).map Payload.bytes).sum : Nat) : ℚ) ≤ _
      rw [hbytes]
      refine takeLines_bytes (by linarith) 0 2 s.lines (by push_cast; linarith) fun _ line hline => ?_
      have hfits := (h.sized line hline).2
      push_cast
      linarith
    · show (s.taken ++ [_])[s.taken.length]? = some _
      rw [List.getElem?_append_right (Nat.le_refl _), Nat.sub_self]
      rfl
  · have hkept := h.shorter (show rest <:+ s.lines from ⟨lines, hrest⟩) (s.bytes - (lines.map Line.bytes).sum) 0
    refine ⟨h.first, h.numbered, ?_, ?_, ?_, ?_, ?_, ?_⟩
    · show Consecutive ((s.lines.drop lines.length).map Line.seq)
      rw [hdrop]
      exact hkept.buffer
    · show ∀ line ∈ s.lines.drop lines.length, _
      rw [hdrop]
      exact hkept.sized
    · show ((s.taken ++ [(⟨lines.map Line.payload, s.dropped, _⟩ : Batch)]).flatMap Batch.seqs ++
        ((s.lines.drop lines.length).map Line.seq ++ [s.nextSeq])).Pairwise (· < ·)
      have hordered := h.ordered
      rw [← hrest, List.map_append, List.append_assoc] at hordered
      rw [hdrop, List.flatMap_append, List.append_assoc]
      simpa only [List.flatMap_singleton, Batch.seqs, hseqs] using hordered
    · exact fun origin send hsend => (h.inflight origin send hsend).mono fun _ hbatch => hbatch.later _
    · exact h.closing.mono fun _ _ hbatch => hbatch.later _
    · intro post hpost
      obtain ⟨batch, final, hbatch, heq⟩ := h.posts post hpost
      exact ⟨batch, final, hbatch.later _, heq⟩

theorem Inv.sendTaken (h : Inv config s) {r : (Nat × Send) × Session}
    (hr : sendTaken (lineBudget config.maxBatchBytes) s = r) :
    Inv config r.2 ∧
      r.1.2.Carries (Postable (batchCap config.maxBatchBytes) r.2.taken (some r.1.1)) := by
  obtain ⟨hbatch, htaken⟩ := h.take
  obtain ⟨hcarries, hsent⟩ := attemptPost_sent (some s.taken.length)
    (takeBatch (lineBudget config.maxBatchBytes) s).2 false true hbatch
  rw [← hr]
  refine ⟨htaken.sent hsent, ?_⟩
  have hsame := hsent.taken
  unfold JobLog.sendTaken
  dsimp only
  rw [hsame]
  exact hcarries

theorem Inv.flush (h : Inv config s) : Inv config (flush (lineBudget config.maxBatchBytes) s) := by
  unfold JobLog.flush
  split
  · exact h
  · obtain ⟨hinv, hcarries⟩ := h.sendTaken rfl
    exact hinv.withInflight hcarries

theorem Inv.drain (h : Inv config s) : Inv config (drain (lineBudget config.maxBatchBytes) s inTime) := by
  unfold JobLog.drain
  split
  · obtain ⟨hinv, hcarries⟩ := h.sendTaken rfl
    exact hinv.withClosing (.draining _ _) hcarries _
  · split
    · exact h.withClosing .finished trivial _
    · have hcap := batchCap_bounds config.maxBatchBytes
      have hempty := h.shorter (List.nil_suffix) 0 0
      obtain ⟨hcarries, hsent⟩ := attemptPost_sent none
        { s with lines := [], bytes := 0, dropped := 0 } true true
        (postable_closing s.taken none (by linarith : (2 : ℚ) ≤ batchCap config.maxBatchBytes)
          (s.dropped + s.lines.length))
      have hsame := hsent.taken
      refine (hempty.sent hsent).withClosing (.finishing _) ?_ _
      unfold Closing.Carries
      rw [hsame]
      exact hcarries

theorem Inv.close (h : Inv config s) : Inv config (close (lineBudget config.maxBatchBytes) s inTime) := by
  unfold JobLog.close
  split
  · have hclosed := h.withClosing s.closing h.closing true
    dsimp only
    split
    · exact hclosed.withClosing (.awaiting _) trivial true
    · exact hclosed.drain
  · exact h

theorem Inv.resumeClose (h : Inv config s)
    (hnext : resumeClose (lineBudget config.maxBatchBytes) s inTime = some s') : Inv config s' := by
  unfold JobLog.resumeClose at hnext
  split at hnext
  · split at hnext
    · cases hnext
    · rw [← Option.some.inj hnext]
      exact h.drain
  · rw [← Option.some.inj hnext]
    exact h.drain
  · rw [← Option.some.inj hnext]
    exact h.withClosing .finished trivial _
  · cases hnext

theorem Inv.enqueue (h : Inv config s) {call : LogCall} (hgap : NoGapBehind config s (.log call)) :
    Inv config (enqueue config s call) := by
  unfold JobLog.enqueue
  dsimp only
  split
  · exact h
  · cases hpayload : call.payload config.detectors s.nextSeq with
    | none => exact h.shorter List.suffix_rfl s.bytes _
    | some payload =>
      dsimp only
      split
      · exact h
      · rename_i hblank
        have hseq : payload.seq = s.nextSeq := by
          unfold LogCall.payload at hpayload
          simp only [Option.bind_eq_bind, Option.bind_eq_some_iff] at hpayload
          obtain ⟨text, -, fields, -, heq⟩ := hpayload
          rw [← Option.some.inj heq]
        split
        · exact h.number hseq _
        · rename_i hfits
          have hfits : (payload.bytes : ℚ) ≤ lineBudget config.maxBatchBytes := not_lt.mp hfits
          have happended := h.append (hgap payload hpayload (by simpa using hblank) hfits) hseq hfits
          have hpushed : Inv config (Session.push
              { s with nextSeq := s.nextSeq + 1, numbered := s.numbered ++ [payload] } call payload) :=
            happended.shorter (evict_suffix call.agentBytes _ _ _) _ _
          split
          · exact hpushed.flush
          · exact hpushed

/-- **THE INVARIANT OF A SESSION**, event by event. -/
theorem Inv.next (h : Inv config s) {event : Event} (hgap : NoGapBehind config s event)
    (hnext : s.next config event = some s') : Inv config s' := by
  have hhead : ∀ taken origin, ∀ batch, Postable (batchCap config.maxBatchBytes) taken origin batch →
      Postable (batchCap config.maxBatchBytes) taken origin (headBatch batch) :=
    fun _ _ _ hbatch => hbatch.headBatch
  have htail : ∀ taken origin, ∀ batch, Postable (batchCap config.maxBatchBytes) taken origin batch →
      Postable (batchCap config.maxBatchBytes) taken origin (tailBatch batch) :=
    fun _ _ _ hbatch => hbatch.tailBatch
  cases event with
  | log call =>
    rw [← Option.some.inj hnext]
    exact h.enqueue hgap
  | flush =>
    rw [← Option.some.inj hnext]
    exact h.flush
  | sending signal =>
    unfold Session.next at hnext
    cases hinflight : s.inflight with
    | none =>
      rw [hinflight] at hnext
      cases hnext
    | some inflight =>
      obtain ⟨k, send⟩ := inflight
      rw [hinflight] at hnext
      obtain ⟨r, hr, rfl⟩ := Option.map_eq_some_iff.mp hnext
      obtain ⟨hcarries, hsent⟩ := Send.next_sent (hhead _ _) (htail _ _) hr (h.inflight k send hinflight)
      refine (h.sent hsent).withInflight ?_
      rw [hsent.taken]
      exact hcarries
  | sent =>
    unfold Session.next at hnext
    dsimp only at hnext
    split at hnext
    · rw [← Option.some.inj hnext]
      exact h.withoutInflight
    · cases hnext
  | close inTime =>
    rw [← Option.some.inj hnext]
    exact h.close
  | closing signal =>
    have hclosing := h.closing
    unfold Session.next at hnext
    dsimp only at hnext
    cases hstate : s.closing with
    | draining k send =>
      rw [hstate] at hnext hclosing
      obtain ⟨r, hr, rfl⟩ := Option.map_eq_some_iff.mp hnext
      obtain ⟨hcarries, hsent⟩ := Send.next_sent (hhead _ _) (htail _ _) hr hclosing
      refine (h.sent hsent).withClosing (.draining k r.1) ?_ _
      unfold Closing.Carries
      rw [hsent.taken]
      exact hcarries
    | finishing send =>
      rw [hstate] at hnext hclosing
      obtain ⟨r, hr, rfl⟩ := Option.map_eq_some_iff.mp hnext
      obtain ⟨hcarries, hsent⟩ := Send.next_sent (hhead _ _) (htail _ _) hr hclosing
      refine (h.sent hsent).withClosing (.finishing r.1) ?_ _
      unfold Closing.Carries
      rw [hsent.taken]
      exact hcarries
    | notClosed | awaiting _ | finished =>
      rw [hstate] at hnext
      cases hnext
  | resumeClose inTime => exact h.resumeClose hnext

theorem Inv.taken_inj (h : Inv config s) {k k' seq : Nat} {batch batch' : Batch}
    (hk : s.taken[k]? = some batch) (hk' : s.taken[k']? = some batch') (hseq : seq ∈ batch.seqs)
    (hseq' : seq ∈ batch'.seqs) : k = k' := by
  have hpairs := (List.pairwise_flatMap.mp (List.pairwise_append.mp h.ordered).1).2
  obtain ⟨hlt, rfl⟩ := List.getElem?_eq_some_iff.mp hk
  obtain ⟨hlt', rfl⟩ := List.getElem?_eq_some_iff.mp hk'
  obtain hbefore | heq | hafter := Nat.lt_trichotomy k k'
  · exact absurd (List.pairwise_iff_getElem.mp hpairs k k' hlt hlt' hbefore seq hseq seq hseq') (lt_irrefl _)
  · exact heq
  · exact absurd (List.pairwise_iff_getElem.mp hpairs k' k hlt' hlt hafter seq hseq' seq hseq) (lt_irrefl _)

theorem Inv.part (h : Inv config s) {post : Post} (hpost : post ∈ s.posts) {seq : Nat}
    (hseq : seq ∈ post.lines.map Payload.seq) :
    ∃ k whole, PartOf s.taken k post ∧ s.taken[k]? = some whole ∧ seq ∈ whole.seqs := by
  obtain ⟨batch, final, hbatch, heq⟩ := h.posts post hpost
  have hlines : post.lines = batch.lines := by rw [heq]; rfl
  obtain hnone | ⟨k, whole, horigin, hk, hpart⟩ := hbatch.part
  · rw [hlines, hnone] at hseq
    cases hseq
  · rw [← hlines] at hpart
    exact ⟨k, whole, ⟨horigin, whole, hk, hpart⟩, hk, (hpart.sublist.map _).subset hseq⟩

end Invariant

/-- **EVERY POST IS WELL FORMED** in every run that puts no line behind a gap, no number
    goes to two lines, and a number is posted again only with the batch it was taken
    with. -/
theorem posts_wellFormed (config : Config) (s : Session)
    (h : Reachable (console config) (NoGapBehind config) s) :
    (∀ post ∈ s.posts, WellFormed config.maxBatchBytes post) ∧
      (s.numbered.map Payload.seq).Nodup ∧ Reposts s := by
  have hinv : Inv config s := h.invariant
    (by rintro s rfl; exact Inv.fresh config) fun t event u ht hgap hnext => ht.next hgap hnext
  refine ⟨fun post hpost => ?_, ?_, fun post hpost post' hpost' seq hseq hseq' => ?_⟩
  · obtain ⟨batch, final, hbatch, heq⟩ := hinv.posts post hpost
    rw [heq]
    exact hbatch.wellFormed final
  · rw [hinv.numbered]
    exact List.nodup_range'
  · obtain ⟨k, whole, hpart, hk, hin⟩ := hinv.part hpost hseq
    obtain ⟨k', whole', hpart', hk', hin'⟩ := hinv.part hpost' hseq'
    obtain rfl := hinv.taken_inj hk hk' hin hin'
    exact ⟨k, hpart, hpart'⟩

/-! ## §6. A gap. -/

/-- Detectors that find nothing. -/
def quietDetectors : Detectors where
  containsPrivateKeyMaterial _ := false
  redactGenericSecrets text := text
  redactConsoleSecrets text := text
  hintsAtSecret _ := false
  redactHighEntropy text := text
  fieldNameLooksGenericSecret _ := false
  fieldNameLooksPrivateKeyMaterial _ := false

/-- `maxBatchBytes: 4096`. -/
def smallBatches : Config where
  detectors := quietDetectors
  maxBatchBytes := .finite
    { neg := false, mant := 2 ^ 52, exp := -40, mant_lt := by decide, exp_ge := by decide
      exp_le := by decide, canonical := .inl (Nat.le_refl _) }

/-- `logger.info(message)`. -/
def info (message : JsString) : Event :=
  .log
    { level := js "info", step := js "claim", message := message, fields := none
      ts := js "2026-01-01T00:00:00.000Z", agentBytes := Int.toNat }

def postedSeqs (s : Session) : List (List Nat) := s.posts.map fun post => post.lines.map Payload.seq

theorem posts_wellFormed_twoLines :
    ∃ s, postedSeqs s = [[1, 2]] ∧ ∀ post ∈ s.posts, WellFormed smallBatches.maxBatchBytes post := by
  have hplayed : (playedWithin (Session.next smallBatches)
      (fun s event => match event with | .log _ => !gapBehind s | _ => true)
      [info (js "a"), info (js "b"), .flush] Session.fresh).map postedSeqs = some [[1, 2]] := by
    decide +kernel
  obtain ⟨s, hs, hposted⟩ := Option.map_eq_some_iff.mp hplayed
  refine ⟨s, hposted, (posts_wellFormed smallBatches s ⟨Session.fresh, rfl, ?_⟩).1⟩
  refine Run.of_playedWithin (fun _ _ _ h => h) (fun s event hcheck => ?_) _ hs
  cases event with
  | log call => exact fun _ _ _ _ => by simpa using hcheck
  | _ => trivial

/-- A line of 1024 bytes whose line feeds take two bytes each does not fit a batch, and
    the batch of the lines around it has a gap. -/
theorem post_not_wellFormed :
    ∃ s, Reachable (console smallBatches) anyStep s ∧ postedSeqs s = [[1, 3]] ∧
      ¬ ∀ post ∈ s.posts, WellFormed smallBatches.maxBatchBytes post := by
  have hplayed : (played (Session.next smallBatches)
      [info (js "a"), info (unit 'b' :: List.replicate 1023 (unit '\n')), info (js "c"), .flush]
      Session.fresh).map postedSeqs = some [[1, 3]] := by
    decide +kernel
  obtain ⟨s, hs, hposted⟩ := Option.map_eq_some_iff.mp hplayed
  refine ⟨s, ⟨Session.fresh, rfl, Run.of_played (fun _ _ _ h => h) _ (fun _ _ _ => trivial) hs⟩, hposted, ?_⟩
  intro hwellFormed
  unfold postedSeqs at hposted
  obtain ⟨post, rest, hposts, hseqs, -⟩ := List.map_eq_cons_iff.mp hposted
  have hconsecutive := (hwellFormed post (by rw [hposts]; exact List.mem_cons_self)).consecutive
  have hlength : post.lines.length = 2 := by
    have := congrArg List.length hseqs
    rwa [List.length_map] at this
  rw [hseqs, hlength] at hconsecutive
  have hfirst := (List.cons.inj hconsecutive).1
  have hsecond := (List.cons.inj (List.cons.inj hconsecutive).2).1
  omega

end TokenTimer.Agent.JobLog
