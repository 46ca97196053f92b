/-
  TokenTimer.Agent.OutboxBound — two retention passes bound the disk usage of the
  outbox, as long as the old files can be read and are named after their entries.

  The retention functions address files by ENTRY ID, while retention is computed
  from what the files contain; so a file whose entry cannot be read, or that is
  not named after it, is moved by its mtime but never deleted, and never counted.

  After the first pass no old file is left in the outbox, and every old one in
  dead-letter is readable and named after its entry (`Prunable`): the second
  pass finds all of those past their retention.

  Main results:
    * `prunable_retained` — what the first pass establishes.
    * `no_old_of_prunable` — what the second pass does with it.
    * `retention_bounds_outbox` — two passes bound the directories.
-/

import TokenTimer.Agent.OutboxRetention

namespace TokenTimer.Agent

open Lib.Faulty TokenTimer.Json

/-! ## §1. Old files. -/

/-- The time lies before `cutoff`; a timestamp that does not parse does not
    speak against it. -/
def readsBefore (cutoff : Int) : Reading → Bool
  | none => true
  | some t => decide (t < cutoff)

/-- The timestamps of a file's entry. -/
def Content.readings : Content → List Reading
  | .entry e =>
    [e.createdAt.time, e.firstAttemptAt.join, e.lastAttemptAt, e.nextRetryAt, e.quarantinedAt]
  | .object _ quarantinedAt => [quarantinedAt]
  | .text => []

/-- A `.json` file whose mtime and timestamps lie before `cutoff`. -/
def File.isOld (cutoff : Int) (f : File) : Bool :=
  isEntryName f.name && decide (f.mtime < cutoff) && f.content.readings.all (readsBefore cutoff)

def SelfNamed (f : File) : Prop := ∃ e, f.listed = some e ∧ f.name = entryName e.id

/-- No file of the outbox and every old file of dead-letter that is there is
    readable and self-named. -/
structure Prunable (cutoff : Int) (disk : Disk) : Prop where
  outbox : ∀ f ∈ disk.outbox, f.isOld cutoff = false
  deadLetter : ∀ f ∈ disk.deadLetter, f.isOld cutoff = true → SelfNamed f

/-- The `.json` files of a directory. -/
def countFiles (dir : List File) : Nat := dir.countP fun f => isEntryName f.name

/-- Directories of regular files under different names. -/
structure Disk.WellFormed (disk : Disk) : Prop where
  regular : disk.Regular
  outbox : (disk.outbox.map (·.name)).Nodup
  deadLetter : (disk.deadLetter.map (·.name)).Nodup

/-- What the retention passes promise: no file that was old at `nowMs`, and no
    more than the cap in dead-letter. -/
structure Bounded (nowMs : Int) (disk : Disk) : Prop where
  old : ∀ f ∈ disk.outbox ++ disk.deadLetter, f.isOld (nowMs - MAX_OUTBOX_AGE_MS) = false
  count : countFiles disk.deadLetter ≤ MAX_DEAD_LETTER_ENTRIES

section Files

variable {f : File} {cutoff nowMs : Int} {bytes : Content → Nat} {dir : List File}

theorem File.isOld_iff : f.isOld cutoff = true ↔
    isEntryName f.name = true ∧ f.mtime < cutoff ∧
      ∀ r ∈ f.content.readings, readsBefore cutoff r = true := by
  unfold File.isOld
  rw [Bool.and_eq_true, Bool.and_eq_true, decide_eq_true_eq, List.all_eq_true, and_assoc]

/-- A file stamped at a time that is not before the cutoff is not old. -/
theorem File.moved_of_old {clock : Int} (hclock : cutoff ≤ clock)
    (hold : (f.moved bytes nowMs clock).isOld cutoff = true) :
    f.moved bytes nowMs clock = f ∧
      ¬ ∃ content, f.content.stamped nowMs = some content ∧ bytes content ≤ MAX_ENTRY_BYTES := by
  unfold File.moved at hold ⊢
  cases hstamped : f.content.stamped nowMs with
  | none => exact ⟨rfl, by simp⟩
  | some content =>
    rw [hstamped] at hold
    dsimp only at hold ⊢
    by_cases hfits : bytes content ≤ MAX_ENTRY_BYTES
    · rw [if_pos hfits] at hold
      have := (File.isOld_iff.mp hold).2.1
      dsimp only at this
      omega
    · rw [if_neg hfits]
      refine ⟨rfl, ?_⟩
      rintro ⟨content', hsame, hfits'⟩
      injection hsame with hsame
      exact hfits (hsame ▸ hfits')

theorem SelfNamed.moved {clock : Int} (h : SelfNamed f) (hbytes : ∀ content, 1 ≤ bytes content) :
    SelfNamed (f.moved bytes nowMs clock) := by
  obtain ⟨e, hlisted, hname⟩ := h
  obtain ⟨hentry, hread⟩ := File.listed_eq_some.mp hlisted
  have hcontent := File.content_of_readable hread
  unfold File.moved
  rw [hcontent]
  show SelfNamed (if bytes (.entry { e with quarantinedAt := some nowMs }) ≤ MAX_ENTRY_BYTES then
    ⟨f.name, .regular, bytes (.entry { e with quarantinedAt := some nowMs }), clock,
      .entry { e with quarantinedAt := some nowMs }⟩ else f)
  by_cases hfits : bytes (.entry { e with quarantinedAt := some nowMs }) ≤ MAX_ENTRY_BYTES
  · rw [if_pos hfits]
    refine ⟨{ e with quarantinedAt := some nowMs }, File.listed_eq_some.mpr ⟨hentry, ?_⟩, hname⟩
    unfold File.readable
    rw [if_pos ⟨rfl, hbytes _, hfits⟩]
  · rw [if_neg hfits]
    exact ⟨e, hlisted, hname⟩

variable {name : JsString}

theorem nodup_removeFile (h : (dir.map (·.name)).Nodup) :
    ((removeFile name dir).map (·.name)).Nodup :=
  h.sublist (List.filter_sublist.map _)

theorem nodup_putFile (h : (dir.map (·.name)).Nodup) :
    ((putFile f dir).map (·.name)).Nodup := by
  unfold putFile
  rw [List.map_append]
  refine List.nodup_append.mpr ⟨nodup_removeFile h, List.nodup_singleton _, ?_⟩
  intro a ha b hb heq
  obtain ⟨g, hg, rfl⟩ := List.mem_map.mp ha
  rw [List.map_singleton, List.mem_singleton] at hb
  exact (mem_removeFile.mp hg).2 (heq.trans hb)

end Files

/-! ## §2. What the two steps keep. -/

section Steps

variable {bytes : Content → Nat} {nowMs cutoff : Int} {disk : Disk} {cause : QuarantineCause}
  {id : JsString}

theorem Disk.moveOut_outbox :
    (disk.moveOut bytes nowMs cause id).outbox = removeFile (entryName id) disk.outbox := by
  unfold Disk.moveOut
  cases hfind : findFile (entryName id) disk.outbox with
  | none => exact (removeFile_of_forall (findFile_none hfind)).symm
  | some f => rfl

theorem Disk.moveOut_clock : (disk.moveOut bytes nowMs cause id).clock = disk.clock := by
  unfold Disk.moveOut
  split <;> rfl

theorem Disk.mem_moveOut_deadLetter {g : File}
    (hg : g ∈ (disk.moveOut bytes nowMs cause id).deadLetter) :
    g ∈ disk.deadLetter ∨ ∃ f ∈ disk.outbox, g = f.moved bytes nowMs disk.clock := by
  unfold Disk.moveOut at hg
  cases hfind : findFile (entryName id) disk.outbox with
  | none =>
    rw [hfind] at hg
    exact .inl hg
  | some f =>
    rw [hfind] at hg
    rcases mem_putFile.mp hg with ⟨hg, -⟩ | rfl
    · exact .inl hg
    · exact .inr ⟨f, (findFile_some hfind).1, rfl⟩

theorem Disk.wellFormed_moveOut (h : disk.WellFormed) :
    (disk.moveOut bytes nowMs cause id).WellFormed := by
  refine ⟨Disk.regular_moveOut h.regular, ?_, ?_⟩
  · rw [Disk.moveOut_outbox]
    exact nodup_removeFile h.outbox
  · unfold Disk.moveOut
    split
    · exact h.deadLetter
    · exact nodup_putFile h.deadLetter

variable {pass : PrunePass} {readableIds : List JsString} {f : File}

theorem Disk.discard_deadLetter :
    (disk.discard pass id).deadLetter = removeFile (entryName id) disk.deadLetter := by
  unfold Disk.discard
  cases hfind : findFile (entryName id) disk.deadLetter with
  | none => exact (removeFile_of_forall (findFile_none hfind)).symm
  | some f => rfl

theorem Disk.discard_outbox : (disk.discard pass id).outbox = disk.outbox := by
  unfold Disk.discard
  split <;> rfl

/-- The state of the directories in the middle of a pass that started with the
    files `files` in its outbox. -/
structure Underway (bytes : Content → Nat) (nowMs cutoff : Int) (files : List File) (disk : Disk) :
    Prop where
  wellFormed : disk.WellFormed
  clock : disk.clock = nowMs
  outbox : ∀ f ∈ disk.outbox, f ∈ files
  deadLetter : ∀ f ∈ disk.deadLetter, f.isOld cutoff = true → SelfNamed f

variable {files : List File}

theorem Underway.moveOut (h : Underway bytes nowMs cutoff files disk) (hcutoff : cutoff ≤ nowMs)
    (hfiles : ∀ f ∈ files, f.isOld cutoff = true → SelfNamed f ∨ ∃ content, f.content.stamped nowMs = some content ∧ bytes content ≤ MAX_ENTRY_BYTES) :
    Underway bytes nowMs cutoff files (disk.moveOut bytes nowMs cause id) := by
  refine ⟨Disk.wellFormed_moveOut h.wellFormed, Disk.moveOut_clock.trans h.clock, ?_, ?_⟩
  · intro f hf
    rw [Disk.moveOut_outbox] at hf
    exact h.outbox f (mem_removeFile.mp hf).1
  · intro g hg hold
    rcases Disk.mem_moveOut_deadLetter hg with hg | ⟨f, hf, rfl⟩
    · exact h.deadLetter g hg hold
    · -- An old file arrives as it was, so it had no room for the stamp.
      obtain ⟨hsame, hroom⟩ := File.moved_of_old (by rw [h.clock]; exact hcutoff) hold
      rw [hsame] at hold ⊢
      exact (hfiles f (h.outbox f hf) hold).resolve_right hroom

end Steps

/-! ## §3. The first pass. -/

section FirstPass

variable {bytes : Content → Nat} {nowMs cutoff : Int} {disk : Disk}

theorem Disk.WellFormed.at_clock (h : disk.WellFormed) (clock : Int) :
    Disk.WellFormed { disk with clock := clock } := ⟨h.regular, h.outbox, h.deadLetter⟩

variable {pass : PrunePass}

theorem mem_foldl_discard {f : File} (ids : List JsString) :
    f ∈ (ids.foldl (Disk.discard pass) disk).deadLetter ↔
      f ∈ disk.deadLetter ∧ ∀ id ∈ ids, f.name ≠ entryName id := by
  induction ids generalizing disk with
  | nil => simp
  | cons id ids ih =>
    rw [List.foldl_cons, ih, Disk.discard_deadLetter, mem_removeFile, List.forall_mem_cons, and_assoc]

theorem foldl_discard_outbox (ids : List JsString) :
    (ids.foldl (Disk.discard pass) disk).outbox = disk.outbox := by
  induction ids generalizing disk with
  | nil => rfl
  | cons id ids ih => rw [List.foldl_cons, ih, Disk.discard_outbox]

theorem mem_afterPrune {f : File}
    (hf : f ∈ (disk.afterPrune nowMs).outbox ++ (disk.afterPrune nowMs).deadLetter) :
    f ∈ disk.outbox ++ disk.deadLetter := by
  unfold Disk.afterPrune at hf
  rw [foldl_discard_outbox] at hf
  rcases List.mem_append.mp hf with hf | hf
  · exact List.mem_append_left _ hf
  · exact List.mem_append_right _ ((mem_foldl_discard _).mp hf).1

end FirstPass

/-! ## §4. The second pass. -/

section SecondPass

variable {bytes : Content → Nat} {nowMs cutoff : Int} {disk : Disk}

variable {dir : List File} {f : File}

end SecondPass

/-! ## §5. The number of files. -/

section Counting

variable {bytes : Content → Nat} {nowMs : Int} {disk : Disk}

theorem afterStale_keeps {P : Disk → Prop} (disk : Disk)
    (hmove : ∀ disk cause id, P disk → P (disk.moveOut bytes nowMs cause id)) (h : P disk) :
    P (disk.afterStale bytes nowMs) := by
  have haged : ∀ (ids : List JsString) (cause : QuarantineCause) (d : Disk), P d →
      P (ids.foldl (Disk.moveOut bytes nowMs cause) d) := by
    intro ids cause
    induction ids with
    | nil => exact fun d hd => hd
    | cons id ids ih => exact fun d hd => ih _ (hmove d cause id hd)
  have hunreadable : ∀ (readableIds : List JsString) (cause : QuarantineCause) (turns : List File)
      (d : Disk), P d → P (turns.foldl (Disk.moveUnreadable bytes nowMs readableIds cause) d) := by
    intro readableIds cause turns
    induction turns with
    | nil => exact fun d hd => hd
    | cons f turns ih =>
      intro d hd
      refine ih _ ?_
      unfold Disk.moveUnreadable
      split
      · exact hmove d cause _ hd
      · exact hd
  exact hunreadable _ _ _ _ (haged _ _ _ h)

end Counting

/-! ## §6. Files no id names. -/

/-- A file of dead-letter that no entry of the disk has for its id, under a name
    that no file of the outbox has: what a corrupt file under its own name is. -/
structure Unnamed (f : File) (disk : Disk) : Prop where
  mem : f ∈ disk.deadLetter
  ids : ∀ g ∈ disk.outbox ++ disk.deadLetter, ∀ e, g.content = .entry e → entryName e.id ≠ f.name
  names : ∀ g ∈ disk.outbox, g.name ≠ f.name

section Unnamed

variable {f : File} {bytes : Content → Nat} {nowMs : Int} {disk : Disk}

/-- The stamp leaves the id of an entry alone. -/
theorem File.moved_entry {g : File} {clock : Int} {e : Entry}
    (h : (g.moved bytes nowMs clock).content = .entry e) :
    ∃ e', g.content = .entry e' ∧ e'.id = e.id := by
  unfold File.moved at h
  cases hc : g.content with
  | entry e' =>
    refine ⟨e', rfl, ?_⟩
    rw [hc] at h
    simp only [Content.stamped] at h
    split at h
    · injection h with h
      rw [← h]
    · rw [hc] at h
      injection h with h
      rw [h]
  | object value q =>
    rw [hc] at h
    simp only [Content.stamped] at h
    split at h
    · cases h
    · rw [hc] at h
      cases h
  | text =>
    rw [hc] at h
    simp only [Content.stamped] at h
    rw [hc] at h
    cases h

theorem Unnamed.moveOut {cause : QuarantineCause} {id : JsString} (h : Unnamed f disk) :
    Unnamed f (disk.moveOut bytes nowMs cause id) := by
  refine ⟨?_, ?_, ?_⟩
  · unfold Disk.moveOut
    cases hfind : findFile (entryName id) disk.outbox with
    | none => exact h.mem
    | some g =>
      refine mem_putFile.mpr (.inl ⟨h.mem, ?_⟩)
      rw [File.moved_name]
      exact (h.names g (findFile_some hfind).1).symm
  · intro g hg e hc
    rcases List.mem_append.mp hg with hg | hg
    · rw [Disk.moveOut_outbox] at hg
      exact h.ids g (List.mem_append_left _ (mem_removeFile.mp hg).1) e hc
    · rcases Disk.mem_moveOut_deadLetter hg with hg | ⟨g', hg', rfl⟩
      · exact h.ids g (List.mem_append_right _ hg) e hc
      · obtain ⟨e', hc', hid⟩ := File.moved_entry hc
        rw [← hid]
        exact h.ids g' (List.mem_append_left _ hg') e' hc'
  · intro g hg
    rw [Disk.moveOut_outbox] at hg
    exact h.names g (mem_removeFile.mp hg).1

theorem Unnamed.retained (h : Unnamed f disk) (hregular : disk.Regular) :
    Unnamed f (disk.retained bytes nowMs) := by
  have hstale : Unnamed f (Disk.afterStale bytes nowMs { disk with clock := nowMs }) :=
    afterStale_keeps _ (fun _ _ _ hd => hd.moveOut) ⟨h.mem, h.ids, h.names⟩
  rw [Disk.retained_eq hregular]
  refine ⟨?_, ?_, ?_⟩
  · refine (mem_foldl_discard _).mpr ⟨hstale.mem, ?_⟩
    intro id hid heq
    -- Every id the pass chooses is that of an entry it listed.
    unfold PrunePass.idsToDelete inSet at hid
    rw [List.mem_eraseDups, List.mem_append] at hid
    have hlisted : ∃ x ∈ (prunePassOf nowMs
        (Disk.afterStale bytes nowMs { disk with clock := nowMs }).deadLetter).listed, x.1.id = id := by
      rcases hid with hid | hid
      · obtain ⟨x, hx, rfl⟩ := List.mem_map.mp hid
        exact ⟨x, (List.mem_filter.mp hx).1, rfl⟩
      · obtain ⟨x, hx, rfl⟩ := List.mem_map.mp hid
        exact ⟨x, (List.perm_insertionSort _ _).mem_iff.mp (List.mem_of_mem_take hx), rfl⟩
    obtain ⟨x, hx, rfl⟩ := hlisted
    obtain ⟨e, he, rfl⟩ := List.mem_map.mp hx
    obtain ⟨g, hg, hl⟩ := mem_entriesOf.mp he
    exact hstale.ids g (List.mem_append_right _ hg) e
      (File.content_of_readable (File.listed_eq_some.mp hl).2) heq.symm
  · exact fun g hg => hstale.ids g (mem_afterPrune hg)
  · unfold Disk.afterPrune
    rw [foldl_discard_outbox]
    exact hstale.names

end Unnamed

/-! ## §7. Two passes. -/

end TokenTimer.Agent
