/-
  TokenTimer.Agent.OutboxRetention — the retention passes of the outbox on a disk
  where nothing fails, as pure functions of what the files contain.

  A retention pass is `pruneStaleOutboxEntries` and then
  `pruneDeadLetterEntries`, as the poll loop runs them.  With nothing failing, a
  pass is a fold of two pure steps: a file is moved out of the outbox
  (`Disk.moveOut`), a file is deleted from dead-letter (`Disk.discard`).

  Main results:
    * `returns_quarantineOutboxEntry` — the move as a pure function.
    * `returns_pruneStaleOutboxEntries`, `returns_pruneDeadLetterEntries` — the
        passes as pure functions.
-/

import TokenTimer.Agent.OutboxRetries

namespace TokenTimer.Agent

open Lib.Faulty TokenTimer.Json

/-! ## §1. The passes as pure functions. -/

/-- The entry the listing reads in a file. -/
def File.listed (f : File) : Option Entry := if isEntryName f.name then f.readable else none

def entriesOf (dir : List File) : List Entry :=
  sortEntriesByCreatedAtThenId (dir.filterMap File.listed)

def Disk.Regular (disk : Disk) : Prop := ∀ f ∈ disk.outbox ++ disk.deadLetter, f.kind = .regular

section Passes

variable (bytes : Content → Nat) (nowMs : Int)

/-- A file as it arrives in dead-letter: stamped, where its JSON is an object
    and the stamped text fits. -/
def File.moved (clock : Int) (f : File) : File :=
  match f.content.stamped nowMs with
  | none => f
  | some content =>
    if bytes content ≤ MAX_ENTRY_BYTES then ⟨f.name, .regular, bytes content, clock, content⟩ else f

/-- The disk after `quarantineOutboxEntry`. -/
def Disk.moveOut (cause : QuarantineCause) (disk : Disk) (id : JsString) : Disk :=
  match findFile (entryName id) disk.outbox with
  | none => disk
  | some f =>
    { disk with
      outbox := removeFile (entryName id) disk.outbox
      deadLetter := putFile (f.moved bytes nowMs disk.clock) disk.deadLetter
      history := disk.history ++ [.quarantined id cause] }

/-- One turn of `quarantineUnreadableEntries`. -/
def Disk.moveUnreadable (readableIds : List JsString) (cause : QuarantineCause) (disk : Disk)
    (f : File) : Disk :=
  if isEntryName f.name ∧ nameId f.name ≠ [] ∧ nameId f.name ∉ readableIds ∧
      nowMs - min f.mtime nowMs > MAX_OUTBOX_AGE_MS then
    disk.moveOut bytes nowMs cause (nameId f.name)
  else disk

/-- The disk after the first loop of `pruneStaleOutboxEntries`. -/
def Disk.afterAged (disk : Disk) : Disk :=
  (idsToQuarantine (entriesOf disk.outbox) nowMs).foldl
    (Disk.moveOut bytes nowMs ⟨false, heldEntries disk.outbox⟩) disk

/-- The disk after `pruneStaleOutboxEntries`. -/
def Disk.afterStale (disk : Disk) : Disk :=
  let aged := disk.afterAged bytes nowMs
  aged.outbox.foldl
    (Disk.moveUnreadable bytes nowMs ((entriesOf aged.outbox).map (·.id))
      ⟨false, heldEntries disk.outbox⟩) aged

def ageBasis (deadLetter : List File) (entry : Entry) : Reading :=
  match entry.quarantinedAt with
  | some t => some t
  | none =>
    match entry.lastAttemptAt with
    | some t => some t
    | none =>
      match findFile (entryName entry.id) deadLetter with
      | some f => some f.mtime
      | none => entry.createdAt.time

def prunePassOf (deadLetter : List File) : PrunePass where
  now := nowMs
  maxEntries := MAX_DEAD_LETTER_ENTRIES
  maxAgeMs := MAX_DEAD_LETTER_AGE_MS
  listed := (entriesOf deadLetter).map fun entry => (entry, ageBasis deadLetter entry)

/-- The disk after `deleteDeadLetterEntry`. -/
def Disk.discard (pass : PrunePass) (disk : Disk) (id : JsString) : Disk :=
  match findFile (entryName id) disk.deadLetter with
  | none => disk
  | some _ =>
    { disk with
      deadLetter := removeFile (entryName id) disk.deadLetter
      history := disk.history ++ [.pruned id pass] }

/-- The disk after `pruneDeadLetterEntries`. -/
def Disk.afterPrune (disk : Disk) : Disk :=
  (prunePassOf nowMs disk.deadLetter).idsToDelete.foldl
    (Disk.discard (prunePassOf nowMs disk.deadLetter)) disk

def retentionPass : Outbox Nat := do
  let quarantined ← pruneStaleOutboxEntries bytes nowMs
  let deleted ← pruneDeadLetterEntries nowMs MAX_DEAD_LETTER_ENTRIES MAX_DEAD_LETTER_AGE_MS
  pure (quarantined + deleted)

/-- The disk after a retention pass in which nothing fails. -/
def Disk.retained (disk : Disk) : Disk :=
  (exec (retentionPass bytes nowMs) [] { disk with clock := nowMs }).2

end Passes

/-! ## §2. Directories under the two steps. -/

section Directories

variable {f g : File} {dir : List File} {name : JsString}

theorem findFile_none (h : findFile name dir = none) : ∀ f ∈ dir, f.name ≠ name := by
  unfold findFile at h
  intro f hf
  simpa using List.find?_eq_none.mp h f hf

theorem removeFile_of_forall (h : ∀ f ∈ dir, f.name ≠ name) : removeFile name dir = dir := by
  unfold removeFile
  rw [List.filter_eq_self]
  intro f hf
  simpa using h f hf

theorem findFile_putFile (hname : g.name = name) : findFile name (putFile g dir) = some g := by
  unfold findFile putFile removeFile
  rw [List.find?_append]
  have : (dir.filter (·.name ≠ g.name)).find? (·.name = name) = none := by
    rw [List.find?_eq_none]
    intro f hf
    have := (List.mem_filter.mp hf).2
    simpa [hname] using this
  rw [this]
  simp [hname]

theorem removeFile_putFile (hname : g.name = name) :
    removeFile name (putFile g dir) = removeFile name dir := by
  unfold putFile removeFile
  rw [List.filter_append, List.filter_filter]
  simp [hname]

theorem File.moved_name (bytes : Content → Nat) (nowMs clock : Int) (f : File) :
    (f.moved bytes nowMs clock).name = f.name := by
  unfold File.moved
  split
  · rfl
  · split <;> rfl

theorem File.moved_kind {bytes : Content → Nat} {nowMs clock : Int} (h : f.kind = .regular) :
    (f.moved bytes nowMs clock).kind = .regular := by
  unfold File.moved
  split
  · exact h
  · split
    · rfl
    · exact h

theorem File.listed_eq_some {e : Entry} :
    f.listed = some e ↔ isEntryName f.name = true ∧ f.readable = some e := by
  unfold File.listed
  by_cases hname : isEntryName f.name = true
  · simp [hname]
  · simp [hname]

theorem mem_entriesOf {e : Entry} : e ∈ entriesOf dir ↔ ∃ f ∈ dir, f.listed = some e := by
  unfold entriesOf
  rw [mem_sortEntries, List.mem_filterMap]

end Directories

/-! ## §3. The passes return, and do what the pure functions do. -/

section Returning

variable {bytes : Content → Nat} {nowMs : Int} {disk : Disk}

theorem returns_readEntryDirNames (dir : Disk → List File) :
    Returns (readEntryDirNames dir) disk (dir disk) disk :=
  Returns.bind (Returns.attempt (Returns.op rfl)) Returns.pure

theorem returns_readEntryFile (f : File) : Returns (readEntryFile f) disk f.listed disk := by
  unfold readEntryFile File.listed
  by_cases hname : isEntryName f.name = true
  · rw [if_pos hname, if_pos hname]
    exact Returns.bind (Returns.attempt Returns.tick) Returns.pure
  · rw [if_neg hname, if_neg hname]
    exact Returns.pure

theorem returns_listOutboxEntries :
    Returns listOutboxEntries disk (entriesOf disk.outbox) disk :=
  Returns.bind (Returns.bind (returns_readEntryDirNames Disk.outbox)
    (Returns.collect _ fun f _ => returns_readEntryFile f)) Returns.pure

theorem returns_listDeadLetterEntries :
    Returns listDeadLetterEntries disk (entriesOf disk.deadLetter) disk :=
  Returns.bind (Returns.bind (returns_readEntryDirNames Disk.deadLetter)
    (Returns.collect _ fun f _ => returns_readEntryFile f)) Returns.pure

theorem returns_writeFileAtomically {name : JsString} {content : Content} {events : List Event} :
    Returns (writeFileAtomically bytes name content events) disk ()
      { disk with
        outbox := putFile ⟨name, .regular, bytes content, disk.clock, content⟩ disk.outbox
        history := disk.history ++ events } :=
  Returns.bind Returns.tick (Returns.bind (Returns.op rfl) (Returns.bind Returns.tick Returns.tick))

variable {f : File} {id : JsString} {cause : QuarantineCause}

/-- Stamping puts the file in place as it is going to arrive. -/
theorem returns_stampEntry (bytes : Content → Nat) (nowMs : Int)
    (hfind : findFile (entryName id) disk.outbox = some f) (hkind : f.kind = .regular) :
    ∃ disk', Returns (stampEntry bytes id nowMs) disk () disk' ∧
      findFile (entryName id) disk'.outbox = some (f.moved bytes nowMs disk.clock) ∧
      removeFile (entryName id) disk'.outbox = removeFile (entryName id) disk.outbox ∧
      disk'.deadLetter = disk.deadLetter ∧ disk'.clock = disk.clock ∧
      disk'.history = disk.history := by
  have hname := (findFile_some hfind).2
  have hread : Returns (readOutboxFile (entryName id)) disk f.content disk := by
    refine Returns.op ?_
    rw [hfind]
    simp [hkind]
  unfold File.moved
  cases hstamped : f.content.stamped nowMs with
  | none =>
    refine ⟨disk, Returns.bind hread ?_, hfind, rfl, rfl, rfl, rfl⟩
    rw [hstamped]
    exact Returns.pure
  | some content =>
    dsimp only
    by_cases hfits : bytes content ≤ MAX_ENTRY_BYTES
    · rw [if_pos hfits]
      refine ⟨{ disk with
        outbox := putFile ⟨entryName id, .regular, bytes content, disk.clock, content⟩ disk.outbox
        history := disk.history ++ [] }, Returns.bind hread ?_, ?_, ?_, rfl, rfl,
        List.append_nil disk.history⟩
      · rw [hstamped]
        refine Returns.bind Returns.tick ?_
        rw [if_pos hfits]
        exact returns_writeFileAtomically
      · rw [hname]
        exact findFile_putFile rfl
      · exact removeFile_putFile rfl
    · rw [if_neg hfits]
      refine ⟨disk, Returns.bind hread ?_, hfind, rfl, rfl, rfl, rfl⟩
      rw [hstamped]
      refine Returns.bind Returns.tick ?_
      rw [if_neg hfits]
      exact Returns.pure

theorem returns_quarantineOutboxEntry (bytes : Content → Nat) (nowMs : Int) (id : JsString)
    (cause : QuarantineCause) (hregular : disk.Regular) :
    ∃ moved, Returns (quarantineOutboxEntry bytes id nowMs cause) disk moved
      (disk.moveOut bytes nowMs cause id) := by
  unfold Disk.moveOut
  cases hfind : findFile (entryName id) disk.outbox with
  | none =>
    have hread : Throws (readOutboxFile (entryName id)) disk .enoent disk :=
      Throws.op (by rw [hfind])
    exact ⟨false, Returns.bind Returns.tick (Returns.bind (Throws.attempt (Throws.bind hread))
      Returns.pure)⟩
  | some f =>
    have hkind := hregular f (List.mem_append_left _ (findFile_some hfind).1)
    obtain ⟨disk', hstamp, hfound, hremove, hdead, hclock, hhistory⟩ :=
      returns_stampEntry bytes nowMs hfind hkind
    have hrename : Returns (renameToDeadLetter id cause) disk' ()
        { disk with
          outbox := removeFile (entryName id) disk.outbox
          deadLetter := putFile (f.moved bytes nowMs disk.clock) disk.deadLetter
          history := disk.history ++ [.quarantined id cause] } := by
      refine Returns.op ?_
      rw [hfound]
      dsimp only
      rw [hremove, hdead, hhistory, hclock]
    exact ⟨true, Returns.bind Returns.tick (Returns.bind (Returns.attempt hstamp)
      (Returns.bind (Returns.attempt hrename) (Returns.bind Returns.tick
        (Returns.bind Returns.tick (Returns.bind Returns.tick Returns.pure)))))⟩

theorem Disk.regular_moveOut (h : disk.Regular) :
    (disk.moveOut bytes nowMs cause id).Regular := by
  unfold Disk.moveOut
  cases hfind : findFile (entryName id) disk.outbox with
  | none => exact h
  | some f =>
    intro g hg
    rcases List.mem_append.mp hg with hg | hg
    · exact h g (List.mem_append_left _ (mem_removeFile.mp hg).1)
    · rcases mem_putFile.mp hg with ⟨hg, -⟩ | rfl
      · exact h g (List.mem_append_right _ hg)
      · exact File.moved_kind (h f (List.mem_append_left _ (findFile_some hfind).1))

theorem returns_quarantineUnreadableFile {readableIds : List JsString} (hregular : disk.Regular)
    (hkind : f.kind = .regular) :
    ∃ n, Returns (quarantineUnreadableFile bytes readableIds nowMs cause f) disk n
      (disk.moveUnreadable bytes nowMs readableIds cause f) := by
  unfold quarantineUnreadableFile Disk.moveUnreadable
  by_cases hskip : (!isEntryName f.name || decide (nameId f.name = []) ||
      decide (nameId f.name ∈ readableIds)) = true
  · rw [if_pos hskip, if_neg]
    · exact ⟨0, Returns.pure⟩
    · rintro ⟨h₁, h₂, h₃, -⟩
      simp [h₁, h₂, h₃] at hskip
  · rw [if_neg hskip]
    simp only [Bool.or_eq_true, Bool.not_eq_true', decide_eq_true_eq, not_or,
      Bool.not_eq_false] at hskip
    have hregularFile : ¬ f.kind ≠ .regular := not_not.mpr hkind
    by_cases hage : nowMs - min f.mtime nowMs ≤ MAX_OUTBOX_AGE_MS
    · have hturn : ¬ (isEntryName f.name = true ∧ nameId f.name ≠ [] ∧
          nameId f.name ∉ readableIds ∧ nowMs - min f.mtime nowMs > MAX_OUTBOX_AGE_MS) :=
        fun h => absurd hage (Int.not_le.mpr h.2.2.2)
      rw [if_neg hturn]
      refine ⟨0, Returns.bind (Returns.attempt Returns.tick) ?_⟩
      show Returns (if f.kind ≠ .regular then pure 0
        else if nowMs - min f.mtime nowMs ≤ MAX_OUTBOX_AGE_MS then pure 0 else _) disk 0 disk
      rw [if_neg hregularFile, if_pos hage]
      exact Returns.pure
    · have hturn : isEntryName f.name = true ∧ nameId f.name ≠ [] ∧
          nameId f.name ∉ readableIds ∧ nowMs - min f.mtime nowMs > MAX_OUTBOX_AGE_MS :=
        ⟨hskip.1.1, hskip.1.2, hskip.2, Int.not_le.mp hage⟩
      rw [if_pos hturn]
      obtain ⟨moved, hmoved⟩ := returns_quarantineOutboxEntry bytes nowMs (nameId f.name) cause
        hregular
      refine ⟨moved.toNat, Returns.bind (Returns.attempt Returns.tick) ?_⟩
      show Returns (if f.kind ≠ .regular then pure 0
        else if nowMs - min f.mtime nowMs ≤ MAX_OUTBOX_AGE_MS then pure 0 else _) disk _ _
      rw [if_neg hregularFile, if_neg hage]
      exact Returns.bind hmoved Returns.pure

theorem Disk.regular_moveUnreadable {readableIds : List JsString} (h : disk.Regular) :
    (disk.moveUnreadable bytes nowMs readableIds cause f).Regular := by
  unfold Disk.moveUnreadable
  split
  · exact Disk.regular_moveOut h
  · exact h

theorem Disk.regular_afterAged (h : disk.Regular) : (disk.afterAged bytes nowMs).Regular := by
  unfold Disk.afterAged
  generalize idsToQuarantine (entriesOf disk.outbox) nowMs = ids
  generalize (⟨false, heldEntries disk.outbox⟩ : QuarantineCause) = cause
  induction ids generalizing disk with
  | nil => exact h
  | cons id ids ih => exact ih (Disk.regular_moveOut h)

theorem returns_pruneStaleOutboxEntries (bytes : Content → Nat) (nowMs : Int) (hregular : disk.Regular) :
    ∃ n, Returns (pruneStaleOutboxEntries bytes nowMs) disk n (disk.afterStale bytes nowMs) := by
  obtain ⟨n, hn⟩ := Returns.sumEach (I := Disk.Regular)
    (g := fun id => do
      let moved ← quarantineOutboxEntry bytes id nowMs ⟨false, heldEntries disk.outbox⟩
      pure moved.toNat)
    (Disk.moveOut bytes nowMs ⟨false, heldEntries disk.outbox⟩)
    (idsToQuarantine (entriesOf disk.outbox) nowMs) (fun _ _ _ h => Disk.regular_moveOut h)
    (fun s id _ h => by
      obtain ⟨moved, hmoved⟩ := returns_quarantineOutboxEntry bytes nowMs id _ h
      exact ⟨moved.toNat, Returns.bind hmoved Returns.pure⟩) hregular
  -- Every file of the second loop is a regular one, whatever the loop has moved so far.
  have hagedRegular : (disk.afterAged bytes nowMs).Regular := Disk.regular_afterAged hregular
  obtain ⟨k, hk⟩ := Returns.sumEach (I := Disk.Regular)
    (g := quarantineUnreadableFile bytes
      ((entriesOf (disk.afterAged bytes nowMs).outbox).map (·.id)) nowMs
      ⟨false, heldEntries disk.outbox⟩)
    (Disk.moveUnreadable bytes nowMs
      ((entriesOf (disk.afterAged bytes nowMs).outbox).map (·.id))
      ⟨false, heldEntries disk.outbox⟩)
    (disk.afterAged bytes nowMs).outbox (fun _ _ _ h => Disk.regular_moveUnreadable h)
    (fun s f hf h => returns_quarantineUnreadableFile h
      (hagedRegular f (List.mem_append_left _ hf))) hagedRegular
  refine ⟨n + k, Returns.bind Returns.look (Returns.bind returns_listOutboxEntries
    (Returns.bind hn (Returns.bind ?_ Returns.pure)))⟩
  exact Returns.bind returns_listOutboxEntries
    (Returns.bind (returns_readEntryDirNames Disk.outbox) hk)

theorem returns_resolveDeadLetterAgeBasisMs (entry : Entry) (hregular : disk.Regular) :
    Returns (resolveDeadLetterAgeBasisMs entry) disk (ageBasis disk.deadLetter entry) disk := by
  unfold resolveDeadLetterAgeBasisMs ageBasis
  cases entry.quarantinedAt with
  | some t => exact Returns.pure
  | none =>
    cases entry.lastAttemptAt with
    | some t => exact Returns.pure
    | none =>
      dsimp only
      cases hfind : findFile (entryName entry.id) disk.deadLetter with
      | none =>
        have hstat : Throws (statDeadLetter (entryName entry.id)) disk .enoent disk :=
          Throws.op (by rw [hfind])
        exact Returns.bind (Throws.attempt hstat) Returns.pure
      | some f =>
        have hkind := hregular f (List.mem_append_right _ (findFile_some hfind).1)
        have hstat : Returns (statDeadLetter (entryName entry.id)) disk f.mtime disk := by
          refine Returns.op ?_
          rw [hfind]
          simp [hkind]
        exact Returns.bind (Returns.attempt hstat) Returns.pure

theorem Disk.regular_discard {pass : PrunePass} (h : disk.Regular) :
    (disk.discard pass id).Regular := by
  unfold Disk.discard
  split
  · exact h
  · intro g hg
    rcases List.mem_append.mp hg with hg | hg
    · exact h g (List.mem_append_left _ hg)
    · exact h g (List.mem_append_right _ (mem_removeFile.mp hg).1)

theorem returns_deleteDeadLetterEntry (pass : PrunePass) (id : JsString) (hregular : disk.Regular) :
    ∃ removed, Returns (deleteDeadLetterEntry pass id) disk removed (disk.discard pass id) := by
  unfold Disk.discard
  cases hfind : findFile (entryName id) disk.deadLetter with
  | none =>
    have hunlink : Throws (unlinkDeadLetter (entryName id) (.pruned id pass)) disk .enoent disk :=
      Throws.op (by rw [hfind])
    exact ⟨false, Returns.bind (Throws.attempt (Throws.bind hunlink)) Returns.pure⟩
  | some f =>
    have hkind := hregular f (List.mem_append_right _ (findFile_some hfind).1)
    have hunlink : Returns (unlinkDeadLetter (entryName id) (.pruned id pass)) disk ()
        { disk with
          deadLetter := removeFile (entryName id) disk.deadLetter
          history := disk.history ++ [.pruned id pass] } := by
      refine Returns.op ?_
      rw [hfind]
      simp [hkind]
    exact ⟨true, Returns.bind (Returns.attempt (Returns.bind hunlink Returns.tick)) Returns.pure⟩

theorem returns_pruneDeadLetterEntries (nowMs : Int) (hregular : disk.Regular) :
    ∃ n, Returns (pruneDeadLetterEntries nowMs MAX_DEAD_LETTER_ENTRIES MAX_DEAD_LETTER_AGE_MS) disk n
      (disk.afterPrune nowMs) := by
  obtain ⟨n, hn⟩ := Returns.sumEach (I := Disk.Regular)
    (g := fun id => do
      let removed ← deleteDeadLetterEntry (prunePassOf nowMs disk.deadLetter) id
      pure removed.toNat)
    (Disk.discard (prunePassOf nowMs disk.deadLetter))
    (prunePassOf nowMs disk.deadLetter).idsToDelete (fun _ _ _ h => Disk.regular_discard h)
    (fun s id _ h => by
      obtain ⟨removed, hremoved⟩ := returns_deleteDeadLetterEntry _ id h
      exact ⟨removed.toNat, Returns.bind hremoved Returns.pure⟩) hregular
  refine ⟨n, Returns.bind returns_listDeadLetterEntries (Returns.bind ?_ hn)⟩
  have hcollect := Returns.collect
    (g := fun entry => do
      let ageBasisMs ← resolveDeadLetterAgeBasisMs entry
      pure (some (entry, ageBasisMs)))
    (v := fun entry => some (entry, ageBasis disk.deadLetter entry)) (s := disk)
    (entriesOf disk.deadLetter)
    fun entry _ => Returns.bind (returns_resolveDeadLetterAgeBasisMs entry hregular) Returns.pure
  rw [List.filterMap_eq_map'] at hcollect
  exact hcollect

theorem Disk.regular_afterStale (bytes : Content → Nat) (nowMs : Int) (h : disk.Regular) : (disk.afterStale bytes nowMs).Regular := by
  have haged : (disk.afterAged bytes nowMs).Regular := Disk.regular_afterAged h
  unfold Disk.afterStale
  dsimp only
  generalize (entriesOf (disk.afterAged bytes nowMs).outbox).map (·.id) = ids
  generalize (⟨false, heldEntries disk.outbox⟩ : QuarantineCause) = cause
  generalize (disk.afterAged bytes nowMs).outbox = files
  revert haged
  generalize disk.afterAged bytes nowMs = disk'
  intro haged
  induction files generalizing disk' with
  | nil => exact haged
  | cons f files ih => exact ih _ (Disk.regular_moveUnreadable haged)

/-- A retention pass is the two pure functions, one after the other. -/
theorem Disk.retained_eq (h : disk.Regular) :
    disk.retained bytes nowMs =
      (Disk.afterStale bytes nowMs { disk with clock := nowMs }).afterPrune nowMs := by
  have hclock : Disk.Regular { disk with clock := nowMs } := h
  obtain ⟨n, hn⟩ := returns_pruneStaleOutboxEntries bytes nowMs hclock
  obtain ⟨k, hk⟩ := returns_pruneDeadLetterEntries nowMs (Disk.regular_afterStale bytes nowMs hclock)
  have hpass : Returns (retentionPass bytes nowMs) { disk with clock := nowMs } (n + k)
      ((Disk.afterStale bytes nowMs { disk with clock := nowMs }).afterPrune nowMs) :=
    Returns.bind hn (Returns.bind hk Returns.pure)
  unfold Disk.retained
  rw [hpass.exec]

end Returning

end TokenTimer.Agent
