/-
  TokenTimer.Agent.OutboxSafety — no outcome is ever lost: at any moment of any
  run, an enqueued entry is in the outbox, is in dead-letter with the same
  result and evidence, was acknowledged after all its bodies were taken, or was
  pruned from dead-letter after its retention.

  One invariant of the disk, `Sound`, carries the argument.  Every file of the
  two directories is GENUINE: named after the entry it holds, which has the
  outcome of an enqueued entry.  So a rewrite, a stamp or a rename can only put
  the same outcome in another place.  `Sound` is kept by every file operation,
  hence by every stretch of code whether it returns, throws or the process dies
  in it; the process carries that the drains hold genuine entries and have
  reported what they think they have.

  `Sound` has a parameter: what is known of the moves to dead-letter.

  Main results:
    * `sound_write`, `sound_acknowledge`, `sound_quarantine`, `sound_prune` — the
        four changes a file operation makes.
    * `safe_call` — every call keeps the invariant of the process.
    * `outcome_never_discarded` — where an enqueued outcome is, over all runs.
-/

import TokenTimer.Agent.Outbox

namespace TokenTimer.Agent

open Lib.Faulty Lib.Runs TokenTimer.Json

/-! ## §1. What a history tells. -/

def enqueued (history : List Event) : List Entry :=
  history.filterMap fun
    | .enqueued e => some e
    | _ => none

/-- No two of them have one id. -/
def DistinctIds (history : List Event) : Prop := ((enqueued history).map (·.id)).Nodup

/-- The failed transmissions of an entry. -/
def failures (id : JsString) (history : List Event) : Nat :=
  history.countP fun
    | .failed id' => decide (id' = id)
    | _ => false

/-- The bodies a drain has had taken, in order. -/
def reports (tag : Nat) (history : List Event) : List Body :=
  history.filterMap fun
    | .reported tag' body => if tag' = tag then some body else none
    | _ => none

def Event.isReport : Event → Bool
  | .reported _ _ => true
  | _ => false

structure SameOutcome (a b : Entry) : Prop where
  id : b.id = a.id
  result : b.result = a.result
  evidence : b.evidence = a.evidence

/-- The outcome is in the directory, under its own name. -/
def InDirectory (dir : List File) (e : Entry) : Prop :=
  ∃ f ∈ dir, f.name = entryName e.id ∧ f.kind = .regular ∧
    ∃ e', f.content = .entry e' ∧ SameOutcome e e'

/-- The outcome was acknowledged by a drain whose last reports were all its
    evidence bodies and then its result. -/
def Delivered (history : List Event) (e : Entry) : Prop :=
  ∃ earlier later drain before, history = earlier ++ .acknowledged drain e.id :: later ∧
    reports drain earlier = before ++ e.bodies

/-- The outcome was deleted from dead-letter past its retention, or as one of the
    oldest over the cap. -/
def PrunedAway (history : List Event) (e : Entry) : Prop :=
  ∃ pass, .pruned e.id pass ∈ history ∧ (e.id ∈ pass.aged ∨ e.id ∈ pass.overflow) ∧
    pass.maxEntries = MAX_DEAD_LETTER_ENTRIES ∧ pass.maxAgeMs = MAX_DEAD_LETTER_AGE_MS

/-- Where an enqueued outcome is. -/
def Kept (disk : Disk) (e : Entry) : Prop :=
  InDirectory disk.outbox e ∨ InDirectory disk.deadLetter e ∨ Delivered disk.history e ∨
    PrunedAway disk.history e

/-- An entry that came from an enqueued one: its outcome, and no more attempts
    than transmissions failed. -/
structure Admissible (history : List Event) (e : Entry) : Prop where
  known : ∃ e₀ ∈ enqueued history, SameOutcome e₀ e
  attempts : e.attempts.getD 0 ≤ failures e.id history

/-- A file named after the admissible entry it holds. -/
def Genuine (history : List Event) (f : File) : Prop :=
  f.kind = .regular ∧ ∃ e, f.content = .entry e ∧ f.name = entryName e.id ∧ Admissible history e

/-- The invariant of the disk.  `J earlier id cause` is what is known of a move to
    dead-letter and of the history before it. -/
structure Sound (J : List Event → JsString → QuarantineCause → Prop) (disk : Disk) : Prop where
  outbox : ∀ f ∈ disk.outbox, Genuine disk.history f
  deadLetter : ∀ f ∈ disk.deadLetter, Genuine disk.history f
  kept : DistinctIds disk.history → ∀ e ∈ enqueued disk.history, Kept disk e
  justified : ∀ earlier id cause later,
    disk.history = earlier ++ .quarantined id cause :: later → J earlier id cause

/-! ## §2. Histories only grow. -/

theorem entryName_inj {a b : JsString} : entryName a = entryName b ↔ a = b := by
  unfold entryName
  exact List.append_left_inj _

section Histories

variable {h h' : List Event} {e e' : Entry} {f : File} {dir : List File}

theorem enqueued_append (h h' : List Event) : enqueued (h ++ h') = enqueued h ++ enqueued h' := by
  unfold enqueued
  exact List.filterMap_append

theorem reports_append (tag : Nat) (h h' : List Event) :
    reports tag (h ++ h') = reports tag h ++ reports tag h' := by
  unfold reports
  exact List.filterMap_append

theorem failures_append (id : JsString) (h h' : List Event) :
    failures id (h ++ h') = failures id h + failures id h' := by
  unfold failures
  exact List.countP_append

/-- Events that are no reports leave the reports of every drain alone. -/
theorem reports_of_no_report {tag : Nat} (hnew : ∀ event ∈ h', event.isReport = false) :
    reports tag h' = [] := by
  unfold reports
  rw [List.filterMap_eq_nil_iff]
  intro event hevent
  have := hnew event hevent
  cases event with
  | reported _ _ => cases this
  | _ => rfl

theorem SameOutcome.refl (e : Entry) : SameOutcome e e := ⟨rfl, rfl, rfl⟩

theorem SameOutcome.bodies (h : SameOutcome e e') : e'.bodies = e.bodies := by
  unfold Entry.bodies
  rw [h.result, h.evidence]

theorem Admissible.mono (hp : h <+: h') (ha : Admissible h e) : Admissible h' e := by
  obtain ⟨new, rfl⟩ := hp
  obtain ⟨e₀, he₀, hsame⟩ := ha.known
  refine ⟨⟨e₀, ?_, hsame⟩, ?_⟩
  · rw [enqueued_append]
    exact List.mem_append_left _ he₀
  · rw [failures_append]
    exact ha.attempts.trans (Nat.le_add_right _ _)

theorem Genuine.mono (hp : h <+: h') (hg : Genuine h f) : Genuine h' f := by
  obtain ⟨hkind, e, hc, hn, ha⟩ := hg
  exact ⟨hkind, e, hc, hn, ha.mono hp⟩

theorem Delivered.mono (hp : h <+: h') (hd : Delivered h e) : Delivered h' e := by
  obtain ⟨new, rfl⟩ := hp
  obtain ⟨earlier, later, drain, before, heq, hrep⟩ := hd
  refine ⟨earlier, later ++ new, drain, before, ?_, hrep⟩
  rw [heq, List.append_assoc, List.cons_append]

theorem PrunedAway.mono (hp : h <+: h') (hd : PrunedAway h e) : PrunedAway h' e := by
  obtain ⟨new, rfl⟩ := hp
  obtain ⟨pass, hin, hrest⟩ := hd
  exact ⟨pass, List.mem_append_left _ hin, hrest⟩

theorem Admissible.sameOutcome (ha : Admissible h e') (hids : DistinctIds h)
    (he : e ∈ enqueued h) (hid : e'.id = e.id) : SameOutcome e e' := by
  obtain ⟨e₀, he₀, hsame⟩ := ha.known
  have heq : e₀ = e := List.inj_on_of_nodup_map hids he₀ he (hsame.id.symm.trans hid)
  exact heq ▸ hsame

theorem Genuine.inDirectory (hg : Genuine h f) (hids : DistinctIds h)
    (he : e ∈ enqueued h) (hname : f.name = entryName e.id) (hf : f ∈ dir) : InDirectory dir e := by
  obtain ⟨hkind, e', hc, hn, ha⟩ := hg
  have hid : e'.id = e.id := entryName_inj.mp (hn.symm.trans hname)
  exact ⟨f, hf, hname, hkind, e', hc, ha.sameOutcome hids he hid⟩

/-! ## §3. Directories. -/

theorem findFile_some {name : JsString} (hf : findFile name dir = some f) :
    f ∈ dir ∧ f.name = name := by
  unfold findFile at hf
  exact ⟨List.mem_of_find?_eq_some hf, by simpa using List.find?_some hf⟩

theorem mem_removeFile {name : JsString} : f ∈ removeFile name dir ↔ f ∈ dir ∧ f.name ≠ name := by
  unfold removeFile
  simp

theorem mem_putFile {g : File} : f ∈ putFile g dir ↔ (f ∈ dir ∧ f.name ≠ g.name) ∨ f = g := by
  unfold putFile
  rw [List.mem_append, mem_removeFile, List.mem_singleton]

theorem InDirectory.remove {id : JsString} (hin : InDirectory dir e) (hne : e.id ≠ id) :
    InDirectory (removeFile (entryName id) dir) e := by
  obtain ⟨f, hf, hname, hrest⟩ := hin
  refine ⟨f, mem_removeFile.mpr ⟨hf, ?_⟩, hname, hrest⟩
  rw [hname]
  exact fun heq => hne (entryName_inj.mp heq)

theorem InDirectory.put {g : File} (hin : InDirectory dir e) (hg : Genuine h g)
    (hids : DistinctIds h) (he : e ∈ enqueued h) :
    InDirectory (putFile g dir) e := by
  obtain ⟨f, hf, hname, hrest⟩ := hin
  by_cases heq : g.name = f.name
  · exact hg.inDirectory hids he (heq.trans hname) (mem_putFile.mpr (.inr rfl))
  · exact ⟨f, mem_putFile.mpr (.inl ⟨hf, Ne.symm heq⟩), hname, hrest⟩

end Histories

/-! ## §4. The changes a file operation makes. -/

section Changes

variable {J : List Event → JsString → QuarantineCause → Prop} {disk : Disk}

/-- One event more, which is no move to dead-letter, keeps what is known of the
    moves. -/
theorem justified_append {event : Event} (hs : Sound J disk)
    (hne : ∀ id cause, event = .quarantined id cause → J disk.history id cause) :
    ∀ earlier id cause later,
      disk.history ++ [event] = earlier ++ .quarantined id cause :: later → J earlier id cause := by
  intro earlier id cause later heq
  rcases List.eq_nil_or_concat later with rfl | ⟨most, last, rfl⟩
  · obtain ⟨hh, hl⟩ := List.append_inj' heq rfl
    injection hl with hl
    rw [← hh]
    exact hne id cause hl
  · have heq' : disk.history ++ [event] = (earlier ++ .quarantined id cause :: most) ++ [last] := by
      rw [heq]
      simp
    exact hs.justified earlier id cause most (List.append_inj' heq' rfl).1

theorem sound_write {g : File} (hs : Sound J disk) (hg : Genuine disk.history g) :
    Sound J { disk with outbox := putFile g disk.outbox } := by
  refine ⟨?_, hs.deadLetter, ?_, hs.justified⟩
  · intro f hf
    rcases mem_putFile.mp hf with ⟨hf, -⟩ | rfl
    · exact hs.outbox f hf
    · exact hg
  · intro hids e he
    rcases hs.kept hids e he with hin | hrest
    · exact .inl (hin.put hg hids he)
    · exact .inr hrest

theorem sound_enqueue {g : File} {e : Entry} (hs : Sound J disk) (hkind : g.kind = .regular)
    (hname : g.name = entryName e.id) (hcontent : g.content = .entry e)
    (hattempts : e.attempts = none) :
    Sound J { disk with
      outbox := putFile g disk.outbox, history := disk.history ++ [.enqueued e] } := by
  have hp : disk.history <+: disk.history ++ [.enqueued e] := ⟨_, rfl⟩
  have hnew : enqueued (disk.history ++ [.enqueued e]) = enqueued disk.history ++ [e] := by
    rw [enqueued_append]
    rfl
  have hin : e ∈ enqueued (disk.history ++ [.enqueued e]) := by
    rw [hnew]
    exact List.mem_append_right _ (List.mem_singleton.mpr rfl)
  have hg : Genuine (disk.history ++ [.enqueued e]) g :=
    ⟨hkind, e, hcontent, hname, ⟨e, hin, .refl e⟩, by rw [hattempts]; exact Nat.zero_le _⟩
  refine ⟨?_, fun f hf => (hs.deadLetter f hf).mono hp, ?_,
    justified_append hs (fun _ _ heq => nomatch heq)⟩
  · intro f hf
    rcases mem_putFile.mp hf with ⟨hf, -⟩ | rfl
    · exact (hs.outbox f hf).mono hp
    · exact hg
  · intro hids x hx
    rw [hnew, List.mem_append, List.mem_singleton] at hx
    rcases hx with hx | rfl
    · have hids' : DistinctIds disk.history := by
        unfold DistinctIds at hids ⊢
        rw [hnew, List.map_append] at hids
        exact (List.nodup_append.mp hids).1
      have hx' : x ∈ enqueued (disk.history ++ [.enqueued e]) := by
        rw [hnew]
        exact List.mem_append_left _ hx
      rcases hs.kept hids' x hx with hk | hk | hk | hk
      · exact .inl (hk.put hg hids hx')
      · exact .inr (.inl hk)
      · exact .inr (.inr (.inl (hk.mono hp)))
      · exact .inr (.inr (.inr (hk.mono hp)))
    · exact .inl (hg.inDirectory hids hin hname (mem_putFile.mpr (.inr rfl)))

/-- One event that enqueues nothing, with files from where they were: what is to
    be shown is where the outcomes of the two directories are now. -/
theorem Sound.change {disk' : Disk} {event : Event} (hs : Sound J disk)
    (hhistory : disk'.history = disk.history ++ [event]) (hevent : enqueued [event] = [])
    (hfiles : ∀ f ∈ disk'.outbox ++ disk'.deadLetter, f ∈ disk.outbox ++ disk.deadLetter)
    (hkept : DistinctIds disk.history → ∀ e ∈ enqueued disk.history,
      InDirectory disk.outbox e ∨ InDirectory disk.deadLetter e → Kept disk' e)
    (hJ : ∀ id cause, event = .quarantined id cause → J disk.history id cause) : Sound J disk' := by
  have hp : disk.history <+: disk'.history := ⟨[event], hhistory.symm⟩
  have hnew : enqueued disk'.history = enqueued disk.history := by
    rw [hhistory, enqueued_append, hevent, List.append_nil]
  have hgenuine : ∀ f ∈ disk'.outbox ++ disk'.deadLetter, Genuine disk'.history f := by
    intro f hf
    rcases List.mem_append.mp (hfiles f hf) with hf | hf
    · exact (hs.outbox f hf).mono hp
    · exact (hs.deadLetter f hf).mono hp
  refine ⟨fun f hf => hgenuine f (List.mem_append_left _ hf),
    fun f hf => hgenuine f (List.mem_append_right _ hf), ?_, ?_⟩
  · intro hids e he
    unfold DistinctIds at hids
    rw [hnew] at hids he
    rcases hs.kept hids e he with hk | hk | hk | hk
    · exact hkept hids e he (.inl hk)
    · exact hkept hids e he (.inr hk)
    · exact .inr (.inr (.inl (hk.mono hp)))
    · exact .inr (.inr (.inr (hk.mono hp)))
  · rw [hhistory]
    exact justified_append hs hJ

theorem sound_acknowledge {drain : Nat} {a : Entry} (hs : Sound J disk)
    (ha : Admissible disk.history a)
    (hrep : ∃ before, reports drain disk.history = before ++ a.bodies) :
    Sound J { disk with
      outbox := removeFile (entryName a.id) disk.outbox
      history := disk.history ++ [.acknowledged drain a.id] } := by
  refine hs.change rfl rfl ?_ ?_ (fun _ _ heq => nomatch heq)
  · intro f hf
    rcases List.mem_append.mp hf with hf | hf
    · exact List.mem_append_left _ (mem_removeFile.mp hf).1
    · exact List.mem_append_right _ hf
  · intro hids e he hk
    by_cases hid : e.id = a.id
    · -- It is the acknowledged entry: its bodies are what the drain reported last.
      obtain ⟨before, hbefore⟩ := hrep
      refine .inr (.inr (.inl ⟨disk.history, [], drain, before, by rw [hid], ?_⟩))
      rw [hbefore, (ha.sameOutcome hids he hid.symm).bodies]
    · rcases hk with hk | hk
      · exact .inl (hk.remove hid)
      · exact .inr (.inl hk)

variable {id : JsString}

theorem sound_quarantine {cause : QuarantineCause} {f : File} (hs : Sound J disk)
    (hf : findFile (entryName id) disk.outbox = some f) (hJ : J disk.history id cause) :
    Sound J { disk with
      outbox := removeFile (entryName id) disk.outbox
      deadLetter := putFile f disk.deadLetter
      history := disk.history ++ [.quarantined id cause] } := by
  obtain ⟨hin, hname⟩ := findFile_some hf
  have hg := hs.outbox f hin
  refine hs.change rfl rfl ?_ ?_ ?_
  · intro g hmem
    rcases List.mem_append.mp hmem with hmem | hmem
    · exact List.mem_append_left _ (mem_removeFile.mp hmem).1
    · rcases mem_putFile.mp hmem with ⟨hmem, -⟩ | rfl
      · exact List.mem_append_right _ hmem
      · exact List.mem_append_left _ hin
  · intro hids e he hk
    rcases hk with hk | hk
    · by_cases hid : e.id = id
      · right; left
        exact hg.inDirectory hids he (by rw [hid]; exact hname) (mem_putFile.mpr (.inr rfl))
      · exact .inl (hk.remove hid)
    · exact .inr (.inl (hk.put hg hids he))
  · intro id' cause' heq
    injection heq with hid hcause
    subst hid hcause
    exact hJ

theorem sound_prune {pass : PrunePass} (hs : Sound J disk) (hpass : id ∈ pass.idsToDelete)
    (hcap : pass.maxEntries = MAX_DEAD_LETTER_ENTRIES) (hage : pass.maxAgeMs = MAX_DEAD_LETTER_AGE_MS) :
    Sound J { disk with
      deadLetter := removeFile (entryName id) disk.deadLetter
      history := disk.history ++ [.pruned id pass] } := by
  refine hs.change rfl rfl ?_ ?_ (fun _ _ heq => nomatch heq)
  · intro f hf
    rcases List.mem_append.mp hf with hf | hf
    · exact List.mem_append_left _ hf
    · exact List.mem_append_right _ (mem_removeFile.mp hf).1
  · intro hids e he hk
    by_cases hid : e.id = id
    · refine .inr (.inr (.inr ⟨pass, ?_, ?_, hcap, hage⟩))
      · rw [hid]
        exact List.mem_append_right _ (List.mem_singleton.mpr rfl)
      · rw [hid]
        unfold PrunePass.idsToDelete inSet at hpass
        exact List.mem_append.mp (List.mem_eraseDups.mp hpass)
    · rcases hk with hk | hk
      · exact .inl hk
      · exact .inr (.inl (hk.remove hid))

/-- A failed transmission goes on record. -/
theorem sound_failed (hs : Sound J disk) :
    Sound J { disk with history := disk.history ++ [.failed id] } := by
  refine hs.change rfl rfl (fun f hf => hf) ?_ (fun _ _ heq => nomatch heq)
  intro _ e _ hk
  rcases hk with hk | hk
  · exact .inl hk
  · exact .inr (.inl hk)

end Changes

/-! ## §5. What the programs read. -/

def ListedIn (dir : List File) (e : Entry) : Prop :=
  ∃ f ∈ dir, isEntryName f.name = true ∧ f.readable = some e

theorem observes_readEntryDirNames (dir : Disk → List File) :
    Observes (readEntryDirNames dir) fun files disk => files = dir disk ∨ files = [] := by
  refine Observes.bind (Q := fun r disk => ∀ files, r = .ok files → files = dir disk) ?_ ?_
  · refine Observes.attempt (Observes.op ?_) (fun error disk files heq => nomatch heq)
    intro disk a disk' heq
    injection heq with heq
    injection heq with ha hdisk
    subst ha hdisk
    refine ⟨rfl, ?_⟩
    intro files hfiles
    injection hfiles with hfiles
    exact hfiles.symm
  · intro r
    cases r with
    | ok files =>
      exact Observes.pure fun disk h => .inl (h files rfl)
    | error _ => exact Observes.pure fun disk h => .inr rfl

theorem observes_readEntryFile (f : File) :
    Observes (readEntryFile f) fun a _ =>
      ∀ e, a = some e → isEntryName f.name = true ∧ f.readable = some e := by
  unfold readEntryFile
  refine Observes.ite (fun hname => ?_) fun _ => Observes.pure fun _ e heq => nomatch heq
  refine Observes.bind (Observes.attempt (Q := fun _ _ => True) (Observes.tick.mono fun _ _ h => h)
    fun _ _ => trivial) fun r => ?_
  cases r with
  | ok _ => exact Observes.pure fun _ _ e heq => ⟨hname, heq⟩
  | error _ => exact Observes.pure fun _ _ e heq => nomatch heq

/-- What a listing returns: entries of the directory, no more than it holds. -/
def Listing (dir : List File) (entries : List Entry) : Prop :=
  (∀ e ∈ entries, ListedIn dir e) ∧ entries.length ≤ heldEntries dir

theorem observes_readEntriesFromDir (dir : Disk → List File) :
    Observes (readEntriesFromDir dir) fun entries disk => Listing (dir disk) entries := by
  refine Observes.bind (observes_readEntryDirNames dir) fun files => ?_
  refine Observes.mono (Observes.and (Observes.collect fun f _ => observes_readEntryFile f)
    (Observes.collect_length (p := fun f => isEntryName f.name && f.readable.isSome) ?_)) ?_
  · intro f _
    refine (observes_readEntryFile f).mono fun a _ h e he => ?_
    rw [(h e he).1, (h e he).2]
    rfl
  · rintro entries disk ⟨h, hlength⟩ (rfl | rfl)
    · exact ⟨h, hlength⟩
    · refine ⟨fun e he => ?_, hlength.trans (Nat.zero_le _)⟩
      obtain ⟨f, hf, -⟩ := h e he
      cases hf

theorem mem_sortEntries {e : Entry} {entries : List Entry} :
    e ∈ sortEntriesByCreatedAtThenId entries ↔ e ∈ entries := by
  unfold sortEntriesByCreatedAtThenId
  exact (List.perm_insertionSort _ entries).mem_iff

theorem Listing.sort {dir : List File} {entries : List Entry} (h : Listing dir entries) :
    Listing dir (sortEntriesByCreatedAtThenId entries) := by
  refine ⟨fun e he => h.1 e (mem_sortEntries.mp he), ?_⟩
  unfold sortEntriesByCreatedAtThenId
  rw [List.length_insertionSort]
  exact h.2

theorem observes_listOutboxEntries :
    Observes listOutboxEntries fun entries disk => Listing disk.outbox entries := by
  refine Observes.bind (observes_readEntriesFromDir Disk.outbox) fun entries => Observes.pure ?_
  exact fun disk h => h.sort

theorem observes_listDeadLetterEntries :
    Observes listDeadLetterEntries fun entries disk => Listing disk.deadLetter entries := by
  refine Observes.bind (observes_readEntriesFromDir Disk.deadLetter) fun entries => Observes.pure ?_
  exact fun disk h => h.sort

theorem observes_readOutboxFile (name : JsString) :
    Observes (readOutboxFile name) fun content disk =>
      ∃ f ∈ disk.outbox, f.name = name ∧ f.content = content := by
  refine Observes.op ?_
  intro disk a disk' heq
  cases hfind : findFile name disk.outbox with
  | none =>
    rw [hfind] at heq
    cases heq
  | some f =>
    rw [hfind] at heq
    dsimp only at heq
    split_ifs at heq
    injection heq with heq
    injection heq with ha hdisk
    subst ha hdisk
    obtain ⟨hin, hname⟩ := findFile_some hfind
    exact ⟨rfl, f, hin, hname, rfl⟩

theorem observes_resolveDeadLetterAgeBasisMs (entry : Entry) :
    Observes (resolveDeadLetterAgeBasisMs entry) fun _ _ => True := by
  unfold resolveDeadLetterAgeBasisMs
  cases entry.quarantinedAt with
  | some t => exact Observes.pure fun _ => trivial
  | none =>
    cases entry.lastAttemptAt with
    | some t => exact Observes.pure fun _ => trivial
    | none =>
      refine Observes.bind (Observes.attempt (Q := fun _ _ => True) (Observes.op ?_)
        fun _ _ => trivial) fun r => ?_
      · intro disk a disk' heq
        cases hfind : findFile (entryName entry.id) disk.deadLetter with
        | none =>
          rw [hfind] at heq
          cases heq
        | some f =>
          rw [hfind] at heq
          dsimp only at heq
          split_ifs at heq
          injection heq with heq
          injection heq with ha hdisk
          exact ⟨hdisk.symm, trivial⟩
      · cases r <;> exact Observes.pure fun _ _ => trivial

/-- A genuine file holds the entry the listing reads in it. -/
theorem Genuine.listed {h : List Event} {f : File} {e : Entry} (hg : Genuine h f)
    (hread : f.readable = some e) : Admissible h e ∧ f.name = entryName e.id := by
  obtain ⟨-, e', hc, hn, ha⟩ := hg
  unfold File.readable at hread
  rw [hc] at hread
  split_ifs at hread
  injection hread with heq
  subst heq
  exact ⟨ha, hn⟩

/-! ## §6. What the programs keep. -/

/-- The disk is sound, and since `h₀` nothing was reported. -/
structure SafeFrom (J : List Event → JsString → QuarantineCause → Prop) (h₀ : List Event)
    (disk : Disk) : Prop where
  sound : Sound J disk
  grown : h₀ <+: disk.history
  reports : ∀ tag, reports tag disk.history = reports tag h₀

section Programs

variable {J : List Event → JsString → QuarantineCause → Prop} {h₀ : List Event} {disk : Disk}
  {bytes : Content → Nat}

theorem SafeFrom.here (h : Sound J disk) : SafeFrom J disk.history disk :=
  ⟨h, List.prefix_refl _, fun _ => rfl⟩

theorem SafeFrom.trans {later : Disk} (h : SafeFrom J h₀ disk) (h' : SafeFrom J disk.history later) :
    SafeFrom J h₀ later :=
  ⟨h'.sound, h.grown.trans h'.grown, fun tag => (h'.reports tag).trans (h.reports tag)⟩

/-- What is kept from the present disk on is kept from `h₀` on. -/
theorem SafeFrom.pin {α : Type} {m : Outbox α} (hs : SafeFrom J h₀ disk)
    (h : Keeps (SafeFrom J disk.history) m) :
    Triple (· = disk) m (fun _ => SafeFrom J h₀) (fun _ => SafeFrom J h₀) := by
  refine h.conseq ?_ (fun _ _ h => hs.trans h) (fun _ _ h => hs.trans h)
  rintro s rfl
  exact .here hs.sound

theorem SafeFrom.event {disk' : Disk} {event : Event} (h : SafeFrom J h₀ disk)
    (hs : Sound J disk') (hhistory : disk'.history = disk.history ++ [event])
    (hevent : event.isReport = false) : SafeFrom J h₀ disk' := by
  refine ⟨hs, ?_, ?_⟩
  · rw [hhistory]
    exact h.grown.trans ⟨_, rfl⟩
  · intro tag
    have hno : ∀ x ∈ [event], x.isReport = false := by
      intro x hx
      rw [List.mem_singleton.mp hx]
      exact hevent
    rw [hhistory, reports_append, reports_of_no_report hno, List.append_nil]
    exact h.reports tag

theorem keeps_writeFileAtomically {I : Disk → Prop} {name : JsString} {content : Content}
    {events : List Event}
    (h : ∀ disk, I disk → I { disk with
      outbox := putFile ⟨name, .regular, bytes content, disk.clock, content⟩ disk.outbox
      history := disk.history ++ events }) :
    Keeps I (writeFileAtomically bytes name content events) := by
  refine Keeps.bind Keeps.tick fun _ => Keeps.bind (Keeps.op ?_) fun _ =>
    Keeps.bind Keeps.tick fun _ => Keeps.tick
  intro disk a disk' hs heq
  injection heq with heq
  injection heq with ha hdisk
  rw [← hdisk]
  exact h disk hs

variable {nowMs : Int} {id : JsString} {cause : QuarantineCause}

theorem keeps_write {e : Entry} (hid : e.id = id) (ha : Admissible h₀ e) :
    Keeps (SafeFrom J h₀) (writeFileAtomically bytes (entryName id) (.entry e) []) := by
  refine keeps_writeFileAtomically fun disk h => ?_
  rw [List.append_nil]
  have hg : Genuine disk.history ⟨entryName id, .regular, bytes (.entry e), disk.clock, .entry e⟩ :=
    ⟨rfl, e, rfl, by rw [hid], ha.mono h.grown⟩
  exact ⟨sound_write h.sound hg, h.grown, h.reports⟩

theorem keeps_stampEntry :
    Keeps (SafeFrom J h₀) (stampEntry bytes id nowMs) := by
  refine (observes_readOutboxFile (entryName id)).andThen (fun _ _ hs => hs) ?_
  rintro content disk hs ⟨f, hf, hname, hcontent⟩
  obtain ⟨-, e, hc, hn, ha⟩ := hs.sound.outbox f hf
  -- What was read is the entry of that name, so the stamped one is admissible.
  rw [hc] at hcontent
  subst hcontent
  have hid : e.id = id := entryName_inj.mp (hn.symm.trans hname)
  have ha' : Admissible disk.history { e with quarantinedAt := some nowMs } :=
    ⟨ha.known.imp fun e₀ h => ⟨h.1, h.2.id, h.2.result, h.2.evidence⟩, ha.attempts⟩
  show Triple (· = disk) (do
    tick
    if bytes (.entry { e with quarantinedAt := some nowMs }) ≤ MAX_ENTRY_BYTES then
      writeFileAtomically bytes (entryName id) (.entry { e with quarantinedAt := some nowMs }) []
    else pure ()) _ _
  refine hs.pin ?_
  exact Keeps.bind Keeps.tick fun _ => Keeps.ite (keeps_write hid ha') Keeps.pure

theorem keeps_quarantine {I : Disk → Prop} (hstamp : Keeps I (stampEntry bytes id nowMs))
    (hmove : ∀ disk f, I disk → findFile (entryName id) disk.outbox = some f → I { disk with
      outbox := removeFile (entryName id) disk.outbox
      deadLetter := putFile f disk.deadLetter
      history := disk.history ++ [.quarantined id cause] }) :
    Keeps I (quarantineOutboxEntry bytes id nowMs cause) := by
  have hmoved : Keeps I (moveEntry id cause) := by
    refine Keeps.bind (Keeps.attempt (Keeps.op ?_)) fun r => ?_
    · intro disk a disk' hs heq
      cases hfind : findFile (entryName id) disk.outbox with
      | none =>
        rw [hfind] at heq
        cases heq
      | some f =>
        rw [hfind] at heq
        injection heq with heq
        injection heq with ha hdisk
        rw [← hdisk]
        exact hmove disk f hs hfind
    · cases r with
      | ok _ => exact Keeps.bind Keeps.tick fun _ => Keeps.bind Keeps.tick fun _ =>
          Keeps.bind Keeps.tick fun _ => Keeps.pure
      | error error =>
        cases error with
        | enoent => exact Keeps.pure
        | other _ => exact Triple.raise fun _ h => h
  refine Keeps.bind Keeps.tick fun _ => Keeps.bind (Keeps.attempt hstamp) fun r => ?_
  cases r with
  | ok _ => exact hmoved
  | error error =>
    cases error with
    | enoent => exact Keeps.pure
    | other _ => exact hmoved

theorem keeps_quarantineOutboxEntry (hJ : ∀ disk, SafeFrom J h₀ disk → J disk.history id cause) :
    Keeps (SafeFrom J h₀) (quarantineOutboxEntry bytes id nowMs cause) :=
  keeps_quarantine keeps_stampEntry fun disk _ hs hfind =>
    hs.event (sound_quarantine hs.sound hfind (hJ disk hs)) rfl rfl

theorem keeps_removal {I : Disk → Prop} {unlink : Outbox Unit} (h : Keeps I unlink) :
    Keeps I (removal unlink) := by
  refine Keeps.bind (Keeps.attempt (Keeps.bind h fun _ => Keeps.tick)) fun r => ?_
  cases r with
  | ok _ => exact Keeps.pure
  | error error =>
    cases error with
    | enoent => exact Keeps.pure
    | other _ => exact Triple.raise fun _ h => h

theorem keeps_acknowledgeOutboxEntry {drain : Nat} {a : Entry} (ha : Admissible h₀ a)
    (hrep : ∃ before, reports drain h₀ = before ++ a.bodies) :
    Keeps (SafeFrom J h₀) (acknowledgeOutboxEntry drain a.id) := by
  refine keeps_removal (Keeps.op ?_)
  intro disk x disk' hs heq
  cases hfind : findFile (entryName a.id) disk.outbox with
  | none =>
    rw [hfind] at heq
    cases heq
  | some f =>
    rw [hfind] at heq
    dsimp only at heq
    split_ifs at heq
    injection heq with heq
    injection heq with hx hdisk
    rw [← hdisk]
    refine hs.event (sound_acknowledge hs.sound (ha.mono hs.grown) ?_) rfl rfl
    rw [hs.reports drain]
    exact hrep

theorem keeps_deleteDeadLetterEntry {pass : PrunePass} (hpass : id ∈ pass.idsToDelete)
    (hcap : pass.maxEntries = MAX_DEAD_LETTER_ENTRIES) (hage : pass.maxAgeMs = MAX_DEAD_LETTER_AGE_MS) :
    Keeps (SafeFrom J h₀) (deleteDeadLetterEntry pass id) := by
  refine keeps_removal (Keeps.op ?_)
  intro disk x disk' hs heq
  cases hfind : findFile (entryName id) disk.deadLetter with
  | none =>
    rw [hfind] at heq
    cases heq
  | some f =>
    rw [hfind] at heq
    dsimp only at heq
    split_ifs at heq
    injection heq with heq
    injection heq with hx hdisk
    rw [← hdisk]
    exact hs.event (sound_prune hs.sound hpass hcap hage) rfl rfl

theorem keeps_pruneDeadLetterEntries :
    Keeps (SafeFrom J h₀)
      (pruneDeadLetterEntries nowMs MAX_DEAD_LETTER_ENTRIES MAX_DEAD_LETTER_AGE_MS) := by
  refine Keeps.bind observes_listDeadLetterEntries.keeps fun entries => ?_
  refine Keeps.bind (Observes.keeps (Observes.collect (V := fun _ _ _ => True) ?_)) fun listed => ?_
  · intro entry _
    refine Observes.bind (observes_resolveDeadLetterAgeBasisMs entry) fun _ => Observes.pure ?_
    exact fun _ _ _ _ => trivial
  · refine Keeps.sumEach fun id hid => Keeps.bind ?_ fun _ => Keeps.pure
    exact keeps_deleteDeadLetterEntry hid rfl rfl

/-- An outbox file of a retention pass is as it was, or was stamped by it. -/
structure Untouched (files : List File) (nowMs : Int) (disk : Disk) : Prop where
  clock : disk.clock = nowMs
  outbox : ∀ f ∈ disk.outbox, f ∈ files ∨ f.mtime = nowMs

theorem untouched_quarantineOutboxEntry {files : List File} :
    Keeps (Untouched files nowMs) (quarantineOutboxEntry bytes id nowMs cause) := by
  refine keeps_quarantine ?_ fun disk f hs _ =>
    ⟨hs.clock, fun g hg => hs.outbox g (mem_removeFile.mp hg).1⟩
  refine Keeps.bind (observes_readOutboxFile (entryName id)).keeps fun content => ?_
  cases content.stamped nowMs with
  | none => exact Keeps.pure
  | some content' =>
    refine Keeps.bind Keeps.tick fun _ => Keeps.ite (keeps_writeFileAtomically ?_) Keeps.pure
    intro disk hs
    refine ⟨hs.clock, ?_⟩
    intro f hf
    rcases mem_putFile.mp hf with ⟨hf, -⟩ | rfl
    · exact hs.outbox f hf
    · exact .inr hs.clock

/-- A file the retention pass may move without reading it. -/
def AgedFile (nowMs : Int) (f : File) : Prop :=
  isEntryName f.name = true ∧ nowMs - min f.mtime nowMs > MAX_OUTBOX_AGE_MS

/-- What a retention pass over the outbox moves: an id it chose among the entries
    it listed, or a file too old. -/
def StaleIn (files : List File) (nowMs : Int) (entries : List Entry) (id : JsString) : Prop :=
  Listing files entries ∧
    (id ∈ idsToQuarantine entries nowMs ∨ ∃ f ∈ files, AgedFile nowMs f ∧ nameId f.name = id)

theorem keeps_quarantineUnreadableFile {readableIds : List JsString} {f : File}
    (hJ : AgedFile nowMs f → ∀ disk, SafeFrom J h₀ disk → J disk.history (nameId f.name) cause) :
    Keeps (SafeFrom J h₀) (quarantineUnreadableFile bytes readableIds nowMs cause f) := by
  unfold quarantineUnreadableFile
  refine Triple.ite (fun _ => Keeps.pure) fun hskip => ?_
  refine Keeps.bind (Keeps.attempt Keeps.tick) fun r => ?_
  cases r with
  | error _ => exact Keeps.pure
  | ok _ =>
    refine Triple.ite (fun _ => Keeps.pure) fun _ => Triple.ite (fun _ => Keeps.pure) fun hage => ?_
    refine Keeps.bind (keeps_quarantineOutboxEntry (hJ ⟨?_, by omega⟩)) fun _ => Keeps.pure
    by_contra hname
    simp [hname] at hskip

theorem keeps_pruneStaleOutboxEntries (hs : SafeFrom J h₀ disk) (hclock : disk.clock = nowMs)
    (hJ : ∀ entries id, StaleIn disk.outbox nowMs entries id → ∀ later, SafeFrom J h₀ later → J later.history id ⟨false, heldEntries disk.outbox⟩) :
    Triple (· = disk) (pruneStaleOutboxEntries bytes nowMs)
      (fun _ => SafeFrom J h₀) (fun _ => SafeFrom J h₀) := by
  refine Triple.bind (Q := fun held s => held = disk ∧ s = disk)
    (Triple.look fun s hs => ⟨hs, hs⟩) fun held => Triple.of_forall fun hheld => ?_
  subst hheld
  refine observes_listOutboxEntries.andThen ?_ ?_
  · rintro _ _ rfl
    exact hs
  intro entries s heq hlisted
  have heq' : held = s := heq.symm
  subst heq'
  -- The first loop; what it leaves in the outbox is as it was, or stamped just now.
  refine Triple.bind (Q := fun _ s => SafeFrom J h₀ s ∧ Untouched held.outbox nowMs s) ?_ fun _ => ?_
  · have hsafe : Keeps (SafeFrom J h₀) (sumEach
        (fun id => do
          let moved ← quarantineOutboxEntry bytes id nowMs ⟨false, heldEntries held.outbox⟩
          pure moved.toNat)
        (idsToQuarantine entries nowMs)) := by
      refine Keeps.sumEach fun id hid => Keeps.bind (keeps_quarantineOutboxEntry ?_) fun _ =>
        Keeps.pure
      exact fun later hlater => hJ entries id ⟨hlisted, .inl hid⟩ later hlater
    have huntouched : Keeps (Untouched held.outbox nowMs) (sumEach
        (fun id => do
          let moved ← quarantineOutboxEntry bytes id nowMs ⟨false, heldEntries held.outbox⟩
          pure moved.toNat)
        (idsToQuarantine entries nowMs)) :=
      Keeps.sumEach fun id _ => Keeps.bind untouched_quarantineOutboxEntry fun _ => Keeps.pure
    refine (hsafe.and huntouched).conseq ?_ (fun _ _ h => h) (fun _ _ h => h.1)
    rintro _ rfl
    exact ⟨hs, hclock, fun f hf => .inl hf⟩
  · refine Triple.bind (Q := fun _ s => SafeFrom J h₀ s) ?_ fun _ => Triple.pure fun _ h => h
    refine Triple.bind (Q := fun _ s => SafeFrom J h₀ s ∧ Untouched held.outbox nowMs s) ?_ fun _ => ?_
    · exact observes_listOutboxEntries.triple.conseq (fun _ h => h) (fun _ _ h => h.1) fun _ _ h => h.1
    · refine (observes_readEntryDirNames Disk.outbox).andThen (fun _ _ h => h.1) ?_
      rintro files s ⟨hsafe, huntouched⟩ hfiles
      refine Triple.conseq (P := SafeFrom J h₀) ?_ ?_ (fun _ _ h => h) fun _ _ h => h
      · refine Keeps.sumEach fun f hf => keeps_quarantineUnreadableFile fun haged later hlater => ?_
        refine hJ entries _ ⟨hlisted, .inr ⟨f, ?_, haged, rfl⟩⟩ later hlater
        have hmem : f ∈ s.outbox := by
          rcases hfiles with rfl | rfl
          · exact hf
          · cases hf
        rcases huntouched.outbox f hmem with hin | hnow
        · exact hin
        · have h1 := haged.2
          rw [hnow, min_self] at h1
          unfold MAX_OUTBOX_AGE_MS at h1
          omega
      · rintro _ rfl
        exact hsafe

/-- A draft is enqueued, or nothing happens. -/
theorem keeps_enqueueOutboxEntry {draft : Draft} (hs : SafeFrom J h₀ disk) :
    Triple (· = disk) (enqueueOutboxEntry bytes draft)
      (fun e s => SafeFrom J h₀ s ∧ Admissible s.history e) (fun _ => SafeFrom J h₀) := by
  have hstart : ∀ s, s = disk → SafeFrom J h₀ s := by
    rintro _ rfl
    exact hs
  refine Triple.bind (Triple.tick (Q := fun _ s => s = disk) (fun _ h => h)
    fun _ s h => hstart s h) fun _ => ?_
  refine Triple.bind (Q := fun e s => e = draft.entry ∧ s = disk) ?_ fun e => ?_
  · unfold validateEntry
    refine Triple.ite (fun _ => Triple.raise hstart) fun _ => Triple.ite
      (fun _ => Triple.raise hstart) fun _ => Triple.ite (fun _ => Triple.raise hstart) fun _ =>
      Triple.ite (fun _ => Triple.raise hstart) fun _ => Triple.pure fun s h => ⟨rfl, h⟩
  · refine Triple.of_forall fun he => Triple.ite (fun _ => Triple.raise hstart) fun _ => ?_
    subst he
    have hnew : SafeFrom J h₀ { disk with
        outbox := putFile ⟨entryName draft.entry.id, .regular, bytes (.entry draft.entry), disk.clock,
          .entry draft.entry⟩ disk.outbox
        history := disk.history ++ [.enqueued draft.entry] } :=
      hs.event (sound_enqueue hs.sound rfl rfl rfl rfl) rfl rfl
    have hadm : Admissible (disk.history ++ [.enqueued draft.entry]) draft.entry := by
      refine ⟨⟨draft.entry, ?_, .refl _⟩, Nat.zero_le _⟩
      rw [enqueued_append]
      exact List.mem_append_right _ (List.mem_singleton.mpr rfl)
    refine Triple.bind (Q := fun _ s => SafeFrom J h₀ s ∧ Admissible s.history draft.entry) ?_
      fun _ => Triple.pure fun s h => h
    refine Triple.bind (Triple.tick (Q := fun _ s => s = disk) (fun _ h => h)
      fun _ s h => hstart s h) fun _ => ?_
    refine Triple.bind (Triple.op
      (Q := fun _ s => SafeFrom J h₀ s ∧ Admissible s.history draft.entry) ?_
      fun _ s h => hstart s h) fun _ => ?_
    · intro s a s' hdisk heq
      subst hdisk
      injection heq with heq
      injection heq with _ hs'
      rw [← hs']
      exact ⟨hnew, hadm⟩
    · exact Triple.bind (Triple.tick (fun _ h => h) fun _ _ h => h.1) fun _ =>
        Triple.tick (fun _ h => h) fun _ _ h => h.1

end Programs

/-! ## §7. Drains. -/

/-- A drain holds admissible entries, and its last reports are the bodies it
    counts as accepted. -/
structure DrainOk (history : List Event) (drain : Drain) : Prop where
  entries : ∀ e ∈ drain.pending, Admissible history e
  accepted : ∀ e rest, drain.pending = e :: rest →
    drain.accepted ≤ e.evidence.length ∧
      ∃ before, reports drain.tag history =
        before ++ (e.evidence.take drain.accepted).map .evidence

section Drains

variable {J : List Event → JsString → QuarantineCause → Prop} {h₀ h : List Event} {disk : Disk}
  {bytes : Content → Nat} {drain : Drain}

theorem DrainOk.mono {h' : List Event} (hd : DrainOk h drain) (hp : h <+: h')
    (hrep : reports drain.tag h' = reports drain.tag h) : DrainOk h' drain := by
  refine ⟨fun e he => (hd.entries e he).mono hp, ?_⟩
  intro e rest hpending
  rw [hrep]
  exact hd.accepted e rest hpending

/-- A drain at the beginning of its head entry. -/
theorem DrainOk.of_start (hentries : ∀ e ∈ drain.pending, Admissible h e)
    (hstart : drain.accepted = 0) : DrainOk h drain := by
  refine ⟨hentries, ?_⟩
  intro e rest _
  rw [hstart]
  exact ⟨Nat.zero_le _, reports drain.tag h, by simp⟩

theorem Drain.skip_pending {e : Entry} (he : e ∈ drain.skip.pending) : e ∈ drain.pending :=
  (List.dropWhile_sublist _).mem he

theorem Drain.next_pending {e : Entry} {k n : Nat} (he : e ∈ (drain.next k n).pending) :
    e ∈ drain.pending := by
  unfold Drain.next at he
  dsimp only at he
  split at he
  · exact List.mem_of_mem_tail he
  · exact List.mem_of_mem_tail (Drain.skip_pending he)

theorem Drain.next_accepted (k n : Nat) : (drain.next k n).accepted = 0 := by
  unfold Drain.next
  dsimp only
  split <;> rfl

theorem DrainOk.next {k n : Nat} (hentries : ∀ e ∈ drain.pending, Admissible h e) :
    DrainOk h (drain.next k n) :=
  .of_start (fun e he => hentries e (Drain.next_pending he)) (Drain.next_accepted k n)

variable {entry : Entry} {failure : Failure} {isPermanent : Failure → Entry → Option Bool}
  {nowMs : Int} {reply : Reply}

theorem triple_startDrain {tag : Nat} (hs : SafeFrom J h₀ disk) :
    Triple (· = disk) (startDrain tag nowMs)
      (fun d s => SafeFrom J h₀ s ∧ DrainOk s.history d) (fun _ => SafeFrom J h₀) := by
  refine observes_listOutboxEntries.andThen ?_ ?_
  · rintro _ _ rfl
    exact hs
  · rintro pending _ rfl hlisted
    refine Triple.pure ?_
    rintro _ rfl
    refine ⟨hs, .of_start ?_ rfl⟩
    intro e he
    obtain ⟨f, hf, -, hread⟩ := hlisted.1 e (Drain.skip_pending he)
    exact ((hs.sound.outbox f hf).listed hread).1

theorem keeps_recordTransmissionFailure {retryInMs : Int}
    (ha : Admissible h₀ (entry.afterFailure failure nowMs retryInMs)) :
    Triple (SafeFrom J h₀) (recordTransmissionFailure bytes entry failure nowMs retryInMs)
      (fun updated s => updated = entry.afterFailure failure nowMs retryInMs ∧ SafeFrom J h₀ s)
      (fun _ => SafeFrom J h₀) := by
  refine Triple.bind (Q := fun _ => SafeFrom J h₀) Keeps.tick fun _ => ?_
  refine Triple.ite (fun _ => Triple.pure fun s h => ⟨rfl, h⟩) fun _ => ?_
  refine Triple.bind (Keeps.attempt (keeps_write (rfl : _ = entry.id) ha)) fun _ => ?_
  exact Triple.pure fun s h => ⟨rfl, h⟩

theorem le_attempts_of_hasExceeded (h : hasExceededTransientRetryWindow entry nowMs = true) :
    MIN_ATTEMPTS_BEFORE_AGE_QUARANTINE ≤ entry.attempts.getD 0 := by
  unfold hasExceededTransientRetryWindow at h
  unfold FALLBACK_MAX_ATTEMPTS_BEFORE_QUARANTINE MIN_ATTEMPTS_BEFORE_AGE_QUARANTINE at *
  dsimp only at h
  split_ifs at h with h₁ h₂
  · omega
  · omega

/-- What is known of the two kinds of moves a drain makes. -/
structure DrainMoves (J : List Event → JsString → QuarantineCause → Prop) : Prop where
  permanent : ∀ h id, J h id ⟨true, 0⟩
  retried : ∀ h id, MIN_ATTEMPTS_BEFORE_AGE_QUARANTINE ≤ failures id h → J h id ⟨false, 0⟩

theorem triple_failEntry (hJ : DrainMoves J) (hentries : ∀ e ∈ drain.pending, Admissible h₀ e)
    (hentry : Admissible h₀ entry) :
    Triple (SafeFrom J h₀) (failEntry bytes isPermanent drain entry failure reply)
      (fun d s => SafeFrom J h₀ s ∧ DrainOk s.history d) (fun _ => SafeFrom J h₀) := by
  have hnext : ∀ k n s, SafeFrom J h₀ s → SafeFrom J h₀ s ∧ DrainOk s.history (drain.next k n) :=
    fun k n s h => ⟨h, .next fun e he => (hentries e he).mono h.grown⟩
  refine Triple.bind (Q := fun _ s => SafeFrom J h₀ s ∧
    Admissible s.history (entry.afterFailure failure drain.nowMs reply.retryInMs)) ?_ fun _ => ?_
  · refine Triple.note fun s hs => ⟨hs.event (sound_failed hs.sound) rfl rfl, ?_⟩
    -- The failure on record makes room for the attempt it adds.
    have ha := hentry.mono (hs.grown.trans ⟨[.failed entry.id], rfl⟩)
    refine ⟨ha.known.imp fun e₀ h => ⟨h.1, h.2.id, h.2.result, h.2.evidence⟩, ?_⟩
    have hold := (hentry.mono hs.grown).attempts
    show entry.attempts.getD 0 + 1 ≤ failures entry.id (s.history ++ [.failed entry.id])
    rw [failures_append]
    have hone : failures entry.id [.failed entry.id] = 1 := by
      unfold failures
      simp
    omega
  · refine Triple.pin fun s hs => ?_
    refine Triple.bind (Q := fun updated s' =>
      updated = entry.afterFailure failure drain.nowMs reply.retryInMs ∧ SafeFrom J s.history s')
      ?_ fun updated => Triple.of_forall fun hupdated => ?_
    · refine (keeps_recordTransmissionFailure hs.2).conseq ?_ (fun _ _ h => h)
        fun _ _ h => hs.1.trans h
      rintro _ rfl
      exact .here hs.1.sound
    · refine Triple.ite (fun _ => Triple.raise fun _ h => hs.1.trans h) fun _ => ?_
      refine Triple.ite (fun hgiveup => ?_) fun _ => Triple.pure fun s' h => hnext _ _ s' (hs.1.trans h)
      refine Triple.bind (Q := fun _ s' => SafeFrom J h₀ s') ?_ fun moved =>
        Triple.pure fun s' h => hnext _ _ s' h
      refine (keeps_quarantineOutboxEntry ?_).conseq (fun _ h => h) (fun _ _ h => hs.1.trans h)
        fun _ _ h => hs.1.trans h
      intro later hlater
      cases hperm : (isPermanent failure updated).getD false with
      | true => exact hJ.permanent _ _
      | false =>
        rw [hperm, Bool.false_or] at hgiveup
        refine hJ.retried _ _ ?_
        have ha := hs.2.mono hlater.grown
        rw [← hupdated] at ha
        have hid : updated.id = entry.id := by rw [hupdated]; rfl
        rw [← hid]
        exact (le_attempts_of_hasExceeded hgiveup).trans ha.attempts

theorem triple_transmissionFailed (hJ : DrainMoves J) (hentries : ∀ e ∈ drain.pending, Admissible h₀ e)
    (hentry : Admissible h₀ entry) :
    Triple (SafeFrom J h₀) (transmissionFailed bytes isPermanent drain entry failure reply)
      (fun d s => SafeFrom J h₀ s ∧ DrainOk s.history d) (fun _ => SafeFrom J h₀) := by
  unfold transmissionFailed
  refine Triple.ite (fun _ => Triple.pure fun s h => ⟨h, .next fun e he => ?_⟩) fun _ =>
    triple_failEntry hJ hentries hentry
  exact (hentries e he).mono h.grown

/-- The stretch of a drain after a reply.  `h₀` ends with the report of the body
    that was taken. -/
theorem triple_handleReply {rest : List Entry} (hJ : DrainMoves J)
    (hpending : drain.pending = entry :: rest) (hentries : ∀ e ∈ drain.pending, Admissible h₀ e)
    (haccepted : drain.accepted ≤ entry.evidence.length)
    (hreported : reply.failure = none → ∃ before, reports drain.tag h₀ = before ++ entry.bodies.take (drain.accepted + 1)) :
    Triple (SafeFrom J h₀) (handleReply bytes isPermanent drain entry reply)
      (fun d s => SafeFrom J h₀ s ∧ DrainOk s.history d) (fun _ => SafeFrom J h₀) := by
  have hentry : Admissible h₀ entry := hentries entry (by rw [hpending]; exact List.mem_cons_self)
  unfold handleReply
  cases hfailure : reply.failure with
  | some failure => exact triple_transmissionFailed hJ hentries hentry
  | none =>
    obtain ⟨before, hbefore⟩ := hreported hfailure
    refine Triple.ite (fun hmore => ?_) fun hdone => ?_
    · -- Another evidence body was taken.
      refine Triple.pure fun s hs => ⟨hs, fun e he => (hentries e he).mono hs.grown, ?_⟩
      intro e rest' heq
      have he : e = entry := (List.cons.inj (heq.symm.trans hpending)).1
      subst he
      refine ⟨hmore, before, ?_⟩
      show reports drain.tag s.history = _
      rw [hs.reports, hbefore]
      unfold Entry.bodies
      rw [List.take_append_of_le_length (by rw [List.length_map]; exact hmore), List.map_take]
    · -- All evidence bodies and the result were taken.
      have hall : entry.bodies.take (drain.accepted + 1) = entry.bodies := by
        refine List.take_of_length_le ?_
        unfold Entry.bodies
        rw [List.length_append, List.length_map, List.length_singleton]
        omega
      rw [hall] at hbefore
      refine Triple.bind (Keeps.attempt (keeps_acknowledgeOutboxEntry hentry ⟨before, hbefore⟩))
        fun r => ?_
      cases r with
      | ok _ =>
        exact Triple.pure fun s hs => ⟨hs, .next fun e he => (hentries e he).mono hs.grown⟩
      | error error => exact triple_transmissionFailed hJ hentries hentry

end Drains

/-! ## §8. The process. -/

/-- The invariant of the process. -/
structure Safe (J : List Event → JsString → QuarantineCause → Prop) (process : Process) : Prop where
  sound : Sound J process.disk
  drains : ∀ drain ∈ process.drains, DrainOk process.disk.history drain

section Calls

variable {J : List Event → JsString → QuarantineCause → Prop} {process : Process}
  {bytes : Content → Nat} {isPermanent : Failure → Entry → Option Bool}

theorem Sound.at_clock {disk : Disk} (hs : Sound J disk) (clock : Int) :
    Sound J { disk with clock := clock } :=
  ⟨hs.outbox, hs.deadLetter, hs.kept, hs.justified⟩

/-- A program whose triple keeps the disk safe, and whose result keeps the drains
    right, keeps the process safe. -/
theorem safe_perform (process : Process) {α : Type} {clock : Int}
    {script : List (Fault FileError)} {m : Outbox α} {returned : α → List Drain → List Drain}
    (hdrains : ∀ drain ∈ process.drains, DrainOk process.disk.history drain)
    (h : Triple (· = { process.disk with clock := clock }) m
      (fun a s => SafeFrom J process.disk.history s ∧
        ∀ drain ∈ returned a process.drains, drain ∈ process.drains ∨ DrainOk s.history drain)
      (fun _ => SafeFrom J process.disk.history)) :
    Safe J (process.perform clock script m returned) := by
  have hrun := h ⟨{ process.disk with clock := clock }, script⟩ rfl
  unfold Process.perform exec
  revert hrun
  rcases m ⟨{ process.disk with clock := clock }, script⟩ with ⟨stop | a, w⟩
  · intro hs
    cases stop with
    | thrown _ => exact ⟨hs.sound, fun d hd => (hdrains d hd).mono hs.grown (hs.reports _)⟩
    | crashed => exact ⟨hs.sound, fun d hd => nomatch hd⟩
  · rintro ⟨hs, hret⟩
    refine ⟨hs.sound, ?_⟩
    intro d hd
    rcases hret d hd with hold | hnew
    · exact (hdrains d hold).mono hs.grown (hs.reports _)
    · exact hnew

theorem mem_keepUnfinished {drain d : Drain} {drains : List Drain}
    (hd : d ∈ keepUnfinished drain drains) : d = drain ∨ d ∈ drains := by
  unfold keepUnfinished at hd
  split at hd
  · exact .inr hd
  · exact List.mem_cons.mp hd

theorem safe_answer {drain : Drain} {reply : Reply} {clock : Int}
    {script : List (Fault FileError)} (hs : Safe J process) (hJ : DrainMoves J)
    (hmem : drain ∈ process.drains) :
    Safe J (process.answer bytes isPermanent drain reply clock script) := by
  have hdrain := hs.drains drain hmem
  unfold Process.answer
  cases hpending : drain.pending with
  | nil => exact hs
  | cons entry rest =>
    obtain ⟨haccepted, before, hbefore⟩ := hdrain.accepted entry rest hpending
    -- The body in flight is the next body of the entry.
    have hflight : drain.inFlight = entry.bodies[drain.accepted]? := by
      unfold Drain.inFlight
      rw [hpending]
      rfl
    have hlt : drain.accepted < entry.bodies.length := by
      unfold Entry.bodies
      rw [List.length_append, List.length_map, List.length_singleton]
      omega
    dsimp only
    generalize htaken : (if reply.failure.isNone then drain.inFlight.toList else []) = taken
    have hp : process.disk.history <+:
        process.disk.history ++ taken.map (Event.reported drain.tag) := ⟨_, rfl⟩
    have hsound : Sound J { process.disk with
        history := process.disk.history ++ taken.map (Event.reported drain.tag) } := by
      cases taken with
      | nil =>
        rw [List.map_nil, List.append_nil]
        exact hs.sound
      | cons body more =>
        have hmore : more = [] := by
          split at htaken
          · cases hf : drain.inFlight with
            | none =>
              rw [hf] at htaken
              cases htaken
            | some b =>
              rw [hf] at htaken
              exact (List.cons.inj htaken).2.symm
          · cases htaken
        subst hmore
        refine hs.sound.change rfl rfl (fun f hf => hf) ?_ (fun _ _ heq => nomatch heq)
        intro _ e _ hk
        rcases hk with hk | hk
        · exact .inl hk
        · exact .inr (.inl hk)
    refine safe_perform _ ?_ ?_
    · -- The other drains have other tags, so the report is not theirs.
      intro d hd
      obtain ⟨hd, htag⟩ := List.mem_filter.mp hd
      refine (hs.drains d hd).mono hp ?_
      show reports d.tag (process.disk.history ++ _) = _
      rw [reports_append]
      have : reports d.tag (taken.map (Event.reported drain.tag)) = [] := by
        unfold reports
        rw [List.filterMap_eq_nil_iff]
        intro event hevent
        obtain ⟨body, -, rfl⟩ := List.mem_map.mp hevent
        have hne : drain.tag ≠ d.tag := fun heq => by simp [heq] at htag
        simp [hne]
      rw [this, List.append_nil]
    · refine Triple.conseq (P := SafeFrom J
        (process.disk.history ++ taken.map (Event.reported drain.tag))) (triple_handleReply hJ hpending (fun e he => (hdrain.entries e he).mono hp) haccepted ?_) ?_ ?_
          fun _ _ h => h
      · intro hnone
        refine ⟨before, ?_⟩
        rw [reports_append, hbefore, ← htaken, hnone]
        have hget : entry.bodies[drain.accepted]? = some (entry.bodies[drain.accepted]) :=
          List.getElem?_eq_getElem hlt
        have hone : reports drain.tag
            (List.map (Event.reported drain.tag) [entry.bodies[drain.accepted]]) =
              [entry.bodies[drain.accepted]] := by
          unfold reports
          simp
        rw [Option.isNone_none, if_pos rfl, hflight, hget]
        show before ++ _ ++ reports drain.tag
          (List.map (Event.reported drain.tag) [entry.bodies[drain.accepted]]) = _
        rw [hone, List.append_assoc, List.take_add_one, hget]
        unfold Entry.bodies
        rw [List.take_append_of_le_length (by rw [List.length_map]; exact haccepted), List.map_take]
        rfl
      · rintro _ rfl
        exact .here (hsound.at_clock clock)
      · rintro d s ⟨hsafe, hok⟩
        refine ⟨hsafe, ?_⟩
        intro d' hd'
        rcases mem_keepUnfinished hd' with rfl | hd'
        · exact .inr hok
        · exact .inl hd'

/-- What is known of the moves of a retention pass. -/
def PruneMoves (J : List Event → JsString → QuarantineCause → Prop) (process : Process)
    (clock : Int) : Prop :=
  ∀ entries id, StaleIn process.disk.outbox clock entries id →
    ∀ later, SafeFrom J process.disk.history later →
      J later.history id ⟨false, heldEntries process.disk.outbox⟩

theorem safe_call (hs : Safe J process) (hJ : DrainMoves J) {call : Call}
    (hprune : ∀ clock script, call = .pruneStale clock script → PruneMoves J process clock) :
    Safe J (process.call bytes isPermanent call) := by
  have hstart : ∀ clock, SafeFrom J process.disk.history { process.disk with clock := clock } :=
    fun clock => .here (hs.sound.at_clock clock)
  cases call with
  | enqueue draft clock script =>
    unfold Process.call
    refine safe_perform process hs.drains ?_
    exact (keeps_enqueueOutboxEntry (hstart clock)).conseq (fun _ h => h)
      (fun _ _ h => ⟨h.1, fun d hd => .inl hd⟩) fun _ _ h => h
  | persistAndTransmit draft clock script =>
    refine safe_perform { process with nextTag := process.nextTag + 1 } hs.drains ?_
    refine (keeps_enqueueOutboxEntry (hstart clock)).conseq (fun _ h => h) ?_ fun _ _ h => h
    rintro entry s ⟨hsafe, ha⟩
    refine ⟨hsafe, ?_⟩
    intro d hd
    rcases List.mem_cons.mp hd with rfl | hd
    · refine .inr (.of_start ?_ rfl)
      intro e he
      rw [List.mem_singleton.mp he]
      exact ha
    · exact .inl hd
  | drain clock script =>
    refine safe_perform { process with nextTag := process.nextTag + 1 } hs.drains ?_
    refine (triple_startDrain (hstart clock)).conseq (fun _ h => h) ?_ fun _ _ h => h
    rintro d s ⟨hsafe, hok⟩
    refine ⟨hsafe, ?_⟩
    intro d' hd'
    rcases mem_keepUnfinished hd' with rfl | hd'
    · exact .inr hok
    · exact .inl hd'
  | reply tag reply clock script =>
    simp only [Process.call]
    cases hfind : process.drains.find? (·.tag = tag) with
    | none => exact hs
    | some drain => exact safe_answer hs hJ (List.mem_of_find?_eq_some hfind)
  | pruneStale clock script =>
    unfold Process.call
    refine safe_perform process hs.drains ?_
    refine (keeps_pruneStaleOutboxEntries (hstart clock) rfl (hprune clock script rfl)).conseq
      (fun _ h => h) (fun _ _ h => ⟨h, fun d hd => .inl hd⟩) fun _ _ h => h
  | pruneDeadLetter clock script =>
    unfold Process.call
    refine safe_perform process hs.drains ?_
    refine Triple.conseq keeps_pruneDeadLetterEntries ?_
      (fun _ _ h => ⟨h, fun d hd => .inl hd⟩) fun _ _ h => h
    rintro _ rfl
    exact hstart clock
  | crash => exact ⟨hs.sound, fun d hd => nomatch hd⟩

theorem Safe.fresh : Safe J .fresh := by
  refine ⟨⟨?_, ?_, ?_, ?_⟩, ?_⟩
  · exact fun f hf => nomatch hf
  · exact fun f hf => nomatch hf
  · exact fun _ e he => nomatch he
  · intro earlier id cause later heq
    have : ([] : List Event) = earlier ++ .quarantined id cause :: later := heq
    simp at this
  · exact fun d hd => nomatch hd

end Calls

/-- **NO OUTCOME IS EVER DISCARDED**: in every state of every run, with any file
    operation failing and the process dying anywhere, an enqueued outcome is in
    the outbox, is in dead-letter, was acknowledged after its evidence and then
    its result were taken, or was pruned past its retention. -/
theorem outcome_never_discarded (bytes : Content → Nat)
    (isPermanent : Failure → Entry → Option Bool) (process : Process)
    (h : Reachable (outboxSystem bytes isPermanent) anyStep process)
    (hids : DistinctIds process.disk.history) (e : Entry) (he : e ∈ enqueued process.disk.history) : Kept process.disk e := by
  have hsafe : Safe (fun _ _ _ => True) process := by
    refine h.invariant ?_ ?_
    · rintro _ rfl
      exact .fresh
    · rintro s a t hs - rfl
      exact safe_call hs ⟨fun _ _ => trivial, fun _ _ _ => trivial⟩
        fun _ _ _ _ _ _ _ _ => trivial
  exact hsafe.sound.kept hids e he

/-- A draft with one evidence body. -/
def demoDraft : Draft where
  id := some (js "job-1")
  randomId := []
  createdAt := none
  createdNow := ⟨js "2026-01-01T00:00:00.000Z", some 1767225600000⟩
  result := .object .objectPrototype [(js "status", .string (js "succeeded"))]
  evidence := some [.object .objectPrototype [(js "kind", .string (js "deployed"))]]

/-- The byte lengths of the demo entry's JSON as enqueued, and with failure and
    quarantine on record. -/
def demoBytes : Content → Nat
  | .entry e => 119 + (if e.attempts.isSome then 171 else 0) + (if e.quarantinedAt.isSome then 43 else 0)
  | _ => 3

/-- The outcome is enqueued.  The control plane takes its evidence and refuses its
    result; the rewrite of the entry fails, and the process dies before the entry
    is moved.  The next process moves it. -/
def demoCalls : List Call :=
  [ .enqueue demoDraft 1767225600000 [],
    .drain 1767225600000 [],
    .reply 0 ⟨none, 0, false⟩ 1767225600100 [],
    .reply 0 ⟨some (.client (some 422) (some (js "rejected"))), 15000, false⟩ 1767225600200
      [.pass, .pass, .throws (.other (js "EACCES")), .pass, .pass, .crash],
    .drain 1767225700000 [],
    .reply 1 ⟨some (.client (some 422) (some (js "rejected"))), 15000, false⟩ 1767225700100 [] ]

def demoProcess : Process :=
  demoCalls.foldl (Process.call demoBytes fun failure _ => some (defaultIsPermanentFailure failure))
    .fresh

theorem outcome_never_discarded_demo :
    demoProcess.disk.outbox.length = 0 ∧ demoProcess.disk.deadLetter.length = 1 ∧
      Kept demoProcess.disk demoDraft.entry := by
  have henqueued : enqueued demoProcess.disk.history = [demoDraft.entry] := rfl
  refine ⟨by decide +kernel, by decide +kernel, ?_⟩
  refine outcome_never_discarded demoBytes
    (fun failure _ => some (defaultIsPermanentFailure failure)) demoProcess ?_ ?_ _ ?_
  · exact (Reachable.of_init rfl).run (Run.of_foldl (fun _ _ => rfl) demoCalls _)
  · unfold DistinctIds
    rw [henqueued]
    exact List.nodup_singleton _
  · rw [henqueued]
    exact List.mem_singleton.mpr rfl

end TokenTimer.Agent
