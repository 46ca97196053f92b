/-
  TokenTimer.Agent.Markers — the side-effect journal over whole runs of its
  operations (`packages/agent/src/job-journal/index.js`).

  A marker's file is named after its pair of ids, joined by a hyphen that an id
  may contain.  So two pairs may share a file: the later of them is not marked,
  since the file is there, and clearing either removes it.  As long as neither
  happens, the marker of a pair stays until the pair itself is cleared.

  The members of an entry that name a key container are only read by the sweep
  of containers and are left out of it, as its stage is.

  Main results:
    * `markers_kept` — in such a run every reached pair stays marked, its
        job unresolved, and a clearing leaves the others.
-/

import TokenTimer.Agent.CrashSafety
import TokenTimer.Lib.Runs

namespace TokenTimer.Agent.JobJournal

open Lib.Faulty Lib.Runs TokenTimer.Json

/-! ## §1. The other operations of the journal. -/

/-- `[A-Za-z0-9]`. -/
def isAlphanumeric (c : CodeUnit) : Bool :=
  (0x30 ≤ c.val && c.val ≤ 0x39) || (0x41 ≤ c.val && c.val ≤ 0x5A) || (0x61 ≤ c.val && c.val ≤ 0x7A)

/-- `WINDOWS_CNG_CONTAINER_NAME_PATTERN`. -/
def isContainerName (name : JsString) : Bool :=
  decide (1 ≤ name.length) && decide (name.length ≤ 128) &&
    name.all fun c => isAlphanumeric c || c = unit '_' || c = unit '-'

/-- `WINDOWS_STORE_NAME_PATTERN`. -/
def isStoreName (store : JsString) : Bool :=
  decide (1 ≤ store.length) && decide (store.length ≤ 64) &&
    store.all fun c => isAlphanumeric c || c = unit ' ' || c = unit '_' || c = unit '.' || c = unit '-'

/-- `readJournalFile` of one path: what cannot be read or parsed is `null`. -/
def readEntry (name : JsString) : OnHost (Option JournalEntry) := do
  let read ← attempt (op fun host =>
    match findMarker name host.journal with
    | none => .error .enoent
    | some file => .ok (file.content, host))
  match read with
  | .ok entry => pure entry
  | .error _ => pure none

/-- The entry again, with the members that are left out here. -/
def rewriteEntry (jobId attemptId : JsString) : OnHost Bool := do
  let name ← journalPathFor jobId attemptId
  let existing ← readEntry name
  match existing with
  | none => pure false
  | some entry => do
    -- The temporary file and its permissions.
    tick
    tick
    putMarker name entry
    pure true

def recordWindowsCngContainer (jobId attemptId containerName : JsString) (store : Option JsString) :
    OnHost Bool :=
  if isContainerName containerName = false then
    raise (.other (js "job-journal: containerName must match /^[A-Za-z0-9_-]\x7b1,128\x7d$/ (got " ++
      quoteJSONString containerName ++ js ")"))
  else if store.any (isStoreName · = false) = true then
    raise (.other (js "job-journal: store must match /^[A-Za-z0-9 _.-]\x7b1,64\x7d$/ (got " ++
      quoteJSONString (store.getD []) ++ js ")"))
  else rewriteEntry jobId attemptId

def markWindowsCngContainerReconciled (jobId attemptId : JsString) : OnHost Bool :=
  rewriteEntry jobId attemptId

def TERMINAL_STATUSES : List JsString :=
  [js "succeeded", js "failed", js "rejected", js "blocked", js "dry_run_complete",
    js "orphaned_unknown_effect", js "awaiting_issuer"]

/-- `clearJournalOnTerminal` with its status. -/
def clearOnStatus (jobId attemptId status : JsString) : OnHost Bool :=
  if status ∈ TERMINAL_STATUSES then clearJournalOnTerminal jobId attemptId else pure false

/-! ## §2. Runs. -/

inductive Call
  | mark (jobId attemptId stage : JsString)
  | record (jobId attemptId containerName : JsString) (store : Option JsString)
  | reconcile (jobId attemptId : JsString)
  | clear (jobId attemptId status : JsString)

def Call.run : Call → OnHost Bool
  | .mark jobId attemptId stage => do
    markSideEffectReached jobId attemptId stage
    pure true
  | .record jobId attemptId containerName store =>
    recordWindowsCngContainer jobId attemptId containerName store
  | .reconcile jobId attemptId => markWindowsCngContainerReconciled jobId attemptId
  | .clear jobId attemptId status => clearOnStatus jobId attemptId status

/-- The host, and the pairs that were marked and not cleared since. -/
structure State where
  host : Host
  reached : List (JsString × JsString)

/-- A call with what becomes of its file operations. -/
structure Event where
  call : Call
  script : List (Fault FileError)

def returned : Except (Stop FileError) Bool → Bool
  | .ok _ => true
  | .error _ => false

def next (s : State) (event : Event) : State :=
  let (result, host) := exec event.call.run event.script s.host
  match event.call with
  | .mark jobId attemptId _ =>
    ⟨host, if returned result = true then (jobId, attemptId) :: s.reached else s.reached⟩
  | .clear jobId attemptId status =>
    ⟨host, if status ∈ TERMINAL_STATUSES then s.reached.filter (· ≠ (jobId, attemptId)) else s.reached⟩
  | _ => ⟨host, s.reached⟩

def journalSystem : System State Event where
  init s := s.host.journal = [] ∧ s.reached = []
  step s event t := t = next s event

/-- `hasUnresolvedJournalForJob(jobId)`, where the files can be read. -/
def unresolvedForJob (host : Host) (jobId : JsString) : Prop :=
  (exec (hasUnresolvedJournalForJob jobId) [] host).1 = .ok true

/-- No other pair's marker stands under the pair's name. -/
def OwnName (journal : List JournalFile) (jobId attemptId : JsString) : Prop :=
  ∀ file ∈ journal, file.name = journalName jobId attemptId → file = markerOf jobId attemptId

/-- A pair that is marked or cleared shares its file with no other. -/
def Unshared (s : State) (event : Event) : Prop :=
  match event.call with
  | .mark jobId attemptId _ => OwnName s.host.journal jobId attemptId
  | .clear jobId attemptId status => status ∈ TERMINAL_STATUSES → OwnName s.host.journal jobId attemptId
  | _ => True

/-- An id of the protocol: `/^[A-Za-z0-9_.:-]{1,128}$/`. -/
def isProtocolId (id : JsString) : Bool :=
  decide (1 ≤ id.length) && decide (id.length ≤ 128) && id.all isIdUnit

/-- The ids of a call are ids of the protocol. -/
def Call.wellFormed : Call → Bool
  | .mark jobId attemptId _ => isProtocolId jobId && isProtocolId attemptId
  | .record jobId attemptId _ _ => isProtocolId jobId && isProtocolId attemptId
  | .reconcile jobId attemptId => isProtocolId jobId && isProtocolId attemptId
  | .clear jobId attemptId _ => isProtocolId jobId && isProtocolId attemptId

def Kept (s : State) : Prop :=
  ∀ pair ∈ s.reached, unresolvedForJob s.host pair.1 ∧ Marked s.host.journal pair.1 pair.2

/-- A clearing leaves the markers of the other pairs. -/
def ClearsItsOwn (x : Stepped State Event) : Prop :=
  ∀ jobId attemptId status, x.label.call = .clear jobId attemptId status →
    ∀ jobId' attemptId', (jobId', attemptId') ≠ (jobId, attemptId) →
      Marked x.before.host.journal jobId' attemptId' → Marked x.after.host.journal jobId' attemptId'

/-! ## §3. What the calls do to the journal. -/

variable {journal : List JournalFile} {jobId attemptId jobId' attemptId' stage status name : JsString}
  {host : Host} {s : State} {event : Event} {entry : JournalEntry}

theorem findMarker_some {file : JournalFile} (h : findMarker name journal = some file) :
    file ∈ journal ∧ file.name = name := by
  unfold findMarker at h
  exact ⟨List.mem_of_find?_eq_some h, by simpa using List.find?_some h⟩

variable {host' : Host} {P : Host → Prop}

theorem triple_journalPathFor :
    Triple P (journalPathFor jobId attemptId)
      (fun name host => (name = journalName jobId attemptId ∧ jobId ≠ []) ∧ P host) (fun _ => P) := by
  unfold journalPathFor
  refine Triple.ite (fun _ => Triple.raise fun _ h => h) fun hjob => ?_
  exact Triple.ite (fun _ => Triple.raise fun _ h => h) fun _ => Triple.pure fun _ h => ⟨⟨rfl, hjob⟩, h⟩

theorem triple_tick : Triple P (tick : OnHost Unit) (fun _ => P) (fun _ => P) :=
  Triple.tick (fun _ h => h) fun _ _ h => h

theorem triple_putMarker :
    Triple (fun host => host.journal = journal) (putMarker name entry)
      (fun _ host => host.journal = removeMarker name journal ++ [⟨name, some entry⟩])
      (fun _ host => host.journal = journal) := by
  refine Triple.op (fun host _ host' h heq => ?_) fun _ _ h => h
  cases heq
  rw [← h]

/-- A marking returns over a file of that name, or writes one. -/
theorem triple_mark :
    Triple (fun host => host.journal = journal) (markSideEffectReached jobId attemptId stage)
      (fun _ host => jobId ≠ [] ∧
        (((∃ file ∈ journal, file.name = journalName jobId attemptId) ∧ host.journal = journal) ∨
          host.journal = removeMarker (journalName jobId attemptId) journal ++ [markerOf jobId attemptId]))
      (fun _ host => host.journal = journal) := by
  unfold markSideEffectReached
  refine Triple.ite (fun _ => Triple.raise fun _ h => h) fun _ => ?_
  refine Triple.bind triple_tick fun _ => Triple.bind triple_tick fun _ => ?_
  refine Triple.bind triple_journalPathFor fun name => Triple.of_forall fun hname => ?_
  obtain ⟨rfl, hjob⟩ := hname
  refine Triple.bind (Triple.look (Q := fun seen host => seen.journal = journal ∧ host.journal = journal)
    fun _ h => ⟨h, h⟩) fun seen => Triple.of_forall fun hseen => ?_
  refine Triple.ite (fun hfound => Triple.pure fun _ h => ⟨hjob, .inl ⟨?_, h⟩⟩) fun _ => ?_
  · rw [hseen] at hfound
    obtain ⟨file, hfile⟩ := Option.isSome_iff_exists.mp hfound
    exact ⟨file, findMarker_some hfile⟩
  · refine Triple.bind triple_tick fun _ => Triple.bind triple_tick fun _ => ?_
    exact triple_putMarker.conseq (fun _ h => h) (fun _ _ h => ⟨hjob, .inr h⟩) fun _ _ h => h

theorem triple_rewriteEntry :
    Triple (fun host => host.journal = journal) (rewriteEntry jobId attemptId)
      (fun _ host => host.journal = journal ∨ ∃ file ∈ journal, file.name = journalName jobId attemptId ∧
        host.journal = removeMarker (journalName jobId attemptId) journal ++ [file])
      (fun _ host => host.journal = journal) := by
  unfold rewriteEntry
  refine Triple.bind triple_journalPathFor fun name => Triple.of_forall fun hname => ?_
  obtain ⟨rfl, -⟩ := hname
  refine Triple.bind (Q := fun existing host => (∀ entry, existing = some entry →
      (⟨journalName jobId attemptId, some entry⟩ : JournalFile) ∈ journal) ∧ host.journal = journal) ?_
    fun existing => Triple.of_forall fun hexisting => ?_
  · unfold readEntry
    refine Triple.bind (Q := fun read host => (∀ content, read = .ok content →
        (⟨journalName jobId attemptId, content⟩ : JournalFile) ∈ journal) ∧ host.journal = journal)
      (Triple.attempt (Triple.op (fun host content host' h heq => ?_) fun stop host h => ?_)) fun read => ?_
    · cases hfind : findMarker (journalName jobId attemptId) host.journal with
      | none =>
        rw [hfind] at heq
        cases heq
      | some file =>
        rw [hfind] at heq
        cases heq
        refine ⟨fun content hcontent => ?_, h⟩
        cases hcontent
        obtain ⟨hmem, hname⟩ := findMarker_some hfind
        rw [← hname, ← h]
        exact hmem
    · cases stop with
      | thrown error => exact ⟨nofun, h⟩
      | crashed => exact h
    · cases read with
      | ok entry => exact Triple.pure fun _ h => ⟨fun entry heq => h.1 (some entry) (congrArg _ heq), h.2⟩
      | error error => exact Triple.pure fun _ h => ⟨nofun, h.2⟩
  · cases existing with
    | none => exact Triple.pure fun _ h => .inl h
    | some entry =>
      refine Triple.bind triple_tick fun _ => Triple.bind triple_tick fun _ => ?_
      refine Triple.bind triple_putMarker fun _ => Triple.pure fun _ h => ?_
      exact .inr ⟨_, hexisting entry rfl, rfl, h⟩

theorem triple_clear :
    Triple (fun host => host.journal = journal) (clearJournalOnTerminal jobId attemptId)
      (fun _ host => host.journal = journal ∨
        host.journal = removeMarker (journalName jobId attemptId) journal)
      (fun _ host => host.journal = journal) := by
  unfold clearJournalOnTerminal
  refine Triple.bind triple_journalPathFor fun name => Triple.of_forall fun hname => ?_
  obtain ⟨rfl, -⟩ := hname
  refine Triple.bind (Q := fun removed host => (∀ error, removed = .error error → host.journal = journal) ∧
      (host.journal = journal ∨ host.journal = removeMarker (journalName jobId attemptId) journal))
    (Triple.attempt (Triple.op (fun host _ host' h heq => ?_) fun stop host h => ?_)) fun removed => ?_
  · cases hfind : findMarker (journalName jobId attemptId) host.journal with
    | none =>
      rw [hfind] at heq
      cases heq
    | some file =>
      rw [hfind] at heq
      cases heq
      exact ⟨nofun, .inr (by rw [← h])⟩
  · cases stop with
    | thrown error => exact ⟨fun _ _ => h, .inl h⟩
    | crashed => exact h
  · cases removed with
    | ok _ => exact Triple.pure fun _ h => h.2
    | error error =>
      cases error with
      | enoent => exact Triple.pure fun _ h => h.2
      | other message => exact Triple.raise fun _ h => h.1 _ rfl

/-- What a run of a program comes to, from its triple. -/
theorem exec_triple {α : Type} {m : OnHost α} {Q : α → Host → Prop} {E : Stop FileError → Host → Prop}
    (script : List (Fault FileError)) (host : Host) (h : Triple P m Q E) (hP : P host) :
    (∃ a, (exec m script host).1 = .ok a ∧ Q a (exec m script host).2) ∨
      ∃ stop, (exec m script host).1 = .error stop ∧ E stop (exec m script host).2 := by
  have hrun := h ⟨host, script⟩ hP
  unfold exec
  revert hrun
  rcases m ⟨host, script⟩ with ⟨stop | a, w⟩
  · exact fun hrun => .inr ⟨stop, rfl, hrun⟩
  · exact fun hrun => .inl ⟨a, rfl, hrun⟩

/-! ## §4. The invariant. -/

/-- What a run keeps: the journal holds markers, one under a name, and those of
    the pairs that were reached. -/
structure Sound (s : State) : Prop where
  markers : ∀ file ∈ s.host.journal, ∃ jobId attemptId, file = markerOf jobId attemptId
  single : ∀ file ∈ s.host.journal, ∀ file' ∈ s.host.journal, file.name = file'.name → file = file'
  reached : ∀ pair ∈ s.reached, pair.1 ≠ [] ∧ Marked s.host.journal pair.1 pair.2

theorem marked_inj (h : markerOf jobId attemptId = markerOf jobId' attemptId') :
    (jobId, attemptId) = (jobId', attemptId') := by
  injection h with _ hcontent
  injection hcontent with hentry
  injection hentry with hjob hattempt
  rw [hjob, hattempt]

/-- Where a pair has its name for itself, the other markers stay. -/
theorem marked_removed (h : Marked journal jobId' attemptId') (hown : OwnName journal jobId attemptId)
    (hne : (jobId', attemptId') ≠ (jobId, attemptId)) :
    Marked (removeMarker (journalName jobId attemptId) journal) jobId' attemptId' :=
  mem_removeMarker.mpr ⟨h, fun hname => hne (marked_inj (hown _ h hname))⟩

theorem mem_rewritten {file file' : JournalFile}
    (hsingle : ∀ file ∈ journal, ∀ file' ∈ journal, file.name = file'.name → file = file')
    (hfile : file ∈ journal) :
    file' ∈ removeMarker file.name journal ++ [file] ↔ file' ∈ journal := by
  rw [List.mem_append, List.mem_singleton, mem_removeMarker]
  constructor
  · rintro (⟨hmem, -⟩ | rfl)
    · exact hmem
    · exact hfile
  · intro hmem
    by_cases hname : file'.name = file.name
    · exact .inr (hsingle _ hmem _ hfile hname)
    · exact .inl ⟨hmem, hname⟩

theorem Sound.of_mem (h : Sound s) (hmem : ∀ file, file ∈ host'.journal ↔ file ∈ s.host.journal) :
    Sound ⟨host', s.reached⟩ :=
  ⟨fun file hfile => h.markers file ((hmem file).mp hfile),
    fun file hfile file' hfile' => h.single file ((hmem file).mp hfile) file' ((hmem file').mp hfile'),
    fun pair hpair => ⟨(h.reached pair hpair).1, (hmem _).mpr (h.reached pair hpair).2⟩⟩

theorem Sound.same (h : Sound s) (heq : host'.journal = s.host.journal) :
    Sound ⟨host', s.reached⟩ := h.of_mem fun file => by rw [heq]

theorem Sound.marked (h : Sound s) (hown : OwnName s.host.journal jobId attemptId) (hjob : jobId ≠ [])
    (heq : ((∃ file ∈ s.host.journal, file.name = journalName jobId attemptId) ∧ host'.journal = s.host.journal) ∨ host'.journal = removeMarker (journalName jobId attemptId) s.host.journal ++ [markerOf jobId attemptId]) :
    Sound ⟨host', (jobId, attemptId) :: s.reached⟩ := by
  rcases heq with ⟨⟨file, hfile, hname⟩, heq⟩ | heq
  · refine ⟨?_, ?_, fun pair hpair => ?_⟩
    · rw [heq]
      exact h.markers
    · rw [heq]
      exact h.single
    · rw [heq]
      rcases List.mem_cons.mp hpair with rfl | hpair
      · rw [hown file hfile hname] at hfile
        exact ⟨hjob, hfile⟩
      · exact h.reached pair hpair
  · have hmem : ∀ file, file ∈ host'.journal ↔
        (file ∈ s.host.journal ∧ file.name ≠ journalName jobId attemptId) ∨ file = markerOf jobId attemptId := by
      intro file
      rw [heq, List.mem_append, List.mem_singleton, mem_removeMarker]
    refine ⟨fun file hfile => ?_, fun file hfile file' hfile' hname => ?_, fun pair hpair => ?_⟩
    · rcases (hmem file).mp hfile with ⟨hold, -⟩ | rfl
      · exact h.markers file hold
      · exact ⟨jobId, attemptId, rfl⟩
    · rcases (hmem file).mp hfile with ⟨hold, hother⟩ | rfl
      · rcases (hmem file').mp hfile' with ⟨hold', -⟩ | rfl
        · exact h.single file hold file' hold' hname
        · exact absurd hname hother
      · rcases (hmem file').mp hfile' with ⟨-, hother⟩ | rfl
        · exact absurd hname.symm hother
        · rfl
    · rcases List.mem_cons.mp hpair with rfl | hpair
      · exact ⟨hjob, (hmem _).mpr (.inr rfl)⟩
      · obtain ⟨hjob', hmarked⟩ := h.reached pair hpair
        refine ⟨hjob', (hmem _).mpr ?_⟩
        by_cases heq : (pair.1, pair.2) = (jobId, attemptId)
        · injection heq with hj ha
          exact .inr (by rw [hj, ha])
        · exact .inl (mem_removeMarker.mp (marked_removed hmarked hown heq))

theorem Sound.cleared (h : Sound s) (hown : OwnName s.host.journal jobId attemptId)
    (heq : host'.journal = s.host.journal ∨ host'.journal = removeMarker (journalName jobId attemptId) s.host.journal) :
    Sound ⟨host', s.reached.filter (· ≠ (jobId, attemptId))⟩ := by
  have hsub : ∀ file, file ∈ host'.journal → file ∈ s.host.journal := by
    intro file hfile
    rcases heq with heq | heq
    · rw [heq] at hfile
      exact hfile
    · rw [heq] at hfile
      exact (mem_removeMarker.mp hfile).1
  refine ⟨fun file hfile => h.markers file (hsub file hfile), fun file hfile file' hfile' =>
    h.single file (hsub file hfile) file' (hsub file' hfile'), fun pair hpair => ?_⟩
  rw [List.mem_filter, decide_eq_true_eq] at hpair
  obtain ⟨hjob, hmarked⟩ := h.reached pair hpair.1
  refine ⟨hjob, ?_⟩
  rcases heq with heq | heq
  · rw [heq]
    exact hmarked
  · rw [heq]
    exact marked_removed hmarked hown hpair.2

/-! ## §5. The step. -/

theorem rewriteEntry_mem {script : List (Fault FileError)} (h : Sound s) (file : JournalFile) :
    file ∈ (exec (rewriteEntry jobId attemptId) script s.host).2.journal ↔ file ∈ s.host.journal := by
  rcases exec_triple script s.host triple_rewriteEntry rfl with ⟨_, -, hpost⟩ | ⟨_, -, hpost⟩
  · rcases hpost with heq | ⟨written, hwritten, hname, heq⟩
    · rw [heq]
    · rw [heq, ← hname]
      exact mem_rewritten h.single hwritten
  · rw [hpost]

theorem recordWindowsCngContainer_mem {script : List (Fault FileError)} {containerName : JsString}
    {store : Option JsString} (h : Sound s) (file : JournalFile) :
    file ∈ (exec (recordWindowsCngContainer jobId attemptId containerName store) script s.host).2.journal ↔
      file ∈ s.host.journal := by
  unfold recordWindowsCngContainer
  split
  · exact Iff.rfl
  · split
    · exact Iff.rfl
    · exact rewriteEntry_mem h file

theorem clear_journal (script : List (Fault FileError)) (host : Host) :
    (exec (clearJournalOnTerminal jobId attemptId) script host).2.journal = host.journal ∨
      (exec (clearJournalOnTerminal jobId attemptId) script host).2.journal =
        removeMarker (journalName jobId attemptId) host.journal := by
  rcases exec_triple script host triple_clear rfl with ⟨_, -, hpost⟩ | ⟨_, -, hpost⟩
  · exact hpost
  · exact .inl hpost

theorem Sound.next (h : Sound s) (hok : Unshared s event) : Sound (next s event) := by
  obtain ⟨call, script⟩ := event
  cases call with
  | mark jobId attemptId stage =>
    have hmark : Triple (fun host => host.journal = s.host.journal)
        (Call.run (.mark jobId attemptId stage))
        (fun _ host => jobId ≠ [] ∧
          (((∃ file ∈ s.host.journal, file.name = journalName jobId attemptId) ∧
              host.journal = s.host.journal) ∨
            host.journal = removeMarker (journalName jobId attemptId) s.host.journal ++
              [markerOf jobId attemptId]))
        (fun _ host => host.journal = s.host.journal) :=
      Triple.bind triple_mark fun _ => Triple.pure fun _ h => h
    have hrun := exec_triple script s.host hmark rfl
    unfold JobJournal.next
    rcases hrun with ⟨_, hresult, hjob, hpost⟩ | ⟨stop, hresult, hpost⟩
    · simp only [hresult, returned]
      exact h.marked hok hjob hpost
    · simp only [hresult, returned]
      exact h.same hpost
  | record jobId attemptId containerName store => exact h.of_mem fun file => recordWindowsCngContainer_mem h file
  | reconcile jobId attemptId => exact h.of_mem fun file => rewriteEntry_mem h file
  | clear jobId attemptId status =>
    unfold JobJournal.next Call.run clearOnStatus
    by_cases hstatus : status ∈ TERMINAL_STATUSES
    · simp only [if_pos hstatus]
      exact h.cleared (hok hstatus) (clear_journal script s.host)
    · simp only [if_neg hstatus]
      exact h.same rfl

/-! ## §6. The gate. -/

def scanned (file : JournalFile) : Option JournalEntry :=
  if ENTRY_FILE_SUFFIX.isSuffixOf file.name then file.unresolved else none

theorem returns_hasUnresolvedJournalForJob (hjob : jobId ≠ []) :
    Returns (hasUnresolvedJournalForJob jobId) host
      ((host.journal.filterMap scanned).any (·.jobId = jobId)) host := by
  have hfile : ∀ file ∈ host.journal, Returns (readJournalFile file) host (scanned file) host := by
    intro file _
    unfold readJournalFile scanned
    split
    · exact Returns.bind (Returns.attempt Returns.tick) Returns.pure
    · exact Returns.pure
  unfold hasUnresolvedJournalForJob scanUnresolvedJournalEntries listJournal
  rw [if_neg hjob]
  refine Returns.bind (Returns.bind (Returns.bind (Returns.attempt Returns.tick) (Returns.bind
    (Returns.attempt (Returns.op rfl)) Returns.pure)) (Returns.collect host.journal hfile)) Returns.pure

theorem unresolvedForJob_of_marked (h : Marked host.journal jobId attemptId) (hjob : jobId ≠ []) :
    unresolvedForJob host jobId := by
  unfold unresolvedForJob
  rw [(returns_hasUnresolvedJournalForJob hjob).exec]
  have hsuffix : ENTRY_FILE_SUFFIX.isSuffixOf (markerOf jobId attemptId).name = true := by
    rw [List.isSuffixOf_iff_suffix]
    exact ⟨_, rfl⟩
  have hscanned : scanned (markerOf jobId attemptId) = some ⟨jobId, attemptId, false⟩ := by
    unfold scanned
    rw [if_pos hsuffix]
    rfl
  refine congrArg Except.ok (List.any_eq_true.mpr ⟨⟨jobId, attemptId, false⟩, ?_, decide_eq_true rfl⟩)
  exact List.mem_filterMap.mpr ⟨_, h, hscanned⟩

theorem Sound.kept (h : Sound s) : Kept s := by
  intro pair hpair
  obtain ⟨hjob, hmarked⟩ := h.reached pair hpair
  exact ⟨unresolvedForJob_of_marked hmarked hjob, hmarked⟩

/-! ## §7. The runs. -/

/-- **MARKERS ARE KEPT**: in a run in which no pair that is marked or cleared
    shares its file with another pair's marker, every pair that was reached and
    not cleared since is marked and holds its job back, and a clearing leaves the
    markers of all other pairs. -/
theorem markers_kept {steps : List (Stepped State Event)} {start final : State}
    (h : Trace journalSystem start steps final) (hstart : journalSystem.init start)
    (hok : ∀ x ∈ steps, Unshared x.before x.label) :
    ∀ x ∈ steps, Kept x.after ∧ ClearsItsOwn x := by
  have hsound : ∀ t, Reachable journalSystem Unshared t → Sound t := by
    intro t ht
    refine ht.invariant (fun s hs => ⟨?_, ?_, ?_⟩) fun t event u ht hok hstep => ?_
    · rw [hs.1]
      exact fun _ hmem => nomatch hmem
    · rw [hs.1]
      exact fun _ hmem => nomatch hmem
    · rw [hs.2]
      exact fun _ hmem => nomatch hmem
    · rw [show u = next t event from hstep]
      exact ht.next hok
  refine h.forall_step_within hstart hok fun x hreach hunshared hstep => ?_
  have hafter : x.after = next x.before x.label := hstep
  have hbefore := hsound x.before hreach
  refine ⟨by rw [hafter]; exact (hbefore.next hunshared).kept, ?_⟩
  intro jobId attemptId status hcall jobId' attemptId' hne hmarked
  obtain ⟨before, ⟨call, script⟩, after⟩ := x
  dsimp only at hcall hmarked hafter hunshared ⊢
  subst hcall hafter
  unfold next Call.run clearOnStatus
  by_cases hstatus : status ∈ TERMINAL_STATUSES
  · simp only [if_pos hstatus]
    rcases clear_journal script before.host with heq | heq
    · rw [heq]
      exact hmarked
    · rw [heq]
      exact marked_removed hmarked (hunshared hstatus) hne
  · simp only [if_neg hstatus]
    exact hmarked

def freshHost : Host where
  files := ∅
  journal := []
  outbox := ⟨[], [], 0, []⟩
  clock := 0
  nextNonce := 0
  answers := ⟨[], [], [], [], [], []⟩
  attempt := ([], [])
  history := []

def twoAttempts : List Event :=
  [⟨.mark (js "a") (js "b") (js "keygen"), []⟩, ⟨.mark (js "a") (js "c") (js "keygen"), []⟩,
    ⟨.record (js "a") (js "b") (js "tt-1") (some (js "My")), []⟩,
    ⟨.clear (js "a") (js "c") (js "failed"), []⟩]

def firstState : State := ⟨freshHost, []⟩

def played (s : State) : List Event → List (Stepped State Event)
  | [] => []
  | event :: rest => ⟨s, event, next s event⟩ :: played (next s event) rest

theorem trace_played (events : List Event) :
    ∀ (steps : List (Stepped State Event)) (s : State), Trace journalSystem firstState steps s →
      ∃ final, Trace journalSystem firstState (steps ++ played s events) final := by
  induction events with
  | nil =>
    intro steps s h
    refine ⟨s, ?_⟩
    rw [played, List.append_nil]
    exact h
  | cons event rest ih =>
    intro steps s h
    obtain ⟨final, hfinal⟩ := ih (steps ++ [⟨s, event, next s event⟩]) (next s event) (.snoc h rfl)
    refine ⟨final, ?_⟩
    rw [List.append_assoc] at hfinal
    exact hfinal

/-- A computed form of `OwnName`. -/
def ownName (journal : List JournalFile) (jobId attemptId : JsString) : Bool :=
  journal.all fun file => !(file.name = journalName jobId attemptId) || file = markerOf jobId attemptId

theorem ownName_iff : ownName journal jobId attemptId = true ↔ OwnName journal jobId attemptId := by
  unfold ownName OwnName
  simp only [List.all_eq_true, Bool.or_eq_true, Bool.not_eq_true', decide_eq_false_iff_not,
    decide_eq_true_eq, imp_iff_not_or]

def unshared (s : State) (event : Event) : Bool :=
  match event.call with
  | .mark jobId attemptId _ => ownName s.host.journal jobId attemptId
  | .clear jobId attemptId _ => ownName s.host.journal jobId attemptId
  | _ => true

theorem Unshared.of_check (h : unshared s event = true) : Unshared s event := by
  obtain ⟨call, script⟩ := event
  cases call with
  | mark => exact ownName_iff.mp h
  | clear => exact fun _ => ownName_iff.mp h
  | record => trivial
  | reconcile => trivial

theorem markers_kept_twoAttempts :
    (played firstState twoAttempts).Forall fun x => Kept x.after ∧ ClearsItsOwn x := by
  obtain ⟨final, hfinal⟩ := trace_played twoAttempts [] firstState .nil
  refine List.forall_iff_forall_mem.mpr
    (markers_kept hfinal ⟨rfl, rfl⟩ fun x hx => Unshared.of_check ?_)
  have hall : (played firstState twoAttempts).all (fun x => unshared x.before x.label) = true := by decide
  exact List.all_eq_true.mp hall x hx

/-- The pairs `a-b`, `c` and `a`, `b-c` have one file. -/
def sharedFile : List Event :=
  [⟨.mark (js "a-b") (js "c") (js "keygen"), []⟩, ⟨.clear (js "a") (js "b-c") (js "failed"), []⟩]

/-- Not every run of calls with ids of the protocol keeps the markers. -/
theorem markers_not_kept :
    ¬ ∀ (steps : List (Stepped State Event)) (start final : State), journalSystem.init start →
      Trace journalSystem start steps final → (∀ x ∈ steps, x.label.call.wellFormed = true) →
      ∀ x ∈ steps, Kept x.after ∧ ClearsItsOwn x := by
  intro hall
  obtain ⟨final, hfinal⟩ := trace_played sharedFile [] firstState .nil
  have hids : (played firstState sharedFile).all (fun x => x.label.call.wellFormed) = true := by decide
  have hkept := hall _ firstState final ⟨rfl, rfl⟩ hfinal (List.all_eq_true.mp hids)
  have hlast := hkept ⟨next firstState ⟨.mark (js "a-b") (js "c") (js "keygen"), []⟩,
    ⟨.clear (js "a") (js "b-c") (js "failed"), []⟩,
    next (next firstState ⟨.mark (js "a-b") (js "c") (js "keygen"), []⟩)
      ⟨.clear (js "a") (js "b-c") (js "failed"), []⟩⟩ (List.mem_cons_of_mem _ List.mem_cons_self)
  have hpair := (hlast.1 (js "a-b", js "c") (by decide)).2
  exact absurd hpair (by unfold Marked; decide)

end TokenTimer.Agent.JobJournal
