/-
  TokenTimer.Agent.OutboxRetries — which outcomes the agent gives up.

  A drain moves an entry to dead-letter on an error classified permanent, or
  after at least `MIN_ATTEMPTS_BEFORE_AGE_QUARANTINE` failed transmissions.  The
  retention pass moves entries by `createdAt` (and unreadable files by mtime)
  whatever their attempts are: an agent that was off for a week gives up
  outcomes it never sent.  Runs whose retention passes find no aged entry with
  fewer attempts give no outcome up without real retries.

  The count is of failed transmissions in the history; `Admissible` ties the
  `attempts` member of every entry on disk or in a drain to it.

  Main results:
    * `given_up_after_retries` — the runs in which the floor holds.
-/

import TokenTimer.Agent.OutboxSafety

namespace TokenTimer.Agent

open Lib.Faulty Lib.Runs TokenTimer.Json

/-- A move to dead-letter with a reason: the last error was permanent, the outbox
    held too many entries, or enough transmissions had failed. -/
def GivenUpFairly (earlier : List Event) (id : JsString) (cause : QuarantineCause) : Prop :=
  cause.permanent = true ∨ cause.held > MAX_OUTBOX_ENTRIES ∨
    failures id earlier ≥ MIN_ATTEMPTS_BEFORE_AGE_QUARANTINE

/-- Every move to dead-letter of the history has a reason. -/
def AllGivenUpFairly (history : List Event) : Prop :=
  ∀ earlier id cause later, history = earlier ++ .quarantined id cause :: later →
    GivenUpFairly earlier id cause

/-- A retention pass finds the outbox over its cap, or enough attempts on every
    entry past the age limit. -/
def RetentionAfterRetries (process : Process) : Call → Prop
  | .pruneStale clock _ =>
    heldEntries process.disk.outbox > MAX_OUTBOX_ENTRIES ∨
      ∀ f ∈ process.disk.outbox, ∀ e, f.content = .entry e →
        olderThan MAX_OUTBOX_AGE_MS clock e.createdAt.time = true ∨ AgedFile clock f →
        e.attempts.getD 0 ≥ MIN_ATTEMPTS_BEFORE_AGE_QUARANTINE
  | _ => True

theorem nameId_entryName (id : JsString) : nameId (entryName id) = id := by
  unfold nameId entryName
  rw [List.length_append, Nat.add_sub_cancel]
  exact List.take_left

/-- An entry is chosen by the retention pass for its age, or because the list is
    over the cap. -/
theorem mem_idsToQuarantine {entries : List Entry} {nowMs : Int} {id : JsString}
    (h : id ∈ idsToQuarantine entries nowMs) :
    ∃ e ∈ entries, e.id = id ∧
      (olderThan MAX_OUTBOX_AGE_MS nowMs e.createdAt.time = true ∨
        entries.length > MAX_OUTBOX_ENTRIES) := by
  unfold idsToQuarantine inSet at h
  rw [List.mem_eraseDups] at h
  obtain ⟨⟨e, i⟩, hmem, rfl⟩ := List.mem_map.mp h
  obtain ⟨hin, hwhy⟩ := List.mem_filter.mp hmem
  refine ⟨e, List.fst_mem_of_mem_zipIdx hin, rfl, ?_⟩
  rcases Bool.or_eq_true _ _ ▸ hwhy with hage | hover
  · exact .inl hage
  · have := of_decide_eq_true hover
    right
    omega

theorem File.content_of_readable {f : File} {e : Entry} (h : f.readable = some e) :
    f.content = .entry e := by
  unfold File.readable at h
  split_ifs at h
  cases hc : f.content with
  | entry e' =>
    rw [hc] at h
    exact congrArg Content.entry (Option.some.inj h)
  | object | text =>
    rw [hc] at h
    cases h

theorem pruneMoves_of_retries {process : Process} {clock : Int} {script : List (Fault FileError)}
    (hs : Safe GivenUpFairly process)
    (hretries : RetentionAfterRetries process (.pruneStale clock script)) :
    PruneMoves GivenUpFairly process clock := by
  rintro entries id ⟨hlisted, hwhy⟩ later hlater
  rcases hretries with hheld | hretried
  · exact .inr (.inl hheld)
  · -- An admissible entry with enough attempts has had enough failures by now.
    have hfair : ∀ e, Admissible process.disk.history e → e.id = id →
        e.attempts.getD 0 ≥ MIN_ATTEMPTS_BEFORE_AGE_QUARANTINE →
        GivenUpFairly later.history id ⟨false, heldEntries process.disk.outbox⟩ := by
      rintro e ha rfl hattempts
      exact .inr (.inr (hattempts.trans (ha.mono hlater.grown).attempts))
    rcases hwhy with hid | ⟨f, hf, haged, hid⟩
    · obtain ⟨e, he, heid, hage | hover⟩ := mem_idsToQuarantine hid
      · obtain ⟨f, hf, -, hread⟩ := hlisted.1 e he
        exact hfair e ((hs.sound.outbox f hf).listed hread).1 heid
          (hretried f hf e (File.content_of_readable hread) (.inl hage))
      · right; left
        exact lt_of_lt_of_le hover hlisted.2
    · obtain ⟨-, e, hc, hn, ha⟩ := hs.sound.outbox f hf
      refine hfair e ha ?_ (hretried f hf e hc (.inr haged))
      rw [← hid, hn, nameId_entryName]

/-- **NO OUTCOME IS GIVEN UP WITHOUT REAL RETRIES**, in every run whose retention
    passes find enough attempts on every entry past the age limit (or the outbox
    over its cap). -/
theorem given_up_after_retries (bytes : Content → Nat)
    (isPermanent : Failure → Entry → Option Bool) (process : Process)
    (h : Reachable (outboxSystem bytes isPermanent) RetentionAfterRetries process) :
    AllGivenUpFairly process.disk.history := by
  have hsafe : Safe GivenUpFairly process := by
    refine h.invariant ?_ ?_
    · rintro _ rfl
      exact .fresh
    · rintro s call _ hs hok rfl
      refine safe_call hs ⟨fun _ _ => .inl rfl, fun _ _ hk => .inr (.inr hk)⟩ ?_
      rintro clock script rfl
      exact pruneMoves_of_retries hs hok
  exact hsafe.sound.justified

/-- The demo of a permanent error: no retention pass, one fair move. -/
theorem given_up_after_retries_demo :
    AllGivenUpFairly demoProcess.disk.history ∧
      demoProcess.disk.deadLetter.length = 1 := by
  refine ⟨given_up_after_retries demoBytes
    (fun failure _ => some (defaultIsPermanentFailure failure)) demoProcess ?_, by decide +kernel⟩
  refine (Reachable.of_init rfl).run (Run.of_foldl_of_forall (fun _ _ => rfl) demoCalls ?_ _)
  intro call hcall process
  simp only [demoCalls, List.mem_cons, List.not_mem_nil, or_false] at hcall
  rcases hcall with rfl | rfl | rfl | rfl | rfl | rfl <;> trivial

/-- An outcome is enqueued, the host is off for eight days, and the first
    retention pass runs. -/
def offlineCalls : List Call :=
  [ .enqueue demoDraft 1767225600000 [],
    .crash,
    .pruneStale (1767225600000 + 8 * 24 * 60 * 60000) [] ]

def offlineProcess : Process :=
  offlineCalls.foldl (Process.call demoBytes fun failure _ =>
    some (defaultIsPermanentFailure failure)) .fresh

/-- A move without a permanent error, from an outbox within its cap, after fewer
    failures than the floor. -/
def Event.isHasty (history : List Event) : Event → Bool
  | .quarantined id cause =>
    !cause.permanent && decide (cause.held ≤ MAX_OUTBOX_ENTRIES) &&
      decide (failures id history < MIN_ATTEMPTS_BEFORE_AGE_QUARANTINE)
  | _ => false

theorem not_isHasty_of_fair {history : List Event} (h : AllGivenUpFairly history) {event : Event}
    (hmem : event ∈ history) : event.isHasty history = false := by
  obtain ⟨earlier, later, heq⟩ := List.append_of_mem hmem
  cases event with
  | quarantined id cause =>
    have hfewer : failures id earlier ≤ failures id history := by
      rw [heq, failures_append]
      exact Nat.le_add_right _ _
    unfold Event.isHasty
    rcases h earlier id cause later heq with hperm | hheld | hretried
    · simp [hperm]
    · simp [Nat.not_le.mpr hheld]
    · simp [Nat.not_lt.mpr (hretried.trans hfewer)]
  | _ => rfl

/-- **GIVEN UP WITHOUT A SINGLE ATTEMPT**: the retention pass moves the entry by
    its `createdAt`. -/
theorem given_up_without_an_attempt :
    ¬ ∀ (bytes : Content → Nat) (isPermanent : Failure → Entry → Option Bool) (process : Process),
      Reachable (outboxSystem bytes isPermanent) anyStep process →
        AllGivenUpFairly process.disk.history := by
  intro h
  have hfair := h demoBytes (fun failure _ => some (defaultIsPermanentFailure failure))
    offlineProcess ((Reachable.of_init rfl).run (Run.of_foldl (fun _ _ => rfl) offlineCalls _))
  have hhasty : offlineProcess.disk.history.any
      (Event.isHasty offlineProcess.disk.history) = true := by decide +kernel
  obtain ⟨event, hmem, hevent⟩ := List.any_eq_true.mp hhasty
  rw [not_isHasty_of_fair hfair hmem] at hevent
  cases hevent

end TokenTimer.Agent
