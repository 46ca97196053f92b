/-
  TokenTimer.Agent.SequenceAllocator — the numbers of outbound messages
  (`createSequenceAllocator` of `packages/agent/src/config/index.js`).

  A process reads the state file once, when it starts, and resumes after what it says.
  It hands out values from memory and writes a new bound in front of each block of 64;
  the write replaces the file by a rename, and may fail or be cut off on either side of
  it.  Between two processes the file may become anything.

  A file that cannot be read as a bound is read as 0, and the bound on disk is never
  compared with another one: the next process then starts from 1 again.

  Main results:
    * `sequence_increasing_iff` — exactly the runs in which no value comes again after
        a restart, and that all runs are so whose file is
        never replaced by a lower one.
-/

import TokenTimer.Lib.Runs
import Mathlib.Algebra.Group.Nat.Defs

namespace TokenTimer.Agent.Sequence

open Lib.Runs

/-! ## §1. The allocator. -/

def SEQUENCE_RESERVATION_BLOCK : Nat := 64

def MAX_SAFE_INTEGER : Nat := 9007199254740991

/-- The `Number` next to a natural number, of two the even one. -/
def number (n : Nat) : Nat :=
  let unit := 2 ^ (n.log2 - 52)
  let lower := n / unit
  let rest := 2 * (n % unit)
  (if rest < unit ∨ rest = unit ∧ lower % 2 = 0 then lower else lower + 1) * unit

/-- The state file, by what a process finds in it: `reservedThrough` of the JSON of a
    regular file of at most `MAX_SEQUENCE_STATE_BYTES` when that is an integer. -/
inductive StateFile
  | absent | unreadable | notAnInteger
  | integer (reservedThrough : Int)
deriving DecidableEq

def readReservedThrough : StateFile → Nat
  | .integer value => if 0 ≤ value ∧ value ≤ MAX_SAFE_INTEGER then value.toNat else 0
  | .absent | .unreadable | .notAnInteger => 0

/-- How `writeFileAtomically` ends: it returns, throws, or the process crashes in it,
    before the rename or after. -/
inductive Write
  | done
  | failed (renamed : Bool)
  | crashed (renamed : Bool)

def Write.renamed : Write → Bool
  | .done => true
  | .failed renamed | .crashed renamed => renamed

/-- The file after `reserveThrough(target)`. -/
def reserveThrough (target : Nat) (write : Write) (file : StateFile) : StateFile :=
  if write.renamed then .integer target else file

structure Allocator where
  lastAllocated : Nat
  reservedThrough : Nat
deriving DecidableEq

def createSequenceAllocator (file : StateFile) : Allocator :=
  ⟨readReservedThrough file, readReservedThrough file⟩

def Allocator.candidate (a : Allocator) : Nat := number (a.lastAllocated + 1)

/-- What `next` leaves: the process unless it crashed, the file, and what it returned. -/
def Allocator.next (a : Allocator) (write : Write) (file : StateFile) :
    Option Allocator × StateFile × Option Nat :=
  if a.reservedThrough < a.candidate then
    let target := number (number (a.candidate + SEQUENCE_RESERVATION_BLOCK) - 1)
    let file := reserveThrough target write file
    match write with
    | .done => (some ⟨a.candidate, target⟩, file, some a.candidate)
    | .failed _ => (some a, file, none)
    | .crashed _ => (none, file, none)
  else (some { a with lastAllocated := a.candidate }, file, some a.candidate)

/-! ## §2. Processes, one after the other. -/

/-- The directory, the process that runs, the bound it read when it started, and the
    values handed out by it and before it. -/
structure State where
  file : StateFile
  process : Option Allocator
  startedFrom : Nat
  current : List Nat
  earlier : List Nat
deriving DecidableEq

inductive Event
  | start
  | next (write : Write)
  /-- The process ends, or crashes between two calls. -/
  | stop
  /-- The file is replaced while no process runs. -/
  | replace (file : StateFile)

def next (s : State) : Event → Option State
  | .start =>
    if s.process = none then
      some { s with
        process := some (createSequenceAllocator s.file)
        startedFrom := readReservedThrough s.file
        current := []
        earlier := s.earlier ++ s.current }
    else none
  | .next write => s.process.map fun a =>
    let (process, file, returned) := a.next write s.file
    { s with process, file, current := s.current ++ returned.toList }
  | .stop => s.process.map fun _ => { s with process := none }
  | .replace file => if s.process = none then some { s with file } else none

def allocator : System State Event where
  init s := s.process = none ∧ s.current = [] ∧ s.earlier = []
  step s a t := next s a = some t

/-- What this process handed out is greater than what the processes before it did. -/
def Increasing (s : State) : Prop := ∀ v ∈ s.current, ∀ w ∈ s.earlier, w < v

/-- A call that returns a value does so in a process that started from a bound no less
    than the values handed out before it. -/
def ReadsOn (s : State) : Event → Prop
  | .next write => ∀ a, s.process = some a → (a.next write s.file).2.2 ≠ none →
      ∀ w ∈ s.earlier, w ≤ s.startedFrom
  | _ => True

/-- A file that is put in place says no less than was handed out, and no reservation
    comes to the end of the safe integers. -/
def Undisturbed (s : State) : Event → Prop
  | .replace file => ∀ w ∈ s.earlier ++ s.current, w ≤ readReservedThrough file
  | .next _ => ∀ a ∈ s.process, a.lastAllocated + SEQUENCE_RESERVATION_BLOCK < MAX_SAFE_INTEGER
  | _ => True

instance (s : State) : Decidable (Increasing s) :=
  inferInstanceAs (Decidable (∀ v ∈ s.current, ∀ w ∈ s.earlier, w < v))

instance (s : State) (a : Event) : Decidable (Undisturbed s a) :=
  match a with
  | .replace file =>
    inferInstanceAs (Decidable (∀ w ∈ s.earlier ++ s.current, w ≤ readReservedThrough file))
  | .next _ => inferInstanceAs (Decidable (∀ a ∈ s.process, _ < MAX_SAFE_INTEGER))
  | .start | .stop => instDecidableTrue

/-! ## §3. What a process hands out. -/

theorem number_of_safe {n : Nat} (h : n ≤ MAX_SAFE_INTEGER) : number n = n := by
  have hlog : n.log2 - 52 = 0 := by
    rcases Nat.eq_zero_or_pos n with rfl | hpos
    · decide
    · have : n.log2 < 53 := (Nat.log2_lt (by omega)).mpr (Nat.lt_of_le_of_lt h (by decide))
      omega
  simp [number, hlog, Nat.mod_one]

theorem readReservedThrough_le (file : StateFile) : readReservedThrough file ≤ MAX_SAFE_INTEGER := by
  cases file with
  | integer value =>
    simp only [readReservedThrough]
    split <;> omega
  | absent | unreadable | notAnInteger => exact Nat.zero_le _

/-- Up to the end of the safe integers a candidate is the next number, and the last one
    comes again and again. -/
theorem candidate_eq {a : Allocator} (h : a.lastAllocated ≤ MAX_SAFE_INTEGER + 1) :
    a.candidate = min (a.lastAllocated + 1) (MAX_SAFE_INTEGER + 1) := by
  unfold Allocator.candidate
  rcases Nat.lt_or_ge a.lastAllocated MAX_SAFE_INTEGER with hlt | hge
  · rw [number_of_safe hlt, Nat.min_eq_left (by omega)]
  · obtain h' | h' : a.lastAllocated = MAX_SAFE_INTEGER ∨ a.lastAllocated = MAX_SAFE_INTEGER + 1 := by omega
    all_goals
      rw [h']
      decide +kernel

/-- A call returns its candidate, which is then the last value, or nothing, which
    leaves the process as it was or ends it. -/
theorem Allocator.next_cases (a : Allocator) (write : Write) (file : StateFile) :
    (∃ a' file', a.next write file = (some a', file', some a.candidate) ∧ a'.lastAllocated = a.candidate) ∨
    ∃ process file', a.next write file = (process, file', none) ∧ (process = some a ∨ process = none) := by
  unfold Allocator.next
  split
  · cases write with
    | done => exact .inl ⟨_, _, rfl, rfl⟩
    | failed renamed => exact .inr ⟨_, _, rfl, .inl rfl⟩
    | crashed renamed => exact .inr ⟨_, _, rfl, .inr rfl⟩
  · exact .inl ⟨_, _, rfl, rfl⟩

/-- A process goes on from where it started, and its first value is the next one. -/
structure Inv (s : State) : Prop where
  last_le : ∀ a, s.process = some a →
    s.startedFrom ≤ a.lastAllocated ∧ a.lastAllocated ≤ MAX_SAFE_INTEGER + 1
  last_eq : ∀ a, s.process = some a → s.current = [] → a.lastAllocated = s.startedFrom
  current_gt : ∀ v ∈ s.current, s.startedFrom < v
  first_mem : s.current ≠ [] → s.startedFrom + 1 ∈ s.current
  started_le : s.startedFrom ≤ MAX_SAFE_INTEGER ∨ s.process = none ∧ s.current = []

variable {s t : State} {a : Event}

theorem Inv.step (h : Inv s) (hstep : next s a = some t) : Inv t := by
  cases a with
  | start =>
    obtain ⟨-, rfl⟩ := of_guard hstep
    have hle := readReservedThrough_le s.file
    refine ⟨fun a ha => ?_, fun a ha _ => ?_, by simp, fun hne => absurd rfl hne, .inl hle⟩
    · obtain rfl := Option.some.inj ha
      exact ⟨Nat.le_refl _, Nat.le_succ_of_le hle⟩
    · obtain rfl := Option.some.inj ha
      rfl
  | stop =>
    obtain ⟨p, hp, rfl⟩ := Option.map_eq_some_iff.mp hstep
    have hle := h.started_le.resolve_right fun hn => by rw [hn.1] at hp; cases hp
    exact ⟨fun _ ha => (by cases ha), fun _ ha => (by cases ha), h.current_gt, h.first_mem, .inl hle⟩
  | replace file =>
    obtain ⟨-, rfl⟩ := of_guard hstep
    exact ⟨h.last_le, h.last_eq, h.current_gt, h.first_mem, h.started_le⟩
  | next write =>
    obtain ⟨p, hp, rfl⟩ := Option.map_eq_some_iff.mp hstep
    obtain ⟨hstart, hlast⟩ := h.last_le p hp
    have hle := h.started_le.resolve_right fun hn => by rw [hn.1] at hp; cases hp
    have hcandidate := candidate_eq hlast
    obtain ⟨p', file', heq, hp'⟩ | ⟨process, file', heq, hprocess⟩ := p.next_cases write s.file
    · simp only [heq, Option.toList_some]
      refine ⟨fun a ha => ?_, fun a _ hnil => by simp at hnil, fun v hv => ?_, fun _ => ?_, .inl hle⟩
      · obtain rfl := Option.some.inj ha
        simp only [hp']
        omega
      · obtain hv | hv := List.mem_append.mp hv
        · exact h.current_gt v hv
        · rw [List.mem_singleton.mp hv]
          show s.startedFrom < _
          omega
      · by_cases hnil : s.current = []
        · rw [hnil, List.nil_append, List.mem_singleton, hcandidate, h.last_eq p hp hnil]
          show s.startedFrom + 1 = _
          omega
        · exact List.mem_append_left _ (h.first_mem hnil)
    · simp only [heq, Option.toList_none, List.append_nil]
      refine ⟨fun a ha => ?_, fun a ha => ?_, h.current_gt, h.first_mem, .inl hle⟩
      all_goals
        obtain rfl | rfl := hprocess
        · obtain rfl := Option.some.inj ha
          first | exact h.last_le _ hp | exact h.last_eq _ hp
        · cases ha

theorem reachable_inv {ok : State → Event → Prop} (h : Reachable allocator ok s) : Inv s :=
  h.invariant (fun _ hs => ⟨by simp [hs.1], by simp [hs.1], by simp [hs.2.1], by simp [hs.2.1],
    .inr ⟨hs.1, hs.2.1⟩⟩ : ∀ s, allocator.init s → Inv s) fun _ _ _ hinv _ hstep => hinv.step hstep

/-! ## §4. No value comes again. -/

/-- One step: the values stay above the earlier ones exactly if the step reads on. -/
theorem increasing_step (hinv : Inv s) (h : Increasing s) (hstep : next s a = some t) :
    Increasing t ↔ ReadsOn s a := by
  cases a with
  | start =>
    obtain ⟨-, rfl⟩ := of_guard hstep
    simp [Increasing, ReadsOn]
  | stop =>
    obtain ⟨p, -, rfl⟩ := Option.map_eq_some_iff.mp hstep
    exact iff_of_true h trivial
  | replace file =>
    obtain ⟨-, rfl⟩ := of_guard hstep
    exact iff_of_true h trivial
  | next write =>
    obtain ⟨p, hp, rfl⟩ := Option.map_eq_some_iff.mp hstep
    obtain ⟨hstart, hlast⟩ := hinv.last_le p hp
    have hle := hinv.started_le.resolve_right fun hn => by rw [hn.1] at hp; cases hp
    have hcandidate := candidate_eq hlast
    obtain ⟨p', file', heq, hp'⟩ | ⟨process, file', heq, -⟩ := p.next_cases write s.file
    · have hreads : ReadsOn s (.next write) ↔ ∀ w ∈ s.earlier, w ≤ s.startedFrom := by
        simp [ReadsOn, hp, heq]
      rw [hreads]
      simp only [heq, Option.toList_some]
      constructor
      · intro hafter w hw
        by_cases hnil : s.current = []
        · have hlt := hafter p.candidate (by simp) w hw
          have := hinv.last_eq p hp hnil
          omega
        · have hlt := h _ (hinv.first_mem hnil) w hw
          omega
      · intro hreads v hv w hw
        obtain hv | hv := List.mem_append.mp hv
        · exact h v hv w hw
        · have hw := hreads w hw
          rw [List.mem_singleton.mp hv]
          omega
    · simpa [ReadsOn, hp, heq, Increasing] using h

/-- Along steps that read on, every state is so. -/
theorem reachable_increasing (h : Reachable allocator ReadsOn s) : Increasing s := by
  obtain ⟨s₀, hinit, hrun⟩ := h
  have hstart : Reachable allocator ReadsOn s₀ := ⟨s₀, hinit, .refl _⟩
  have hinv := reachable_inv hstart
  refine (hrun.stable (fun _ _ _ hI _ hst => hI.step hst)
    (fun _ _ _ hI hQ hok hst => (increasing_step hI hQ hst).mpr hok) hinv ?_).2
  simp [Increasing, hinit.2.1]

/-- The file says no less than was handed out, and a process goes on above that. -/
structure Covered (s : State) : Prop where
  values : ∀ w ∈ s.earlier ++ s.current, w ≤ readReservedThrough s.file
  process : ∀ a, s.process = some a → (∀ w ∈ s.earlier ++ s.current, w ≤ a.lastAllocated) ∧
    a.lastAllocated ≤ a.reservedThrough ∧ a.reservedThrough ≤ readReservedThrough s.file ∧
    ∀ w ∈ s.earlier, w ≤ s.startedFrom

theorem target_eq {a : Allocator} (h : a.lastAllocated + SEQUENCE_RESERVATION_BLOCK < MAX_SAFE_INTEGER) :
    a.candidate = a.lastAllocated + 1 ∧
      number (number (a.candidate + SEQUENCE_RESERVATION_BLOCK) - 1) =
        a.lastAllocated + SEQUENCE_RESERVATION_BLOCK := by
  have hblock : SEQUENCE_RESERVATION_BLOCK = 64 := rfl
  have hcandidate : a.candidate = a.lastAllocated + 1 := number_of_safe (by omega)
  rw [hcandidate, number_of_safe (n := a.lastAllocated + 1 + _) (by omega), number_of_safe (by omega)]
  omega

theorem readReservedThrough_integer {n : Nat} (h : n ≤ MAX_SAFE_INTEGER) :
    readReservedThrough (.integer n) = n := by
  simp only [readReservedThrough]
  rw [if_pos (by omega), Int.toNat_natCast]

theorem Covered.step (h : Covered s) (hok : Undisturbed s a) (hstep : next s a = some t) : Covered t := by
  cases a with
  | start =>
    obtain ⟨-, rfl⟩ := of_guard hstep
    refine ⟨by simpa using h.values, fun a ha => ?_⟩
    obtain rfl := Option.some.inj ha
    exact ⟨by simpa [createSequenceAllocator] using h.values, Nat.le_refl _, Nat.le_refl _, h.values⟩
  | stop =>
    obtain ⟨p, -, rfl⟩ := Option.map_eq_some_iff.mp hstep
    exact ⟨h.values, fun _ ha => (by cases ha)⟩
  | replace file =>
    obtain ⟨hnone, rfl⟩ := of_guard hstep
    exact ⟨hok, fun a ha => (by rw [hnone] at ha; cases ha)⟩
  | next write =>
    obtain ⟨p, hp, rfl⟩ := Option.map_eq_some_iff.mp hstep
    obtain ⟨hvalues, hlast, hreserved, hearlier⟩ := h.process p hp
    have hsafe := hok p hp
    obtain ⟨hcandidate, htarget⟩ := target_eq hsafe
    have hblock : SEQUENCE_RESERVATION_BLOCK = 64 := rfl
    have hread := readReservedThrough_integer (Nat.le_of_lt hsafe)
    -- What is handed out next is above everything before it.
    have hnext : ∀ w ∈ s.earlier ++ (s.current ++ [p.candidate]), w ≤ p.candidate := by
      rw [← List.append_assoc, List.forall_mem_append, List.forall_mem_singleton]
      exact ⟨fun w hw => by have := hvalues w hw; omega, Nat.le_refl _⟩
    unfold Allocator.next
    rw [htarget]
    by_cases hcross : p.reservedThrough < p.candidate
    · have hwrite : p.reservedThrough ≤
          readReservedThrough (reserveThrough (p.lastAllocated + SEQUENCE_RESERVATION_BLOCK) write s.file) := by
        unfold reserveThrough
        split
        · omega
        · exact hreserved
      rw [if_pos hcross]
      cases write with
      | done =>
        have hfile : readReservedThrough (reserveThrough (p.lastAllocated + SEQUENCE_RESERVATION_BLOCK) .done s.file) =
            p.lastAllocated + SEQUENCE_RESERVATION_BLOCK := hread
        refine ⟨fun w hw => ?_, fun a ha => ?_⟩
        · have := hnext w hw
          simp only [hfile]
          omega
        · obtain rfl := Option.some.inj ha
          exact ⟨hnext, by simp only; omega, Nat.le_of_eq hfile.symm, hearlier⟩
      | failed renamed =>
        simp only [Option.toList_none, List.append_nil]
        refine ⟨fun w hw => Nat.le_trans (Nat.le_trans (hvalues w hw) hlast) hwrite, fun a ha => ?_⟩
        obtain rfl := Option.some.inj ha
        exact ⟨hvalues, hlast, hwrite, hearlier⟩
      | crashed renamed =>
        simp only [Option.toList_none, List.append_nil]
        exact ⟨fun w hw => Nat.le_trans (Nat.le_trans (hvalues w hw) hlast) hwrite, fun _ ha => (by cases ha)⟩
    · rw [if_neg hcross]
      refine ⟨fun w hw => Nat.le_trans (hnext w hw) (by simp only; omega), fun a ha => ?_⟩
      obtain rfl := Option.some.inj ha
      exact ⟨hnext, Nat.not_lt.mp hcross, hreserved, hearlier⟩

/-- **NO VALUE COMES AGAIN**: a run hands out increasing values over all restarts exactly
    if each process that hands out any read as much at its start, and it does so while
    the file is replaced by none that says less. -/
theorem sequence_increasing_iff {steps : List (Stepped State Event)} (hs : allocator.init s)
    (h : Trace allocator s steps t) :
    ((∀ x ∈ steps, Increasing x.after) ↔ ∀ x ∈ steps, ReadsOn x.before x.label) ∧
      ((∀ x ∈ steps, Undisturbed x.before x.label) → ∀ x ∈ steps, Increasing x.after) := by
  have hiff : (∀ x ∈ steps, Increasing x.after) ↔ ∀ x ∈ steps, ReadsOn x.before x.label :=
    h.forall_iff hs fun x hreach hstep =>
      increasing_step (reachable_inv hreach) (reachable_increasing hreach) hstep
  refine ⟨hiff, fun hok => hiff.mpr ?_⟩
  refine h.forall_step_within hs hok fun x hreach hundisturbed _ => ?_
  have hcovered : Covered x.before := hreach.invariant
    (fun _ hs => ⟨by simp [hs.2.1, hs.2.2], by simp [hs.1]⟩) fun _ _ _ hI hok hst => hI.step hok hst
  cases x.label with
  | next write => exact fun a ha _ => (hcovered.process a ha).2.2.2
  | start | stop | replace => trivial

def emptyDirectory : State := ⟨.absent, none, 0, [], []⟩

theorem trace_of_play {events : List Event} {r : List (Stepped State Event) × State}
    (h : traceOf next events ([], emptyDirectory) = some r) : Trace allocator emptyDirectory r.1 r.2 :=
  Trace.of_traceOf (S := allocator) (fun _ _ _ h => h) .nil h

/-- A block is crossed with a failed write, and the agent is restarted. -/
def restarted : List Event :=
  [.start, .next (.failed true), .next .done, .next .done, .stop, .start, .next (.crashed false),
    .start, .next .done]

theorem sequence_increasing_restarted : ∃ steps t, Trace allocator emptyDirectory steps t ∧
    (∀ x ∈ steps, Increasing x.after) ∧ t.current = [65] ∧ t.earlier = [1, 2] := by
  obtain ⟨r, hplay, hok, hend⟩ : ∃ r, traceOf next restarted ([], emptyDirectory) = some r ∧
      (∀ x ∈ r.1, Undisturbed x.before x.label) ∧ r.2.current = [65] ∧ r.2.earlier = [1, 2] :=
    ⟨_, rfl, by decide +kernel, by decide +kernel⟩
  exact ⟨r.1, r.2, trace_of_play hplay,
    (sequence_increasing_iff ⟨rfl, rfl, rfl⟩ (trace_of_play hplay)).2 hok, hend⟩

/-- The file of an agent that has sent one message is truncated, and the next process
    sends its first message under the same number. -/
theorem sequence_restarts : ¬ ∀ steps t, Trace allocator emptyDirectory steps t →
    ∀ x ∈ steps, Increasing x.after := by
  intro h
  obtain ⟨r, hplay, hrepeats⟩ : ∃ r, traceOf next
      [.start, .next .done, .stop, .replace .notAnInteger, .start, .next .done] ([], emptyDirectory) = some r ∧
        ∃ x ∈ r.1, ¬ Increasing x.after := ⟨_, rfl, by decide +kernel⟩
  obtain ⟨x, hx, hnot⟩ := hrepeats
  exact hnot (h r.1 r.2 (trace_of_play hplay) x hx)

end TokenTimer.Agent.Sequence
