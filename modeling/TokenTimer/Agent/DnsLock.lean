/-
  TokenTimer.Agent.DnsLock — the file lock of the DNS-01 challenges
  (`withFileLock` of `packages/agent/src/dns/lockfile.js`).

  Any number of calls of `withFileLock` with one key meet at one path.  Every
  call of the file system is a step of its own, and so is every reading of the
  clock that a decision rests on.  The path is an address, not a file: `rename`
  and `unlink` take whatever file is there when they run.

  A waiter reads the time of the file at the path, finds it stale, and renames
  the path away.  Between the two another waiter may have reclaimed the stale
  file and taken the lock, and then the rename takes the new lock away.

  Main results:
    * `lock_exclusive` — in every timely run whose renames take no such
        file, one call at most is inside its task.
-/

import TokenTimer.Lib.Runs
import Mathlib.Logic.Function.Basic

namespace TokenTimer.DnsLock

open Lib.Runs

/-! ## §1. The path and the calls. -/

/-- The options of `withFileLock` that decide something, in milliseconds. -/
structure Options where
  staleMs : Nat
  waitTimeoutMs : Nat

/-- `DEFAULT_STALE_MS` and `DEFAULT_WAIT_TIMEOUT_MS`. -/
def Options.default : Options := ⟨5 * 60 * 1000, 2 * 60 * 1000⟩

/-- A lock file.  Its content is never read.  `owner` is the call that created it. -/
structure LockFile where
  ino : Nat
  owner : Nat
  createdAt : Nat
  mtimeMs : Nat
deriving DecidableEq

/-- What a call holds of the file it opened. -/
structure Handle where
  ino : Nat
  createdAt : Nat
deriving DecidableEq

/-- What a call of `withFileLock` does next. -/
inductive Phase
  | idle
  /-- `mkdirSync`, and the reading of `startedAt`. -/
  | making
  /-- `openSync(lockPath, "wx")`. -/
  | opening (startedAt : Nat)
  /-- `writeFileSync` through the handle. -/
  | writing (handle : Handle)
  /-- `await task()`. -/
  | inside (handle : Handle)
  /-- `closeSync`. -/
  | closing (handle : Handle)
  /-- `unlinkSync(lockPath)`. -/
  | releasing (handle : Handle)
  /-- `statSync(lockPath)`. -/
  | statting (startedAt : Nat)
  /-- `now() - stat.mtimeMs > staleMs`. -/
  | judging (startedAt mtimeMs : Nat)
  /-- `renameSync(lockPath, reclaimPath)`. -/
  | reclaiming (startedAt : Nat)
  /-- `unlinkSync(reclaimPath)`, a name no other call knows. -/
  | removing (startedAt : Nat)
  /-- `now() - startedAt >= waitTimeoutMs`, and the sleep. -/
  | waiting (startedAt : Nat)
  | ended
  | crashed
deriving DecidableEq

/-- The file at the lock path, and where each call is. -/
structure State where
  now : Nat
  lock : Option LockFile
  nextIno : Nat
  phase : Nat → Phase

/-- The calls and the processes as they may go on. -/
inductive Label
  | tick (ms : Nat)
  | call (p : Nat)
  /-- The next step of `p`; `fails` where the file system gives an error that
      the code does not expect. -/
  | step (p : Nat) (fails : Bool)
  | crash (p : Nat)

def State.setPhase (s : State) (p : Nat) (phase : Phase) : State :=
  { s with phase := Function.update s.phase p phase }

/-- The file that an exclusive create makes. -/
def State.newFile (s : State) (p : Nat) : LockFile := ⟨s.nextIno, p, s.now, s.now⟩

/-- A write through a handle, of the file at the path if it still is that one. -/
def State.touch (s : State) (handle : Handle) : State :=
  { s with
    lock := s.lock.map fun file => if file.ino = handle.ino then { file with mtimeMs := s.now } else file }

def callStep (opts : Options) (p : Nat) (fails : Bool) (s : State) : State :=
  match s.phase p with
  | .idle | .ended | .crashed => s
  | .making => s.setPhase p (if fails then .ended else .opening s.now)
  | .opening startedAt =>
    if fails then s.setPhase p .ended
    else
      match s.lock with
      | none =>
        { s with lock := some (s.newFile p), nextIno := s.nextIno + 1 }.setPhase p
          (.writing ⟨s.nextIno, s.now⟩)
      | some _ => s.setPhase p (.statting startedAt)
  -- A write that fails throws, and the file it was for stays.
  | .writing handle =>
    if fails then s.setPhase p .ended else (s.touch handle).setPhase p (.inside handle)
  | .inside handle => s.setPhase p (.closing handle)
  -- The errors of the release are dropped.
  | .closing handle => s.setPhase p (.releasing handle)
  | .releasing _ => { s with lock := if fails then s.lock else none }.setPhase p .ended
  | .statting startedAt =>
    if fails then s.setPhase p .ended
    else
      match s.lock with
      | none => s.setPhase p (.opening startedAt)
      | some file => s.setPhase p (.judging startedAt file.mtimeMs)
  | .judging startedAt mtimeMs =>
    s.setPhase p (if mtimeMs + opts.staleMs < s.now then .reclaiming startedAt else .waiting startedAt)
  | .reclaiming startedAt =>
    if fails then s.setPhase p .ended
    else
      match s.lock with
      | none => s.setPhase p (.opening startedAt)
      | some _ => { s with lock := none }.setPhase p (.removing startedAt)
  | .removing startedAt => s.setPhase p (if fails then .ended else .opening startedAt)
  | .waiting startedAt =>
    s.setPhase p (if startedAt + opts.waitTimeoutMs ≤ s.now then .ended else .opening startedAt)

def next (opts : Options) (s : State) : Label → State
  | .tick ms => { s with now := s.now + ms }
  | .call p => if s.phase p = .idle then s.setPhase p .making else s
  | .step p fails => callStep opts p fails s
  | .crash p => s.setPhase p .crashed

/-- No call has begun, and there is no lock file. -/
structure State.Initial (s : State) : Prop where
  idle : ∀ p, s.phase p = .idle
  lock : s.lock = none

def lockSystem (opts : Options) : System State Label where
  init := State.Initial
  step s a t := t = next opts s a

/-! ## §2. The property, and what a run is promised. -/

/-- The call is inside its task. -/
def Phase.isInside : Phase → Bool
  | .inside _ => true
  | _ => false

/-- At most one call is inside its task. -/
def Exclusive (s : State) : Prop :=
  ∀ p q, (s.phase p).isInside = true → (s.phase q).isInside = true → p = q

/-- The lock file that a task or its release runs under. -/
def Phase.runsUnder : Phase → Option Handle
  | .inside handle | .closing handle | .releasing handle => some handle
  | _ => none

/-- Every task and its release end less than `staleMs` after their lock file was
    created: as long as they run, the time is not up. -/
def Timely (opts : Options) (s : State) : Prop :=
  ∀ p handle, (s.phase p).runsUnder = some handle → s.now < handle.createdAt + opts.staleMs

def timelySteps (opts : Options) (s : State) (a : Label) : Prop := Timely opts (next opts s a)

/-- The call has an open handle: it has created its file and has not released it. -/
def Phase.isLive : Phase → Bool
  | .writing _ | .inside _ | .closing _ | .releasing _ => true
  | _ => false

/-- A rename takes no file that is younger than `staleMs` and whose call still
    lives. -/
def ReclaimsDead (opts : Options) (s : State) : Label → Prop
  | .step p fails =>
    ∀ startedAt file, fails = false → s.phase p = .reclaiming startedAt → s.lock = some file →
      file.mtimeMs + opts.staleMs < s.now ∨ (s.phase file.owner).isLive = false
  | _ => True

/-! ## §3. The invariant. -/

@[simp] theorem setPhase_now (s : State) (p : Nat) (x : Phase) : (s.setPhase p x).now = s.now := rfl
@[simp] theorem setPhase_self (s : State) (p : Nat) (x : Phase) : (s.setPhase p x).phase p = x :=
  Function.update_self (β := fun _ => Phase) p x s.phase
theorem setPhase_of_ne (s : State) (x : Phase) {p q : Nat} (h : q ≠ p) :
    (s.setPhase p x).phase q = s.phase q :=
  Function.update_of_ne (β := fun _ => Phase) h x s.phase

variable {opts : Options} {s t : State} {p q : Nat} {handle : Handle}

theorem Phase.isLive_of_runsUnder {x : Phase} (h : x.runsUnder = some handle) : x.isLive = true := by
  cases x <;> simp_all [Phase.runsUnder, Phase.isLive]

theorem Phase.runsUnder_of_isInside {x : Phase} (h : x.isInside = true) :
    ∃ handle, x.runsUnder = some handle := by
  cases x <;> simp_all [Phase.isInside, Phase.runsUnder]

/-- The file at the path is the one that `p` opened with `handle`. -/
def State.Holds (s : State) (p : Nat) (handle : Handle) : Prop :=
  ∃ file, s.lock = some file ∧ file.owner = p ∧ handle.createdAt ≤ file.mtimeMs ∧ file.mtimeMs ≤ s.now

/-- A task or a release has the path.  A call that has not begun its task has
    it too, or is so late that it cannot begin. -/
structure Held (opts : Options) (s : State) : Prop where
  running : ∀ p handle, (s.phase p).runsUnder = some handle → s.Holds p handle
  writing : ∀ p handle, s.phase p = .writing handle →
    s.Holds p handle ∨ handle.createdAt + opts.staleMs ≤ s.now

/-- The path is held once. -/
theorem State.Holds.unique {handle' : Handle} (h : s.Holds p handle) (h' : s.Holds q handle') :
    p = q := by
  obtain ⟨file, hfile, howner, -⟩ := h
  obtain ⟨file', hfile', howner', -⟩ := h'
  rw [hfile] at hfile'
  injection hfile' with hsame
  rw [← howner, ← howner', hsame]

theorem Held.exclusive (h : Held opts s) : Exclusive s := by
  intro p q hp hq
  obtain ⟨handle, hunder⟩ := Phase.runsUnder_of_isInside hp
  obtain ⟨handle', hunder'⟩ := Phase.runsUnder_of_isInside hq
  exact (h.running p handle hunder).unique (h.running q handle' hunder')

theorem Held.of_initial (h : s.Initial) : Held opts s where
  running p handle hp := by
    rw [h.idle] at hp
    cases hp
  writing p handle hp := by
    rw [h.idle] at hp
    cases hp

theorem Held.alone (h : Held opts s) (hp : s.Holds p handle) (hqp : q ≠ p) :
    (s.phase q).runsUnder = none ∧
      ∀ handle', s.phase q = .writing handle' → handle'.createdAt + opts.staleMs ≤ s.now := by
  constructor
  · cases hq : (s.phase q).runsUnder with
    | none => rfl
    | some handle' => exact absurd ((h.running q handle' hq).unique hp) hqp
  · intro handle' hq
    rcases h.writing q handle' hq with hholds | hlate
    · exact absurd (hholds.unique hp) hqp
    · exact hlate

/-! ## §4. What the steps keep. -/

/-- A call goes on and leaves the path alone. -/
theorem Held.setPhase {x : Phase} (h : Held opts s)
    (hunder : ∀ handle, x.runsUnder = some handle → (s.phase p).runsUnder = some handle)
    (hwriting : ∀ handle, x ≠ .writing handle) : Held opts (s.setPhase p x) where
  running q handle hq := by
    by_cases hqp : q = p
    · subst hqp
      rw [setPhase_self] at hq
      exact h.running q handle (hunder handle hq)
    · rw [setPhase_of_ne s x hqp] at hq
      exact h.running q handle hq
  writing q handle hq := by
    by_cases hqp : q = p
    · subst hqp
      rw [setPhase_self] at hq
      exact absurd hq (hwriting handle)
    · rw [setPhase_of_ne s x hqp] at hq
      exact h.writing q handle hq

theorem Held.replace {x : Phase} (hsame : t.phase = s.phase) (hnow : t.now = s.now)
    (hrunning : ∀ q, q ≠ p → (s.phase q).runsUnder = none)
    (hwriting : ∀ q handle, q ≠ p → s.phase q = .writing handle →
      handle.createdAt + opts.staleMs ≤ s.now)
    (hunder : x.runsUnder = none) (hx : ∀ handle, x = .writing handle → t.Holds p handle) :
    Held opts (t.setPhase p x) where
  running q handle hq := by
    by_cases hqp : q = p
    · subst hqp
      rw [setPhase_self, hunder] at hq
      cases hq
    · rw [setPhase_of_ne t x hqp, hsame, hrunning q hqp] at hq
      cases hq
  writing q handle hq := by
    by_cases hqp : q = p
    · subst hqp
      rw [setPhase_self] at hq
      exact .inl (hx handle hq)
    · rw [setPhase_of_ne t x hqp, hsame] at hq
      right
      rw [setPhase_now, hnow]
      exact hwriting q handle hqp hq

theorem Held.tick (h : Held opts s) (ms : Nat) : Held opts { s with now := s.now + ms } where
  running p handle hp := by
    obtain ⟨file, hfile, howner, hcreated, hmtime⟩ := h.running p handle hp
    exact ⟨file, hfile, howner, hcreated, Nat.le_add_right_of_le hmtime⟩
  writing p handle hp := by
    rcases h.writing p handle hp with ⟨file, hfile, howner, hcreated, hmtime⟩ | hlate
    · exact .inl ⟨file, hfile, howner, hcreated, Nat.le_add_right_of_le hmtime⟩
    · exact .inr (Nat.le_add_right_of_le hlate)

theorem Held.free (h : Held opts s) (hlock : s.lock = none) (q : Nat) :
    (s.phase q).runsUnder = none ∧
      ∀ handle, s.phase q = .writing handle → handle.createdAt + opts.staleMs ≤ s.now := by
  have hno : ∀ handle, ¬ s.Holds q handle := by
    rintro handle ⟨file, hfile, -⟩
    rw [hlock] at hfile
    cases hfile
  constructor
  · cases hq : (s.phase q).runsUnder with
    | none => rfl
    | some handle => exact absurd (h.running q handle hq) (hno handle)
  · intro handle hq
    exact (h.writing q handle hq).resolve_left (hno handle)

theorem Held.create (h : Held opts s) (hlock : s.lock = none) (p : Nat) :
    Held opts ({ s with lock := some (s.newFile p), nextIno := s.nextIno + 1 }.setPhase p
      (.writing ⟨s.nextIno, s.now⟩)) := by
  refine Held.replace rfl rfl (fun q _ => (h.free hlock q).1) (fun q handle _ => (h.free hlock q).2 handle)
    rfl fun handle hx => ?_
  injection hx with hx
  subst hx
  exact ⟨s.newFile p, rfl, rfl, Nat.le_refl _, Nat.le_refl _⟩

/-- The file whose time a write changes stays the one at the path. -/
theorem State.Holds.touch {handle' : Handle} (h : s.Holds q handle) : (s.touch handle').Holds q handle := by
  obtain ⟨file, hfile, howner, hcreated, hmtime⟩ := h
  by_cases hino : file.ino = handle'.ino
  · refine ⟨{ file with mtimeMs := s.now }, ?_, howner, Nat.le_trans hcreated hmtime, Nat.le_refl _⟩
    simp [State.touch, hfile, hino]
  · exact ⟨file, by simp [State.touch, hfile, hino], howner, hcreated, hmtime⟩

theorem Held.enter (h : Held opts s) (hp : s.phase p = .writing handle)
    (htimely : s.now < handle.createdAt + opts.staleMs) :
    Held opts ((s.touch handle).setPhase p (.inside handle)) where
  running q handle' hq := by
    by_cases hqp : q = p
    · subst hqp
      rw [setPhase_self] at hq
      injection hq with hq
      subst hq
      rcases h.writing q handle hp with hholds | hlate
      · exact hholds.touch
      · exact absurd htimely (Nat.not_lt.mpr hlate)
    · rw [setPhase_of_ne _ _ hqp] at hq
      exact (h.running q handle' hq).touch
  writing q handle' hq := by
    by_cases hqp : q = p
    · subst hqp
      rw [setPhase_self] at hq
      cases hq
    · rw [setPhase_of_ne _ _ hqp] at hq
      rcases h.writing q handle' hq with hholds | hlate
      · exact .inl hholds.touch
      · exact .inr hlate

/-- A holder takes its own file away. -/
theorem Held.release (h : Held opts s) (hp : s.phase p = .releasing handle) :
    Held opts ({ s with lock := none }.setPhase p .ended) := by
  have hholds : s.Holds p handle := h.running p handle (by rw [hp]; rfl)
  exact Held.replace rfl rfl (fun q hqp => (h.alone hholds hqp).1)
    (fun q handle' hqp => (h.alone hholds hqp).2 handle') rfl nofun

theorem Held.reclaim {file : LockFile} {startedAt : Nat} (h : Held opts s) (htimely : Timely opts s)
    (hlock : s.lock = some file)
    (hdead : file.mtimeMs + opts.staleMs < s.now ∨ (s.phase file.owner).isLive = false) :
    Held opts ({ s with lock := none }.setPhase p (.removing startedAt)) := by
  refine Held.replace (s := s) rfl rfl (fun q _ => ?_) (fun q handle _ hq => ?_) rfl nofun
  · cases hq : (s.phase q).runsUnder with
    | none => rfl
    | some handle =>
      obtain ⟨file', hfile', howner, hcreated, -⟩ := h.running q handle hq
      rw [hlock] at hfile'
      injection hfile' with hfile'
      subst hfile'
      rcases hdead with hstale | hgone
      · have := htimely q handle hq
        omega
      · rw [howner, Phase.isLive_of_runsUnder hq] at hgone
        cases hgone
  · rcases h.writing q handle hq with ⟨file', hfile', howner, hcreated, -⟩ | hlate
    · rw [hlock] at hfile'
      injection hfile' with hfile'
      subst hfile'
      rcases hdead with hstale | hgone
      · omega
      · rw [howner, hq] at hgone
        cases hgone
    · exact hlate

theorem Held.callStep {fails : Bool} (h : Held opts s) (htimely : Timely opts s)
    (hnext : Timely opts (callStep opts p fails s)) (hdead : ReclaimsDead opts s (.step p fails)) :
    Held opts (callStep opts p fails s) := by
  have hquiet : ∀ {x : Phase}, x.runsUnder = none → (∀ handle, x ≠ .writing handle) →
      Held opts (s.setPhase p x) := fun hunder hwriting =>
    h.setPhase (fun handle hx => by rw [hunder] at hx; cases hx) hwriting
  unfold DnsLock.callStep at hnext ⊢
  cases hp : s.phase p with
  | idle | ended | crashed => exact h
  | making | removing =>
    cases fails with
    | true | false => exact hquiet rfl nofun
  | opening startedAt =>
    cases fails with
    | true => exact hquiet rfl nofun
    | false =>
      cases hlock : s.lock with
      | none => exact h.create hlock p
      | some file => exact hquiet rfl nofun
  | writing handle =>
    cases fails with
    | true => exact hquiet rfl nofun
    | false =>
      rw [hp] at hnext
      refine h.enter hp (hnext p handle ?_)
      show (((s.touch handle).setPhase p (.inside handle)).phase p).runsUnder = some handle
      rw [setPhase_self]
      rfl
  | inside | closing =>
    exact h.setPhase (fun handle' hx => by rw [hp]; exact hx) nofun
  | releasing handle =>
    cases fails with
    | true => exact hquiet rfl nofun
    | false => exact h.release hp
  | statting startedAt =>
    cases fails with
    | true => exact hquiet rfl nofun
    | false =>
      cases hlock : s.lock with
      | none | some => exact hquiet rfl nofun
  | judging | waiting =>
    dsimp only
    split
    · exact hquiet rfl nofun
    · exact hquiet rfl nofun
  | reclaiming startedAt =>
    cases fails with
    | true => exact hquiet rfl nofun
    | false =>
      cases hlock : s.lock with
      | none => exact hquiet rfl nofun
      | some file => exact h.reclaim htimely hlock (hdead startedAt file rfl hp hlock)

theorem Held.next {a : Label} (h : Held opts s) (htimely : Timely opts s) (hnext : timelySteps opts s a)
    (hdead : ReclaimsDead opts s a) : Held opts (next opts s a) := by
  cases a with
  | tick ms => exact h.tick ms
  | call p =>
    unfold DnsLock.next
    dsimp only
    split
    · exact h.setPhase nofun nofun
    · exact h
  | step p fails => exact h.callStep htimely hnext hdead
  | crash p => exact h.setPhase nofun nofun

/-! ## §5. The lock. -/

/-- In every run in which no task and no release outlasts `staleMs`, and no
    rename takes a young file of a live call, one call at most is inside its
    task at any time. -/
theorem lock_exclusive (opts : Options) (s : State)
    (h : Reachable (lockSystem opts)
      (fun s a => timelySteps opts s a ∧ ReclaimsDead opts s a) s) : Exclusive s := by
  have hinv : Held opts s ∧ Timely opts s := by
    refine h.invariant (I := fun s => Held opts s ∧ Timely opts s) (fun s hs => ⟨.of_initial hs, ?_⟩) ?_
    · intro p handle hp
      rw [hs.idle] at hp
      cases hp
    · rintro t a u ⟨hheld, htimely⟩ ⟨hnext, hdead⟩ rfl
      exact ⟨hheld.next htimely hnext hdead, hnext⟩
  exact hinv.1.exclusive

/-- The call that a label is about. -/
def Label.actor : Label → Option Nat
  | .tick _ => none
  | .call p | .step p _ | .crash p => some p

theorem next_phase_of_ne {a : Label} (h : a.actor ≠ some q) : (next opts s a).phase q = s.phase q := by
  have hmove : ∀ (t : State) (p : Nat) (x : Phase), t.phase = s.phase → p ≠ q →
      (t.setPhase p x).phase q = s.phase q := fun t p x ht hpq => by
    rw [setPhase_of_ne t x hpq.symm, ht]
  cases a with
  | tick ms => rfl
  | call p =>
    unfold next
    dsimp only
    split
    · exact hmove s p _ rfl (fun hpq => h (congrArg some hpq))
    · rfl
  | crash p => exact hmove s p _ rfl (fun hpq => h (congrArg some hpq))
  | step p fails =>
    have hpq : p ≠ q := fun hpq => h (congrArg some hpq)
    unfold next callStep
    dsimp only
    split <;> first
      | rfl
      | exact hmove _ p _ rfl hpq
      | (split <;> first
          | exact hmove _ p _ rfl hpq
          | (split <;> exact hmove _ p _ rfl hpq))

/-- The promise and the condition of a step, where only the calls below `n` have
    begun. -/
def checkStep (opts : Options) (n : Nat) (reclaims : Bool) (s : State) (a : Label) : Bool :=
  a.actor.all (· < n) &&
    (List.range n).all (fun p =>
      ((next opts s a).phase p).runsUnder.all fun handle =>
        (next opts s a).now < handle.createdAt + opts.staleMs) &&
    (!reclaims ||
      match a with
      | .step p false =>
        match s.phase p, s.lock with
        | .reclaiming _, some file =>
          file.mtimeMs + opts.staleMs < s.now || !(s.phase file.owner).isLive
        | _, _ => true
      | _ => true)

theorem run_of_checkStep (n : Nat) (reclaims : Bool) (labels : List Label)
    (hs : ∀ p, n ≤ p → s.phase p = .idle)
    (h : checkedSteps (next opts) (checkStep opts n reclaims) labels s = true) :
    Run (lockSystem opts)
      (fun s a => timelySteps opts s a ∧ (reclaims = true → ReclaimsDead opts s a)) s
      (labels.foldl (next opts) s) := by
  induction labels generalizing s with
  | nil => exact .refl s
  | cons a rest ih =>
    simp only [checkedSteps, checkStep, Bool.and_eq_true] at h
    obtain ⟨⟨⟨hactor, htimely⟩, hreclaims⟩, hrest⟩ := h
    have hidle : ∀ p, n ≤ p → (next opts s a).phase p = .idle := fun p hp => by
      rw [next_phase_of_ne, hs p hp]
      intro ha
      rw [ha] at hactor
      exact absurd (of_decide_eq_true hactor) (Nat.not_lt.mpr hp)
    refine (Run.single (a := a) ⟨fun p handle hp => ?_, fun hr => ?_⟩ rfl).trans (ih hidle hrest)
    · rcases Nat.lt_or_ge p n with hpn | hpn
      · have hall := List.all_eq_true.mp htimely p (List.mem_range.mpr hpn)
        rw [hp] at hall
        exact of_decide_eq_true hall
      · rw [hidle p hpn] at hp
        cases hp
    · cases a with
      | step p fails =>
        rintro startedAt file rfl hp hlock
        simp only [hr, hp, hlock, Bool.not_true, Bool.false_or, Bool.or_eq_true, decide_eq_true_eq,
          Bool.not_eq_true'] at hreclaims
        exact hreclaims
      | tick | call | crash => trivial

def emptyState : State := ⟨0, none, 0, fun _ => .idle⟩

def crashedCall : List Label :=
  [.call 0, .step 0 false, .step 0 false, .step 0 false, .crash 0, .tick 300001]

/-- A waiter finds the file stale. -/
def judged (p : Nat) : List Label :=
  [.call p, .step p false, .step p false, .step p false, .step p false]

/-- It reclaims the path, and takes the lock. -/
def reclaimed (p : Nat) : List Label :=
  [.step p false, .step p false, .step p false, .step p false]

/-- One waiter reclaims the stale file of the crashed call and is alone. -/
theorem lock_exclusive_demo :
    Exclusive ((crashedCall ++ judged 1 ++ reclaimed 1).foldl (next .default) emptyState) ∧
      (((crashedCall ++ judged 1 ++ reclaimed 1).foldl (next .default) emptyState).phase 1).isInside =
        true := by
  refine ⟨lock_exclusive .default _ ⟨emptyState, ⟨fun _ => rfl, rfl⟩, ?_⟩, by decide⟩
  refine (run_of_checkStep 2 true _ (fun _ _ => rfl) (by decide)).mono ?_
  rintro s a ⟨htimely, hdead⟩
  exact ⟨htimely, hdead rfl⟩

/-- Two waiters find the same file stale.  The first reclaims it and takes the
    lock; the second renames that lock away and is inside its task too. -/
theorem fresh_lock_reclaimed :
    ¬ ∀ opts s, Reachable (lockSystem opts) (timelySteps opts) s → Exclusive s := by
  intro h
  have hrun : Run (lockSystem .default) (timelySteps .default) emptyState
      ((crashedCall ++ judged 1 ++ judged 2 ++ reclaimed 1 ++ reclaimed 2).foldl (next .default)
        emptyState) :=
    (run_of_checkStep 3 false _ (fun _ _ => rfl) (by decide)).mono
      fun _ _ hok => hok.1
  have h12 := h .default _ ⟨emptyState, ⟨fun _ => rfl, rfl⟩, hrun⟩ 1 2 (by decide) (by decide)
  cases h12

end TokenTimer.DnsLock
