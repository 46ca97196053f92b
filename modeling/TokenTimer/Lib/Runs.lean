/-
  TokenTimer.Lib.Runs — labelled transition systems, the runs whose every
  step meets a condition, and the invariant rules over those runs.

  A `System` is a set of initial states and a labelled step relation.  A run is
  CONDITIONED: `Run S ok s t` only takes a step `a` from a state where `ok`
  holds of that state and `a`.  The unconditioned runs are those of `anyStep`.
  A conditioned run is how "this holds as long as no step does X" is stated.

  Main results:
    * `Run.invariant` — what every conditioned step keeps, every run keeps.
    * `Reachable.invariant` — the same from the initial states.
    * `Run.stable` — a property kept by every step taken from a state in
        a background invariant, along runs from a
        reachable state.
    * `Trace.forall_iff` — a run has a property in each of its states exactly
        when each of its steps meets the condition.
-/

import Mathlib.Tactic.Common

namespace Lib.Runs

universe u v

variable {σ : Type u} {ι : Type v}

/-- A labelled transition system: where it may start and what a step may do. -/
structure System (σ : Type u) (ι : Type v) where
  init : σ → Prop
  step : σ → ι → σ → Prop

/-- No condition on the steps of a run. -/
def anyStep : σ → ι → Prop := fun _ _ => True

/-- A finite run from `s` to `t`, each of whose steps meets `ok` in the state
    it is taken from. -/
inductive Run (S : System σ ι) (ok : σ → ι → Prop) : σ → σ → Prop
  | refl (s : σ) : Run S ok s s
  | tail {s t u : σ} {a : ι} : Run S ok s t → ok t a → S.step t a u → Run S ok s u

/-- `t` ends a conditioned run from an initial state. -/
def Reachable (S : System σ ι) (ok : σ → ι → Prop) (t : σ) : Prop :=
  ∃ s, S.init s ∧ Run S ok s t

variable {S : System σ ι} {ok ok' : σ → ι → Prop} {s t u : σ}

/-- A step behind a guard was let through, and is done. -/
theorem of_guard {p : Prop} [Decidable p] (h : (if p then some s else none) = some t) : p ∧ s = t := by
  simpa using h

theorem of_not_guard {p : Prop} [Decidable p] (h : (if p then none else some s) = some t) :
    ¬p ∧ s = t := by
  simpa using h

/-! ## §1. Composing runs. -/

theorem Run.single {a : ι} (hok : ok s a) (h : S.step s a t) : Run S ok s t :=
  .tail (.refl s) hok h

theorem Run.trans (h₁ : Run S ok s t) (h₂ : Run S ok t u) : Run S ok s u := by
  induction h₂ with
  | refl => exact h₁
  | tail _ hok hstep ih => exact .tail ih hok hstep

theorem Reachable.of_init (h : S.init s) : Reachable S ok s :=
  ⟨s, h, .refl s⟩

theorem Reachable.run (h : Reachable S ok s) (hrun : Run S ok s t) : Reachable S ok t := by
  obtain ⟨s₀, h₀, hr⟩ := h
  exact ⟨s₀, h₀, hr.trans hrun⟩

theorem Reachable.step {a : ι} (h : Reachable S ok s) (hok : ok s a) (hstep : S.step s a t) :
    Reachable S ok t :=
  h.run (.single hok hstep)

/-- Dropping or weakening the condition keeps every run. -/
theorem Run.mono (himp : ∀ s a, ok s a → ok' s a) (h : Run S ok s t) : Run S ok' s t := by
  induction h with
  | refl => exact .refl _
  | tail _ hok hstep ih => exact .tail ih (himp _ _ hok) hstep

/-- A run that plays a list of calls of a deterministic system, each of which
    meets the condition in any state. -/
theorem Run.of_foldl_of_forall {next : σ → ι → σ} (hnext : ∀ s a, S.step s a (next s a))
    (calls : List ι) (hok : ∀ a ∈ calls, ∀ s, ok s a) (s : σ) :
    Run S ok s (calls.foldl next s) := by
  induction calls generalizing s with
  | nil => exact .refl s
  | cons a t ih =>
    rw [List.forall_mem_cons] at hok
    exact (Run.single (hok.1 s) (hnext s a)).trans (ih hok.2 (next s a))

theorem Run.of_foldl {next : σ → ι → σ} (hnext : ∀ s a, S.step s a (next s a)) (calls : List ι)
    (s : σ) : Run S anyStep s (calls.foldl next s) :=
  .of_foldl_of_forall hnext calls (fun _ _ _ => trivial) s

/-- A computed condition holds in every state that a list of calls passes. -/
def checkedSteps (next : σ → ι → σ) (check : σ → ι → Bool) : List ι → σ → Bool
  | [], _ => true
  | a :: t, s => check s a && checkedSteps next check t (next s a)

/-- A run that plays a list of calls, with the condition checked on the way. -/
theorem Run.of_checked {next : σ → ι → σ} (hnext : ∀ s a, S.step s a (next s a))
    {check : σ → ι → Bool} (hcheck : ∀ s a, check s a = true → ok s a) (calls : List ι) (s : σ)
    (h : checkedSteps next check calls s = true) : Run S ok s (calls.foldl next s) := by
  induction calls generalizing s with
  | nil => exact .refl s
  | cons a t ih =>
    simp only [checkedSteps, Bool.and_eq_true] at h
    exact (Run.single (hcheck s a h.1) (hnext s a)).trans (ih (next s a) h.2)

/-- The state after a list of calls, where each is possible. -/
def played (next : σ → ι → Option σ) : List ι → σ → Option σ
  | [], s => some s
  | a :: t, s => (next s a).bind (played next t)

/-- A run that plays a list of calls, each of which meets the condition in any state. -/
theorem Run.of_played {next : σ → ι → Option σ} (hnext : ∀ s a t, next s a = some t → S.step s a t)
    (calls : List ι) (hok : ∀ a ∈ calls, ∀ s, ok s a) (h : played next calls s = some t) :
    Run S ok s t := by
  induction calls generalizing s with
  | nil =>
    cases h
    exact .refl _
  | cons a rest ih =>
    rw [List.forall_mem_cons] at hok
    obtain ⟨u, hu, hrest⟩ := Option.bind_eq_some_iff.mp h
    exact (Run.single (hok.1 s) (hnext s a u hu)).trans (ih hok.2 hrest)

/-- The state after a list of calls, where each is possible and passes a check. -/
def playedWithin (next : σ → ι → Option σ) (check : σ → ι → Bool) : List ι → σ → Option σ
  | [], s => some s
  | a :: t, s => if check s a then (next s a).bind (playedWithin next check t) else none

/-- A run that plays a list of calls, with the condition checked on the way. -/
theorem Run.of_playedWithin {next : σ → ι → Option σ} (hnext : ∀ s a t, next s a = some t → S.step s a t)
    {check : σ → ι → Bool} (hcheck : ∀ s a, check s a = true → ok s a) (calls : List ι)
    (h : playedWithin next check calls s = some t) : Run S ok s t := by
  induction calls generalizing s with
  | nil =>
    cases h
    exact .refl _
  | cons a rest ih =>
    unfold playedWithin at h
    split at h
    · rename_i hok
      obtain ⟨u, hu, hrest⟩ := Option.bind_eq_some_iff.mp h
      exact (Run.single (hcheck s a hok) (hnext s a u hu)).trans (ih hrest)
    · cases h

/-! ## §2. Invariant rules. -/

variable {I : σ → Prop}

/-- **THE INVARIANT RULE**: what each conditioned step keeps, a run keeps. -/
theorem Run.invariant (h : Run S ok s t) (hstep : ∀ t a u, I t → ok t a → S.step t a u → I u) (hs : I s) :
    I t := by
  induction h with
  | refl => exact hs
  | tail _ hok hst ih => exact hstep _ _ _ ih hok hst

theorem Reachable.invariant (hinit : ∀ s, S.init s → I s)
    (hstep : ∀ t a u, I t → ok t a → S.step t a u → I u) (h : Reachable S ok t) : I t := by
  obtain ⟨s₀, h₀, hr⟩ := h
  exact hr.invariant hstep (hinit _ h₀)

/-- A property that steps keep ONLY in states of a background invariant `I` is
    kept along every run from a state of `I`. -/
theorem Run.stable {Q : σ → Prop} (h : Run S ok s t) (hI : ∀ t a u, I t → ok t a → S.step t a u → I u)
    (hQ : ∀ t a u, I t → Q t → ok t a → S.step t a u → Q u) (hs : I s) (hq : Q s) : I t ∧ Q t :=
  h.invariant (I := fun x => I x ∧ Q x)
    (fun t a u hx hok hst => ⟨hI t a u hx.1 hok hst, hQ t a u hx.1 hx.2 hok hst⟩) ⟨hs, hq⟩

/-! ## §3. Runs with their steps. -/

/-- A step of a run: where it is taken, what is done, where it leads. -/
structure Stepped (σ : Type u) (ι : Type v) where
  before : σ
  label : ι
  after : σ

/-- A run from `s` to `t` with its steps, first to last. -/
inductive Trace (S : System σ ι) (s : σ) : List (Stepped σ ι) → σ → Prop
  | nil : Trace S s [] s
  | snoc {steps : List (Stepped σ ι)} {t u : σ} {a : ι} :
      Trace S s steps t → S.step t a u → Trace S s (steps ++ [⟨t, a, u⟩]) u

variable {steps : List (Stepped σ ι)}

/-- A run with all its steps in the condition is a conditioned run. -/
theorem Trace.run (h : Trace S s steps t) (hok : ∀ x ∈ steps, ok x.before x.label) : Run S ok s t := by
  induction h with
  | nil => exact .refl _
  | snoc _ hstep ih =>
    rw [List.forall_mem_append, List.forall_mem_singleton] at hok
    exact .tail (ih hok.1) hok.2 hstep

/-- What holds of every step that leaves a state of a conditioned run holds of every
    step of a run in the condition. -/
theorem Trace.forall_step_within {P : Stepped σ ι → Prop} (h : Trace S s steps t) (hs : S.init s)
    (hok : ∀ x ∈ steps, ok x.before x.label)
    (hstep : ∀ x, Reachable S ok x.before → ok x.before x.label → S.step x.before x.label x.after → P x) :
    ∀ x ∈ steps, P x := by
  induction h with
  | nil => exact List.forall_mem_nil _
  | snoc hpre hst ih =>
    rw [List.forall_mem_append, List.forall_mem_singleton] at hok ⊢
    exact ⟨ih hok.1, hstep _ ⟨s, hs, hpre.run hok.1⟩ hok.2 hst⟩

theorem Trace.forall_step {P : Stepped σ ι → Prop} (h : Trace S s steps t) (hs : S.init s)
    (hstep : ∀ x, Reachable S anyStep x.before → S.step x.before x.label x.after → P x) :
    ∀ x ∈ steps, P x :=
  h.forall_step_within hs (fun _ _ => trivial) fun x hreach _ => hstep x hreach

/-- The run of a list of calls of a deterministic system, after the steps it has. -/
def traceOf (next : σ → ι → Option σ) :
    List ι → List (Stepped σ ι) × σ → Option (List (Stepped σ ι) × σ)
  | [], r => some r
  | a :: rest, (steps, t) =>
    (next t a).bind fun u => traceOf next rest (steps ++ [⟨t, a, u⟩], u)

theorem Trace.of_traceOf {next : σ → ι → Option σ} (hnext : ∀ s a t, next s a = some t → S.step s a t)
    {calls : List ι} {steps' : List (Stepped σ ι)} {t' : σ} (h : Trace S s steps t)
    (hplay : traceOf next calls (steps, t) = some (steps', t')) : Trace S s steps' t' := by
  induction calls generalizing steps t with
  | nil =>
    cases hplay
    exact h
  | cons a rest ih =>
    obtain ⟨u, hu, hrest⟩ := Option.bind_eq_some_iff.mp hplay
    exact ih (.snoc h (hnext t a u hu)) hrest

/-- **THE EXACT CONDITION OF A RUN**: where a step from a state that a conditioned
    run reaches ends in `P` exactly if it meets the condition, a run is in `P` after
    each of its steps exactly if each of them meets it. -/
theorem Trace.forall_iff {P : σ → Prop} (h : Trace S s steps t) (hs : S.init s)
    (hstep : ∀ x : Stepped σ ι, Reachable S ok x.before → S.step x.before x.label x.after → (P x.after ↔ ok x.before x.label)) :
    (∀ x ∈ steps, P x.after) ↔ ∀ x ∈ steps, ok x.before x.label := by
  induction h with
  | nil => simp
  | @snoc steps t u a hpre hst ih =>
    simp only [List.forall_mem_append, List.forall_mem_singleton]
    rw [ih]
    constructor
    · rintro ⟨hok, hlast⟩
      exact ⟨hok, (hstep ⟨t, a, u⟩ ⟨s, hs, hpre.run hok⟩ hst).mp hlast⟩
    · rintro ⟨hok, hlast⟩
      exact ⟨hok, (hstep ⟨t, a, u⟩ ⟨s, hs, hpre.run hok⟩ hst).mpr hlast⟩

end Lib.Runs
