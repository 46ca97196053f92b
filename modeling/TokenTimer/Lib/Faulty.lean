/-
  TokenTimer.Lib.Faulty — programs whose operations may fail, in a process that
  may die between any two of them.

  A `Prog σ ε α` runs on a state `σ` that survives the process (a disk, a
  table) and on a SCRIPT of faults: each operation takes one entry of the
  script and passes, throws, or the process crashes there.  A catch block sees
  what was thrown and never sees a crash.  With the script used up nothing fails
  any more, so a program is an ordinary function of its script and can be run.

  Since a script may crash after any operation, what a program is known to do
  to the state when it STOPS is known of every state it passes through.

  Main results:
    * `Triple` — pre- and postconditions; the third condition is
        what holds when the program throws or crashes.
    * `Triple.bind`, `Triple.op`, `Triple.attempt` — the rules.
    * `Observes` — the triple of a program that changes nothing.
    * `Keeps` — the triple of an invariant, with the same rules.
    * `Keeps.exec` — what a program keeps, a run of it keeps.
    * `ScriptTriple` — the triple that also speaks of the faults to come.
    * `Survives` — what a program does when nothing crashes.
    * `Returns` — what a program does when nothing fails.
-/

import Mathlib.Tactic.Common

namespace Lib.Faulty

variable {σ τ ε α β : Type}

/-- What happens to one operation. -/
inductive Fault (ε : Type)
  | pass
  | throws (error : ε)
  | crash
deriving DecidableEq

/-- How a program stops short. -/
inductive Stop (ε : Type)
  | thrown (error : ε)
  | crashed
deriving DecidableEq

/-- The state and the faults to come. -/
structure World (σ ε : Type) where
  state : σ
  script : List (Fault ε)

/-- A program: its result or how it stopped, and the world it leaves. -/
def Prog (σ ε α : Type) : Type := World σ ε → Except (Stop ε) α × World σ ε

/-! ## §1. The language. -/

instance : Monad (Prog σ ε) where
  pure a := fun w => (.ok a, w)
  bind m f := fun w =>
    match m w with
    | (.ok a, w') => f a w'
    | (.error stop, w') => (.error stop, w')

/-- `throw`. -/
def raise (error : ε) : Prog σ ε α := fun w => (.error (.thrown error), w)

/-- One operation on the state, which may fail of itself or by the script; a
    failed operation changes nothing. -/
def op (f : σ → Except ε (α × σ)) : Prog σ ε α := fun w =>
  match w.script with
  | .throws error :: rest => (.error (.thrown error), { w with script := rest })
  | .crash :: rest => (.error .crashed, { w with script := rest })
  | script =>
    match f w.state with
    | .error error => (.error (.thrown error), { w with script := script.tail })
    | .ok (a, state) => (.ok a, { state := state, script := script.tail })

/-- An operation with no effect the state shows. -/
def tick : Prog σ ε Unit := op fun s => .ok ((), s)

/-- The state, read without an operation. -/
def look : Prog σ ε σ := fun w => (.ok w.state, w)

/-- A note in the state that is no operation of the program. -/
def note (f : σ → σ) : Prog σ ε Unit := fun w => (.ok (), { w with state := f w.state })

/-- `try … catch`: what was thrown is handed over as a value, a crash is not. -/
def attempt (m : Prog σ ε α) : Prog σ ε (Except ε α) := fun w =>
  match m w with
  | (.ok a, w') => (.ok (.ok a), w')
  | (.error (.thrown error), w') => (.ok (.error error), w')
  | (.error .crashed, w') => (.error .crashed, w')

/-- A loop over a list. -/
def forEach (f : β → Prog σ ε Unit) : List β → Prog σ ε Unit
  | [] => pure ()
  | b :: bs => do
    f b
    forEach f bs

/-- The loop that adds up what its turns return. -/
def sumEach (f : β → Prog σ ε Nat) : List β → Prog σ ε Nat
  | [] => pure 0
  | b :: bs => do
    let n ← f b
    let rest ← sumEach f bs
    pure (n + rest)

/-- The loop that keeps what its turns return. -/
def collect (f : β → Prog σ ε (Option α)) : List β → Prog σ ε (List α)
  | [] => pure []
  | b :: bs => do
    let a ← f b
    let rest ← collect f bs
    pure (a.toList ++ rest)

/-- `try … finally`: the clean-up runs after a result and after an error, not
    after a crash. -/
def ensure (m : Prog σ ε α) (cleanup : Prog σ ε Unit) : Prog σ ε α := do
  let result ← attempt m
  cleanup
  match result with
  | .ok a => pure a
  | .error error => raise error

/-- A stretch of the program in which no operation fails by the script. -/
def faultless (m : Prog σ ε α) : Prog σ ε α := fun w =>
  match m ⟨w.state, []⟩ with
  | (result, w') => (result, ⟨w'.state, w.script⟩)

def onPart (get : τ → σ) (set : σ → τ → τ) (m : Prog σ ε α) : Prog τ ε α := fun w =>
  match m ⟨get w.state, w.script⟩ with
  | (result, w') => (result, ⟨set w'.state w.state, w'.script⟩)

/-- The run of a program on a state under a script. -/
def exec (m : Prog σ ε α) (script : List (Fault ε)) (s : σ) : Except (Stop ε) α × σ :=
  let (result, w) := m ⟨s, script⟩
  (result, w.state)

variable {bs : List β} {m' : Prog σ ε α} {w : World σ ε} {g : β → Prog σ ε (Option α)}

variable {m : Prog σ ε α} {f : α → Prog σ ε β} {w' : World σ ε}

/-- A program goes on where the one before it returned. -/
theorem bind_of_ok {a : α} (h : m w = (.ok a, w')) : (m >>= f) w = f a w' := by
  show (match m w with
    | (.ok a, w') => f a w'
    | (.error stop, w') => (.error stop, w')) = _
  rw [h]

theorem bind_of_error {stop : Stop ε} (h : m w = (.error stop, w')) :
    (m >>= f) w = (.error stop, w') := by
  show (match m w with
    | (.ok a, w') => f a w'
    | (.error stop, w') => (.error stop, w')) = _
  rw [h]

theorem bind_assoc {γ : Type} (m : Prog σ ε α) (f : α → Prog σ ε β) (g : β → Prog σ ε γ) :
    (m >>= f) >>= g = m >>= fun a => f a >>= g := by
  funext w
  show (match (match m w with
      | (.ok a, w') => f a w'
      | (.error stop, w') => (.error stop, w') : Except (Stop ε) β × World σ ε) with
    | (.ok b, w') => g b w'
    | (.error stop, w') => (.error stop, w')) = (match m w with
    | (.ok a, w') => (f a >>= g) w'
    | (.error stop, w') => (.error stop, w'))
  rcases m w with ⟨stop | a, w'⟩
  · rfl
  · rfl

/-! ## §2. Pre- and postconditions. -/

/-- Operation `n` of the script does not fail with an error. -/
def PassesAt (script : List (Fault ε)) (n : Nat) : Prop := ∀ error, script[n]? ≠ some (.throws error)

theorem PassesAt.tail {script : List (Fault ε)} {n : Nat} (h : PassesAt script (n + 1)) :
    PassesAt script.tail n := by
  intro error
  rw [List.getElem?_tail]
  exact h error

/-- An operation is done or fails, and takes one entry of the script. -/
theorem op_cases (f : σ → Except ε (α × σ)) (w : World σ ε) :
    (∃ a s, f w.state = .ok (a, s) ∧ Lib.Faulty.op f w = (.ok a, ⟨s, w.script.tail⟩)) ∨
    (∃ error, (f w.state = .error error ∨ ¬ PassesAt w.script 0) ∧
      Lib.Faulty.op f w = (.error (.thrown error), ⟨w.state, w.script.tail⟩)) ∨
    (.crash ∈ w.script ∧ Lib.Faulty.op f w = (.error .crashed, ⟨w.state, w.script.tail⟩)) := by
  obtain ⟨state, script⟩ := w
  rcases script with _ | ⟨_ | error | _, rest⟩
  case cons.throws => exact .inr (.inl ⟨error, .inr fun hpass => hpass error rfl, rfl⟩)
  case cons.crash => exact .inr (.inr ⟨List.mem_cons_self, rfl⟩)
  all_goals
    unfold Lib.Faulty.op
    dsimp only
    rcases f state with error | ⟨a, s⟩
    · exact .inr (.inl ⟨error, .inl rfl, rfl⟩)
    · exact .inl ⟨a, s, rfl, rfl⟩

/-- An operation takes one entry of the script, whatever comes of it. -/
theorem op_script {f : σ → Except ε (α × σ)} {w : World σ ε} :
    (Lib.Faulty.op f w).2.script = w.script.drop 1 := by
  rw [List.drop_one]
  obtain ⟨a, s, -, hrun⟩ | ⟨error, -, hrun⟩ | ⟨-, hrun⟩ := op_cases f w <;> rw [hrun]

/-- A triple whose conditions are of the state and of the faults to come. -/
def ScriptTriple (P : World σ ε → Prop) (m : Prog σ ε α) (Q : α → World σ ε → Prop)
    (E : Stop ε → World σ ε → Prop) : Prop :=
  ∀ w, P w →
    match m w with
    | (.ok a, w') => Q a w'
    | (.error stop, w') => E stop w'

section Scripts

variable {P P' : World σ ε → Prop} {Q Q' : α → World σ ε → Prop} {R : β → World σ ε → Prop}
  {E E' : Stop ε → World σ ε → Prop} {m : Prog σ ε α} {f : α → Prog σ ε β}

theorem ScriptTriple.conseq (h : ScriptTriple P m Q E) (hP : ∀ w, P' w → P w)
    (hQ : ∀ a w, Q a w → Q' a w) (hE : ∀ stop w, E stop w → E' stop w) :
    ScriptTriple P' m Q' E' := by
  intro w hw
  have := h w (hP _ hw)
  revert this
  rcases m w with ⟨_ | a, w'⟩
  · exact hE _ _
  · exact hQ _ _

theorem ScriptTriple.pure {a : α} (h : ∀ w, P w → Q a w) :
    ScriptTriple P (Pure.pure a : Prog σ ε α) Q E := fun w hw => h w hw

theorem ScriptTriple.bind (hm : ScriptTriple P m Q E) (hf : ∀ a, ScriptTriple (Q a) (f a) R E) :
    ScriptTriple P (m >>= f) R E := by
  intro w hw
  have := hm w hw
  show match (match m w with
    | (.ok a, w') => f a w'
    | (.error stop, w') => (.error stop, w')) with
    | (.ok a, w') => R a w'
    | (.error stop, w') => E stop w'
  revert this
  rcases m w with ⟨_ | a, w'⟩
  · exact fun h => h
  · exact hf a w'

/-- An operation, whatever the script does to it. -/
theorem ScriptTriple.step {f : σ → Except ε (α × σ)}
    (hok : ∀ w a s, P w → f w.state = .ok (a, s) → Q a ⟨s, w.script.tail⟩)
    (hthrown : ∀ w error, P w → f w.state = .error error ∨ ¬ PassesAt w.script 0 →
      E (.thrown error) ⟨w.state, w.script.tail⟩)
    (hcrashed : ∀ w, P w → .crash ∈ w.script → E .crashed ⟨w.state, w.script.tail⟩) :
    ScriptTriple P (Lib.Faulty.op f) Q E := by
  intro w hw
  obtain ⟨a, s, hf, hrun⟩ | ⟨error, hfails, hrun⟩ | ⟨hcrash, hrun⟩ := op_cases f w
  · rw [hrun]
    exact hok w a s hw hf
  · rw [hrun]
    exact hthrown w error hw hfails
  · rw [hrun]
    exact hcrashed w hw hcrash

theorem ScriptTriple.op {f : σ → Except ε (α × σ)}
    (hok : ∀ w, P w → ∃ a s, f w.state = .ok (a, s) ∧ Q a ⟨s, w.script.tail⟩)
    (hthrown : ∀ w error, P w → ¬ PassesAt w.script 0 →
      E (.thrown error) ⟨w.state, w.script.tail⟩)
    (hcrashed : ∀ w, P w → E .crashed ⟨w.state, w.script.tail⟩) :
    ScriptTriple P (Lib.Faulty.op f) Q E := by
  refine .step (fun w a s hw hf => ?_) (fun w error hw hfails => ?_) fun w hw _ => hcrashed w hw
  · obtain ⟨a', s', hf', hq⟩ := hok w hw
    cases hf'.symm.trans hf
    exact hq
  · obtain ⟨a', s', hf', -⟩ := hok w hw
    exact hthrown w error hw (hfails.resolve_left fun hf => nomatch hf'.symm.trans hf)

theorem ScriptTriple.attempt {Q : Except ε α → World σ ε → Prop}
    (h : ScriptTriple P m (fun a => Q (.ok a))
      (fun stop w => match stop with | .thrown error => Q (.error error) w | .crashed => E .crashed w)) :
    ScriptTriple P (attempt m) Q E := by
  intro w hw
  have := h w hw
  unfold Lib.Faulty.attempt
  revert this
  rcases m w with ⟨stop | a, w'⟩
  · cases stop with
    | thrown | crashed => exact fun h => h
  · exact fun h => h

theorem ScriptTriple.ite {c : Prop} [Decidable c] (ht : c → ScriptTriple P m Q E)
    (hf : ¬ c → ScriptTriple P m' Q E) : ScriptTriple P (if c then m else m') Q E := by
  by_cases hc : c
  · rw [if_pos hc]
    exact ht hc
  · rw [if_neg hc]
    exact hf hc

end Scripts

/-- From a state of `P` the program returns in a state of `Q`, or stops in one
    of `E`. -/
def Triple (P : σ → Prop) (m : Prog σ ε α) (Q : α → σ → Prop) (E : Stop ε → σ → Prop) : Prop :=
  ∀ w, P w.state →
    match m w with
    | (.ok a, w') => Q a w'.state
    | (.error stop, w') => E stop w'.state

variable {P P' I : σ → Prop} {Q Q' : α → σ → Prop} {R : β → σ → Prop} {E E' : Stop ε → σ → Prop}
  {m : Prog σ ε α} {f : α → Prog σ ε β}

/-- A triple is one that says nothing of the faults to come. -/
theorem triple_iff : Triple P m Q E ↔
    ScriptTriple (fun w => P w.state) m (fun a w => Q a w.state) (fun stop w => E stop w.state) :=
  Iff.rfl

theorem Triple.script (h : Triple P m Q E) :
    ScriptTriple (fun w => P w.state) m (fun a w => Q a w.state) (fun stop w => E stop w.state) := h

theorem Triple.conseq (h : Triple P m Q E) (hP : ∀ s, P' s → P s) (hQ : ∀ a s, Q a s → Q' a s)
    (hE : ∀ stop s, E stop s → E' stop s) : Triple P' m Q' E' :=
  triple_iff.mpr (h.script.conseq (fun _ => hP _) (fun _ _ => hQ _ _) fun _ _ => hE _ _)

theorem Triple.pure {a : α} (h : ∀ s, P s → Q a s) :
    Triple P (Pure.pure a : Prog σ ε α) Q E := fun w hw => h w.state hw

theorem Triple.bind (hm : Triple P m Q E) (hf : ∀ a, Triple (Q a) (f a) R E) :
    Triple P (m >>= f) R E :=
  triple_iff.mpr (hm.script.bind fun a => (hf a).script)

theorem Triple.raise {error : ε} (h : ∀ s, P s → E (.thrown error) s) :
    Triple P (raise error : Prog σ ε α) Q E := fun w hw => h w.state hw

theorem Triple.op {f : σ → Except ε (α × σ)}
    (hok : ∀ s a s', P s → f s = .ok (a, s') → Q a s') (hstop : ∀ stop s, P s → E stop s) :
    Triple P (op f) Q E :=
  triple_iff.mpr (.step (fun _ _ _ hw hf => hok _ _ _ hw hf) (fun _ _ hw _ => hstop _ _ hw)
    fun _ hw _ => hstop _ _ hw)

theorem Triple.tick {Q : Unit → σ → Prop} (hok : ∀ s, P s → Q () s) (hstop : ∀ stop s, P s → E stop s) :
    Triple P tick Q E := by
  refine Triple.op ?_ hstop
  intro s a s' hs heq
  injection heq with heq
  injection heq with _ hs'
  subst hs'
  exact hok s hs

theorem Triple.look {Q : σ → σ → Prop} (h : ∀ s, P s → Q s s) :
    Triple P (look : Prog σ ε σ) Q E := fun w hw => h w.state hw

theorem Triple.note {f : σ → σ} {Q : Unit → σ → Prop} (h : ∀ s, P s → Q () (f s)) :
    Triple P (note f : Prog σ ε Unit) Q E := fun w hw => h w.state hw

theorem Triple.attempt {Q : Except ε α → σ → Prop}
    (h : Triple P m (fun a => Q (.ok a))
      (fun stop s => match stop with | .thrown error => Q (.error error) s | .crashed => E .crashed s)) :
    Triple P (attempt m) Q E := by
  refine triple_iff.mpr (.attempt (h.script.conseq (fun _ h => h) (fun _ _ h => h) fun stop _ h => ?_))
  cases stop <;> exact h

/-- After an `attempt`: what was returned, or what holds wherever it stops. -/
theorem Triple.bind_attempt {C : σ → Prop} {k : Except ε α → Prog σ ε β}
    (hm : Triple P m Q fun _ => C) (hok : ∀ a, Triple (Q a) (k (.ok a)) R E)
    (herror : ∀ error, Triple C (k (.error error)) R E) (hcrash : ∀ s, C s → E .crashed s) :
    Triple P (Lib.Faulty.attempt m >>= k) R E := by
  refine Triple.bind (Q := fun result s => (∀ a, result = .ok a → Q a s) ∧
    ∀ error, result = .error error → C s)
    (Triple.attempt (hm.conseq (fun _ h => h) ?_ ?_)) fun result => ?_
  · intro a s h
    exact ⟨fun _ heq => Except.ok.inj heq ▸ h, fun _ heq => (by cases heq)⟩
  · intro stop s h
    cases stop with
    | thrown error => exact ⟨fun _ heq => (by cases heq), fun _ _ => h⟩
    | crashed => exact hcrash s h
  · cases result with
    | ok a => exact (hok a).conseq (fun _ h => h.1 a rfl) (fun _ _ h => h) fun _ _ h => h
    | error error => exact (herror error).conseq (fun _ h => h.2 error rfl) (fun _ _ h => h) fun _ _ h => h

variable {c : Prop} {script : List (Fault ε)}

theorem Triple.ite [Decidable c] (ht : c → Triple P m Q E) (hf : ¬ c → Triple P m' Q E) :
    Triple P (if c then m else m') Q E :=
  triple_iff.mpr (.ite ht hf)

theorem Triple.ensure {cleanup : Prog σ ε Unit} {M : Except ε α → σ → Prop}
    (hm : Triple P m (fun a => M (.ok a))
      (fun stop s => match stop with | .thrown error => M (.error error) s | .crashed => E .crashed s))
    (hcleanup : ∀ result, Triple (M result) cleanup
      (fun _ s => match result with | .ok a => Q a s | .error error => E (.thrown error) s) E) :
    Triple P (ensure m cleanup) Q E := by
  unfold Lib.Faulty.ensure
  refine Triple.bind (Triple.attempt hm) fun result => Triple.bind (hcleanup result) fun _ => ?_
  cases result with
  | ok a => exact Triple.pure fun _ h => h
  | error error => exact Triple.raise fun _ h => h

/-- The postcondition, of a run that returns. -/
theorem Triple.exec_ok {s : σ} {a : α} (h : Triple P m Q E) (hs : P s)
    (hrun : (exec m script s).1 = .ok a) : Q a (exec m script s).2 := by
  have := h ⟨s, script⟩ hs
  unfold Lib.Faulty.exec at hrun ⊢
  revert this hrun
  rcases m ⟨s, script⟩ with ⟨_ | a', w'⟩
  · intro hrun
    cases hrun
  · intro hrun hpost
    injection hrun with hrun
    subst hrun
    exact hpost

theorem Triple.faultless (h : Triple P m Q E) : Triple P (faultless m) Q E := by
  intro w hw
  have := h ⟨w.state, []⟩ hw
  unfold Lib.Faulty.faultless
  revert this
  rcases m ⟨w.state, []⟩ with ⟨_ | a, w'⟩
  · exact fun h => h
  · exact fun h => h

/-- What a program does to its part, and the rest of the state is as it was. -/
theorem Triple.onPart {get : τ → σ} {set : σ → τ → τ} {P : τ → Prop} {Q : α → τ → Prop}
    {E : Stop ε → τ → Prop}
    (h : ∀ t, P t → Triple (· = get t) m (fun a s => Q a (set s t)) (fun stop s => E stop (set s t))) :
    Triple P (onPart get set m) Q E := by
  intro w hw
  have := h w.state hw ⟨get w.state, w.script⟩ rfl
  unfold Lib.Faulty.onPart
  revert this
  rcases m ⟨get w.state, w.script⟩ with ⟨_ | a, w'⟩
  · exact fun h => h
  · exact fun h => h

/-- A loop whose turns keep `P` where they return. -/
theorem Triple.collect (h : ∀ b, Triple P (g b) (fun _ => P) E) :
    Triple P (collect g bs) (fun _ => P) E := by
  induction bs with
  | nil => exact Triple.pure fun _ hs => hs
  | cons b bs ih => exact Triple.bind (h b) fun _ => Triple.bind ih fun _ => Triple.pure fun _ hs => hs

/-- What the state says of itself may be moved out of the precondition. -/
theorem Triple.of_forall {p : Prop} (h : p → Triple P m Q E) :
    Triple (fun s => p ∧ P s) m Q E := fun w hw => h hw.1 w hw.2

theorem Triple.and (h : Triple P m Q E) (h' : Triple P' m Q' E') :
    Triple (fun s => P s ∧ P' s) m (fun a s => Q a s ∧ Q' a s) (fun stop s => E stop s ∧ E' stop s) := by
  intro w hw
  have h₁ := h w hw.1
  have h₂ := h' w hw.2
  revert h₁ h₂
  rcases m w with ⟨_ | a, w'⟩
  · exact fun h₁ h₂ => ⟨h₁, h₂⟩
  · exact fun h₁ h₂ => ⟨h₁, h₂⟩

/-- A program with nothing said of it. -/
theorem Triple.top : Triple (fun _ => True) m (fun _ _ => True) (fun _ _ => True) := by
  intro w _
  rcases m w with ⟨_ | a, w'⟩
  · trivial
  · trivial

/-- The precondition may be taken one state at a time. -/
theorem Triple.pin (h : ∀ s, P s → Triple (· = s) m Q E) : Triple P m Q E :=
  fun w hw => h w.state hw w rfl

/-! ## §3. Programs that only look. -/

/-- The program leaves the state alone, and what it returns is `Q` of it. -/
def Observes (m : Prog σ ε α) (Q : α → σ → Prop) : Prop :=
  ∀ s, Triple (· = s) m (fun a s' => s' = s ∧ Q a s) (fun _ s' => s' = s)

theorem Observes.triple (h : Observes m Q) :
    Triple P m (fun a s => P s ∧ Q a s) (fun _ => P) := by
  refine Triple.pin fun s hs => (h s).conseq (fun _ h => h) ?_ ?_
  · rintro a s' ⟨rfl, hq⟩
    exact ⟨hs, hq⟩
  · rintro _ s' rfl
    exact hs

theorem Observes.pure {a : α} (h : ∀ s, Q a s) : Observes (Pure.pure a : Prog σ ε α) Q :=
  fun s => Triple.pure fun _ hs => ⟨hs, h s⟩

theorem Observes.op {f : σ → Except ε (α × σ)}
    (h : ∀ s a s', f s = .ok (a, s') → s' = s ∧ Q a s) : Observes (op f) Q := by
  intro s
  refine Triple.op ?_ fun _ _ hs => hs
  rintro s' a s'' rfl heq
  exact h _ _ _ heq

theorem Observes.tick : Observes (tick : Prog σ ε Unit) (fun _ _ => True) :=
  fun _ => Triple.tick (fun _ hs => ⟨hs, trivial⟩) fun _ _ hs => hs

theorem Observes.bind (hm : Observes m Q)
    (hf : ∀ a, Observes (f a) (fun b s => Q a s → R b s)) : Observes (m >>= f) R := by
  intro s
  refine Triple.bind (hm s) fun a => Triple.pin ?_
  rintro s' ⟨rfl, hq⟩
  refine (hf a s').conseq (fun _ h => h) ?_ fun _ _ h => h
  rintro b s'' ⟨hs, hr⟩
  exact ⟨hs, hr hq⟩

theorem Observes.attempt {Q : Except ε α → σ → Prop} (hm : Observes m fun a => Q (.ok a))
    (herror : ∀ error s, Q (.error error) s) : Observes (attempt m) Q := by
  intro s
  refine Triple.attempt ((hm s).conseq (fun _ h => h) (fun _ _ h => h) ?_)
  rintro (error | -) s' rfl
  · exact ⟨rfl, herror error s'⟩
  · rfl

theorem Observes.mono (h : Observes m Q) (himp : ∀ a s, Q a s → Q' a s) : Observes m Q' :=
  fun s => (h s).conseq (fun _ h => h) (fun a _ h => ⟨h.1, himp a s h.2⟩) fun _ _ h => h

theorem Observes.ite [Decidable c] (ht : c → Observes m Q) (hf : ¬ c → Observes m' Q) :
    Observes (if c then m else m') Q :=
  fun s => Triple.ite (fun hc => ht hc s) fun hc => hf hc s

/-- What was observed of a state is known of it when the program goes on. -/
theorem Observes.andThen (hm : Observes m Q) (hstop : ∀ stop s, P s → E stop s)
    (hf : ∀ a s, P s → Q a s → Triple (· = s) (f a) R E) : Triple P (m >>= f) R E := by
  refine Triple.pin fun s hs => Triple.bind
    ((hm s).conseq (fun _ h => h) (fun _ _ h => h) ?_) fun a => Triple.pin ?_
  · rintro stop s' rfl
    exact hstop stop s' hs
  · rintro s' ⟨rfl, hq⟩
    exact hf a s' hs hq

/-- A collecting loop returns what its turns return. -/
theorem Observes.collect {V : β → α → σ → Prop}
    (h : ∀ b ∈ bs, Observes (g b) fun a s => ∀ x, a = some x → V b x s) :
    Observes (collect g bs) fun as s => ∀ x ∈ as, ∃ b ∈ bs, V b x s := by
  induction bs with
  | nil => exact Observes.pure fun s => by simp
  | cons b bs ih =>
    rw [List.forall_mem_cons] at h
    refine Observes.bind h.1 fun a => Observes.bind (ih h.2) fun rest => Observes.pure fun s => ?_
    intro hrest ha x hx
    rcases List.mem_append.mp hx with hx | hx
    · exact ⟨b, List.mem_cons_self, ha x (Option.mem_toList.mp hx)⟩
    · obtain ⟨b', hb', hv⟩ := hrest x hx
      exact ⟨b', List.mem_cons_of_mem _ hb', hv⟩

/-- A collecting loop returns at most one value for each turn that may. -/
theorem Observes.collect_length {p : β → Bool}
    (h : ∀ b ∈ bs, Observes (g b) fun a _ => ∀ x, a = some x → p b = true) :
    Observes (Lib.Faulty.collect g bs) fun as _ => as.length ≤ bs.countP p := by
  induction bs with
  | nil => exact Observes.pure fun s => Nat.le_refl 0
  | cons b bs ih =>
    rw [List.forall_mem_cons] at h
    refine Observes.bind h.1 fun a => Observes.bind (ih h.2) fun rest => Observes.pure fun s => ?_
    intro hrest ha
    rw [List.length_append, List.countP_cons]
    cases a with
    | none =>
      rw [Option.toList_none, List.length_nil]
      omega
    | some x =>
      rw [if_pos (ha x rfl), Option.toList_some, List.length_singleton]
      omega

theorem Observes.and (h : Observes m Q) (h' : Observes m Q') :
    Observes m fun a s => Q a s ∧ Q' a s := by
  intro s w hw
  have h₁ := h s w hw
  have h₂ := h' s w hw
  revert h₁ h₂
  rcases m w with ⟨_ | a, w'⟩
  · exact fun h₁ _ => h₁
  · exact fun h₁ h₂ => ⟨h₁.1, h₁.2, h₂.2⟩

/-! ## §4. Invariants. -/

/-- The program keeps `I`, whether it returns, throws or crashes. -/
def Keeps (I : σ → Prop) (m : Prog σ ε α) : Prop := Triple I m (fun _ => I) (fun _ => I)

theorem Keeps.pure {a : α} : Keeps I (Pure.pure a : Prog σ ε α) := Triple.pure fun _ h => h

theorem Keeps.bind (hm : Keeps I m) (hf : ∀ a, Keeps I (f a)) : Keeps I (m >>= f) :=
  Triple.bind hm hf

theorem Keeps.op {f : σ → Except ε (α × σ)} (h : ∀ s a s', I s → f s = .ok (a, s') → I s') :
    Keeps I (op f) := Triple.op h fun _ _ hs => hs

theorem Keeps.tick : Keeps I (tick : Prog σ ε Unit) := Triple.tick (fun _ h => h) fun _ _ h => h

theorem Keeps.attempt (hm : Keeps I m) : Keeps I (attempt m) := by
  refine Triple.attempt (hm.conseq (fun _ h => h) (fun _ _ h => h) ?_)
  intro stop s hs
  cases stop <;> exact hs

theorem Keeps.and {I' : σ → Prop} (h : Keeps I m) (h' : Keeps I' m) :
    Keeps (fun s => I s ∧ I' s) m := Triple.and h h'

theorem Keeps.ite [Decidable c] (ht : Keeps I m) (hf : Keeps I m') :
    Keeps I (if c then m else m') := Triple.ite (fun _ => ht) fun _ => hf

theorem Keeps.forEach {g : β → Prog σ ε Unit} (h : ∀ b ∈ bs, Keeps I (g b)) :
    Keeps I (forEach g bs) := by
  induction bs with
  | nil => exact Keeps.pure
  | cons b bs ih =>
    rw [List.forall_mem_cons] at h
    exact Keeps.bind h.1 fun _ => ih h.2

theorem Keeps.sumEach {g : β → Prog σ ε Nat} (h : ∀ b ∈ bs, Keeps I (g b)) :
    Keeps I (sumEach g bs) := by
  induction bs with
  | nil => exact Keeps.pure
  | cons b bs ih =>
    rw [List.forall_mem_cons] at h
    exact Keeps.bind h.1 fun _ => Keeps.bind (ih h.2) fun _ => Keeps.pure

theorem Observes.keeps (h : Observes m Q) : Keeps I m :=
  (h.triple).conseq (fun _ h => h) (fun _ _ h => h.1) fun _ _ h => h

/-- The state a run leaves, from the triple of its invariant. -/
theorem Keeps.exec {s : σ} (h : Keeps I m) (hs : I s) :
    I (exec m script s).2 := by
  have := h ⟨s, script⟩ hs
  unfold Lib.Faulty.exec
  revert this
  rcases m ⟨s, script⟩ with ⟨_ | a, w⟩
  · exact fun h => h
  · exact fun h => h

/-! ## §5. Scripts without a crash. -/

/-- The process does not die under the script. -/
def NoCrash (script : List (Fault ε)) : Prop := .crash ∉ script

/-- Under a script without a crash the program ends with a result or an error,
    and what is left of the script has no crash. -/
def Survives (m : Prog σ ε α) : Prop :=
  ∀ w, NoCrash w.script → NoCrash (m w).2.script ∧ (m w).1 ≠ .error .crashed

theorem survives_iff : Survives m ↔ ScriptTriple (fun w => NoCrash w.script) m
    (fun _ w => NoCrash w.script) (fun stop w => NoCrash w.script ∧ stop ≠ .crashed) := by
  refine forall_congr' fun w => forall_congr' fun _ => ?_
  rcases m w with ⟨stop | a, w'⟩
  · exact and_congr_right fun _ => not_congr ⟨Except.error.inj, congrArg Except.error⟩
  · exact and_iff_left nofun

theorem Survives.pure {a : α} : Survives (Pure.pure a : Prog σ ε α) := fun _ hw => ⟨hw, nofun⟩

theorem Survives.raise {error : ε} : Survives (raise error : Prog σ ε α) :=
  fun _ hw => ⟨hw, fun h => nomatch h⟩

theorem Survives.note {f : σ → σ} : Survives (note f : Prog σ ε Unit) := fun _ hw => ⟨hw, nofun⟩

theorem Survives.op {f : σ → Except ε (α × σ)} : Survives (op f) := by
  have htail : ∀ w : World σ ε, NoCrash w.script → NoCrash w.script.tail :=
    fun w hw hmem => hw (List.mem_of_mem_tail hmem)
  exact survives_iff.mpr (.step (fun w _ _ hw _ => htail w hw)
    (fun w _ hw _ => ⟨htail w hw, nofun⟩) fun _ hw hcrash => absurd hcrash hw)

theorem Survives.tick : Survives (tick : Prog σ ε Unit) := .op

theorem Survives.bind (hm : Survives m) (hf : ∀ a, Survives (f a)) : Survives (m >>= f) :=
  survives_iff.mpr ((survives_iff.mp hm).bind fun a => survives_iff.mp (hf a))

theorem Survives.attempt (hm : Survives m) : Survives (attempt m) := by
  refine survives_iff.mpr (.attempt ((survives_iff.mp hm).conseq (fun _ h => h) (fun _ _ h => h) ?_))
  rintro (error | _) w ⟨hrest, hstop⟩
  · exact hrest
  · exact absurd rfl hstop

theorem Survives.ite [Decidable c] (ht : Survives m) (hf : Survives m') :
    Survives (if c then m else m') := by
  split
  · exact ht
  · exact hf

theorem Survives.collect (h : ∀ b, Survives (g b)) :
    Survives (collect g bs) := by
  induction bs with
  | nil => exact Survives.pure
  | cons b bs ih => exact Survives.bind (h b) fun _ => Survives.bind ih fun _ => Survives.pure

theorem Survives.attempt_returns (hm : Survives m) (hw : NoCrash w.script) :
    ∃ result w', Lib.Faulty.attempt m w = (.ok result, w') ∧ NoCrash w'.script := by
  have hrun := survives_iff.mp hm w hw
  unfold Lib.Faulty.attempt
  revert hrun
  rcases m w with ⟨(error | _) | a, w'⟩
  · exact fun hrest => ⟨_, w', rfl, hrest.1⟩
  · exact fun hrest => absurd rfl hrest.2
  · exact fun hrest => ⟨_, w', rfl, hrest⟩

/-! ## §6. Runs without faults. -/

/-- With nothing failing, the program returns `a` and leaves `s'`. -/
def Returns (m : Prog σ ε α) (s : σ) (a : α) (s' : σ) : Prop :=
  m ⟨s, []⟩ = (.ok a, ⟨s', []⟩)

/-- With nothing failing by the script, the program throws and leaves `s'`. -/
def Throws (m : Prog σ ε α) (s : σ) (error : ε) (s' : σ) : Prop :=
  m ⟨s, []⟩ = (.error (.thrown error), ⟨s', []⟩)

variable {s s' s'' : σ} {a : α} {b : β} {error : ε}

theorem Returns.pure : Returns (Pure.pure a : Prog σ ε α) s a s := rfl

theorem Returns.tick : Returns (tick : Prog σ ε Unit) s () s := rfl

theorem Returns.look : Returns (look : Prog σ ε σ) s s s := rfl

theorem Returns.op {f : σ → Except ε (α × σ)} (h : f s = .ok (a, s')) : Returns (op f) s a s' := by
  unfold Returns Lib.Faulty.op
  dsimp only
  rw [h]
  rfl

theorem Throws.op {f : σ → Except ε (α × σ)} (h : f s = .error error) :
    Throws (Lib.Faulty.op f) s error s := by
  unfold Throws Lib.Faulty.op
  dsimp only
  rw [h]
  rfl

theorem Returns.bind (hm : Returns m s a s') (hf : Returns (f a) s' b s'') :
    Returns (m >>= f) s b s'' := (bind_of_ok hm).trans hf

theorem Throws.bind (hm : Throws m s error s') : Throws (m >>= f) s error s' := by
  show (match m ⟨s, []⟩ with
    | (.ok a, w') => f a w'
    | (.error stop, w') => (.error stop, w')) = _
  rw [hm]

theorem Returns.attempt (h : Returns m s a s') : Returns (attempt m) s (.ok a) s' := by
  unfold Returns Lib.Faulty.attempt
  rw [h]

theorem Throws.attempt (h : Throws m s error s') :
    Returns (Lib.Faulty.attempt m) s (.error error) s' := by
  unfold Returns Lib.Faulty.attempt
  rw [h]

/-- A loop whose turns do `step` does the fold of `step`. -/
theorem Returns.sumEach {g : β → Prog σ ε Nat} (step : σ → β → σ) (bs : List β)
    (hstep : ∀ s, ∀ b ∈ bs, I s → I (step s b))
    (h : ∀ s, ∀ b ∈ bs, I s → ∃ n, Returns (g b) s n (step s b)) (hs : I s) :
    ∃ n, Returns (sumEach g bs) s n (bs.foldl step s) := by
  induction bs generalizing s with
  | nil => exact ⟨0, rfl⟩
  | cons b bs ih =>
    obtain ⟨n, hn⟩ := h s b List.mem_cons_self hs
    obtain ⟨k, hk⟩ := ih (fun s x hx => hstep s x (List.mem_cons_of_mem _ hx))
      (fun s x hx => h s x (List.mem_cons_of_mem _ hx)) (hstep s b List.mem_cons_self hs)
    exact ⟨n + k, Returns.bind hn (Returns.bind hk rfl)⟩

theorem Returns.collect {v : β → Option α} (bs : List β) (h : ∀ b ∈ bs, Returns (g b) s (v b) s) :
    Returns (collect g bs) s (bs.filterMap v) s := by
  induction bs with
  | nil => rfl
  | cons b bs ih =>
    rw [List.forall_mem_cons] at h
    have hcons : (b :: bs).filterMap v = (v b).toList ++ bs.filterMap v := by
      rw [List.filterMap_cons]
      cases v b <;> rfl
    rw [hcons]
    exact Returns.bind h.1 (Returns.bind (ih h.2) rfl)

theorem Returns.exec (h : Returns m s a s') : Lib.Faulty.exec m [] s = (.ok a, s') := by
  unfold Lib.Faulty.exec
  rw [h]

end Lib.Faulty
