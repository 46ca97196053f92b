/-
  TokenTimer.Lib.Scripts — programs that take their faults from the front of the
  script, and scripts made so that a program comes to a given operation.

  `Spares` is what every program built from operations does with its script: it drops
  a front part.  What is known of each fault of a script stays known.  `Proceeds` is
  a run in which enough operations pass, whatever stands behind them.

  Main results:
    * `Observes.sees` — a program that looks keeps the state and what is known of the
        faults to come.
    * `Proceeds.reaches` — a program that proceeds, followed by one that reaches a result.
-/

import TokenTimer.Lib.Faulty
import Mathlib.Data.List.Basic

namespace Lib.Faulty

variable {σ ε α β : Type}

/-! ## §1. The faults that are left. -/

/-- The program drops a front part of the script. -/
def Spares (m : Prog σ ε α) : Prop := ∀ w, (m w).2.script <:+ w.script

theorem Spares.pure {a : α} : Spares (Pure.pure a : Prog σ ε α) := fun _ => List.suffix_rfl

theorem Spares.raise {error : ε} : Spares (raise error : Prog σ ε α) := fun _ => List.suffix_rfl

theorem Spares.op {f : σ → Except ε (α × σ)} : Spares (op f) := by
  intro w
  rw [op_script]
  exact List.drop_suffix 1 _

theorem Spares.tick : Spares (tick : Prog σ ε Unit) := .op

theorem Spares.bind {m : Prog σ ε α} {f : α → Prog σ ε β} (hm : Spares m) (hf : ∀ a, Spares (f a)) :
    Spares (m >>= f) := by
  intro w
  have hfront := hm w
  rcases hrun : m w with ⟨stop | a, w'⟩
  · rw [hrun] at hfront
    rw [bind_of_error hrun]
    exact hfront
  · rw [hrun] at hfront
    rw [bind_of_ok hrun]
    exact (hf a w').trans hfront

theorem Spares.attempt {m : Prog σ ε α} (hm : Spares m) : Spares (attempt m) := by
  intro w
  have hfront := hm w
  unfold Lib.Faulty.attempt
  rcases hrun : m w with ⟨(error | _) | a, w'⟩
  · rw [hrun] at hfront
    exact hfront
  · rw [hrun] at hfront
    exact hfront
  · rw [hrun] at hfront
    exact hfront

theorem Spares.ite {c : Prop} [Decidable c] {m m' : Prog σ ε α} (ht : Spares m) (hf : Spares m') :
    Spares (if c then m else m') := by
  split
  · exact ht
  · exact hf

variable {g : β → Prog σ ε Unit} {bs : List β} {p : α → Prop}

theorem Spares.forEach (h : ∀ b, Spares (g b)) :
    Spares (forEach g bs) := by
  induction bs with
  | nil => exact .pure
  | cons b bs ih => exact .bind (h b) fun _ => ih

def Under (kind : Fault ε → Prop) (s : σ) (w : World σ ε) : Prop :=
  w.state = s ∧ ∀ fault ∈ w.script, kind fault

variable {kind : Fault ε → Prop} {s s' s'' : σ} {m : Prog σ ε α} {Q : α → σ → Prop}

/-- Under faults of a kind the program leaves the state, and returns a value of `p`. -/
def Sees (kind : Fault ε → Prop) (s : σ) (m : Prog σ ε α) (p : α → Prop) : Prop :=
  ScriptTriple (Under kind s) m (fun a w => Under kind s w ∧ p a) (fun _ _ => True)

/-- A program that looks leaves the state, and faults of the same kind. -/
theorem Observes.sees (h : Observes m Q) (hm : Spares m) : Sees kind s m (fun a => Q a s) := by
  rintro w ⟨rfl, hfaults⟩
  have hfront := hm w
  have hlook := h w.state w rfl
  revert hfront hlook
  rcases m w with ⟨stop | a, w'⟩
  · exact fun _ _ => trivial
  · rintro hfront ⟨hstate, hq⟩
    exact ⟨⟨hstate, fun fault hmem => hfaults fault (hfront.subset hmem)⟩, hq⟩

theorem Sees.pure {a : α} (h : p a) : Sees kind s (Pure.pure a : Prog σ ε α) p :=
  fun _ hw => ⟨hw, h⟩

theorem Sees.bind {f : α → Prog σ ε β} {R : β → World σ ε → Prop} (hm : Sees kind s m p)
    (hf : ∀ a, p a → ScriptTriple (Under kind s) (f a) R (fun _ _ => True)) :
    ScriptTriple (Under kind s) (m >>= f) R (fun _ _ => True) :=
  ScriptTriple.bind hm fun a w hw => hf a hw.2 w hw.1

theorem Triple.under {P : σ → Prop} {E : Stop ε → σ → Prop} (h : Triple P m Q E) (hs : P s) :
    ScriptTriple (Under kind s) m (fun a w => Q a w.state) (fun _ _ => True) := by
  rintro w ⟨rfl, -⟩
  have hrun := h w hs
  revert hrun
  rcases m w with ⟨stop | a, w'⟩
  · exact fun _ => trivial
  · exact fun hq => hq

/-! ## §2. Going on. -/

/-- Once enough operations pass, the program returns `a` and leaves `s'`, with the
    faults behind them still to come. -/
def Proceeds (m : Prog σ ε α) (s : σ) (a : α) (s' : σ) : Prop :=
  ∃ n, ∀ rest, m ⟨s, List.replicate n .pass ++ rest⟩ = (.ok a, ⟨s', rest⟩)

variable {a : α} {b : β} {f : α → Prog σ ε β}

theorem Proceeds.pure : Proceeds (Pure.pure a : Prog σ ε α) s a s := ⟨0, fun _ => rfl⟩

theorem Proceeds.op {f : σ → Except ε (α × σ)} (h : f s = .ok (a, s')) : Proceeds (op f) s a s' := by
  refine ⟨1, fun rest => ?_⟩
  unfold Lib.Faulty.op
  dsimp only [List.replicate, List.cons_append, List.nil_append]
  rw [h]
  rfl

theorem Proceeds.tick : Proceeds (tick : Prog σ ε Unit) s () s := .op rfl

theorem Proceeds.look : Proceeds (look : Prog σ ε σ) s s s := ⟨0, fun _ => rfl⟩

theorem Proceeds.note {f : σ → σ} : Proceeds (note f : Prog σ ε Unit) s () (f s) := ⟨0, fun _ => rfl⟩

theorem Proceeds.bind (hm : Proceeds m s a s') (hf : Proceeds (f a) s' b s'') :
    Proceeds (m >>= f) s b s'' := by
  obtain ⟨n, hn⟩ := hm
  obtain ⟨k, hk⟩ := hf
  refine ⟨n + k, fun rest => ?_⟩
  rw [List.replicate_add, List.append_assoc, bind_of_ok (hn _)]
  exact hk rest

theorem Proceeds.attempt (h : Proceeds m s a s') : Proceeds (attempt m) s (.ok a) s' := by
  obtain ⟨n, hn⟩ := h
  refine ⟨n, fun rest => ?_⟩
  unfold Lib.Faulty.attempt
  rw [hn rest]

theorem Proceeds.forEach (h : ∀ b ∈ bs, Proceeds (g b) s () s) :
    Proceeds (forEach g bs) s () s := by
  induction bs with
  | nil => exact .pure
  | cons b bs ih =>
    rw [List.forall_mem_cons] at h
    exact .bind h.1 (ih h.2)

/-- Under some script of the kind the program returns `a` and leaves `s'`. -/
def Reaches (kind : Fault ε → Prop) (m : Prog σ ε α) (s : σ) (a : α) (s' : σ) : Prop :=
  ∃ script, (∀ fault ∈ script, kind fault) ∧ exec m script s = (.ok a, s')

theorem Proceeds.reaches (hpass : kind .pass) (hm : Proceeds m s a s')
    (hf : Reaches kind (f a) s' b s'') : Reaches kind (m >>= f) s b s'' := by
  obtain ⟨n, hn⟩ := hm
  obtain ⟨script, hkind, hexec⟩ := hf
  refine ⟨List.replicate n .pass ++ script, ?_, ?_⟩
  · intro fault hmem
    cases List.mem_append.mp hmem with
    | inl hfront =>
      rw [List.eq_of_mem_replicate hfront]
      exact hpass
    | inr hback => exact hkind fault hback
  · unfold exec at hexec ⊢
    rw [bind_of_ok (hn script)]
    exact hexec

theorem Reaches.pure (hm : Reaches kind m s a s') (hf : f a = Pure.pure b) :
    Reaches kind (m >>= f) s b s' := by
  obtain ⟨script, hkind, hexec⟩ := hm
  refine ⟨script, hkind, ?_⟩
  unfold exec at hexec ⊢
  rcases hrun : m ⟨s, script⟩ with ⟨stop | a', w⟩
  · rw [hrun] at hexec
    cases hexec
  · rw [hrun] at hexec
    cases hexec
    rw [bind_of_ok hrun, hf]
    rfl

theorem forEach_append (bs cs : List β) :
    forEach g (bs ++ cs) = forEach g bs >>= fun _ => forEach g cs := by
  induction bs with
  | nil => rfl
  | cons b bs ih =>
    show (g b >>= fun _ => forEach g (bs ++ cs)) = (g b >>= fun _ => forEach g bs) >>= _
    rw [ih, bind_assoc]

end Lib.Faulty
