/-
  TokenTimer.Lib.Delimited — texts that can be cut in one way only.

  A text is a `List α`.  Two ways to know where a piece ends:
    * a list of pieces joined by a SEPARATOR and ended by a closing mark, whose
      pieces are each determined by what they are followed by (`joinWith`);
    * a text read UNIT BY UNIT until the reader stops (`Reads`).

  Main results:
    * `joinWith_inj` — equal joined texts have related pieces and equal rests.
    * `Reads.det` — a reader reads one list of units and leaves one rest.
-/

import Mathlib.Data.List.Forall2

namespace Lib.Delimited

universe u v

variable {α : Type u} {β : Type v}

/-! ## §1. Separated lists. -/

/-- The pieces with `sep` between them. -/
def joinWith (sep : α) : List (List α) → List α
  | [] => []
  | t :: ts => t ++ ts.flatMap fun u => sep :: u

section Joined

variable {enc : β → List α} {R : β → β → Prop} {Follow : List α → Prop} {sep close : α}

/-- After the first piece, each further piece starts with the separator. -/
theorem flatMap_inj (hne : sep ≠ close) (hsep : ∀ t, Follow (sep :: t))
    (hclose : ∀ t, Follow (close :: t)) (ys : List β) :
    ∀ (xs zs : List β), (∀ z ∈ zs, z ∈ ys) →
      (∀ x ∈ xs, ∀ y ∈ ys, ∀ r₁ r₂, Follow r₁ → Follow r₂ →
        enc x ++ r₁ = enc y ++ r₂ → R x y ∧ r₁ = r₂) →
      ∀ r₁ r₂, (xs.map enc).flatMap (fun u => sep :: u) ++ close :: r₁
          = (zs.map enc).flatMap (fun u => sep :: u) ++ close :: r₂ →
        List.Forall₂ R xs zs ∧ r₁ = r₂
  | [], [], _, _, r₁, r₂, h => by
    simp only [List.map_nil, List.flatMap_nil, List.nil_append, List.cons.injEq] at h
    exact ⟨.nil, h.2⟩
  | [], z :: zs, _, _, r₁, r₂, h => by
    simp only [List.map_nil, List.flatMap_nil, List.nil_append, List.map_cons, List.flatMap_cons,
      List.cons_append, List.cons.injEq] at h
    exact absurd h.1.symm hne
  | x :: xs, [], _, _, r₁, r₂, h => by
    simp only [List.map_nil, List.flatMap_nil, List.nil_append, List.map_cons, List.flatMap_cons,
      List.cons_append, List.cons.injEq] at h
    exact absurd h.1 hne
  | x :: xs, z :: zs, hmem, hinj, r₁, r₂, h => by
    simp only [List.map_cons, List.flatMap_cons, List.cons_append, List.cons.injEq, true_and,
      List.append_assoc] at h
    -- What follows a piece starts with the separator or the closing mark.
    have hfollow : ∀ (ws : List β) (r : List α),
        Follow ((ws.map enc).flatMap (fun u => sep :: u) ++ close :: r) := by
      intro ws r
      cases ws with
      | nil => exact hclose r
      | cons w ws => exact hsep _
    obtain ⟨hR, hrest⟩ := hinj x (by simp) z (hmem z (by simp)) _ _ (hfollow xs r₁)
      (hfollow zs r₂) h
    obtain ⟨hRs, hr⟩ := flatMap_inj hne hsep hclose ys xs zs
      (fun w hw => hmem w (by simp [hw])) (fun w hw => hinj w (by simp [hw])) r₁ r₂ hrest
    exact ⟨.cons hR hRs, hr⟩

/-- **SEPARATED LISTS ARE CUT IN ONE WAY**: if each piece is determined by the
    text that starts with it and goes on with a separator or the closing mark,
    and no piece starts with the closing mark, then a joined and closed list is
    determined too. -/
theorem joinWith_inj (hne : sep ≠ close) (hsep : ∀ t, Follow (sep :: t))
    (hclose : ∀ t, Follow (close :: t)) (xs ys : List β)
    (hstart : ∀ z, z ∈ xs ∨ z ∈ ys → ∃ c t, enc z = c :: t ∧ c ≠ close)
    (hinj : ∀ x ∈ xs, ∀ y ∈ ys, ∀ r₁ r₂, Follow r₁ → Follow r₂ →
      enc x ++ r₁ = enc y ++ r₂ → R x y ∧ r₁ = r₂)
    (r₁ r₂ : List α)
    (h : joinWith sep (xs.map enc) ++ close :: r₁ = joinWith sep (ys.map enc) ++ close :: r₂) :
    List.Forall₂ R xs ys ∧ r₁ = r₂ := by
  -- A piece is never mistaken for the end of the list.
  have hpiece : ∀ z, z ∈ xs ∨ z ∈ ys → ∀ r t, enc z ++ r ≠ close :: t := by
    intro z hz r t he
    obtain ⟨c, u, hc, hne'⟩ := hstart z hz
    rw [hc, List.cons_append] at he
    exact hne' (List.cons.inj he).1
  cases xs with
  | nil =>
    cases ys with
    | nil => exact ⟨.nil, (List.cons.inj h).2⟩
    | cons y ys =>
      simp only [List.map_nil, List.map_cons, joinWith, List.nil_append, List.append_assoc] at h
      exact absurd h.symm (hpiece y (.inr (by simp)) _ _)
  | cons x xs =>
    cases ys with
    | nil =>
      simp only [List.map_nil, List.map_cons, joinWith, List.nil_append, List.append_assoc] at h
      exact absurd h (hpiece x (.inl (by simp)) _ _)
    | cons y ys =>
      -- Both lists as separator-led lists.
      refine flatMap_inj hne hsep hclose (y :: ys) (x :: xs) (y :: ys) (fun _ hz => hz) hinj
        r₁ r₂ ?_
      simp only [List.map_cons, joinWith, List.flatMap_cons, List.cons_append,
        List.append_assoc] at h ⊢
      rw [h]

end Joined

/-! ## §2. Reading unit by unit. -/

/-- `Reads read t us r`: reading `t` unit by unit gives `us`, and the reader
    stops at `r`. -/
inductive Reads (read : List α → Option (β × List α)) : List α → List β → List α → Prop
  | stop {t : List α} : read t = none → Reads read t [] t
  | unit {t t' r : List α} {b : β} {us : List β} :
      read t = some (b, t') → Reads read t' us r → Reads read t (b :: us) r

/-- **A READER IS DETERMINISTIC**. -/
theorem Reads.det {read : List α → Option (β × List α)} {t r₁ r₂ : List α} {us₁ us₂ : List β}
    (h₁ : Reads read t us₁ r₁) (h₂ : Reads read t us₂ r₂) : us₁ = us₂ ∧ r₁ = r₂ := by
  induction h₁ generalizing us₂ r₂ with
  | stop hnone =>
    cases h₂ with
    | stop _ => exact ⟨rfl, rfl⟩
    | unit hsome _ =>
      rw [hnone] at hsome
      cases hsome
  | unit hsome _ ih =>
    cases h₂ with
    | stop hnone =>
      rw [hnone] at hsome
      cases hsome
    | unit hsome' hrest =>
      rw [hsome] at hsome'
      obtain ⟨rfl, rfl⟩ := Prod.mk.inj (Option.some.inj hsome')
      obtain ⟨rfl, rfl⟩ := ih hrest
      exact ⟨rfl, rfl⟩

end Lib.Delimited
