/-
  TokenTimer.Lib.Dict — dictionaries that remember the order of insertion, as the
  own properties of a plain object do.

  `set` replaces a value where the key is there and appends it otherwise; `assign a b`
  is the spread `{...a, ...b}`, in which `b` wins.  No key occurs twice.

  Main results:
    * `mem_entries` — the entries are what `get` returns.
    * `get_set`, `get_filterKeys`, `get_assign` — each operation, key by key.
-/

import Mathlib.Data.List.Nodup
import Mathlib.Data.List.Basic

namespace Lib

universe u v

/-- A dictionary: its entries in the order of insertion. -/
structure Dict (κ : Type u) (α : Type v) where
  entries : List (κ × α)
  nodup : (entries.map Prod.fst).Nodup
deriving DecidableEq

namespace Dict

variable {κ : Type u} {α : Type v} [DecidableEq κ] {d e : Dict κ α} {k k' : κ} {v v' : α}

/-- `{}`. -/
def empty : Dict κ α := ⟨[], List.nodup_nil⟩

/-- `Object.keys`. -/
def keys (d : Dict κ α) : List κ := d.entries.map Prod.fst

/-- The value of a key. -/
def get (d : Dict κ α) (k : κ) : Option α := (d.entries.find? fun e => e.1 = k).map Prod.snd

/-- `Object.hasOwn`. -/
def has (d : Dict κ α) (k : κ) : Bool := (d.get k).isSome

theorem mem_entries : (k, v) ∈ d.entries ↔ d.get k = some v := by
  unfold get
  rw [Option.map_eq_some_iff]
  constructor
  · intro h
    cases hfound : d.entries.find? fun e => e.1 = k with
    | none =>
      have hnone := List.find?_eq_none.mp hfound (k, v) h
      simp at hnone
    | some x =>
      have hkey : x.1 = k := by simpa using List.find?_some hfound
      have hsame : x = (k, v) :=
        List.inj_on_of_nodup_map d.nodup (List.mem_of_find?_eq_some hfound) h hkey
      exact ⟨x, rfl, by rw [hsame]⟩
  · rintro ⟨x, hfound, rfl⟩
    have hkey : x.1 = k := by simpa using List.find?_some hfound
    rw [← hkey]
    exact List.mem_of_find?_eq_some hfound

@[simp] theorem get_empty : (empty : Dict κ α).get k = none := rfl

/-! ## §1. Assignment. -/

/-- `d[k] = v`. -/
def set (d : Dict κ α) (k : κ) (v : α) : Dict κ α :=
  if h : k ∈ d.keys then
    ⟨d.entries.map fun e => if e.1 = k then (k, v) else e, by
      have hkeys : (d.entries.map fun e => if e.1 = k then (k, v) else e).map Prod.fst =
          d.entries.map Prod.fst := by
        rw [List.map_map]
        apply List.map_congr_left
        intro e _
        by_cases hk : e.1 = k
        · simp [hk]
        · simp [hk]
      rw [hkeys]
      exact d.nodup⟩
  else
    ⟨d.entries ++ [(k, v)], by
      rw [List.map_append, List.map_singleton, List.nodup_append]
      refine ⟨d.nodup, List.nodup_singleton _, fun a ha b hb hab => h ?_⟩
      have hbk : b = k := by simpa using hb
      rw [← hbk, ← hab]
      exact ha⟩

theorem mem_set : (k', v') ∈ (d.set k v).entries ↔
    (k' = k ∧ v' = v) ∨ (k' ≠ k ∧ (k', v') ∈ d.entries) := by
  unfold set
  split
  · rename_i hk
    rw [List.mem_map]
    constructor
    · rintro ⟨⟨a, b⟩, hmem, hab⟩
      by_cases ha : a = k
      · simp only [ha, if_true, Prod.mk.injEq] at hab
        exact .inl ⟨hab.1.symm, hab.2.symm⟩
      · simp only [ha, if_false, Prod.mk.injEq] at hab
        obtain ⟨rfl, rfl⟩ := hab
        exact .inr ⟨ha, hmem⟩
    · rintro (⟨rfl, rfl⟩ | ⟨hne, hmem⟩)
      · obtain ⟨x, hx, hxk⟩ := List.mem_map.mp hk
        exact ⟨x, hx, by simp [hxk]⟩
      · exact ⟨(k', v'), hmem, by simp [hne]⟩
  · rename_i hk
    rw [List.mem_append, List.mem_singleton, Prod.mk.injEq]
    constructor
    · rintro (hmem | hnew)
      · refine .inr ⟨?_, hmem⟩
        rintro rfl
        exact hk (List.mem_map.mpr ⟨_, hmem, rfl⟩)
      · exact .inl hnew
    · rintro (hnew | ⟨-, hmem⟩)
      · exact .inr hnew
      · exact .inl hmem

theorem get_set : (d.set k v).get k' = if k' = k then some v else d.get k' := by
  apply Option.ext
  intro w
  rw [← mem_entries, mem_set]
  by_cases hk : k' = k
  · simp [hk, eq_comm]
  · simp [hk, mem_entries]

@[simp] theorem get_set_self : (d.set k v).get k = some v := by simp [get_set]

theorem get_set_of_ne (h : k' ≠ k) : (d.set k v).get k' = d.get k' := by simp [get_set, h]

/-! ## §2. Selection. -/

/-- The entries whose key passes. -/
def filterKeys (p : κ → Bool) (d : Dict κ α) : Dict κ α :=
  ⟨d.entries.filter fun e => p e.1, d.nodup.sublist (List.filter_sublist.map Prod.fst)⟩

theorem get_filterKeys {p : κ → Bool} :
    (d.filterKeys p).get k = if p k then d.get k else none := by
  apply Option.ext
  intro w
  rw [← mem_entries]
  show (k, w) ∈ d.entries.filter _ ↔ _
  rw [List.mem_filter, mem_entries]
  by_cases hp : p k = true
  · simp [hp]
  · simp [hp]

/-- `delete d[k]`. -/
def erase (d : Dict κ α) (k : κ) : Dict κ α := d.filterKeys fun x => x ≠ k

theorem get_erase : (d.erase k).get k' = if k' = k then none else d.get k' := by
  unfold erase
  rw [get_filterKeys]
  by_cases hk : k' = k
  · simp [hk]
  · simp [hk]

/-! ## §3. Spread. -/

/-- `{...d, ...e}`. -/
def assign (d e : Dict κ α) : Dict κ α := e.entries.foldl (fun acc x => acc.set x.1 x.2) d

theorem get_foldl_set (xs : List (κ × α)) (hxs : (xs.map Prod.fst).Nodup) (d : Dict κ α) :
    (xs.foldl (fun acc x => acc.set x.1 x.2) d).get k =
      ((xs.find? fun x => x.1 = k).map Prod.snd).or (d.get k) := by
  induction xs generalizing d with
  | nil => rfl
  | cons x xs ih =>
    rw [List.map_cons, List.nodup_cons] at hxs
    rw [List.foldl_cons, ih hxs.2, get_set]
    by_cases hk : k = x.1
    · have hlater : xs.find? (fun y => y.1 = k) = none := by
        rw [List.find?_eq_none]
        intro y hy hyk
        apply hxs.1
        rw [← hk, ← of_decide_eq_true hyk]
        exact List.mem_map_of_mem hy
      rw [hlater, List.find?_cons_of_pos (by simp [hk])]
      simp [hk]
    · have hne : ¬ x.1 = k := fun h => hk h.symm
      simp [hk, hne]

/-- A loop over entries that makes each key's value from the one before. -/
theorem get_foldl_update {β : Type u} (f : Option α → β → α) (xs : List (κ × β))
    (hxs : (xs.map Prod.fst).Nodup) (d : Dict κ α) :
    (xs.foldl (fun acc x => acc.set x.1 (f (acc.get x.1) x.2)) d).get k =
      match (xs.find? fun x => x.1 = k).map Prod.snd with
      | none => d.get k
      | some b => some (f (d.get k) b) := by
  induction xs generalizing d with
  | nil => rfl
  | cons x xs ih =>
    rw [List.map_cons, List.nodup_cons] at hxs
    rw [List.foldl_cons, ih hxs.2]
    by_cases hk : x.1 = k
    · have hlater : xs.find? (fun y => y.1 = k) = none := by
        rw [List.find?_eq_none]
        intro y hy hyk
        apply hxs.1
        rw [hk, ← of_decide_eq_true hyk]
        exact List.mem_map_of_mem hy
      rw [hlater, List.find?_cons_of_pos (by simp [hk]), ← hk]
      exact get_set_self
    · rw [List.find?_cons_of_neg (by simpa using hk), get_set_of_ne (Ne.symm hk)]

theorem get_assign : (d.assign e).get k = (e.get k).or (d.get k) :=
  get_foldl_set e.entries e.nodup d

end Dict

end Lib
