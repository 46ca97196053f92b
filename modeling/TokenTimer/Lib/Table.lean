/-
  TokenTimer.Lib.Table — relational tables as lists of rows.

  A table is a `List ρ`; a primary key is a function `key : ρ → κ` under which
  the rows are pairwise different (`KeyNodup`).  `updateWhere` and `deleteWhere`
  are `UPDATE … WHERE` and `DELETE … WHERE`, `selectOne` is a `SELECT … LIMIT 1`
  with no `ORDER BY`.

  Main results:
    * `mem_updateWhere` — the rows after an update, from the rows before.
    * `selectOne_updateWhere` — an update a query does not see.
    * `keyNodup_updateWhere`, `keyNodup_append_singleton`, `keyNodup_deleteWhere`
        — the key stays a key.
    * `KeyNodup.eq_of_mem` — a key names at most one row.
    * `keyNodup_selection`, `mem_selection` — a query with `ORDER BY` and `LIMIT`.
    * `mem_replaceByKey`, `updateWhere_eq_replaceByKey` — the update of the row of
        a key is the replacement of that row.
-/

import Mathlib.Data.List.Nodup
import Mathlib.Data.List.Basic
import Mathlib.Data.List.Sort

namespace Lib.Table

universe u v

variable {ρ : Type u} {κ : Type v}

/-- `UPDATE … SET … WHERE`: every row of `p` is replaced by its image. -/
def updateWhere (p : ρ → Bool) (f : ρ → ρ) (rows : List ρ) : List ρ :=
  rows.map fun r => if p r then f r else r

def deleteWhere (p : ρ → Bool) (rows : List ρ) : List ρ :=
  rows.filter fun r => !p r

/-- `SELECT … WHERE … LIMIT 1`. -/
def selectOne (p : ρ → Bool) (rows : List ρ) : Option ρ :=
  rows.find? p

/-- `key` is a key of the table. -/
def KeyNodup (key : ρ → κ) (rows : List ρ) : Prop :=
  (rows.map key).Nodup

instance [DecidableEq κ] (key : ρ → κ) (rows : List ρ) : Decidable (KeyNodup key rows) :=
  inferInstanceAs (Decidable (rows.map key).Nodup)

variable {p : ρ → Bool} {f : ρ → ρ} {rows : List ρ} {key : ρ → κ} {r : ρ}

/-! ## §1. Membership after each operation. -/

theorem mem_updateWhere :
    r ∈ updateWhere p f rows ↔ ∃ x ∈ rows, (if p x then f x else x) = r := by
  simp [updateWhere]

@[simp] theorem mem_deleteWhere : r ∈ deleteWhere p rows ↔ r ∈ rows ∧ p r = false := by
  simp [deleteWhere]

theorem selectOne_some (h : selectOne p rows = some r) : r ∈ rows ∧ p r = true :=
  ⟨List.mem_of_find?_eq_some h, List.find?_some h⟩

theorem selectOne_none : selectOne p rows = none ↔ ∀ r ∈ rows, p r = false := by
  simp [selectOne]

variable {q : ρ → Bool} {α : Type*} {new row : ρ}

/-- An update of rows that a query never sees, before or after, is invisible to
    that query. -/
theorem selectOne_updateWhere (hp : ∀ r, p r = true → q r = false)
    (hf : ∀ r, p r = true → q (f r) = false) :
    selectOne q (updateWhere p f rows) = selectOne q rows := by
  unfold selectOne
  induction rows with
  | nil => rfl
  | cons r t ih =>
    simp only [updateWhere, List.map_cons] at ih ⊢
    by_cases hr : p r
    · simp [hr, hp r hr, hf r hr, ih]
    · simp [hr, ih, List.find?_cons]

theorem selectOne_updateWhere_self (hf : ∀ r, p r = true → p (f r) = true) :
    selectOne p (updateWhere p f rows) = (selectOne p rows).map f := by
  unfold selectOne
  induction rows with
  | nil => rfl
  | cons r t ih =>
    simp only [updateWhere, List.map_cons] at ih ⊢
    by_cases hr : p r
    · simp [hr, hf r hr]
    · simp [hr, ih]

/-- A query that finds a row does not see the rows after it. -/
theorem selectOne_append_of_some {more : List ρ} (h : selectOne p rows = some r) :
    selectOne p (rows ++ more) = some r := by
  unfold selectOne at h ⊢
  rw [List.find?_append, h]
  rfl

theorem updateWhere_updateWhere {g : ρ → ρ} (hp : ∀ r, p (f r) = p r) :
    updateWhere p g (updateWhere p f rows) = updateWhere p (fun r => g (f r)) rows := by
  simp only [updateWhere, List.map_map]
  apply List.map_congr_left
  intro r _
  by_cases hr : p r <;> simp [hr, hp]

theorem updateWhere_of_forall_not (h : ∀ r ∈ rows, p r = false) : updateWhere p f rows = rows := by
  rw [updateWhere, List.map_congr_left (g := id), List.map_id]
  intro r hr
  simp [h r hr]

/-! ## §2. The key stays a key. -/

theorem map_key_updateWhere (hf : ∀ r, key (f r) = key r) :
    (updateWhere p f rows).map key = rows.map key := by
  simp only [updateWhere, List.map_map]
  apply List.map_congr_left
  intro r _
  by_cases hp : p r <;> simp [hp, hf]

theorem keyNodup_updateWhere (hf : ∀ r, key (f r) = key r) (h : KeyNodup key rows) :
    KeyNodup key (updateWhere p f rows) := by
  unfold KeyNodup
  rw [map_key_updateWhere hf]
  exact h

/-- A key that is read off columns which two tables share is a key of both or of none. -/
theorem KeyNodup.of_map_eq {columns : ρ → α} {g : α → κ} {rows' : List ρ} (h : KeyNodup key rows)
    (heq : rows'.map columns = rows.map columns) (hkey : ∀ r, g (columns r) = key r) :
    KeyNodup key rows' := by
  have hmap : ∀ l : List ρ, l.map key = (l.map columns).map g := by
    intro l
    rw [List.map_map]
    exact List.map_congr_left fun r _ => (hkey r).symm
  unfold KeyNodup at h ⊢
  rw [hmap, heq, ← hmap]
  exact h

theorem keyNodup_deleteWhere (h : KeyNodup key rows) : KeyNodup key (deleteWhere p rows) :=
  h.sublist (List.filter_sublist.map key)

theorem keyNodup_append_singleton (h : KeyNodup key rows) (hr : ∀ x ∈ rows, key x ≠ key r) :
    KeyNodup key (rows ++ [r]) := by
  unfold KeyNodup
  rw [List.map_append]
  refine List.Nodup.append h (by simp) ?_
  intro k hk hk'
  obtain ⟨x, hx, rfl⟩ := List.mem_map.mp hk
  exact hr x hx (by simpa using hk')

/-- A key names at most one row. -/
theorem KeyNodup.eq_of_mem (h : KeyNodup key rows) {x y : ρ} (hx : x ∈ rows) (hy : y ∈ rows)
    (hk : key x = key y) : x = y :=
  List.inj_on_of_nodup_map h hx hy hk

theorem KeyNodup.selectOne_eq [DecidableEq κ] (h : KeyNodup key rows) (hr : r ∈ rows) :
    selectOne (fun x => key x = key r) rows = some r := by
  cases hs : selectOne (fun x => decide (key x = key r)) rows with
  | none => simpa using selectOne_none.mp hs r hr
  | some x =>
    obtain ⟨hx, hk⟩ := selectOne_some hs
    rw [h.eq_of_mem hx hr (by simpa using hk)]

/-- A selection with `ORDER BY` and `LIMIT` has no row twice. -/
theorem keyNodup_selection (h : KeyNodup key rows) (q : ρ → ρ → Prop) [DecidableRel q] (n : Nat) :
    KeyNodup key (((rows.filter p).insertionSort q).take n) := by
  have hfilter : KeyNodup key (rows.filter p) := h.sublist (List.filter_sublist.map key)
  have hsort : KeyNodup key ((rows.filter p).insertionSort q) :=
    ((List.perm_insertionSort q _).map key).nodup_iff.mpr hfilter
  exact hsort.sublist ((List.take_sublist _ _).map key)

theorem mem_selection {q : ρ → ρ → Prop} [DecidableRel q] {n : Nat}
    (h : r ∈ ((rows.filter p).insertionSort q).take n) : r ∈ rows ∧ p r = true :=
  List.mem_filter.mp ((List.mem_insertionSort q).mp (List.mem_of_mem_take h))

/-! ## §3. Replacing the row of a key. -/

/-- The row with the key of `new` becomes `new`. -/
def replaceByKey [DecidableEq κ] (key : ρ → κ) (new : ρ) (rows : List ρ) : List ρ :=
  updateWhere (fun r => key r = key new) (fun _ => new) rows

theorem mem_replaceByKey [DecidableEq κ] :
    r ∈ replaceByKey key new rows ↔
      (r ∈ rows ∧ key r ≠ key new) ∨ (r = new ∧ ∃ x ∈ rows, key x = key new) := by
  rw [replaceByKey, mem_updateWhere]
  constructor
  · intro h
    obtain ⟨x, hx, hr⟩ := h
    by_cases hk : key x = key new
    · right
      exact ⟨by simpa [hk] using hr.symm, x, hx, hk⟩
    · left
      simp only [hk, decide_false, Bool.false_eq_true, if_false] at hr
      exact hr ▸ ⟨hx, hk⟩
  · intro h
    obtain ⟨hr, hk⟩ | ⟨rfl, x, hx, hk⟩ := h
    · exact ⟨r, hr, by simp [hk]⟩
    · exact ⟨x, hx, by simp [hk]⟩

theorem keyNodup_replaceByKey [DecidableEq κ] (h : KeyNodup key rows) :
    KeyNodup key (replaceByKey key new rows) := by
  have hmap : (replaceByKey key new rows).map key = rows.map key := by
    simp only [replaceByKey, updateWhere, List.map_map]
    apply List.map_congr_left
    intro x _
    by_cases hk : key x = key new <;> simp [hk]
  unfold KeyNodup
  rw [hmap]
  exact h

/-- A second key survives the replacement of a row by one that agrees on it. -/
theorem keyNodup_replaceByKey_of_eq [DecidableEq κ] {κ' : Type v} {key' : ρ → κ'}
    (h : KeyNodup key rows) (h' : KeyNodup key' rows) (hrow : row ∈ rows) (hk : key new = key row)
    (hk' : key' new = key' row) :
    KeyNodup key' (replaceByKey key new rows) := by
  have hmap : (replaceByKey key new rows).map key' = rows.map key' := by
    simp only [replaceByKey, updateWhere, List.map_map]
    apply List.map_congr_left
    intro x hx
    by_cases hkx : key x = key new
    · rw [h.eq_of_mem hx hrow (hkx.trans hk)]
      simp [hk, hk']
    · simp [hkx]
  unfold KeyNodup
  rw [hmap]
  exact h'

theorem updateWhere_eq_replaceByKey_of_iff [DecidableEq κ] (h : KeyNodup key rows)
    (hrow : row ∈ rows) (hf : key (f row) = key row) (hp : ∀ x ∈ rows, p x = true ↔ key x = key row) :
    updateWhere p f rows = replaceByKey key (f row) rows := by
  simp only [replaceByKey, updateWhere]
  apply List.map_congr_left
  intro x hx
  by_cases hk : key x = key row
  · rw [if_pos ((hp x hx).mpr hk), h.eq_of_mem hx hrow hk]
    simp [hf]
  · rw [if_neg fun hpx => hk ((hp x hx).mp hpx)]
    simp [hk, hf]

theorem updateWhere_eq_replaceByKey [DecidableEq κ] (h : KeyNodup key rows) (hrow : row ∈ rows)
    (hf : key (f row) = key row) :
    updateWhere (fun x => key x = key row) f rows = replaceByKey key (f row) rows :=
  updateWhere_eq_replaceByKey_of_iff h hrow hf fun x _ => by simp

theorem replaceByKey_self [DecidableEq κ] (h : KeyNodup key rows) (hrow : row ∈ rows) :
    replaceByKey key row rows = rows := by
  rw [replaceByKey, updateWhere, List.map_congr_left (g := id), List.map_id]
  intro x hx
  by_cases hk : key x = key row
  · simp [h.eq_of_mem hx hrow hk]
  · simp [hk]

end Lib.Table
