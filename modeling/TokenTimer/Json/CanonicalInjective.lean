/-
  TokenTimer.Json.CanonicalInjective — which JSON objects the canonical bytes
  tell apart.

  On JSON values the serializer is total and its text determines the value up to
  member order and the sign of zero.  The PAYLOAD function is not: its top-level
  copy loses a member named `__proto__`, so the bytes identify two objects that
  differ in that member alone, and an object-valued one is refused.

  Main results:
    * `canonText_eq_iff` — the serializer is injective on JSON values.
    * `canonicalizeJobPayload_parsed` — what the payload function computes.
    * `canonicalBytes_injective_iff` — for which pairs of objects the bytes decide
        equality.
-/

import TokenTimer.Json.Canonical

namespace TokenTimer.Json

open Lib.Delimited Lib.Numeric

/-! ## §1. Lookup in a list of members. -/

section Lookup

variable {ν : Type}

theorem lookup_cons_ite (k k' : JsString) (v' : ν) (t : List (JsString × ν)) :
    ((k', v') :: t).lookup k = if k = k' then some v' else t.lookup k := by
  rw [List.lookup_cons]
  by_cases hk : k = k'
  · simp [hk]
  · have hb : (k == k') = false := by simpa using hk
    rw [hb, if_neg hk]

variable {k : JsString} {v : ν} {ms : List (JsString × ν)}

theorem mem_of_lookup (h : ms.lookup k = some v) : (k, v) ∈ ms := by
  induction ms with
  | nil => cases h
  | cons m t ih =>
    obtain ⟨k', v'⟩ := m
    rw [lookup_cons_ite] at h
    split at h
    next hk =>
      rw [hk, Option.some.inj h]
      exact List.mem_cons_self
    · exact List.mem_cons_of_mem _ (ih h)

/-- With distinct keys a member is found under its key. -/
theorem lookup_of_mem (hn : (ms.map (·.1)).Nodup) (h : (k, v) ∈ ms) : ms.lookup k = some v := by
  induction ms with
  | nil => cases h
  | cons m t ih =>
    obtain ⟨k', v'⟩ := m
    rw [List.map_cons, List.nodup_cons] at hn
    rw [lookup_cons_ite]
    rcases List.mem_cons.mp h with heq | ht
    · obtain ⟨rfl, rfl⟩ := Prod.mk.inj heq
      rw [if_pos rfl]
    · have hne : k ≠ k' := by
        intro hk
        subst hk
        exact hn.1 (List.mem_map.mpr ⟨(k, v), ht, rfl⟩)
      rw [if_neg hne]
      exact ih hn.2 ht

theorem lookup_isSome_iff (k : JsString) (ms : List (JsString × ν)) :
    (ms.lookup k).isSome = true ↔ k ∈ ms.map (·.1) := by
  induction ms with
  | nil => simp
  | cons m t ih =>
    obtain ⟨k', v'⟩ := m
    rw [lookup_cons_ite, List.map_cons, List.mem_cons]
    by_cases hk : k = k'
    · simp [hk]
    · rw [if_neg hk, ih]
      simp [hk]

theorem lookup_map_snd {μ : Type} (f : ν → μ) (k : JsString) (ms : List (JsString × ν)) :
    (ms.map fun m => (m.1, f m.2)).lookup k = (ms.lookup k).map f := by
  induction ms with
  | nil => rfl
  | cons m t ih =>
    obtain ⟨k', v'⟩ := m
    simp only [List.map_cons, lookup_cons_ite]
    by_cases hk : k = k'
    · rw [if_pos hk, if_pos hk, Option.map_some]
    · rw [if_neg hk, if_neg hk, ih]

theorem lookup_filter_key (p : JsString → Bool) (k : JsString) (ms : List (JsString × ν)) :
    (ms.filter fun m => p m.1).lookup k = if p k then ms.lookup k else none := by
  induction ms with
  | nil => simp
  | cons m t ih =>
    obtain ⟨k', v'⟩ := m
    rw [List.filter_cons, lookup_cons_ite]
    by_cases hk : k = k'
    · subst hk
      cases hp : p k <;> simp [ih, hp]
    · rw [if_neg hk, ← ih]
      split
      · rw [lookup_cons_ite, if_neg hk]
      · rfl

end Lookup

/-! ## §2. Lifting the mutual definitions to the lists they recurse on. -/

theorem isJsonItems_iff (xs : List JsValue) :
    isJsonItems xs = true ↔ ∀ x ∈ xs, isJson x = true := by
  induction xs with
  | nil => simp [isJsonItems]
  | cons x t ih => simp [isJsonItems, ih]

theorem isJsonMembers_iff (ms : List (JsString × JsValue)) :
    isJsonMembers ms = true ↔ ∀ m ∈ ms, isJson m.2 = true := by
  induction ms with
  | nil => simp [isJsonMembers]
  | cons m t ih =>
    obtain ⟨k, v⟩ := m
    simp [isJsonMembers, ih]

theorem sameItems_iff (xs ys : List JsValue) :
    sameItems xs ys = true ↔ List.Forall₂ (fun x y => same x y = true) xs ys := by
  induction xs generalizing ys with
  | nil => cases ys <;> simp [sameItems]
  | cons x t ih => cases ys <;> simp [sameItems, ih]

theorem sameMembers_iff (ms ns : List (JsString × JsValue)) :
    sameMembers ms ns = true ↔
      ∀ m ∈ ms, ∃ w, ns.lookup m.1 = some w ∧ same m.2 w = true := by
  induction ms with
  | nil => simp [sameMembers]
  | cons m t ih =>
    obtain ⟨k, v⟩ := m
    rw [sameMembers, Bool.and_eq_true, ih]
    simp only [List.mem_cons, forall_eq_or_imp]
    cases ns.lookup k <;> simp

/-- INDUCTION OVER JSON VALUES: arrays by their items, objects by their
    members. -/
theorem jsonInduction {P : JsValue → Prop} (hnull : P .null) (hbool : ∀ b, P (.bool b))
    (hnumber : ∀ x, P (.number (.finite x))) (hstring : ∀ s, P (.string s))
    (harray : ∀ xs, (∀ x ∈ xs, isJson x = true) → (∀ x ∈ xs, P x) → P (.array xs))
    (hobject : ∀ ms, (ms.map (·.1)).Nodup → (∀ m ∈ ms, isJson m.2 = true) →
      (∀ m ∈ ms, P m.2) → P (.object .objectPrototype ms)) :
    ∀ v, isJson v = true → P v := by
  intro v
  refine @JsValue.rec (fun v => isJson v = true → P v)
    (fun xs => isJsonItems xs = true → ∀ x ∈ xs, P x)
    (fun ms => isJsonMembers ms = true → ∀ m ∈ ms, P m.2)
    (fun m => isJson m.2 = true → P m.2)
    ?_ ?_ ?_ ?_ ?_ ?_ ?_ ?_ ?_ ?_ ?_ ?_ ?_ v
  · intro h; cases h
  · intro _; exact hnull
  · intro b _; exact hbool b
  · intro x h
    cases x with
    | finite x => exact hnumber x
    | nan | infinity => cases h
  · intro s _; exact hstring s
  · intro xs ih h
    exact harray xs ((isJsonItems_iff xs).mp h) (ih h)
  · intro proto ms ih h
    simp only [isJson, Bool.and_eq_true, decide_eq_true_eq] at h
    obtain ⟨⟨rfl, hn⟩, hj⟩ := h
    exact hobject ms hn ((isJsonMembers_iff ms).mp hj) (ih hj)
  · intro t h; cases h
  · intro _ x hx; cases hx
  · intro x xs ihx ihxs h y hy
    rw [isJsonItems, Bool.and_eq_true] at h
    rcases List.mem_cons.mp hy with rfl | hy
    · exact ihx h.1
    · exact ihxs h.2 y hy
  · intro _ m hm; cases hm
  · intro m ms ihm ihms h n hn
    obtain ⟨k, v⟩ := m
    rw [isJsonMembers, Bool.and_eq_true] at h
    rcases List.mem_cons.mp hn with rfl | hn
    · exact ihm h.1
    · exact ihms h.2 n hn
  · intro k v ih h
    exact ih h

/-! ## §3. The text of a JSON value. -/

mutual

/-- The canonical text of a JSON value, without paths and errors. -/
def canonText : JsValue → JsString
  | .null => js "null"
  | .bool b => if b then js "true" else js "false"
  | .number (.finite x) => numberUnits x
  | .string s => quoteJSONString s
  | .array items => arrayText (canonItems items)
  | .object _ members => objectText ((sortedKeys members).map fun k =>
      memberText k (((canonMembers members).lookup k).getD []))
  | _ => []

def canonItems : List JsValue → List JsString
  | [] => []
  | v :: vs => canonText v :: canonItems vs

def canonMembers : List (JsString × JsValue) → List (JsString × JsString)
  | [] => []
  | (k, v) :: ms => (k, canonText v) :: canonMembers ms

end

theorem canonItems_eq (xs : List JsValue) : canonItems xs = xs.map canonText := by
  induction xs with
  | nil => rfl
  | cons x t ih => rw [canonItems, ih, List.map_cons]

theorem canonMembers_eq (ms : List (JsString × JsValue)) :
    canonMembers ms = ms.map fun m => (m.1, canonText m.2) := by
  induction ms with
  | nil => rfl
  | cons m t ih =>
    obtain ⟨k, v⟩ := m
    rw [canonMembers, ih, List.map_cons]

variable {r₁ r₂ : JsString} {v : JsValue} {ms ns : List (JsString × JsValue)} {p q : Proto}

variable {k : JsString} {α β : Type} {xs : List JsValue} {a b : JsValue}

theorem mem_sortedKeys :
    k ∈ sortedKeys ms ↔ k ∈ ms.map (·.1) :=
  List.mem_insertionSort _

/-- A list of computations that all succeed. -/
theorem mapM_ok {ε : Type} {f : α → Except ε β} {g : α → β} {l : List α}
    (h : ∀ a ∈ l, f a = .ok (g a)) : l.mapM f = .ok (l.map g) := by
  induction l with
  | nil => rfl
  | cons a t ih =>
    rw [List.mapM_cons, h a (by simp), ih (fun b hb => h b (by simp [hb]))]
    rfl

theorem serializeItems_ok (h : ∀ x ∈ xs, ∀ path, serializeCanonical x path = .ok (canonText x))
    (path : JsString) :
    ∀ i, serializeItems xs path i = .ok (canonItems xs) := by
  induction xs with
  | nil => intro i; rfl
  | cons x t ih =>
    intro i
    rw [serializeItems, h x (by simp), ih (fun y hy => h y (by simp [hy]))]
    rfl

theorem serializeMembers_lookup
    (h : ∀ m ∈ ms, ∀ path, serializeCanonical m.2 path = .ok (canonText m.2)) (path k : JsString) :
    (serializeMembers ms path).lookup k = ((canonMembers ms).lookup k).map .ok := by
  induction ms with
  | nil => rfl
  | cons m t ih =>
    obtain ⟨k', v⟩ := m
    rw [serializeMembers, canonMembers, lookup_cons_ite, lookup_cons_ite,
      h (k', v) (by simp), ih (fun n hn => h n (by simp [hn]))]
    split <;> rfl

theorem serializeObject_ok {proto : Proto} (hp : proto.isPlain = true)
    (h : ∀ m ∈ ms, ∀ path, serializeCanonical m.2 path = .ok (canonText m.2)) (path : JsString) :
    serializeCanonical (.object proto ms) path = .ok (canonText (.object .objectPrototype ms)) := by
  rw [serializeCanonical, if_pos hp]
  have hentry : ∀ k ∈ sortedKeys ms, entryText (serializeMembers ms path) path k =
      .ok (memberText k (((canonMembers ms).lookup k).getD [])) := by
    intro k hk
    have hsome : ((canonMembers ms).lookup k).isSome = true := by
      rw [canonMembers_eq, lookup_isSome_iff, List.map_map]
      exact mem_sortedKeys.mp hk
    obtain ⟨t, ht⟩ := Option.isSome_iff_exists.mp hsome
    rw [entryText, serializeMembers_lookup h, ht]
    rfl
  rw [mapM_ok hentry]
  rfl

/-- **TOTALITY**: every JSON value serializes, wherever it stands. -/
theorem serializeCanonical_json :
    ∀ v, isJson v = true → ∀ path, serializeCanonical v path = .ok (canonText v) := by
  refine jsonInduction (fun _ => rfl) (fun _ _ => rfl) (fun _ _ => rfl) (fun _ _ => rfl) ?_ ?_
  · intro xs _ ih path
    rw [serializeCanonical, serializeItems_ok ih]
    rfl
  · intro ms _ _ ih path
    exact serializeObject_ok rfl ih path

/-! ## §4. Equality of objects, key by key. -/

def sameMember : Option JsValue → Option JsValue → Bool
  | none, none => true
  | some v, some w => same v w
  | _, _ => false

theorem keys_perm (hm : (ms.map (·.1)).Nodup) (hn : (ns.map (·.1)).Nodup)
    (h : ∀ k, k ∈ ms.map (·.1) ↔ k ∈ ns.map (·.1)) :
    (ms.map (·.1)).Perm (ns.map (·.1)) :=
  (List.perm_ext_iff_of_nodup hm hn).mpr h

/-- Equality of objects is agreement under EVERY key. -/
theorem same_object_iff (hm : (ms.map (·.1)).Nodup) (hn : (ns.map (·.1)).Nodup) :
    same (.object p ms) (.object q ns) = true ↔
      ∀ k, sameMember (ms.lookup k) (ns.lookup k) = true := by
  rw [same, Bool.and_eq_true, sameMembers_iff, beq_iff_eq]
  constructor
  · intro h k
    obtain ⟨hlen, hpart⟩ := h
    have hsub : ms.map (·.1) ⊆ ns.map (·.1) := by
      intro j hj
      obtain ⟨m, hmem, rfl⟩ := List.mem_map.mp hj
      obtain ⟨w, hw, -⟩ := hpart m hmem
      exact (lookup_isSome_iff _ _).mp (by rw [hw]; rfl)
    -- Equally many distinct keys, one set inside the other: the same keys.
    have hperm : (ms.map (·.1)).Perm (ns.map (·.1)) :=
      (List.subperm_of_subset hm hsub).perm_of_length_le (by simp [hlen])
    cases hl : ms.lookup k with
    | some v =>
      obtain ⟨w, hw, hs⟩ := hpart (k, v) (mem_of_lookup hl)
      rw [hw]
      exact hs
    | none =>
      have hnot : k ∉ ns.map (·.1) := by
        rw [← hperm.mem_iff, ← lookup_isSome_iff, hl]
        simp
      cases hl' : ns.lookup k with
      | none => rfl
      | some w => exact absurd ((lookup_isSome_iff k ns).mp (by rw [hl']; rfl)) hnot
  · intro h
    have hkeys : ∀ k, k ∈ ms.map (·.1) ↔ k ∈ ns.map (·.1) := by
      intro k
      rw [← lookup_isSome_iff, ← lookup_isSome_iff]
      have hk := h k
      cases hl : ms.lookup k <;> cases hl' : ns.lookup k <;> simp_all [sameMember]
    refine ⟨by simpa using (keys_perm hm hn hkeys).length_eq, ?_⟩
    intro m hmem
    have hk := h m.1
    rw [lookup_of_mem hm hmem] at hk
    cases hl : ns.lookup m.1 with
    | none => rw [hl] at hk; cases hk
    | some w =>
      rw [hl] at hk
      exact ⟨w, rfl, hk⟩

/-! ## §5. The text determines the value. -/

def kindOf : JsValue → Nat
  | .null => 0
  | .bool _ => 1
  | .number _ => 2
  | .string _ => 3
  | .array _ => 4
  | .object _ _ => 5
  | _ => 6

/-- Which constructor the first code unit of a text announces. -/
def firstKind (c : CodeUnit) : Nat :=
  if c = unit 'n' then 0
  else if c = unit 't' ∨ c = unit 'f' then 1
  else if c = unit '"' then 3
  else if c = unit '[' then 4
  else if c = unit '{' then 5
  else if isNumUnit c then 2
  else 7

theorem firstKind_symUnit (c : NumSym) : firstKind (symUnit c) = 2 := by
  cases c with
  | digit d => revert d; decide
  | _ => decide

theorem numberUnits_head (x : Binary64) : ∃ c t, numberUnits x = symUnit c :: t := by
  unfold numberUnits numberText
  split_ifs with h hneg
  · exact ⟨_, _, rfl⟩
  · exact ⟨_, _, rfl⟩
  · obtain ⟨c, t, hct⟩ := layout_head _ (shortestDecimal_rounds h).1
    rw [hct]
    exact ⟨_, _, rfl⟩

/-- The first code unit announces the constructor. -/
theorem canonText_head (h : isJson v = true) :
    ∃ c t, canonText v = c :: t ∧ firstKind c = kindOf v := by
  cases v with
  | null => exact ⟨_, _, rfl, by decide⟩
  | bool b => cases b <;> exact ⟨_, _, rfl, by decide⟩
  | number x =>
    cases x with
    | finite x =>
      obtain ⟨c, t, hct⟩ := numberUnits_head x
      exact ⟨_, _, hct, firstKind_symUnit c⟩
    | nan | infinity => cases h
  | string s => exact ⟨_, _, rfl, (by decide : firstKind (unit '"') = 3)⟩
  | array xs => exact ⟨_, _, rfl, (by decide : firstKind (unit '[') = 4)⟩
  | object p ms => exact ⟨_, _, rfl, (by decide : firstKind (unit '{') = 5)⟩
  | undefined | other => cases h

/-- What may stand behind a value: the end, or a code unit of no numeral. -/
def Follows (r : JsString) : Prop := ∀ c t, r = c :: t → isNumUnit c = false

theorem follows_cons {c : CodeUnit} (h : isNumUnit c = false) (t : JsString) :
    Follows (c :: t) := by
  intro c' t' he
  rw [← (List.cons.inj he).1]
  exact h

/-- Equal texts announce equal constructors. -/
theorem kind_eq (ha : isJson a = true) (hb : isJson b = true)
    (h : canonText a ++ r₁ = canonText b ++ r₂) : kindOf a = kindOf b := by
  obtain ⟨c, t, hc, hk⟩ := canonText_head ha
  obtain ⟨d, u, hd, hl⟩ := canonText_head hb
  rw [hc, hd, List.cons_append, List.cons_append] at h
  rw [← hk, ← hl, (List.cons.inj h).1]

def sortedMembers (ms : List (JsString × JsValue)) : List (JsString × JsValue) :=
  ms.insertionSort fun m n => m.1 ≤ n.1

theorem mem_sortedMembers {m : JsString × JsValue} :
    m ∈ sortedMembers ms ↔ m ∈ ms :=
  List.mem_insertionSort _

theorem canonText_object (hn : (ms.map (·.1)).Nodup) (p : Proto) :
    canonText (.object p ms) =
      objectText ((sortedMembers ms).map fun m => memberText m.1 (canonText m.2)) := by
  have hkeys : sortedKeys ms = (sortedMembers ms).map (·.1) :=
    (List.map_insertionSort (fun m n : JsString × JsValue => m.1 ≤ n.1) (· ≤ ·) Prod.fst ms
      (fun _ _ _ _ => Iff.rfl)).symm
  rw [canonText, hkeys, List.map_map]
  congr 1
  apply List.map_congr_left
  intro m hm
  have hlook := lookup_of_mem hn (mem_sortedMembers.mp hm)
  show memberText m.1 (((canonMembers ms).lookup m.1).getD []) = _
  rw [canonMembers_eq, lookup_map_snd, hlook]
  rfl

/-- No value starts with the mark that closes an array. -/
theorem canonText_not_close (h : isJson v = true) :
    ∃ c t, canonText v = c :: t ∧ c ≠ unit ']' := by
  obtain ⟨c, t, hc, hk⟩ := canonText_head h
  refine ⟨c, t, hc, ?_⟩
  intro he
  rw [he, (by decide : firstKind (unit ']') = 7)] at hk
  cases v <;> cases hk

/-- A value is read in one way. -/
def ReadOnce (a : JsValue) : Prop :=
  ∀ b, isJson b = true → ∀ r₁ r₂, Follows r₁ → Follows r₂ →
    canonText a ++ r₁ = canonText b ++ r₂ → same a b = true ∧ r₁ = r₂

theorem readOnce_array (hj : ∀ x ∈ xs, isJson x = true) (ih : ∀ x ∈ xs, ReadOnce x)
    {ys : List JsValue} (hj' : ∀ y ∈ ys, isJson y = true)
    (h : canonText (.array xs) ++ r₁ = canonText (.array ys) ++ r₂) :
    same (.array xs) (.array ys) = true ∧ r₁ = r₂ := by
  simp only [canonText, arrayText, canonItems_eq, List.cons_append, List.append_assoc,
    List.cons.injEq, true_and, List.nil_append] at h
  have hstart : ∀ z, z ∈ xs ∨ z ∈ ys → ∃ c t, canonText z = c :: t ∧ c ≠ unit ']' :=
    fun z hz => canonText_not_close (hz.elim (hj z) (hj' z))
  have hitem : ∀ x ∈ xs, ∀ y ∈ ys, ∀ r s, Follows r → Follows s →
      canonText x ++ r = canonText y ++ s → same x y = true ∧ r = s :=
    fun x hx y hy => ih x hx y (hj' y hy)
  obtain ⟨hall, hr⟩ := joinWith_inj (by decide) (follows_cons (by decide))
    (follows_cons (by decide)) xs ys hstart hitem r₁ r₂ h
  refine ⟨?_, hr⟩
  rw [same, sameItems_iff]
  exact hall

/-- A member is its quoted key, a colon and its value. -/
theorem memberText_inj {w : JsValue} (hv : ReadOnce v) (hw : isJson w = true) {l r s : JsString}
    (hr : Follows r) (hs : Follows s)
    (h : memberText k (canonText v) ++ r = memberText l (canonText w) ++ s) :
    (k = l ∧ same v w = true) ∧ r = s := by
  unfold memberText at h
  rw [List.append_assoc, List.append_assoc] at h
  obtain ⟨hkey, hrest⟩ := quoteJSONString_inj h
  obtain ⟨hsame, hrs⟩ := hv w hw r s hr hs (List.cons.inj hrest).2
  exact ⟨⟨hkey, hsame⟩, hrs⟩

theorem exists_of_forall₂ {R : α → β → Prop} {l : List α} {l' : List β} (h : List.Forall₂ R l l') :
    ∀ a ∈ l, ∃ b ∈ l', R a b := by
  induction h with
  | nil =>
    intro a ha
    cases ha
  | cons hR _ ih =>
    intro a ha
    rcases List.mem_cons.mp ha with rfl | ha
    · exact ⟨_, List.mem_cons_self, hR⟩
    · obtain ⟨b, hb, hab⟩ := ih a ha
      exact ⟨b, List.mem_cons_of_mem _ hb, hab⟩

theorem readOnce_object (hn : (ms.map (·.1)).Nodup) (ih : ∀ m ∈ ms, ReadOnce m.2)
    (hn' : (ns.map (·.1)).Nodup) (hj' : ∀ n ∈ ns, isJson n.2 = true)
    (h : canonText (.object p ms) ++ r₁ = canonText (.object q ns) ++ r₂) :
    same (.object p ms) (.object q ns) = true ∧ r₁ = r₂ := by
  rw [canonText_object hn, canonText_object hn'] at h
  simp only [objectText, List.cons_append, List.append_assoc, List.cons.injEq, true_and,
    List.nil_append] at h
  have hstart : ∀ z : JsString × JsValue, z ∈ sortedMembers ms ∨ z ∈ sortedMembers ns →
      ∃ c t, memberText z.1 (canonText z.2) = c :: t ∧ c ≠ unit '}' :=
    fun z _ => ⟨_, _, rfl, by decide⟩
  have hmember : ∀ m ∈ sortedMembers ms, ∀ n ∈ sortedMembers ns, ∀ r s, Follows r → Follows s →
      memberText m.1 (canonText m.2) ++ r = memberText n.1 (canonText n.2) ++ s →
      (m.1 = n.1 ∧ same m.2 n.2 = true) ∧ r = s :=
    fun m hm n hn r s hr hs he => memberText_inj (ih m (mem_sortedMembers.mp hm))
      (hj' n (mem_sortedMembers.mp hn)) hr hs he
  obtain ⟨hall, hr⟩ := joinWith_inj (by decide) (follows_cons (by decide))
    (follows_cons (by decide)) (sortedMembers ms) (sortedMembers ns) hstart hmember r₁ r₂ h
  refine ⟨?_, hr⟩
  rw [same, Bool.and_eq_true, beq_iff_eq, sameMembers_iff]
  refine ⟨by simpa [sortedMembers] using hall.length_eq, ?_⟩
  intro m hm
  obtain ⟨n, hnmem, hkey, hv⟩ := exists_of_forall₂ hall m (mem_sortedMembers.mpr hm)
  rw [hkey]
  exact ⟨n.2, lookup_of_mem hn' (mem_sortedMembers.mp hnmem), hv⟩

/-- **UNIQUE READING**: a canonical text, followed by something that cannot
    prolong a numeral, determines the JSON value and what follows. -/
theorem canonText_readOnce : ∀ a, isJson a = true → ReadOnce a := by
  refine jsonInduction ?_ ?_ ?_ ?_ ?_ ?_
  · intro b hb r₁ r₂ _ _ h
    have hk := kind_eq rfl hb h
    cases b <;> first | (cases hk; done) | skip
    exact ⟨rfl, List.append_cancel_left h⟩
  · intro x b hb r₁ r₂ _ _ h
    have hk := kind_eq rfl hb h
    cases b <;> first | (cases hk; done) | skip
    next y =>
      cases x <;> cases y
      · exact ⟨rfl, List.append_cancel_left h⟩
      · exact absurd (List.cons.inj h).1 (by decide)
      · exact absurd (List.cons.inj h).1 (by decide)
      · exact ⟨rfl, List.append_cancel_left h⟩
  · intro x b hb r₁ r₂ h₁ h₂ h
    have hk := kind_eq rfl hb h
    cases b <;> first | (cases hk; done) | skip
    next y =>
      cases y with
      | finite y =>
        obtain ⟨hxy, hr⟩ := numberUnits_inj h₁ h₂ h
        exact ⟨by simpa [same] using hxy, hr⟩
      | nan | infinity => cases hb
  · intro s b hb r₁ r₂ _ _ h
    have hk := kind_eq rfl hb h
    cases b <;> first | (cases hk; done) | skip
    next t =>
      obtain ⟨hst, hr⟩ := quoteJSONString_inj h
      exact ⟨by simpa [same] using hst, hr⟩
  · intro xs hj ih b hb r₁ r₂ _ _ h
    have hk := kind_eq (by rw [isJson, isJsonItems_iff]; exact hj) hb h
    cases b <;> first | (cases hk; done) | skip
    next ys =>
      rw [isJson, isJsonItems_iff] at hb
      exact readOnce_array hj ih hb h
  · intro ms hn hj ih b hb r₁ r₂ _ _ h
    have hself : isJson (.object .objectPrototype ms) = true := by
      simp only [isJson, hn, decide_true, Bool.true_and]
      exact (isJsonMembers_iff ms).mpr hj
    have hk := kind_eq hself hb h
    cases b <;> first | (cases hk; done) | skip
    next p ns =>
      simp only [isJson, Bool.and_eq_true, decide_eq_true_eq] at hb
      exact readOnce_object hn ih hb.1.2 ((isJsonMembers_iff ns).mp hb.2) h

/-! ## §6. Equal values have equal texts. -/

theorem canonText_object_congr (hm : (ms.map (·.1)).Nodup) (hn : (ns.map (·.1)).Nodup)
    (ih : ∀ m ∈ ms, ∀ w, same m.2 w = true → isJson w = true → canonText m.2 = canonText w)
    (hj : ∀ n ∈ ns, isJson n.2 = true) (h : same (.object p ms) (.object q ns) = true) :
    canonText (.object p ms) = canonText (.object q ns) := by
  rw [same_object_iff hm hn] at h
  have hkeys : ∀ k, k ∈ ms.map (·.1) ↔ k ∈ ns.map (·.1) := by
    intro k
    rw [← lookup_isSome_iff, ← lookup_isSome_iff]
    have hk := h k
    cases hl : ms.lookup k <;> cases hl' : ns.lookup k <;> simp_all [sameMember]
  have hsorted : sortedKeys ms = sortedKeys ns := by
    refine List.Perm.eq_of_pairwise (fun a b _ _ => le_antisymm)
      (List.pairwise_insertionSort _ _) (List.pairwise_insertionSort _ _) ?_
    exact ((List.perm_insertionSort _ _).trans (keys_perm hm hn hkeys)).trans
      (List.perm_insertionSort _ _).symm
  rw [canonText, canonText, hsorted]
  congr 1
  apply List.map_congr_left
  intro k hk
  rw [canonMembers_eq, canonMembers_eq, lookup_map_snd, lookup_map_snd]
  have hmem : k ∈ ns.map (·.1) := mem_sortedKeys.mp hk
  have hk' := h k
  cases hl' : ns.lookup k with
  | none => exact absurd ((lookup_isSome_iff k ns).mpr hmem) (by rw [hl']; simp)
  | some w =>
    cases hl : ms.lookup k with
    | none => rw [hl, hl'] at hk'; cases hk'
    | some v =>
      rw [hl, hl'] at hk'
      have htext := ih (k, v) (mem_of_lookup hl) w hk' (hj (k, w) (mem_of_lookup hl'))
      simp only [Option.map_some, Option.getD_some] at htext ⊢
      rw [htext]

theorem canonText_congr : ∀ a, isJson a = true →
    ∀ b, same a b = true → isJson b = true → canonText a = canonText b := by
  refine jsonInduction ?_ ?_ ?_ ?_ ?_ ?_
  · intro b h hb
    cases b <;> first | rfl | cases h
  · intro x b h hb
    cases b <;> first | cases h | skip
    next y =>
      have hxy : x = y := by simpa [same] using h
      rw [hxy]
  · intro x b h hb
    cases b <;> first | cases h | skip
    next y =>
      cases y with
      | finite y =>
        have hxy : x.SameNumber y := by simpa [same] using h
        show numberUnits x = numberUnits y
        rw [numberUnits, (numberText_eq_iff x y).mpr hxy, numberUnits]
      | nan | infinity => cases hb
  · intro s b h hb
    cases b <;> first | cases h | skip
    next t =>
      have hst : s = t := by simpa [same] using h
      rw [hst]
  · intro xs hj ih b h hb
    cases b <;> first | cases h | skip
    next ys =>
      rw [isJson, isJsonItems_iff] at hb
      rw [same, sameItems_iff] at h
      rw [canonText, canonText, canonItems_eq, canonItems_eq]
      congr 1
      -- Along the two lists at once.
      clear hj
      induction h with
      | nil => rfl
      | cons hxy _ ihl =>
        rw [List.map_cons, List.map_cons, ih _ (by simp) _ hxy (hb _ (by simp)),
          ihl (fun z hz => ih z (by simp [hz])) (fun z hz => hb z (by simp [hz]))]
  · intro ms hn hj ih b h hb
    cases b <;> first | cases h | skip
    next p ns =>
      simp only [isJson, Bool.and_eq_true, decide_eq_true_eq] at hb
      exact canonText_object_congr hn hb.1.2 ih ((isJsonMembers_iff ns).mp hb.2) h

/-- **THE SERIALIZER IS INJECTIVE** on JSON values, up to member order and the
    sign of zero. -/
theorem canonText_eq_iff (ha : isJson a = true) (hb : isJson b = true) :
    canonText a = canonText b ↔ same a b = true := by
  constructor
  · intro h
    have hend : Follows [] := by
      intro c t he
      cases he
    exact (canonText_readOnce a ha b hb [] [] hend hend (by rw [h])).1
  · intro h
    exact canonText_congr a ha b h hb

/-! ## §7. The payload function. -/

/-- The prototype after the assignments of `__proto__` in the list. -/
def protoAfter (proto : Proto) : Option JsValue → Proto
  | none => proto
  | some .null => .null
  | some v => if v.isObjectLike then .other else proto

theorem signatureKey_ne_protoKey : signatureKey ≠ protoKey := by decide

/-- The copy loop: the members outside `signature` and `__proto__` in their
    order, and the prototype that the assignment of `__proto__` leaves. -/
theorem copy_foldl (ms : List (JsString × JsValue)) :
    ∀ t : Target, (ms.map (·.1)).Nodup → (t.proto = .null → protoKey ∉ ms.map (·.1)) →
      ms.foldl (fun t m => if m.1 = signatureKey then t else t.assign m.1 m.2) t =
        { proto := protoAfter t.proto (ms.lookup protoKey)
          members := t.members ++ dropKeys [signatureKey, protoKey] ms } := by
  induction ms with
  | nil =>
    intro t _ _
    simp [dropKeys, protoAfter]
  | cons m rest ih =>
    intro t hn hnull
    obtain ⟨k, v⟩ := m
    rw [List.map_cons, List.nodup_cons] at hn
    rw [List.foldl_cons, lookup_cons_ite]
    by_cases hsig : k = signatureKey
    · -- The signature is skipped.
      have hne : protoKey ≠ k := by rw [hsig]; exact signatureKey_ne_protoKey.symm
      rw [if_pos hsig, if_neg hne,
        ih t hn.2 (fun h hmem => hnull h (List.mem_cons_of_mem _ hmem))]
      simp [dropKeys, hsig]
    rw [if_neg hsig]
    by_cases hproto : k = protoKey
    · -- The setter runs; the rest of the keys are other keys.
      have hrest : protoKey ∉ rest.map (·.1) := hproto ▸ hn.1
      have hlook : rest.lookup protoKey = none := by
        cases hl : rest.lookup protoKey with
        | none => rfl
        | some w => exact absurd ((lookup_isSome_iff _ _).mp (by rw [hl]; rfl)) hrest
      have hset : t.proto ≠ .null := fun h => hnull h (by simp [hproto])
      have hassign : t.assign k v = { t with proto := protoAfter t.proto (some v) } := by
        unfold Target.assign
        rw [if_pos ⟨hproto, hset⟩]
        cases v <;> simp only [protoAfter] <;> split <;> rfl
      rw [hassign, ih _ hn.2 (fun _ => hrest), hlook, if_pos hproto.symm]
      simp [dropKeys, hproto, protoAfter]
    · have hassign : t.assign k v = { t with members := t.members ++ [(k, v)] } := by
        unfold Target.assign
        rw [if_neg (fun h => hproto h.1)]
      have hnull' : t.proto = .null → protoKey ∉ rest.map (·.1) :=
        fun h hmem => hnull h (List.mem_cons_of_mem _ hmem)
      rw [hassign, ih { t with members := t.members ++ [(k, v)] } hn.2 hnull',
        if_neg (fun h => hproto h.symm)]
      simp [dropKeys, hsig, hproto]

def ParsedObject.protoMember (o : ParsedObject) : Option JsValue := o.members.lookup protoKey

/-- The object without the envelope's signature. -/
def ParsedObject.unsigned (o : ParsedObject) : JsValue :=
  .object .objectPrototype (dropKeys [signatureKey] o.members)

/-- The object without the signature and without `__proto__`. -/
def ParsedObject.covered (o : ParsedObject) : JsValue :=
  .object .objectPrototype (dropKeys [signatureKey, protoKey] o.members)

/-- The object has an object or an array under `__proto__`. -/
def ParsedObject.protoIsObject (o : ParsedObject) : Bool :=
  match o.protoMember with
  | none => false
  | some v => v.isObjectLike

theorem nodup_dropKeys (hn : (ms.map (·.1)).Nodup) (ks : List JsString) :
    ((dropKeys ks ms).map (·.1)).Nodup :=
  hn.sublist (List.filter_sublist.map _)

theorem lookup_dropKeys (ks : List JsString) (k : JsString) (ms : List (JsString × JsValue)) :
    (dropKeys ks ms).lookup k = if k ∈ ks then none else ms.lookup k := by
  have h := lookup_filter_key (fun k => decide (k ∉ ks)) k ms
  simp only [decide_not, Bool.not_eq_true', decide_eq_false_iff_not] at h
  unfold dropKeys
  simp only [decide_not]
  rw [h]
  by_cases hk : k ∈ ks <;> simp [hk]

theorem isJson_dropKeys (o : ParsedObject) (ks : List JsString) :
    isJson (.object .objectPrototype (dropKeys ks o.members)) = true := by
  have hvals := (isJsonMembers_iff o.members).mp o.values_json
  simp only [isJson, nodup_dropKeys o.keys_nodup, decide_true, Bool.true_and]
  rw [isJsonMembers_iff]
  intro m hm
  exact hvals m (List.mem_of_mem_filter hm)

theorem protoAfter_isPlain (v : Option JsValue) :
    (protoAfter .objectPrototype v).isPlain = true ↔
      (match v with | none => false | some w => w.isObjectLike) = false := by
  cases v with
  | none => simp [protoAfter, Proto.isPlain]
  | some w =>
    cases w with
    | other t => by_cases ht : t = "function" <;> simp [protoAfter, Proto.isPlain, JsValue.isObjectLike, ht]
    | _ => simp [protoAfter, Proto.isPlain, JsValue.isObjectLike]

/-- **WHAT IS SIGNED**: an object-valued `__proto__` is refused; otherwise the
    bytes are the text of the object without `signature` AND without
    `__proto__`. -/
theorem canonicalizeJobPayload_parsed (o : ParsedObject) :
    canonicalizeJobPayload o.value =
      if o.protoIsObject then .error (.unsupported "object" (js "$"))
      else .ok (canonText o.covered) := by
  have hcopy : copyWithoutSignature o.members =
      { proto := protoAfter .objectPrototype o.protoMember
        members := dropKeys [signatureKey, protoKey] o.members } := by
    have h := copy_foldl o.members { proto := .objectPrototype, members := [] } o.keys_nodup
      (fun h => by cases h)
    rw [List.nil_append] at h
    exact h
  have hplain := protoAfter_isPlain o.protoMember
  unfold ParsedObject.value canonicalizeJobPayload ParsedObject.protoIsObject
  simp only [Proto.isPlain, if_true, hcopy]
  by_cases hp : (protoAfter .objectPrototype o.protoMember).isPlain = true
  · have hfalse := hplain.mp hp
    rw [hfalse, if_neg (by simp)]
    have hjson := isJson_dropKeys o [signatureKey, protoKey]
    simp only [isJson, Bool.and_eq_true, decide_eq_true_eq] at hjson
    exact serializeObject_ok hp
      (fun m hm => serializeCanonical_json m.2 ((isJsonMembers_iff _).mp hjson.2 m hm)) _
  · have htrue : (match o.protoMember with | none => false | some w => w.isObjectLike) = true := by
      by_contra hc
      exact hp (hplain.mpr (by simpa using hc))
    rw [htrue, if_pos rfl, serializeCanonical, if_neg hp]

/-! ## §8. For which objects the bytes decide equality. -/

/-- Both payloads serialize, and equal bytes mean equal unsigned objects. -/
def BytesDecide (a b : ParsedObject) : Prop :=
  ∃ s t, canonicalizeJobPayload a.value = .ok s ∧ canonicalizeJobPayload b.value = .ok t ∧
    (s = t ↔ same a.unsigned b.unsigned = true)

/-- The objects differ in their `__proto__` members ALONE. -/
def DifferInProtoOnly (a b : ParsedObject) : Prop :=
  same a.covered b.covered = true ∧ sameMember a.protoMember b.protoMember = false

theorem same_unsigned_iff (a b : ParsedObject) :
    same a.unsigned b.unsigned = true ↔
      same a.covered b.covered = true ∧ sameMember a.protoMember b.protoMember = true := by
  unfold ParsedObject.unsigned ParsedObject.covered
  rw [same_object_iff (nodup_dropKeys a.keys_nodup _) (nodup_dropKeys b.keys_nodup _),
    same_object_iff (nodup_dropKeys a.keys_nodup _) (nodup_dropKeys b.keys_nodup _)]
  simp only [lookup_dropKeys]
  constructor
  · intro h
    refine ⟨?_, ?_⟩
    · intro k
      have hk := h k
      by_cases hp : k = protoKey
      · simp [hp, sameMember]
      · simpa [hp] using hk
    · have hk := h protoKey
      rw [if_neg (by simpa using signatureKey_ne_protoKey.symm),
        if_neg (by simpa using signatureKey_ne_protoKey.symm)] at hk
      exact hk
  · intro h k
    obtain ⟨hcov, hproto⟩ := h
    by_cases hp : k = protoKey
    · subst hp
      rw [if_neg (by simpa using signatureKey_ne_protoKey.symm),
        if_neg (by simpa using signatureKey_ne_protoKey.symm)]
      exact hproto
    · simpa [hp] using hcov k

/-- **INJECTIVITY, EXACTLY**: the signed bytes of two parsed objects exist and
    decide whether the objects are equal (without their signature) if and only
    if neither has an object or array under `__proto__` and they do not differ
    in that member alone. -/
theorem canonicalBytes_injective_iff (a b : ParsedObject) :
    BytesDecide a b ↔
      a.protoIsObject = false ∧ b.protoIsObject = false ∧ ¬ DifferInProtoOnly a b := by
  have htext := canonText_eq_iff (isJson_dropKeys a [signatureKey, protoKey])
    (isJson_dropKeys b [signatureKey, protoKey])
  have hcov : canonText a.covered = canonText b.covered ↔ same a.covered b.covered = true := htext
  unfold BytesDecide DifferInProtoOnly
  rw [canonicalizeJobPayload_parsed a, canonicalizeJobPayload_parsed b]
  constructor
  · intro h
    obtain ⟨s, t, hs, ht, hiff⟩ := h
    cases ha : a.protoIsObject with
    | true => simp [ha] at hs
    | false =>
      cases hb : b.protoIsObject with
      | true => simp [hb] at ht
      | false =>
        simp only [ha, hb, Bool.false_eq_true, if_false, Except.ok.injEq] at hs ht
        refine ⟨rfl, rfl, ?_⟩
        intro hdiff
        obtain ⟨hsame, hproto⟩ := hdiff
        have heq : s = t := by rw [← hs, ← ht, hcov]; exact hsame
        have hboth := ((same_unsigned_iff a b).mp (hiff.mp heq)).2
        rw [hproto] at hboth
        cases hboth
  · intro h
    obtain ⟨ha, hb, hdiff⟩ := h
    refine ⟨_, _, by rw [ha, if_neg (by simp)], by rw [hb, if_neg (by simp)], ?_⟩
    rw [hcov, same_unsigned_iff]
    constructor
    · intro hsame
      refine ⟨hsame, ?_⟩
      by_contra hc
      exact hdiff ⟨hsame, by simpa using hc⟩
    · intro hboth
      exact hboth.1

/-- `{"jobId":"1"}`. -/
def plainJob : ParsedObject :=
  { members := [(js "jobId", .string (js "1"))], keys_nodup := by decide, values_json := by decide }

/-- `{"jobId":"1","__proto__":true}`. -/
def protoJob : ParsedObject :=
  { members := [(js "jobId", .string (js "1")), (protoKey, .bool true)]
    keys_nodup := by decide, values_json := by decide }

/-- Two different objects with the same signed bytes. -/
theorem canonicalBytes_lose_proto :
    canonicalizeJobPayload plainJob.value = canonicalizeJobPayload protoJob.value ∧
      same plainJob.unsigned protoJob.unsigned = false ∧ ¬ BytesDecide plainJob protoJob := by
  have hbytes : canonicalizeJobPayload plainJob.value = canonicalizeJobPayload protoJob.value := by
    rw [canonicalizeJobPayload_parsed, canonicalizeJobPayload_parsed]
    rfl
  have hsame : same plainJob.unsigned protoJob.unsigned = false := by decide
  refine ⟨hbytes, hsame, ?_⟩
  intro h
  obtain ⟨s, t, hs, ht, hiff⟩ := h
  rw [hbytes, ht] at hs
  have hst := hiff.mp (Except.ok.inj hs).symm
  rw [hsame] at hst
  cases hst

end TokenTimer.Json
