/-
  TokenTimer.Lib.Der — reading the distinguished encoding of ASN.1 values.

  A value is a tag, a definite length in the fewest bytes, and as many bytes of
  content.  The readers say what they leave behind; a reader that must use up
  its bytes is `whole`.

  Main results:
    * `readTlv_append` — a value is read back from what starts with it.
    * `readRaw_append` — and so is the value with its tag and length.
    * `elements_flatMap` — values one after the other are read back as a list.
-/

import TokenTimer.Lib.Bits
import Mathlib.Data.List.Basic

namespace Lib.Der

/-! ## §1. Bytes. -/

abbrev Byte := Fin 256
abbrev Bytes := List Byte

/-- The low eight bits. -/
def byte (n : Nat) : Byte := Fin.ofNat 256 n

@[simp] theorem byte_val (n : Nat) : (byte n).val = n % 256 := rfl

/-- The number big-endian bytes denote. -/
def bigEndian (bs : Bytes) : Nat := bs.foldl (fun n b => 256 * n + b.val) 0

/-! ## §2. Lengths and values. -/

/-- A definite length in the fewest bytes. -/
def readLength : Bytes → Option (Nat × Bytes)
  | [] => none
  | b :: rest =>
    if b.val < 128 then some (b.val, rest)
    else
      let digits := rest.take (b.val - 128)
      if digits.length = b.val - 128 ∧ digits.head? ≠ some 0 ∧ 128 ≤ bigEndian digits then
        some (bigEndian digits, rest.drop (b.val - 128))
      else none

/-- Tag, content and what follows. -/
def readTlv : Bytes → Option (Byte × Bytes × Bytes)
  | [] => none
  | tag :: bs =>
    match readLength bs with
    | some (n, rest) => if n ≤ rest.length then some (tag, rest.take n, rest.drop n) else none
    | none => none

/-- A value of the given tag: its content and what follows. -/
def readAs (tag : Byte) (bs : Bytes) : Option (Bytes × Bytes) :=
  match readTlv bs with
  | some (t, content, rest) => if t = tag then some (content, rest) else none
  | none => none

/-- The content of the one value of the given tag. -/
def whole (tag : Byte) (bs : Bytes) : Option Bytes :=
  match readAs tag bs with
  | some (content, []) => some content
  | _ => none

/-- A value with its tag and length, and what follows. -/
def readRaw (bs : Bytes) : Option (Bytes × Bytes) :=
  (readTlv bs).map fun (_, _, rest) => (bs.take (bs.length - rest.length), rest)

/-- Values one after the other; `fuel` values at most. -/
def elementsIn : Nat → Bytes → Option (List (Byte × Bytes))
  | _, [] => some []
  | 0, _ => none
  | fuel + 1, bs => do
    let (tag, content, rest) ← readTlv bs
    let more ← elementsIn fuel rest
    some ((tag, content) :: more)

/-- Values one after the other to the end. -/
def elements (bs : Bytes) : Option (List (Byte × Bytes)) := elementsIn bs.length bs

/-- The arcs of an object identifier when one has `begun`. -/
def readArcs : Option Nat → Bytes → Option (List Nat)
  | none, [] => some []
  | some _, [] => none
  | begun, b :: bs =>
    if begun = none ∧ b.val = 128 then none
    else if b.val < 128 then (readArcs none bs).map fun arcs => (128 * begun.getD 0 + b.val) :: arcs
    else readArcs (some (128 * begun.getD 0 + (b.val - 128))) bs

/-- The content of an object identifier. -/
def readOid (bs : Bytes) : Option (List Nat) :=
  match readArcs none bs with
  | some (v :: arcs) =>
    if v < 40 then some (0 :: v :: arcs)
    else if v < 80 then some (1 :: (v - 40) :: arcs)
    else some (2 :: (v - 80) :: arcs)
  | _ => none

example : readOid [0x2a, 0x86, 0x48, 0x86, 0xf7, 0x0d, 0x01, 0x09, 0x0e] =
    some [1, 2, 840, 113549, 1, 9, 14] := by decide

/-! ## §3. What is read back. -/

theorem readLength_cons (b : Byte) (rest : Bytes) :
    readLength (b :: rest) = if b.val < 128 then some (b.val, rest)
      else if (rest.take (b.val - 128)).length = b.val - 128 ∧
          (rest.take (b.val - 128)).head? ≠ some 0 ∧ 128 ≤ bigEndian (rest.take (b.val - 128)) then
        some (bigEndian (rest.take (b.val - 128)), rest.drop (b.val - 128))
      else none := rfl

theorem readTlv_cons (tag : Byte) (bs : Bytes) :
    readTlv (tag :: bs) = (readLength bs).bind fun (n, rest) =>
      if n ≤ rest.length then some (tag, rest.take n, rest.drop n) else none := by
  rw [readTlv]
  cases readLength bs <;> rfl

variable {tag : Byte} {bs content rest : Bytes}

/-- A value is a tag, a length and the content. -/
theorem readTlv_eq_some (h : readTlv bs = some (tag, content, rest)) :
    ∃ t n r, bs = tag :: t ∧ readLength t = some (n, r) ∧ n ≤ r.length ∧
      content = r.take n ∧ rest = r.drop n := by
  cases bs with
  | nil => cases h
  | cons b t =>
    rw [readTlv_cons] at h
    obtain ⟨⟨n, r⟩, hlength, h⟩ := Option.bind_eq_some_iff.mp h
    simp only at h
    split at h
    case isFalse => cases h
    case isTrue hle =>
      simp only [Option.some.injEq, Prod.mk.injEq] at h
      obtain ⟨rfl, rfl, rfl⟩ := h
      exact ⟨t, n, r, rfl, hlength, hle, rfl, rfl⟩

theorem readLength_short {n : Nat} (h : n < 128) (rest : Bytes) :
    readLength (byte n :: rest) = some (n, rest) := by
  have hval : (byte n).val = n := by
    rw [byte_val]
    omega
  rw [readLength_cons, hval, if_pos h]

theorem readLength_long {digits : Bytes} (hlen : digits.length < 128)
    (hhead : digits.head? ≠ some 0) (hvalue : 128 ≤ bigEndian digits) (rest : Bytes) :
    readLength (byte (128 + digits.length) :: digits ++ rest) = some (bigEndian digits, rest) := by
  have hval : (byte (128 + digits.length)).val = 128 + digits.length := by
    rw [byte_val]
    omega
  have hsub : 128 + digits.length - 128 = digits.length := by omega
  rw [List.cons_append, readLength_cons, hval, hsub, if_neg (by omega), List.take_left,
    List.drop_left, if_pos ⟨rfl, hhead, hvalue⟩]

theorem readLength_rest {n : Nat} (h : readLength bs = some (n, rest)) :
    ∃ start, start ≠ [] ∧ bs = start ++ rest ∧ ∀ more, readLength (bs ++ more) = some (n, rest ++ more) := by
  cases bs with
  | nil => cases h
  | cons b bs =>
    rw [readLength_cons] at h
    by_cases hshort : b.val < 128
    · rw [if_pos hshort] at h
      obtain ⟨rfl, rfl⟩ := Prod.mk.inj (Option.some.inj h)
      refine ⟨[b], by simp, rfl, fun more => ?_⟩
      rw [List.cons_append, readLength_cons, if_pos hshort]
    · rw [if_neg hshort] at h
      split at h
      case isFalse => cases h
      case isTrue hok =>
        obtain ⟨hn, hr⟩ := Prod.mk.inj (Option.some.inj h)
        have hle : b.val - 128 ≤ bs.length := by
          have hlen := hok.1
          rw [List.length_take] at hlen
          omega
        refine ⟨b :: bs.take (b.val - 128), by simp, ?_, fun more => ?_⟩
        · rw [← hr, List.cons_append, List.take_append_drop]
        · rw [List.cons_append, readLength_cons, if_neg hshort, List.take_append_of_le_length hle,
            List.drop_append_of_le_length hle, if_pos hok, hn, hr]

/-- **A VALUE IS READ BACK.** -/
theorem readTlv_append {length : Bytes}
    (h : readLength (length ++ (content ++ rest)) = some (content.length, content ++ rest)) :
    readTlv (tag :: length ++ content ++ rest) = some (tag, content, rest) := by
  rw [List.append_assoc, List.cons_append, readTlv_cons, h, Option.bind_some]
  simp only
  rw [if_pos (by rw [List.length_append]; omega), List.take_left, List.drop_left]

/-- Reading a value does not depend on what follows. -/
theorem readTlv_more (h : readTlv bs = some (tag, content, rest)) (more : Bytes) :
    readTlv (bs ++ more) = some (tag, content, rest ++ more) := by
  obtain ⟨t, n, r, rfl, hlength, hle, rfl, rfl⟩ := readTlv_eq_some h
  obtain ⟨start, -, -, hmore⟩ := readLength_rest hlength
  rw [List.cons_append, readTlv_cons, hmore, Option.bind_some]
  simp only
  rw [if_pos (by rw [List.length_append]; omega), List.take_append_of_le_length hle,
    List.drop_append_of_le_length hle]

/-- A value takes at least one byte. -/
theorem readTlv_shorter (h : readTlv bs = some (tag, content, rest)) : rest.length < bs.length := by
  obtain ⟨t, n, r, rfl, hlength, hle, rfl, rfl⟩ := readTlv_eq_some h
  obtain ⟨start, -, hstart, -⟩ := readLength_rest hlength
  rw [hstart, List.length_drop, List.length_cons, List.length_append]
  omega

theorem readAs_of_readTlv (h : readTlv bs = some (tag, content, rest)) :
    readAs tag bs = some (content, rest) := by
  unfold readAs
  rw [h]
  exact if_pos rfl

theorem whole_of_readTlv (h : readTlv bs = some (tag, content, [])) : whole tag bs = some content := by
  unfold whole
  rw [readAs_of_readTlv h]

/-- **A VALUE IS READ BACK AS IT STANDS.** -/
theorem readRaw_append (h : readTlv bs = some (tag, content, [])) (rest : Bytes) :
    readRaw (bs ++ rest) = some (bs, rest) := by
  unfold readRaw
  rw [readTlv_more h rest]
  simp only [Option.map_some, List.nil_append]
  rw [List.length_append, Nat.add_sub_cancel, List.take_left]

/-- **VALUES ONE AFTER THE OTHER ARE READ BACK.** -/
theorem elements_flatMap {α : Type} (encode : α → Bytes) (value : α → Byte × Bytes)
    (items : List α)
    (h : ∀ a ∈ items, readTlv (encode a) = some ((value a).1, (value a).2, [])) :
    elements (items.flatMap encode) = some (items.map value) := by
  have hfuel : ∀ (items : List α) (fuel : Nat),
      (∀ a ∈ items, readTlv (encode a) = some ((value a).1, (value a).2, [])) →
      (items.flatMap encode).length ≤ fuel →
      elementsIn fuel (items.flatMap encode) = some (items.map value) := by
    intro items
    induction items with
    | nil => intro fuel _ _; cases fuel <;> rfl
    | cons a items ih =>
      intro fuel hall hle
      have hread := hall a List.mem_cons_self
      have hmore := readTlv_more hread (items.flatMap encode)
      rw [List.nil_append] at hmore
      rw [List.flatMap_cons] at hle ⊢
      cases hbs : encode a ++ items.flatMap encode with
      | nil =>
        rw [hbs] at hmore
        cases hmore
      | cons b bs =>
        have hshorter := readTlv_shorter hmore
        cases fuel with
        | zero =>
          rw [hbs] at hle
          cases hle
        | succ fuel =>
          rw [← hbs, elementsIn]
          · rw [hmore]
            simp only [Option.bind_eq_bind, Option.bind_some]
            rw [ih fuel (fun x hx => hall x (List.mem_cons_of_mem _ hx)) (by omega)]
            rfl
          · intro hnil
            rw [hnil] at hbs
            cases hbs
  exact hfuel items _ h (Nat.le_refl _)

end Lib.Der
