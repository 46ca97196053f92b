/-
  TokenTimer.Json.Encodings — the bytes of a JavaScript string.

  `Buffer.from(text, "utf8")` writes U+FFFD for a lone surrogate;
  `Buffer.from(text, "ascii")` keeps the low eight bits of each code unit.  Both
  lose something, and the readers (of UTF-8 as it must be, of seven-bit text)
  tell what.

  Main results:
    * `readUtf8_utf8` — UTF-8 is read as the text with its lone surrogates
        replaced.
    * `readUtf8_utf8_iff` — which is the text exactly when it has none.
-/

import TokenTimer.Json.Text
import TokenTimer.Lib.Der

namespace TokenTimer.Json

open Lib.Der

/-! ## §1. UTF-8. -/

def isSurrogate (c : CodeUnit) : Bool := isLeadSurrogate c || isTrailSurrogate c

/-- What stands for a lone surrogate. -/
def REPLACEMENT : CodeUnit := 0xFFFD

/-- The UTF-8 bytes of a code unit that is not half of a surrogate pair. -/
def utf8Unit (c : CodeUnit) : Bytes :=
  let u := if isSurrogate c then REPLACEMENT.val else c.val
  if u < 0x80 then [byte u]
  else if u < 0x800 then [byte (0xC0 + u / 64), byte (0x80 + u % 64)]
  else [byte (0xE0 + u / 4096), byte (0x80 + u / 64 % 64), byte (0x80 + u % 64)]

/-- The character a surrogate pair stands for. -/
def pairPoint (c d : CodeUnit) : Nat := 0x10000 + 1024 * (c.val - 0xD800) + (d.val - 0xDC00)

def utf8Pair (c d : CodeUnit) : Bytes :=
  let u := pairPoint c d
  [byte (0xF0 + u / 262144), byte (0x80 + u / 4096 % 64), byte (0x80 + u / 64 % 64),
    byte (0x80 + u % 64)]

/-- `Buffer.from(text, "utf8")`. -/
def utf8 : JsString → Bytes
  | [] => []
  | [c] => utf8Unit c
  | c :: d :: rest =>
    if isLeadSurrogate c && isTrailSurrogate d then utf8Pair c d ++ utf8 rest
    else utf8Unit c ++ utf8 (d :: rest)

/-- `text.toWellFormed()`. -/
def toWellFormed : JsString → JsString
  | [] => []
  | [c] => [if isSurrogate c then REPLACEMENT else c]
  | c :: d :: rest =>
    if isLeadSurrogate c && isTrailSurrogate d then c :: d :: toWellFormed rest
    else (if isSurrogate c then REPLACEMENT else c) :: toWellFormed (d :: rest)

/-- A byte that continues a character. -/
def isTail (b : Byte) : Bool := 0x80 ≤ b.val && b.val < 0xC0

/-- The text of UTF-8 bytes; nothing for bytes that are not UTF-8. -/
def readUtf8 : Bytes → Option JsString
  | [] => some []
  | a :: r =>
    if a.val < 0x80 then (readUtf8 r).map fun s => Fin.ofNat 65536 a.val :: s
    else match r with
      | [] => none
      | b :: r =>
        if 0xC2 ≤ a.val ∧ a.val < 0xE0 then
          if isTail b then
            (readUtf8 r).map fun s => Fin.ofNat 65536 (64 * (a.val - 0xC0) + (b.val - 0x80)) :: s
          else none
        else match r with
          | [] => none
          | c :: r =>
            if 0xE0 ≤ a.val ∧ a.val < 0xF0 then
              let u := 4096 * (a.val - 0xE0) + 64 * (b.val - 0x80) + (c.val - 0x80)
              if isTail b && isTail c && decide (0x800 ≤ u) && !(isSurrogate (Fin.ofNat 65536 u)) then
                (readUtf8 r).map fun s => Fin.ofNat 65536 u :: s
              else none
            else match r with
              | [] => none
              | d :: r =>
                let u := 262144 * (a.val - 0xF0) + 4096 * (b.val - 0x80) + 64 * (c.val - 0x80) +
                  (d.val - 0x80)
                if isTail b && isTail c && isTail d &&
                    decide (0xF0 ≤ a.val ∧ 0x10000 ≤ u ∧ u < 0x110000) then
                  (readUtf8 r).map fun s => Fin.ofNat 65536 (0xD800 + (u - 0x10000) / 1024) ::
                    Fin.ofNat 65536 (0xDC00 + (u - 0x10000) % 1024) :: s
                else none

theorem isTail_byte {n : Nat} (h : n < 64) : isTail (byte (0x80 + n)) = true := by
  unfold isTail
  rw [byte_val, Bool.and_eq_true, decide_eq_true_eq, decide_eq_true_eq]
  omega

theorem readUtf8_unit (c : CodeUnit) (t : Bytes) :
    readUtf8 (utf8Unit c ++ t) =
      (readUtf8 t).map fun s => (if isSurrogate c then REPLACEMENT else c) :: s := by
  obtain ⟨u, hu, hlt, hsur⟩ : ∃ u : CodeUnit, (if isSurrogate c then REPLACEMENT else c) = u ∧
      (if isSurrogate c then REPLACEMENT.val else c.val) = u.val ∧ isSurrogate u = false := by
    cases hc : isSurrogate c with
    | true => exact ⟨REPLACEMENT, rfl, rfl, by decide⟩
    | false => exact ⟨c, rfl, rfl, hc⟩
  have hbound := u.isLt
  have hof : ∀ n, n = u.val → Fin.ofNat 65536 n = u := by
    intro n hn
    apply Fin.ext
    rw [Fin.val_ofNat, hn]
    omega
  unfold utf8Unit
  simp only [hu, hlt]
  split
  case isTrue h1 =>
    have ha : (byte u.val).val = u.val := by rw [byte_val]; omega
    rw [List.singleton_append, readUtf8.eq_def]
    simp only
    rw [if_pos (by rw [ha]; exact h1), ha, hof _ rfl]
  case isFalse h1 =>
  split
  case isTrue h2 =>
    have ha : (byte (0xC0 + u.val / 64)).val = 0xC0 + u.val / 64 := by rw [byte_val]; omega
    have hb : (byte (0x80 + u.val % 64)).val = 0x80 + u.val % 64 := by rw [byte_val]; omega
    rw [List.cons_append, List.singleton_append, readUtf8.eq_def]
    simp only
    rw [if_neg (by rw [ha]; omega)]
    rw [if_pos (by rw [ha]; omega), if_pos (isTail_byte (Nat.mod_lt _ (by decide))), ha, hb,
      hof _ (by omega)]
  case isFalse h2 =>
    have ha : (byte (0xE0 + u.val / 4096)).val = 0xE0 + u.val / 4096 := by rw [byte_val]; omega
    have hb : (byte (0x80 + u.val / 64 % 64)).val = 0x80 + u.val / 64 % 64 := by
      rw [byte_val]; omega
    have hc : (byte (0x80 + u.val % 64)).val = 0x80 + u.val % 64 := by rw [byte_val]; omega
    have hpoint : 4096 * (0xE0 + u.val / 4096 - 0xE0) + 64 * (0x80 + u.val / 64 % 64 - 0x80) +
        (0x80 + u.val % 64 - 0x80) = u.val := by omega
    rw [List.cons_append, List.cons_append, List.singleton_append, readUtf8.eq_def]
    simp only
    rw [if_neg (by rw [ha]; omega), if_neg (by rw [ha]; omega)]
    rw [if_pos (by rw [ha]; omega), ha, hb, hc, hpoint, hof _ rfl,
      isTail_byte (Nat.mod_lt _ (by decide)), isTail_byte (Nat.mod_lt _ (by decide)), hsur]
    rw [if_pos (by simp; omega)]

theorem readUtf8_pair {c d : CodeUnit} (hc : isLeadSurrogate c = true)
    (hd : isTrailSurrogate d = true) (t : Bytes) :
    readUtf8 (utf8Pair c d ++ t) = (readUtf8 t).map fun s => c :: d :: s := by
  simp only [isLeadSurrogate, isTrailSurrogate, Bool.and_eq_true, decide_eq_true_eq] at hc hd
  obtain ⟨u, hu⟩ : ∃ u, u = pairPoint c d := ⟨_, rfl⟩
  have hpoint := hu
  unfold pairPoint at hpoint
  have hlow : 0x10000 ≤ u := by omega
  have hhigh : u < 0x110000 := by omega
  have hb0 : (byte (0xF0 + u / 262144)).val = 0xF0 + u / 262144 := by rw [byte_val]; omega
  have hb1 : (byte (0x80 + u / 4096 % 64)).val = 0x80 + u / 4096 % 64 := by rw [byte_val]; omega
  have hb2 : (byte (0x80 + u / 64 % 64)).val = 0x80 + u / 64 % 64 := by rw [byte_val]; omega
  have hb3 : (byte (0x80 + u % 64)).val = 0x80 + u % 64 := by rw [byte_val]; omega
  have hback : 262144 * (0xF0 + u / 262144 - 0xF0) + 4096 * (0x80 + u / 4096 % 64 - 0x80) +
      64 * (0x80 + u / 64 % 64 - 0x80) + (0x80 + u % 64 - 0x80) = u := by omega
  have hc' : Fin.ofNat 65536 (0xD800 + (u - 0x10000) / 1024) = c := by
    apply Fin.ext
    rw [Fin.val_ofNat]
    omega
  have hd' : Fin.ofNat 65536 (0xDC00 + (u - 0x10000) % 1024) = d := by
    apply Fin.ext
    rw [Fin.val_ofNat]
    omega
  unfold utf8Pair
  rw [← hu, List.cons_append, List.cons_append, List.cons_append, List.singleton_append,
    readUtf8.eq_def]
  simp only
  rw [if_neg (by rw [hb0]; omega), if_neg (by rw [hb0]; omega), if_neg (by rw [hb0]; omega)]
  rw [hb0, hb1, hb2, hb3, hback, isTail_byte (Nat.mod_lt _ (by decide)),
    isTail_byte (Nat.mod_lt _ (by decide)), isTail_byte (Nat.mod_lt _ (by decide)), hc', hd']
  rw [if_pos (by simp; omega)]

/-- **UTF-8 IS READ AS THE WELL-FORMED TEXT.** -/
theorem readUtf8_utf8 (s : JsString) : readUtf8 (utf8 s) = some (toWellFormed s) := by
  induction s using utf8.induct with
  | case1 => rfl
  | case2 c =>
    have hunit := readUtf8_unit c []
    rw [List.append_nil] at hunit
    exact hunit
  | case3 c d rest hpair ih =>
    rw [utf8, if_pos hpair, toWellFormed, if_pos hpair]
    rw [readUtf8_pair (Bool.and_eq_true_iff.mp hpair).1 (Bool.and_eq_true_iff.mp hpair).2, ih]
    rfl
  | case4 c d rest hpair ih =>
    rw [utf8, if_neg hpair, toWellFormed, if_neg hpair, readUtf8_unit, ih]
    rfl

/-- No surrogate stands alone. -/
def WellFormed (s : JsString) : Prop := toWellFormed s = s

instance (s : JsString) : Decidable (WellFormed s) := inferInstanceAs (Decidable (_ = _))

theorem readUtf8_utf8_iff (s : JsString) : readUtf8 (utf8 s) = some s ↔ WellFormed s := by
  rw [readUtf8_utf8, Option.some.injEq]
  rfl

/-! ## §2. Seven-bit text. -/

/-- `Buffer.from(text, "ascii")`. -/
def ascii (s : JsString) : Bytes := s.map fun c => byte c.val

/-- Seven-bit text; nothing for a byte with the high bit. -/
def readAscii (bs : Bytes) : Option JsString :=
  if bs.all fun b => b.val < 0x80 then some (bs.map fun b => Fin.ofNat 65536 b.val) else none

/-- Every code unit is an ASCII character. -/
def AsciiText (s : JsString) : Prop := ∀ c ∈ s, c.val < 0x80

instance (s : JsString) : Decidable (AsciiText s) := List.decidableBAll (fun c : CodeUnit => c.val < 0x80) s

/-- **SEVEN-BIT TEXT IS READ BACK EXACTLY WHEN IT IS.** -/
theorem readAscii_ascii_iff (s : JsString) : readAscii (ascii s) = some s ↔ AsciiText s := by
  have hread : readAscii (ascii s) =
      if s.all fun c => decide ((byte c.val).val < 0x80) then
        some (s.map fun c => Fin.ofNat 65536 (byte c.val).val)
      else none := by
    unfold readAscii ascii
    rw [List.all_map, List.map_map]
    rfl
  rw [hread]
  constructor
  · intro h c hc
    split at h
    case isFalse => cases h
    case isTrue hall =>
      -- The unit read for `c` is `c`, and it is below the high bit.
      have hmap : s.map (fun c => Fin.ofNat 65536 (byte c.val).val) = s.map id := by
        rw [List.map_id]
        exact Option.some.inj h
      have hval := congrArg Fin.val (List.map_eq_map_iff.mp hmap c hc)
      have hlow := of_decide_eq_true (List.all_eq_true.mp hall c hc)
      rw [byte_val] at hlow
      rw [Fin.val_ofNat, byte_val, id] at hval
      omega
  · intro h
    have hall : (s.all fun c => decide ((byte c.val).val < 0x80)) = true := by
      refine List.all_eq_true.mpr fun c hc => decide_eq_true ?_
      have hlow := h c hc
      rw [byte_val]
      omega
    have hmap : s.map (fun c => Fin.ofNat 65536 (byte c.val).val) = s := by
      refine (List.map_congr_left fun c hc => ?_).trans (List.map_id s)
      have hlow := h c hc
      apply Fin.ext
      rw [Fin.val_ofNat, byte_val, id]
      omega
    rw [if_pos hall, hmap]

end TokenTimer.Json
