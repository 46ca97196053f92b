/-
  TokenTimer.Lib.Armor — bytes as base64 between two boundary lines.

  Main results:
    * `base64Decode_encode` — the text of some bytes is read as those bytes.
    * `unarmor_armor` — and so when it is cut into lines between a head and
        a foot.
-/

import TokenTimer.Lib.Der

namespace Lib.Armor

open Lib.Der

/-! ## §1. Base64. -/

def ALPHABET : List Char :=
  "ABCDEFGHIJKLMNOPQRSTUVWXYZabcdefghijklmnopqrstuvwxyz0123456789+/".toList

/-- The character of six bits. -/
def sextet (n : Nat) : Char := ALPHABET.getD (n % 64) 'A'

/-- The six bits of a character. -/
def sextetValue (c : Char) : Option Nat := ALPHABET.findIdx? (· = c)

/-- `Buffer.prototype.toString("base64")`. -/
def base64Encode : Bytes → List Char
  | [] => []
  | [a] => [sextet (a.val / 4), sextet (a.val % 4 * 16), '=', '=']
  | [a, b] =>
    [sextet (a.val / 4), sextet (a.val % 4 * 16 + b.val / 16), sextet (b.val % 16 * 4), '=']
  | a :: b :: c :: rest =>
    sextet (a.val / 4) :: sextet (a.val % 4 * 16 + b.val / 16) ::
      sextet (b.val % 16 * 4 + c.val / 64) :: sextet (c.val % 64) :: base64Encode rest

/-- The bytes of a text in groups of four characters. -/
def base64Decode : List Char → Option Bytes
  | [] => some []
  | w :: x :: y :: z :: rest => do
    let p ← sextetValue w
    let q ← sextetValue x
    if y = '=' ∧ z = '=' ∧ rest = [] then some [byte (4 * p + q / 16)]
    else
      let r ← sextetValue y
      if z = '=' ∧ rest = [] then some [byte (4 * p + q / 16), byte (16 * (q % 16) + r / 4)]
      else
        let s ← sextetValue z
        let more ← base64Decode rest
        some (byte (4 * p + q / 16) :: byte (16 * (q % 16) + r / 4) ::
          byte (64 * (r % 4) + s) :: more)
  | _ => none

theorem sextetValue_sextet {n : Nat} (h : n < 64) : sextetValue (sextet n) = some n := by
  have hall : ∀ n < 64, sextetValue (sextet n) = some n := by decide +kernel
  exact hall n h

/-- No character of the alphabet is a pad or ends a line. -/
theorem sextet_ne {n : Nat} : sextet n ≠ '=' ∧ sextet n ≠ '\n' ∧ sextet n ≠ '-' := by
  have hall : ∀ n < 64, sextet n ≠ '=' ∧ sextet n ≠ '\n' ∧ sextet n ≠ '-' := by decide +kernel
  have hmod : sextet n = sextet (n % 64) := by
    unfold sextet
    rw [Nat.mod_mod]
  rw [hmod]
  exact hall _ (Nat.mod_lt _ (by decide))

theorem byte_eq {b : Byte} {n : Nat} (h : n = b.val) : byte n = b := by
  apply Fin.ext
  rw [byte_val, h]
  omega

/-- **BASE64 IS READ BACK.** -/
theorem base64Decode_encode (bs : Bytes) : base64Decode (base64Encode bs) = some bs := by
  induction bs using base64Encode.induct with
  | case1 => rfl
  | case2 a =>
    have ha := a.isLt
    rw [base64Encode, base64Decode, sextetValue_sextet (by omega), sextetValue_sextet (by omega)]
    simp only [Option.bind_eq_bind, Option.bind_some, and_self, if_true, Option.some.injEq,
      List.cons.injEq, and_true]
    exact byte_eq (by omega)
  | case3 a b =>
    have ha := a.isLt
    have hb := b.isLt
    rw [base64Encode, base64Decode, sextetValue_sextet (by omega), sextetValue_sextet (by omega),
      sextetValue_sextet (by omega)]
    simp only [Option.bind_eq_bind, Option.bind_some]
    rw [if_neg (fun h => sextet_ne.1 h.1)]
    simp only [and_self, if_true, Option.some.injEq, List.cons.injEq, and_true]
    exact ⟨byte_eq (by omega), byte_eq (by omega)⟩
  | case4 a b c rest ih =>
    have ha := a.isLt
    have hb := b.isLt
    have hc := c.isLt
    rw [base64Encode, base64Decode, sextetValue_sextet (by omega), sextetValue_sextet (by omega),
      sextetValue_sextet (by omega), sextetValue_sextet (by omega)]
    simp only [Option.bind_eq_bind, Option.bind_some]
    rw [if_neg (fun h => sextet_ne.1 h.1), if_neg (fun h => sextet_ne.1 h.1), ih]
    simp only [Option.bind_some, Option.some.injEq, List.cons.injEq, and_true]
    exact ⟨byte_eq (by omega), byte_eq (by omega), byte_eq (by omega)⟩

/-- A text is at least as long as its bytes. -/
theorem length_base64Encode (bs : Bytes) : bs.length ≤ (base64Encode bs).length := by
  induction bs using base64Encode.induct with
  | case1 => exact Nat.le_refl _
  | case2 | case3 => simp [base64Encode]
  | case4 a b c rest ih =>
    simp only [base64Encode, List.length_cons]
    omega

theorem base64Encode_ne (bs : Bytes) : ∀ c ∈ base64Encode bs, c ≠ '\n' ∧ c ≠ '-' := by
  induction bs using base64Encode.induct with
  | case1 => intro c hc; cases hc
  | case2 a =>
    intro c hc
    simp only [base64Encode, List.mem_cons, List.not_mem_nil, or_false] at hc
    rcases hc with rfl | rfl | rfl | rfl
    · exact sextet_ne.2
    · exact sextet_ne.2
    · decide
    · decide
  | case3 a b =>
    intro c hc
    simp only [base64Encode, List.mem_cons, List.not_mem_nil, or_false] at hc
    rcases hc with rfl | rfl | rfl | rfl
    · exact sextet_ne.2
    · exact sextet_ne.2
    · exact sextet_ne.2
    · decide
  | case4 a b c rest ih =>
    intro x hx
    simp only [base64Encode, List.mem_cons] at hx
    rcases hx with rfl | rfl | rfl | rfl | hx
    · exact sextet_ne.2
    · exact sextet_ne.2
    · exact sextet_ne.2
    · exact sextet_ne.2
    · exact ih x hx

/-! ## §2. Lines between boundaries. -/

/-- Lines of `width` characters. -/
def linesOf (width : Nat) : Nat → List Char → List (List Char)
  | 0, _ => []
  | _, [] => []
  | fuel + 1, t => t.take width :: linesOf width fuel (t.drop width)

def wrap (width : Nat) (t : List Char) : List (List Char) := linesOf width t.length t

def armor (head foot : List Char) (width : Nat) (bs : Bytes) : List Char :=
  head ++ ['\n'] ++ List.intercalate ['\n'] (wrap width (base64Encode bs)) ++ ['\n'] ++ foot ++ ['\n']

def unarmor (head foot : List Char) (t : List Char) : Option Bytes :=
  if head.isPrefixOf t then
    let body := (t.drop head.length).takeWhile (· ≠ '-')
    if (t.drop head.length).drop body.length = foot ++ ['\n'] then
      base64Decode (body.filter (· ≠ '\n'))
    else none
  else none

theorem flatten_linesOf {width : Nat} (hwidth : 0 < width) (fuel : Nat) :
    ∀ t : List Char, t.length ≤ fuel → (linesOf width fuel t).flatten = t := by
  induction fuel with
  | zero =>
    intro t ht
    rw [List.length_eq_zero_iff.mp (Nat.le_zero.mp ht)]
    rfl
  | succ fuel ih =>
    intro t ht
    cases t with
    | nil => rfl
    | cons c t =>
      rw [linesOf, List.flatten_cons, ih]
      · exact List.take_append_drop _ _
      · rw [List.length_drop]
        omega
      · simp

/-- Joining lines does not shorten them. -/
theorem length_flatten_le (s : Char) (lines : List (List Char)) :
    lines.flatten.length ≤ (List.intercalate [s] lines).length := by
  induction lines with
  | nil => exact Nat.le_refl _
  | cons l lines ih =>
    cases lines with
    | nil => simp [List.intercalate]
    | cons l' lines =>
      have hjoin : List.intercalate [s] (l :: l' :: lines) =
          l ++ s :: List.intercalate [s] (l' :: lines) := by
        simp [List.intercalate]
      rw [hjoin, List.flatten_cons, List.length_append, List.length_append, List.length_cons]
      omega

theorem length_armor {width : Nat} (hwidth : 0 < width) (head foot : List Char) (bs : Bytes) :
    bs.length ≤ (armor head foot width bs).length := by
  have hlines := length_flatten_le '\n' (wrap width (base64Encode bs))
  have hflat : (wrap width (base64Encode bs)).flatten = base64Encode bs :=
    flatten_linesOf hwidth _ _ (Nat.le_refl _)
  rw [hflat] at hlines
  have hbase := length_base64Encode bs
  unfold armor
  simp only [List.length_append]
  omega

theorem filter_intercalate {s : Char} (lines : List (List Char)) (h : ∀ l ∈ lines, s ∉ l) :
    (List.intercalate [s] lines).filter (· ≠ s) = lines.flatten := by
  have hself : ∀ l : List Char, s ∉ l → l.filter (· ≠ s) = l := by
    intro l hl
    refine List.filter_eq_self.mpr fun c hc => decide_eq_true ?_
    rintro rfl
    exact hl hc
  induction lines with
  | nil => rfl
  | cons l lines ih =>
    cases lines with
    | nil => simpa [List.intercalate] using hself l (h l List.mem_cons_self)
    | cons l' lines =>
      have hjoin : List.intercalate [s] (l :: l' :: lines) =
          l ++ s :: List.intercalate [s] (l' :: lines) := by
        simp [List.intercalate]
      rw [hjoin, List.filter_append, hself l (h l List.mem_cons_self), List.filter_cons,
        if_neg (by simp), ih (fun x hx => h x (List.mem_cons_of_mem _ hx))]
      rfl

/-- **AN ARMORED TEXT IS READ BACK**, when the foot starts with a dash. -/
theorem unarmor_armor {width : Nat} (hwidth : 0 < width) (head rest : List Char) (bs : Bytes) :
    unarmor head ('-' :: rest) (armor head ('-' :: rest) width bs) = some bs := by
  have hflat : (wrap width (base64Encode bs)).flatten = base64Encode bs :=
    flatten_linesOf hwidth _ _ (Nat.le_refl _)
  have hmem : ∀ l ∈ wrap width (base64Encode bs), ∀ c ∈ l, c ≠ '\n' ∧ c ≠ '-' := by
    intro l hl c hc
    refine base64Encode_ne bs c ?_
    rw [← hflat]
    exact List.mem_flatten.mpr ⟨l, hl, hc⟩
  have hbody : ∀ c ∈ '\n' :: (List.intercalate ['\n'] (wrap width (base64Encode bs)) ++ ['\n']),
      decide (c ≠ '-') = true := by
    intro c hc
    refine decide_eq_true ?_
    rcases List.mem_cons.mp hc with rfl | hc
    · decide
    · rcases List.mem_append.mp hc with hc | hc
      · by_cases hnl : c = '\n'
        · rw [hnl]
          decide
        · have hfilter : c ∈ (List.intercalate ['\n'] (wrap width (base64Encode bs))).filter
              (· ≠ '\n') := List.mem_filter.mpr ⟨hc, decide_eq_true hnl⟩
          rw [filter_intercalate _ fun l hl hs => (hmem l hl _ hs).1 rfl, hflat] at hfilter
          exact (base64Encode_ne bs c hfilter).2
      · rw [List.mem_singleton.mp hc]
        decide
  have hdrop : (armor head ('-' :: rest) width bs).drop head.length =
      '\n' :: (List.intercalate ['\n'] (wrap width (base64Encode bs)) ++ ['\n']) ++
        '-' :: (rest ++ ['\n']) := by
    unfold armor
    rw [List.append_assoc, List.append_assoc, List.append_assoc, List.append_assoc, List.drop_left]
    simp
  have hhead : head.isPrefixOf (armor head ('-' :: rest) width bs) = true := by
    unfold armor
    rw [List.append_assoc, List.append_assoc, List.append_assoc, List.append_assoc]
    exact List.isPrefixOf_iff_prefix.mpr (List.prefix_append _ _)
  have htake : ((armor head ('-' :: rest) width bs).drop head.length).takeWhile (· ≠ '-') =
      '\n' :: (List.intercalate ['\n'] (wrap width (base64Encode bs)) ++ ['\n']) := by
    rw [hdrop, List.takeWhile_append_of_pos hbody]
    simp
  unfold unarmor
  rw [if_pos hhead]
  simp only
  rw [htake, hdrop, List.drop_left, ← List.cons_append, if_pos rfl, List.filter_cons, if_neg (by simp),
    List.filter_append, filter_intercalate _ fun l hl hs => (hmem l hl _ hs).1 rfl, hflat]
  simp only [List.filter_cons, List.filter_nil, ne_eq, not_true_eq_false, decide_false,
    Bool.false_eq_true, if_false, List.append_nil]
  exact base64Decode_encode bs

end Lib.Armor
