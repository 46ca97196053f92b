/-
  TokenTimer.Json.Text — JavaScript strings and their JSON texts.

  A JavaScript string is a list of UTF-16 code units; lone surrogates are
  allowed, and `JSON.stringify` escapes exactly those (`QuoteJSONString`).

  Main results:
    * `quoteJSONString_inj` — a quoted string, followed by anything, determines
      the string and what follows.
    * `numberUnits_inj` — so does the text of a finite number, when what
      follows is not part of a numeral.
-/

import TokenTimer.Lib.Bits
import TokenTimer.Lib.Delimited
import TokenTimer.Lib.Numeral

namespace TokenTimer.Json

open Lib.Delimited Lib.Numeric

/-! ## §1. Code units. -/

abbrev CodeUnit := Fin 65536

abbrev JsString := List CodeUnit

def unit (c : Char) : CodeUnit := Fin.ofNat 65536 c.toNat

/-- A string literal of the source. -/
def js (s : String) : JsString := s.toList.map unit

def isLeadSurrogate (c : CodeUnit) : Bool := 0xD800 ≤ c.val && c.val ≤ 0xDBFF
def isTrailSurrogate (c : CodeUnit) : Bool := 0xDC00 ≤ c.val && c.val ≤ 0xDFFF

/-! ## §2. `QuoteJSONString`. -/

def hexDigit (n : Nat) : CodeUnit := Fin.ofNat 65536 (if n < 10 then 0x30 + n else 0x57 + n)

/-- `UnicodeEscape`: four lowercase hexadecimal digits. -/
def unicodeEscape (c : CodeUnit) : JsString :=
  [unit '\\', unit 'u', hexDigit (c.val / 4096), hexDigit (c.val / 256 % 16),
    hexDigit (c.val / 16 % 16), hexDigit (c.val % 16)]

/-- The text of a code unit that is not half of a surrogate pair. -/
def escapeUnit (c : CodeUnit) : JsString :=
  if c.val = 0x08 then js "\\b"
  else if c.val = 0x09 then js "\\t"
  else if c.val = 0x0A then js "\\n"
  else if c.val = 0x0C then js "\\f"
  else if c.val = 0x0D then js "\\r"
  else if c.val = 0x22 then js "\\\""
  else if c.val = 0x5C then js "\\\\"
  else if c.val < 0x20 || isLeadSurrogate c || isTrailSurrogate c then unicodeEscape c
  else [c]

/-- The text between the quotes. -/
def quoteBody : JsString → JsString
  | [] => []
  | [c] => escapeUnit c
  | c :: d :: rest =>
    if isLeadSurrogate c && isTrailSurrogate d then c :: d :: quoteBody rest
    else escapeUnit c ++ quoteBody (d :: rest)

/-- `JSON.stringify` of a string. -/
def quoteJSONString (s : JsString) : JsString := unit '"' :: quoteBody s ++ [unit '"']

/-! ## §3. Reading a quoted string back. -/

def hexValue (c : CodeUnit) : Nat := if c.val < 0x3A then c.val - 0x30 else c.val - 0x57

/-- What an escape after the backslash stands for. -/
def readEscape : JsString → Option (CodeUnit × JsString)
  | e :: r =>
    if e.val = 0x75 then
      match r with
      | h₁ :: h₂ :: h₃ :: h₄ :: r' =>
        some (Fin.ofNat 65536 (hexValue h₁ * 4096 + hexValue h₂ * 256 + hexValue h₃ * 16
          + hexValue h₄), r')
      | _ => none
    else if e.val = 0x62 then some (0x08, r)
    else if e.val = 0x74 then some (0x09, r)
    else if e.val = 0x6E then some (0x0A, r)
    else if e.val = 0x66 then some (0x0C, r)
    else if e.val = 0x72 then some (0x0D, r)
    else some (e, r)
  | [] => none

/-- One code unit of a string body; the closing quote stops the reader. -/
def readUnit : JsString → Option (CodeUnit × JsString)
  | c :: r =>
    if c.val = 0x22 then none
    else if c.val = 0x5C then readEscape r
    else some (c, r)
  | [] => none

theorem hexValue_hexDigit {n : Nat} (h : n < 16) : hexValue (hexDigit n) = n := by
  unfold hexValue hexDigit
  by_cases hn : n < 10
  · rw [if_pos hn]
    simp only [Fin.ofNat]
    rw [if_pos (by omega)]
    omega
  · rw [if_neg hn]
    simp only [Fin.ofNat]
    rw [if_neg (by omega)]
    omega

theorem readUnit_unicodeEscape (c : CodeUnit) (r : JsString) :
    readUnit (unicodeEscape c ++ r) = some (c, r) := by
  have hc := c.isLt
  have hval : hexValue (hexDigit (c.val / 4096)) * 4096 + hexValue (hexDigit (c.val / 256 % 16)) * 256
      + hexValue (hexDigit (c.val / 16 % 16)) * 16 + hexValue (hexDigit (c.val % 16)) = c.val := by
    rw [hexValue_hexDigit (by omega), hexValue_hexDigit (by omega), hexValue_hexDigit (by omega),
      hexValue_hexDigit (by omega)]
    omega
  show some (Fin.ofNat 65536 (hexValue (hexDigit (c.val / 4096)) * 4096
    + hexValue (hexDigit (c.val / 256 % 16)) * 256 + hexValue (hexDigit (c.val / 16 % 16)) * 16
    + hexValue (hexDigit (c.val % 16))), r) = some (c, r)
  rw [hval]
  congr 2
  exact Fin.ext (Nat.mod_eq_of_lt hc)

theorem readUnit_raw {c : CodeUnit} (hq : c.val ≠ 0x22) (hb : c.val ≠ 0x5C) (r : JsString) :
    readUnit (c :: r) = some (c, r) := by
  unfold readUnit
  simp only [hq, hb, if_false]

theorem readUnit_escapeUnit (c : CodeUnit) (r : JsString) :
    readUnit (escapeUnit c ++ r) = some (c, r) := by
  have hfin : ∀ k : CodeUnit, c.val = k.val → c = k := fun k hk => Fin.ext hk
  unfold escapeUnit
  split_ifs with h1 h2 h3 h4 h5 h6 h7 h8
  · rw [hfin 0x08 h1]; rfl
  · rw [hfin 0x09 h2]; rfl
  · rw [hfin 0x0A h3]; rfl
  · rw [hfin 0x0C h4]; rfl
  · rw [hfin 0x0D h5]; rfl
  · rw [hfin 0x22 h6]; rfl
  · rw [hfin 0x5C h7]; rfl
  · exact readUnit_unicodeEscape c r
  · exact readUnit_raw h6 h7 r

theorem surrogate_raw {c : CodeUnit} (h : isLeadSurrogate c = true ∨ isTrailSurrogate c = true) :
    c.val ≠ 0x22 ∧ c.val ≠ 0x5C := by
  unfold isLeadSurrogate isTrailSurrogate at h
  simp only [Bool.and_eq_true, decide_eq_true_eq] at h
  omega

theorem reads_quoteBody (s r : JsString) :
    Reads readUnit (quoteBody s ++ unit '"' :: r) s (unit '"' :: r) := by
  -- Induction along the pairs of the encoder: a surrogate pair is two raw units.
  induction s using quoteBody.induct with
  | case1 => exact .stop rfl
  | case2 c => exact .unit (readUnit_escapeUnit c _) (.stop rfl)
  | case3 c d rest hpair ih =>
    have hsur : isLeadSurrogate c = true ∧ isTrailSurrogate d = true := by
      simpa using hpair
    rw [quoteBody, if_pos hpair]
    obtain ⟨hc1, hc2⟩ := surrogate_raw (.inl hsur.1)
    obtain ⟨hd1, hd2⟩ := surrogate_raw (.inr hsur.2)
    exact .unit (readUnit_raw hc1 hc2 _) (.unit (readUnit_raw hd1 hd2 _) ih)
  | case4 c d rest hpair ih =>
    rw [quoteBody, if_neg hpair, List.append_assoc]
    exact .unit (readUnit_escapeUnit c _) ih

/-- **QUOTED STRINGS ARE SELF-DELIMITING**. -/
theorem quoteJSONString_inj {s t r₁ r₂ : JsString}
    (h : quoteJSONString s ++ r₁ = quoteJSONString t ++ r₂) : s = t ∧ r₁ = r₂ := by
  unfold quoteJSONString at h
  simp only [List.cons_append, List.append_assoc, List.cons.injEq, true_and, List.nil_append] at h
  have hs := reads_quoteBody s r₁
  rw [h] at hs
  obtain ⟨hst, hr⟩ := hs.det (reads_quoteBody t r₂)
  exact ⟨hst, (List.cons.inj hr).2⟩

/-! ## §4. Numbers. -/

def symUnit : NumSym → CodeUnit
  | .digit d => Fin.ofNat 65536 (0x30 + d.val)
  | .dot => unit '.'
  | .expMark => unit 'e'
  | .plus => unit '+'
  | .minus => unit '-'

/-- `JSON.stringify` of a finite number. -/
def numberUnits (x : Binary64) : JsString := (numberText x).map symUnit

def isNumUnit (c : CodeUnit) : Bool :=
  (0x30 ≤ c.val && c.val ≤ 0x39) || c.val = 0x2E || c.val = 0x65 || c.val = 0x2B || c.val = 0x2D

/-- The code units of the digits are different from each other and from those of
    the marks. -/
theorem symUnit_inj : Function.Injective symUnit := by
  have hdigit : ∀ d e : Fin 10, symUnit (.digit d) = symUnit (.digit e) → d = e := by decide
  have hmark : ∀ d : Fin 10, ∀ m ∈ [NumSym.dot, .expMark, .plus, .minus],
      symUnit (.digit d) ≠ symUnit m := by decide
  intro a b h
  cases a with
  | digit d =>
    cases b with
    | digit e => rw [hdigit d e h]
    | _ => exact absurd h (hmark d _ (by decide))
  | _ =>
    cases b with
    | digit e => exact absurd h.symm (hmark e _ (by decide))
    | _ => first | rfl | exact absurd h (by decide)

theorem isNumUnit_symUnit (c : NumSym) : isNumUnit (symUnit c) = true := by
  cases c with
  | digit d => revert d; decide
  | _ => rfl

theorem append_cut {a b r₁ r₂ : JsString} (ha : ∀ c ∈ a, isNumUnit c = true)
    (hb : ∀ c ∈ b, isNumUnit c = true) (h₁ : ∀ c t, r₁ = c :: t → isNumUnit c = false)
    (h₂ : ∀ c t, r₂ = c :: t → isNumUnit c = false) (h : a ++ r₁ = b ++ r₂) : a = b ∧ r₁ = r₂ := by
  have hrun : ∀ r : JsString, (∀ c t, r = c :: t → isNumUnit c = false) →
      r.takeWhile isNumUnit = [] := by
    intro r hr
    cases r with
    | nil => rfl
    | cons c t => simp [hr c t rfl]
  have htake := congrArg (List.takeWhile isNumUnit) h
  rw [List.takeWhile_append_of_pos ha, List.takeWhile_append_of_pos hb, hrun r₁ h₁, hrun r₂ h₂,
    List.append_nil, List.append_nil] at htake
  subst htake
  exact ⟨rfl, List.append_cancel_left h⟩

/-- **NUMBERS**: the text of a number, followed by no numeral unit, determines
    the number up to the sign of zero. -/
theorem numberUnits_inj {x y : Binary64} {r₁ r₂ : JsString}
    (h₁ : ∀ c t, r₁ = c :: t → isNumUnit c = false)
    (h₂ : ∀ c t, r₂ = c :: t → isNumUnit c = false)
    (h : numberUnits x ++ r₁ = numberUnits y ++ r₂) : x.SameNumber y ∧ r₁ = r₂ := by
  have hall : ∀ z : Binary64, ∀ c ∈ numberUnits z, isNumUnit c = true := by
    intro z c hc
    obtain ⟨s, -, rfl⟩ := List.mem_map.mp hc
    exact isNumUnit_symUnit s
  obtain ⟨htext, hr⟩ := append_cut (hall x) (hall y) h₁ h₂ h
  exact ⟨(numberText_eq_iff x y).mp (symUnit_inj.list_map htext), hr⟩

end TokenTimer.Json
