/-
  TokenTimer.Json.Grammar — the grammar of RFC 8259 over UTF-16 code units.

  A text derives from a nonterminal: a value, an element, the members of an object
  or the elements of an array.  A value has no whitespace before or after it; an
  element is a value with whitespace around it, and so is a whole document.

  Main results:
    * `Derives.head` — how a value starts.
-/

import TokenTimer.Json.Text

namespace TokenTimer.Json

/-! ## §1. Tokens. -/

/-- Space, tab, line feed and carriage return. -/
def isWs (c : CodeUnit) : Bool := c = unit ' ' || c = unit '\t' || c = unit '\n' || c = unit '\r'

def isDigit (c : CodeUnit) : Bool := unit '0' ≤ c && c ≤ unit '9'

def isHexUnit (c : CodeUnit) : Bool :=
  isDigit c || (unit 'a' ≤ c && c ≤ unit 'f') || (unit 'A' ≤ c && c ≤ unit 'F')

/-- `ws`. -/
def IsWs (t : JsString) : Prop := ∀ c ∈ t, isWs c = true

/-- `1*DIGIT`. -/
structure IsDigits (t : JsString) : Prop where
  nonempty : t ≠ []
  all : ∀ c ∈ t, isDigit c = true

/-- `int`. -/
inductive IsInt : JsString → Prop
  | zero : IsInt [unit '0']
  | nonzero {c : CodeUnit} {t : JsString} (hc : isDigit c = true) (hzero : c ≠ unit '0')
      (ht : ∀ d ∈ t, isDigit d = true) : IsInt (c :: t)

/-- `[ frac ]`. -/
inductive IsFrac : JsString → Prop
  | absent : IsFrac []
  | present {t : JsString} (ht : IsDigits t) : IsFrac (unit '.' :: t)

/-- `[ exp ]`. -/
inductive IsExp : JsString → Prop
  | absent : IsExp []
  | present {e : CodeUnit} {sign t : JsString} (he : e = unit 'e' ∨ e = unit 'E')
      (hsign : sign = [] ∨ sign = [unit '+'] ∨ sign = [unit '-']) (ht : IsDigits t) :
      IsExp (e :: (sign ++ t))

/-- `number`. -/
inductive IsNumber : JsString → Prop
  | intro {minus int frac exp : JsString} (hminus : minus = [] ∨ minus = [unit '-']) (hint : IsInt int)
      (hfrac : IsFrac frac) (hexp : IsExp exp) : IsNumber (minus ++ int ++ frac ++ exp)

/-- What may follow a backslash, but for `u`. -/
def shortEscapes : JsString := js "\"\\/bfnrt"

/-- What stands between the quotes of a string. -/
inductive IsStringBody : JsString → Prop
  | nil : IsStringBody []
  | unescaped {c : CodeUnit} {t : JsString} (hcontrol : 0x20 ≤ c.val) (hquote : c ≠ unit '"')
      (hbackslash : c ≠ unit '\\') (ht : IsStringBody t) : IsStringBody (c :: t)
  | escaped {c : CodeUnit} {t : JsString} (hc : c ∈ shortEscapes) (ht : IsStringBody t) :
      IsStringBody (unit '\\' :: c :: t)
  | hex {h₁ h₂ h₃ h₄ : CodeUnit} {t : JsString} (h₁hex : isHexUnit h₁ = true) (h₂hex : isHexUnit h₂ = true)
      (h₃hex : isHexUnit h₃ = true) (h₄hex : isHexUnit h₄ = true) (ht : IsStringBody t) :
      IsStringBody (unit '\\' :: unit 'u' :: h₁ :: h₂ :: h₃ :: h₄ :: t)

def quoted (body : JsString) : JsString := unit '"' :: (body ++ [unit '"'])

/-! ## §2. Values. -/

/-- An element is a value with whitespace around it; a JSON text is one. -/
inductive Nonterminal
  | value | element | elements | member | members
deriving DecidableEq

inductive Derives : Nonterminal → JsString → Prop
  | literal {t : JsString} (ht : t ∈ [js "true", js "false", js "null"]) : Derives .value t
  | number {t : JsString} (ht : IsNumber t) : Derives .value t
  | string {t : JsString} (ht : IsStringBody t) : Derives .value (quoted t)
  | emptyObject {w : JsString} (hw : IsWs w) : Derives .value (unit '\x7b' :: (w ++ [unit '\x7d']))
  | object {t : JsString} (ht : Derives .members t) : Derives .value (unit '\x7b' :: (t ++ [unit '\x7d']))
  | emptyArray {w : JsString} (hw : IsWs w) : Derives .value (unit '[' :: (w ++ [unit ']']))
  | array {t : JsString} (ht : Derives .elements t) : Derives .value (unit '[' :: (t ++ [unit ']']))
  | element {w₁ t w₂ : JsString} (hw₁ : IsWs w₁) (ht : Derives .value t) (hw₂ : IsWs w₂) :
      Derives .element (w₁ ++ t ++ w₂)
  | lastElement {t : JsString} (ht : Derives .element t) : Derives .elements t
  | elements {t rest : JsString} (ht : Derives .element t) (hrest : Derives .elements rest) :
      Derives .elements (t ++ unit ',' :: rest)
  | member {w₁ name w₂ t : JsString} (hw₁ : IsWs w₁) (hname : IsStringBody name) (hw₂ : IsWs w₂)
      (ht : Derives .element t) : Derives .member (w₁ ++ quoted name ++ w₂ ++ unit ':' :: t)
  | lastMember {t : JsString} (ht : Derives .member t) : Derives .members t
  | members {t rest : JsString} (ht : Derives .member t) (hrest : Derives .members rest) :
      Derives .members (t ++ unit ',' :: rest)

/-! ## §3. How a value starts. -/

def opensNoValue (c : CodeUnit) : Bool := isWs c || c = unit ']' || c = unit '\x7d'

theorem isDigit_opens {c : CodeUnit} (hc : isDigit c = true) : opensNoValue c = false := by
  unfold isDigit at hc
  rw [Bool.and_eq_true, decide_eq_true_eq, decide_eq_true_eq, Fin.le_def, Fin.le_def] at hc
  have hlow : 0x30 ≤ c.val := hc.1
  have hhigh : c.val ≤ 0x39 := hc.2
  have hne : ∀ d : CodeUnit, d.val < 0x30 ∨ 0x39 < d.val → c ≠ d := by
    rintro d hd rfl
    omega
  unfold opensNoValue isWs
  simp only [Bool.or_eq_false_iff, decide_eq_false_iff_not]
  refine ⟨⟨⟨⟨⟨?_, ?_⟩, ?_⟩, ?_⟩, ?_⟩, ?_⟩ <;> exact hne _ (by decide)

theorem IsDigits.head {t : JsString} (h : IsDigits t) : ∃ c s, t = c :: s ∧ isDigit c = true := by
  obtain ⟨hne, hall⟩ := h
  cases t with
  | nil => exact absurd rfl hne
  | cons c s => exact ⟨c, s, rfl, hall c List.mem_cons_self⟩

theorem IsInt.isDigits {t : JsString} (h : IsInt t) : IsDigits t := by
  cases h with
  | zero => exact ⟨List.cons_ne_nil _ _, List.forall_mem_singleton.mpr (by decide)⟩
  | nonzero hc _ ht => exact ⟨List.cons_ne_nil _ _, List.forall_mem_cons.mpr ⟨hc, ht⟩⟩

/-- A number starts with its sign or a digit. -/
theorem IsNumber.opens {t : JsString} (h : IsNumber t) :
    ∃ c s, t = c :: s ∧ (c = unit '-' ∨ isDigit c = true) := by
  obtain ⟨hminus, hint, -, -⟩ := h
  obtain ⟨c, s, rfl, hc⟩ := hint.isDigits.head
  cases hminus with
  | inl hnone => exact ⟨c, _, by rw [hnone]; rfl, .inr hc⟩
  | inr hminus => exact ⟨unit '-', _, by rw [hminus]; rfl, .inl rfl⟩

theorem IsNumber.head {t : JsString} (h : IsNumber t) : ∃ c s, t = c :: s ∧ opensNoValue c = false := by
  obtain ⟨c, s, heq, hc⟩ := h.opens
  refine ⟨c, s, heq, ?_⟩
  cases hc with
  | inl hminus =>
    rw [hminus]
    decide
  | inr hdigit => exact isDigit_opens hdigit

/-- **A VALUE STARTS WITH ITSELF**: with no whitespace and no closing bracket. -/
theorem Derives.head {t : JsString} (h : Derives .value t) : ∃ c s, t = c :: s ∧ opensNoValue c = false := by
  cases h with
  | literal ht =>
    simp only [List.mem_cons, List.not_mem_nil, or_false] at ht
    rcases ht with rfl | rfl | rfl <;> exact ⟨_, _, rfl, rfl⟩
  | number ht => exact ht.head
  | string _ | emptyObject _ | object _ | emptyArray _ | array _ => exact ⟨_, _, rfl, rfl⟩

end TokenTimer.Json
