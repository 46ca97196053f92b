/-
  TokenTimer.Signing.StrictJson — the single-value gate on a signed payload
  (`packages/agent/src/signing/index.js`).

  `scanSingleJsonValueEnd` walks over one value with a cursor `i` into the text and
  says where it ends; `parseSingleJsonValueStrict` lets `JSON.parse` see the text
  only if that is its end.  The scanner accepts more than the grammar (a leading
  zero, a control character in a string); `JSON.parse` does not.  It must never
  stop short of a value's end, nor run past it.

  The mutual recursion of the source runs on fuel here, and never runs out of it.

  Main results:
    * `Derives.scanned` — a value is scanned to its end, whatever follows it.
    * `scan_settled` — the scanner ends, inside the text.
    * `parseSingleJsonValueStrict_gate` — the gate lets exactly the single values pass.
-/

import TokenTimer.Json.Grammar

namespace TokenTimer.Signing.StrictJson

open TokenTimer.Json

/-! ## §1. The scanner. -/

section Scanner

variable (text : JsString)

def skipWs (i : Nat) : Nat := i + ((text.drop i).takeWhile isWs).length

/-- `while (i < len && text[i] >= "0" && text[i] <= "9") i++`, of at least one digit. -/
def digits (i : Nat) : Option Nat :=
  if text[i]?.any isDigit then some (i + ((text.drop i).takeWhile isDigit).length) else none

/-- The loop of `parseString` over what is left of the text. -/
def closeQuote : JsString → Nat → Option Nat
  | [], _ => none
  | [c], i => if c = unit '"' then some (i + 1) else none
  | c :: d :: rest, i =>
    if c = unit '"' then some (i + 1)
    else if c = unit '\\' then closeQuote rest (i + 2)
    else closeQuote (d :: rest) (i + 1)

def parseString (i : Nat) : Option Nat := closeQuote (text.drop (i + 1)) (i + 1)

def fractionEnd (i : Nat) : Option Nat :=
  if text[i]? = some (unit '.') then digits text (i + 1) else some i

def exponentEnd (i : Nat) : Option Nat :=
  if text[i]? = some (unit 'e') ∨ text[i]? = some (unit 'E') then
    digits text (if text[i + 1]? = some (unit '+') ∨ text[i + 1]? = some (unit '-') then i + 2 else i + 1)
  else some i

def parseNumber (start : Nat) : Option Nat := do
  let i ← digits text (if text[start]? = some (unit '-') then start + 1 else start)
  let i ← fractionEnd text i
  let i ← exponentEnd text i
  if start < i then some i else none

/-- `text.startsWith(word, i)`. -/
def startsWith (word : JsString) (i : Nat) : Bool := word.isPrefixOf (text.drop i)

/-- What a scan comes to: `false`, or `true` with the cursor behind the value. -/
inductive Scan
  | outOfFuel
  | failed
  | ended (i : Nat)
deriving DecidableEq, Repr

def Scan.ofOption : Option Nat → Scan
  | none => .failed
  | some i => .ended i

def elementEnd (value : Nat → Scan) (i : Nat) : Scan :=
  match value (skipWs text i) with
  | .ended j => .ended (skipWs text j)
  | scan => scan

def memberEnd (value : Nat → Scan) (i : Nat) : Scan :=
  let i := skipWs text i
  if text[i]? ≠ some (unit '"') then .failed
  else
    match parseString text i with
    | none => .failed
    | some i =>
      let i := skipWs text i
      if text[i]? ≠ some (unit ':') then .failed else elementEnd text value (i + 1)

/-- After a member or an element comes a comma and the next one, or the end. -/
def goOn (close : CodeUnit) (next : Nat → Scan) : Scan → Scan
  | .ended j =>
    if text[j]? = some (unit ',') then next (j + 1)
    else if text[j]? = some close then .ended (j + 1)
    else .failed
  | scan => scan

mutual

def parseValue : Nat → Nat → Scan
  | 0, _ => .outOfFuel
  | fuel + 1, i =>
    match text[i]? with
    | none => .failed
    | some c =>
      if c = unit '\x7b' then
        let j := skipWs text (i + 1)
        if text[j]? = some (unit '\x7d') then .ended (j + 1) else parseMembers fuel j
      else if c = unit '[' then
        let j := skipWs text (i + 1)
        if text[j]? = some (unit ']') then .ended (j + 1) else parseElements fuel j
      else if c = unit '"' then .ofOption (parseString text i)
      else if c = unit '-' ∨ isDigit c then .ofOption (parseNumber text i)
      else if startsWith text (js "true") i then .ended (i + 4)
      else if startsWith text (js "false") i then .ended (i + 5)
      else if startsWith text (js "null") i then .ended (i + 4)
      else .failed

/-- The loop of `parseObject`. -/
def parseMembers : Nat → Nat → Scan
  | 0, _ => .outOfFuel
  | fuel + 1, i => goOn text (unit '\x7d') (parseMembers fuel) (memberEnd text (parseValue fuel) i)

/-- The loop of `parseArray`. -/
def parseElements : Nat → Nat → Scan
  | 0, _ => .outOfFuel
  | fuel + 1, i => goOn text (unit ']') (parseElements fuel) (elementEnd text (parseValue fuel) i)

end

def enoughFuel : Nat := 2 * text.length + 1

def scanSingleJsonValueEnd : Int :=
  match parseValue text (enoughFuel text) 0 with
  | .ended i => i
  | _ => -1

end Scanner

/-- What `parseSingleJsonValueStrict` throws. -/
inductive Thrown
  | error (message : String)
  /-- The `SyntaxError` of `JSON.parse`. -/
  | syntaxError
deriving DecidableEq, Repr

def NOT_SINGLE : String :=
  "payload is not exactly one JSON value with nothing after it " ++
    "(trailing content, including whitespace, is rejected)"

/-- `parseSingleJsonValueStrict`; `parse` is `JSON.parse`. -/
def parseSingleJsonValueStrict {V : Type} (parse : JsString → Option V) (text : JsString) :
    Except Thrown V :=
  if scanSingleJsonValueEnd text ≠ text.length then .error (.error NOT_SINGLE)
  else
    match parse text with
    | some value => .ok value
    | none => .error .syntaxError

example : scanSingleJsonValueEnd (js "\x7b\"a\\\"\": [1, -2.5e+3]\x7d null") = 21 := by decide

/-! ## §2. The cursor. -/

section Cursor

variable {text s t w : JsString} {c : CodeUnit} {i j : Nat}

theorem getElem?_of_drop (h : text.drop i = c :: s) : text[i]? = some c := by
  have hfirst := congrArg (fun r : JsString => r[0]?) h
  rwa [List.getElem?_drop, Nat.add_zero] at hfirst

theorem getElem?_of_drop_nil (h : text.drop i = []) : text[i]? = none := by
  have hfirst := congrArg (fun r : JsString => r[0]?) h
  rwa [List.getElem?_drop, Nat.add_zero] at hfirst

theorem drop_behind (h : text.drop i = t ++ s) : text.drop (i + t.length) = s := by
  rw [← List.drop_drop, h, List.drop_left]

theorem drop_succ (h : text.drop i = c :: s) : text.drop (i + 1) = s :=
  drop_behind (t := [c]) h

/-- The text does not start with a code unit of the class. -/
def Stops (p : CodeUnit → Bool) (s : JsString) : Prop := ∀ c r, s = c :: r → p c = false

theorem takeWhile_of_stops {p : CodeUnit → Bool} (hw : ∀ c ∈ w, p c = true) (hs : Stops p s) :
    (w ++ s).takeWhile p = w := by
  rw [List.takeWhile_append_of_pos hw]
  cases s with
  | nil => rw [List.takeWhile_nil, List.append_nil]
  | cons c r => rw [List.takeWhile_cons_of_neg (by rw [hs c r rfl]; exact Bool.noConfusion), List.append_nil]

theorem skipWs_eq (h : text.drop i = w ++ s) (hw : IsWs w) (hs : Stops isWs s) :
    skipWs text i = i + w.length := by
  unfold skipWs
  rw [h, takeWhile_of_stops hw hs]

theorem digits_eq (h : text.drop i = t ++ s) (ht : IsDigits t) (hs : Stops isDigit s) :
    digits text i = some (i + t.length) := by
  obtain ⟨hne, hall⟩ := ht
  unfold digits
  rw [h, takeWhile_of_stops hall hs, if_pos]
  cases t with
  | nil => exact absurd rfl hne
  | cons c r =>
    rw [getElem?_of_drop h]
    exact hall c List.mem_cons_self

theorem takeWhile_length_le (text : JsString) (p : CodeUnit → Bool) (i : Nat) :
    ((text.drop i).takeWhile p).length ≤ text.length - i := by
  rw [← List.length_drop]
  exact (List.takeWhile_sublist _).length_le

theorem skipWs_le (text : JsString) (i : Nat) : i ≤ skipWs text i := Nat.le_add_right _ _

theorem skipWs_le_length (h : i ≤ text.length) : skipWs text i ≤ text.length := by
  have hle := takeWhile_length_le text isWs i
  unfold skipWs
  omega

theorem drop_skipWs (i : Nat) : Stops isWs (text.drop (skipWs text i)) := by
  intro c r h
  have hdrop : text.drop (skipWs text i) = (text.drop i).dropWhile isWs :=
    drop_behind List.takeWhile_append_dropWhile.symm
  have hhead := List.head?_dropWhile_not isWs (text.drop i)
  rw [← hdrop, h] at hhead
  simpa using hhead

theorem skipWs_idem (i : Nat) : skipWs text (skipWs text i) = skipWs text i :=
  skipWs_eq (w := []) rfl (fun _ h => absurd h List.not_mem_nil) (drop_skipWs i)

theorem getElem?_some_lt (h : text[i]? = some c) : i < text.length :=
  (List.getElem?_eq_some_iff.mp h).1

end Cursor

/-! ## §3. Tokens are scanned to their ends. -/

section Tokens

variable {text s t : JsString} {c : CodeUnit} {i j : Nat}

theorem closeQuote_quote : closeQuote (unit '"' :: s) i = some (i + 1) := by
  cases s with
  | nil | cons => rfl

theorem closeQuote_cons (hquote : c ≠ unit '"') (hbackslash : c ≠ unit '\\') :
    closeQuote (c :: s) i = closeQuote s (i + 1) := by
  cases s with
  | nil =>
    unfold closeQuote
    rw [if_neg hquote]
  | cons d r =>
    rw [closeQuote, if_neg hquote, if_neg hbackslash]

theorem closeQuote_escape : closeQuote (unit '\\' :: c :: s) i = closeQuote s (i + 2) := by
  rw [closeQuote, if_neg (by decide), if_pos rfl]

theorem isHexUnit_ne {h : CodeUnit} (hhex : isHexUnit h = true) : h ≠ unit '"' ∧ h ≠ unit '\\' := by
  constructor <;>
  · rintro rfl
    exact absurd hhex (by decide)

/-- The string ends at its closing quote. -/
theorem closeQuote_body (ht : IsStringBody t) (s : JsString) (i : Nat) :
    closeQuote (t ++ unit '"' :: s) i = some (i + t.length + 1) := by
  induction ht generalizing i with
  | nil => exact closeQuote_quote
  | @unescaped c t _ hquote hbackslash _ ih =>
    rw [List.cons_append, closeQuote_cons hquote hbackslash, ih, List.length_cons]
    congr 1
    omega
  | @escaped c t _ _ ih =>
    rw [List.cons_append, List.cons_append, closeQuote_escape, ih, List.length_cons, List.length_cons]
    congr 1
    omega
  | @hex h₁ h₂ h₃ h₄ t h₁hex h₂hex h₃hex h₄hex _ ih =>
    simp only [List.cons_append]
    rw [closeQuote_escape, closeQuote_cons (isHexUnit_ne h₁hex).1 (isHexUnit_ne h₁hex).2,
      closeQuote_cons (isHexUnit_ne h₂hex).1 (isHexUnit_ne h₂hex).2,
      closeQuote_cons (isHexUnit_ne h₃hex).1 (isHexUnit_ne h₃hex).2,
      closeQuote_cons (isHexUnit_ne h₄hex).1 (isHexUnit_ne h₄hex).2, ih]
    simp only [List.length_cons]
    congr 1
    omega

theorem parseString_quoted (h : text.drop i = quoted t ++ s) (ht : IsStringBody t) :
    parseString text i = some (i + (quoted t).length) := by
  have hbody : text.drop (i + 1) = t ++ unit '"' :: s := by
    rw [drop_succ (s := t ++ unit '"' :: s)]
    rw [h, quoted, List.cons_append, List.append_assoc]
    rfl
  unfold parseString
  rw [hbody, closeQuote_body ht]
  simp only [quoted, List.length_cons, List.length_append, List.length_nil]
  congr 1
  omega

/-- Nothing that could go on with a number. -/
def goesOn (c : CodeUnit) : Bool := isDigit c || c = unit '.' || c = unit 'e' || c = unit 'E'

variable {p : CodeUnit → Bool} {frac exp : JsString}

theorem Stops.mono {q : CodeUnit → Bool} (hs : Stops q s) (hpq : ∀ c, p c = true → q c = true) :
    Stops p s := by
  intro c r h
  cases hp : p c with
  | false => rfl
  | true => rw [← hs c r h, hpq c hp]

theorem Stops.getElem?_ne (hs : Stops p s) (h : text.drop i = s) (hc : p c = true) :
    text[i]? ≠ some c := by
  cases s with
  | nil =>
    rw [getElem?_of_drop_nil h]
    exact Option.some_ne_none c ∘ Eq.symm
  | cons d r =>
    rw [getElem?_of_drop h]
    intro heq
    rw [← Option.some.inj heq, hs d r rfl] at hc
    exact Bool.noConfusion hc

/-- A digit is none of the marks. -/
theorem isDigit_ne {d : CodeUnit} (hc : isDigit c = true) (hd : isDigit d = false) : c ≠ d := by
  rintro rfl
  rw [hc] at hd
  cases hd

theorem fractionEnd_eq (hfrac : IsFrac frac) (h : text.drop i = frac ++ s)
    (hs : Stops (fun c => isDigit c || c = unit '.') s) :
    fractionEnd text i = some (i + frac.length) := by
  unfold fractionEnd
  cases hfrac with
  | absent =>
    rw [if_neg (hs.getElem?_ne h (by simp))]
    rfl
  | @present t ht =>
    rw [if_pos (getElem?_of_drop h), digits_eq (drop_succ h) ht (hs.mono fun c hc => by rw [hc]; rfl),
      List.length_cons]
    congr 1
    omega

theorem exponentEnd_eq (hexp : IsExp exp) (h : text.drop i = exp ++ s) (hs : Stops goesOn s) :
    exponentEnd text i = some (i + exp.length) := by
  unfold exponentEnd
  cases hexp with
  | absent =>
    rw [if_neg]
    · rfl
    · rintro (heq | heq)
      · exact hs.getElem?_ne h (by decide) heq
      · exact hs.getElem?_ne h (by decide) heq
  | @present e sign t he hsign ht =>
    have hmark : text[i]? = some (unit 'e') ∨ text[i]? = some (unit 'E') := by
      rw [getElem?_of_drop h]
      exact he.imp (congrArg some) (congrArg some)
    have hdigit : Stops isDigit s := hs.mono fun c hc => by unfold goesOn; rw [hc]; rfl
    have hsigned : text.drop (i + 1) = sign ++ (t ++ s) := by
      rw [← List.append_assoc]
      exact drop_succ h
    rw [if_pos hmark]
    rcases hsign with rfl | rfl | rfl
    · obtain ⟨c, r, rfl, hc⟩ := ht.head
      have hnone : ¬(text[i + 1]? = some (unit '+') ∨ text[i + 1]? = some (unit '-')) := by
        rw [getElem?_of_drop hsigned]
        rintro (heq | heq)
        · exact isDigit_ne hc (by decide) (Option.some.inj heq)
        · exact isDigit_ne hc (by decide) (Option.some.inj heq)
      have hdrop : text.drop (i + 1) = (c :: r) ++ s := hsigned
      rw [if_neg hnone, digits_eq hdrop ht hdigit]
      simp only [List.nil_append, List.length_cons]
      congr 1
      omega
    · have hdrop : text.drop (i + 1 + 1) = t ++ s := drop_succ hsigned
      rw [if_pos (.inl (getElem?_of_drop hsigned)), digits_eq hdrop ht hdigit]
      simp only [List.cons_append, List.nil_append, List.length_cons]
      congr 1
      omega
    · have hdrop : text.drop (i + 1 + 1) = t ++ s := drop_succ hsigned
      rw [if_pos (.inr (getElem?_of_drop hsigned)), digits_eq hdrop ht hdigit]
      simp only [List.cons_append, List.nil_append, List.length_cons]
      congr 1
      omega

theorem IsExp.stops (hexp : IsExp exp) (hs : Stops goesOn s) :
    Stops (fun c => isDigit c || c = unit '.') (exp ++ s) := by
  cases hexp with
  | absent => exact hs.mono fun c hc => by unfold goesOn; rw [hc]; rfl
  | present he _ _ =>
    intro c r h
    rw [← (List.cons.inj h).1]
    rcases he with rfl | rfl <;> decide

theorem IsFrac.stops (hfrac : IsFrac frac) (hs : Stops isDigit s) :
    Stops isDigit (frac ++ s) := by
  cases hfrac with
  | absent => exact hs
  | present _ =>
    intro c r h
    rw [← (List.cons.inj h).1]
    decide

theorem parseNumber_eq (ht : IsNumber t) (h : text.drop i = t ++ s) (hs : Stops goesOn s) :
    parseNumber text i = some (i + t.length) := by
  obtain ⟨hminus, hint, hfrac, hexp⟩ := ht
  rename_i minus int frac exp
  simp only [List.append_assoc] at h
  have hexpStops := IsExp.stops hexp hs
  have hfracStops := IsFrac.stops hfrac (hexpStops.mono fun c hc => by rw [hc]; rfl)
  have hstart : (if text[i]? = some (unit '-') then i + 1 else i) = i + minus.length := by
    cases hminus with
    | inl hnone =>
      subst hnone
      obtain ⟨c, r, rfl, hc⟩ := hint.isDigits.head
      rw [if_neg]
      · rfl
      · rw [getElem?_of_drop h]
        exact fun heq => isDigit_ne hc (by decide) (Option.some.inj heq)
    | inr hminus =>
      subst hminus
      rw [if_pos (getElem?_of_drop h)]
      rfl
  have hintDrop := drop_behind h
  have hfracDrop := drop_behind hintDrop
  have hexpDrop := drop_behind hfracDrop
  unfold parseNumber
  rw [hstart, digits_eq hintDrop hint.isDigits hfracStops]
  simp only [Option.bind_eq_bind, Option.bind_some]
  rw [fractionEnd_eq hfrac hfracDrop hexpStops]
  simp only [Option.bind_some]
  rw [exponentEnd_eq hexp hexpDrop hs]
  simp only [Option.bind_some, List.length_append]
  obtain ⟨c, r, rfl, -⟩ := hint.isDigits.head
  rw [if_pos (by rw [List.length_cons]; omega)]
  congr 1
  omega

end Tokens

/-! ## §4. Values are scanned to their ends. -/

section Values

variable {text s t w : JsString} {i j fuel : Nat} {value : Nat → Scan}

/-- What stands behind a value: nothing, whitespace, a comma or a closing bracket. -/
def follows (c : CodeUnit) : Bool := isWs c || c = unit ',' || c = unit ']' || c = unit '\x7d'

/-- The text starts with nothing but what may stand behind a value. -/
def Follow (s : JsString) : Prop := ∀ c r, s = c :: r → follows c = true

theorem Follow.stops (hs : Follow s) : Stops goesOn s := by
  intro c r h
  have hc := hs c r h
  unfold follows isWs at hc
  simp only [Bool.or_eq_true, decide_eq_true_eq] at hc
  rcases hc with ((((((rfl | rfl) | rfl) | rfl) | rfl) | rfl) | rfl) <;> decide

theorem follow_ws (hw : IsWs w) (hs : Follow s) : Follow (w ++ s) := by
  intro c r h
  cases w with
  | nil => exact hs c r h
  | cons d w =>
    have hd : isWs d = true := hw d List.mem_cons_self
    rw [← (List.cons.inj h).1]
    unfold follows
    rw [hd]
    rfl

variable {c opening : CodeUnit} {name rest : JsString}

theorem follow_cons (hc : follows c = true) : Follow (c :: s) := by
  intro d r h
  rw [← (List.cons.inj h).1]
  exact hc

variable {close : CodeUnit} {w₁ w₂ : JsString} {sym : Nonterminal}

/-- An element ends with the whitespace behind its value. -/
theorem elementEnd_eq (hw₁ : IsWs w₁) (hw₂ : IsWs w₂) (ht : Derives .value t)
    (h : text.drop i = w₁ ++ t ++ w₂ ++ s) (hs : Stops isWs s)
    (hvalue : value (i + w₁.length) = .ended (i + w₁.length + t.length)) :
    elementEnd text value i = .ended (i + (w₁ ++ t ++ w₂).length) := by
  simp only [List.append_assoc] at h
  have hopen : Stops isWs (t ++ (w₂ ++ s)) := by
    obtain ⟨c, r, rfl, hc⟩ := ht.head
    intro d r' heq
    rw [← (List.cons.inj heq).1]
    unfold opensNoValue at hc
    simp only [Bool.or_eq_false_iff] at hc
    exact hc.1.1
  unfold elementEnd
  rw [skipWs_eq h hw₁ hopen, hvalue]
  dsimp only
  rw [skipWs_eq (drop_behind (drop_behind h)) hw₂ hs]
  simp only [List.length_append]
  congr 1
  omega

theorem memberEnd_eq (hw₁ : IsWs w₁) (hname : IsStringBody name) (hw₂ : IsWs w₂)
    (h : text.drop i = w₁ ++ (quoted name ++ (w₂ ++ unit ':' :: (t ++ s))))
    (helement : elementEnd text value (i + (w₁ ++ quoted name ++ w₂).length + 1) = .ended (i + (w₁ ++ quoted name ++ w₂).length + 1 + t.length)) :
    memberEnd text value i = .ended (i + (w₁ ++ quoted name ++ w₂ ++ unit ':' :: t).length) := by
  have hquote : Stops isWs (quoted name ++ (w₂ ++ unit ':' :: (t ++ s))) := by
    intro c r heq
    rw [← (List.cons.inj heq).1]
    decide
  have hcolon : Stops isWs (unit ':' :: (t ++ s)) := by
    intro c r heq
    rw [← (List.cons.inj heq).1]
    decide
  have hnameDrop := drop_behind h
  have hcolonDrop := drop_behind (drop_behind hnameDrop)
  have hfirst : text[i + w₁.length]? = some (unit '"') := getElem?_of_drop hnameDrop
  have hmark : text[i + w₁.length + (quoted name).length + w₂.length]? = some (unit ':') :=
    getElem?_of_drop hcolonDrop
  have hlength : i + w₁.length + (quoted name).length + w₂.length =
      i + (w₁ ++ quoted name ++ w₂).length := by
    simp only [List.length_append]
    omega
  unfold memberEnd
  rw [skipWs_eq h hw₁ hquote]
  dsimp only
  rw [if_neg (fun hne => hne hfirst), parseString_quoted hnameDrop hname]
  dsimp only
  rw [skipWs_eq (drop_behind hnameDrop) hw₂ hcolon, if_neg (fun hne => hne hmark), hlength, helement]
  simp only [List.length_append, List.length_cons]
  congr 1
  omega

theorem Derives.opens (h : Derives sym t) :
    ∃ w c r, IsWs w ∧ t = w ++ c :: r ∧ opensNoValue c = false := by
  have hvalue : ∀ {t : JsString}, Derives .value t →
      ∃ w c r, IsWs w ∧ t = w ++ c :: r ∧ opensNoValue c = false := by
    intro t ht
    obtain ⟨c, r, heq, hc⟩ := ht.head
    exact ⟨[], c, r, fun _ h => absurd h List.not_mem_nil, heq, hc⟩
  have hextend : ∀ {t : JsString} (s : JsString),
      (∃ w c r, IsWs w ∧ t = w ++ c :: r ∧ opensNoValue c = false) →
      ∃ w c r, IsWs w ∧ t ++ s = w ++ c :: r ∧ opensNoValue c = false := by
    rintro t s ⟨w, c, r, hw, rfl, hc⟩
    exact ⟨w, c, r ++ s, hw, by rw [List.append_assoc, List.cons_append], hc⟩
  induction h with
  | literal ht => exact hvalue (.literal ht)
  | number ht => exact hvalue (.number ht)
  | string ht => exact hvalue (.string ht)
  | emptyObject hw => exact hvalue (.emptyObject hw)
  | object ht _ => exact hvalue (.object ht)
  | emptyArray hw => exact hvalue (.emptyArray hw)
  | array ht _ => exact hvalue (.array ht)
  | @element w₁ t w₂ hw₁ ht _ _ =>
    obtain ⟨c, r, rfl, hc⟩ := ht.head
    exact ⟨w₁, c, r ++ w₂, hw₁, by rw [List.append_assoc, List.cons_append], hc⟩
  | lastElement _ ih | lastMember _ ih => exact ih
  | elements _ _ ih _ | members _ _ ih _ => exact hextend _ ih
  | @member w₁ name w₂ t hw₁ _ _ _ _ =>
    exact ⟨w₁, unit '"', _, hw₁, by rw [quoted, List.append_assoc, List.append_assoc, List.cons_append],
      by decide⟩

theorem not_closed (ht : Derives sym t) (h : text.drop i = t ++ s) (hclose : opensNoValue close = true) :
    text[skipWs text i]? ≠ some close := by
  obtain ⟨w, c, r, hw, rfl, hc⟩ := Derives.opens ht
  rw [List.append_assoc, List.cons_append] at h
  have hstop : Stops isWs (c :: (r ++ s)) := by
    intro d r' heq
    rw [← (List.cons.inj heq).1]
    unfold opensNoValue at hc
    simp only [Bool.or_eq_false_iff] at hc
    exact hc.1.1
  rw [skipWs_eq h hw hstop, getElem?_of_drop (drop_behind h)]
  intro heq
  rw [Option.some.inj heq, hclose] at hc
  cases hc

theorem elementEnd_skipWs : elementEnd text value (skipWs text i) = elementEnd text value i := by
  unfold elementEnd
  rw [skipWs_idem]

theorem memberEnd_skipWs : memberEnd text value (skipWs text i) = memberEnd text value i := by
  unfold memberEnd
  rw [skipWs_idem]

theorem parseElements_skipWs : parseElements text fuel (skipWs text i) = parseElements text fuel i := by
  cases fuel with
  | zero => rw [parseElements, parseElements]
  | succ fuel => rw [parseElements, parseElements, elementEnd_skipWs]

theorem parseMembers_skipWs : parseMembers text fuel (skipWs text i) = parseMembers text fuel i := by
  cases fuel with
  | zero => rw [parseMembers, parseMembers]
  | succ fuel => rw [parseMembers, parseMembers, memberEnd_skipWs]

/-- What stands behind an element or a member. -/
structure Delimiter (s : JsString) : Prop where
  follow : Follow s
  stops : Stops isWs s

theorem delimiter_cons (hc : follows c = true) (hws : isWs c = false) :
    Delimiter (c :: s) := by
  refine ⟨follow_cons hc, fun d r h => ?_⟩
  rw [← (List.cons.inj h).1]
  exact hws

/-- The scanner finds the end of what derives from the nonterminal, whatever text
    it stands in. -/
def Scanned : Nonterminal → JsString → Prop
  | .value, t => ∀ text s i fuel, text.drop i = t ++ s → Follow s → 2 * t.length ≤ fuel →
      parseValue text fuel i = .ended (i + t.length)
  | .element, t => ∀ text s i fuel, text.drop i = t ++ s → Delimiter s → 2 * t.length ≤ fuel →
      elementEnd text (parseValue text fuel) i = .ended (i + t.length)
  | .elements, t => ∀ text s i fuel, text.drop i = t ++ unit ']' :: s → 2 * t.length + 1 ≤ fuel →
      parseElements text fuel i = .ended (i + t.length + 1)
  | .member, t => ∀ text s i fuel, text.drop i = t ++ s → Delimiter s → 2 * t.length ≤ fuel →
      memberEnd text (parseValue text fuel) i = .ended (i + t.length)
  | .members, t => ∀ text s i fuel, text.drop i = t ++ unit '\x7d' :: s → 2 * t.length + 1 ≤ fuel →
      parseMembers text fuel i = .ended (i + t.length + 1)

theorem startsWith_eq (h : text.drop i = t ++ s) : startsWith text t i = true := by
  unfold startsWith
  rw [h, List.isPrefixOf_iff_prefix]
  exact List.prefix_append t s

theorem fuel_succ (ht : Derives .value t) (hfuel : 2 * t.length ≤ fuel) : ∃ n, fuel = n + 1 := by
  obtain ⟨c, r, rfl, -⟩ := ht.head
  rw [List.length_cons] at hfuel
  exact ⟨fuel - 1, by omega⟩

theorem scanned_literal (ht : t ∈ [js "true", js "false", js "null"]) : Scanned .value t := by
  intro text s i fuel h _ hfuel
  obtain ⟨fuel, rfl⟩ := fuel_succ (.literal ht) hfuel
  simp only [List.mem_cons, List.not_mem_nil, or_false] at ht
  have hword := startsWith_eq h
  unfold parseValue
  rcases ht with rfl | rfl | rfl
  · rw [getElem?_of_drop (c := unit 't') h]
    simp only [hword, if_true]
    rfl
  · have hother : startsWith text (js "true") i = false := by
      unfold startsWith
      rw [h]
      rfl
    rw [getElem?_of_drop (c := unit 'f') h]
    simp only [hword, hother, if_true]
    rfl
  · have hother : startsWith text (js "true") i = false ∧ startsWith text (js "false") i = false := by
      unfold startsWith
      rw [h]
      exact ⟨rfl, rfl⟩
    rw [getElem?_of_drop (c := unit 'n') h]
    simp only [hword, hother.1, hother.2, if_true]
    rfl

theorem scanned_number (ht : IsNumber t) : Scanned .value t := by
  intro text s i fuel h hs hfuel
  obtain ⟨fuel, rfl⟩ := fuel_succ (.number ht) hfuel
  obtain ⟨c, r, hcons, hc⟩ := ht.opens
  have hne : ∀ d, isDigit d = false → d ≠ unit '-' → c ≠ d := by
    rintro d hd hminus rfl
    rcases hc with hc | hc
    · exact hminus hc
    · rw [hc] at hd
      cases hd
  have hfirst : text[i]? = some c := by
    rw [hcons] at h
    exact getElem?_of_drop h
  unfold parseValue
  rw [hfirst]
  dsimp only
  rw [if_neg (hne _ (by decide) (by decide)), if_neg (hne _ (by decide) (by decide)),
    if_neg (hne _ (by decide) (by decide)), if_pos hc, parseNumber_eq ht h hs.stops]
  rfl

theorem scanned_string (ht : IsStringBody t) : Scanned .value (quoted t) := by
  intro text s i fuel h _ hfuel
  obtain ⟨fuel, rfl⟩ := fuel_succ (.string ht) hfuel
  unfold parseValue
  rw [getElem?_of_drop (c := unit '"') h]
  dsimp only
  rw [if_neg (by decide), if_neg (by decide), if_pos rfl, parseString_quoted h ht]
  rfl

/-- The opening bracket and what is behind it. -/
theorem drop_bracket (h : text.drop i = opening :: (t ++ [close]) ++ s) :
    text.drop (i + 1) = t ++ close :: s := by
  rw [List.cons_append, List.append_assoc] at h
  exact drop_succ h

theorem skipWs_empty (hw : IsWs w) (h : text.drop i = w ++ close :: s) (hclose : isWs close = false) :
    text[skipWs text i]? = some close ∧ skipWs text i = i + w.length := by
  have hstop : Stops isWs (close :: s) := by
    intro d r heq
    rw [← (List.cons.inj heq).1]
    exact hclose
  rw [skipWs_eq h hw hstop]
  exact ⟨getElem?_of_drop (drop_behind h), rfl⟩

theorem bracketed_length :
    (opening :: (t ++ [close])).length = t.length + 2 := by
  rw [List.length_cons, List.length_append, List.length_singleton]

theorem scanned_emptyObject (hw : IsWs w) : Scanned .value (unit '\x7b' :: (w ++ [unit '\x7d'])) := by
  intro text s i fuel h _ hfuel
  obtain ⟨fuel, rfl⟩ := fuel_succ (.emptyObject hw) hfuel
  obtain ⟨hclosed, hcursor⟩ := skipWs_empty hw (drop_bracket h) (by decide)
  unfold parseValue
  rw [getElem?_of_drop (c := unit '\x7b') h]
  dsimp only
  rw [if_pos rfl, if_pos hclosed, hcursor, bracketed_length]
  congr 1
  omega

theorem scanned_emptyArray (hw : IsWs w) : Scanned .value (unit '[' :: (w ++ [unit ']'])) := by
  intro text s i fuel h _ hfuel
  obtain ⟨fuel, rfl⟩ := fuel_succ (.emptyArray hw) hfuel
  obtain ⟨hclosed, hcursor⟩ := skipWs_empty hw (drop_bracket h) (by decide)
  unfold parseValue
  rw [getElem?_of_drop (c := unit '[') h]
  dsimp only
  rw [if_neg (by decide), if_pos rfl, if_pos hclosed, hcursor, bracketed_length]
  congr 1
  omega

theorem scanned_object (ht : Derives .members t) (ih : Scanned .members t) :
    Scanned .value (unit '\x7b' :: (t ++ [unit '\x7d'])) := by
  intro text s i fuel h _ hfuel
  obtain ⟨fuel, rfl⟩ := fuel_succ (.object ht) hfuel
  have hinside := drop_bracket h
  rw [bracketed_length] at hfuel ⊢
  unfold parseValue
  rw [getElem?_of_drop (c := unit '\x7b') h]
  dsimp only
  rw [if_pos rfl, if_neg (not_closed ht hinside (by decide)), parseMembers_skipWs,
    ih text s (i + 1) fuel hinside (by omega)]
  congr 1
  omega

theorem scanned_array (ht : Derives .elements t) (ih : Scanned .elements t) :
    Scanned .value (unit '[' :: (t ++ [unit ']'])) := by
  intro text s i fuel h _ hfuel
  obtain ⟨fuel, rfl⟩ := fuel_succ (.array ht) hfuel
  have hinside := drop_bracket h
  rw [bracketed_length] at hfuel ⊢
  unfold parseValue
  rw [getElem?_of_drop (c := unit '[') h]
  dsimp only
  rw [if_neg (by decide), if_pos rfl, if_neg (not_closed ht hinside (by decide)), parseElements_skipWs,
    ih text s (i + 1) fuel hinside (by omega)]
  congr 1
  omega

theorem scanned_element (hw₁ : IsWs w₁) (hw₂ : IsWs w₂) (ht : Derives .value t) (ih : Scanned .value t) :
    Scanned .element (w₁ ++ t ++ w₂) := by
  intro text s i fuel h hs hfuel
  have hdrop : text.drop (i + w₁.length) = t ++ (w₂ ++ s) := by
    simp only [List.append_assoc] at h
    exact drop_behind h
  simp only [List.length_append] at hfuel
  exact elementEnd_eq hw₁ hw₂ ht h hs.stops
    (ih text _ _ fuel hdrop (follow_ws hw₂ hs.follow) (by omega))

theorem scanned_member (hw₁ : IsWs w₁) (hname : IsStringBody name) (hw₂ : IsWs w₂)
    (ih : Scanned .element t) : Scanned .member (w₁ ++ quoted name ++ w₂ ++ unit ':' :: t) := by
  intro text s i fuel h hs hfuel
  have hdrop : text.drop (i + (w₁ ++ quoted name ++ w₂).length + 1) = t ++ s := by
    rw [List.append_assoc] at h
    exact drop_succ (drop_behind h)
  have hflat : text.drop i = w₁ ++ (quoted name ++ (w₂ ++ unit ':' :: (t ++ s))) := by
    simpa only [List.append_assoc, List.cons_append] using h
  rw [List.length_append, List.length_cons] at hfuel
  exact memberEnd_eq hw₁ hname hw₂ hflat (ih text s _ fuel hdrop hs (by omega))

theorem scanned_lastElement (ih : Scanned .element t) : Scanned .elements t := by
  intro text s i fuel h hfuel
  obtain ⟨fuel, rfl⟩ : ∃ n, fuel = n + 1 := ⟨fuel - 1, by omega⟩
  unfold parseElements
  rw [ih text _ i fuel h (delimiter_cons (by decide) (by decide)) (by omega), goOn,
    getElem?_of_drop (drop_behind h), if_neg (by decide), if_pos rfl]

theorem scanned_elements (ih : Scanned .element t) (ihrest : Scanned .elements rest) :
    Scanned .elements (t ++ unit ',' :: rest) := by
  intro text s i fuel h hfuel
  obtain ⟨fuel, rfl⟩ : ∃ n, fuel = n + 1 := ⟨fuel - 1, by omega⟩
  rw [List.append_assoc, List.cons_append] at h
  rw [List.length_append, List.length_cons] at hfuel
  unfold parseElements
  rw [ih text _ i fuel h (delimiter_cons (by decide) (by decide)) (by omega), goOn,
    getElem?_of_drop (drop_behind h), if_pos rfl,
    ihrest text s _ fuel (drop_succ (drop_behind h)) (by omega), List.length_append, List.length_cons]
  congr 1
  omega

theorem scanned_lastMember (ih : Scanned .member t) : Scanned .members t := by
  intro text s i fuel h hfuel
  obtain ⟨fuel, rfl⟩ : ∃ n, fuel = n + 1 := ⟨fuel - 1, by omega⟩
  unfold parseMembers
  rw [ih text _ i fuel h (delimiter_cons (by decide) (by decide)) (by omega), goOn,
    getElem?_of_drop (drop_behind h), if_neg (by decide), if_pos rfl]

theorem scanned_members (ih : Scanned .member t) (ihrest : Scanned .members rest) :
    Scanned .members (t ++ unit ',' :: rest) := by
  intro text s i fuel h hfuel
  obtain ⟨fuel, rfl⟩ : ∃ n, fuel = n + 1 := ⟨fuel - 1, by omega⟩
  rw [List.append_assoc, List.cons_append] at h
  rw [List.length_append, List.length_cons] at hfuel
  unfold parseMembers
  rw [ih text _ i fuel h (delimiter_cons (by decide) (by decide)) (by omega), goOn,
    getElem?_of_drop (drop_behind h), if_pos rfl,
    ihrest text s _ fuel (drop_succ (drop_behind h)) (by omega), List.length_append, List.length_cons]
  congr 1
  omega

/-- **THE SCANNER NEVER MISSES AN END**: what derives from a nonterminal is scanned
    to its end. -/
theorem Derives.scanned (h : Derives sym t) : Scanned sym t := by
  induction h with
  | literal ht => exact scanned_literal ht
  | number ht => exact scanned_number ht
  | string ht => exact scanned_string ht
  | emptyObject hw => exact scanned_emptyObject hw
  | object ht ih => exact scanned_object ht ih
  | emptyArray hw => exact scanned_emptyArray hw
  | array ht ih => exact scanned_array ht ih
  | element hw₁ ht hw₂ ih => exact scanned_element hw₁ hw₂ ht ih
  | lastElement _ ih => exact scanned_lastElement ih
  | elements _ _ ih ihrest => exact scanned_elements ih ihrest
  | member hw₁ hname hw₂ _ ih => exact scanned_member hw₁ hname hw₂ ih
  | lastMember _ ih => exact scanned_lastMember ih
  | members _ _ ih ihrest => exact scanned_members ih ihrest

end Values

/-! ## §5. The cursor stays inside the text. -/

section Bounds

variable {text s : JsString} {i j fuel : Nat} {value value' : Nat → Scan}

theorem closeQuote_bounds (h : closeQuote s i = some j) : i < j ∧ j ≤ i + s.length := by
  fun_induction closeQuote s i with
  | case1 => cases h
  | case2 i =>
    cases h
    exact ⟨Nat.lt_succ_self i, Nat.le_refl _⟩
  | case3 => cases h
  | case4 d rest i =>
    cases h
    simp only [List.length_cons]
    omega
  | case5 d rest i hquote ih =>
    obtain ⟨hlt, hle⟩ := ih h
    simp only [List.length_cons]
    omega
  | case6 c d rest i hquote hbackslash ih =>
    obtain ⟨hlt, hle⟩ := ih h
    simp only [List.length_cons] at hle ⊢
    omega

theorem parseString_bounds (hi : i < text.length) (h : parseString text i = some j) :
    i < j ∧ j ≤ text.length := by
  obtain ⟨hlt, hle⟩ := closeQuote_bounds h
  rw [List.length_drop] at hle
  omega

theorem digits_le (h : digits text i = some j) : j ≤ text.length := by
  unfold digits at h
  split at h
  · rename_i hdigit
    cases h
    have hle := takeWhile_length_le text isDigit i
    cases hfirst : text[i]? with
    | none =>
      rw [hfirst] at hdigit
      cases hdigit
    | some c =>
      have hlt := getElem?_some_lt hfirst
      omega
  · cases h

theorem fractionEnd_le (hi : i ≤ text.length) (h : fractionEnd text i = some j) : j ≤ text.length := by
  unfold fractionEnd at h
  split at h
  · exact digits_le h
  · cases h
    exact hi

theorem exponentEnd_le (hi : i ≤ text.length) (h : exponentEnd text i = some j) : j ≤ text.length := by
  unfold exponentEnd at h
  split at h
  · exact digits_le h
  · cases h
    exact hi

theorem parseNumber_bounds (h : parseNumber text i = some j) : i < j ∧ j ≤ text.length := by
  unfold parseNumber at h
  simp only [Option.bind_eq_bind, Option.bind_eq_some_iff] at h
  obtain ⟨i₁, hdigits, i₂, hfraction, i₃, hexponent, hlast⟩ := h
  split at hlast
  · rename_i hlt
    cases hlast
    exact ⟨hlt, exponentEnd_le (fractionEnd_le (digits_le hdigits) hfraction) hexponent⟩
  · cases hlast

theorem startsWith_le {word : JsString} (h : startsWith text word i = true) :
    word.length ≤ text.length - i := by
  unfold startsWith at h
  rw [List.isPrefixOf_iff_prefix] at h
  rw [← List.length_drop]
  exact h.length_le

/-- The cursor is behind `i` and inside the text. -/
def Within (text : JsString) (i : Nat) : Scan → Prop
  | .ended j => i < j ∧ j ≤ text.length
  | _ => True

theorem within_ofOption {o : Option Nat} (h : ∀ j, o = some j → i < j ∧ j ≤ text.length) :
    Within text i (.ofOption o) := by
  cases o with
  | none => trivial
  | some j => exact h j rfl

theorem elementEnd_within (hvalue : ∀ i, Within text i (value i)) (i : Nat) :
    Within text i (elementEnd text value i) := by
  have hthere := hvalue (skipWs text i)
  unfold elementEnd
  cases hscan : value (skipWs text i) with
  | outOfFuel | failed => trivial
  | ended j =>
    rw [hscan] at hthere
    exact ⟨(skipWs_le text i).trans_lt (hthere.1.trans_le (skipWs_le text j)), skipWs_le_length hthere.2⟩

theorem Within.before {scan : Scan} (h : Within text j scan) (hij : i ≤ j) : Within text i scan := by
  cases scan with
  | outOfFuel | failed => trivial
  | ended k => exact ⟨hij.trans_lt h.1, h.2⟩

theorem memberEnd_within (hvalue : ∀ i, Within text i (value i)) (i : Nat) :
    Within text i (memberEnd text value i) := by
  unfold memberEnd
  dsimp only
  split
  · trivial
  · rename_i hquote
    have hlt := getElem?_some_lt (not_not.mp hquote)
    split
    · trivial
    · rename_i j hstring
      obtain ⟨hij, -⟩ := parseString_bounds hlt hstring
      split
      · trivial
      · have hle := skipWs_le text i
        have hle' := skipWs_le text j
        exact (elementEnd_within hvalue _).before (by omega)

theorem goOn_within {next : Nat → Scan} {close : CodeUnit} {scan : Scan} (hscan : Within text i scan)
    (hnext : ∀ i, Within text i (next i)) : Within text i (goOn text close next scan) := by
  cases scan with
  | outOfFuel | failed => trivial
  | ended j =>
    unfold goOn
    dsimp only
    split_ifs with hcomma hclose
    · exact (hnext (j + 1)).before (hscan.1.trans (Nat.lt_succ_self j)).le
    · exact ⟨hscan.1.trans (Nat.lt_succ_self j), getElem?_some_lt hclose⟩
    · trivial

/-- **THE CURSOR STAYS INSIDE THE TEXT**. -/
theorem scans_within (text : JsString) (fuel : Nat) :
    (∀ i, Within text i (parseValue text fuel i)) ∧ (∀ i, Within text i (parseMembers text fuel i)) ∧
      ∀ i, Within text i (parseElements text fuel i) := by
  induction fuel with
  | zero =>
    refine ⟨fun i => ?_, fun i => ?_, fun i => ?_⟩
    · unfold parseValue
      trivial
    · unfold parseMembers
      trivial
    · unfold parseElements
      trivial
  | succ fuel ih =>
    obtain ⟨ihvalue, ihmembers, ihelements⟩ := ih
    refine ⟨fun i => ?_, fun i => ?_, fun i => ?_⟩
    · unfold parseValue
      cases hfirst : text[i]? with
      | none => trivial
      | some c =>
        have hlt := getElem?_some_lt hfirst
        have hle := skipWs_le text (i + 1)
        dsimp only
        split_ifs with hobject hclosed harray hclosed' hstring hnumber htrue hfalse hnull
        · exact ⟨by omega, getElem?_some_lt hclosed⟩
        · exact (ihmembers _).before (by omega)
        · exact ⟨by omega, getElem?_some_lt hclosed'⟩
        · exact (ihelements _).before (by omega)
        · exact within_ofOption fun j => parseString_bounds hlt
        · exact within_ofOption fun j => parseNumber_bounds
        · have hword : 4 ≤ text.length - i := startsWith_le htrue
          exact ⟨by omega, by omega⟩
        · have hword : 5 ≤ text.length - i := startsWith_le hfalse
          exact ⟨by omega, by omega⟩
        · have hword : 4 ≤ text.length - i := startsWith_le hnull
          exact ⟨by omega, by omega⟩
        · trivial
    · unfold parseMembers
      exact goOn_within (memberEnd_within ihvalue i) ihmembers
    · unfold parseElements
      exact goOn_within (elementEnd_within ihvalue i) ihelements

end Bounds

/-! ## §6. The scanner ends. -/

section Fuel

variable {text : JsString} {i j fuel : Nat} {value value' : Nat → Scan}

theorem elementEnd_outOfFuel (h : elementEnd text value i = .outOfFuel) :
    ∃ k, i ≤ k ∧ value k = .outOfFuel := by
  unfold elementEnd at h
  cases hscan : value (skipWs text i) with
  | outOfFuel => exact ⟨_, skipWs_le text i, hscan⟩
  | failed | ended =>
    rw [hscan] at h
    cases h

theorem memberEnd_outOfFuel (h : memberEnd text value i = .outOfFuel) :
    ∃ k, i ≤ k ∧ value k = .outOfFuel := by
  unfold memberEnd at h
  dsimp only at h
  split at h
  · cases h
  · rename_i hquote
    have hlt := getElem?_some_lt (not_not.mp hquote)
    split at h
    · cases h
    · rename_i j hstring
      obtain ⟨hij, -⟩ := parseString_bounds hlt hstring
      split at h
      · cases h
      · obtain ⟨k, hk, hscan⟩ := elementEnd_outOfFuel h
        have hle := skipWs_le text i
        have hle' := skipWs_le text j
        exact ⟨k, by omega, hscan⟩

variable {next : Nat → Scan} {close : CodeUnit} {scan : Scan}

/-- The loop has fuel enough if its item and the items after it have. -/
theorem goOn_fuelled (hscan : Within text i scan) (hitem : scan ≠ .outOfFuel)
    (hnext : ∀ j, i < j → j < text.length → next (j + 1) ≠ .outOfFuel) :
    goOn text close next scan ≠ .outOfFuel := by
  cases scan with
  | outOfFuel => exact absurd rfl hitem
  | failed => exact Scan.noConfusion
  | ended j =>
    unfold goOn
    dsimp only
    split_ifs with hcomma hclose
    · exact hnext j hscan.1 (getElem?_some_lt hcomma)
    · exact Scan.noConfusion
    · exact Scan.noConfusion

/-- The cursor moves on with every two units of fuel. -/
theorem scans_fuelled (text : JsString) (fuel : Nat) :
    (∀ i, 2 * (text.length - i) + 1 ≤ fuel → parseValue text fuel i ≠ .outOfFuel) ∧
      (∀ i, 2 * (text.length - i) + 2 ≤ fuel → parseMembers text fuel i ≠ .outOfFuel) ∧
        ∀ i, 2 * (text.length - i) + 2 ≤ fuel → parseElements text fuel i ≠ .outOfFuel := by
  induction fuel with
  | zero => exact ⟨fun i h => by omega, fun i h => by omega, fun i h => by omega⟩
  | succ fuel ih =>
    obtain ⟨ihvalue, ihmembers, ihelements⟩ := ih
    obtain ⟨hvalue, -, -⟩ := scans_within text fuel
    refine ⟨fun i hfuel => ?_, fun i hfuel => ?_, fun i hfuel => ?_⟩
    · unfold parseValue
      cases hfirst : text[i]? with
      | none => exact Scan.noConfusion
      | some c =>
        have hlt := getElem?_some_lt hfirst
        have hle := skipWs_le text (i + 1)
        dsimp only
        split_ifs with hobject hclosed harray hclosed' hstring hnumber htrue hfalse hnull
        · exact Scan.noConfusion
        · exact ihmembers _ (by omega)
        · exact Scan.noConfusion
        · exact ihelements _ (by omega)
        · cases parseString text i <;> exact Scan.noConfusion
        · cases parseNumber text i <;> exact Scan.noConfusion
        · exact Scan.noConfusion
        · exact Scan.noConfusion
        · exact Scan.noConfusion
        · exact Scan.noConfusion
    · unfold parseMembers
      refine goOn_fuelled (memberEnd_within hvalue i) (fun hout => ?_)
        fun j hij hj => ihmembers _ (by omega)
      obtain ⟨k, hk, hscan⟩ := memberEnd_outOfFuel hout
      exact ihvalue k (by omega) hscan
    · unfold parseElements
      refine goOn_fuelled (elementEnd_within hvalue i) (fun hout => ?_)
        fun j hij hj => ihelements _ (by omega)
      obtain ⟨k, hk, hscan⟩ := elementEnd_outOfFuel hout
      exact ihvalue k (by omega) hscan

/-- `value'` does what `value` does where that has fuel enough. -/
def Extends (value value' : Nat → Scan) : Prop :=
  ∀ i, value i ≠ .outOfFuel → value' i = value i

theorem elementEnd_extends (h : Extends value value') :
    Extends (elementEnd text value) (elementEnd text value') := by
  intro i hout
  unfold elementEnd at hout ⊢
  rw [h (skipWs text i)]
  intro hscan
  rw [hscan] at hout
  exact hout rfl

theorem memberEnd_extends (h : Extends value value') :
    Extends (memberEnd text value) (memberEnd text value') := by
  intro i hout
  unfold memberEnd at hout ⊢
  dsimp only at hout ⊢
  split
  · rfl
  · rename_i hquote
    rw [if_neg hquote] at hout
    cases hstring : parseString text (skipWs text i) with
    | none => rfl
    | some j =>
      rw [hstring] at hout
      dsimp only at hout ⊢
      split
      · rfl
      · rename_i hcolon
        rw [if_neg hcolon] at hout
        exact elementEnd_extends h _ hout

theorem goOn_extends {next' : Nat → Scan} {scan' : Scan} (hscan : scan ≠ .outOfFuel → scan' = scan)
    (hnext : Extends next next') (hout : goOn text close next scan ≠ .outOfFuel) :
    goOn text close next' scan' = goOn text close next scan := by
  have hitem : scan ≠ .outOfFuel := by
    rintro rfl
    exact hout rfl
  rw [hscan hitem]
  cases scan with
  | outOfFuel | failed => rfl
  | ended j =>
    unfold goOn at hout ⊢
    dsimp only at hout ⊢
    split
    · rename_i hcomma
      rw [if_pos hcomma] at hout
      exact hnext _ hout
    · rfl

/-- More fuel changes no result. -/
theorem scans_extend (text : JsString) (fuel : Nat) :
    Extends (parseValue text fuel) (parseValue text (fuel + 1)) ∧
      Extends (parseMembers text fuel) (parseMembers text (fuel + 1)) ∧
        Extends (parseElements text fuel) (parseElements text (fuel + 1)) := by
  induction fuel with
  | zero =>
    refine ⟨fun i hout => absurd ?_ hout, fun i hout => absurd ?_ hout, fun i hout => absurd ?_ hout⟩
    · rw [parseValue]
    · rw [parseMembers]
    · rw [parseElements]
  | succ fuel ih =>
    obtain ⟨ihvalue, ihmembers, ihelements⟩ := ih
    refine ⟨fun i hout => ?_, fun i hout => ?_, fun i hout => ?_⟩
    · rw [parseValue] at hout ⊢
      rw [parseValue]
      cases hfirst : text[i]? with
      | none => rfl
      | some c =>
        rw [hfirst] at hout
        dsimp only at hout ⊢
        split_ifs at hout ⊢ with hobject hclosed harray hclosed'
        · rfl
        · exact ihmembers _ hout
        · rfl
        · exact ihelements _ hout
        all_goals rfl
    · rw [parseMembers] at hout ⊢
      rw [parseMembers]
      exact goOn_extends (fun hitem => memberEnd_extends ihvalue i hitem) ihmembers hout
    · rw [parseElements] at hout ⊢
      rw [parseElements]
      exact goOn_extends (fun hitem => elementEnd_extends ihvalue i hitem) ihelements hout

theorem parseValue_enough (text : JsString) (more : Nat) :
    parseValue text (enoughFuel text + more) 0 = parseValue text (enoughFuel text) 0 ∧
      parseValue text (enoughFuel text) 0 ≠ .outOfFuel := by
  have hfuelled : ∀ more, parseValue text (enoughFuel text + more) 0 ≠ .outOfFuel := fun more =>
    (scans_fuelled text (enoughFuel text + more)).1 0 (by unfold enoughFuel; omega)
  refine ⟨?_, hfuelled 0⟩
  induction more with
  | zero => rfl
  | succ more ih => rw [← ih, Nat.add_succ, (scans_extend text _).1 0 (hfuelled more)]

/-- **THE SCANNER ENDS**, on every text and inside it. -/
theorem scan_settled (text : JsString) :
    (∀ fuel, enoughFuel text ≤ fuel → parseValue text fuel 0 = parseValue text (enoughFuel text) 0 ∧
        parseValue text fuel 0 ≠ .outOfFuel) ∧
      -1 ≤ scanSingleJsonValueEnd text ∧ scanSingleJsonValueEnd text ≤ text.length := by
  refine ⟨fun fuel hfuel => ?_, ?_⟩
  · obtain ⟨more, rfl⟩ := Nat.exists_eq_add_of_le hfuel
    obtain ⟨heq, hout⟩ := parseValue_enough text more
    exact ⟨heq, by rw [heq]; exact hout⟩
  · have hwithin := (scans_within text (enoughFuel text)).1 0
    unfold scanSingleJsonValueEnd
    cases hscan : parseValue text (enoughFuel text) 0 with
    | outOfFuel | failed => exact ⟨Int.le_refl _, by dsimp only; omega⟩
    | ended i =>
      rw [hscan] at hwithin
      have hle : i ≤ text.length := hwithin.2
      exact ⟨by dsimp only; omega, by dsimp only; omega⟩

end Fuel

/-! ## §7. The gate. -/

section Gate

variable {text t w : JsString}

theorem scan_value (ht : Derives .value t) (hw : IsWs w) :
    scanSingleJsonValueEnd (t ++ w) = t.length := by
  have hscanned := Derives.scanned ht (t ++ w) w 0 (enoughFuel (t ++ w)) rfl
    (by simpa using follow_ws (s := []) hw fun c r h => by cases h)
    (by unfold enoughFuel; rw [List.length_append]; omega)
  unfold scanSingleJsonValueEnd
  rw [hscanned, Nat.zero_add]

/-- Nothing is scanned that starts with whitespace. -/
theorem scan_ws {c : CodeUnit} (hc : isWs c = true) : scanSingleJsonValueEnd (c :: t) = -1 := by
  unfold isWs at hc
  simp only [Bool.or_eq_true, decide_eq_true_eq] at hc
  unfold scanSingleJsonValueEnd enoughFuel
  rcases hc with ((rfl | rfl) | rfl) | rfl <;> rfl

theorem scan_whole_iff (htext : Derives .element text) :
    scanSingleJsonValueEnd text = text.length ↔ Derives .value text := by
  constructor
  · intro hend
    cases htext with
    | @element w₁ t w₂ hw₁ ht hw₂ =>
      cases w₁ with
      | cons c w₁ =>
        rw [List.cons_append, List.cons_append, scan_ws (hw₁ c List.mem_cons_self)] at hend
        omega
      | nil =>
        rw [List.nil_append, scan_value ht hw₂, List.length_append] at hend
        cases w₂ with
        | nil => simpa using ht
        | cons c w₂ =>
          rw [List.length_cons] at hend
          omega
  · intro ht
    have hend := scan_value ht (w := []) fun c h => absurd h List.not_mem_nil
    rwa [List.append_nil] at hend

/-- **THE STRICT SINGLE-VALUE GATE**: where `JSON.parse` accepts the values with
    whitespace around them, the gate lets exactly the values pass, as `JSON.parse`
    reads them; and its scanner ends on every text, inside it. -/
theorem parseSingleJsonValueStrict_gate {V : Type} (parse : JsString → Option V)
    (hparse : ∀ text, (parse text).isSome = true ↔ Derives .element text) (text : JsString) :
    ((∃ value, parseSingleJsonValueStrict parse text = .ok value) ↔ Derives .value text) ∧
      (∀ value, parseSingleJsonValueStrict parse text = .ok value → parse text = some value) ∧
      (∀ fuel, enoughFuel text ≤ fuel → parseValue text fuel 0 = parseValue text (enoughFuel text) 0 ∧
        parseValue text fuel 0 ≠ .outOfFuel) ∧
      -1 ≤ scanSingleJsonValueEnd text ∧ scanSingleJsonValueEnd text ≤ text.length := by
  have hvalue : ∀ value, parseSingleJsonValueStrict parse text = .ok value ↔
      scanSingleJsonValueEnd text = text.length ∧ parse text = some value := by
    intro value
    unfold parseSingleJsonValueStrict
    by_cases hend : scanSingleJsonValueEnd text = text.length
    · rw [if_neg (not_not.mpr hend)]
      cases parse text with
      | none => exact iff_of_false (fun h => by cases h) fun h => by cases h.2
      | some x =>
        constructor
        · intro h
          rw [Except.ok.inj h]
          exact ⟨hend, rfl⟩
        · intro h
          rw [Option.some.inj h.2]
    · rw [if_pos hend]
      exact iff_of_false (fun h => by cases h) fun h => hend h.1
  refine ⟨⟨?_, ?_⟩, fun value h => ((hvalue value).mp h).2, scan_settled text⟩
  · rintro ⟨value, h⟩
    obtain ⟨hend, hsome⟩ := (hvalue value).mp h
    exact (scan_whole_iff ((hparse text).mp (by rw [hsome]; rfl))).mp hend
  · intro ht
    have htext : Derives .element text := by
      have hnone : IsWs [] := fun _ h => absurd h List.not_mem_nil
      simpa using Derives.element hnone ht hnone
    obtain ⟨value, hsome⟩ := Option.isSome_iff_exists.mp ((hparse text).mpr htext)
    exact ⟨value, (hvalue value).mpr ⟨(scan_whole_iff htext).mpr ht, hsome⟩⟩

open Classical in
noncomputable def readNull (text : JsString) : Option Unit :=
  if Derives .element text then some () else none

/-- The gate lets `null` pass, and not with a line feed behind it. -/
theorem parseSingleJsonValueStrict_null :
    (∃ value, parseSingleJsonValueStrict readNull (js "null") = .ok value) ∧
      ¬ ∃ value, parseSingleJsonValueStrict readNull (js "null\n") = .ok value := by
  have hread : ∀ text, (readNull text).isSome = true ↔ Derives .element text := by
    intro text
    unfold readNull
    split <;> simpa
  constructor
  · exact (parseSingleJsonValueStrict_gate readNull hread (js "null")).1.mpr (.literal (by decide))
  · rw [(parseSingleJsonValueStrict_gate readNull hread (js "null\n")).1]
    intro ht
    have hend : scanSingleJsonValueEnd (js "null\n" ++ []) = 5 :=
      scan_value ht fun _ h => absurd h List.not_mem_nil
    have hscan : scanSingleJsonValueEnd (js "null\n" ++ []) = 4 := by decide
    rw [hscan] at hend
    cases hend

end Gate

end TokenTimer.Signing.StrictJson
