/-
  TokenTimer.Agent.JobLog — the lines of a claim's execution console
  (`packages/log-scrub/agent-log-text.js`, and what
  `packages/agent/src/job-log-stream/index.js` makes of them).

  A line is a JSON object whose message and fields went through the scrubber.  The
  detectors of key material and of secrets, which are long lists of patterns, are
  parameters; the rest of the scrubber is here, since it decides how long a line is.

  Main results:
    * `utf8Length_linesText` — a list of lines is no longer than its lines with a
        comma each, and two brackets.
-/

import TokenTimer.Basic
import TokenTimer.Json.Canonical

namespace TokenTimer.Agent.JobLog

open TokenTimer.Json Lib.Delimited

/-! ## §1. Bytes. -/

/-- The UTF-8 bytes of a code unit that is not half of a pair. -/
def unitBytes (c : CodeUnit) : Nat := if c.val < 0x80 then 1 else if c.val < 0x800 then 2 else 3

/-- `Buffer.byteLength(text, "utf8")`; a lone surrogate is written as U+FFFD. -/
def utf8Length : JsString → Nat
  | [] => 0
  | [c] => unitBytes c
  | c :: d :: rest =>
    if isLeadSurrogate c && isTrailSurrogate d then 4 + utf8Length rest
    else unitBytes c + utf8Length (d :: rest)

def replacement : CodeUnit := 0xFFFD

/-- `Buffer.from(text, "utf8").subarray(0, n).toString("utf8")` without the U+FFFD a cut
    character leaves at the end. -/
def truncateUtf8 : JsString → Nat → JsString
  | [], _ => []
  | [c], n =>
    if unitBytes c ≤ n then
      if isLeadSurrogate c || isTrailSurrogate c || c = replacement then [] else [c]
    else []
  | c :: d :: rest, n =>
    if isLeadSurrogate c && isTrailSurrogate d then
      if 4 ≤ n then c :: d :: truncateUtf8 rest (n - 4) else []
    else if unitBytes c ≤ n then
      let kept := if isLeadSurrogate c || isTrailSurrogate c then replacement else c
      if n = unitBytes c ∧ kept = replacement then [] else kept :: truncateUtf8 (d :: rest) (n - unitBytes c)
    else []

/-! ## §2. The scrubber. -/

def MAX_MESSAGE_BYTES : Nat := 1024
def MAX_FIELD_VALUE_BYTES : Nat := 256
def MAX_FIELDS : Nat := 8
def MAX_FIELDS_BYTES : Nat := 1024

/-- The patterns of `secret-material.js` and of the scrubber itself. -/
structure Detectors where
  containsPrivateKeyMaterial : JsString → Bool
  redactGenericSecrets : JsString → JsString
  /-- `QUERY_SECRET`, `AUTH_HEADER`, `CONN` and `ASSIGNED_SECRET`. -/
  redactConsoleSecrets : JsString → JsString
  /-- `HINT`. -/
  hintsAtSecret : JsString → Bool
  /-- `HIGH_ENTROPY`. -/
  redactHighEntropy : JsString → JsString
  fieldNameLooksGenericSecret : JsString → Bool
  fieldNameLooksPrivateKeyMaterial : JsString → Bool

/-- `BIDI_AND_SEPARATORS` and `CONTROLS`. -/
def isHidden (c : CodeUnit) : Bool :=
  (0x202A ≤ c.val && c.val ≤ 0x202E) || (0x2066 ≤ c.val && c.val ≤ 0x2069) || c.val = 0x2028 ||
    c.val = 0x2029 || c.val ≤ 0x08 || c.val = 0x0B || c.val = 0x0C ||
    (0x0E ≤ c.val && c.val ≤ 0x1F) || (0x7F ≤ c.val && c.val ≤ 0x9F)

/-- `.replace(/\r\n/g, "\n")`. -/
def joinLineEnds : JsString → JsString
  | [] => []
  | [c] => [c]
  | c :: d :: rest =>
    if c = unit '\r' ∧ d = unit '\n' then d :: joinLineEnds rest else c :: joinLineEnds (d :: rest)

/-- `normalizeAgentLogText` of a text. -/
def normalizeAgentLogText (value : JsString) : JsString := (joinLineEnds value).filter fun c => !isHidden c

section Scrubber

variable (detectors : Detectors)

/-- `scrubAgentLogText`; `none` is a rejected text. -/
def scrubAgentLogText (value : JsString) : Option JsString :=
  let original := normalizeAgentLogText value
  if detectors.containsPrivateKeyMaterial original then none
  else
    let next := detectors.redactConsoleSecrets (detectors.redactGenericSecrets original)
    let text := if detectors.hintsAtSecret next then detectors.redactHighEntropy next else next
    if detectors.containsPrivateKeyMaterial text then none
    else some (if utf8Length text > MAX_MESSAGE_BYTES then truncateUtf8 text MAX_MESSAGE_BYTES else text)

/-- The value of a field; `other` is of another `typeof`. -/
inductive FieldValue
  | null
  | bool (b : Bool)
  | number (x : JsNumber)
  | string (s : JsString)
  | other
deriving DecidableEq

/-- `JSON.stringify` of a value. -/
def FieldValue.text : FieldValue → JsString
  | .bool true => js "true"
  | .bool false => js "false"
  | .number (.finite x) => numberUnits x
  | .string s => quoteJSONString s
  | _ => js "null"

/-- `JSON.stringify` of a record. -/
def fieldsText (fields : List (JsString × FieldValue)) : JsString :=
  objectText (fields.map fun field => memberText field.1 field.2.text)

/-- `FIELD_KEY`. -/
def isFieldKey (key : JsString) : Bool :=
  let isLetter (c : CodeUnit) := (unit 'A' ≤ c && c ≤ unit 'Z') || (unit 'a' ≤ c && c ≤ unit 'z')
  key.head?.any isLetter && key.length ≤ 32 &&
    key.all fun c => isLetter c || (unit '0' ≤ c && c ≤ unit '9') || c = unit '_'

/-- The loop of `scrubAgentLogFields`; `none` is a rejected record. -/
def scrubFields (out : List (JsString × FieldValue)) :
    List (JsString × FieldValue) → Option (List (JsString × FieldValue))
  | [] => some out
  | (key, value) :: rest =>
    if MAX_FIELDS ≤ out.length then some out
    else if !isFieldKey key || detectors.fieldNameLooksGenericSecret key ||
        detectors.fieldNameLooksPrivateKeyMaterial key then scrubFields out rest
    else
      match value with
      | .other => scrubFields out rest
      | .string s =>
        match scrubAgentLogText detectors s with
        | none => none
        | some text =>
          scrubFields (out ++ [(key, .string
            (if utf8Length text > MAX_FIELD_VALUE_BYTES then truncateUtf8 text MAX_FIELD_VALUE_BYTES
              else text))]) rest
      | value => scrubFields (out ++ [(key, value)]) rest

/-- `scrubAgentLogFields`.  `fields` is `none` where it is no record; the outer `none`
    is a rejected record. -/
def scrubAgentLogFields :
    Option (List (JsString × FieldValue)) → Option (Option (List (JsString × FieldValue)))
  | none => some none
  | some fields =>
    (scrubFields detectors [] fields).map fun out =>
      if utf8Length (fieldsText out) > MAX_FIELDS_BYTES then none
      else if out.isEmpty then none else some out

end Scrubber

/-! ## §3. Lines. -/

def LEVELS : List JsString := [js "info", js "warn", js "error"]

def STEPS : List JsString :=
  [js "claim", js "acme", js "dns", js "deploy", js "reload", js "verify", js "discovery", js "trust",
    js "other"]

def integerText (n : Nat) : JsString := (Nat.toDigits 10 n).map unit

/-- A line as it is sent. -/
structure Payload where
  seq : Nat
  ts : JsString
  level : JsString
  step : JsString
  message : JsString
  fields : Option (List (JsString × FieldValue))
deriving DecidableEq

/-- `JSON.stringify(payload)`. -/
def Payload.text (payload : Payload) : JsString :=
  objectText <|
    [memberText (js "seq") (integerText payload.seq), memberText (js "ts") (quoteJSONString payload.ts),
      memberText (js "level") (quoteJSONString payload.level),
      memberText (js "step") (quoteJSONString payload.step),
      memberText (js "message") (quoteJSONString payload.message)] ++
    (payload.fields.map fun fields => memberText (js "fields") (fieldsText fields)).toList

/-- The bytes a line takes in the buffer: its own and a comma. -/
def Payload.bytes (payload : Payload) : Nat := utf8Length payload.text + 1

/-- `JSON.stringify(lines)`. -/
def linesText (lines : List Payload) : JsString := arrayText (lines.map Payload.text)

/-! ## §4. How long a list of lines is. -/

theorem surrogate_bytes {c : CodeUnit} (h : isLeadSurrogate c = true ∨ isTrailSurrogate c = true) :
    unitBytes c = 3 := by
  unfold isLeadSurrogate isTrailSurrogate at h
  simp only [Bool.and_eq_true, decide_eq_true_eq] at h
  unfold unitBytes
  rw [if_neg (by omega), if_neg (by omega)]

/-- What starts with no leading surrogate starts with a character of its own. -/
theorem utf8Length_cons {c : CodeUnit} (hc : isLeadSurrogate c = false) (s : JsString) :
    utf8Length (c :: s) = unitBytes c + utf8Length s := by
  cases s with
  | nil => rfl
  | cons d rest =>
    rw [utf8Length, hc, Bool.false_and, if_neg Bool.noConfusion]

theorem trail_not_lead {c : CodeUnit} (h : isTrailSurrogate c = true) : isLeadSurrogate c = false := by
  unfold isTrailSurrogate at h
  unfold isLeadSurrogate
  simp only [Bool.and_eq_true, decide_eq_true_eq] at h
  simp only [Bool.and_eq_false_iff, decide_eq_false_iff_not]
  omega

/-- Two texts put together are no longer than they are apart: a pair takes fewer bytes
    than its halves. -/
theorem utf8Length_append_le (s t : JsString) : utf8Length (s ++ t) ≤ utf8Length s + utf8Length t := by
  induction s using utf8Length.induct with
  | case1 =>
    rw [List.nil_append]
    exact Nat.le_add_left _ _
  | case2 c =>
    cases t with
    | nil => exact Nat.le_refl _
    | cons d rest =>
      show utf8Length (c :: d :: rest) ≤ unitBytes c + utf8Length (d :: rest)
      rw [utf8Length]
      split
      · rename_i hpair
        rw [Bool.and_eq_true] at hpair
        rw [utf8Length_cons (trail_not_lead hpair.2), surrogate_bytes (.inl hpair.1),
          surrogate_bytes (.inr hpair.2)]
        omega
      · exact Nat.le_refl _
  | case3 c d rest hpair ih =>
    rw [List.cons_append, List.cons_append, utf8Length, if_pos hpair, utf8Length, if_pos hpair]
    omega
  | case4 c d rest hpair ih =>
    rw [List.cons_append] at ih
    rw [List.cons_append, List.cons_append, utf8Length, if_neg hpair, utf8Length, if_neg hpair]
    omega

theorem utf8Length_flatMap_le (lines : List Payload) :
    utf8Length ((lines.map Payload.text).flatMap fun text => unit ',' :: text) ≤
      (lines.map Payload.bytes).sum := by
  induction lines with
  | nil => exact Nat.le_refl _
  | cons line rest ih =>
    rw [List.map_cons, List.flatMap_cons, List.map_cons, List.sum_cons]
    have happend := utf8Length_append_le (unit ',' :: line.text)
      ((rest.map Payload.text).flatMap fun text => unit ',' :: text)
    have hcomma : utf8Length (unit ',' :: line.text) = 1 + utf8Length line.text :=
      utf8Length_cons (by decide) line.text
    unfold Payload.bytes at ih ⊢
    omega

/-- **THE LENGTH OF A BATCH**: a list of lines takes no more than its lines with a comma
    each, and two brackets. -/
theorem utf8Length_linesText (lines : List Payload) :
    utf8Length (linesText lines) ≤ 2 + (lines.map Payload.bytes).sum := by
  unfold linesText arrayText
  cases lines with
  | nil => decide
  | cons line rest =>
    rw [List.map_cons, joinWith, List.map_cons, List.sum_cons]
    have hopen : utf8Length (unit '[' :: ((line.text ++
        (rest.map Payload.text).flatMap fun text => unit ',' :: text) ++ [unit ']'])) =
        1 + utf8Length ((line.text ++
          (rest.map Payload.text).flatMap fun text => unit ',' :: text) ++ [unit ']']) :=
      utf8Length_cons (by decide) _
    have hclose := utf8Length_append_le (line.text ++
      (rest.map Payload.text).flatMap fun text => unit ',' :: text) [unit ']']
    have hfirst := utf8Length_append_le line.text
      ((rest.map Payload.text).flatMap fun text => unit ',' :: text)
    have hrest := utf8Length_flatMap_le rest
    have hbracket : utf8Length [unit ']'] = 1 := by decide
    have hline : line.bytes = utf8Length line.text + 1 := rfl
    rw [List.cons_append, hopen]
    omega

end TokenTimer.Agent.JobLog
