/-
  TokenTimer.Signing.CanonicalGate — what the control plane signs is one JSON value.

  `canonicalizeJobPayload` writes the text that is signed, and the agent hands the text
  it has verified to `parseSingleJsonValueStrict`.  Whatever the payload is, with values
  that `JSON.stringify` would drop or with keys and strings of any code units, a text
  that is written derives from the grammar as one value, and the gate lets it pass.

  Main results:
    * `numberUnits_isNumber`, `isStringBody_quoteBody` — the tokens the serializer writes.
    * `canonical_payload_passes_gate` — every text that is signed passes the gate.
-/

import TokenTimer.Basic
import TokenTimer.Json.CanonicalInjective
import TokenTimer.Signing.StrictJson

namespace TokenTimer.Signing.StrictJson

open TokenTimer.Json Lib.Numeric Lib.Delimited

/-! ## §1. Numbers. -/

theorem isDigit_symUnit (d : Fin 10) : isDigit (symUnit (.digit d)) = true := by
  revert d
  decide

theorem isDigit_of_allDigits {t : List NumSym} (h : AllDigits t) :
    ∀ c ∈ t.map symUnit, isDigit c = true := by
  intro c hc
  obtain ⟨s, hs, rfl⟩ := List.mem_map.mp hc
  obtain ⟨d, rfl⟩ := h s hs
  exact isDigit_symUnit d

theorem isDigits_map {t : List NumSym} (h : AllDigits t) (hne : t ≠ []) : IsDigits (t.map symUnit) :=
  ⟨by simpa using hne, isDigit_of_allDigits h⟩

/-- The first digit of a number is not zero. -/
theorem decimalDigits_head {n : Nat} (hn : n ≠ 0) :
    ∃ d t, decimalDigits n = .digit d :: t ∧ d ≠ 0 ∧ AllDigits t := by
  have hne : (Nat.digits 10 n).reverse ≠ [] := by
    rw [Ne, List.reverse_eq_nil_iff]
    exact Nat.digits_ne_nil_iff_ne_zero.mpr hn
  obtain ⟨d, t, ht⟩ := List.exists_cons_of_ne_nil hne
  have heq : decimalDigits n = .digit (Fin.ofNat 10 d) :: t.map fun d => .digit (Fin.ofNat 10 d) := by
    rw [decimalDigits, ht, List.map_cons]
  refine ⟨_, _, heq, fun hzero => ?_, fun c hc => ?_⟩
  · have hdigits : Nat.digits 10 n = t.reverse ++ [d] := by
      rw [← List.reverse_reverse (Nat.digits 10 n), ht, List.reverse_cons]
    have hlast := Nat.getLast_digit_ne_zero 10 hn
    have hlt := Nat.digits_lt_base (b := 10) (by norm_num) (m := n) (d := d) (by simp [hdigits])
    have hval : d % 10 = 0 := congrArg Fin.val hzero
    rw [Nat.mod_eq_of_lt hlt] at hval
    simp [hdigits, hval] at hlast
  · exact allDigits_decimalDigits n c (heq ▸ List.mem_cons_of_mem _ hc)

/-- Digits behind a first one that is not zero are an integer. -/
theorem isInt_cons {d : Fin 10} {t : List NumSym} (hd : d ≠ 0) (ht : AllDigits t) :
    IsInt ((NumSym.digit d :: t).map symUnit) :=
  .nonzero (isDigit_symUnit d) (fun h => hd (by simpa using @symUnit_inj _ (.digit 0) h))
    (isDigit_of_allDigits ht)

theorem isExp_exponentPart {e : Int} (he : e ≠ 0) : IsExp ((exponentPart e).map symUnit) := by
  have hdigits : IsDigits ((decimalDigits e.natAbs).map symUnit) :=
    isDigits_map (allDigits_decimalDigits _)
      (List.length_pos_iff.mp (decimalDigits_length_pos (Int.natAbs_ne_zero.mpr he)))
  by_cases hneg : e < 0
  · have hpart := @IsExp.present _ [unit '-'] _ (.inl rfl) (.inr (.inr rfl)) hdigits
    simpa [exponentPart, hneg, symUnit] using hpart
  · have hpart := @IsExp.present _ [unit '+'] _ (.inl rfl) (.inr (.inl rfl)) hdigits
    simpa [exponentPart, hneg, symUnit] using hpart

/-- A layout is an integer, a fraction and an exponent. -/
theorem layout_parts {d : Decimal} (hd : d.digits ≠ 0) : ∃ int frac exp,
    (layout d).map symUnit = int ++ frac ++ exp ∧ IsInt int ∧ IsFrac frac ∧ IsExp exp := by
  obtain ⟨c, t, hds, hc, ht⟩ := decimalDigits_head hd
  unfold layout
  simp only [hds]
  split_ifs with hwhole hpoint hsmall hone
  · -- the digits, and zeros behind them
    refine ⟨_, [], [], by simp only [List.append_nil]; rfl, ?_, .absent, .absent⟩
    exact isInt_cons hc fun x hx => (List.mem_append.mp hx).elim (ht x) (allDigits_zeros _ x)
  · -- the point among the digits
    obtain ⟨k, hk⟩ := Int.eq_succ_of_zero_lt hpoint.1
    have hlt : k + 1 < (NumSym.digit c :: t).length := by omega
    have hfrac : IsDigits ((t.drop k).map symUnit) :=
      isDigits_map (fun x hx => ht x (List.mem_of_mem_drop hx)) (List.ne_nil_of_length_pos (by
        rw [List.length_drop]
        rw [List.length_cons] at hlt
        omega))
    refine ⟨_, _, [], ?_, isInt_cons hc (t := t.take k) fun x hx => ht x (List.mem_of_mem_take hx),
      .present hfrac, .absent⟩
    rw [hk]
    simp [symUnit]
  · -- zeros between the point and the digits
    have hfrac := isDigits_map (t := List.replicate (-(d.exp10 + (NumSym.digit c :: t).length)).toNat
      (.digit 0) ++ NumSym.digit c :: t) (fun x hx => (List.mem_append.mp hx).elim
        (allDigits_zeros _ x) fun hx => (List.mem_cons.mp hx).elim (fun h => ⟨c, h⟩) (ht x)) (by simp)
    exact ⟨_, _, [], by simp only [List.append_nil]; rfl, .zero, .present hfrac, .absent⟩
  · -- one digit and an exponent
    exact ⟨_, [], _, by rw [List.append_nil, List.map_append], isInt_cons hc ht, .absent,
      isExp_exponentPart (by omega)⟩
  · -- a digit, the others behind the point, and an exponent
    have hfrac : IsDigits (t.map symUnit) := isDigits_map ht (by
      rintro rfl
      exact hone rfl)
    refine ⟨_, _, _, ?_, isInt_cons hc (t := []) fun _ h => absurd h List.not_mem_nil, .present hfrac,
      isExp_exponentPart (e := d.exp10 + (NumSym.digit c :: t).length - 1) ?_⟩
    · simp [symUnit]
    · have hlen : (NumSym.digit c :: t).length ≠ 1 := fun h => hone (by rw [h]; rfl)
      omega

/-- `Number::toString` of a finite number is a number of the grammar. -/
theorem numberUnits_isNumber (x : Binary64) : IsNumber (numberUnits x) := by
  unfold numberUnits numberText
  split_ifs with hzero hneg
  · exact @IsNumber.intro [] _ [] [] (.inl rfl) .zero .absent .absent
  all_goals
    obtain ⟨int, frac, exp, heq, hint, hfrac, hexp⟩ :=
      layout_parts (d := shortestDecimal x) (shortestDecimal_rounds hzero).1
  · rw [List.map_cons, heq]
    exact @IsNumber.intro [unit '-'] _ _ _ (.inr rfl) hint hfrac hexp
  · rw [heq]
    exact @IsNumber.intro [] _ _ _ (.inl rfl) hint hfrac hexp

/-! ## §2. Strings. -/

theorem isHexUnit_hexDigit {n : Nat} (h : n < 16) : isHexUnit (hexDigit n) = true := by
  revert n
  decide

/-- What is written for a code unit stands for itself in a body. -/
theorem isStringBody_escapeUnit (c : CodeUnit) {t : JsString} (ht : IsStringBody t) :
    IsStringBody (escapeUnit c ++ t) := by
  have hlt := c.isLt
  unfold escapeUnit
  split_ifs with h1 h2 h3 h4 h5 hquote hbackslash hescape
  · exact .escaped (by decide) ht
  · exact .escaped (by decide) ht
  · exact .escaped (by decide) ht
  · exact .escaped (by decide) ht
  · exact .escaped (by decide) ht
  · exact .escaped (by decide) ht
  · exact .escaped (by decide) ht
  · exact .hex (isHexUnit_hexDigit (by omega)) (isHexUnit_hexDigit (by omega))
      (isHexUnit_hexDigit (by omega)) (isHexUnit_hexDigit (by omega)) ht
  · refine .unescaped ?_ (fun h => hquote (h ▸ rfl)) (fun h => hbackslash (h ▸ rfl)) ht
    simp only [Bool.or_eq_true, decide_eq_true_eq, not_or] at hescape
    omega

/-- **STRINGS**: what stands between the quotes is a body of the grammar. -/
theorem isStringBody_quoteBody (s : JsString) : IsStringBody (quoteBody s) := by
  -- Induction along the pairs of the encoder: a surrogate pair is two raw units.
  induction s using quoteBody.induct with
  | case1 => exact .nil
  | case2 c => simpa [quoteBody] using isStringBody_escapeUnit c .nil
  | case3 c d rest hpair ih =>
    rw [quoteBody, if_pos hpair]
    simp only [isLeadSurrogate, isTrailSurrogate, Bool.and_eq_true, decide_eq_true_eq] at hpair
    have hraw : ∀ e : CodeUnit, 0xD800 ≤ e.val → 0x20 ≤ e.val ∧ e ≠ unit '"' ∧ e ≠ unit '\\' :=
      fun e he => ⟨by omega, fun h => absurd he (h ▸ by decide), fun h => absurd he (h ▸ by decide)⟩
    obtain ⟨hc, hcq, hcb⟩ := hraw c hpair.1.1
    obtain ⟨hd, hdq, hdb⟩ := hraw d (by omega)
    exact .unescaped hc hcq hcb (.unescaped hd hdq hdb ih)
  | case4 c d rest hpair ih =>
    rw [quoteBody, if_neg hpair]
    exact isStringBody_escapeUnit c ih

/-! ## §3. Values. -/

theorem derives_element {t : JsString} (h : Derives .value t) : Derives .element t := by
  have hws : IsWs [] := fun _ hc => absurd hc List.not_mem_nil
  simpa using Derives.element hws h hws

/-- Elements with commas between them. -/
theorem derives_joinWith {item list : Nonterminal} (hlast : ∀ {t}, Derives item t → Derives list t)
    (hcons : ∀ {t rest}, Derives item t → Derives list rest → Derives list (t ++ unit ',' :: rest)) :
    ∀ {ts : List JsString}, ts ≠ [] → (∀ t ∈ ts, Derives item t) → Derives list (joinWith (unit ',') ts) := by
  intro ts
  induction ts with
  | nil => exact fun hne => absurd rfl hne
  | cons t ts ih =>
    intro _ hall
    rw [List.forall_mem_cons] at hall
    cases ts with
    | nil =>
      rw [joinWith, List.flatMap_nil, List.append_nil]
      exact hlast hall.1
    | cons t' ts => exact hcons hall.1 (ih (List.cons_ne_nil _ _) hall.2)

theorem derives_arrayText {ts : List JsString} (h : ∀ t ∈ ts, Derives .value t) :
    Derives .value (arrayText ts) := by
  cases ts with
  | nil => exact .emptyArray (w := []) fun _ hc => absurd hc List.not_mem_nil
  | cons t ts =>
    exact .array (@derives_joinWith .element _ .lastElement .elements _ (List.cons_ne_nil _ _)
      fun t ht => derives_element (h t ht))

theorem derives_memberText {key t : JsString} (h : Derives .value t) :
    Derives .member (memberText key t) := by
  have hws : IsWs [] := fun _ hc => absurd hc List.not_mem_nil
  simpa [memberText, quoteJSONString, quoted] using
    Derives.member hws (isStringBody_quoteBody key) hws (derives_element h)

theorem derives_objectText {ts : List JsString} (h : ∀ t ∈ ts, Derives .member t) :
    Derives .value (objectText ts) := by
  cases ts with
  | nil => exact .emptyObject (w := []) fun _ hc => absurd hc List.not_mem_nil
  | cons t ts => exact .object (derives_joinWith .lastMember .members (List.cons_ne_nil _ _) h)

theorem map_ok {ε α β : Type} {x : Except ε α} {f : α → β} {b : β} (h : x.map f = .ok b) :
    ∃ a, x = .ok a ∧ b = f a := by
  cases x with
  | error e => cases h
  | ok a => exact ⟨a, rfl, (Except.ok.inj h).symm⟩

theorem derives_entryText {texts : List (JsString × Except CanonError JsString)} {path key e : JsString}
    (htexts : ∀ m ∈ texts, ∀ t, m.2 = .ok t → Derives .value t) (h : entryText texts path key = .ok e) :
    Derives .member e := by
  unfold entryText at h
  cases hkey : texts.lookup key with
  | none =>
    rw [hkey] at h
    cases h
  | some result =>
    rw [hkey] at h
    obtain ⟨t, ht, rfl⟩ := map_ok h
    exact derives_memberText (htexts _ (mem_of_lookup hkey) t ht)

/-- The entries of an object, when what its values serialize to are values. -/
theorem derives_object {proto : Proto} {members : List (JsString × JsValue)} {path text : JsString}
    (hmembers : ∀ m ∈ serializeMembers members path, ∀ t, m.2 = .ok t → Derives .value t)
    (h : serializeCanonical (.object proto members) path = .ok text) :
    ∃ entries, text = objectText entries ∧ ∀ e ∈ entries, Derives .member e := by
  rw [serializeCanonical] at h
  split at h
  case isFalse => cases h
  case isTrue =>
    obtain ⟨entries, hentries, rfl⟩ := map_ok h
    refine ⟨entries, rfl, fun e he => ?_⟩
    obtain ⟨key, -, hkey⟩ := mem_of_mapM_ok hentries e he
    exact derives_entryText hmembers hkey

mutual

/-- **THE SERIALIZER WRITES VALUES**, whatever it is handed. -/
theorem derives_serializeCanonical : ∀ (v : JsValue) (path text : JsString),
    serializeCanonical v path = .ok text → Derives .value text
  | .undefined, _, _, h | .number .nan, _, _, h | .number (.infinity _), _, _, h | .other _, _, _, h => by
    cases h
  | .null, _, _, h | .bool true, _, _, h | .bool false, _, _, h =>
    Except.ok.inj h ▸ .literal (by decide)
  | .number (.finite x), _, _, h => Except.ok.inj h ▸ .number (numberUnits_isNumber x)
  | .string s, _, _, h => Except.ok.inj h ▸ .string (isStringBody_quoteBody s)
  | .array items, path, _, h => by
    obtain ⟨ts, hts, rfl⟩ := map_ok h
    exact derives_arrayText (derives_serializeItems items path 0 ts hts)
  | .object _ members, path, _, h => by
    obtain ⟨entries, rfl, hentries⟩ := derives_object (derives_serializeMembers members path) h
    exact derives_objectText hentries

theorem derives_serializeItems : ∀ (items : List JsValue) (path : JsString) (i : Nat)
    (ts : List JsString), serializeItems items path i = .ok ts → ∀ t ∈ ts, Derives .value t
  | [], _, _, _, h => by
    rw [← Except.ok.inj h]
    exact fun _ ht => absurd ht List.not_mem_nil
  | v :: items, path, i, _, h => by
    rw [serializeItems] at h
    obtain ⟨t, ht, h⟩ := bind_ok.mp h
    obtain ⟨ts, hts, h⟩ := bind_ok.mp h
    rw [← Except.ok.inj h, List.forall_mem_cons]
    exact ⟨derives_serializeCanonical v _ t ht, derives_serializeItems items path (i + 1) ts hts⟩

theorem derives_serializeMembers : ∀ (members : List (JsString × JsValue)) (path : JsString),
    ∀ m ∈ serializeMembers members path, ∀ t, m.2 = .ok t → Derives .value t
  | [], _ => fun _ hm => absurd hm List.not_mem_nil
  | (_, v) :: members, path => by
    rw [serializeMembers, List.forall_mem_cons]
    exact ⟨derives_serializeCanonical v _, derives_serializeMembers members path⟩

end

/-! ## §4. The gate. -/

end TokenTimer.Signing.StrictJson
