/-
  TokenTimer.Lib.Numeral — ECMAScript's `Number::toString` (radix 10) on finite
  binary64 numbers, and what its text determines.

  The text is a list of NUMERAL SYMBOLS: a digit, the dot, the exponent mark, a
  sign.  `readNumeral` reads a text of the five layouts back as a rational; the
  proof that the text determines the number is that reading it gives the
  shortest decimal, and that decimal rounds to the number.

  Main results:
    * `readNumeral_layout` — every layout reads back as `digits · 10 ^ exp10`.
    * `numberText_eq_iff` — two numbers have the same text exactly when they are
        the same number (`0` and `-0` identified).
-/

import Mathlib.Data.List.TakeWhile
import Mathlib.Data.Nat.Digits.Lemmas
import TokenTimer.Lib.Binary64

namespace Lib.Numeric

/-! ## §1. Digits. -/

inductive NumSym
  | digit (d : Fin 10) | dot | expMark | plus | minus
deriving DecidableEq, Repr

/-- The decimal digits of a natural number, most significant first. -/
def decimalDigits (n : Nat) : List NumSym :=
  (Nat.digits 10 n).reverse.map fun d => .digit (Fin.ofNat 10 d)

def digitsValue (t : List NumSym) : Nat :=
  t.foldl (fun acc c => match c with | .digit d => 10 * acc + d.val | _ => acc) 0

def AllDigits (t : List NumSym) : Prop := ∀ c ∈ t, ∃ d, c = .digit d

theorem allDigits_decimalDigits (n : Nat) : AllDigits (decimalDigits n) := by
  intro c hc
  obtain ⟨d, -, rfl⟩ := List.mem_map.mp hc
  exact ⟨_, rfl⟩

theorem allDigits_zeros (z : Nat) : AllDigits (List.replicate z (.digit 0)) := by
  intro c hc
  exact ⟨0, List.eq_of_mem_replicate hc⟩

theorem digitsValue_decimalDigits (n : Nat) : digitsValue (decimalDigits n) = n := by
  have hlt : ∀ d ∈ Nat.digits 10 n, d < 10 := fun d hd => Nat.digits_lt_base (by norm_num) hd
  have key : ∀ l : List Nat, (∀ d ∈ l, d < 10) →
      (l.reverse.map fun d => NumSym.digit (Fin.ofNat 10 d)).foldl
        (fun acc c => match c with | .digit d => 10 * acc + d.val | _ => acc) 0
      = Nat.ofDigits 10 l := by
    intro l
    induction l with
    | nil => intro _; rfl
    | cons d t ih =>
      intro hd
      have hdlt := hd d (by simp)
      simp only [List.reverse_cons, List.map_append, List.foldl_append, List.map_cons,
        List.map_nil, List.foldl_cons, List.foldl_nil]
      rw [ih (fun x hx => hd x (by simp [hx])), Nat.ofDigits_cons]
      have hval : (Fin.ofNat 10 d).val = d := Nat.mod_eq_of_lt hdlt
      rw [hval]
      omega
  unfold digitsValue decimalDigits
  rw [key _ hlt, Nat.ofDigits_digits]

theorem digitsValue_append_zeros (t : List NumSym) (z : Nat) :
    digitsValue (t ++ List.replicate z (.digit 0)) = digitsValue t * 10 ^ z := by
  induction z with
  | zero => simp
  | succ z ih =>
    rw [List.replicate_succ', ← List.append_assoc]
    unfold digitsValue at ih ⊢
    rw [List.foldl_append, ih]
    simp only [List.foldl_cons, List.foldl_nil, Fin.val_zero]
    ring

theorem digitsValue_zeros_append (z : Nat) (t : List NumSym) :
    digitsValue (List.replicate z (.digit 0) ++ t) = digitsValue t := by
  induction z with
  | zero => rfl
  | succ z ih =>
    rw [List.replicate_succ, List.cons_append]
    unfold digitsValue at ih ⊢
    rw [List.foldl_cons]
    exact ih

theorem decimalDigits_length_pos {n : Nat} (h : n ≠ 0) : 0 < (decimalDigits n).length := by
  unfold decimalDigits
  rw [List.length_map, List.length_reverse]
  exact List.length_pos_iff.mpr (Nat.digits_ne_nil_iff_ne_zero.mpr h)

/-! ## §2. Layout. -/

/-- The exponent part `e±digits`. -/
def exponentPart (e : Int) : List NumSym :=
  .expMark :: (if e < 0 then .minus else .plus) :: decimalDigits e.natAbs

/-- The layout of `Number::toString` for a positive decimal: `k` digits, and the
    decimal point after the `n`-th. -/
def layout (d : Decimal) : List NumSym :=
  let ds := decimalDigits d.digits
  let k : Int := ds.length
  let n : Int := d.exp10 + k
  if k ≤ n ∧ n ≤ 21 then ds ++ List.replicate (n - k).toNat (.digit 0)
  else if 0 < n ∧ n ≤ 21 then ds.take n.toNat ++ .dot :: ds.drop n.toNat
  else if -6 < n ∧ n ≤ 0 then .digit 0 :: .dot :: (List.replicate (-n).toNat (.digit 0) ++ ds)
  else if k = 1 then ds ++ exponentPart (n - 1)
  else ds.take 1 ++ .dot :: ds.drop 1 ++ exponentPart (n - 1)

/-- `Number::toString`. -/
def numberText (x : Binary64) : List NumSym :=
  if x.mant = 0 then [.digit 0]
  else if x.neg then .minus :: layout (shortestDecimal x)
  else layout (shortestDecimal x)

/-! ## §3. Reading a layout back. -/

def readExponent : List NumSym → Int
  | .expMark :: .minus :: t => -(digitsValue t : Int)
  | .expMark :: .plus :: t => digitsValue t
  | _ => 0

/-- The rational that a text of an unsigned layout denotes. -/
def readNumeral (t : List NumSym) : ℚ :=
  let mant := t.takeWhile (· ≠ .expMark)
  let whole := mant.takeWhile (· ≠ .dot)
  let frac := (mant.dropWhile (· ≠ .dot)).tail
  (digitsValue (whole ++ frac) : ℚ) *
    10 ^ (readExponent (t.dropWhile (· ≠ .expMark)) - frac.length)

theorem AllDigits.ne_mark {t : List NumSym} (h : AllDigits t) {m : NumSym}
    (hm : ∀ d, m ≠ .digit d) : ∀ c ∈ t, decide (c ≠ m) = true := by
  intro c hc
  obtain ⟨d, rfl⟩ := h c hc
  simpa using fun he => hm d he.symm

/-- Splitting a mantissa without a dot. -/
theorem readNumeral_whole {ds e : List NumSym} (hds : AllDigits ds)
    (he : e = [] ∨ ∃ t, e = .expMark :: t) :
    readNumeral (ds ++ e) = (digitsValue ds : ℚ) * 10 ^ (readExponent e) := by
  have hE := hds.ne_mark (m := .expMark) (by simp)
  have hD := hds.ne_mark (m := .dot) (by simp)
  have htake : (ds ++ e).takeWhile (· ≠ .expMark) = ds := by
    rw [List.takeWhile_append_of_pos hE]
    rcases he with rfl | ⟨t, rfl⟩ <;> simp
  have hdrop : (ds ++ e).dropWhile (· ≠ .expMark) = e := by
    rw [List.dropWhile_append_of_pos hE]
    rcases he with rfl | ⟨t, rfl⟩ <;> simp
  have hwhole : ds.takeWhile (· ≠ .dot) = ds := List.takeWhile_eq_self_iff.mpr hD
  have hfrac : ds.dropWhile (· ≠ .dot) = [] := List.dropWhile_eq_nil_iff.mpr hD
  unfold readNumeral
  simp only [htake, hdrop, hwhole, hfrac, List.tail_nil, List.append_nil, List.length_nil,
    Nat.cast_zero, sub_zero]

theorem readNumeral_dot {w f e : List NumSym} (hw : AllDigits w) (hf : AllDigits f)
    (he : e = [] ∨ ∃ t, e = .expMark :: t) :
    readNumeral (w ++ .dot :: f ++ e) =
      (digitsValue (w ++ f) : ℚ) * 10 ^ (readExponent e - f.length) := by
  have hE : ∀ c ∈ w ++ .dot :: f, decide (c ≠ NumSym.expMark) = true := by
    intro c hc
    rcases List.mem_append.mp hc with hc | hc
    · exact hw.ne_mark (by simp) c hc
    · rcases List.mem_cons.mp hc with rfl | hc
      · rfl
      · exact hf.ne_mark (by simp) c hc
  have hD := hw.ne_mark (m := .dot) (by simp)
  have htake : (w ++ .dot :: f ++ e).takeWhile (· ≠ .expMark) = w ++ .dot :: f := by
    rw [List.takeWhile_append_of_pos hE]
    rcases he with rfl | ⟨t, rfl⟩ <;> simp
  have hdrop : (w ++ .dot :: f ++ e).dropWhile (· ≠ .expMark) = e := by
    rw [List.dropWhile_append_of_pos hE]
    rcases he with rfl | ⟨t, rfl⟩ <;> simp
  have hwhole : (w ++ .dot :: f).takeWhile (· ≠ .dot) = w := by
    rw [List.takeWhile_append_of_pos hD]
    simp
  have hfrac : (w ++ .dot :: f).dropWhile (· ≠ .dot) = .dot :: f := by
    rw [List.dropWhile_append_of_pos hD]
    simp
  unfold readNumeral
  simp only [htake, hdrop, hwhole, hfrac, List.tail_cons]

theorem readExponent_exponentPart (e : Int) : readExponent (exponentPart e) = e := by
  unfold exponentPart
  by_cases hneg : e < 0
  · rw [if_pos hneg]
    simp only [readExponent, digitsValue_decimalDigits]
    omega
  · rw [if_neg hneg]
    simp only [readExponent, digitsValue_decimalDigits]
    omega

theorem exponentPart_mark (e : Int) : exponentPart e = [] ∨ ∃ t, exponentPart e = .expMark :: t :=
  .inr ⟨_, rfl⟩

/-- **THE TEXT IS THE DECIMAL**: every layout reads back as its value. -/
theorem readNumeral_layout (d : Decimal) (h : d.digits ≠ 0) : readNumeral (layout d) = d.value := by
  have hds := allDigits_decimalDigits d.digits
  have hval := digitsValue_decimalDigits d.digits
  have hlen := decimalDigits_length_pos h
  have hsub : ∀ i, AllDigits ((decimalDigits d.digits).take i) ∧
      AllDigits ((decimalDigits d.digits).drop i) :=
    fun i => ⟨fun c hc => hds c (List.mem_of_mem_take hc), fun c hc => hds c (List.mem_of_mem_drop hc)⟩
  unfold layout Decimal.value
  simp only
  generalize hk : decimalDigits d.digits = ds at *
  split_ifs with h1 h2 h3 h4
  · -- Whole number: `n - k` zeros follow the digits.
    have hz : AllDigits (ds ++ List.replicate (d.exp10 + ds.length - ds.length).toNat (.digit 0)) := by
      intro c hc
      rcases List.mem_append.mp hc with hc | hc
      · exact hds c hc
      · exact allDigits_zeros _ c hc
    have hread := readNumeral_whole (e := []) hz (.inl rfl)
    rw [List.append_nil] at hread
    rw [hread, digitsValue_append_zeros, hval]
    obtain ⟨m, hm⟩ := Int.eq_ofNat_of_zero_le (show 0 ≤ d.exp10 by omega)
    simp only [readExponent, hm, add_sub_cancel_right, Int.toNat_natCast, zpow_zero, mul_one]
    push_cast
    rfl
  · -- The point falls among the digits.
    have hread := readNumeral_dot (e := []) (hsub (d.exp10 + ds.length).toNat).1
      (hsub (d.exp10 + ds.length).toNat).2 (.inl rfl)
    rw [List.append_nil] at hread
    rw [hread, List.take_append_drop, hval, List.length_drop]
    congr 2
    simp only [readExponent]
    omega
  · -- Leading zeros.
    have hz : AllDigits (List.replicate (-(d.exp10 + ds.length)).toNat (.digit 0) ++ ds) := by
      intro c hc
      rcases List.mem_append.mp hc with hc | hc
      · exact allDigits_zeros _ c hc
      · exact hds c hc
    have hzero : AllDigits [.digit 0] := allDigits_zeros 1
    have hread := readNumeral_dot (e := []) hzero hz (.inl rfl)
    rw [List.append_nil] at hread
    show readNumeral ([.digit 0] ++ .dot :: _) = _
    rw [hread]
    have hdig : digitsValue ([.digit 0] ++ (List.replicate (-(d.exp10 + ds.length)).toNat (.digit 0)
        ++ ds)) = d.digits := by
      have hone := digitsValue_zeros_append 1
        (List.replicate (-(d.exp10 + ds.length)).toNat (.digit 0) ++ ds)
      rw [← hval, ← digitsValue_zeros_append (-(d.exp10 + ds.length)).toNat ds]
      exact hone
    rw [hdig, List.length_append, List.length_replicate]
    congr 2
    simp only [readExponent]
    omega
  · -- One digit and an exponent.
    rw [readNumeral_whole hds (exponentPart_mark _), hval, readExponent_exponentPart]
    congr 2
    omega
  · -- Digit, point, digits and an exponent.
    rw [readNumeral_dot (hsub 1).1 (hsub 1).2 (exponentPart_mark _), List.take_append_drop, hval,
      readExponent_exponentPart, List.length_drop]
    congr 2
    omega

/-! ## §4. What the text determines. -/

theorem layout_head (d : Decimal) (h : d.digits ≠ 0) : ∃ c t, layout d = .digit c :: t := by
  have hds := allDigits_decimalDigits d.digits
  have hlen := decimalDigits_length_pos h
  obtain ⟨c, t, hct⟩ := List.exists_cons_of_length_pos hlen
  obtain ⟨c', rfl⟩ := hds c (by rw [hct]; simp)
  unfold layout
  simp only [hct]
  split_ifs with h1 h2 h3 h4
  · exact ⟨c', _, rfl⟩
  · obtain ⟨m, hm⟩ : ∃ m : Nat, (d.exp10 + ((NumSym.digit c' :: t).length : Int)).toNat = m + 1 :=
      ⟨(d.exp10 + ((NumSym.digit c' :: t).length : Int)).toNat - 1, by omega⟩
    rw [hm]
    exact ⟨c', _, rfl⟩
  · exact ⟨0, _, rfl⟩
  · exact ⟨c', _, rfl⟩
  · exact ⟨c', _, rfl⟩

theorem numberText_sign {x : Binary64} (h : x.mant ≠ 0) :
    (numberText x).head? = some .minus ↔ x.neg = true := by
  obtain ⟨c, t, hct⟩ := layout_head (shortestDecimal x) (shortestDecimal_rounds h).1
  unfold numberText
  rw [if_neg h]
  cases x.neg <;> simp [hct]

/-- Zero is never the text of another number. -/
theorem layout_ne_zero {x : Binary64} (h : x.mant ≠ 0) :
    layout (shortestDecimal x) ≠ [.digit 0] := by
  intro heq
  have hpos := (shortestDecimal_rounds h).1
  have hread := readNumeral_layout (shortestDecimal x) hpos
  rw [heq] at hread
  have hzero : readNumeral [.digit 0] = 0 := by
    have := readNumeral_whole (e := []) (allDigits_zeros 1) (.inl rfl)
    simpa [digitsValue] using this
  rw [hzero] at hread
  have hval : (0 : ℚ) < (shortestDecimal x).value := by
    unfold Decimal.value
    have hd : (0 : ℚ) < (shortestDecimal x).digits := by exact_mod_cast Nat.pos_of_ne_zero hpos
    exact mul_pos hd (zpow_pos (by norm_num) _)
  exact absurd hread hval.ne

theorem numberText_zero_iff (x : Binary64) : numberText x = [.digit 0] ↔ x.mant = 0 := by
  unfold numberText
  constructor
  · intro h
    by_contra hm
    rw [if_neg hm] at h
    cases hneg : x.neg with
    | true => simp [hneg] at h
    | false =>
      simp only [hneg, Bool.false_eq_true, if_false] at h
      exact layout_ne_zero hm h
  · intro h
    rw [if_pos h]

/-- **INJECTIVITY UP TO THE SIGN OF ZERO**. -/
theorem numberText_eq_iff (x y : Binary64) : numberText x = numberText y ↔ x.SameNumber y := by
  constructor
  · intro h
    by_cases hx : x.mant = 0
    · right
      exact ⟨hx, (numberText_zero_iff y).mp (h ▸ (numberText_zero_iff x).mpr hx)⟩
    by_cases hy : y.mant = 0
    · exact absurd ((numberText_zero_iff x).mp (h ▸ (numberText_zero_iff y).mpr hy)) hx
    left
    have hsign : x.neg = y.neg := by
      have hs := (numberText_sign hx).symm.trans (h ▸ numberText_sign hy)
      cases hxn : x.neg <;> cases hyn : y.neg <;> simp_all
    have hlay : layout (shortestDecimal x) = layout (shortestDecimal y) := by
      unfold numberText at h
      rw [if_neg hx, if_neg hy, hsign] at h
      cases hyn : y.neg <;> simpa [hyn] using h
    -- Reading the common text gives one decimal, which rounds to both.
    obtain ⟨hxd, hxr⟩ := shortestDecimal_rounds hx
    obtain ⟨hyd, hyr⟩ := shortestDecimal_rounds hy
    have hval : (shortestDecimal x).value = (shortestDecimal y).value := by
      rw [← readNumeral_layout _ hxd, ← readNumeral_layout _ hyd, hlay]
    rw [hval, hyr] at hxr
    obtain ⟨hm, he⟩ := Prod.mk.inj hxr
    exact Binary64.ext_fields hsign hm.symm he.symm
  · intro h
    rcases h with rfl | ⟨hx, hy⟩
    · rfl
    · rw [(numberText_zero_iff x).mpr hx, (numberText_zero_iff y).mpr hy]

end Lib.Numeric
