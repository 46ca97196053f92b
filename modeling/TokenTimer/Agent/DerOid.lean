/-
  TokenTimer.Agent.DerOid — object identifiers of certificate extensions
  (`packages/agent/src/issuers/der-extensions.js`).

  `decodeOid` turns the content of an OBJECT IDENTIFIER into dotted text and
  `encodeOid` turns dotted text into content.  Arcs are `BigInt`s: numbers without
  bound, seven bits a byte, none with a leading `0x80`.

  The first two arcs share the first byte.  X.690 lets the second arc of `2.x` be
  any number; `encodeOid` takes it while `80 + x` fits one byte, and `decodeOid`
  splits that byte at 40 whatever it holds.  From `2.40` on the two disagree.

  Main results:
    * `decodeOid_eq_ok`, `encodeOid_eq_ok` — what the codec accepts.
    * `oid_codec_iff` — exactly which accepted texts come back, and are X.690; and
        every content comes back, and has a text of its own.
-/

import TokenTimer.Agent.CsrEncode
import TokenTimer.Lib.IpText

namespace TokenTimer.Agent.DerExtensions

open Lib.Der Lib.IpText TokenTimer.Agent.Csr

export Lib.Der (Bytes)

/-! ## §1. The codec. -/

/-- Arcs with dots between them: `parts.join(".")`. -/
def joinDots (arcs : List Nat) : Text := List.intercalate ['.'] (arcs.map (Nat.toDigits 10))

/-- The loop of `decodeOid` over the bytes after the first. -/
def decodeArcs (value : Nat) (arcStarted : Bool) : Bytes → Except String (List Nat)
  | [] => if arcStarted then .error "DER OID truncated mid base-128 arc" else .ok []
  | b :: bs =>
    if !arcStarted ∧ 128 ≤ b.val ∧ b.val % 128 = 0 then
      .error "DER OID has a leading 0x80 in base-128"
    else if b.val < 128 then do
      let arcs ← decodeArcs 0 false bs
      .ok ((128 * value + b.val % 128) :: arcs)
    else decodeArcs (128 * value + b.val % 128) true bs

def decodeOid : Bytes → Except String Text
  | [] => .error "empty OID"
  | first :: rest => do
    let arcs ← decodeArcs 0 false rest
    .ok (joinDots (first.val / 40 :: first.val % 40 :: arcs))

/-- One part of the text: `/^(0|[1-9][0-9]*)$/`, as a `BigInt`. -/
def oidArc (p : Text) : Except String Nat :=
  match if p.head? = some '0' → p = ['0'] then numeral 10 p else none with
  | some n => .ok n
  | none => .error ("invalid OID arc " ++ String.ofList p)

/-- The bytes of a later arc: the low seven bits last, the others in front of them. -/
def encodeArc (n : Nat) : Bytes := base128 (n / 128) [byte (n % 128)]

def encodeOid (oid : Text) : Except String Bytes :=
  match oid.splitOn '.' with
  | p₀ :: p₁ :: ps => do
    let a ← oidArc p₀
    let b ← oidArc p₁
    let nums ← ps.mapM oidArc
    if 2 < a then .error ("invalid OID first arc " ++ String.ofList p₀)
    else if a < 2 ∧ 40 ≤ b then
      .error ("invalid OID second arc " ++ String.ofList p₁ ++ " for first arc " ++ String.ofList p₀)
    else if 255 < a * 40 + b then .error "OID first two arcs overflow initial octet"
    else .ok (byte (a * 40 + b) :: nums.flatMap encodeArc)
  | _ => .error ("invalid OID " ++ String.ofList oid)

/-! ## §2. Dotted texts. -/

theorem oidArc_eq_ok {p : Text} {n : Nat} : oidArc p = .ok n ↔ p = Nat.toDigits 10 n := by
  unfold oidArc
  constructor
  · intro h
    by_cases hzero : p.head? = some '0' → p = ['0']
    · rw [if_pos hzero] at h
      cases hn : numeral 10 p with
      | none =>
        rw [hn] at h
        cases h
      | some k =>
        rw [hn] at h
        rw [← Except.ok.inj h]
        exact eq_toDigits_ten hn hzero
    · rw [if_neg hzero] at h
      cases h
  · rintro rfl
    rw [if_pos (toDigits_head (by decide) (by decide) n), numeral_toDigits (by decide) (by decide)]

theorem mapM_oidArc {ps : List Text} :
    ∀ {nums : List Nat}, ps.mapM oidArc = .ok nums ↔ ps = nums.map (Nat.toDigits 10) := by
  induction ps with
  | nil =>
    intro nums
    rw [List.mapM_nil]
    cases nums <;> simp [pure, Except.pure]
  | cons p ps ih =>
    intro nums
    rw [List.mapM_cons, bind_ok]
    constructor
    · rintro ⟨n, hn, h⟩
      obtain ⟨ns, hns, h⟩ := bind_ok.mp h
      rw [← Except.ok.inj h, oidArc_eq_ok.mp hn, ih.mp hns, List.map_cons]
    · intro h
      cases nums with
      | nil => cases h
      | cons n ns =>
        obtain ⟨hn, hns⟩ := List.cons.inj h
        exact ⟨n, oidArc_eq_ok.mpr hn, bind_ok.mpr ⟨ns, ih.mpr hns, rfl⟩⟩

variable {arcs as bs : List Nat} {bytes : Bytes} {oid : Text}

theorem splitOn_joinDots (h : arcs ≠ []) :
    (joinDots arcs).splitOn '.' = arcs.map (Nat.toDigits 10) := by
  refine List.splitOn_intercalate '.' (fun l hl => ?_) (by simpa using h)
  obtain ⟨n, -, rfl⟩ := List.mem_map.mp hl
  exact not_mem_toDigits (by decide) (by decide) rfl

theorem map_toDigits_inj (h : as.map (Nat.toDigits 10) = bs.map (Nat.toDigits 10)) : as = bs := by
  have hok : (as.map (Nat.toDigits 10)).mapM oidArc = .ok as := mapM_oidArc.mpr rfl
  rw [mapM_oidArc.mpr h] at hok
  exact (Except.ok.inj hok).symm

/-- A dotted text has one list of arcs. -/
theorem joinDots_inj (ha : as ≠ []) (hb : bs ≠ []) (h : joinDots as = joinDots bs) : as = bs := by
  apply map_toDigits_inj
  rw [← splitOn_joinDots ha, ← splitOn_joinDots hb, h]

/-! ## §3. Seven bits a byte. -/

theorem base128_append (r : Nat) : ∀ stack more : Bytes,
    base128 r (stack ++ more) = base128 r stack ++ more := by
  induction r using Nat.strongRecOn with
  | ind r ih =>
    intro stack more
    rw [base128]
    conv_rhs => rw [base128]
    by_cases h0 : r = 0
    · rw [if_pos h0, if_pos h0]
    · rw [if_neg h0, if_neg h0, ← List.cons_append, ih (r / 128) (by omega)]

theorem continued_val (n : Nat) : (byte (n % 128 ||| 0x80)).val = n % 128 + 128 := by
  have hall : ∀ k : Fin 128, (byte (k.val ||| 0x80)).val = k.val + 128 := by decide
  exact hall ⟨n % 128, Nat.mod_lt _ (by decide)⟩

theorem base128_of_pos {r : Nat} (h : r ≠ 0) (stack : Bytes) :
    base128 r stack = base128 (r / 128) (byte (r % 128 ||| 0x80) :: stack) := by
  rw [base128, if_neg h]

@[simp] theorem base128_zero (stack : Bytes) : base128 0 stack = stack := by
  rw [base128, if_pos rfl]

/-- The bytes in front of an arc are the arc begun. -/
theorem readArcs_base128 (r : Nat) : ∀ stack : Bytes, readArcs none (base128 r stack) =
    if r = 0 then readArcs none stack else readArcs (some r) stack := by
  induction r using Nat.strongRecOn with
  | ind r ih =>
    intro stack
    by_cases h0 : r = 0
    · rw [if_pos h0, h0, base128_zero]
    · rw [base128_of_pos h0, ih (r / 128) (by omega), if_neg h0]
      have hval := continued_val r
      by_cases h1 : r / 128 = 0
      · rw [if_pos h1, readArcs, if_neg (by omega), if_neg (by omega), hval]
        rw [Option.getD_none, show 128 * 0 + (r % 128 + 128 - 128) = r by omega]
      · rw [if_neg h1, readArcs, if_neg (by simp), if_neg (by omega), hval]
        rw [Option.getD_some, show 128 * (r / 128) + (r % 128 + 128 - 128) = r by omega]

theorem readArcs_encodeArc (n : Nat) (bs : Bytes) :
    readArcs none (encodeArc n ++ bs) = (readArcs none bs).map (n :: ·) := by
  have hval : (byte (n % 128)).val = n % 128 := by
    rw [byte_val]
    omega
  rw [encodeArc, ← base128_append, readArcs_base128, List.singleton_append]
  by_cases h0 : n / 128 = 0
  · rw [if_pos h0, readArcs, if_neg (by omega), if_pos (by omega), hval]
    rw [Option.getD_none, show 128 * 0 + n % 128 = n by omega]
  · rw [if_neg h0, readArcs, if_neg (by simp), if_pos (by omega), hval]
    rw [Option.getD_some, show 128 * (n / 128) + n % 128 = n by omega]

theorem readArcs_flatMap (arcs : List Nat) : readArcs none (arcs.flatMap encodeArc) = some arcs := by
  induction arcs with
  | nil => rfl
  | cons n arcs ih => rw [List.flatMap_cons, readArcs_encodeArc, ih, Option.map_some]

/-- **ONE ENCODING**: bytes that are read as arcs are the bytes of these arcs, those of
    an arc begun in front. -/
theorem flatMap_of_readArcs : ∀ (bs : Bytes) (begun : Option Nat) (arcs : List Nat),
    begun ≠ some 0 → readArcs begun bs = some arcs →
      base128 (begun.getD 0) bs = arcs.flatMap encodeArc := by
  intro bs
  induction bs with
  | nil =>
    intro begun arcs _ h
    cases begun with
    | none =>
      rw [← Option.some.inj h]
      exact base128_zero []
    | some v => cases h
  | cons b bs ih =>
    intro begun arcs hbegun h
    rw [readArcs] at h
    by_cases hlead : begun = none ∧ b.val = 128
    · rw [if_pos hlead] at h
      cases h
    rw [if_neg hlead] at h
    by_cases hlow : b.val < 128
    · rw [if_pos hlow] at h
      obtain ⟨rest, hrest, rfl⟩ := Option.map_eq_some_iff.mp h
      have hbs := ih none rest (by simp) hrest
      rw [Option.getD_none, base128_zero] at hbs
      rw [List.flatMap_cons, ← hbs, encodeArc, ← base128_append, List.singleton_append]
      have hb : byte ((128 * begun.getD 0 + b.val) % 128) = b := by
        apply Fin.ext
        rw [byte_val]
        omega
      rw [hb, show (128 * begun.getD 0 + b.val) / 128 = begun.getD 0 by omega]
    · rw [if_neg hlow] at h
      have hne : 128 * begun.getD 0 + (b.val - 128) ≠ 0 := by
        cases begun with
        | none =>
          have : b.val ≠ 128 := fun h => hlead ⟨rfl, h⟩
          omega
        | some v =>
          have : v ≠ 0 := fun h => hbegun (by rw [h])
          rw [Option.getD_some]
          omega
      have hbs := ih _ arcs (by simpa using hne) h
      rw [Option.getD_some, base128_of_pos hne] at hbs
      have hb : byte ((128 * begun.getD 0 + (b.val - 128)) % 128 ||| 0x80) = b := by
        apply Fin.ext
        rw [continued_val]
        omega
      rwa [hb, show (128 * begun.getD 0 + (b.val - 128)) / 128 = begun.getD 0 by omega] at hbs

theorem readArcs_eq_some {bs : Bytes} :
    readArcs none bs = some arcs ↔ bs = arcs.flatMap encodeArc := by
  constructor
  · intro h
    have hbs := flatMap_of_readArcs bs none arcs (by simp) h
    rwa [Option.getD_none, base128_zero] at hbs
  · rintro rfl
    exact readArcs_flatMap arcs

/-! ## §4. What the codec accepts. -/

theorem decodeArcs_eq_ok (bs : Bytes) : ∀ (value : Nat) (arcStarted : Bool) (arcs : List Nat),
    (arcStarted = false → value = 0) → (decodeArcs value arcStarted bs = .ok arcs ↔
      readArcs (if arcStarted then some value else none) bs = some arcs) := by
  induction bs with
  | nil =>
    intro value arcStarted arcs _
    cases arcStarted <;> simp [decodeArcs, readArcs]
  | cons b bs ih =>
    intro value arcStarted arcs hvalue
    have hgetD : (if arcStarted then some value else none).getD 0 = value := by
      cases arcStarted with
      | false => exact (hvalue rfl).symm
      | true => rfl
    have hlead : (!arcStarted ∧ 128 ≤ b.val ∧ b.val % 128 = 0) ↔
        ((if arcStarted then some value else none) = none ∧ b.val = 128) := by
      cases arcStarted <;> simp
      omega
    rw [decodeArcs, readArcs, hgetD]
    by_cases h : (if arcStarted then some value else none) = none ∧ b.val = 128
    · rw [if_pos h, if_pos (hlead.mpr h)]
      simp
    rw [if_neg h, if_neg (fun hs => h (hlead.mp hs))]
    by_cases hlow : b.val < 128
    · rw [if_pos hlow, if_pos hlow, bind_ok, Option.map_eq_some_iff, Nat.mod_eq_of_lt hlow]
      refine exists_congr fun rest => ?_
      rw [ih 0 false rest (fun _ => rfl), Except.ok.injEq]
      rfl
    · rw [if_neg hlow, if_neg hlow, ih _ true arcs (by simp), show b.val % 128 = b.val - 128 by omega]
      rfl

theorem decodeOid_eq_ok : decodeOid bytes = .ok oid ↔
    ∃ first arcs, bytes = first :: arcs.flatMap encodeArc ∧
      oid = joinDots (first.val / 40 :: first.val % 40 :: arcs) := by
  cases bytes with
  | nil => simp [decodeOid]
  | cons first rest =>
    rw [decodeOid, bind_ok]
    constructor
    · rintro ⟨arcs, harcs, h⟩
      have hread := (decodeArcs_eq_ok rest 0 false arcs (fun _ => rfl)).mp harcs
      exact ⟨first, arcs, by rw [readArcs_eq_some.mp hread], (Except.ok.inj h).symm⟩
    · rintro ⟨first', arcs, hbytes, rfl⟩
      obtain ⟨rfl, rfl⟩ := List.cons.inj hbytes
      exact ⟨arcs, (decodeArcs_eq_ok _ 0 false arcs (fun _ => rfl)).mpr (readArcs_flatMap arcs), rfl⟩

theorem encodeOid_eq_ok : encodeOid oid = .ok bytes ↔
    ∃ a b nums, oid = joinDots (a :: b :: nums) ∧ a ≤ 2 ∧ (a < 2 → b < 40) ∧ a * 40 + b ≤ 255 ∧
      bytes = byte (a * 40 + b) :: nums.flatMap encodeArc := by
  constructor
  · intro h
    unfold encodeOid at h
    split at h
    case h_2 => cases h
    case h_1 p₀ p₁ ps hsplit =>
      obtain ⟨a, ha, h⟩ := bind_ok.mp h
      obtain ⟨b, hb, h⟩ := bind_ok.mp h
      obtain ⟨nums, hnums, h⟩ := bind_ok.mp h
      split_ifs at h with hfirst hsecond hoctet
      refine ⟨a, b, nums, ?_, by omega, by omega, by omega, (Except.ok.inj h).symm⟩
      rw [joinDots, List.map_cons, List.map_cons, ← oidArc_eq_ok.mp ha, ← oidArc_eq_ok.mp hb,
        ← mapM_oidArc.mp hnums, ← hsplit, List.intercalate_splitOn]
  · rintro ⟨a, b, nums, rfl, ha, hb, hoctet, rfl⟩
    unfold encodeOid
    rw [splitOn_joinDots (by simp), List.map_cons, List.map_cons]
    refine bind_ok.mpr ⟨a, oidArc_eq_ok.mpr rfl, bind_ok.mpr ⟨b, oidArc_eq_ok.mpr rfl,
      bind_ok.mpr ⟨nums, mapM_oidArc.mpr rfl, ?_⟩⟩⟩
    rw [if_neg (by omega), if_neg (by omega), if_neg (by omega)]

/-! ## §5. There and back. -/

/-- The second arc is below 40, as it always is after `0.` and `1.`. -/
def SecondArcBelow40 (oid : Text) : Prop :=
  ∀ a b nums, oid = joinDots (a :: b :: nums) → b < 40

theorem secondArcBelow40_joinDots {a b : Nat} {nums : List Nat} :
    SecondArcBelow40 (joinDots (a :: b :: nums)) ↔ b < 40 := by
  constructor
  · intro h
    exact h a b nums rfl
  · intro hb a' b' nums' h
    obtain ⟨-, h⟩ := List.cons.inj (joinDots_inj (by simp) (by simp) h)
    rwa [← (List.cons.inj h).1]

/-- **WHICH IDENTIFIERS COME BACK**: an accepted text comes back from its bytes, and
    they are its X.690 encoding, exactly when its second arc is below 40.  Accepted
    bytes always come back from their text, and no others have that text. -/
theorem oid_codec_iff (oid : Text) (bytes : Bytes) :
    (encodeOid oid = .ok bytes →
      ((decodeOid bytes = .ok oid ∧ ∃ arcs, readOid bytes = some arcs ∧ oid = joinDots arcs) ↔
        SecondArcBelow40 oid)) ∧
    (decodeOid bytes = .ok oid → ∀ again, encodeOid oid = .ok again → again = bytes) ∧
    (decodeOid bytes = .ok oid → ∀ others, decodeOid others = .ok oid → bytes = others) := by
  refine ⟨fun henc => ?_, fun hdec again henc => ?_, fun h others h' => ?_⟩
  · obtain ⟨a, b, nums, rfl, ha, hb, hoctet, rfl⟩ := encodeOid_eq_ok.mp henc
    have hval : (byte (a * 40 + b)).val = a * 40 + b := by
      rw [byte_val]
      omega
    rw [secondArcBelow40_joinDots]
    constructor
    · rintro ⟨hdec, -⟩
      obtain ⟨first, arcs, -, htext⟩ := decodeOid_eq_ok.mp hdec
      obtain ⟨-, h⟩ := List.cons.inj (joinDots_inj (by simp) (by simp) htext)
      obtain ⟨hmod, -⟩ := List.cons.inj h
      omega
    · intro hb40
      refine ⟨decodeOid_eq_ok.mpr ⟨_, nums, rfl, ?_⟩, a :: b :: nums, ?_, rfl⟩
      · rw [hval, show (a * 40 + b) / 40 = a by omega, show (a * 40 + b) % 40 = b by omega]
      · -- One byte below 128 is the first arc of what X.690 packs.
        have hread : readArcs none (byte (a * 40 + b) :: nums.flatMap encodeArc) =
            some ((a * 40 + b) :: nums) := by
          rw [readArcs, if_neg (by omega), if_pos (by omega), readArcs_flatMap, hval]
          simp
        unfold readOid
        rw [hread]
        simp only
        interval_cases a
        · rw [if_pos (by omega), show 0 * 40 + b = b by omega]
        · rw [if_neg (by omega), if_pos (by omega), show 1 * 40 + b - 40 = b by omega]
        · rw [if_neg (by omega), if_neg (by omega), show 2 * 40 + b - 80 = b by omega]
  · obtain ⟨first, arcs, rfl, rfl⟩ := decodeOid_eq_ok.mp hdec
    obtain ⟨a, b, nums, htext, -, -, -, rfl⟩ := encodeOid_eq_ok.mp henc
    obtain ⟨ha, h⟩ := List.cons.inj (joinDots_inj (by simp) (by simp) htext)
    obtain ⟨hb, hnums⟩ := List.cons.inj h
    rw [← ha, ← hb, ← hnums]
    congr 1
    apply Fin.ext
    rw [byte_val]
    omega
  · obtain ⟨first, arcs, rfl, rfl⟩ := decodeOid_eq_ok.mp h
    obtain ⟨first', arcs', rfl, htext⟩ := decodeOid_eq_ok.mp h'
    obtain ⟨hdiv, h⟩ := List.cons.inj (joinDots_inj (by simp) (by simp) htext)
    obtain ⟨hmod, rfl⟩ := List.cons.inj h
    rw [show first = first' from Fin.ext (by omega)]

/-- The extended key usage extension comes back. -/
theorem oid_codec_eku :
    (decodeOid [0x55, 0x1d, 0x25] = .ok "2.5.29.37".toList ∧
      ∃ arcs, readOid [0x55, 0x1d, 0x25] = some arcs ∧ "2.5.29.37".toList = joinDots arcs) ∧
    ∀ others, decodeOid others = .ok "2.5.29.37".toList → [0x55, 0x1d, 0x25] = others := by
  have htext : "2.5.29.37".toList = joinDots [2, 5, 29, 37] := by decide +kernel
  refine ⟨((oid_codec_iff _ _).1 (by decide +kernel)).mpr ?_,
    (oid_codec_iff _ _).2.2 (by decide +kernel)⟩
  rw [htext, secondArcBelow40_joinDots]
  decide

/-- "2.40" is accepted and comes back as "3.0". -/
theorem second_arc_forty_lost :
    encodeOid "2.40".toList = .ok [0x78] ∧ decodeOid [0x78] = .ok "3.0".toList ∧
      decodeOid [0x78] ≠ .ok "2.40".toList := by
  decide +kernel

end TokenTimer.Agent.DerExtensions
