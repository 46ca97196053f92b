/-
  TokenTimer.Agent.VerifySpelling — does the deny list depend on the spelling?

  A host that spells an address should be treated as the address is: the same
  class as its canonical text, never allowed when the address is unspecified,
  link-local, multicast or reserved, and as loopback only when it is listed.

  The tests of `classifyVerifyHost` are literal, so this holds for the texts
  they know (`PlainlySpelled`) and for no other: `::ffff:a9fe:a9fe` is the
  metadata address and an ordinary host.

  Main results:
    * `classify_eq_iff` — the class of the address is given exactly to the
        texts that spell it plainly.
    * `spelling_safe_iff` — and a host is treated as its address exactly then.
-/

import TokenTimer.Agent.VerifyHost

namespace TokenTimer.Agent.VerifyHost

open Lib.IpText

/-! ## §1. What an address is. -/

/-- `::`. -/
def ZERO : Groups := ⟨[0, 0, 0, 0, 0, 0, 0, 0], rfl⟩

/-- `::1`. -/
def ONE : Groups := ⟨[0, 0, 0, 0, 0, 0, 0, 1], rfl⟩

/-- `127.0.0.0/8` and `::1`. -/
def Loopback : Address → Prop
  | .v4 q => q.a = 127
  | .v6 g => g = ONE

/-- `0.0.0.0/8`, `169.254.0.0/16`, `224.0.0.0` and above; `::`, `fe80::/10` and
    `ff00::/8`. -/
def NeverProbed : Address → Prop
  | .v4 q => q.a = 0 ∨ (q.a = 169 ∧ q.b = 254) ∨ 224 ≤ q.a
  | .v6 g => g = ZERO ∨ g.first.val / 64 = 0xfe80 / 64 ∨ g.first.val / 256 = 0xff

structure TreatedAs (env : Env) (host : Text) (a : Address) : Prop where
  same : classifyVerifyHost env host = classifyVerifyHost env (canonical a)
  denied : NeverProbed a → ∀ config targetReference,
    checkVerifyHost env config (some host) targetReference ≠ .allowed
  loopback : Loopback a → ∀ config targetReference,
    checkVerifyHost env config (some host) targetReference = .allowed →
      allowlisted env config host = true

/-! ## §2. The spellings the tests know. -/

/-- The tests on the start of an IPv6 text. -/
def startsGuarded (t : Text) : Bool := startsLinkLocal t || startsMulticast t

/-- An IPv4 address that is not an ordinary one. -/
def SpecialQuad (q : Quad) : Prop := Loopback (.v4 q) ∨ NeverProbed (.v4 q)

/-- The texts whose address the literal tests find. -/
def PlainlySpelled (t : Text) : Address → Prop
  | .v4 q => SpecialQuad q → lowerText t = dotted q ∨ lowerText t = MAPPED ++ dotted q
  | .v6 g =>
    (g = ZERO → lowerText t ∈ UNSPECIFIED) ∧ (g = ONE → lowerText t ∈ LOOPBACK) ∧
      (startsGuarded (hexText g.first) = true → t.head? ≠ some '0')

def addressClass : Address → HostClass
  | .v4 q => classifyOctets q
  | .v6 g =>
    if g = ZERO then .denied
    else if g = ONE then .loopback
    else if startsGuarded (hexText g.first) then .denied
    else .ordinary

theorem classifyOctets_ordinary_iff (q : Quad) : .ordinary = classifyOctets q ↔ ¬ SpecialQuad q := by
  unfold classifyOctets SpecialQuad Loopback NeverProbed
  by_cases h127 : q.a = 127
  · simp [h127]
  · by_cases h0 : q.a = 0
    · simp [h0]
    · by_cases h169 : q.a = 169 ∧ q.b = 254
      · simp [h169]
      · by_cases h224 : 224 ≤ q.a
        · simp [h127, h0, h169, h224]
        · simp [h127, h0, h169, h224]

variable {a : Address} {g : Groups} {t : Text}

theorem addressClass_neverProbed (h : NeverProbed a) : addressClass a = .denied := by
  cases a with
  | v4 q =>
    unfold NeverProbed at h
    show classifyOctets q = _
    unfold classifyOctets
    rcases h with h | ⟨ha, hb⟩ | h
    · simp [h]
    · simp [ha, hb]
    · have h127 : q.a ≠ 127 := by
        intro he
        rw [he] at h
        exact absurd h (by decide)
      have h0 : q.a ≠ 0 := by
        intro he
        rw [he] at h
        exact absurd h (by decide)
      rw [if_neg h127, if_neg h0, if_pos h]
      split <;> rfl
  | v6 g =>
    have hguarded : g ≠ ZERO → startsGuarded (hexText g.first) = true := by
      intro hzero
      rcases h with h | h | h
      · exact absurd h hzero
      · have hfirst : g.first = Fin.ofNat 65536 (0xfe80 + (g.first.val - 0xfe80)) := by
          apply Fin.ext
          simp only [Fin.val_ofNat]
          omega
        have hlt : g.first.val - 0xfe80 < 64 := by omega
        have hall : ∀ k < 64, startsGuarded (hexText (Fin.ofNat 65536 (0xfe80 + k))) = true := by
          decide +kernel
        rw [hfirst]
        exact hall _ hlt
      · have hfirst : g.first = Fin.ofNat 65536 (0xff00 + (g.first.val - 0xff00)) := by
          apply Fin.ext
          simp only [Fin.val_ofNat]
          omega
        have hlt : g.first.val - 0xff00 < 256 := by omega
        have hall : ∀ k < 256, startsGuarded (hexText (Fin.ofNat 65536 (0xff00 + k))) = true := by
          decide +kernel
        rw [hfirst]
        exact hall _ hlt
    show (if g = ZERO then HostClass.denied else if g = ONE then .loopback
      else if startsGuarded (hexText g.first) then .denied else .ordinary) = .denied
    by_cases hzero : g = ZERO
    · rw [if_pos hzero]
    · have hone : g ≠ ONE := by
        rintro rfl
        exact absurd (hguarded hzero) (by decide +kernel)
      rw [if_neg hzero, if_neg hone, if_pos (hguarded hzero)]

theorem addressClass_loopback (h : Loopback a) : addressClass a = .loopback := by
  cases a with
  | v4 q => exact if_pos h
  | v6 g =>
    rw [show g = ONE from h]
    rfl

/-! ## §3. The start of a text. -/

/-- A start without a colon is a start of what stands before the first colon. -/
theorem isPrefixOf_append {start : Text} (hstart : ':' ∉ start) (p r : Text) :
    start.isPrefixOf (p ++ ':' :: r) = start.isPrefixOf p := by
  induction start generalizing p with
  | nil => cases p <;> rfl
  | cons c start ih =>
    have hc : c ≠ ':' := fun h => hstart (by rw [h]; simp)
    cases p with
    | nil => simp [List.isPrefixOf, hc]
    | cons x p =>
      simp only [List.cons_append, List.isPrefixOf]
      rw [ih (fun h => hstart (List.mem_cons_of_mem _ h))]

theorem startsGuarded_append (p r : Text) : startsGuarded (p ++ ':' :: r) = startsGuarded p := by
  unfold startsGuarded startsLinkLocal startsMulticast
  simp only [List.any_cons, List.any_nil]
  repeat rw [isPrefixOf_append (by decide)]

/-- What the tests see of an IPv6 text: the first group, unless it is padded. -/
theorem startsGuarded_text (h : parse6 t = some g) (hlower : lowerText t = t) :
    startsGuarded t = (startsGuarded (hexText g.first) && decide (t.head? ≠ some '0')) := by
  have hzero : startsGuarded (hexText 0) = false := by decide
  obtain ⟨p, r, hpr, -, hfirst⟩ := parse6_first h
  rw [hpr, startsGuarded_append]
  rcases hfirst with ⟨rfl, hfirst⟩ | hfirst
  · rw [hfirst, hzero]
    rfl
  · unfold hextet at hfirst
    split at hfirst
    case isFalse => cases hfirst
    case isTrue =>
    obtain ⟨n, hn, hbelow⟩ := Option.bind_eq_some_iff.mp hfirst
    obtain ⟨c, u, hcu⟩ := List.exists_cons_of_ne_nil (numeral_digit hn).1
    by_cases hpad : c = '0'
    · rw [hcu, hpad]
      simp [startsGuarded, startsLinkLocal, startsMulticast, List.isPrefixOf]
    · have htext : p = hexText g.first := by
        unfold hexText
        rw [← below_eq_some.mp hbelow]
        refine eq_toDigits (by decide) hn (fun x hx => ?_) (fun hhead => ?_)
        · have hmem : x ∈ t := by rw [hpr]; exact List.mem_append_left _ hx
          have hmap : t.map Char.toLower = t.map id := by rw [List.map_id]; exact hlower
          exact List.map_eq_map_iff.mp hmap x hmem
        · rw [hcu, List.head?_cons, Option.some.injEq] at hhead
          exact absurd hhead hpad
      rw [← htext, hcu]
      simp [hpad]

/-! ## §4. The class of a text. -/

theorem bareHost_spelling {host : Text} (ha : address t = some a)
    (hhost : host = t ∨ host = '[' :: t ++ [']']) : bareHost host = t := by
  unfold bareHost
  rcases hhost with rfl | rfl
  · rw [if_neg]
    rintro ⟨hhead, -⟩
    unfold address at ha
    split at ha
    case h_1 q hq =>
      rw [quad_eq_some_iff.mp hq] at hhead
      rcases mem_dotted (List.mem_of_mem_head? hhead) with h | ⟨n, hn⟩
      · cases h
      · exact not_mem_octetText rfl n hn
    case h_2 =>
      obtain ⟨g, hg, -⟩ := Option.map_eq_some_iff.mp ha
      obtain ⟨p, r, rfl, -, hfirst⟩ := parse6_first hg
      rcases hfirst with ⟨rfl, -⟩ | hfirst
      · cases hhead
      · unfold hextet at hfirst
        split at hfirst
        case isFalse => cases hfirst
        case isTrue =>
        obtain ⟨n, hn, -⟩ := Option.bind_eq_some_iff.mp hfirst
        obtain ⟨hne, hdigits⟩ := numeral_digit hn
        rw [List.head?_append_of_ne_nil _ hne] at hhead
        obtain ⟨d, hd, -⟩ := hdigits '[' (List.mem_of_mem_head? hhead)
        cases hd
  · have hlast : ('[' :: t ++ [']']).getLast? = some ']' := List.getLast?_concat
    rw [if_pos ⟨rfl, hlast⟩]
    simp

/-- The class of an IPv6 text that is not mapped in the form the source knows. -/
def textClass (t : Text) : HostClass :=
  if t ∈ UNSPECIFIED then .denied
  else if t ∈ LOOPBACK then .loopback
  else if startsGuarded t then .denied
  else .ordinary

section Spelled

variable (env : Env) {t host : Text} {a : Address} (ha : address t = some a)
  (hhost : host = t ∨ host = '[' :: t ++ [']'])
include ha hhost

theorem toLowerCase_bareHost : env.toLowerCase (bareHost host) = lowerText t := by
  rw [bareHost_spelling ha hhost, env.toLowerCase_ascii t (ascii_address ha)]

theorem classify_mapped {m : Text} (hm : mappedMatch (lowerText t) = some m) :
    classifyVerifyHost env host = addressClass a.unmapped ∧
      ∃ q, a.unmapped = .v4 q ∧ lowerText t = MAPPED ++ dotted q := by
  have hlow : address (lowerText t) = some a := by rw [address_lowerText]; exact ha
  obtain ⟨q, hmq, hq⟩ := mappedMatch_address hm hlow
  obtain ⟨htext, -, -⟩ := mappedMatch_eq_some hm
  refine ⟨?_, q, hq, by rw [htext, hmq]⟩
  obtain ⟨g, rfl⟩ : ∃ g, a = .v6 g := by
    cases a with
    | v6 g => exact ⟨g, rfl⟩
    | v4 q' =>
      have hcolon : ':' ∈ lowerText t := by rw [htext]; exact List.mem_append_left _ (by decide)
      unfold address at hlow
      rw [quad_eq_none hcolon] at hlow
      obtain ⟨g, -, hv⟩ := Option.map_eq_some_iff.mp hlow
      cases hv
  rw [hq]
  unfold classifyVerifyHost classifyWith
  simp only [toLowerCase_bareHost env ha hhost, hlow, hm]
  rw [hmq]
  exact classifyWith_dotted env _ q

theorem classify_unmapped {g : Groups} (hg : a = .v6 g) (hm : mappedMatch (lowerText t) = none) :
    classifyVerifyHost env host = textClass (lowerText t) := by
  have hlow : address (lowerText t) = some (.v6 g) := by rw [address_lowerText, ← hg]; exact ha
  unfold classifyVerifyHost classifyWith textClass startsGuarded
  simp only [toLowerCase_bareHost env ha hhost, hlow, hm, Bool.or_eq_true]
  split
  · rfl
  · split
    · rfl
    · split
      case isTrue hlink => rw [if_pos (.inl hlink)]
      case isFalse hlink =>
        split
        case isTrue hff => rw [if_pos (.inr hff)]
        case isFalse hff => rw [if_neg (not_or.mpr ⟨hlink, hff⟩)]

end Spelled

/-! ## §5. Which spellings are treated as their address. -/

theorem unspecified_address (h : t ∈ UNSPECIFIED) : address t = some (.v6 ZERO) := by
  revert t
  decide +kernel

theorem loopback_address (h : t ∈ LOOPBACK) : address t = some (.v6 ONE) := by
  revert t
  decide +kernel

theorem ZERO_ne_ONE : ZERO ≠ ONE := by decide

theorem textClass_eq_iff (hlow : address (lowerText t) = some (.v6 g)) :
    textClass (lowerText t) = addressClass (.v6 g) ↔ PlainlySpelled t (.v6 g) := by
  have hhead : (lowerText t).head? = some '0' ↔ t.head? = some '0' := by
    cases t with
    | nil => exact Iff.rfl
    | cons c t => simpa [lowerText] using toLower_eq_iff (s := '0') (by decide) c
  have hguard := startsGuarded_text (parse6_of_address hlow) (lowerText_idem t)
  have hU : lowerText t ∈ UNSPECIFIED → g = ZERO := by
    intro h
    rw [unspecified_address h, Option.some.injEq, Address.v6.injEq] at hlow
    exact hlow.symm
  have hL : lowerText t ∈ LOOPBACK → g = ONE := by
    intro h
    rw [loopback_address h, Option.some.injEq, Address.v6.injEq] at hlow
    exact hlow.symm
  show textClass (lowerText t) = (if g = ZERO then HostClass.denied else if g = ONE then .loopback
    else if startsGuarded (hexText g.first) then .denied else .ordinary) ↔ _ ∧ _ ∧ _
  unfold textClass
  rw [hguard]
  by_cases hzero : g = ZERO
  · -- The unspecified address: only its two known spellings are denied.
    have hfirst : startsGuarded (hexText g.first) = false := by rw [hzero]; decide
    have hone : g ≠ ONE := by rw [hzero]; exact ZERO_ne_ONE
    have hnl : lowerText t ∉ LOOPBACK := fun h => hone (hL h)
    rw [if_neg hnl, if_pos hzero, hfirst, Bool.false_and, if_neg Bool.false_ne_true]
    constructor
    · intro hclass
      refine ⟨fun _ => ?_, fun h => absurd h hone, fun h => absurd h Bool.false_ne_true⟩
      by_contra hnu
      rw [if_neg hnu] at hclass
      cases hclass
    · rintro ⟨hspelled, -, -⟩
      rw [if_pos (hspelled hzero)]
  · have hnu : lowerText t ∉ UNSPECIFIED := fun h => hzero (hU h)
    rw [if_neg hnu, if_neg hzero]
    by_cases hone : g = ONE
    · have hfirst : startsGuarded (hexText g.first) = false := by rw [hone]; decide
      rw [if_pos hone, hfirst, Bool.false_and, if_neg Bool.false_ne_true]
      constructor
      · intro hclass
        refine ⟨fun h => absurd h hzero, fun _ => ?_, fun h => absurd h Bool.false_ne_true⟩
        by_contra hnl
        rw [if_neg hnl] at hclass
        cases hclass
      · rintro ⟨-, hspelled, -⟩
        rw [if_pos (hspelled hone)]
    · have hnl : lowerText t ∉ LOOPBACK := fun h => hone (hL h)
      rw [if_neg hnl, if_neg hone]
      cases hfirst : startsGuarded (hexText g.first) with
      | false =>
        rw [Bool.false_and, if_neg Bool.false_ne_true]
        exact iff_of_true rfl ⟨fun h => absurd h hzero, fun h => absurd h hone,
          fun h => absurd h Bool.false_ne_true⟩
      | true =>
        -- A guarded first group: padding hides it.
        rw [Bool.true_and, if_pos rfl]
        by_cases hpad : t.head? = some '0'
        · rw [if_neg (by simp [hhead.mpr hpad])]
          refine iff_of_false (by decide) ?_
          rintro ⟨-, -, hspelled⟩
          exact hspelled rfl hpad
        · have hne : (lowerText t).head? ≠ some '0' := fun h => hpad (hhead.mp h)
          rw [if_pos (decide_eq_true hne)]
          exact iff_of_true rfl ⟨fun h => absurd h hzero, fun h => absurd h hone, fun _ => hpad⟩

theorem mapped_first {q : Quad} (h : g.mapped = some q) :
    g.first = 0 ∧ g ≠ ZERO ∧ g ≠ ONE := by
  refine ⟨?_, ?_, ?_⟩
  · unfold Groups.mapped at h
    split at h
    case h_1 x y hlist =>
      unfold Groups.first
      rw [hlist]
      rfl
    case h_2 => cases h
  · rintro rfl
    cases h
  · rintro rfl
    cases h

theorem lowerText_dotted (q : Quad) : lowerText (dotted q) = dotted q := by
  have hquad : quad (lowerText (dotted q)) = some q := by
    rw [quad_lowerText]
    exact quad_eq_some_iff.mpr rfl
  exact quad_eq_some_iff.mp hquad

theorem textClass_mapped {q : Quad} (hq : g.mapped = some q) (hlow : address t = some (.v6 g))
    (hlower : lowerText t = t) : textClass t = .ordinary := by
  obtain ⟨hfirst, hzero, hone⟩ := mapped_first hq
  have hnu : t ∉ UNSPECIFIED := by
    intro h
    rw [unspecified_address h, Option.some.injEq, Address.v6.injEq] at hlow
    exact hzero hlow.symm
  have hnl : t ∉ LOOPBACK := by
    intro h
    rw [loopback_address h, Option.some.injEq, Address.v6.injEq] at hlow
    exact hone hlow.symm
  unfold textClass
  rw [if_neg hnu, if_neg hnl, startsGuarded_text (parse6_of_address hlow) hlower, hfirst]
  rfl

/-- **THE CLASS OF THE ADDRESS IS GIVEN TO ITS PLAIN SPELLINGS**, and to no
    other. -/
theorem classify_eq_iff (env : Env) {host : Text} (ha : address t = some a)
    (hhost : host = t ∨ host = '[' :: t ++ [']']) :
    classifyVerifyHost env host = addressClass a.unmapped ↔ PlainlySpelled t a.unmapped := by
  have hlow : address (lowerText t) = some a := by rw [address_lowerText]; exact ha
  cases a with
  | v4 q =>
    have ht : t = dotted q := by
      unfold address at ha
      split at ha
      case h_1 q' hq =>
        rw [quad_eq_some_iff.mp hq, Address.v4.inj (Option.some.inj ha)]
      case h_2 =>
        obtain ⟨g, -, hv⟩ := Option.map_eq_some_iff.mp ha
        cases hv
    have hclass : classifyVerifyHost env host = classifyOctets q := by
      unfold classifyVerifyHost classifyWith
      simp only [toLowerCase_bareHost env ha hhost, hlow]
    exact iff_of_true hclass fun _ => .inl (by rw [ht, lowerText_dotted])
  | v6 g =>
    cases hm : mappedMatch (lowerText t) with
    | some m =>
      obtain ⟨hclass, q, hq, htext⟩ := classify_mapped env ha hhost hm
      refine iff_of_true hclass ?_
      rw [hq]
      exact fun _ => .inr htext
    | none =>
      rw [classify_unmapped env ha hhost rfl hm]
      cases hq : g.mapped with
      | none =>
        have hsame : (Address.v6 g).unmapped = .v6 g := by simp only [Address.unmapped, hq]
        rw [hsame]
        exact textClass_eq_iff hlow
      | some q =>
        -- A mapped address that the source does not recognise as one.
        have hquad : (Address.v6 g).unmapped = .v4 q := by simp only [Address.unmapped, hq]
        rw [hquad, textClass_mapped hq hlow (lowerText_idem t)]
        show .ordinary = classifyOctets q ↔ _
        rw [classifyOctets_ordinary_iff]
        constructor
        · intro hspecial h
          exact absurd h hspecial
        · intro hspelled hspecial
          rcases hspelled hspecial with h | h
          · rw [h, show dotted q = canonical (.v4 q) from rfl, address_canonical] at hlow
            cases hlow
          · rw [h, mappedMatch_dotted] at hm
            cases hm

theorem plainlySpelled_canonical (a : Address) : PlainlySpelled (canonical a) a := by
  cases a with
  | v4 q => exact fun _ => .inl (lowerText_dotted q)
  | v6 g =>
    refine ⟨?_, ?_, ?_⟩
    · rintro rfl
      decide +kernel
    · rintro rfl
      decide +kernel
    · intro hguarded hpad
      rw [canonical6_head hpad] at hguarded
      exact absurd hguarded (by decide)

theorem unmapped_unmapped (a : Address) : a.unmapped.unmapped = a.unmapped := by
  cases a with
  | v4 q => rfl
  | v6 g =>
    cases hq : g.mapped with
    | none | some => simp only [Address.unmapped, hq]

theorem classify_canonical (env : Env) (a : Address) :
    classifyVerifyHost env (canonical a.unmapped) = addressClass a.unmapped := by
  have hiff := classify_eq_iff env (address_canonical a.unmapped) (.inl rfl)
  rw [unmapped_unmapped] at hiff
  exact hiff.mpr (plainlySpelled_canonical a.unmapped)

/-- **A HOST IS TREATED AS ITS ADDRESS EXACTLY WHEN IT IS PLAINLY SPELLED.** -/
theorem spelling_safe_iff (env : Env) {t host : Text} {a : Address} (ha : address t = some a)
    (hhost : host = t ∨ host = '[' :: t ++ [']']) :
    TreatedAs env host a.unmapped ↔ PlainlySpelled t a.unmapped := by
  rw [← classify_eq_iff env ha hhost]
  constructor
  · intro h
    rw [h.same, classify_canonical]
  · intro hclass
    refine ⟨?_, ?_, ?_⟩
    · rw [hclass, classify_canonical]
    · intro hnever config targetReference
      exact checkVerifyHost_denied (hclass.trans (addressClass_neverProbed hnever)) config
        targetReference
    · intro hloop config targetReference hallowed
      exact checkVerifyHost_loopback (hclass.trans (addressClass_loopback hloop)) hallowed

def asciiEnv : Env := ⟨lowerText, fun _ _ => rfl⟩

/-- A padded and bracketed spelling of a link-local address in mixed case is
    treated as that address. -/
theorem spelling_safe_link_local :
    TreatedAs asciiEnv "[FE80::00a%eth0]".toList (.v6 ⟨[0xfe80, 0, 0, 0, 0, 0, 0, 0xa], rfl⟩) :=
  (spelling_safe_iff asciiEnv (a := .v6 ⟨[0xfe80, 0, 0, 0, 0, 0, 0, 0xa], rfl⟩)
    (t := "FE80::00a%eth0".toList) (by decide +kernel) (.inr rfl)).mpr (by
      refine ⟨?_, ?_, ?_⟩
      · intro h
        exact absurd h (by decide)
      · intro h
        exact absurd h (by decide)
      · intro _ h
        exact absurd h (by decide))

/-- **THE METADATA ADDRESS IN HEXADECIMAL**: `::ffff:a9fe:a9fe` is the mapping of
    `169.254.169.254`; with itself as the target reference and nothing listed it
    is allowed. -/
theorem metadata_address_allowed :
    address "::ffff:a9fe:a9fe".toList = address "::ffff:169.254.169.254".toList ∧
      classifyVerifyHost asciiEnv "169.254.169.254".toList = .denied ∧
      classifyVerifyHost asciiEnv "::ffff:169.254.169.254".toList = .denied ∧
      classifyVerifyHost asciiEnv "::ffff:a9fe:a9fe".toList = .ordinary ∧
      checkVerifyHost asciiEnv ⟨[]⟩ (some "::ffff:a9fe:a9fe".toList)
        (some "::ffff:a9fe:a9fe".toList) = .allowed ∧
      ¬ ∀ (env : Env) (t host : Text) (a : Address), address t = some a →
        (host = t ∨ host = '[' :: t ++ [']']) → TreatedAs env host a.unmapped := by
  have hparse : address "::ffff:a9fe:a9fe".toList =
      some (.v6 ⟨[0, 0, 0, 0, 0, 0xffff, 0xa9fe, 0xa9fe], rfl⟩) := by decide +kernel
  refine ⟨by decide +kernel, by decide +kernel, by decide +kernel, by decide +kernel,
    by decide +kernel, fun h => ?_⟩
  have hsafe := h asciiEnv _ _ _ hparse (.inl rfl)
  refine absurd (hsafe.denied (.inr (.inl (by decide +kernel))) ⟨[]⟩
    (some "::ffff:a9fe:a9fe".toList)) ?_
  exact not_not.mpr (by decide +kernel)

end TokenTimer.Agent.VerifyHost
