/-
  TokenTimer.Agent.VerifyHost — where a job may point the agent's probe.

  After a deployment the agent opens a TLS connection to the host a signed job
  names.  `classifyVerifyHost` sorts the host by its TEXT: some addresses are
  never probed, loopback only when the operator lists it, the rest when it is
  the job's own target or listed.  An IPv6 address has many texts, and the tests
  are literal.

  THE MODEL: `net.isIP` and `split(".").map(Number)` are `address` of the
  library; the class of an IPv4-mapped text is that of the text after the
  mapping, by a second call.

  Main results:
    * `mappedMatch_address` — a mapped text is the mapping of a dotted quad.
    * `classifyVerifyHost_unfold` — the function calls itself as the source does.
-/

import TokenTimer.Lib.IpText

namespace TokenTimer.Agent.VerifyHost

open Lib.IpText

/-! ## §1. The classes of hosts. -/

/-- `String.prototype.toLowerCase`; on ASCII texts it changes the letters. -/
structure Env where
  toLowerCase : Text → Text
  toLowerCase_ascii : ∀ t, Ascii t → toLowerCase t = lowerText t

/-- What `classifyVerifyHost` returns. -/
inductive HostClass
  | denied | loopback | ordinary
deriving DecidableEq, Repr

/-- URL-style brackets are stripped. -/
def bareHost (host : Text) : Text :=
  if host.head? = some '[' ∧ host.getLast? = some ']' then host.tail.dropLast else host

/-- The class of an IPv4 address. -/
def classifyOctets (octets : Quad) : HostClass :=
  if octets.a = 127 then .loopback
  else if octets.a = 0 then .denied
  else if octets.a = 169 ∧ octets.b = 254 then .denied
  else if 224 ≤ octets.a then .denied
  else .ordinary

def MAPPED : Text := "::ffff:".toList

/-- `/^::ffff:(\d+\.\d+\.\d+\.\d+)$/`. -/
def mappedMatch (lowered : Text) : Option Text :=
  if MAPPED.isPrefixOf lowered then
    match (lowered.drop MAPPED.length).splitOn '.' with
    | [a, b, c, d] =>
      if [a, b, c, d].all fun part => !part.isEmpty && part.all Char.isDigit then
        some (lowered.drop MAPPED.length)
      else none
    | _ => none
  else none

/-- `/^fe[89ab]/`. -/
def startsLinkLocal (lowered : Text) : Bool :=
  ["fe8".toList, "fe9".toList, "fea".toList, "feb".toList].any fun start => start.isPrefixOf lowered

/-- `startsWith("ff")`. -/
def startsMulticast (lowered : Text) : Bool := "ff".toList.isPrefixOf lowered

/-- The two spellings of the unspecified address that are known. -/
def UNSPECIFIED : List Text := ["::".toList, "0:0:0:0:0:0:0:0".toList]

/-- The two spellings of `::1` that are known. -/
def LOOPBACK : List Text := ["::1".toList, "0:0:0:0:0:0:0:1".toList]

/-- The body of `classifyVerifyHost`; `classify` is its call on a mapped address. -/
def classifyWith (env : Env) (classify : Text → HostClass) (host : Text) : HostClass :=
  let lowered := env.toLowerCase (bareHost host)
  match address lowered with
  | some (.v4 octets) => classifyOctets octets
  | some (.v6 _) =>
    match mappedMatch lowered with
    | some embedded => classify embedded
    | none =>
      if lowered ∈ UNSPECIFIED then .denied
      else if lowered ∈ LOOPBACK then .loopback
      else if startsLinkLocal lowered then .denied
      else if startsMulticast lowered then .denied
      else .ordinary
  | none =>
    if lowered = "localhost".toList ∨ ".localhost".toList.isSuffixOf lowered then .loopback
    else .ordinary

/-- `classifyVerifyHost`: the text after a mapping is not mapped again. -/
def classifyVerifyHost (env : Env) (host : Text) : HostClass :=
  classifyWith env (classifyWith env fun _ => .ordinary) host

/-! ## §2. The check. -/

/-- The part of the policy the check reads. -/
structure PolicyConfig where
  allowedVerifyHosts : List Text

/-- A verdict of the policy engine. -/
inductive Verdict
  | allowed
  | rejected (rejectionReason detail : String)
deriving DecidableEq, Repr

def TARGET_OUT_OF_SCOPE : String := "target_out_of_scope"

def reject (rejectionReason detail : String) : Verdict := .rejected rejectionReason detail

def isZoneCoveredBy (env : Env) (zone allowedZone : Text) : Bool :=
  let normalizedZone := env.toLowerCase zone
  let normalizedAllowed := env.toLowerCase allowedZone
  normalizedZone == normalizedAllowed || ('.' :: normalizedAllowed).isSuffixOf normalizedZone

/-- Some entry of `allowedVerifyHosts` covers the host. -/
def allowlisted (env : Env) (config : PolicyConfig) (host : Text) : Bool :=
  let loweredHost := env.toLowerCase host
  config.allowedVerifyHosts.any fun allowedHost =>
    let loweredAllowed := env.toLowerCase allowedHost
    loweredAllowed == loweredHost ||
      (version loweredAllowed == 0 && version loweredHost == 0 &&
        isZoneCoveredBy env loweredHost loweredAllowed)

/-- `String.length` of the source, in UTF-16 units. -/
def units (t : Text) : Nat := (t.map fun c => if c.toNat < 0x10000 then 1 else 2).sum

def isTarget (env : Env) (targetReference : Option Text) (host : Text) : Bool :=
  match targetReference with
  | some target => !target.isEmpty && env.toLowerCase target == env.toLowerCase host
  | none => false

/-- `checkVerifyHost`; `none` is a value that is no string. -/
def checkVerifyHost (env : Env) (config : PolicyConfig) (host targetReference : Option Text) :
    Verdict :=
  match host with
  | none => reject TARGET_OUT_OF_SCOPE
      "Verify destination host must be a non-empty string of at most 255 characters."
  | some host =>
    if host = [] ∨ 255 < units host then
      reject TARGET_OUT_OF_SCOPE
        "Verify destination host must be a non-empty string of at most 255 characters."
    else match classifyVerifyHost env host with
      | .denied => reject TARGET_OUT_OF_SCOPE ("Verify destination \"" ++ String.ofList host ++
          "\" is a link-local, unspecified, or multicast address and can never be probed " ++
          "(metadata-endpoint class destinations are always denied).")
      | .loopback =>
        if allowlisted env config host then .allowed
        else reject TARGET_OUT_OF_SCOPE ("Verify destination \"" ++ String.ofList host ++
          "\" is a loopback address, which is only probeable when explicitly present in " ++
          "allowedVerifyHosts.")
      | .ordinary =>
        if isTarget env targetReference host then .allowed
        else if allowlisted env config host then .allowed
        else reject TARGET_OUT_OF_SCOPE ("Verify destination \"" ++ String.ofList host ++
          "\" neither matches the job's target reference nor any allowedVerifyHosts entry.")

theorem checkVerifyHost_denied {env : Env} {host : Text} (h : classifyVerifyHost env host = .denied)
    (config : PolicyConfig) (targetReference : Option Text) :
    checkVerifyHost env config (some host) targetReference ≠ .allowed := by
  unfold checkVerifyHost
  simp only [h]
  split
  · exact Verdict.noConfusion
  · exact Verdict.noConfusion

theorem checkVerifyHost_loopback {env : Env} {host : Text}
    (h : classifyVerifyHost env host = .loopback) {config : PolicyConfig}
    {targetReference : Option Text}
    (hallowed : checkVerifyHost env config (some host) targetReference = .allowed) :
    allowlisted env config host = true := by
  unfold checkVerifyHost at hallowed
  simp only [h] at hallowed
  split at hallowed
  case isTrue => cases hallowed
  case isFalse =>
    split at hallowed
    case isTrue hlisted => exact hlisted
    case isFalse => cases hallowed

/-! ## §3. The mapping. -/

theorem mappedMatch_eq_some {t m : Text} (h : mappedMatch t = some m) :
    t = MAPPED ++ m ∧ '.' ∈ m ∧ ∀ c ∈ m, c = '.' ∨ c.isDigit = true := by
  unfold mappedMatch at h
  split at h
  case isFalse => cases h
  case isTrue hstart =>
  split at h
  case h_2 => cases h
  case h_1 a b c d hsplit =>
  split at h
  case isFalse => cases h
  case isTrue hdigits =>
  have hm := Option.some.inj h
  obtain ⟨r, hr⟩ := List.isPrefixOf_iff_prefix.mp hstart
  have hrm : r = m := by
    rw [← hm, ← hr, List.drop_left]
  have ht : t = MAPPED ++ m := by rw [← hr, hrm]
  rw [hm] at hsplit
  refine ⟨ht, ?_, ?_⟩
  · by_contra hdot
    rw [List.splitOn_eq_singleton hdot] at hsplit
    cases hsplit
  · intro x hx
    rcases mem_splitOn (s := '.') m hx with hdot | ⟨p, hp, hxp⟩
    · exact .inl hdot
    · rw [hsplit] at hp
      have hall := List.all_eq_true.mp hdigits p hp
      exact .inr (List.all_eq_true.mp (Bool.and_eq_true_iff.mp hall).2 x hxp)

theorem mappedMatch_dotted (q : Quad) : mappedMatch (MAPPED ++ dotted q) = some (dotted q) := by
  have hpart : ∀ n, (!(octetText n).isEmpty && (octetText n).all Char.isDigit) = true := by
    intro n
    rw [Bool.and_eq_true_iff, Bool.not_eq_true', List.isEmpty_eq_false_iff]
    exact ⟨Nat.toDigits_ne_nil, List.all_eq_true.mpr fun c hc =>
      Nat.isDigit_of_mem_toDigits (by decide) (by decide) hc⟩
  unfold mappedMatch
  rw [if_pos (List.isPrefixOf_iff_prefix.mpr ⟨_, rfl⟩), List.drop_left]
  rw [splitOn_dotted]
  simp only [List.all_cons, List.all_nil, hpart, Bool.and_self, if_true]

theorem hexLast_eq_none {p : Text} {c : Char} (hc : c ∈ p) (hvalue : digitValue c = none) :
    hexLast p = none := by
  cases h : hexLast p with
  | none => rfl
  | some gs =>
    obtain ⟨g, hg, -⟩ := Option.map_eq_some_iff.mp h
    unfold hextet at hg
    split at hg
    case isFalse => cases hg
    case isTrue =>
      obtain ⟨n, hn, -⟩ := Option.bind_eq_some_iff.mp hg
      obtain ⟨d, hd, -⟩ := (numeral_digit hn).2 c hc
      rw [hvalue] at hd
      cases hd

theorem mapped_groups {g : Groups} {q : Quad}
    (h : g.toList = [0, 0, 0, 0, 0, 0xffff] ++ q.groups) : g.mapped = some q := by
  obtain ⟨⟨a, ha⟩, ⟨b, hb⟩, ⟨c, hc⟩, ⟨d, hd⟩⟩ := q
  unfold Groups.mapped
  rw [h]
  simp only [Quad.groups, List.cons_append, List.nil_append, Fin.val_ofNat, Option.some.injEq,
    Quad.mk.injEq, Fin.ext_iff]
  omega

/-- **A MAPPED TEXT IS THE MAPPING OF A DOTTED QUAD.** -/
theorem mappedMatch_address {t m : Text} {a : Address} (hm : mappedMatch t = some m)
    (ha : address t = some a) : ∃ q, m = dotted q ∧ a.unmapped = .v4 q := by
  obtain ⟨ht, hdot, hchars⟩ := mappedMatch_eq_some hm
  have hfree : ∀ c : Char, c ≠ '.' → c.isDigit = false → c ∉ m := by
    intro c hne hdigit hmem
    rcases hchars c hmem with h | h
    · exact hne h
    · rw [hdigit] at h
      cases h
  have hcolon : ':' ∈ t := by rw [ht]; exact List.mem_append_left _ (by decide)
  have hpercent : ∀ c ∈ t, decide (c ≠ '%') = true := by
    intro c hc
    refine decide_eq_true ?_
    rintro rfl
    rw [ht] at hc
    rcases List.mem_append.mp hc with hc | hc
    · revert hc; decide
    · exact hfree '%' (by decide) (by decide) hc
  have hcut : cutDouble t = some ([], "ffff:".toList ++ m) := by
    rw [ht]
    rfl
  have hside : side quadLast ("ffff:".toList ++ m) = (quad m).map fun q => 0xffff :: q.groups := by
    have hsplit : ("ffff:".toList ++ m).splitOn ':' = ["ffff".toList, m] := by
      rw [show "ffff:".toList ++ m = "ffff".toList ++ ':' :: m from rfl,
        List.splitOn_append_cons_self_of_not_mem (by decide),
        List.splitOn_eq_singleton (hfree ':' (by decide) (by decide))]
    have hf : hextet "ffff".toList = some 0xffff := by decide
    unfold side
    rw [if_neg (by simp), hsplit, groupsWith, hf]
    simp only [Option.bind_eq_bind, Option.bind_some]
    show ((quadLast m).bind fun gs => some (0xffff :: gs)) = _
    unfold quadLast
    cases quad m with
    | some q => rfl
    | none => rw [hexLast_eq_none hdot rfl]; rfl
  unfold address at ha
  rw [quad_eq_none hcolon] at ha
  obtain ⟨g, hg, rfl⟩ := Option.map_eq_some_iff.mp ha
  unfold parse6 at hg
  rw [List.dropWhile_eq_nil_iff.mpr hpercent, List.takeWhile_eq_self_iff.mpr hpercent] at hg
  unfold groups6 at hg
  rw [hcut] at hg
  simp only [zone, if_true, Option.bind_eq_bind] at hg
  rw [hside, show side hexLast [] = some [] from rfl, Option.bind_some] at hg
  obtain ⟨gs, hgs, hexpand⟩ := Option.bind_eq_some_iff.mp hg
  obtain ⟨q, hq, rfl⟩ := Option.map_eq_some_iff.mp hgs
  refine ⟨q, quad_eq_some_iff.mp hq, ?_⟩
  have hlist : g.toList = [0, 0, 0, 0, 0, 0xffff] ++ q.groups := exactly_eq_some hexpand
  simp only [Address.unmapped, mapped_groups hlist]

/-! ## §4. The call on the text after a mapping. -/

theorem classifyWith_dotted (env : Env) (classify : Text → HostClass) (q : Quad) :
    classifyWith env classify (dotted q) = classifyOctets q := by
  have hbare : bareHost (dotted q) = dotted q := by
    unfold bareHost
    rw [if_neg]
    rintro ⟨hhead, -⟩
    rcases mem_dotted (List.mem_of_mem_head? hhead) with h | ⟨n, hn⟩
    · cases h
    · exact not_mem_octetText rfl n hn
  have hquad : address (lowerText (dotted q)) = some (.v4 q) := by
    rw [address_lowerText]
    exact address_canonical (.v4 q)
  unfold classifyWith
  simp only [hbare]
  rw [env.toLowerCase_ascii _ (ascii_dotted q), hquad]

/-- **THE SOURCE'S RECURSION**: the class of a host whose mapping is stripped is
    the class `classifyVerifyHost` gives to what is left. -/
theorem classifyVerifyHost_unfold (env : Env) (host : Text) :
    classifyVerifyHost env host = classifyWith env (classifyVerifyHost env) host := by
  show classifyWith env _ host = classifyWith env _ host
  unfold classifyWith
  simp only
  split
  case h_1 => rfl
  case h_3 => rfl
  case h_2 g hg =>
    split
    case h_2 => rfl
    case h_1 m hm =>
      obtain ⟨q, rfl, -⟩ := mappedMatch_address hm hg
      show classifyWith env _ (dotted q) = classifyWith env _ (dotted q)
      rw [classifyWith_dotted, classifyWith_dotted]

end TokenTimer.Agent.VerifyHost
