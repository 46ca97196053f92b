/-
  TokenTimer.Agent.CsrNames — does the request ask for the approved names?

  A certificate authority reads a request as DER: a version, a Name, an SPKI and
  the attributes, whose extension request lists the dNSNames as IA5Strings.
  `readRequest` is such a reader, written from the standard and not from the
  encoder.

  The lengths and the nesting come back right for every accepted input.  The
  texts do not: `Buffer.from(name, "ascii")` keeps eight bits of each code unit,
  so a name that is not ASCII is another name or no IA5String; and a lone
  surrogate of the subject becomes U+FFFD.

  Main results:
    * `readInfo_info` — what a reader finds in the info of an accepted input.
    * `csr_asks_iff` — two requests ask for what was given, and are told
        apart, exactly when their texts are plain.
-/

import TokenTimer.Agent.CsrEncode

namespace TokenTimer.Agent.Csr

open TokenTimer.Json Lib.Der Lib.Armor

/-! ## §1. A reader of requests. -/

/-- What a CertificationRequestInfo says; `altNames` is `none` without attributes. -/
structure RequestInfo where
  version : Nat
  subject : List (List Nat × JsString)
  spki : Bytes
  altNames : Option (List JsString)
deriving DecidableEq

def isPrintable (c : CodeUnit) : Bool :=
  (0x41 ≤ c.val && c.val ≤ 0x5A) || (0x61 ≤ c.val && c.val ≤ 0x7A) ||
    (0x30 ≤ c.val && c.val ≤ 0x39) || (js " '()+,-./:=?").contains c

def readText (tag : Byte) (value : Bytes) : Option JsString :=
  if tag = 0x0c then readUtf8 value
  else if tag = 0x13 then
    match readAscii value with
    | some s => if s.all isPrintable then some s else none
    | none => none
  else none

/-- One attribute of a Name. -/
def readRdn (element : Byte × Bytes) : Option (List Nat × JsString) :=
  if element.1 = 0x31 then do
    let attr ← whole 0x30 element.2
    let (oid, rest) ← readAs 0x06 attr
    let arcs ← readOid oid
    match readTlv rest with
    | some (tag, value, []) => (readText tag value).map fun text => (arcs, text)
    | _ => none
  else none

def readName (name : Bytes) : Option (List (List Nat × JsString)) :=
  (elements name).bind fun rdns => rdns.mapM readRdn

/-- A GeneralName that is a dNSName. -/
def readDnsName (element : Byte × Bytes) : Option JsString :=
  if element.1 = 0x82 then readAscii element.2 else none

/-- A value that follows an object identifier. -/
def afterOid (arcs : List Nat) (bs : Bytes) : Option Bytes :=
  match readAs 0x06 bs with
  | some (oid, rest) => if readOid oid = some arcs then some rest else none
  | none => none

def EXTENSION_REQUEST_ARCS : List Nat := [1, 2, 840, 113549, 1, 9, 14]
def SUBJECT_ALT_NAME_ARCS : List Nat := [2, 5, 29, 17]

/-- The names an attribute block asks for. -/
def readAttributes (attributes : Bytes) : Option (Option (List JsString)) :=
  if attributes = [] then some none
  else do
    let attr ← whole 0x30 attributes
    let values ← afterOid EXTENSION_REQUEST_ARCS attr
    let extensions ← (whole 0x31 values).bind (whole 0x30)
    let extension ← whole 0x30 extensions
    let octets ← afterOid SUBJECT_ALT_NAME_ARCS extension
    let names ← (whole 0x04 octets).bind (whole 0x30)
    let generalNames ← elements names
    let altNames ← generalNames.mapM readDnsName
    some (some altNames)

/-- A CertificationRequestInfo. -/
def readInfo (info : Bytes) : Option RequestInfo := do
  let body ← whole 0x30 info
  let (version, rest) ← readAs 0x02 body
  let (name, rest) ← readAs 0x30 rest
  let (spki, rest) ← readRaw rest
  let attributes ← whole 0xa0 rest
  let subject ← readName name
  let altNames ← readAttributes attributes
  some { version := bigEndian version, subject, spki, altNames }

/-- The CertificationRequestInfo inside a PEM. -/
def infoOf (csrPem : List Char) : Option Bytes := do
  let der ← unarmor BEGIN_REQUEST END_REQUEST csrPem
  let request ← whole 0x30 der
  let (info, _) ← readRaw request
  some info

def readRequest (csrPem : List Char) : Option RequestInfo := (infoOf csrPem).bind readInfo

/-! ## §2. What was given. -/

/-- The arcs of an object identifier. -/
def Oid.arcs (oid : Oid) : List Nat := oid.first :: oid.second :: oid.rest

def givenFields (subject : Subject) : List (DnField × JsString) :=
  DN_FIELD_ORDER.filterMap fun fieldName =>
    match subject fieldName with
    | .string value => some (fieldName, value)
    | _ => none

structure Asked where
  fields : List (DnField × JsString)
  spki : Bytes
  altNames : List JsString
deriving DecidableEq

/-- How a reader should find it. -/
def Asked.info (asked : Asked) : RequestInfo where
  version := 0
  subject := asked.fields.map fun (fieldName, value) => (fieldName.oid.arcs, value)
  spki := asked.spki
  altNames := if asked.altNames = [] then none else some asked.altNames

def Asked.encoded (asked : Asked) : Bytes :=
  certificationRequestInfo (derTlv 0x30 (asked.fields.flatMap fun field => derRdn field.1 field.2))
    asked.spki asked.altNames

def Input.asked (env : Env) (input : Input) : Option Asked :=
  match input.subject, env.createPrivateKey input.keyPath, input.altNames.bind stringNames with
  | some subject, .ok key, some altNames => some ⟨givenFields subject, key.spkiDer, altNames⟩
  | _, _, _ => none

/-- Every text survives its encoding: the names are ASCII, and no surrogate of the
    subject stands alone. -/
def Asked.Plain (asked : Asked) : Prop :=
  (∀ name ∈ asked.altNames, AsciiText name) ∧ ∀ field ∈ asked.fields, WellFormed field.2

/-- Two requests that ask for what was given, and do not coincide unless that does. -/
structure AskExactly (first second : Asked) (csr₁ csr₂ : GeneratedCsr) : Prop where
  first_read : readRequest csr₁.csrPem = some first.info
  second_read : readRequest csr₂.csrPem = some second.info
  apart : infoOf csr₁.csrPem = infoOf csr₂.csrPem → first = second

/-! ## §3. Readers on what the encoders write. -/

theorem readAs_derTlv {tag : Byte} {value : Bytes} (h : value.length < 2 ^ 32) (rest : Bytes) :
    readAs tag (derTlv tag value ++ rest) = some (value, rest) :=
  readAs_of_readTlv (readTlv_derTlv h rest)

theorem whole_derTlv {tag : Byte} {value : Bytes} (h : value.length < 2 ^ 32) :
    whole tag (derTlv tag value) = some value :=
  whole_of_readTlv (readTlv_derTlv_nil h)

theorem readOid_field (fieldName : DnField) : ∃ content, derOid fieldName.oid = derTlv 0x06 content ∧
    content.length < 2 ^ 32 ∧ readOid content = some fieldName.oid.arcs := by
  refine ⟨_, rfl, ?_⟩
  cases fieldName <;> decide +kernel

theorem afterOid_derOid {oid : Oid} {content : Bytes} (hoid : derOid oid = derTlv 0x06 content)
    (hlen : content.length < 2 ^ 32) {arcs : List Nat} (hread : readOid content = some arcs)
    (rest : Bytes) : afterOid arcs (derOid oid ++ rest) = some rest := by
  unfold afterOid
  rw [hoid, readAs_derTlv hlen]
  simp only [hread, if_true]

theorem toWellFormed_countryCode {s : JsString} (h : isCountryCode s = true) :
    toWellFormed s = s ∧ readText 0x13 (ascii s) = some s := by
  unfold isCountryCode at h
  obtain ⟨hlen, hall⟩ := Bool.and_eq_true_iff.mp h
  obtain ⟨a, b, rfl⟩ := List.length_eq_two.mp (beq_iff_eq.mp hlen)
  have hcap : ∀ c ∈ [a, b], 0x41 ≤ c.val ∧ c.val ≤ 0x5A := by
    intro c hc
    simpa using List.all_eq_true.mp hall c hc
  have ha := hcap a (by simp)
  have hb := hcap b (by simp)
  have hsur : ∀ c : CodeUnit, c.val ≤ 0x5A → isLeadSurrogate c = false ∧ isSurrogate c = false := by
    intro c hc
    simp only [isSurrogate, isLeadSurrogate, isTrailSurrogate, Bool.or_eq_false_iff,
      Bool.and_eq_false_iff, decide_eq_false_iff_not]
    omega
  refine ⟨?_, ?_⟩
  · simp [toWellFormed, (hsur a ha.2).1, (hsur a ha.2).2, (hsur b hb.2).2]
  · have hascii : readAscii (ascii [a, b]) = some [a, b] := by
      refine (readAscii_ascii_iff _).mpr fun c hc => ?_
      have := hcap c hc
      omega
    have hprint : ([a, b].all isPrintable) = true := by
      refine List.all_eq_true.mpr fun c hc => ?_
      have := hcap c hc
      simp [isPrintable, this]
    unfold readText
    rw [if_neg (by decide), if_pos rfl, hascii]
    simp only [hprint, if_true]

def rdnContent (fieldName : DnField) (value : JsString) : Bytes :=
  derSequence [derOid fieldName.oid,
    if fieldName = .country then derPrintableString value else derUtf8String value]

theorem derRdn_eq (fieldName : DnField) (value : JsString) :
    derRdn fieldName value = derTlv 0x31 (rdnContent fieldName value) := by
  unfold derRdn derSet rdnContent
  simp only [List.flatten_cons, List.flatten_nil, List.append_nil]

/-- A reader finds the field and its text, with lone surrogates replaced. -/
theorem readRdn_derRdn {fieldName : DnField} {value : JsString}
    (hcountry : fieldName = .country → isCountryCode value = true)
    (hlen : (rdnContent fieldName value).length < 2 ^ 32) :
    readRdn (0x31, rdnContent fieldName value) = some (fieldName.oid.arcs, toWellFormed value) := by
  obtain ⟨content, hoid, hcontent, hread⟩ := readOid_field fieldName
  -- The value is one TLV, and its text is read back.
  obtain ⟨tag, bytes, hvalue, htext⟩ : ∃ tag bytes,
      (if fieldName = .country then derPrintableString value else derUtf8String value) =
        derTlv tag bytes ∧ readText tag bytes = some (toWellFormed value) := by
    by_cases hc : fieldName = .country
    · obtain ⟨hwell, htext⟩ := toWellFormed_countryCode (hcountry hc)
      exact ⟨0x13, ascii value, if_pos hc, by rw [htext, hwell]⟩
    · exact ⟨0x0c, utf8 value, if_neg hc, by unfold readText; rw [if_pos rfl, readUtf8_utf8]⟩
  have hseq : rdnContent fieldName value = derTlv 0x30 (derOid fieldName.oid ++ derTlv tag bytes) := by
    unfold rdnContent derSequence
    rw [hvalue]
    simp
  rw [hseq] at hlen
  have hbody := length_derTlv 0x30 (derOid fieldName.oid ++ derTlv tag bytes)
  have hbytes := length_derTlv tag bytes
  rw [List.length_append] at hbody
  have hlast : readTlv (derTlv tag bytes) = some (tag, bytes, []) := readTlv_derTlv_nil (by omega)
  unfold readRdn
  rw [if_pos rfl, hseq, whole_derTlv (by rw [List.length_append]; omega), hoid]
  simp only [Option.bind_eq_bind, Option.bind_some, readAs_derTlv hcontent, hread, hlast, htext,
    Option.map_some]

theorem readName_rdns {fields : List (DnField × JsString)}
    (hcountry : ∀ field ∈ fields, field.1 = .country → isCountryCode field.2 = true)
    (hlen : (fields.flatMap fun field => derRdn field.1 field.2).length < 2 ^ 32) :
    readName (fields.flatMap fun field => derRdn field.1 field.2) =
      some (fields.map fun field => (field.1.oid.arcs, toWellFormed field.2)) := by
  have hcontent : ∀ field ∈ fields, (rdnContent field.1 field.2).length < 2 ^ 32 := by
    intro field hfield
    have hsub := (List.sublist_flatten_of_mem (List.mem_map_of_mem
      (f := fun field : DnField × JsString => derRdn field.1 field.2) hfield)).length_le
    rw [← List.flatMap_def, derRdn_eq] at hsub
    have htlv := length_derTlv 0x31 (rdnContent field.1 field.2)
    omega
  have helements := elements_flatMap (fun field : DnField × JsString => derRdn field.1 field.2)
    (fun field => (0x31, rdnContent field.1 field.2)) fields (by
      intro field hfield
      rw [derRdn_eq]
      exact readTlv_derTlv_nil (hcontent field hfield))
  unfold readName
  rw [helements, Option.bind_some]
  clear helements hlen
  induction fields with
  | nil => rfl
  | cons field fields ih =>
    rw [List.map_cons, List.mapM_cons, readRdn_derRdn (hcountry field List.mem_cons_self)
      (hcontent field List.mem_cons_self), ih (fun f hf => hcountry f (List.mem_cons_of_mem _ hf))
      (fun f hf => hcontent f (List.mem_cons_of_mem _ hf))]
    rfl

/-- The names a reader finds: each is IA5 or there are none. -/
def readNames (altNames : List JsString) : Option (Option (List JsString)) :=
  if altNames = [] then some none else (altNames.mapM fun name => readAscii (ascii name)).map some

/-- The dNSNames one after the other. -/
theorem readDnsNames (altNames : List JsString)
    (hlen : (altNames.flatMap fun name => derTlv 0x82 (ascii name)).length < 2 ^ 32) :
    (elements (altNames.flatMap fun name => derTlv 0x82 (ascii name))).bind
        (fun generalNames => generalNames.mapM readDnsName) =
      altNames.mapM fun name => readAscii (ascii name) := by
  have hcontent : ∀ name ∈ altNames, (ascii name).length < 2 ^ 32 := by
    intro name hname
    have hsub := (List.sublist_flatten_of_mem (List.mem_map_of_mem
      (f := fun name : JsString => derTlv 0x82 (ascii name)) hname)).length_le
    rw [← List.flatMap_def] at hsub
    have htlv := length_derTlv 0x82 (ascii name)
    omega
  have helements := elements_flatMap (fun name : JsString => derTlv 0x82 (ascii name))
    (fun name => (0x82, ascii name)) altNames
    (fun name hname => readTlv_derTlv_nil (hcontent name hname))
  rw [helements, Option.bind_some, List.mapM_map]
  rfl

theorem readAttributes_names (altNames : List JsString)
    (hlen : (derCsrAttributes altNames).length < 2 ^ 32) :
    ∃ content, derCsrAttributes altNames = derTlv 0xa0 content ∧ content.length < 2 ^ 32 ∧
      readAttributes content = readNames altNames := by
  by_cases hnil : altNames = []
  · subst hnil
    exact ⟨[], rfl, by decide, rfl⟩
  · have hnonempty : altNames.length ≠ 0 := fun h => hnil (List.length_eq_zero_iff.mp h)
    -- The blocks from the inside out.
    obtain ⟨names, hnames⟩ : ∃ names, names = altNames.flatMap fun name => derTlv 0x82 (ascii name) :=
      ⟨_, rfl⟩
    obtain ⟨extension, hextension⟩ : ∃ extension, extension =
        derOid OID_SUBJECT_ALT_NAME ++ derTlv 0x04 (derTlv 0x30 names) := ⟨_, rfl⟩
    obtain ⟨attr, hattr⟩ : ∃ attr, attr = derOid OID_EXTENSION_REQUEST ++
        derTlv 0x31 (derTlv 0x30 (derTlv 0x30 extension)) := ⟨_, rfl⟩
    have hblock : derCsrAttributes altNames = derTlv 0xa0 (derTlv 0x30 attr) := by
      unfold derCsrAttributes
      rw [if_neg hnonempty]
      simp only [derContextConstructed, derSequence, derSet, derOctetString, derSubjectAltNameValue,
        List.flatten_cons, List.flatten_nil, List.append_nil]
      rw [hattr, hextension, hnames, List.flatMap_def]
      rfl
    rw [hblock] at hlen
    have h1 := length_derTlv 0xa0 (derTlv 0x30 attr)
    have h2 := length_derTlv 0x30 attr
    have h3 := length_derTlv 0x31 (derTlv 0x30 (derTlv 0x30 extension))
    have h4 := length_derTlv 0x30 (derTlv 0x30 extension)
    have h5 := length_derTlv 0x30 extension
    have h6 := length_derTlv 0x04 (derTlv 0x30 names)
    have h7 := length_derTlv 0x30 names
    have hattrLen := congrArg List.length hattr
    have hextensionLen := congrArg List.length hextension
    rw [List.length_append] at hattrLen hextensionLen
    have hrequest : ∀ rest, afterOid EXTENSION_REQUEST_ARCS (derOid OID_EXTENSION_REQUEST ++ rest) =
        some rest := afterOid_derOid rfl (by decide +kernel) (by decide +kernel)
    have hsan : ∀ rest, afterOid SUBJECT_ALT_NAME_ARCS (derOid OID_SUBJECT_ALT_NAME ++ rest) =
        some rest := afterOid_derOid rfl (by decide +kernel) (by decide +kernel)
    have hread := readDnsNames altNames (by rw [← hnames]; omega)
    rw [← hnames] at hread
    refine ⟨_, hblock, by omega, ?_⟩
    unfold readAttributes
    rw [if_neg (by simp [derTlv]), whole_derTlv (by omega)]
    simp only [Option.bind_eq_bind, Option.bind_some]
    rw [hattr, hrequest, Option.bind_some, whole_derTlv (by omega), Option.bind_some,
      whole_derTlv (by omega), Option.bind_some, whole_derTlv (by omega), Option.bind_some,
      hextension, hsan, Option.bind_some, whole_derTlv (by omega), Option.bind_some,
      whole_derTlv (by omega), Option.bind_some]
    unfold readNames
    rw [if_neg hnil, ← hread]
    cases elements names with
    | none => rfl
    | some generalNames =>
      simp only [Option.bind_some]
      cases generalNames.mapM readDnsName <;> rfl

/-! ## §4. What a reader finds. -/

theorem derRdns_ok {subject : Subject} (fieldNames : List DnField) :
    ∀ rdns, derRdns subject fieldNames = .ok rdns →
      rdns = (fieldNames.filterMap fun fieldName =>
        match subject fieldName with
        | .string value => some (fieldName, value)
        | _ => none).map fun field => derRdn field.1 field.2 := by
  induction fieldNames with
  | nil =>
    intro rdns h
    exact (Except.ok.inj h).symm
  | cons fieldName fieldNames ih =>
    intro rdns h
    rw [derRdns] at h
    rw [List.filterMap_cons]
    split at h
    case h_1 hvalue =>
      rw [hvalue]
      exact ih rdns h
    case h_2 hvalue =>
      rw [hvalue]
      exact ih rdns h
    case h_3 value hvalue =>
      split at h
      case isTrue => cases h
      case isFalse =>
        obtain ⟨more, hmore, h⟩ := bind_ok.mp h
        rw [hvalue, ← Except.ok.inj h, ih more hmore]
        rfl
    case h_4 => cases h

theorem derSubjectName_ok {subject : Option Subject} {name : Bytes}
    (h : derSubjectName subject = .ok name) :
    ∃ s, subject = some s ∧
      name = derTlv 0x30 ((givenFields s).flatMap fun field => derRdn field.1 field.2) ∧
      ∀ field ∈ givenFields s, field.1 = .country → isCountryCode field.2 = true := by
  cases subject with
  | none => cases h
  | some s =>
    have hrdns : (derRdns s DN_FIELD_ORDER).map derSequence = .ok name →
        name = derTlv 0x30 ((givenFields s).flatMap fun field => derRdn field.1 field.2) := by
      intro hmap
      cases hr : derRdns s DN_FIELD_ORDER with
      | error e =>
        rw [hr] at hmap
        cases hmap
      | ok rdns =>
        rw [hr] at hmap
        rw [← Except.ok.inj hmap, derRdns_ok _ rdns hr]
        unfold derSequence givenFields
        rw [List.flatMap_def]
    have hcountry : ∀ field ∈ givenFields s, field.1 = .country → s .country = .string field.2 := by
      intro field hfield hname
      obtain ⟨fieldName, -, hgiven⟩ := List.mem_filterMap.mp hfield
      split at hgiven
      case h_1 value hvalue =>
        rw [← Option.some.inj hgiven] at hname ⊢
        rw [← hvalue]
        exact congrArg s hname.symm
      case h_2 => cases hgiven
    unfold derSubjectName at h
    simp only at h
    split at h
    case h_2 => cases h
    case h_1 =>
      split at h
      case h_1 hundefined =>
        refine ⟨s, rfl, hrdns h, fun field hfield hname => ?_⟩
        rw [hcountry field hfield hname] at hundefined
        cases hundefined
      case h_2 country hstring =>
        split at h
        case isFalse => cases h
        case isTrue hcode =>
          refine ⟨s, rfl, hrdns h, fun field hfield hname => ?_⟩
          rw [hcountry field hfield hname, Given.string.injEq] at hstring
          rw [hstring]
          exact hcode
      case h_3 => cases h

/-- **WHAT A READER FINDS**: version 0, the fields with their lone surrogates
    replaced, the SPKI, and the names when they are IA5. -/
theorem readInfo_info {fields : List (DnField × JsString)} {spki : Bytes} {altNames : List JsString}
    (hspki : ∃ content, readTlv spki = some (0x30, content, []))
    (hcountry : ∀ field ∈ fields, field.1 = .country → isCountryCode field.2 = true)
    (hlen : (certificationRequestInfo
      (derTlv 0x30 (fields.flatMap fun field => derRdn field.1 field.2)) spki altNames).length < 2 ^ 32) :
    readInfo (certificationRequestInfo
        (derTlv 0x30 (fields.flatMap fun field => derRdn field.1 field.2)) spki altNames) =
      (readNames altNames).map fun altNames =>
        { version := 0, subject := fields.map fun field => (field.1.oid.arcs, toWellFormed field.2),
          spki, altNames } := by
  obtain ⟨rdns, hrdns⟩ : ∃ rdns, rdns = fields.flatMap fun field => derRdn field.1 field.2 :=
    ⟨_, rfl⟩
  obtain ⟨content, hspki⟩ := hspki
  have hinfo : certificationRequestInfo (derTlv 0x30 rdns) spki altNames = derTlv 0x30
      (derTlv 0x02 [0x00] ++ (derTlv 0x30 rdns ++ (spki ++ derCsrAttributes altNames))) := by
    unfold certificationRequestInfo derSequence
    simp only [List.flatten_cons, List.flatten_nil, List.append_nil]
    rfl
  rw [← hrdns] at hlen ⊢
  rw [hinfo] at hlen ⊢
  have houter := length_derTlv 0x30
    (derTlv 0x02 [0x00] ++ (derTlv 0x30 rdns ++ (spki ++ derCsrAttributes altNames)))
  have hinner := length_derTlv 0x30 rdns
  simp only [List.length_append] at houter
  obtain ⟨attributes, hattributes, hattrLen, hattrRead⟩ :=
    readAttributes_names altNames (by omega)
  have hname := readName_rdns hcountry (by rw [← hrdns]; omega)
  rw [← hrdns] at hname
  unfold readInfo
  rw [whole_derTlv (by simp only [List.length_append]; omega)]
  simp only [Option.bind_eq_bind, Option.bind_some]
  rw [readAs_derTlv (by decide), Option.bind_some]
  simp only
  rw [readAs_derTlv (by omega), Option.bind_some]
  simp only
  rw [readRaw_append hspki, Option.bind_some]
  simp only
  rw [hattributes, whole_derTlv hattrLen, Option.bind_some, hname, Option.bind_some, hattrRead]
  cases readNames altNames <;> rfl

theorem generateCsr_info {env : Env} {input : Input} {csr : GeneratedCsr} {asked : Asked}
    (h : generateCsr env input = .ok csr) (hasked : input.asked env = some asked) :
    infoOf csr.csrPem = some asked.encoded ∧
      readRequest csr.csrPem = (readNames asked.altNames).map fun altNames =>
        { version := 0,
          subject := asked.fields.map fun field => (field.1.oid.arcs, toWellFormed field.2),
          spki := asked.spki, altNames } := by
  obtain ⟨altNames, name, key, alg, hash, hnames, hsubject, hkey, -, hpem⟩ := generateCsr_ok h
  obtain ⟨subject, hs, rfl, hcountry⟩ := derSubjectName_ok hsubject
  unfold Input.asked at hasked
  rw [hs, hkey, hnames] at hasked
  obtain rfl := Option.some.inj hasked
  obtain ⟨hunarmor, hlen⟩ := derToPem_ok hpem
  obtain ⟨info, hinfo⟩ : ∃ info, info = certificationRequestInfo
      (derTlv 0x30 ((givenFields subject).flatMap fun field => derRdn field.1 field.2))
      key.spkiDer altNames := ⟨_, rfl⟩
  rw [← hinfo] at hunarmor hlen
  -- The request is one sequence, whose first value is the info.
  obtain ⟨rest, hder⟩ : ∃ rest, derSequence [info, alg, derBitString (env.sign hash info key)] =
      derTlv 0x30 (info ++ rest) :=
    ⟨alg ++ derBitString (env.sign hash info key), by simp [derSequence]⟩
  rw [hder] at hunarmor hlen
  have hbody := length_derTlv 0x30 (info ++ rest)
  rw [List.length_append] at hbody
  have hinfoLen : info.length < 2 ^ 32 := by omega
  obtain ⟨body, hsequence⟩ : ∃ body, info = derTlv 0x30 body := ⟨_, hinfo⟩
  have hread : readTlv info = some (0x30, body, []) := by
    rw [hsequence]
    refine readTlv_derTlv_nil ?_
    have hbodyLen := length_derTlv 0x30 body
    rw [← hsequence] at hbodyLen
    omega
  have hinfoOf : infoOf csr.csrPem = some info := by
    unfold infoOf
    rw [hunarmor]
    simp only [Option.bind_eq_bind, Option.bind_some]
    rw [whole_derTlv (by rw [List.length_append]; omega), Option.bind_some, readRaw_append hread]
    rfl
  refine ⟨by rw [hinfoOf, hinfo]; rfl, ?_⟩
  unfold readRequest
  rw [hinfoOf, Option.bind_some, hinfo]
  exact readInfo_info key.spki_sequence hcountry (by rw [← hinfo]; exact hinfoLen)

/-! ## §5. Which requests ask for what was given. -/

/-- A list is read as itself exactly when each element is. -/
theorem mapM_eq_self_iff {α : Type} (f : α → Option α) (l : List α) :
    l.mapM f = some l ↔ ∀ a ∈ l, f a = some a := by
  induction l with
  | nil => simp
  | cons a l ih =>
    rw [List.mapM_cons, List.forall_mem_cons, ← ih]
    constructor
    · intro h
      obtain ⟨b, hb, h⟩ := Option.bind_eq_some_iff.mp h
      obtain ⟨bs, hbs, h⟩ := Option.bind_eq_some_iff.mp h
      obtain ⟨rfl, rfl⟩ := List.cons.inj (Option.some.inj h)
      exact ⟨hb, hbs⟩
    · rintro ⟨ha, hl⟩
      rw [ha, hl]
      rfl

theorem read_iff_plain (asked : Asked) :
    ((readNames asked.altNames).map fun altNames =>
        ({ version := 0,
           subject := asked.fields.map fun field => (field.1.oid.arcs, toWellFormed field.2),
           spki := asked.spki, altNames } : RequestInfo)) = some asked.info ↔ asked.Plain := by
  have hnames : (readNames asked.altNames =
      some (if asked.altNames = [] then none else some asked.altNames)) ↔
        ∀ name ∈ asked.altNames, AsciiText name := by
    unfold readNames
    by_cases hnil : asked.altNames = []
    · rw [if_pos hnil, if_pos hnil, hnil]
      simp
    · rw [if_neg hnil, if_neg hnil, Option.map_eq_some_iff]
      simp only [Option.some.injEq, exists_eq_right]
      rw [mapM_eq_self_iff]
      simp only [readAscii_ascii_iff]
  have hfields : asked.fields.map (fun field => (field.1.oid.arcs, toWellFormed field.2)) =
      asked.fields.map (fun (fieldName, value) => (fieldName.oid.arcs, value)) ↔
        ∀ field ∈ asked.fields, WellFormed field.2 := by
    rw [List.map_eq_map_iff]
    simp only [Prod.mk.injEq, true_and]
    rfl
  unfold Asked.Plain
  rw [← hnames, ← hfields]
  unfold Asked.info
  constructor
  · intro h
    obtain ⟨found, hfound, hinfo⟩ := Option.map_eq_some_iff.mp h
    injection hinfo with _ hsubject _ haltNames
    exact ⟨by rw [hfound, haltNames], hsubject⟩
  · rintro ⟨hfound, hsubject⟩
    rw [hfound, Option.map_some, hsubject]

/-- The identifiers tell the fields apart. -/
theorem arcs_injective (f g : DnField) (h : f.oid.arcs = g.oid.arcs) : f = g := by
  revert h
  cases f <;> cases g <;> decide

/-- What a reader should find determines what was given. -/
theorem info_injective {first second : Asked} (h : first.info = second.info) : first = second := by
  obtain ⟨fields₁, spki₁, names₁⟩ := first
  obtain ⟨fields₂, spki₂, names₂⟩ := second
  unfold Asked.info at h
  injection h with _ hsubject hspki hnames
  have hinjective : Function.Injective
      (fun field : DnField × JsString => (field.1.oid.arcs, field.2)) := by
    rintro ⟨f, u⟩ ⟨g, v⟩ heq
    obtain ⟨harcs, rfl⟩ := Prod.mk.inj heq
    rw [arcs_injective f g harcs]
  have hfields : fields₁ = fields₂ := List.map_injective_iff.mpr hinjective hsubject
  have hlist : names₁ = names₂ := by
    simp only at hnames
    by_cases h₁ : names₁ = []
    · by_cases h₂ : names₂ = []
      · rw [h₁, h₂]
      · rw [if_pos h₁, if_neg h₂] at hnames
        cases hnames
    · by_cases h₂ : names₂ = []
      · rw [if_neg h₁, if_pos h₂] at hnames
        cases hnames
      · rw [if_neg h₁, if_neg h₂] at hnames
        exact Option.some.inj hnames
  rw [hfields, hlist, show spki₁ = spki₂ from hspki]

/-- **REQUESTS ASK FOR WHAT WAS GIVEN EXACTLY WHEN THE TEXTS ARE PLAIN**: of two
    accepted inputs, both are read as what they give and have different infos
    when that differs, if and only if every name is ASCII and no surrogate of a
    subject stands alone. -/
theorem csr_asks_iff (env : Env) {input₁ input₂ : Input} {csr₁ csr₂ : GeneratedCsr}
    {first second : Asked} (h₁ : generateCsr env input₁ = .ok csr₁)
    (h₂ : generateCsr env input₂ = .ok csr₂) (ha₁ : input₁.asked env = some first)
    (ha₂ : input₂.asked env = some second) :
    AskExactly first second csr₁ csr₂ ↔ first.Plain ∧ second.Plain := by
  obtain ⟨hinfo₁, hread₁⟩ := generateCsr_info h₁ ha₁
  obtain ⟨hinfo₂, hread₂⟩ := generateCsr_info h₂ ha₂
  constructor
  · intro h
    have hfirst := h.first_read
    have hsecond := h.second_read
    rw [hread₁] at hfirst
    rw [hread₂] at hsecond
    exact ⟨(read_iff_plain first).mp hfirst, (read_iff_plain second).mp hsecond⟩
  · rintro ⟨hplain₁, hplain₂⟩
    have hfirst := hread₁.trans ((read_iff_plain first).mpr hplain₁)
    have hsecond := hread₂.trans ((read_iff_plain second).mpr hplain₂)
    refine ⟨hfirst, hsecond, fun hsame => info_injective ?_⟩
    -- Equal infos are read alike.
    have hread : readRequest csr₁.csrPem = readRequest csr₂.csrPem := by
      unfold readRequest
      rw [hsame]
    rw [hfirst, hsecond] at hread
    exact Option.some.inj hread

/-! ## §6. Two names, one request. -/

/-- An RSA key whose SPKI is the empty sequence, and no signature. -/
def sampleEnv : Env where
  createPrivateKey _ := .ok ⟨.rsa, [0x30, 0x00], [], [], by decide⟩
  sign _ _ _ := []
  hasPrivateKeyMaterial _ := false

def sampleInput (altName : JsString) : Input where
  keyPath := js "/etc/agent/key.pem"
  subject := some fun fieldName => if fieldName = .commonName then .string (js "a.example") else .undefined
  altNames := some [.string altName]

def sampleAsked (altName : JsString) : Asked :=
  ⟨[(.commonName, js "a.example")], [0x30, 0x00], [altName]⟩

theorem exists_ok {α : Type} {x : Except String α} (h : x.isOk = true) : ∃ a, x = .ok a := by
  cases x with
  | error e => cases h
  | ok a => exact ⟨a, rfl⟩

/-- Requests for two ASCII names. -/
theorem csr_asks_sample : ∃ csr₁ csr₂,
    generateCsr sampleEnv (sampleInput (js "a.example")) = .ok csr₁ ∧
      generateCsr sampleEnv (sampleInput (js "b.example")) = .ok csr₂ ∧
      AskExactly (sampleAsked (js "a.example")) (sampleAsked (js "b.example")) csr₁ csr₂ := by
  obtain ⟨csr₁, h₁⟩ := exists_ok (x := generateCsr sampleEnv (sampleInput (js "a.example")))
    (by decide +kernel)
  obtain ⟨csr₂, h₂⟩ := exists_ok (x := generateCsr sampleEnv (sampleInput (js "b.example")))
    (by decide +kernel)
  refine ⟨csr₁, csr₂, h₁, h₂, (csr_asks_iff sampleEnv h₁ h₂ (by decide +kernel) (by decide +kernel)).mpr
    ⟨⟨?_, ?_⟩, ⟨?_, ?_⟩⟩⟩ <;> decide +kernel

/-- **ANOTHER NAME IS ASKED FOR**: the alternative name `Ła.example` is accepted,
    the request asks for `Aa.example`, and its info is that of a request for
    `Aa.example`. -/
theorem csr_asks_for_another_name :
    (generateCsr sampleEnv (sampleInput (js "Ła.example"))).isOk = true ∧
      (∀ csr, generateCsr sampleEnv (sampleInput (js "Ła.example")) = .ok csr →
        readRequest csr.csrPem = some (sampleAsked (js "Aa.example")).info ∧
          infoOf csr.csrPem = some (sampleAsked (js "Aa.example")).encoded) ∧
      ¬ ∀ (env : Env) (input₁ input₂ : Input) (csr₁ csr₂ : GeneratedCsr) (first second : Asked),
        generateCsr env input₁ = .ok csr₁ → generateCsr env input₂ = .ok csr₂ →
          input₁.asked env = some first → input₂.asked env = some second →
            AskExactly first second csr₁ csr₂ := by
  have hok : (generateCsr sampleEnv (sampleInput (js "Ła.example"))).isOk = true := by decide +kernel
  have hasked : (sampleInput (js "Ła.example")).asked sampleEnv = some (sampleAsked (js "Ła.example")) := by
    decide +kernel
  have hread : ∀ csr, generateCsr sampleEnv (sampleInput (js "Ła.example")) = .ok csr →
      readRequest csr.csrPem = some (sampleAsked (js "Aa.example")).info ∧
        infoOf csr.csrPem = some (sampleAsked (js "Aa.example")).encoded := by
    intro csr h
    obtain ⟨hinfo, hread⟩ := generateCsr_info h hasked
    refine ⟨hread.trans ?_, hinfo.trans ?_⟩
    · decide +kernel
    · decide +kernel
  refine ⟨hok, hread, fun hclaim => ?_⟩
  obtain ⟨csr, h⟩ := exists_ok hok
  have hexact := hclaim sampleEnv _ _ csr csr _ _ h h hasked hasked
  have hsame := hexact.first_read.symm.trans (hread csr h).1
  exact absurd hsame (by decide +kernel)

end TokenTimer.Agent.Csr
