/-
  TokenTimer.Agent.CsrEncode — the certificate request the agent writes
  (`packages/agent/src/keys/index.js`).

  `generateCsr` assembles the CertificationRequest by hand from TLVs with definite
  lengths, signs its first part, and wraps the whole as PEM.

  THE MODEL: texts are JavaScript strings, bytes are numbers below 256.  Reading a
  key, signing and the detector of key material are parameters; a key's SPKI is
  one DER SEQUENCE.  A PEM text longer than a string can be is an error.

  Main results:
    * `readTlv_derTlv` — a value below 2³² bytes is read back.
    * `generateCsr_ok` — what an accepted input gives.
-/

import TokenTimer.Basic
import TokenTimer.Json.Encodings
import TokenTimer.Lib.Armor

namespace TokenTimer.Agent.Csr

open TokenTimer.Json Lib.Der Lib.Armor

export Lib.Der (Bytes)

/-! ## §1. TLVs. -/

/-- The loop of `derLength`: `remaining & 0xff` in front, `remaining >>>= 8`. -/
def lengthBytes (remaining : Nat) (bytes : Bytes) : Bytes :=
  if remaining = 0 then bytes
  else lengthBytes (remaining % 2 ^ 32 / 256) (byte remaining :: bytes)
termination_by remaining
decreasing_by
  have := Nat.mod_le remaining (2 ^ 32)
  omega

def derLength (length : Nat) : Bytes :=
  if length < 0x80 then [byte length]
  else byte (0x80 ||| (lengthBytes length []).length) :: lengthBytes length []

def derTlv (tag : Byte) (value : Bytes) : Bytes := tag :: derLength value.length ++ value

def derSequence (children : List Bytes) : Bytes := derTlv 0x30 children.flatten

def derSet (children : List Bytes) : Bytes := derTlv 0x31 children.flatten

/-- An object identifier in dotted notation; it has at least two parts. -/
structure Oid where
  first : Nat
  second : Nat
  rest : List Nat

/-- The loop of `derOid`: seven bits in front, with the continuation bit. -/
def base128 (remaining : Nat) (stack : Bytes) : Bytes :=
  if remaining = 0 then stack
  else base128 (remaining / 128) (byte (remaining % 128 ||| 0x80) :: stack)
termination_by remaining
decreasing_by omega

def derOid (oid : Oid) : Bytes :=
  derTlv 0x06 (byte (40 * oid.first + oid.second) ::
    oid.rest.flatMap fun part => base128 (part % 2 ^ 32 / 128) [byte (part % 128)])

def derUtf8String (value : JsString) : Bytes := derTlv 0x0c (utf8 value)

def derPrintableString (value : JsString) : Bytes := derTlv 0x13 (ascii value)

def derBitString (value : Bytes) : Bytes := derTlv 0x03 (0x00 :: value)

def derOctetString (value : Bytes) : Bytes := derTlv 0x04 value

def derIntegerZero : Bytes := [0x02, 0x01, 0x00]

def derContextConstructed (tagNumber : Nat) (value : Bytes) : Bytes :=
  derTlv (byte (0xa0 ||| tagNumber)) value

example : derOid ⟨1, 2, [840, 113549, 1, 9, 14]⟩ =
    [0x06, 0x09, 0x2a, 0x86, 0x48, 0x86, 0xf7, 0x0d, 0x01, 0x09, 0x0e] := by decide +kernel

/-! ## §2. The subject. -/

/-- A value of the input. -/
inductive Given
  | undefined
  | null
  | string (s : JsString)
  | other
deriving DecidableEq

inductive DnField
  | country | state | locality | organization | organizationalUnit | commonName
deriving DecidableEq

def DnField.name : DnField → String
  | .country => "country"
  | .state => "state"
  | .locality => "locality"
  | .organization => "organization"
  | .organizationalUnit => "organizationalUnit"
  | .commonName => "commonName"

/-- `DN_ATTRIBUTE_OIDS`. -/
def DnField.oid : DnField → Oid
  | .commonName => ⟨2, 5, [4, 3]⟩
  | .organization => ⟨2, 5, [4, 10]⟩
  | .organizationalUnit => ⟨2, 5, [4, 11]⟩
  | .country => ⟨2, 5, [4, 6]⟩
  | .state => ⟨2, 5, [4, 8]⟩
  | .locality => ⟨2, 5, [4, 7]⟩

def DN_FIELD_ORDER : List DnField :=
  [.country, .state, .locality, .organization, .organizationalUnit, .commonName]

abbrev Subject := DnField → Given

def OID_EXTENSION_REQUEST : Oid := ⟨1, 2, [840, 113549, 1, 9, 14]⟩
def OID_SUBJECT_ALT_NAME : Oid := ⟨2, 5, [29, 17]⟩
def OID_ECDSA_WITH_SHA256 : Oid := ⟨1, 2, [840, 10045, 4, 3, 2]⟩
def OID_ECDSA_WITH_SHA384 : Oid := ⟨1, 2, [840, 10045, 4, 3, 3]⟩
def OID_SHA256_WITH_RSA : Oid := ⟨1, 2, [840, 113549, 1, 1, 11]⟩

def derRdn (fieldName : DnField) (value : JsString) : Bytes :=
  let encodedValue := if fieldName = .country then derPrintableString value else derUtf8String value
  derSet [derSequence [derOid fieldName.oid, encodedValue]]

/-- `/^[A-Z]{2}$/`. -/
def isCountryCode (s : JsString) : Bool :=
  s.length == 2 && s.all fun c => 0x41 ≤ c.val && c.val ≤ 0x5A

/-- The loop over the fields. -/
def derRdns (subject : Subject) : List DnField → Except String (List Bytes)
  | [] => .ok []
  | fieldName :: fields =>
    match subject fieldName with
    | .undefined => derRdns subject fields
    | .null => derRdns subject fields
    | .string value =>
      if value = [] then
        .error ("tokentimer-agent keys: subject." ++ fieldName.name ++ " must be a non-empty string")
      else do
        let rdns ← derRdns subject fields
        .ok (derRdn fieldName value :: rdns)
    | .other =>
      .error ("tokentimer-agent keys: subject." ++ fieldName.name ++ " must be a non-empty string")

/-- `none` is a subject that is no object. -/
def derSubjectName : Option Subject → Except String Bytes
  | none => .error "tokentimer-agent keys: subject must be an object with a commonName"
  | some subject =>
    match subject .commonName with
    | .string (_ :: _) =>
      match subject .country with
      | .undefined => (derRdns subject DN_FIELD_ORDER).map derSequence
      | .string country =>
        if isCountryCode country then (derRdns subject DN_FIELD_ORDER).map derSequence
        else .error
          "tokentimer-agent keys: subject.country must be a 2-letter uppercase ISO 3166 code"
      | _ => .error
          "tokentimer-agent keys: subject.country must be a 2-letter uppercase ISO 3166 code"
    | _ => .error "tokentimer-agent keys: subject.commonName must be a non-empty string"

/-! ## §3. The alternative names. -/

def derSubjectAltNameValue (altNames : List JsString) : Bytes :=
  derSequence (altNames.map fun name => derTlv 0x82 (ascii name))

def derCsrAttributes (altNames : List JsString) : Bytes :=
  if altNames.length = 0 then derContextConstructed 0 []
  else
    let sanExtension := derSequence [derOid OID_SUBJECT_ALT_NAME,
      derOctetString (derSubjectAltNameValue altNames)]
    let extensions := derSequence [sanExtension]
    let extensionRequestAttribute := derSequence [derOid OID_EXTENSION_REQUEST, derSet [extensions]]
    derContextConstructed 0 extensionRequestAttribute

/-! ## §4. The request. -/

inductive KeyType
  | ec (namedCurve : String) | rsa | ed25519 | other (keyType : String)
deriving DecidableEq

inductive Hash
  | sha256 | sha384
deriving DecidableEq

/-- A private key with what `node:crypto` exports of its public half. -/
structure Key where
  keyType : KeyType
  spkiDer : Bytes
  publicKeyPem : List Char
  spki_sequence : ∃ content, readTlv spkiDer = some (0x30, content, [])

/-- What is outside this file. -/
structure Env where
  /-- The key file, read and parsed. -/
  createPrivateKey : JsString → Except String Key
  /-- `crypto.sign`. -/
  sign : Hash → Bytes → Key → Bytes
  /-- `assertNoPrivateKeyMaterial` throws. -/
  hasPrivateKeyMaterial : List Char → Bool

def resolveSignatureAlgorithm (key : Key) : Except String (Bytes × Hash) :=
  match key.keyType with
  | .ec namedCurve =>
    if namedCurve = "P-384" ∨ namedCurve = "secp384r1" then
      .ok (derSequence [derOid OID_ECDSA_WITH_SHA384], .sha384)
    else .ok (derSequence [derOid OID_ECDSA_WITH_SHA256], .sha256)
  | .rsa => .ok (derSequence [derOid OID_SHA256_WITH_RSA, [0x05, 0x00]], .sha256)
  | .ed25519 => .error ("tokentimer-agent keys: Ed25519 CSR generation is not supported " ++
      "(documented deviation; generate the key as ec-p256 or rsa-* when a CSR is needed)")
  | .other keyType => .error ("tokentimer-agent keys: unsupported private key type \"" ++ keyType ++
      "\" for CSR signing")

/-- `buffer.constants.MAX_STRING_LENGTH`. -/
def MAX_STRING_LENGTH : Nat := 536870888

def BEGIN_REQUEST : List Char := "-----BEGIN CERTIFICATE REQUEST-----".toList
def END_REQUEST : List Char := "-----END CERTIFICATE REQUEST-----".toList

def derToPem (der : Bytes) : Except String (List Char) :=
  let pem := armor BEGIN_REQUEST END_REQUEST 64 der
  if MAX_STRING_LENGTH < pem.length then .error "Invalid string length" else .ok pem

/-- `generateCsr`'s argument; `altNames` is `none` when it is no array. -/
structure Input where
  keyPath : JsString
  subject : Option Subject
  altNames : Option (List Given)

def stringNames : List Given → Option (List JsString)
  | [] => some []
  | .string (c :: name) :: names => (stringNames names).map fun rest => (c :: name) :: rest
  | _ => none

structure GeneratedCsr where
  csrPem : List Char
  publicKeyPem : List Char

def certificationRequestInfo (subjectName spkiDer : Bytes) (altNames : List JsString) : Bytes :=
  derSequence [derIntegerZero, subjectName, spkiDer, derCsrAttributes altNames]

def generateCsr (env : Env) (input : Input) : Except String GeneratedCsr :=
  if input.keyPath = [] then
    .error "tokentimer-agent keys: keyPath must be a non-empty string"
  else match input.altNames.bind stringNames with
    | none => .error "tokentimer-agent keys: altNames must be an array of non-empty strings"
    | some altNames => do
      let subjectName ← derSubjectName input.subject
      let key ← env.createPrivateKey input.keyPath
      let (signatureAlgorithm, hash) ← resolveSignatureAlgorithm key
      let info := certificationRequestInfo subjectName key.spkiDer altNames
      let signature := env.sign hash info key
      let certificationRequest := derSequence [info, signatureAlgorithm, derBitString signature]
      let csrPem ← derToPem certificationRequest
      if env.hasPrivateKeyMaterial csrPem || env.hasPrivateKeyMaterial key.publicKeyPem then
        .error "PRIVATE_KEY_MATERIAL_REJECTED"
      else .ok { csrPem, publicKeyPem := key.publicKeyPem }

/-! ## §5. A value is read back. -/

theorem bigEndian_concat (bs : Bytes) (b : Byte) :
    bigEndian (bs ++ [b]) = 256 * bigEndian bs + b.val := by
  unfold bigEndian
  rw [List.foldl_append]
  rfl

/-- The loop puts the digits of the length in front. -/
theorem lengthBytes_eq (k : Nat) : ∀ (n : Nat) (bytes : Bytes), n < 256 ^ k → n < 2 ^ 32 →
    ∃ digits, lengthBytes n bytes = digits ++ bytes ∧ digits.length ≤ k ∧ bigEndian digits = n ∧
      (0 < n → digits ≠ [] ∧ digits.head? ≠ some 0) := by
  induction k with
  | zero =>
    intro n bytes hn _
    have h0 : n = 0 := by simpa using hn
    subst h0
    refine ⟨[], ?_, Nat.le_refl _, rfl, fun h => absurd h (Nat.lt_irrefl 0)⟩
    rw [lengthBytes, if_pos rfl]
    rfl
  | succ k ih =>
    intro n bytes hn h32
    by_cases h0 : n = 0
    · subst h0
      refine ⟨[], ?_, Nat.zero_le _, rfl, fun h => absurd h (Nat.lt_irrefl 0)⟩
      rw [lengthBytes, if_pos rfl]
      rfl
    · have hmod : n % 2 ^ 32 / 256 = n / 256 := by rw [Nat.mod_eq_of_lt h32]
      have hdiv : n / 256 < 256 ^ k := by
        rw [Nat.pow_succ] at hn
        omega
      obtain ⟨digits, heq, hlen, hvalue, hhead⟩ := ih (n / 256) (byte n :: bytes) hdiv (by omega)
      refine ⟨digits ++ [byte n], ?_, ?_, ?_, fun _ => ⟨by simp, ?_⟩⟩
      · rw [lengthBytes, if_neg h0, hmod, heq, List.append_assoc]
        rfl
      · rw [List.length_append, List.length_singleton]
        omega
      · rw [bigEndian_concat, hvalue, byte_val]
        omega
      · rcases Nat.eq_zero_or_pos (n / 256) with hzero | hpos
        · -- One digit, and it is not zero.
          have hnil : digits = [] := by
            rw [hzero, lengthBytes, if_pos rfl] at heq
            have hlen' := congrArg List.length heq
            rw [List.length_append] at hlen'
            exact List.length_eq_zero_iff.mp (by omega)
          rw [hnil, List.nil_append, List.head?_cons]
          intro h
          have hval := congrArg Fin.val (Option.some.inj h)
          rw [byte_val, show (0 : Byte).val = 0 from rfl] at hval
          omega
        · obtain ⟨hne, hnonzero⟩ := hhead hpos
          rw [List.head?_append_of_ne_nil _ hne]
          exact hnonzero

/-- **A LENGTH IS READ BACK.** -/
theorem readLength_derLength {n : Nat} (h : n < 2 ^ 32) (rest : Bytes) :
    readLength (derLength n ++ rest) = some (n, rest) := by
  unfold derLength
  by_cases hshort : n < 0x80
  · rw [if_pos hshort]
    exact readLength_short hshort rest
  · rw [if_neg hshort]
    obtain ⟨digits, heq, hlen, hvalue, hhead⟩ := lengthBytes_eq 4 n [] (by omega) h
    rw [List.append_nil] at heq
    have hor : ∀ k < 128, 0x80 ||| k = 128 + k := by decide +kernel
    rw [heq, hor _ (by omega), readLength_long (by omega) (hhead (by omega)).2 (by omega), hvalue]

/-- **A VALUE IS READ BACK.** -/
theorem readTlv_derTlv {tag : Byte} {value : Bytes} (h : value.length < 2 ^ 32) (rest : Bytes) :
    readTlv (derTlv tag value ++ rest) = some (tag, value, rest) :=
  readTlv_append (readLength_derLength h (value ++ rest))

theorem readTlv_derTlv_nil {tag : Byte} {value : Bytes} (h : value.length < 2 ^ 32) :
    readTlv (derTlv tag value) = some (tag, value, []) := by
  rw [← List.append_nil (derTlv tag value)]
  exact readTlv_derTlv h []

theorem length_derTlv (tag : Byte) (value : Bytes) : value.length < (derTlv tag value).length := by
  unfold derTlv
  rw [List.length_append, List.length_cons]
  omega

/-! ## §6. What an accepted input gives. -/

/-- **WHAT AN ACCEPTED INPUT GIVES**: the PEM of the signed request. -/
theorem generateCsr_ok {env : Env} {input : Input} {csr : GeneratedCsr}
    (h : generateCsr env input = .ok csr) :
    ∃ altNames subjectName key signatureAlgorithm hash,
      input.altNames.bind stringNames = some altNames ∧
      derSubjectName input.subject = .ok subjectName ∧
      env.createPrivateKey input.keyPath = .ok key ∧
      resolveSignatureAlgorithm key = .ok (signatureAlgorithm, hash) ∧
      derToPem (derSequence [certificationRequestInfo subjectName key.spkiDer altNames,
        signatureAlgorithm, derBitString
          (env.sign hash (certificationRequestInfo subjectName key.spkiDer altNames) key)]) =
        .ok csr.csrPem := by
  unfold generateCsr at h
  split at h
  case isTrue => cases h
  case isFalse =>
  split at h
  case h_1 => cases h
  case h_2 altNames hnames =>
    obtain ⟨subjectName, hsubject, h⟩ := bind_ok.mp h
    obtain ⟨key, hkey, h⟩ := bind_ok.mp h
    obtain ⟨⟨signatureAlgorithm, hash⟩, halg, h⟩ := bind_ok.mp h
    obtain ⟨csrPem, hpem, h⟩ := bind_ok.mp h
    refine ⟨altNames, subjectName, key, signatureAlgorithm, hash, hnames, hsubject, hkey, halg, ?_⟩
    split at h
    case isTrue => cases h
    case isFalse =>
      rw [← Except.ok.inj h]
      exact hpem

/-- The PEM is read back, and what it holds is no longer than a string. -/
theorem derToPem_ok {der : Bytes} {pem : List Char} (h : derToPem der = .ok pem) :
    unarmor BEGIN_REQUEST END_REQUEST pem = some der ∧ der.length < 2 ^ 32 := by
  unfold derToPem at h
  simp only at h
  split at h
  case isTrue => cases h
  case isFalse hle =>
    rw [← Except.ok.inj h]
    refine ⟨unarmor_armor (by decide) _ _ der, ?_⟩
    have hlen : der.length ≤ (armor BEGIN_REQUEST END_REQUEST 64 der).length :=
      length_armor (by decide) _ _ der
    unfold MAX_STRING_LENGTH at hle
    omega

end TokenTimer.Agent.Csr
