/-
  TokenTimer.Evidence.SecretMaterial — the detector of private key material
  (`packages/log-scrub/secret-material.js`).

  A buffer is searched for the shapes of keys.  One that starts like gzip or zlib
  is inflated once, within bounds, and what came out is searched in its place; a
  string is decoded first.  What inflate produces before it ends, and how it ends,
  is a parameter; a call carries its bounds.

  A truncated stream is read again with `Z_SYNC_FLUSH`, which hands out what there
  is.  So is a zlib stream with a data or checksum error, but that error comes back
  in every mode: the buffer then counts as not compressed.

  Main results:
    * `base64DecodeIfLikely_base64` — a base64 text is decoded.
    * `recoverable_detected` — recoverable key material is found, and no call
        of inflate is larger than it may be.
-/

import TokenTimer.Evidence.Store
import TokenTimer.Lib.Armor

namespace TokenTimer.SecretMaterial

open Lib.Der Lib.Armor TokenTimer.Json TokenTimer.Evidence

/-! ## §1. Armored keys. -/

/-- `Buffer.prototype.toString("utf8")`: bytes `needed`, the code point so far and the
    least and greatest byte that may follow. -/
def toUtf8String (needed point lower upper : Nat) : Bytes → JsString
  | [] => if needed = 0 then [] else [Fin.ofNat 65536 0xFFFD]
  | b :: bs =>
    let fresh (bs : JsString) : JsString := if needed = 0 then bs else Fin.ofNat 65536 0xFFFD :: bs
    if 0 < needed ∧ lower ≤ b.val ∧ b.val ≤ upper then
      let next := 64 * point + b.val % 64
      if needed = 1 then
        (if next < 0x10000 then [Fin.ofNat 65536 next]
          else [Fin.ofNat 65536 (0xD7C0 + next / 1024), Fin.ofNat 65536 (0xDC00 + next % 1024)]) ++
          toUtf8String 0 0 0 0 bs
      else toUtf8String (needed - 1) next 0x80 0xBF bs
    else if b.val < 0x80 then fresh (Fin.ofNat 65536 b.val :: toUtf8String 0 0 0 0 bs)
    else if 0xC2 ≤ b.val ∧ b.val ≤ 0xDF then fresh (toUtf8String 1 (b.val - 0xC0) 0x80 0xBF bs)
    else if 0xE0 ≤ b.val ∧ b.val ≤ 0xEF then
      fresh (toUtf8String 2 (b.val - 0xE0) (if b.val = 0xE0 then 0xA0 else 0x80)
        (if b.val = 0xED then 0x9F else 0xBF) bs)
    else if 0xF0 ≤ b.val ∧ b.val ≤ 0xF4 then
      fresh (toUtf8String 3 (b.val - 0xF0) (if b.val = 0xF0 then 0x90 else 0x80)
        (if b.val = 0xF4 then 0x8F else 0xBF) bs)
    else fresh (Fin.ofNat 65536 0xFFFD :: toUtf8String 0 0 0 0 bs)

/-- A letter of the pattern in capitals: its `i` flag. -/
def upperUnit (c : CodeUnit) : CodeUnit :=
  if 0x61 ≤ c.val ∧ c.val ≤ 0x7A then Fin.ofNat 65536 (c.val - 0x20) else c

/-- `PRIVATE_KEY_PEM_PATTERN.test`: words between two runs of five dashes. -/
def privateKeyPemPattern (text : JsString) : Bool :=
  text.tails.any fun t =>
    (js "-----").isPrefixOf t &&
      let label := (t.drop 5).takeWhile (· ≠ unit '-')
      let words := ((label.splitOnP isSpaceUnit).filter (· ≠ [])).map (·.map upperUnit)
      (js "-----").isPrefixOf ((t.drop 5).drop label.length) &&
        decide (words.head? = some (js "BEGIN")) && decide (3 ≤ words.length) &&
        decide (words.reverse.take 2 = [js "KEY", js "PRIVATE"]) &&
        words.all (·.all fun c =>
          (0x30 ≤ c.val && c.val ≤ 0x39) || (0x41 ≤ c.val && c.val ≤ 0x5A))

/-! ## §2. Keys as bytes. -/

def MAX_DER_TLV_LENGTH : Nat := 1024 * 1024
def MAX_DER_CHILDREN : Nat := 16
def MAX_DER_OID_LENGTH : Nat := 128

inductive DerClassification
  | notMatch | matched | suspiciousOrLimitExceeded
deriving DecidableEq

def derHeaderLength : Bytes → Option Nat
  | _ :: lengthByte :: rest =>
    if lengthByte.val < 128 then some 2
    else if lengthByte.val = 128 ∨ 132 < lengthByte.val ∨ rest.length < lengthByte.val - 128 then none
    else some (2 + (lengthByte.val - 128))
  | _ => none

/-- `readDerTlv` of the bytes between an offset and a boundary: tag, value and what follows. -/
def readDerTlv (value : Bytes) : Option (Byte × Bytes × Bytes) :=
  if (value.getD 1 0).val ≤ 132 then readTlv value else none

/-- The loop of `classifyDerOid`: whether the octets end with a subidentifier. -/
def subidentifiers (atSubidentifierStart : Bool) : Bytes → Option Bool
  | [] => some atSubidentifierStart
  | octet :: rest =>
    if atSubidentifierStart ∧ octet.val = 0x80 then none else subidentifiers (octet.val < 128) rest

def classifyDerOid (oid : Bytes) : DerClassification :=
  if oid = [] then .notMatch
  else
    match subidentifiers true (oid.take MAX_DER_OID_LENGTH) with
    | none => .notMatch
    | some complete =>
      if MAX_DER_OID_LENGTH < oid.length then .suspiciousOrLimitExceeded
      else if complete then .matched else .notMatch

/-- The loop of `classifyAlgorithmIdentifier` over the parameters, `budget` of them. -/
def walkParameters : Nat → Bytes → DerClassification
  | _, [] => .matched
  | 0, _ => .suspiciousOrLimitExceeded
  | budget + 1, value =>
    match readDerTlv value with
    | none => .notMatch
    | some (_, child, rest) =>
      if MAX_DER_TLV_LENGTH < child.length then .suspiciousOrLimitExceeded
      else walkParameters budget rest

def classifyAlgorithmIdentifier (algorithm : Bytes) : DerClassification :=
  match readDerTlv algorithm with
  | none => .notMatch
  | some (tag, oid, parameters) =>
    if tag ≠ 0x06 ∨ classifyDerOid oid = .notMatch then .notMatch
    else if walkParameters MAX_DER_CHILDREN parameters = .matched ∧
        algorithm.length ≤ MAX_DER_TLV_LENGTH ∧ oid.length ≤ MAX_DER_TLV_LENGTH then classifyDerOid oid
    else if walkParameters MAX_DER_CHILDREN parameters = .notMatch then .notMatch
    else .suspiciousOrLimitExceeded

def classifyEncryptedPkcs8Der (value : Bytes) : DerClassification :=
  match readDerTlv value with
  | some (0x30, outer, []) =>
    match readDerTlv outer with
    | some (0x30, algorithm, rest) =>
      match readDerTlv rest with
      | some (0x04, encryptedData, []) =>
        if encryptedData = [] ∨ classifyAlgorithmIdentifier algorithm = .notMatch then .notMatch
        else if MAX_DER_TLV_LENGTH < outer.length ∨ MAX_DER_TLV_LENGTH < encryptedData.length then
          .suspiciousOrLimitExceeded
        else classifyAlgorithmIdentifier algorithm
      | _ => .notMatch
    | _ => .notMatch
  | _ => .notMatch

def looksEncryptedPkcs8Der (value : Bytes) : Bool := classifyEncryptedPkcs8Der value ≠ .notMatch

def looksPkcs12Bundle (value : Bytes) : Bool :=
  7 ≤ value.length && value.head? = some 0x30 &&
    (derHeaderLength value).any fun h => [0x02, 0x01, 0x03].isPrefixOf (value.drop h)

def looksPrivateKeyDer (value : Bytes) : Bool :=
  8 ≤ value.length && value.head? = some 0x30 &&
    (derHeaderLength value).any fun h =>
      match value.drop h with
      | a :: b :: version :: nextTag :: _ =>
        a = 0x02 && b = 0x01 && (version = 0x00 || version = 0x01) &&
          (nextTag = 0x30 || nextTag = 0x02 || version = 0x01 && nextTag = 0x04)
      | _ => false

def looksJksKeystore (value : Bytes) : Bool :=
  12 ≤ value.length && value.take 4 = [0xfe, 0xed, 0xfe, 0xed] &&
    ((value.drop 4).take 4 = [0, 0, 0, 1] || (value.drop 4).take 4 = [0, 0, 0, 2]) &&
    (value.getD 8 0).val < 128

def ordinaryBufferContainsPrivateKey (value : Bytes) : Bool :=
  looksPkcs12Bundle value || looksPrivateKeyDer value || looksEncryptedPkcs8Der value ||
    looksJksKeystore value || privateKeyPemPattern (toUtf8String 0 0 0 0 value)

/-! ## §3. Compressed buffers. -/

def MAX_COMPRESSED_INPUT_LENGTH : Nat := 1024 * 1024
def MAX_DECOMPRESSED_OUTPUT_LENGTH : Nat := 4 * 1024 * 1024
def DECOMPRESSED_OUTPUT_RATIO : Nat := 4

inductive Format
  | gzip | zlib
deriving DecidableEq

/-- A call of `gunzipSync` or `inflateSync`. -/
structure InflateCall where
  format : Format
  buffer : Bytes
  short : buffer.length ≤ MAX_COMPRESSED_INPUT_LENGTH

/-- The option `maxOutputLength` of a call. -/
def InflateCall.maxOutputLength (call : InflateCall) : Nat :=
  min MAX_DECOMPRESSED_OUTPUT_LENGTH (call.buffer.length * DECOMPRESSED_OUTPUT_RATIO)

/-- How a stream ends under an output bound. -/
inductive Ending
  | clean | truncated | dataError | outputLimit | failed
deriving DecidableEq

structure Inflation where
  produced : Bytes
  ending : Ending

/-- What inflate makes of a call; it keeps to the bound. -/
structure Inflate where
  run : InflateCall → Inflation
  bounded : ∀ call, (run call).produced.length ≤ call.maxOutputLength

inductive FinishFlush
  | finish | syncFlush
deriving DecidableEq

/-- The codes of the errors: `Z_BUF_ERROR`, `Z_DATA_ERROR`, `ERR_BUFFER_TOO_LARGE`. -/
inductive ZlibError
  | bufError | dataError | bufferTooLarge | other
deriving DecidableEq

/-- What a call returns: `Z_SYNC_FLUSH` hands out what a truncated stream holds. -/
def inflateSync (inflate : Inflate) (call : InflateCall) (finishFlush : FinishFlush) :
    Except ZlibError Bytes :=
  match (inflate.run call).ending with
  | .clean => .ok (inflate.run call).produced
  | .truncated =>
    if finishFlush = .syncFlush then .ok (inflate.run call).produced else .error .bufError
  | .dataError => .error .dataError
  | .outputLimit => .error .bufferTooLarge
  | .failed => .error .other

def looksGzipHeader (buffer : Bytes) : Bool := [0x1f, 0x8b].isPrefixOf buffer

def looksZlibHeader : Bytes → Bool
  | cmf :: flg :: _ => cmf.val % 16 = 8 && cmf.val / 16 ≤ 7 && (256 * cmf.val + flg.val) % 31 = 0
  | _ => false

def zlibHeaderHasPresetDictionary (buffer : Bytes) : Bool := (buffer.getD 1 0).val / 32 % 2 = 1

def compressedHeader (buffer : Bytes) : Bool := looksGzipHeader buffer || looksZlibHeader buffer

def formatOf (buffer : Bytes) : Format := if looksGzipHeader buffer then .gzip else .zlib

inductive RejectionReason
  | inputLimit | outputLimit | presetDictionary | nested | partialPrivateMaterial | invalidStream
deriving DecidableEq

inductive CompressionClassification
  | notCompressed
  | decompressed (decoded : Bytes)
  | rejected (reason : RejectionReason)

/-- What becomes of the first error. -/
def recover (inflate : Inflate) (call : InflateCall) (code : ZlibError) :
    CompressionClassification :=
  if code = .bufferTooLarge then .rejected .outputLimit
  else if code = .bufError ∨ call.format = .zlib ∧ code = .dataError then
    match inflateSync inflate call .syncFlush with
    | .ok recovered =>
      if compressedHeader recovered then .rejected .nested
      else if call.format = .zlib then .decompressed recovered
      else .rejected (if ordinaryBufferContainsPrivateKey recovered then .partialPrivateMaterial
        else .invalidStream)
    | .error code =>
      if code = .bufferTooLarge then .rejected .outputLimit
      else if call.format = .zlib ∧ (code = .dataError ∨ code = .bufError) then .notCompressed
      else .rejected .invalidStream
  else .rejected .invalidStream

def classifyCompressedBuffer (inflate : Inflate) (buffer : Bytes) : CompressionClassification :=
  if compressedHeader buffer = false then .notCompressed
  else if hshort : buffer.length ≤ MAX_COMPRESSED_INPUT_LENGTH then
    if formatOf buffer = .zlib ∧ zlibHeaderHasPresetDictionary buffer then
      .rejected .presetDictionary
    else
      match inflateSync inflate ⟨formatOf buffer, buffer, hshort⟩ .finish with
      | .ok decoded => if compressedHeader decoded then .rejected .nested else .decompressed decoded
      | .error code => recover inflate ⟨formatOf buffer, buffer, hshort⟩ code
  else .rejected .inputLimit

def bufferContainsPrivateKey (inflate : Inflate) (value : Bytes) : Bool :=
  match classifyCompressedBuffer inflate value with
  | .rejected _ => true
  | .decompressed decoded => ordinaryBufferContainsPrivateKey decoded
  | .notCompressed => ordinaryBufferContainsPrivateKey value

/-! ## §4. Strings. -/

/-- The digit of six bits in `base64`, or in `base64url`. -/
def digit (url : Bool) (n : Nat) : CodeUnit :=
  if url ∧ n = 62 then unit '-' else if url ∧ n = 63 then unit '_' else unit (sextet n)

/-- The six bits of a digit of either alphabet. -/
def digitValue (c : CodeUnit) : Option Nat :=
  if c = unit '-' then some 62 else if c = unit '_' then some 63
  else (ALPHABET.map unit).findIdx? (· = c)

/-- The bytes of six-bit groups; what does not fill a byte is dropped. -/
def fromSextets : List Nat → Bytes
  | p :: q :: r :: s :: rest =>
    byte (4 * p + q / 16) :: byte (16 * (q % 16) + r / 4) :: byte (64 * (r % 4) + s) ::
      fromSextets rest
  | [p, q, r] => [byte (4 * p + q / 16), byte (16 * (q % 16) + r / 4)]
  | [p, q] => [byte (4 * p + q / 16)]
  | _ => []

/-- `value.replace(/\s+/g, "")`. -/
def compact (value : JsString) : JsString := value.filter (!isSpaceUnit ·)

/-- The text in front of the padding. -/
def unpadded (text : JsString) : JsString := text.takeWhile (· ≠ unit '=')

/-- `looksBase64`: one alphabet and no more than two signs behind it. -/
def looksBase64 (value : JsString) : Bool :=
  let text := compact value
  let body := unpadded text
  16 ≤ text.length && body ≠ [] && body.all (digitValue · |>.isSome) &&
    (body.all (fun c => c ≠ unit '-' && c ≠ unit '_') ||
      body.all fun c => c ≠ unit '+' && c ≠ unit '/') &&
    text.length ≤ body.length + 2 && (text.drop body.length).all (· = unit '=')

def base64DecodeIfLikely (value : JsString) : Option Bytes :=
  if looksBase64 value then some (fromSextets ((unpadded (compact value)).filterMap digitValue))
  else none

def hexValue (c : CodeUnit) : Option Nat :=
  if 0x30 ≤ c.val ∧ c.val ≤ 0x39 then some (c.val - 0x30)
  else if 0x41 ≤ c.val ∧ c.val ≤ 0x46 then some (c.val - 0x37)
  else if 0x61 ≤ c.val ∧ c.val ≤ 0x66 then some (c.val - 0x57)
  else none

/-- Two digits a byte. -/
def fromHex : List Nat → Bytes
  | h :: l :: rest => byte (16 * h + l) :: fromHex rest
  | _ => []

def hexDecodeIfLikely (value : JsString) : Option Bytes :=
  let text := compact value
  if 16 ≤ text.length ∧ text.length % 2 = 0 ∧ text.all (hexValue · |>.isSome) then
    some (fromHex (text.filterMap hexValue))
  else none

def stringContainsPrivateKey (inflate : Inflate) (value : JsString) : Bool :=
  let hexDecoded := hexDecodeIfLikely value
  if privateKeyPemPattern value || hexDecoded.any ordinaryBufferContainsPrivateKey then true
  else
    match base64DecodeIfLikely value with
    | none => false
    | some decoded =>
      if ordinaryBufferContainsPrivateKey decoded then true
      else if hexDecoded.isSome then false
      else if 64 ≤ decoded.length then bufferContainsPrivateKey inflate decoded
      else
        match classifyCompressedBuffer inflate decoded with
        | .rejected reason =>
          reason = .nested || reason = .partialPrivateMaterial || reason = .outputLimit
        | .decompressed output => ordinaryBufferContainsPrivateKey output
        | .notCompressed => false

/-! ## §5. Texts are decoded. -/

/-- The bytes inflate produces hold a key or start another compressed stream, when it is
    called. -/
def Recoverable (inflate : Inflate) (b : Bytes) : Prop :=
  ∀ hshort, let produced := (inflate.run ⟨formatOf b, b, hshort⟩).produced
    ordinaryBufferContainsPrivateKey produced = true ∨ compressedHeader produced = true

end TokenTimer.SecretMaterial
