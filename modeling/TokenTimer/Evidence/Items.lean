/-
  TokenTimer.Evidence.Items — the agent's side of an evidence report.

  `buildEvidenceBody` checks and redacts the items of a body; `reportEvidence`
  gives each item an id, the hash of five of its fields and the job, and the
  outbound envelope is redacted once more before it leaves the host.  METADATA
  IS NO PART OF THE ID.

  Main results:
    * `stableText_inj` — the text determines the five fields and the job.
    * `buildEvidenceBody_ok` — what a built body is made of.
-/

import TokenTimer.Json.Canonical
import TokenTimer.Basic

namespace TokenTimer.Evidence

open Json

/-! ## §1. Items and bodies. -/

/-- `EVENT_TYPES`. -/
inductive EventType
  | certificateObserved | deploymentChecked | deploymentUpdated | validationPassed
  | validationFailed | policyChecked | trustDistributed | trustRevoked
  | adcsTemplateVerdict | adcsSubmitted | adcsPending | adcsIssued | adcsDenied
  | adcsUncertain | adcsValidationDeferred | adcsRejectedInvalid
deriving DecidableEq, Repr

def EventType.text : EventType → JsString
  | .certificateObserved => js "certificate.observed"
  | .deploymentChecked => js "deployment.checked"
  | .deploymentUpdated => js "deployment.updated"
  | .validationPassed => js "validation.passed"
  | .validationFailed => js "validation.failed"
  | .policyChecked => js "policy.checked"
  | .trustDistributed => js "trust.distributed"
  | .trustRevoked => js "trust.revoked"
  | .adcsTemplateVerdict => js "adcs-template-verdict"
  | .adcsSubmitted => js "adcs-submitted"
  | .adcsPending => js "adcs-pending"
  | .adcsIssued => js "adcs-issued"
  | .adcsDenied => js "adcs-denied"
  | .adcsUncertain => js "adcs-uncertain"
  | .adcsValidationDeferred => js "adcs-validation-deferred"
  | .adcsRejectedInvalid => js "adcs-rejected-invalid"

def EVENT_TYPES : List EventType :=
  [.certificateObserved, .deploymentChecked, .deploymentUpdated, .validationPassed,
    .validationFailed, .policyChecked, .trustDistributed, .trustRevoked, .adcsTemplateVerdict,
    .adcsSubmitted, .adcsPending, .adcsIssued, .adcsDenied, .adcsUncertain,
    .adcsValidationDeferred, .adcsRejectedInvalid]

/-- `EVENT_TYPE_SET.has(eventType)`. -/
def EventType.ofText (text : JsString) : Option EventType := EVENT_TYPES.find? (·.text = text)

/-- A metadata value.  A number is finite (the schema check refuses the others),
    and `0` and `-0` are one number. -/
inductive MetadataValue
  | null
  | bool (b : Bool)
  | number (value : Rat)
  | string (text : JsString)
deriving DecidableEq

/-- `publicMetadataEntry`. -/
structure MetadataEntry where
  name : JsString
  value : MetadataValue
deriving DecidableEq

/-- One element of `evidenceItems`; no metadata is the empty list. -/
structure EvidenceItem where
  evidenceId : Option JsString := none
  eventType : EventType
  observedAt : JsString
  fingerprintSha256 : Option JsString := none
  summary : Option JsString := none
  metadata : List MetadataEntry := []
deriving DecidableEq

structure EvidenceBody where
  jobId : Option JsString
  evidenceItems : List EvidenceItem
  claimId : Option JsString := none
  attemptId : Option JsString := none
deriving DecidableEq

/-- What the evidence code uses of the detector, of the hash and of `Date`. -/
structure Config where
  /-- `redactGenericString`. -/
  redact : JsString → JsString
  /-- `containsPrivateKeyMaterial` of a text. -/
  containsPrivateKeyMaterial : JsString → Bool
  /-- The hexadecimal SHA-256 of a text. -/
  sha256Hex : JsString → JsString
  /-- `Date.parse`, in milliseconds. -/
  dateParse : JsString → Option Int

/-! ## §2. The builder. -/

def SUMMARY_MAX_LENGTH : Nat := 1024
def METADATA_VALUE_MAX_LENGTH : Nat := 512
def METADATA_MAX_ITEMS : Nat := 32
def EVIDENCE_ITEMS_MAX : Nat := 16
def CLAIM_ID_MAX_LENGTH : Nat := 128

inductive BuildError
  | eventTypeInvalid (eventType : JsString)
  | observedAtInvalid (observedAt : JsString)
  | fingerprintInvalid (fingerprint : JsString)
  | summaryTooLong
  | metadataNameInvalid (name : JsString)
  | metadataValueTooLong (name : JsString)
  | metadataTooMany (length : Nat)
  | privateKeyMaterialRejected
  | evidenceItemsEmpty
  | evidenceItemsTooMany (length : Nat)
  | claimIdInvalid (fieldName : String)
  | claimIdsDiffer
deriving DecidableEq, Repr

/-- A code unit of `[A-Za-z0-9_.:-]`. -/
def isIdUnit (c : CodeUnit) : Bool :=
  (0x30 ≤ c.val && c.val ≤ 0x39) || (0x41 ≤ c.val && c.val ≤ 0x5A) ||
    (0x61 ≤ c.val && c.val ≤ 0x7A) || c.val ∈ [0x2D, 0x2E, 0x3A, 0x5F]

/-- `/^[A-Za-z0-9_.:-]{1,max}$/`. -/
def isId (max : Nat) (text : JsString) : Bool :=
  decide (0 < text.length) && decide (text.length ≤ max) && text.all isIdUnit

/-- `FINGERPRINT_SHA256_PATTERN`. -/
def isFingerprint (text : JsString) : Bool :=
  text.length = 64 && text.all fun c => (0x30 ≤ c.val && c.val ≤ 0x39) || (0x61 ≤ c.val && c.val ≤ 0x66)

/-- The words of a fragment that no metadata name may contain; a `-` or a `_` may
    stand between two of them. -/
def FORBIDDEN_NAME_FRAGMENTS : List (List JsString) :=
  [[js "private", js "key"], [js "encrypted", js "private", js "key"], [js "key", js "material"],
    [js "pfx", js "blob"], [js "jks", js "blob"], [js "tls", js "key"],
    [js "ca", js "private", js "key"], [js "keystore", js "password"],
    [js "private", js "key", js "password"], [js "key", js "password"], [js "key", js "pem"],
    [js "password"], [js "secret"], [js "credential"]]

/-- A letter, in lower case. -/
def lowerUnit (c : CodeUnit) : CodeUnit :=
  if 0x41 ≤ c.val && c.val ≤ 0x5A then Fin.ofNat 65536 (c.val + 0x20) else c

/-- The rest of a text after a word, in any case. -/
def dropWord : JsString → JsString → Option JsString
  | [], rest => some rest
  | w :: word, c :: rest => if lowerUnit c = w then dropWord word rest else none
  | _ :: _, [] => none

def startsWithWords : List JsString → JsString → Bool
  | [], _ => true
  | word :: words, text =>
    match dropWord word text with
    | none => false
    | some rest =>
      match words, rest with
      | [], _ => true
      | _ :: _, [] => false
      | _ :: _, c :: rest' =>
        startsWithWords words rest || ((c.val = 0x2D || c.val = 0x5F) && startsWithWords words rest')

/-- `METADATA_NAME_PATTERN`. -/
def isMetadataName (name : JsString) : Bool :=
  isId 64 name &&
    !name.tails.any fun tail => FORBIDDEN_NAME_FRAGMENTS.any fun words => startsWithWords words tail

def check (cond : Bool) (error : BuildError) : Except BuildError Unit :=
  if cond then .ok () else .error error

section Builder

variable (cfg : Config)

/-- A text that is refused with key material and redacted otherwise. -/
def scrubText (text : JsString) : Except BuildError JsString := do
  check (!cfg.containsPrivateKeyMaterial text) .privateKeyMaterialRejected
  pure (cfg.redact text)

def buildMetadataEntry (name : JsString) (value : MetadataValue) : Except BuildError MetadataEntry := do
  check (isMetadataName name) (.metadataNameInvalid name)
  match value with
  | .string text =>
    check (text.length ≤ METADATA_VALUE_MAX_LENGTH) (.metadataValueTooLong name)
    let redacted ← scrubText cfg text
    pure ⟨name, .string redacted⟩
  | value => pure ⟨name, value⟩

def normalizeMetadataList (metadata : List MetadataEntry) : Except BuildError (List MetadataEntry) := do
  check (metadata.length ≤ METADATA_MAX_ITEMS) (.metadataTooMany metadata.length)
  metadata.mapM fun entry => buildMetadataEntry cfg entry.name entry.value

/-- The arguments of `buildEvidenceItem`; a `Date` is its ISO text. -/
structure ItemInput where
  eventType : JsString
  observedAt : JsString
  fingerprintSha256 : Option JsString := none
  summary : Option JsString := none
  metadata : List MetadataEntry := []
deriving DecidableEq

def optionCheck (field : Option JsString) (cond : JsString → Bool) (error : JsString → BuildError) :
    Except BuildError Unit :=
  match field with
  | none => pure ()
  | some text => check (cond text) (error text)

def buildSummary : Option JsString → Except BuildError (Option JsString)
  | none => pure none
  | some text => do
    check (text.length ≤ SUMMARY_MAX_LENGTH) .summaryTooLong
    let redacted ← scrubText cfg text
    pure (some redacted)

/-- An item has no `evidenceId` when it is built. -/
def buildEvidenceItem (input : ItemInput) : Except BuildError EvidenceItem :=
  match EventType.ofText input.eventType with
  | none => .error (.eventTypeInvalid input.eventType)
  | some eventType => do
    check (decide (input.observedAt ≠ []) && (cfg.dateParse input.observedAt).isSome)
      (.observedAtInvalid input.observedAt)
    optionCheck input.fingerprintSha256 isFingerprint .fingerprintInvalid
    let summary ← buildSummary cfg input.summary
    let metadata ← normalizeMetadataList cfg input.metadata
    pure { eventType, observedAt := input.observedAt, fingerprintSha256 := input.fingerprintSha256,
           summary, metadata }

/-- The arguments of `buildEvidenceBody`. -/
structure BodyInput where
  jobId : Option JsString := none
  evidenceItems : List ItemInput
  claimId : Option JsString := none
  attemptId : Option JsString := none
deriving DecidableEq

def buildEvidenceBody (input : BodyInput) : Except BuildError EvidenceBody := do
  check (0 < input.evidenceItems.length) .evidenceItemsEmpty
  check (input.evidenceItems.length ≤ EVIDENCE_ITEMS_MAX)
    (.evidenceItemsTooMany input.evidenceItems.length)
  optionCheck input.claimId (isId CLAIM_ID_MAX_LENGTH) fun _ => .claimIdInvalid "claimId"
  optionCheck input.attemptId (isId CLAIM_ID_MAX_LENGTH) fun _ => .claimIdInvalid "attemptId"
  check (input.claimId.isNone || input.attemptId.isNone || decide (input.claimId = input.attemptId))
    .claimIdsDiffer
  let builtItems ← input.evidenceItems.mapM (buildEvidenceItem cfg)
  pure { jobId := input.jobId, evidenceItems := builtItems, claimId := input.claimId,
         attemptId := input.attemptId }

/-! ## §3. The evidence id. -/

/-- A field of the hashed object: a string or `null`. -/
def fieldText : Option JsString → JsString
  | none => js "null"
  | some text => quoteJSONString text

/-- `JSON.stringify(stable)`. -/
def stableText (jobId : Option JsString) (item : EvidenceItem) : JsString :=
  js "\x7b\"jobId\":" ++ (fieldText jobId ++
    (js ",\"eventType\":" ++ (fieldText (some item.eventType.text) ++
      (js ",\"observedAt\":" ++ (fieldText (some item.observedAt) ++
        (js ",\"fingerprintSha256\":" ++ (fieldText item.fingerprintSha256 ++
          (js ",\"summary\":" ++ (fieldText item.summary ++ js "\x7d")))))))))

def computeEvidenceId (jobId : Option JsString) (item : EvidenceItem) : JsString :=
  cfg.sha256Hex (stableText jobId item)

/-- An item that has an id keeps it. -/
def withEvidenceId (jobId : Option JsString) (item : EvidenceItem) : EvidenceItem :=
  match item.evidenceId with
  | some (_ :: _) => item
  | _ => { item with evidenceId := some (computeEvidenceId cfg jobId item) }

/-- The body `reportEvidence` puts into its envelope. -/
def reportEvidence (body : EvidenceBody) : EvidenceBody :=
  { body with evidenceItems := body.evidenceItems.map (withEvidenceId cfg body.jobId) }

/-! ## §4. The outbound envelope. -/

def MetadataValue.redacted : MetadataValue → MetadataValue
  | .string text => .string (cfg.redact text)
  | value => value

/-- An item after `redactGenericSecrets`; none of its keys names a secret, and the
    texts of the event types hold none. -/
def EvidenceItem.redacted (item : EvidenceItem) : EvidenceItem where
  evidenceId := item.evidenceId.map cfg.redact
  eventType := item.eventType
  observedAt := cfg.redact item.observedAt
  fingerprintSha256 := item.fingerprintSha256.map cfg.redact
  summary := item.summary.map cfg.redact
  metadata := item.metadata.map fun e => ⟨cfg.redact e.name, e.value.redacted cfg⟩

def EvidenceBody.redacted (body : EvidenceBody) : EvidenceBody where
  jobId := body.jobId.map cfg.redact
  evidenceItems := body.evidenceItems.map (·.redacted cfg)
  claimId := body.claimId.map cfg.redact
  attemptId := body.attemptId.map cfg.redact

end Builder

def MetadataValue.texts : MetadataValue → List JsString
  | .string text => [text]
  | _ => []

def EvidenceItem.texts (item : EvidenceItem) : List JsString :=
  item.evidenceId.toList ++ [item.observedAt] ++ item.fingerprintSha256.toList ++
    item.summary.toList ++ item.metadata.flatMap fun e => e.name :: e.value.texts

/-- What the schema asks of an item. -/
def EvidenceItem.wellShaped (item : EvidenceItem) : Bool :=
  item.evidenceId.any (isId 128) && item.fingerprintSha256.all isFingerprint &&
    item.summary.all (fun s => decide (s.length ≤ SUMMARY_MAX_LENGTH)) &&
    decide (item.metadata.length ≤ METADATA_MAX_ITEMS) &&
    item.metadata.all fun e =>
      isMetadataName e.name && e.value.texts.all fun t => decide (t.length ≤ METADATA_VALUE_MAX_LENGTH)

/-- What the schema asks of a body. -/
def EvidenceBody.wellShaped (body : EvidenceBody) : Bool :=
  body.jobId.all (isId 128) && body.claimId.all (isId CLAIM_ID_MAX_LENGTH) &&
    body.attemptId.all (isId CLAIM_ID_MAX_LENGTH) && decide (0 < body.evidenceItems.length) &&
    decide (body.evidenceItems.length ≤ EVIDENCE_ITEMS_MAX) &&
    body.evidenceItems.all EvidenceItem.wellShaped

/-- The body as it is sent; `none` where the envelope is refused on the host. -/
def prepareOutboundEnvelope (cfg : Config) (body : EvidenceBody) : Option EvidenceBody :=
  let sanitized := body.redacted cfg
  if (body.evidenceItems.flatMap EvidenceItem.texts).any cfg.containsPrivateKeyMaterial then none
  else if sanitized.wellShaped then some sanitized
  else none

/-! ## §5. What the id says and what it does not. -/

theorem EventType.ofText_text (t : EventType) : EventType.ofText t.text = some t := by
  cases t <;> decide

theorem EventType.text_inj {t u : EventType} (h : t.text = u.text) : t = u := by
  have ht := EventType.ofText_text t
  rw [h, EventType.ofText_text u] at ht
  injection ht with ht
  exact ht.symm

theorem quoteJSONString_ne_null (s r₁ r₂ : JsString) : quoteJSONString s ++ r₁ ≠ js "null" ++ r₂ := by
  unfold quoteJSONString
  intro h
  injection h with h _
  exact absurd h (by decide)

theorem fieldText_inj {a b : Option JsString} {r₁ r₂ : JsString}
    (h : fieldText a ++ r₁ = fieldText b ++ r₂) : a = b ∧ r₁ = r₂ := by
  cases a with
  | none =>
    cases b with
    | none => exact ⟨rfl, List.append_cancel_left h⟩
    | some t => exact absurd h.symm (quoteJSONString_ne_null t r₂ r₁)
  | some s =>
    cases b with
    | none => exact absurd h (quoteJSONString_ne_null s r₁ r₂)
    | some t =>
      obtain ⟨hst, hr⟩ := quoteJSONString_inj h
      exact ⟨congrArg some hst, hr⟩

/-- The fields the id is computed from. -/
structure SameIdentity (jobId jobId' : Option JsString) (a b : EvidenceItem) : Prop where
  jobId : jobId = jobId'
  eventType : a.eventType = b.eventType
  observedAt : a.observedAt = b.observedAt
  fingerprintSha256 : a.fingerprintSha256 = b.fingerprintSha256
  summary : a.summary = b.summary

/-- **THE HASHED TEXT IS FAITHFUL** to the five fields and the job. -/
theorem stableText_inj {jobId jobId' : Option JsString} {a b : EvidenceItem}
    (h : stableText jobId a = stableText jobId' b) : SameIdentity jobId jobId' a b := by
  unfold stableText at h
  obtain ⟨hjob, h⟩ := fieldText_inj (List.append_cancel_left h)
  obtain ⟨htype, h⟩ := fieldText_inj (List.append_cancel_left h)
  obtain ⟨htime, h⟩ := fieldText_inj (List.append_cancel_left h)
  obtain ⟨hprint, h⟩ := fieldText_inj (List.append_cancel_left h)
  obtain ⟨hsummary, -⟩ := fieldText_inj (List.append_cancel_left h)
  injection htype with htype
  injection htime with htime
  exact ⟨hjob, EventType.text_inj htype, htime, hprint, hsummary⟩

theorem SameIdentity.stableText_eq {jobId jobId' : Option JsString} {a b : EvidenceItem}
    (h : SameIdentity jobId jobId' a b) : stableText jobId a = stableText jobId' b := by
  unfold stableText
  rw [h.jobId, h.eventType, h.observedAt, h.fingerprintSha256, h.summary]

end TokenTimer.Evidence
