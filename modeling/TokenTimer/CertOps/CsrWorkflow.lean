/-
  TokenTimer.CertOps.CsrWorkflow — externally signed CSRs
  (`apps/api/services/certops/csrWorkflow.js`, with the trigger
  `certops_prepare_managed_identity` and the foreign keys of
  `certificate_csr_workflows`).

  A workflow holds a CSR for a target, then the leaf that was signed for it, and
  is completed when `promote` writes the leaf to its managed certificate.  Every
  operation is one transaction, which locks the workflows and the certificates
  it writes until it commits; it is a function from the tables to the tables,
  and an error rolls it back.  `history` notes, in the order of the statements,
  what the transactions did.
-/

import TokenTimer.Lib.Runs
import TokenTimer.Lib.Table
import TokenTimer.Basic
import TokenTimer.Json.Text

namespace TokenTimer.CertOps.CsrWorkflow

open Lib.Runs Lib.Table TokenTimer.Json

/-! ## §1. Errors. -/

/-- `CsrWorkflowError`, or the error of a statement. -/
structure CsrWorkflowError where
  message : String
  code : String
  status : Nat := 400
deriving DecidableEq, Repr

/-- `if (!cond) fail(message, code, status)`. -/
def check (cond : Bool) (message code : String) (status : Nat) : Except CsrWorkflowError Unit :=
  if cond then .ok () else .error ⟨message, code, status⟩

theorem check_bind_ok {β : Type} {c : Bool} {message code : String} {status : Nat}
    {f : Unit → Except CsrWorkflowError β} {b : β} :
    (check c message code status >>= f) = .ok b ↔ c = true ∧ f () = .ok b := by
  cases c <;> simp [check, bind, Except.bind]

def found {α : Type} (row : Option α) (message code : String) (status : Nat) :
    Except CsrWorkflowError α :=
  match row with
  | some a => .ok a
  | none => .error ⟨message, code, status⟩

@[simp] theorem found_ok {α : Type} {row : Option α} {message code : String} {status : Nat} {a : α} :
    found row message code status = .ok a ↔ row = some a := by
  cases row <;> simp [found]

/-! ## §2. The tables. -/

/-- What `parsePublicCertificateMaterial` says of one certificate. -/
structure Leaf where
  commonName : Option String := none
  subjectAltNames : List String := []
  issuer : Option String := none
  subject : Option String := none
  serialNumber : Option String := none
  certificatePem : String
  fingerprintSha256 : String
  spkiFingerprintSha256 : Option String
  publicKeyAlgorithm : Option String := none
  publicKeySize : Option Nat := none
  signatureAlgorithm : Option String := none
  notBefore : Option String := none
  notAfter : Option String := none
deriving DecidableEq, Repr

/-- What `parsePublicCsr` says of a CSR. -/
structure Csr where
  csrPem : String
  csrDerSha256 : String
  spkiFingerprintSha256 : String
  subject : String
  requestedNames : List String
deriving DecidableEq, Repr

/-- `managed_certificates.status`. -/
inductive CertificateStatus
  | discovered | provisioning | active | renewing | expiring | expired | revoked | decommissioned
deriving DecidableEq, Repr

/-- `RETIRED`. -/
def CertificateStatus.isRetired : CertificateStatus → Bool
  | .revoked | .decommissioned => true
  | _ => false

/-- A `source_ref`: `csr:` and the id of a workflow, or any other text. -/
inductive SourceRef
  | csr (workflowId : Nat)
  | text (value : String)
deriving DecidableEq, Repr

/-- `source_ref LIKE 'csr:%'`. -/
def SourceRef.isCsr : SourceRef → Bool
  | .csr _ => true
  | .text _ => false

/-- The columns of `managed_certificates` that say which certificate it is. -/
structure Facts where
  commonName : Option String
  subjectAltNames : List String
  issuer : Option String
  subject : Option String
  serialNumber : Option String
  certificatePem : Option String
  fingerprintSha256 : Option String
  spkiFingerprintSha256 : Option String
  publicKeyAlgorithm : Option String
  publicKeySize : Option Nat
  signatureAlgorithm : Option String
  notBefore : Option String
  notAfter : Option String
deriving DecidableEq, Repr

/-- The columns as `promote` and the import write them. -/
def Leaf.facts (leaf : Leaf) : Facts where
  commonName := leaf.commonName
  subjectAltNames := leaf.subjectAltNames
  issuer := leaf.issuer
  subject := leaf.subject
  serialNumber := leaf.serialNumber
  certificatePem := some leaf.certificatePem
  fingerprintSha256 := some leaf.fingerprintSha256
  spkiFingerprintSha256 := leaf.spkiFingerprintSha256
  publicKeyAlgorithm := leaf.publicKeyAlgorithm
  publicKeySize := leaf.publicKeySize
  signatureAlgorithm := leaf.signatureAlgorithm
  notBefore := leaf.notBefore
  notAfter := leaf.notAfter

/-- A row of `managed_certificates`. -/
structure Certificate where
  id : Nat
  tokenId : Option Nat
  status : CertificateStatus
  source : String
  sourceRef : Option SourceRef
  identityObservedAt : Option Nat
  facts : Facts
  createdBy : Option Nat := none
deriving DecidableEq, Repr

/-- A row of `certificate_instances`. -/
structure Instance where
  id : Nat
  managedCertificateId : Nat
  targetId : Nat
  observedFingerprintSha256 : Option String
deriving DecidableEq, Repr

/-- A row of `certificate_targets`. -/
structure Target where
  id : Nat
  name : String
  targetType : String
  source : String
  sourceRef : Option String
  domainMonitorId : Option Nat := none
  decommissioned : Bool := false
deriving DecidableEq, Repr

/-- `certificate_csr_workflows.status`. -/
inductive WorkflowStatus
  | pendingSignature | signedPendingInstall | completed | cancelled
deriving DecidableEq, Repr

/-- A row of `certificate_csr_workflows`. -/
structure Workflow where
  id : Nat
  targetId : Nat
  existingCertificateId : Option Nat
  managedCertificateId : Option Nat := none
  csrDerSha256 : String
  spkiFingerprintSha256 : String
  csrPem : String
  subject : String
  requestedNames : List String
  status : WorkflowStatus := .pendingSignature
  signedLeafPem : Option String := none
  signedChainPem : Option String := none
  signedFingerprintSha256 : Option String := none
  issuedNames : List String := []
  nameAdditions : List String := []
  nameOmissions : List String := []
  namesAcknowledgedAt : Option Nat := none
  namesAcknowledgedBy : Option Nat := none
  observedInstanceId : Option Nat := none
  identityConflictAt : Option Nat := none
  identityConflictInstanceId : Option Nat := none
  identityConflictCertificateId : Option Nat := none
  confirmedAt : Option Nat := none
  confirmedBy : Option Nat := none
  confirmationMethod : Option String := none
  createdBy : Option Nat
  updatedAt : Nat
deriving DecidableEq, Repr

/-- What a statement did. -/
inductive Event
  | imported (workflowId : Nat) (leaf : Leaf)
  | restarted (workflowId : Nat)
  | acknowledged (workflowId : Nat)
  | conflicted (workflowId instanceId certificateId : Nat)
  /-- An observation that leaves no conflict. -/
  | resolved (workflowId : Nat)
  | cancelled (workflowId : Nat)
  /-- The workflow as `promote` had it, the leaf, the time, and the row of
      `managed_certificates` before and after its UPDATE. -/
  | promoted (row : Workflow) (leaf : Leaf) (now : Nat) (before after : Certificate)
  /-- A promotion put off, with the leftover rows of the leaf. -/
  | deferred (row : Workflow) (leftovers : List Certificate)
deriving DecidableEq, Repr

/-- The tables of one workspace. -/
structure State where
  now : Nat
  workflows : List Workflow
  certificates : List Certificate
  instances : List Instance
  targets : List Target
  /-- `certops_certificate_identities.lifecycle_status` where it is retired. -/
  lifecycle : String → Option CertificateStatus
  history : List Event

def State.initial (certificates : List Certificate) (targets : List Target) : State :=
  ⟨0, [], certificates, [], targets, fun _ => none, []⟩

/-- The parsers, and what else is decided outside this service. -/
structure Config where
  parsePublicCertificateMaterial : String → Except CsrWorkflowError (List Leaf)
  /-- A parsed certificate, read again, is that certificate. -/
  parse_certificatePem : ∀ text certificates, parsePublicCertificateMaterial text = .ok certificates →
    ∀ leaf ∈ certificates, ∀ again,
      parsePublicCertificateMaterial leaf.certificatePem = .ok again → again = [leaf]
  parsePublicCsr : String → Except CsrWorkflowError Csr
  containsGenericSecretMaterial : String → Bool
  /-- The hash in the `source_ref` of a named target, of its type and name. -/
  targetIdentity : String → String → String

/-- What one transaction is answered from outside: the ids it draws, the other
    triggers on `managed_certificates`, the token services, and the order of the
    rows of a query that has no `ORDER BY`. -/
structure Answers where
  newId : Nat
  newTargetId : Nat
  triggers : Nat → Except CsrWorkflowError Unit
  ensureManagedCertificateToken : Nat → Except CsrWorkflowError Nat
  updateCertificateTokenFacts : Nat → Except CsrWorkflowError Unit
  arrange : List Workflow → List Workflow
  arrange_perm : ∀ rows, (arrange rows).Perm rows

def State.setWorkflow (s : State) (id : Nat) (f : Workflow → Workflow) : State :=
  { s with workflows := updateWhere (fun w => w.id = id) f s.workflows }

def State.note (s : State) (event : Event) : State :=
  { s with history := s.history ++ [event] }

/-- A provisional row of this service, with no token. -/
def Certificate.isProvisional (c : Certificate) : Bool :=
  c.status = .provisioning && c.tokenId.isNone && c.sourceRef.any SourceRef.isCsr

/-- A provisional row that nothing is deployed of. -/
def Certificate.isBare (s : State) (c : Certificate) : Bool :=
  c.isProvisional && !s.instances.any (fun i => i.managedCertificateId = c.id)

/-! ## §3. The triggers and the foreign keys. -/

/-- An UPDATE that is older than what the row says.  It keeps `public_metadata`,
    so the resource versions of the two rows are equal. -/
def staleObservation (old new : Certificate) : Bool :=
  match new.identityObservedAt, old.identityObservedAt with
  | some observed, some last =>
    old.facts.fingerprintSha256.isSome && decide (observed ≤ last) &&
      (decide (observed < last) || decide (new.facts.fingerprintSha256 ≠ old.facts.fingerprintSha256))
  | _, _ => false

/-- `certops_prepare_managed_identity` on an UPDATE. -/
def prepareManagedIdentity (s : State) (old new : Certificate) : Certificate :=
  if staleObservation old new then old
  else
    match new.facts.fingerprintSha256 with
    | none => new
    | some fingerprint =>
      { new with
        identityObservedAt :=
          if new.facts.fingerprintSha256 = old.facts.fingerprintSha256 then new.identityObservedAt
          else some (new.identityObservedAt.getD s.now)
        status :=
          match s.lifecycle fingerprint with
          | some retired => retired
          | none =>
            if new.facts.fingerprintSha256 ≠ old.facts.fingerprintSha256 && old.status.isRetired then
              if new.source = "agent_issuance" then .active else .discovered
            else new.status }

/-- `UPDATE managed_certificates SET … WHERE id = …`. -/
def State.updateCertificate (s : State) (id : Nat) (f : Certificate → Certificate) : State :=
  { s with
    certificates := updateWhere (fun c => c.id = id) (fun c => prepareManagedIdentity s c (f c))
      s.certificates }

/-- The row that `upsertManagedCertificate` inserts for an import, as the trigger
    leaves it. -/
def provisionalCertificate (s : State) (id : Nat) (row : Workflow) (actorUserId : Option Nat)
    (leaf : Leaf) : Certificate where
  id := id
  tokenId := none
  status := (s.lifecycle leaf.fingerprintSha256).getD .provisioning
  source := "api"
  sourceRef := some (.csr row.id)
  identityObservedAt := some s.now
  facts := leaf.facts
  createdBy := actorUserId

/-- `ON DELETE SET NULL` of a workflow, for a certificate and its instances. -/
def Workflow.clearReferences (certificateId : Nat) (gone : Nat → Bool) (w : Workflow) : Workflow :=
  { w with
    observedInstanceId := if w.observedInstanceId.any gone then none else w.observedInstanceId
    identityConflictInstanceId :=
      if w.identityConflictInstanceId.any gone then none else w.identityConflictInstanceId
    identityConflictCertificateId :=
      if w.identityConflictCertificateId = some certificateId then none
      else w.identityConflictCertificateId }

/-- The ids of the instances of a certificate. -/
def State.instanceOf (s : State) (certificateId instanceId : Nat) : Bool :=
  s.instances.any fun i => i.managedCertificateId = certificateId ∧ i.id = instanceId

/-- A workflow that `fk_csr_existing_certificate` or `fk_csr_managed_certificate`
    ties to a certificate. -/
def Workflow.references (certificateId : Nat) (w : Workflow) : Bool :=
  w.existingCertificateId = some certificateId ∨ w.managedCertificateId = some certificateId

/-- `DELETE FROM managed_certificates WHERE id = … AND …`. -/
def deleteCertificate (s : State) (id : Nat) (p : Certificate → Bool) :
    Except CsrWorkflowError State :=
  if s.certificates.any fun c => c.id = id && p c then do
    check (!s.workflows.any (Workflow.references id))
      "update or delete on table \"managed_certificates\" violates foreign key constraint" "23503" 500
    .ok { s with
      certificates := deleteWhere (fun c => c.id = id) s.certificates
      instances := deleteWhere (fun i => i.managedCertificateId = id) s.instances
      workflows := s.workflows.map (Workflow.clearReferences id (s.instanceOf id)) }
  else .ok s

/-! ## §4. Rows and names. -/

def workflowRow (s : State) (workflowId : Nat) : Except CsrWorkflowError Workflow :=
  found (selectOne (fun w => w.id = workflowId) s.workflows)
    "CSR workflow not found" "CERTOPS_CSR_NOT_FOUND" 404

def findFingerprintOwners (s : State) (fingerprint : String) : List Certificate :=
  s.certificates.filter fun c => c.facts.fingerprintSha256 = some fingerprint

def issuedNamesFor (leaf : Leaf) : List String :=
  (((leaf.commonName.toList ++ leaf.subjectAltNames).filter (· ≠ "")).dedup).insertionSort
    (fun a b => js a ≤ js b)

def nameAdditions (requested : List String) (leaf : Leaf) : List String :=
  (issuedNamesFor leaf).filter (· ∉ requested)

def nameOmissions (requested : List String) (leaf : Leaf) : List String :=
  requested.filter (· ∉ issuedNamesFor leaf)

def namesNeedAcknowledgement (row : Workflow) : Bool :=
  (!row.nameAdditions.isEmpty || !row.nameOmissions.isEmpty) && row.namesAcknowledgedAt.isNone

/-! ## §5. Creation and restart. -/

def TARGET_TYPES : List String := ["host", "load-balancer", "appliance", "other"]

/-- A body that names a target by id, or describes it. -/
inductive TargetRequest
  | id (targetId : Nat)
  | named (name type : String)

def resolveTarget (cfg : Config) (answers : Answers) (s : State) :
    TargetRequest → Except CsrWorkflowError (State × Nat)
  | .id targetId => do
    let target ← found (selectOne (fun t => t.id = targetId ∧ !t.decommissioned) s.targets)
      "Target not found" "CERTOPS_CSR_TARGET_NOT_FOUND" 404
    .ok (s, target.id)
  | .named name type => do
    let trimmed := jsTrim name
    check (trimmed ≠ "" && decide ((js trimmed).length ≤ 120) && TARGET_TYPES.contains type &&
      !cfg.containsGenericSecretMaterial trimmed) "Invalid CSR target" "CERTOPS_CSR_TARGET_INVALID" 400
    let identity := "csr-target:" ++ cfg.targetIdentity type trimmed
    match selectOne (fun t => t.source = "api" ∧ t.sourceRef = some identity) s.targets with
    | some target => .ok (s, target.id)
    | none => do
      check (!s.targets.any (fun t => t.id = answers.newTargetId)) "duplicate key value" "23505" 500
      .ok ({ s with targets := s.targets ++
        [⟨answers.newTargetId, trimmed, type, "api", some identity, none, false⟩] }, answers.newTargetId)

/-- `restartCancelledCsr`'s SET. -/
def Workflow.restart (now : Nat) (row : Workflow) : Workflow :=
  { row with
    status := .pendingSignature, managedCertificateId := none, signedLeafPem := none
    signedChainPem := none, signedFingerprintSha256 := none, issuedNames := [], nameAdditions := []
    nameOmissions := [], namesAcknowledgedAt := none, namesAcknowledgedBy := none
    observedInstanceId := none, identityConflictAt := none, identityConflictInstanceId := none
    identityConflictCertificateId := none, confirmedAt := none, confirmedBy := none
    confirmationMethod := none, updatedAt := now }

def restartCancelledCsr (s : State) (row : Workflow) : State × Workflow :=
  ((s.setWorkflow row.id (·.restart s.now)).note (.restarted row.id), row.restart s.now)

structure CreateRequest where
  actorUserId : Option Nat
  csrPem : String
  target : TargetRequest
  existingCertificateId : Option Nat

/-- The row that a creation inserts. -/
def newWorkflow (now id targetId : Nat) (request : CreateRequest) (csr : Csr) : Workflow where
  id := id
  targetId := targetId
  existingCertificateId := request.existingCertificateId
  csrDerSha256 := csr.csrDerSha256
  spkiFingerprintSha256 := csr.spkiFingerprintSha256
  csrPem := csr.csrPem
  subject := csr.subject
  requestedNames := csr.requestedNames
  createdBy := request.actorUserId
  updatedAt := now

def checkExistingCertificate (s : State) :
    Option Nat → Except CsrWorkflowError Unit
  | none => .ok ()
  | some id => do
    let certificate ← found (selectOne (fun c => c.id = id) s.certificates)
      "Certificate not found" "CERTOPS_CERTIFICATE_NOT_FOUND" 404
    check (!certificate.status.isRetired) "Certificate is retired" "CERTOPS_CSR_IDENTITY_CONFLICT" 409

/-- `createCsrWorkflow`.  The INSERT that meets a row of a concurrent creation
    reads that row as if it had been found. -/
def createCsrWorkflow (cfg : Config) (answers : Answers) (request : CreateRequest) (s : State) :
    Except CsrWorkflowError (State × Workflow) := do
  let csr ← cfg.parsePublicCsr request.csrPem
  let (s, targetId) ← resolveTarget cfg answers s request.target
  checkExistingCertificate s request.existingCertificateId
  match selectOne (fun w => w.targetId = targetId ∧ w.csrDerSha256 = csr.csrDerSha256) s.workflows with
  | some row => do
    check (row.existingCertificateId = request.existingCertificateId)
      "CSR already belongs to another certificate identity" "CERTOPS_CSR_IDENTITY_CONFLICT" 409
    if row.status = .cancelled then .ok (restartCancelledCsr s row) else .ok (s, row)
  | none => do
    check (!s.workflows.any (fun w => w.id = answers.newId)) "duplicate key value" "23505" 500
    let row := newWorkflow s.now answers.newId targetId request csr
    .ok ({ s with workflows := s.workflows ++ [row] }, row)

/-! ## §6. The import of the signed certificate. -/

/-- `importSignedCertificate`'s SET. -/
def Workflow.sign (now managedCertificateId : Nat) (leaf : Leaf) (chain : Option String)
    (row : Workflow) : Workflow :=
  { row with
    status := .signedPendingInstall, managedCertificateId := some managedCertificateId
    signedLeafPem := some leaf.certificatePem, signedChainPem := chain
    signedFingerprintSha256 := some leaf.fingerprintSha256, issuedNames := issuedNamesFor leaf
    nameAdditions := CsrWorkflow.nameAdditions row.requestedNames leaf
    nameOmissions := CsrWorkflow.nameOmissions row.requestedNames leaf, updatedAt := now }

/-- The certificate an import signs for: the selected one, the one that owns the
    leaf, or a provisional row of its own. -/
def importIdentity (answers : Answers) (row : Workflow) (actorUserId : Option Nat) (leaf : Leaf)
    (s : State) : Except CsrWorkflowError (State × Nat) := do
  let owners := findFingerprintOwners s leaf.fingerprintSha256
  check (!owners.any (·.status.isRetired))
    "Signed certificate belongs to a retired identity" "CERTOPS_CSR_IDENTITY_CONFLICT" 409
  match row.existingCertificateId with
  | some existing => do
    let selected ← found (selectOne (fun c => c.id = existing) s.certificates)
      "Selected certificate is unavailable" "CERTOPS_CSR_IDENTITY_CONFLICT" 409
    check (!selected.status.isRetired)
      "Selected certificate is unavailable" "CERTOPS_CSR_IDENTITY_CONFLICT" 409
    check (!owners.any (fun owner => owner.id ≠ existing))
      "Signed certificate belongs to another identity" "CERTOPS_CSR_IDENTITY_CONFLICT" 409
    .ok (s, existing)
  | none =>
    match owners with
    | [owner] => .ok (s, owner.id)
    | _ :: _ :: _ =>
      .error ⟨"Signed certificate identity is ambiguous", "CERTOPS_CSR_IDENTITY_CONFLICT", 409⟩
    | [] => do
      check (!s.certificates.any (fun c => c.id = answers.newId)) "duplicate key value" "23505" 500
      answers.triggers answers.newId
      .ok ({ s with certificates := s.certificates ++
        [provisionalCertificate s answers.newId row actorUserId leaf] }, answers.newId)

/-- The PEMs after the first, or null. -/
def chainPem (rest : List Leaf) : Option String :=
  if rest.isEmpty then none else some ("\n".intercalate (rest.map (·.certificatePem)))

def importSignedCertificate (cfg : Config) (answers : Answers) (workflowId : Nat)
    (actorUserId : Option Nat) (certificatePem : String) (s : State) :
    Except CsrWorkflowError (State × Workflow) := do
  match ← cfg.parsePublicCertificateMaterial certificatePem with
  | [] => .error ⟨"Cannot read properties of undefined", "TypeError", 500⟩
  | leaf :: rest => do
    let row ← workflowRow s workflowId
    check (row.status ≠ .cancelled) "CSR workflow is cancelled" "CERTOPS_CSR_STATE_CONFLICT" 409
    if row.status ≠ .pendingSignature then
      check (row.signedFingerprintSha256 = some leaf.fingerprintSha256)
        "CSR already has a different signed certificate" "CERTOPS_CSR_STATE_CONFLICT" 409
      .ok (s, row)
    else
      check (leaf.spkiFingerprintSha256 = some row.spkiFingerprintSha256)
        "Signed certificate public key does not match CSR" "CERTOPS_CSR_PUBLIC_KEY_MISMATCH" 422
      let (s, managedCertificateId) ← importIdentity answers row actorUserId leaf s
      let sign := Workflow.sign s.now managedCertificateId leaf (chainPem rest)
      .ok ((s.setWorkflow row.id sign).note (.imported row.id leaf), sign row)

/-! ## §7. The promotion. -/

/-- How an installation was confirmed. -/
inductive Method
  | manual | observation
deriving DecidableEq, Repr

/-- `promote`'s UPDATE of the certificate. -/
def Certificate.promote (now : Nat) (leaf : Leaf) (c : Certificate) : Certificate :=
  { c with status := .active, identityObservedAt := some now, facts := leaf.facts }

/-- `promote`'s UPDATE of the workflow. -/
def Workflow.complete (now : Nat) (actorUserId : Option Nat) (method : Method)
    (instanceId : Option Nat) (row : Workflow) : Workflow :=
  { row with
    status := .completed
    observedInstanceId := instanceId <|> row.observedInstanceId
    confirmedAt := if method = .manual then some now else row.confirmedAt
    confirmedBy := if method = .manual then actorUserId else row.confirmedBy
    confirmationMethod := if method = .manual then some "manual" else row.confirmationMethod
    updatedAt := now }

def certificateToken (answers : Answers) (certificateId : Nat) : Option Nat → Except CsrWorkflowError Nat
  | some tokenId => .ok tokenId
  | none => answers.ensureManagedCertificateToken certificateId

def linkReconciledCertificateToken (answers : Answers) (s : State) (certificateId : Nat)
    (existingTokenId : Option Nat) : Except CsrWorkflowError State := do
  let tokenId ← certificateToken answers certificateId existingTokenId
  answers.updateCertificateTokenFacts tokenId
  .ok (s.updateCertificate certificateId fun c => { c with tokenId := some tokenId })

/-- The first certificate of the PEM a workflow stores. -/
def signedLeaf (cfg : Config) (row : Workflow) : Except CsrWorkflowError Leaf := do
  let pem ← found row.signedLeafPem
    "Certificate input must be a non-empty PEM string or DER byte sequence"
    "CERTOPS_CERTIFICATE_PARSE_FAILED" 400
  let certificates ← cfg.parsePublicCertificateMaterial pem
  found certificates.head? "Cannot read properties of undefined" "TypeError" 500

def promotionTarget (s : State) (row : Workflow) (leaf : Leaf) :
    Except CsrWorkflowError Certificate := do
  check (!(findFingerprintOwners s leaf.fingerprintSha256).any fun owner =>
      owner.status.isRetired || row.managedCertificateId ≠ some owner.id)
    "Signed certificate identity changed" "CERTOPS_CSR_IDENTITY_CONFLICT" 409
  let current ← found (selectOne (fun c => row.managedCertificateId = some c.id) s.certificates)
    "Certificate is retired" "CERTOPS_CSR_IDENTITY_CONFLICT" 409
  check (!current.status.isRetired) "Certificate is retired" "CERTOPS_CSR_IDENTITY_CONFLICT" 409
  .ok current

/-- `promote`'s UPDATE of `managed_certificates`, noted. -/
def State.writeLeaf (s : State) (row : Workflow) (leaf : Leaf) (current : Certificate) : State :=
  (s.updateCertificate current.id (·.promote s.now leaf)).note
    (.promoted row leaf s.now current (prepareManagedIdentity s current (current.promote s.now leaf)))

def promote (cfg : Config) (answers : Answers) (row : Workflow) (actorUserId : Option Nat)
    (method : Method) (instanceId : Option Nat) (s : State) :
    Except CsrWorkflowError (State × Workflow) := do
  if row.status ≠ .signedPendingInstall then .ok (s, row)
  else
    check (!namesNeedAcknowledgement row)
      "Name changes require acknowledgement" "CERTOPS_CSR_NAMES_ACK_REQUIRED" 409
    let leaf ← signedLeaf cfg row
    let current ← promotionTarget s row leaf
    answers.triggers current.id
    let linked ← linkReconciledCertificateToken answers (s.writeLeaf row leaf current) current.id
      current.tokenId
    let complete := Workflow.complete s.now actorUserId method instanceId
    .ok (linked.setWorkflow row.id complete, complete row)

/-! ## §8. Acknowledgement, confirmation, cancellation. -/

/-- `acknowledgeCsrNames`'s SET. -/
def Workflow.acknowledge (now : Nat) (actorUserId : Option Nat) (row : Workflow) : Workflow :=
  { row with namesAcknowledgedAt := some now, namesAcknowledgedBy := actorUserId, updatedAt := now }

def giveAcknowledgement (actorUserId : Option Nat) (row : Workflow) (s : State) : State × Workflow :=
  if row.namesAcknowledgedAt.isSome then (s, row)
  else ((s.setWorkflow row.id (·.acknowledge s.now actorUserId)).note (.acknowledged row.id),
    row.acknowledge s.now actorUserId)

def acknowledgeCsrNames (cfg : Config) (answers : Answers) (workflowId : Nat)
    (actorUserId : Option Nat) (s : State) : Except CsrWorkflowError (State × Workflow) := do
  let row ← workflowRow s workflowId
  check (row.status = .signedPendingInstall)
    "CSR is not awaiting installation" "CERTOPS_CSR_STATE_CONFLICT" 409
  let (s, row) := giveAcknowledgement actorUserId row s
  if row.observedInstanceId.isSome && row.identityConflictAt.isNone then
    promote cfg answers row actorUserId .observation row.observedInstanceId s
  else .ok (s, row)

def confirmCsrInstallation (cfg : Config) (answers : Answers) (workflowId : Nat)
    (actorUserId : Option Nat) (s : State) : Except CsrWorkflowError (State × Workflow) := do
  let row ← workflowRow s workflowId
  check (row.status = .signedPendingInstall)
    "CSR is not awaiting installation" "CERTOPS_CSR_STATE_CONFLICT" 409
  check row.identityConflictAt.isNone
    "Observed certificate belongs to another managed identity" "CERTOPS_CSR_IDENTITY_CONFLICT" 409
  let target ← found (selectOne (fun t => t.id = row.targetId) s.targets)
    "Monitored targets require an observation" "CERTOPS_CSR_MANUAL_CONFIRMATION_UNAVAILABLE" 409
  check (["api", "manual", "import"].contains target.source && target.domainMonitorId.isNone)
    "Monitored targets require an observation" "CERTOPS_CSR_MANUAL_CONFIRMATION_UNAVAILABLE" 409
  promote cfg answers row actorUserId .manual none s

/-- `cancelCsrWorkflow`'s SET. -/
def Workflow.cancel (now : Nat) (row : Workflow) : Workflow :=
  { row with status := .cancelled, managedCertificateId := none, updatedAt := now }

/-- The rows `cancelCsrWorkflow` may delete. -/
def Certificate.released (s : State) (c : Certificate) : Bool :=
  c.status = .provisioning && c.tokenId.isNone && c.source = "api" &&
    c.sourceRef.any SourceRef.isCsr &&
    !s.workflows.any (fun w => w.managedCertificateId = some c.id) &&
    !s.instances.any (fun i => i.managedCertificateId = c.id)

def cancelCsrWorkflow (workflowId : Nat) (s : State) : Except CsrWorkflowError (State × Workflow) := do
  let row ← workflowRow s workflowId
  check (row.status ≠ .completed) "Completed CSR cannot be cancelled" "CERTOPS_CSR_STATE_CONFLICT" 409
  if row.status = .cancelled then .ok (s, row)
  else
    let cancelled := (s.setWorkflow row.id (·.cancel s.now)).note (.cancelled row.id)
    match row.managedCertificateId, row.existingCertificateId with
    | some managed, none => do
      let released ← deleteCertificate cancelled managed (Certificate.released cancelled)
      .ok (released, row.cancel s.now)
    | _, _ => .ok (cancelled, row.cancel s.now)

/-! ## §9. Observations. -/

structure Observation where
  targetId : Nat
  fingerprintSha256 : String
  instanceId : Nat
deriving DecidableEq, Repr

/-- The workflows an observation may complete. -/
def Workflow.awaits (obs : Observation) (w : Workflow) : Bool :=
  w.targetId = obs.targetId && w.signedFingerprintSha256 = some obs.fingerprintSha256 &&
    w.status = .signedPendingInstall

def observedCertificate (s : State) (obs : Observation) : Option Nat :=
  (selectOne (fun i => i.id = obs.instanceId ∧ i.targetId = obs.targetId ∧
    i.observedFingerprintSha256 = some obs.fingerprintSha256) s.instances).map (·.managedCertificateId)

/-- A conflict of identities, recorded. -/
def Workflow.conflict (now instanceId certificateId : Nat) (w : Workflow) : Workflow :=
  { w with
    identityConflictAt := some now, identityConflictInstanceId := some instanceId
    identityConflictCertificateId := some certificateId, updatedAt := now }

def Workflow.reassign (now certificateId : Nat) (w : Workflow) : Workflow :=
  { w with managedCertificateId := some certificateId, updatedAt := now }

def Workflow.shares (row : Workflow) (fingerprint : String) (w : Workflow) : Bool :=
  row.managedCertificateId.isSome && w.managedCertificateId = row.managedCertificateId &&
    w.existingCertificateId.isNone && w.signedFingerprintSha256 = some fingerprint &&
    w.status = .signedPendingInstall

/-- The provisional row that a workflow created and nothing has taken over. -/
def Certificate.provisionalOf (row : Workflow) (c : Certificate) : Bool :=
  c.status = .provisioning && c.tokenId.isNone && c.sourceRef = some (.csr row.id)

/-- The moves of a new-certificate workflow, and of those that share its
    provisional row, to the observed certificate. -/
def moveToObserved (obs : Observation) (row : Workflow) (observed : Nat) (s : State) : State :=
  let moved := s.setWorkflow row.id (·.reassign s.now observed)
  { moved with
    workflows := updateWhere (row.shares obs.fingerprintSha256) (·.reassign s.now observed)
      moved.workflows }

/-- A new-certificate workflow moves, and the provisional row it created goes. -/
def reassignObserved (obs : Observation) (row : Workflow) (observed : Nat) (s : State) :
    Except CsrWorkflowError (State × Workflow) := do
  let current ← workflowRow (s.setWorkflow row.id (·.reassign s.now observed)) row.id
  match row.managedCertificateId with
  | some managed => do
    let s ← deleteCertificate (moveToObserved obs row observed s) managed (Certificate.provisionalOf row)
    .ok (s, current)
  | none => .ok (moveToObserved obs row observed s, current)

/-- The observation is recorded; it resolves a conflict if nothing else owns the
    leaf. -/
def Workflow.observe (now instanceId : Nat) (resolved : Bool) (w : Workflow) : Workflow :=
  { w with
    observedInstanceId := some instanceId
    identityConflictAt := if resolved then none else w.identityConflictAt
    identityConflictInstanceId := if resolved then none else w.identityConflictInstanceId
    identityConflictCertificateId := if resolved then none else w.identityConflictCertificateId
    updatedAt := now }

/-- Nothing but the certificate of a rotation owns its leaf. -/
def conflictResolved (s : State) (obs : Observation) (row : Workflow) : Bool :=
  row.existingCertificateId.isNone ||
    (findFingerprintOwners s obs.fingerprintSha256).all fun owner =>
      row.managedCertificateId = some owner.id

/-- The provisional rows of the leaf that a workflow is not for. -/
def leftovers (s : State) (row : Workflow) (fingerprint : String) : List Certificate :=
  (findFingerprintOwners s fingerprint).filter fun owner =>
    owner.isBare s && row.managedCertificateId ≠ some owner.id

def promoteOrDefer (cfg : Config) (answers : Answers) (obs : Observation) (current : Workflow)
    (s : State) : State :=
  match promote cfg answers current none .observation (some obs.instanceId) s with
  | .ok (promoted, _) => promoted
  | .error _ => s.note (.deferred current (leftovers s current obs.fingerprintSha256))

/-- What an observation under the certificate of the workflow `current` does to it. -/
def settleObserved (cfg : Config) (answers : Answers) (obs : Observation) (row current : Workflow)
    (s : State) : State :=
  let resolved := conflictResolved s obs row
  let observed := s.setWorkflow row.id (·.observe s.now obs.instanceId resolved)
  if resolved then
    let observed := observed.note (.resolved row.id)
    if namesNeedAcknowledgement current then observed
    else promoteOrDefer cfg answers obs current observed
  else observed

/-- One turn of the loop of `recordCsrObservation`. -/
def observeWorkflow (cfg : Config) (answers : Answers) (obs : Observation) (row : Workflow)
    (s : State) : Except CsrWorkflowError State :=
  match observedCertificate s obs with
  | none => .ok s
  | some observed =>
    if row.managedCertificateId = some observed then .ok (settleObserved cfg answers obs row row s)
    else if row.existingCertificateId.isSome then
      -- The operator's choice of the certificate stands.
      .ok ((s.setWorkflow row.id (·.conflict s.now obs.instanceId observed)).note
        (.conflicted row.id obs.instanceId observed))
    else do
      let (moved, current) ← reassignObserved obs row observed s
      .ok (settleObserved cfg answers obs row current moved)

/-- The loop, over the rows as they were selected. -/
def observeWorkflows (cfg : Config) (answers : Answers) (obs : Observation) :
    List Workflow → State → Except CsrWorkflowError State
  | [], s => .ok s
  | row :: rest, s => do
    let s ← observeWorkflow cfg answers obs row s
    observeWorkflows cfg answers obs rest s

def recordCsrObservation (cfg : Config) (answers : Answers) (obs : Observation) (s : State) :
    Except CsrWorkflowError State :=
  observeWorkflows cfg answers obs (answers.arrange (s.workflows.filter (Workflow.awaits obs))) s

/-! ## §10. The system. -/

/-- What the other writers of `managed_certificates` may leave: no row is
    deleted, and they make none of the provisional rows of this service. -/
def inventoryWrite (s : State) (certificates : List Certificate) : Prop :=
  KeyNodup Certificate.id certificates ∧
  (∀ c ∈ s.certificates, ∃ c' ∈ certificates, c'.id = c.id) ∧
  (∀ c' ∈ certificates, c'.isProvisional = true → ∃ c ∈ s.certificates, c.id = c'.id ∧
    c.isProvisional = true ∧ c.source = c'.source ∧ c.sourceRef = c'.sourceRef ∧
    c.facts.fingerprintSha256 = c'.facts.fingerprintSha256)

instance (s : State) (certificates : List Certificate) : Decidable (inventoryWrite s certificates) :=
  inferInstanceAs (Decidable (_ ∧ _ ∧ _))

def instanceWrite (s : State) (i : Instance) : Bool :=
  !s.instances.any (fun x => x.id = i.id) && s.certificates.any (fun c => c.id = i.managedCertificateId)

/-- What happens in a workspace. -/
inductive Action
  | createCsrWorkflow (answers : Answers) (request : CreateRequest)
  | importSignedCertificate (answers : Answers) (workflowId : Nat) (actorUserId : Option Nat)
      (certificatePem : String)
  | acknowledgeCsrNames (answers : Answers) (workflowId : Nat) (actorUserId : Option Nat)
  | confirmCsrInstallation (answers : Answers) (workflowId : Nat) (actorUserId : Option Nat)
  | cancelCsrWorkflow (workflowId : Nat)
  | recordCsrObservation (answers : Answers) (obs : Observation)
  /-- An observer records where it saw a certificate. -/
  | insertInstance (i : Instance)
  /-- Imports, observers, issuance and retirement, on `managed_certificates`. -/
  | writeInventory (certificates : List Certificate)
  | writeTargets (targets : List Target)
  | writeLifecycle (lifecycle : String → Option CertificateStatus)
  | tick (ms : Nat)

/-- What a transaction leaves: an error rolls it back. -/
def committed {α : Type} (s : State) : Except CsrWorkflowError (State × α) → State
  | .ok (s', _) => s'
  | .error _ => s

/-- The tables after an action. -/
def next (cfg : Config) (s : State) : Action → State
  | .createCsrWorkflow answers request => committed s (createCsrWorkflow cfg answers request s)
  | .importSignedCertificate answers id actor pem =>
    committed s (importSignedCertificate cfg answers id actor pem s)
  | .acknowledgeCsrNames answers id actor => committed s (acknowledgeCsrNames cfg answers id actor s)
  | .confirmCsrInstallation answers id actor =>
    committed s (confirmCsrInstallation cfg answers id actor s)
  | .cancelCsrWorkflow id => committed s (cancelCsrWorkflow id s)
  | .recordCsrObservation answers obs =>
    committed s ((recordCsrObservation cfg answers obs s).map (·, ()))
  | .insertInstance i => if instanceWrite s i then { s with instances := s.instances ++ [i] } else s
  | .writeInventory certificates =>
    if inventoryWrite s certificates then { s with certificates } else s
  | .writeTargets targets => { s with targets }
  | .writeLifecycle lifecycle => { s with lifecycle }
  | .tick ms => { s with now := s.now + ms }

/-- The CSR workflows of one workspace. -/
def csrSystem (cfg : Config) : System State Action where
  init s := ∃ certificates targets, s = State.initial certificates targets ∧
    KeyNodup Certificate.id certificates ∧ ∀ c ∈ certificates, c.isProvisional = false
  step s a t := t = next cfg s a

end TokenTimer.CertOps.CsrWorkflow
