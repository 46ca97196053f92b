/-
  TokenTimer.Evidence.Store — the control plane's side of an evidence report.

  A message with a job goes through `persistAgentJobEvidenceBatch`, one without
  through `persistAgentDiscoveryEvidenceBatch`; either is ONE transaction, and a
  row is inserted with ON CONFLICT DO NOTHING on (workspace, agent, evidence id).
  The upserts of the inventory are an input: they decide the ids that the row
  of a discovery names, and may fail.

  Main results:
    * `get_metadataMap` — which entries the object keeps.
    * `resultsHandler_cases` — what one accepted message writes.
-/

import TokenTimer.Evidence.Items
import TokenTimer.Lib.Dict

namespace TokenTimer.Evidence

open Json Lib

/-! ## §1. Rows. -/

structure Agent where
  id : Nat
  workspaceId : Nat
  agentId : JsString
  hostname : JsString
deriving DecidableEq

/-- The columns of `certificate_jobs` an evidence message reads. -/
structure JobRow where
  id : JsString
  workspaceId : Nat
  claimedByAgentId : Option Nat
  claimId : Option JsString
  attemptCount : Nat
deriving DecidableEq

/-- `certificate_evidence`. -/
structure EvidenceRow where
  workspaceId : Nat
  jobId : Option JsString
  evidenceType : EventType
  subjectId : Option JsString
  metadata : Dict JsString MetadataValue
  observedAt : Option Int
  createdByAgentId : Nat
  clientEvidenceId : JsString
  claimId : Option JsString
  attemptCount : Option Nat
deriving DecidableEq

/-- The columns of `uq_certificate_evidence_agent_client_evidence_id`. -/
def EvidenceRow.key (row : EvidenceRow) : Nat × Nat × JsString :=
  (row.workspaceId, row.createdByAgentId, row.clientEvidenceId)

/-- `INSERT … ON CONFLICT (workspace_id, created_by_agent_id, client_evidence_id) DO NOTHING`. -/
def insertEvidence (rows : List EvidenceRow) (row : EvidenceRow) : List EvidenceRow :=
  if rows.any (·.key = row.key) then rows else rows ++ [row]

/-! ## §2. Metadata. -/

/-- WhiteSpace and LineTerminator. -/
def isSpaceUnit (c : CodeUnit) : Bool :=
  c.val ∈ [0x9, 0xA, 0xB, 0xC, 0xD, 0x20, 0xA0, 0x1680, 0x2000, 0x2001, 0x2002, 0x2003, 0x2004,
    0x2005, 0x2006, 0x2007, 0x2008, 0x2009, 0x200A, 0x2028, 0x2029, 0x202F, 0x205F, 0x3000, 0xFEFF]

/-- `String.prototype.trim`. -/
def trim (text : JsString) : JsString :=
  ((text.dropWhile isSpaceUnit).reverse.dropWhile isSpaceUnit).reverse

/-- `out[key] = value`, where assigning a primitive to `__proto__` does nothing
    that a later read of the own keys sees. -/
def assignEntry (out : Dict JsString MetadataValue) (entry : MetadataEntry) :
    Dict JsString MetadataValue :=
  let key := trim entry.name
  if key = [] ∨ key = protoKey then out else out.set key entry.value

def metadataMapFromItem (item : EvidenceItem) : Dict JsString MetadataValue :=
  item.metadata.foldl assignEntry .empty

/-- `value ?? null`. -/
def textOrNull : Option JsString → MetadataValue
  | none => .null
  | some text => .string text

/-- The keys a client's metadata never keeps. -/
def CLIENT_KEYS_DROPPED : List JsString :=
  [js "redaction", js "agentId", js "created_by_agent_id", js "createdByAgentId"]

def keptFromClient (key : JsString) : Bool := key ∉ CLIENT_KEYS_DROPPED

/-- `buildPersistedEvidenceMetadata`; neither caller passes an output, so there is
    no redaction to note. -/
def buildPersistedEvidenceMetadata (clientMetadata serverOwned : Dict JsString MetadataValue) :
    Dict JsString MetadataValue :=
  (clientMetadata.filterKeys keptFromClient).assign serverOwned

/-- `{ ...base, k₁: v₁, … }`. -/
def setAll (base : Dict JsString MetadataValue) (entries : List (JsString × MetadataValue)) :
    Dict JsString MetadataValue :=
  entries.foldl (fun d e => d.set e.1 e.2) base

/-! ## §3. Evidence of a job. -/

/-- What the control plane says of an item itself. -/
def serverOwnedEntries (agent : Agent) (item : EvidenceItem) (evidenceId : JsString) :
    List (JsString × MetadataValue) :=
  [(js "summary", textOrNull item.summary),
    (js "fingerprintSha256", textOrNull item.fingerprintSha256),
    (js "agentId", .string agent.agentId), (js "evidenceId", .string evidenceId)]

/-- What the ownership check binds the evidence to. -/
structure Binding where
  claimId : Option JsString
  attemptCount : Option Nat

/-- The row `createCertificateEvidence` inserts for an item of a job. -/
def jobEvidenceRow (cfg : Config) (agent : Agent) (jobId : JsString) (binding : Binding)
    (item : EvidenceItem) (evidenceId : JsString) : EvidenceRow where
  workspaceId := agent.workspaceId
  jobId := some jobId
  evidenceType := item.eventType
  subjectId := none
  metadata :=
    buildPersistedEvidenceMetadata
      (setAll (metadataMapFromItem item) (serverOwnedEntries agent item evidenceId))
      (setAll .empty (serverOwnedEntries agent item evidenceId))
  observedAt := cfg.dateParse item.observedAt
  createdByAgentId := agent.id
  clientEvidenceId := evidenceId
  claimId := binding.claimId
  attemptCount := binding.attemptCount

def assertEvidenceClaimOwnership (jobs : List JobRow) (agent : Agent) (jobId : JsString)
    (claimId : Option JsString) : Option Binding :=
  match jobs.find? fun j => j.id = jobId ∧ j.workspaceId = agent.workspaceId with
  | none => none
  | some job =>
    if job.claimedByAgentId ≠ some agent.id then none
    else if claimId.isSome ∧ claimId ≠ job.claimId then none
    else some ⟨job.claimId, some job.attemptCount⟩

/-! ## §4. Evidence of a discovery. -/

/-- Where a certificate was observed. -/
inductive LocationKind
  | filesystem | windowsStore | iisBinding | httpSys
deriving DecidableEq, Repr

def LocationKind.text : LocationKind → JsString
  | .filesystem => js "filesystem"
  | .windowsStore => js "windows_store"
  | .iisBinding => js "iis_binding"
  | .httpSys => js "http_sys"

def LOCATION_KINDS : List LocationKind := [.filesystem, .windowsStore, .iisBinding, .httpSys]

def MetadataValue.truthy : MetadataValue → Bool
  | .null => false
  | .bool b => b
  | .number value => value ≠ 0
  | .string text => text ≠ []

/-- `a || b || …` over metadata values; `none` is `undefined`. -/
def firstTruthy : List (Option MetadataValue) → Option MetadataValue
  | [] => none
  | [last] => last
  | some v :: rest => if v.truthy then some v else firstTruthy rest
  | none :: rest => firstTruthy rest

/-- `optionalText`: `none` where it throws. -/
def optionalText (max : Nat) : Option MetadataValue → Option (Option JsString)
  | none => some none
  | some .null => some none
  | some (.string text) =>
    if text = [] then some none
    else if trim text = [] ∨ max < (trim text).length then none
    else some (some (trim text))
  | some _ => none

def MAX_PATH : Nat := 512
def MAX_TEXT : Nat := 1024

/-- What `normalizeAgentFilesystemObservation` returns, as far as the evidence row
    is written from it. -/
structure Observation where
  evidenceId : JsString
  fingerprintSha256 : JsString
  filePath : Option JsString
  targetHost : JsString
  locationKind : LocationKind
  locationSlot : Option JsString
  summary : Option JsString
  clientMetadata : Dict JsString MetadataValue
  observedAt : Int

/-- The location kind an item names; `filesystem` where it names none. -/
def readLocationKind (clientMeta : Dict JsString MetadataValue) : Option LocationKind :=
  match clientMeta.get (js "locationKind") with
  | some (.string text) =>
    if trim text = [] then some .filesystem
    else LOCATION_KINDS.find? fun k => k.text = trim text
  | _ => some .filesystem

/-- A required text: `none` where it throws. -/
def requiredText (max : Nat) (value : Option MetadataValue) : Option JsString :=
  (optionalText max value).bind id

/-- `filePath`, which only an observation of a file has. -/
def readFilePath (kind : LocationKind) (clientMeta : Dict JsString MetadataValue) :
    Option (Option JsString) :=
  if kind = .filesystem then
    (requiredText MAX_PATH (firstTruthy [clientMeta.get (js "filePath"), clientMeta.get (js "path"),
      clientMeta.get (js "certificatePath")])).map some
  else some none

/-- `locationSlot`, which every other observation has. -/
def readLocationSlot (kind : LocationKind) (clientMeta : Dict JsString MetadataValue) :
    Option (Option JsString) :=
  if kind = .filesystem then some none
  else (requiredText MAX_PATH (clientMeta.get (js "locationSlot"))).map some

def readEvidenceId (item : EvidenceItem) : Option JsString :=
  if item.eventType = .certificateObserved then item.evidenceId else none

/-- The fingerprint of the item, or else of its metadata. -/
def readFingerprint (item : EvidenceItem) (clientMeta : Dict JsString MetadataValue) :
    Option JsString :=
  match firstTruthy [item.fingerprintSha256.map .string, clientMeta.get (js "fingerprintSha256")] with
  | some (.string text) => if isFingerprint text then some text else none
  | _ => none

/-- `none` where it throws; the checks of the Windows fields and of the public
    certificate, which the row does not name, are the handler's refusals. -/
def normalizeObservation (cfg : Config) (agent : Agent) (item : EvidenceItem) :
    Option Observation := do
  let clientMeta := metadataMapFromItem item
  let evidenceId ← readEvidenceId item
  let fingerprintSha256 ← readFingerprint item clientMeta
  let locationKind ← readLocationKind clientMeta
  let targetHost ← requiredText 255 (firstTruthy [clientMeta.get (js "targetHost"),
    clientMeta.get (js "hostname"), clientMeta.get (js "host"), some (.string agent.hostname)])
  let filePath ← readFilePath locationKind clientMeta
  let locationSlot ← readLocationSlot locationKind clientMeta
  let observedAt ← cfg.dateParse item.observedAt
  let summary ← optionalText MAX_TEXT (firstTruthy [item.summary.map .string,
    clientMeta.get (js "summary")])
  pure { evidenceId := trim evidenceId, fingerprintSha256, filePath, targetHost, locationKind,
         locationSlot, summary, clientMetadata := clientMeta, observedAt }

/-- The ids the inventory's upserts gave, or the identity kept where the
    certificate is not managed. -/
structure Inventory where
  unmanaged : Bool := false
  certificateIdentityId : Option JsString := none
  managedCertificateId : Option JsString := none
  targetId : Option JsString := none
  certificateInstanceId : Option JsString := none
deriving DecidableEq

def DISCOVERY_KEYS_DROPPED : List JsString :=
  [js "agentId", js "summary", js "fingerprintSha256", js "created_by_agent_id",
    js "createdByAgentId", js "certificatePem"]

def keptInDiscovery (key : JsString) : Bool := key ∉ DISCOVERY_KEYS_DROPPED

def Observation.source (o : Observation) : JsString :=
  if o.locationKind = .filesystem then js "agent_filesystem" else js "agent_windows"

/-- The fields that win over the metadata of the agent. -/
def observationEntries (agent : Agent) (inventory : Inventory) (observedAtServer : JsString)
    (o : Observation) : List (JsString × MetadataValue) :=
  [(js "agentId", .string agent.agentId), (js "summary", textOrNull o.summary),
    (js "fingerprintSha256", .string o.fingerprintSha256), (js "filePath", textOrNull o.filePath),
    (js "targetHost", .string o.targetHost), (js "locationKind", .string o.locationKind.text),
    (js "locationSlot", textOrNull o.locationSlot), (js "evidenceId", .string o.evidenceId),
    (js "source", .string o.source), (js "eventType", .string EventType.certificateObserved.text),
    (js "unmanaged", .bool inventory.unmanaged),
    (js "certificateIdentityId", textOrNull inventory.certificateIdentityId),
    (js "managedCertificateId", textOrNull inventory.managedCertificateId),
    (js "targetId", textOrNull inventory.targetId),
    (js "certificateInstanceId", textOrNull inventory.certificateInstanceId),
    (js "observedAtServer", .string observedAtServer)]

/-- The row `createControllerObservationEvidence` inserts. -/
def observationRow (agent : Agent) (inventory : Inventory) (observedAtServer : JsString)
    (o : Observation) : EvidenceRow where
  workspaceId := agent.workspaceId
  jobId := none
  evidenceType := .certificateObserved
  subjectId := if inventory.unmanaged then none else inventory.managedCertificateId
  metadata :=
    buildPersistedEvidenceMetadata
      (setAll (o.clientMetadata.filterKeys keptInDiscovery)
        (observationEntries agent inventory observedAtServer o))
      (setAll .empty [(js "agentId", .string agent.agentId)])
  observedAt := some o.observedAt
  createdByAgentId := agent.id
  clientEvidenceId := o.evidenceId
  claimId := none
  attemptCount := none

/-! ## §5. One message. -/

structure Tables where
  rows : List EvidenceRow
  jobs : List JobRow
  /-- `certops_agents.last_sequence`. -/
  lastSequence : Nat → Nat

/-- What the handler meets beside the message. -/
structure Env where
  sequence : Option Nat
  /-- Another check or a statement of the transaction fails. -/
  refused : Bool := false
  inventory : JsString → Inventory := fun _ => {}
  observedAtServer : JsString := []

def enforceAgentSequence (lastSequence : Nat → Nat) (agent : Agent) :
    Option Nat → Option (Nat → Nat)
  | none => if 0 < lastSequence agent.id then none else some lastSequence
  | some sequence =>
    if lastSequence agent.id < sequence then some (Function.update lastSequence agent.id sequence)
    else none

/-- The row of one item of a job; `none` where an id is missing. -/
def jobItemRow (cfg : Config) (agent : Agent) (jobId : JsString) (binding : Binding)
    (item : EvidenceItem) : Option EvidenceRow :=
  match item.evidenceId.map trim with
  | some (c :: id) =>
    if (cfg.dateParse item.observedAt).isNone then none
    else some (jobEvidenceRow cfg agent jobId binding item (c :: id))
  | _ => none

def persistAgentJobEvidenceBatch (cfg : Config) (t : Tables) (agent : Agent) (jobId : JsString)
    (claimId : Option JsString) (items : List EvidenceItem) (env : Env) : Option Tables := do
  let lastSequence ← enforceAgentSequence t.lastSequence agent env.sequence
  let binding ← assertEvidenceClaimOwnership t.jobs agent jobId claimId
  let rows ← items.mapM (jobItemRow cfg agent jobId binding)
  pure { t with lastSequence, rows := rows.foldl insertEvidence t.rows }

/-- `persistOneObservation`: an observation whose id is there is a duplicate. -/
def persistOneObservation (agent : Agent) (env : Env) (rows : List EvidenceRow) (o : Observation) :
    List EvidenceRow :=
  let row := observationRow agent (env.inventory o.evidenceId) env.observedAtServer o
  if rows.any (·.key = row.key) then rows else insertEvidence rows row

def persistAgentDiscoveryEvidenceBatch (cfg : Config) (t : Tables) (agent : Agent)
    (items : List EvidenceItem) (env : Env) : Option Tables := do
  let observations ← items.mapM (normalizeObservation cfg agent)
  let lastSequence ← enforceAgentSequence t.lastSequence agent env.sequence
  pure { t with lastSequence, rows := observations.foldl (persistOneObservation agent env) t.rows }

/-- `resultsHandler` on an evidence message; `none` where it throws, and the
    transaction is rolled back. -/
def resultsHandler (cfg : Config) (t : Tables) (agent : Agent) (body : EvidenceBody) (env : Env) :
    Option Tables :=
  if env.refused then none
  else
    match body.jobId with
    | none =>
      if body.evidenceItems.all (·.eventType = .certificateObserved) then
        persistAgentDiscoveryEvidenceBatch cfg t agent body.evidenceItems env
      else none
    | some jobId =>
      persistAgentJobEvidenceBatch cfg t agent jobId (body.claimId.or body.attemptId)
        body.evidenceItems env

/-- The row an accepted message asks for, for one of its items. -/
def rowOf (cfg : Config) (agent : Agent) (jobId : Option JsString) (binding : Binding) (env : Env)
    (item : EvidenceItem) : Option EvidenceRow :=
  match jobId with
  | none =>
    (normalizeObservation cfg agent item).map fun o =>
      observationRow agent (env.inventory o.evidenceId) env.observedAtServer o
  | some jobId => jobItemRow cfg agent jobId binding item

/-! ## §6. Lemmas. -/

theorem observationRow_metadata (agent : Agent) (inventory : Inventory) (observedAtServer : JsString)
    (o : Observation) : (observationRow agent inventory observedAtServer o).metadata =
      buildPersistedEvidenceMetadata
        (setAll (o.clientMetadata.filterKeys keptInDiscovery)
          (observationEntries agent inventory observedAtServer o))
        (setAll .empty [(js "agentId", .string agent.agentId)]) := by
  unfold observationRow
  dsimp only

theorem persistOneObservation_eq (agent : Agent) (env : Env) (rows : List EvidenceRow)
    (o : Observation) : persistOneObservation agent env rows o =
      insertEvidence rows (observationRow agent (env.inventory o.evidenceId) env.observedAtServer o) := by
  unfold persistOneObservation
  dsimp only
  split
  · rename_i hany
    unfold insertEvidence
    rw [if_pos hany]
  · rfl

theorem forall₂_of_mapM {α β : Type} {f : α → Option β} {l : List α} {r : List β}
    (h : l.mapM f = some r) : List.Forall₂ (fun a b => f a = some b) l r := by
  induction l generalizing r with
  | nil =>
    rw [List.mapM_nil] at h
    cases h
    exact .nil
  | cons a l ih =>
    rw [List.mapM_cons] at h
    obtain ⟨b, hb, h⟩ := Option.bind_eq_some_iff.mp h
    obtain ⟨bs, hbs, h⟩ := Option.bind_eq_some_iff.mp h
    cases h
    exact .cons hb (ih hbs)

/-- **ONE ACCEPTED MESSAGE**: the rows of its items are inserted, one after the other. -/
theorem resultsHandler_cases {cfg : Config} {t t' : Tables} {agent : Agent} {body : EvidenceBody}
    {env : Env} (h : resultsHandler cfg t agent body env = some t') :
    ∃ binding rows,
      List.Forall₂ (fun item row => rowOf cfg agent body.jobId binding env item = some row)
        body.evidenceItems rows ∧
      t'.rows = rows.foldl insertEvidence t.rows := by
  obtain ⟨-, h⟩ := Option.ite_none_left_eq_some.mp h
  cases hjob : body.jobId with
  | none =>
    rw [hjob] at h
    dsimp only at h
    split at h
    · unfold persistAgentDiscoveryEvidenceBatch at h
      simp only [Option.bind_eq_bind, Option.bind_eq_some_iff, Option.pure_def,
        Option.some.injEq] at h
      obtain ⟨observations, hobs, lastSequence, -, rfl⟩ := h
      refine ⟨⟨none, none⟩, observations.map fun o =>
        observationRow agent (env.inventory o.evidenceId) env.observedAtServer o, ?_, ?_⟩
      · rw [List.forall₂_map_right_iff]
        refine (forall₂_of_mapM hobs).imp fun item o ho => ?_
        exact Option.map_eq_some_iff.mpr ⟨o, ho, rfl⟩
      · rw [List.foldl_map]
        exact List.foldl_ext _ _ _ fun rows o _ => persistOneObservation_eq agent env rows o
    · cases h
  | some jobId =>
    rw [hjob] at h
    dsimp only at h
    unfold persistAgentJobEvidenceBatch at h
    simp only [Option.bind_eq_bind, Option.bind_eq_some_iff, Option.pure_def,
      Option.some.injEq] at h
    obtain ⟨lastSequence, -, binding, -, rows, hrows, rfl⟩ := h
    exact ⟨binding, rows, forall₂_of_mapM hrows, rfl⟩

end TokenTimer.Evidence
