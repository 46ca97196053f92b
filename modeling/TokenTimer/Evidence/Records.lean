/-
  TokenTimer.Evidence.Records — which items a row of the control plane holds as they are.

  The control plane writes its own fields over the metadata of an item, keeps one
  value for a name and trims what a discovery says of its place.  An item that
  these leave alone, and that the second redaction on the host leaves alone, is
  STORABLE: its row holds all it says.

  Main results:
    * `get_foldl_assignEntry` — the object of plain entries.
    * `normalizeObservation_spec` — what a discovery has been read as.
-/

import TokenTimer.Evidence.Store

namespace TokenTimer.Evidence

open Json Lib

/-! ## §1. A row holds an item. -/

structure Report where
  agent : Agent
  jobId : Option JsString
  item : EvidenceItem
deriving DecidableEq

/-- The keys the control plane writes itself, for an item of a job. -/
def JOB_SERVER_KEYS : List JsString :=
  [js "summary", js "fingerprintSha256", js "agentId", js "evidenceId"]

/-- The keys the control plane writes itself, for a discovery. -/
def DISCOVERY_SERVER_KEYS : List JsString :=
  [js "agentId", js "summary", js "fingerprintSha256", js "filePath", js "targetHost",
    js "locationKind", js "locationSlot", js "evidenceId", js "source", js "eventType",
    js "unmanaged", js "certificateIdentityId", js "managedCertificateId", js "targetId",
    js "certificateInstanceId", js "observedAtServer"]

def serverKeys : Option JsString → List JsString
  | some _ => JOB_SERVER_KEYS
  | none => DISCOVERY_SERVER_KEYS

/-- The row holds the item: its job, type, time, fingerprint, summary and metadata. -/
structure Records (cfg : Config) (row : EvidenceRow) (r : Report) : Prop where
  workspaceId : row.workspaceId = r.agent.workspaceId
  createdBy : row.createdByAgentId = r.agent.id
  jobId : row.jobId = r.jobId
  evidenceType : row.evidenceType = r.item.eventType
  observedAt : row.observedAt = cfg.dateParse r.item.observedAt
  fingerprint : row.metadata.get (js "fingerprintSha256") = some (textOrNull r.item.fingerprintSha256)
  summary : row.metadata.get (js "summary") = some (textOrNull r.item.summary)
  metadata : ∀ e ∈ r.item.metadata, row.metadata.get e.name = some e.value
  nothingElse : ∀ name value, row.metadata.get name = some value →
    name ∈ serverKeys r.jobId ∨ ⟨name, value⟩ ∈ r.item.metadata

/-! ## §2. Storable items. -/

/-- The keys under which an item of a job keeps nothing. -/
def JOB_KEYS_LOST : List JsString :=
  CLIENT_KEYS_DROPPED ++ [js "summary", js "fingerprintSha256", js "evidenceId", protoKey]

/-- The keys that name where a certificate was observed. -/
def LOCATION_KEYS : List JsString :=
  [js "filePath", js "targetHost", js "locationKind", js "locationSlot"]

def DISCOVERY_KEYS_LOST : List JsString :=
  JOB_KEYS_LOST ++ [js "certificatePem", js "source", js "eventType", js "unmanaged",
    js "certificateIdentityId", js "managedCertificateId", js "targetId",
    js "certificateInstanceId", js "observedAtServer"]

def Trimmed (text : JsString) : Prop := text ≠ [] ∧ trim text = text

def OfFile (item : EvidenceItem) : Prop :=
  ∀ e ∈ item.metadata, e.name = js "locationKind" → e.value = .string LocationKind.filesystem.text

/-- A discovery whose texts the control plane keeps as they are. -/
structure StorableObservation (item : EvidenceItem) : Prop where
  fingerprint : ∃ text, item.fingerprintSha256 = some text ∧ text ≠ []
  summary : ∀ text, item.summary = some text → Trimmed text
  names : ∀ e ∈ item.metadata, e.name ∉ DISCOVERY_KEYS_LOST
  locations : ∀ e ∈ item.metadata, e.name ∈ LOCATION_KEYS → ∃ text, e.value = .string text ∧ Trimmed text
  filePath : ∀ e ∈ item.metadata, e.name = js "filePath" → OfFile item
  locationSlot : ∀ e ∈ item.metadata, e.name = js "locationSlot" → ¬ OfFile item

/-- The control plane can hold the item as it is: the second redaction changes
    nothing, no name has two values, and no name is one the control plane writes. -/
structure Storable (cfg : Config) (r : Report) : Prop where
  jobId : r.jobId.map cfg.redact = r.jobId
  unredacted : r.item.redacted cfg = r.item
  functional : ∀ e ∈ r.item.metadata, ∀ e' ∈ r.item.metadata, e.name = e'.name → e.value = e'.value
  names : ∀ e ∈ r.item.metadata, e.name ∉ JOB_KEYS_LOST
  observation : r.jobId = none → StorableObservation r.item

/-! ## §3. What the object of the metadata keeps. -/

theorem not_space_of_isIdUnit {c : CodeUnit} (h : isIdUnit c = true) : isSpaceUnit c = false := by
  unfold isIdUnit at h
  unfold isSpaceUnit
  simp only [Bool.or_eq_true, Bool.and_eq_true, decide_eq_true_eq, List.mem_cons,
    List.not_mem_nil, or_false, decide_eq_false_iff_not] at h ⊢
  omega

variable {cfg : Config} {base : Dict JsString MetadataValue} {text : JsString}
  {entries overlay : List (JsString × MetadataValue)} {value : MetadataValue} {max : Nat}

theorem trim_eq_self (h : ∀ c ∈ text, isSpaceUnit c = false) : trim text = text := by
  have hdrop : ∀ t : JsString, (∀ c ∈ t, isSpaceUnit c = false) → t.dropWhile isSpaceUnit = t := by
    intro t ht
    cases t with
    | nil => rfl
    | cons c t => rw [List.dropWhile_cons_of_neg (by rw [ht c List.mem_cons_self]; exact Bool.false_ne_true)]
  unfold trim
  rw [hdrop text h, hdrop text.reverse (fun c hc => h c (List.mem_reverse.mp hc)), List.reverse_reverse]

theorem isId_spec (h : isId max text = true) :
    text ≠ [] ∧ trim text = text := by
  unfold isId at h
  simp only [Bool.and_eq_true, decide_eq_true_eq, List.all_eq_true] at h
  refine ⟨List.ne_nil_of_length_pos h.1.1, trim_eq_self fun c hc => not_space_of_isIdUnit (h.2 c hc)⟩

/-- Names that trimming leaves as they are, each with one value. -/
structure PlainEntries (metadata : List MetadataEntry) : Prop where
  functional : ∀ e ∈ metadata, ∀ e' ∈ metadata, e.name = e'.name → e.value = e'.value
  trimmed : ∀ e ∈ metadata, e.name ≠ [] ∧ trim e.name = e.name
  noProto : ∀ e ∈ metadata, e.name ≠ protoKey

theorem PlainEntries.prefix {l : List MetadataEntry} {e : MetadataEntry}
    (h : PlainEntries (l ++ [e])) : PlainEntries l where
  functional a ha b hb := h.functional a (List.mem_append_left _ ha) b (List.mem_append_left _ hb)
  trimmed a ha := h.trimmed a (List.mem_append_left _ ha)
  noProto a ha := h.noProto a (List.mem_append_left _ ha)

/-- **THE OBJECT OF PLAIN ENTRIES** holds them and nothing else. -/
theorem get_foldl_assignEntry {metadata : List MetadataEntry} (h : PlainEntries metadata)
    {name : JsString} :
    (metadata.foldl assignEntry .empty).get name = some value ↔ ⟨name, value⟩ ∈ metadata := by
  induction metadata using List.reverseRecOn with
  | nil => simp [Dict.empty, Dict.get]
  | append_singleton l e ih =>
    have he : e ∈ l ++ [e] := List.mem_append_right _ List.mem_cons_self
    have hplain : ¬ (e.name = [] ∨ e.name = protoKey) := by
      rintro (hnil | hproto)
      · exact (h.trimmed e he).1 hnil
      · exact h.noProto e he hproto
    have hassign : ∀ d : Dict JsString MetadataValue, assignEntry d e = d.set e.name e.value := by
      intro d
      unfold assignEntry
      dsimp only
      rw [(h.trimmed e he).2, if_neg hplain]
    rw [List.foldl_append, List.foldl_cons, List.foldl_nil, hassign, Dict.get_set, List.mem_append,
      List.mem_singleton]
    by_cases hname : name = e.name
    · rw [if_pos hname]
      constructor
      · intro hv
        injection hv with hv
        exact .inr (by rw [hname, ← hv])
      · rintro (hmem | heq)
        · have hsame := h.functional ⟨name, value⟩ (List.mem_append_left _ hmem) e he hname
          rw [← hsame]
        · rw [← heq]
    · rw [if_neg hname, ih h.prefix]
      constructor
      · exact Or.inl
      · rintro (hmem | heq)
        · exact hmem
        · exact absurd (congrArg MetadataEntry.name heq) hname

theorem keptFromClient_iff {key : JsString} : keptFromClient key = true ↔ key ∉ CLIENT_KEYS_DROPPED :=
  decide_eq_true_iff

theorem keptInDiscovery_iff {key : JsString} :
    keptInDiscovery key = true ↔ key ∉ DISCOVERY_KEYS_DROPPED := decide_eq_true_iff

theorem get_setAll (h : (entries.map Prod.fst).Nodup) {key : JsString} :
    (setAll base entries).get key = ((entries.find? (·.1 = key)).map Prod.snd).or (base.get key) :=
  Dict.get_foldl_set entries h base

theorem find_eq_none {key : JsString} (h : key ∉ entries.map Prod.fst) :
    entries.find? (·.1 = key) = none := by
  rw [List.find?_eq_none]
  intro e he hkey
  exact h (List.mem_map.mpr ⟨e, he, of_decide_eq_true hkey⟩)

theorem get_persisted_client {key : JsString} (hentries : (entries.map Prod.fst).Nodup)
    (hoverlay : (overlay.map Prod.fst).Nodup) (hsub : overlay.map Prod.fst ⊆ entries.map Prod.fst)
    (hkey : key ∉ entries.map Prod.fst) (hkept : key ∉ CLIENT_KEYS_DROPPED) :
    (buildPersistedEvidenceMetadata (setAll base entries) (setAll .empty overlay)).get key =
      base.get key := by
  unfold buildPersistedEvidenceMetadata
  rw [Dict.get_assign, get_setAll hoverlay, find_eq_none (fun h => hkey (hsub h)),
    Dict.get_filterKeys, get_setAll hentries, find_eq_none hkey]
  rw [if_pos (keptFromClient_iff.mpr hkept)]
  rfl

/-- Under any other key there is nothing but what the client wrote. -/
theorem get_of_get_persisted {key : JsString} (hentries : (entries.map Prod.fst).Nodup)
    (hoverlay : (overlay.map Prod.fst).Nodup) (hsub : overlay.map Prod.fst ⊆ entries.map Prod.fst)
    (hkey : key ∉ entries.map Prod.fst)
    (h : (buildPersistedEvidenceMetadata (setAll base entries) (setAll .empty overlay)).get key = some value) :
    base.get key = some value := by
  by_cases hkept : key ∈ CLIENT_KEYS_DROPPED
  · unfold buildPersistedEvidenceMetadata at h
    rw [Dict.get_assign, get_setAll hoverlay, find_eq_none (fun hk => hkey (hsub hk)),
      Dict.get_filterKeys, if_neg fun hk => keptFromClient_iff.mp hk hkept] at h
    cases h
  · rw [← h, get_persisted_client hentries hoverlay hsub hkey hkept]

theorem find_eq_some {key : JsString} (hkeys : (entries.map Prod.fst).Nodup)
    (h : (key, value) ∈ entries) :
    entries.find? (·.1 = key) = some (key, value) := by
  cases hfound : entries.find? (·.1 = key) with
  | none =>
    have hnone := List.find?_eq_none.mp hfound (key, value) h
    simp at hnone
  | some e =>
    have hkey : e.1 = key := by simpa using List.find?_some hfound
    rw [List.inj_on_of_nodup_map hkeys (List.mem_of_find?_eq_some hfound) h hkey]

theorem get_persisted_server {key : JsString} (hentries : (entries.map Prod.fst).Nodup)
    (hoverlay : (overlay.map Prod.fst).Nodup) (hmem : (key, value) ∈ entries)
    (hkept : key ∉ overlay.map Prod.fst ∧ key ∉ CLIENT_KEYS_DROPPED ∨ (key, value) ∈ overlay) :
    (buildPersistedEvidenceMetadata (setAll base entries) (setAll .empty overlay)).get key =
      some value := by
  unfold buildPersistedEvidenceMetadata
  rw [Dict.get_assign, get_setAll hoverlay, Dict.get_filterKeys, get_setAll hentries,
    find_eq_some hentries hmem]
  obtain ⟨hover, hdrop⟩ | hover := hkept
  · rw [find_eq_none hover, if_pos (keptFromClient_iff.mpr hdrop)]
    rfl
  · rw [find_eq_some hoverlay hover]
    rfl

/-! ## §4. The row of a storable item. -/

theorem wellShaped_spec {item : EvidenceItem} (h : item.wellShaped = true) :
    (∃ id, item.evidenceId = some id ∧ id ≠ [] ∧ trim id = id) ∧
      ∀ e ∈ item.metadata, e.name ≠ [] ∧ trim e.name = e.name := by
  unfold EvidenceItem.wellShaped at h
  simp only [Bool.and_eq_true, List.all_eq_true] at h
  obtain ⟨⟨⟨⟨hid, -⟩, -⟩, -⟩, hmeta⟩ := h
  constructor
  · cases hi : item.evidenceId with
    | none =>
      rw [hi] at hid
      cases hid
    | some id =>
      rw [hi] at hid
      exact ⟨id, rfl, isId_spec hid⟩
  · intro e he
    obtain ⟨hname, -⟩ := hmeta e he
    unfold isMetadataName at hname
    rw [Bool.and_eq_true] at hname
    exact isId_spec hname.1

theorem optionalText_trimmed {out : Option JsString} (ht : Trimmed text)
    (h : optionalText max (some (.string text)) = some out) : out = some text := by
  unfold optionalText at h
  dsimp only at h
  rw [if_neg ht.1, ht.2] at h
  split at h
  · cases h
  · injection h with h
    exact h.symm

theorem requiredText_trimmed {out : JsString} (ht : Trimmed text)
    (h : requiredText max (some (.string text)) = some out) : out = text := by
  obtain ⟨read, hread, hid⟩ := Option.bind_eq_some_iff.mp h
  rw [optionalText_trimmed ht hread] at hid
  injection hid with hid
  exact hid.symm

theorem truthy_of_ne (h : text ≠ []) : (MetadataValue.string text).truthy = true := by
  unfold MetadataValue.truthy
  exact decide_eq_true h

theorem truthy_of_trimmed (h : Trimmed text) :
    (MetadataValue.string text).truthy = true := truthy_of_ne h.1

theorem firstTruthy_of_truthy {v : MetadataValue} (h : v.truthy = true)
    (rest : List (Option MetadataValue)) : firstTruthy (some v :: rest) = some v := by
  cases rest with
  | nil => rfl
  | cons w rest =>
    unfold firstTruthy
    rw [if_pos h]

/-- What a discovery that is accepted has been read as. -/
structure ReadAs (cfg : Config) (agent : Agent) (item : EvidenceItem) (o : Observation) : Prop where
  eventType : item.eventType = .certificateObserved
  evidenceId : item.evidenceId.map trim = some o.evidenceId
  fingerprint : readFingerprint item (metadataMapFromItem item) = some o.fingerprintSha256
  locationKind : readLocationKind (metadataMapFromItem item) = some o.locationKind
  targetHost : requiredText 255 (firstTruthy [(metadataMapFromItem item).get (js "targetHost"),
    (metadataMapFromItem item).get (js "hostname"), (metadataMapFromItem item).get (js "host"),
    some (.string agent.hostname)]) = some o.targetHost
  filePath : readFilePath o.locationKind (metadataMapFromItem item) = some o.filePath
  locationSlot : readLocationSlot o.locationKind (metadataMapFromItem item) = some o.locationSlot
  observedAt : cfg.dateParse item.observedAt = some o.observedAt
  summary : optionalText MAX_TEXT (firstTruthy [item.summary.map .string,
    (metadataMapFromItem item).get (js "summary")]) = some o.summary
  clientMetadata : o.clientMetadata = metadataMapFromItem item

theorem normalizeObservation_spec {agent : Agent} {item : EvidenceItem} {o : Observation}
    (h : normalizeObservation cfg agent item = some o) :
    ReadAs cfg agent item o := by
  unfold normalizeObservation at h
  simp only [Option.bind_eq_bind, Option.bind_eq_some_iff, Option.pure_def, Option.some.injEq] at h
  obtain ⟨id, hid, fingerprint, hprint, kind, hkind, host, hhost, path, hpath, slot, hslot, time,
    htime, summary, hsummary, rfl⟩ := h
  obtain ⟨htype, hid⟩ := Option.ite_none_right_eq_some.mp hid
  exact ⟨htype, by rw [hid]; rfl, hprint, hkind, hhost, hpath, hslot, htime, hsummary, rfl⟩

theorem Storable.plain {r : Report} (h : Storable cfg r)
    (hnames : ∀ e ∈ r.item.metadata, e.name ≠ [] ∧ trim e.name = e.name) :
    PlainEntries r.item.metadata where
  functional := h.functional
  trimmed := hnames
  noProto e he hproto := by
    apply h.names e he
    rw [hproto]
    decide

def sentItem (cfg : Config) (r : Report) : EvidenceItem := withEvidenceId cfg r.jobId r.item

/-- An item has no id when it is built. -/
theorem sentItem_eq {r : Report} (h : r.item.evidenceId = none) :
    sentItem cfg r = { r.item with evidenceId := some (computeEvidenceId cfg r.jobId r.item) } := by
  unfold sentItem withEvidenceId
  rw [h]

/-- The unique key of the row of an item. -/
def Report.key (cfg : Config) (r : Report) : Nat × Nat × JsString :=
  (r.agent.workspaceId, r.agent.id, computeEvidenceId cfg r.jobId r.item)

theorem nodup_jobServerKeys : JOB_SERVER_KEYS.Nodup := by decide

theorem jobServerKeys_subset_lost : JOB_SERVER_KEYS ⊆ JOB_KEYS_LOST := by
  intro key hkey
  simp only [JOB_SERVER_KEYS, List.mem_cons, List.not_mem_nil, or_false] at hkey
  obtain rfl | rfl | rfl | rfl := hkey <;> simp [JOB_KEYS_LOST, CLIENT_KEYS_DROPPED]

theorem clientKeysDropped_subset_lost : CLIENT_KEYS_DROPPED ⊆ JOB_KEYS_LOST :=
  List.subset_append_left _ _

theorem observationEntries_keys (agent : Agent) (inventory : Inventory) (observedAtServer : JsString)
    (o : Observation) :
    (observationEntries agent inventory observedAtServer o).map Prod.fst = DISCOVERY_SERVER_KEYS := rfl

theorem nodup_discoveryServerKeys : DISCOVERY_SERVER_KEYS.Nodup := by decide +kernel

theorem fingerprint_ne_agentId : js "fingerprintSha256" ≠ js "agentId" := by decide
theorem summary_ne_agentId : js "summary" ≠ js "agentId" := by decide
theorem fingerprint_not_dropped : js "fingerprintSha256" ∉ CLIENT_KEYS_DROPPED := by decide
theorem summary_not_dropped : js "summary" ∉ CLIENT_KEYS_DROPPED := by decide

section Rows

-- The texts of the keys are never looked into below.
attribute [local irreducible] js

theorem jobEvidenceRow_records {cfg : Config} {r : Report} {jobId : JsString} (id : JsString)
    (binding : Binding) (h : Storable cfg r) (hjob : r.jobId = some jobId)
    (hnames : ∀ e ∈ r.item.metadata, e.name ≠ [] ∧ trim e.name = e.name) :
    Records cfg (jobEvidenceRow cfg r.agent jobId binding r.item id) r := by
  have hplain := h.plain hnames
  have hkeys : ((serverOwnedEntries r.agent r.item id).map Prod.fst).Nodup := nodup_jobServerKeys
  have hclient : ∀ name : JsString, name ∉ JOB_SERVER_KEYS → name ∉ CLIENT_KEYS_DROPPED →
      (jobEvidenceRow cfg r.agent jobId binding r.item id).metadata.get name =
        (metadataMapFromItem r.item).get name :=
    fun name hname hkept => get_persisted_client hkeys hkeys (List.Subset.refl _) hname hkept
  refine ⟨rfl, rfl, hjob.symm, rfl, rfl, ?_, ?_, ?_, ?_⟩
  · refine get_persisted_server hkeys hkeys ?_ (.inr ?_) <;>
    · unfold serverOwnedEntries
      simp only [List.mem_cons, true_or, or_true]
  · refine get_persisted_server hkeys hkeys ?_ (.inr ?_) <;>
    · unfold serverOwnedEntries
      exact List.mem_cons_self
  · intro e he
    have hlost := h.names e he
    rw [hclient e.name (fun hk => hlost (jobServerKeys_subset_lost hk))
      (fun hk => hlost (clientKeysDropped_subset_lost hk))]
    exact (get_foldl_assignEntry hplain).mpr he
  · intro name value hget
    by_cases hname : name ∈ JOB_SERVER_KEYS
    · refine .inl ?_
      rw [hjob]
      exact hname
    · exact .inr ((get_foldl_assignEntry hplain).mp
        (get_of_get_persisted hkeys hkeys (List.Subset.refl _) hname hget))

/-- A key of the server's is one of a place or keeps nothing. -/
theorem discoveryServerKeys_cases {key : JsString} (h : key ∈ DISCOVERY_SERVER_KEYS) :
    key ∈ LOCATION_KEYS ∨ key ∈ DISCOVERY_KEYS_LOST := by
  simp only [DISCOVERY_SERVER_KEYS, LOCATION_KEYS, DISCOVERY_KEYS_LOST, JOB_KEYS_LOST,
    CLIENT_KEYS_DROPPED, List.mem_cons, List.mem_append, List.not_mem_nil, or_false] at h ⊢
  grind

theorem discoveryKeysDropped_subset : DISCOVERY_KEYS_DROPPED ⊆ DISCOVERY_KEYS_LOST := by
  intro key hkey
  simp only [DISCOVERY_KEYS_DROPPED, DISCOVERY_KEYS_LOST, JOB_KEYS_LOST, CLIENT_KEYS_DROPPED,
    List.mem_cons, List.mem_append, List.not_mem_nil, or_false] at hkey ⊢
  grind

variable {cfg : Config} {agent : Agent} {item : EvidenceItem} {o : Observation}
  {inventory : Inventory} {observedAtServer : JsString} {r : Report}

theorem get_metadataMap (hplain : PlainEntries item.metadata) {e : MetadataEntry}
    (he : e ∈ item.metadata) : (metadataMapFromItem item).get e.name = some e.value :=
  (get_foldl_assignEntry hplain).mpr he

theorem ReadAs.kind_text (h : ReadAs cfg agent item o) (hplain : PlainEntries item.metadata)
    {text : JsString} (ht : Trimmed text)
    (he : (⟨js "locationKind", .string text⟩ : MetadataEntry) ∈ item.metadata) :
    o.locationKind.text = text := by
  have hkind := h.locationKind
  unfold readLocationKind at hkind
  rw [get_metadataMap hplain he] at hkind
  dsimp only at hkind
  rw [ht.2, if_neg ht.1] at hkind
  simpa using List.find?_some hkind

theorem ReadAs.ofFile_iff (h : ReadAs cfg agent item o) (hplain : PlainEntries item.metadata)
    (hs : StorableObservation item) : OfFile item ↔ o.locationKind = .filesystem := by
  constructor
  · intro hfile
    have hkind := h.locationKind
    unfold readLocationKind at hkind
    cases hget : (metadataMapFromItem item).get (js "locationKind") with
    | none =>
      rw [hget] at hkind
      injection hkind with hkind
      exact hkind.symm
    | some value =>
      have he := (get_foldl_assignEntry hplain).mp hget
      obtain ⟨text, hvalue, ht⟩ := hs.locations _ he (by simp [LOCATION_KEYS])
      have hfs := hfile _ he rfl
      dsimp only at hvalue hfs
      subst hvalue
      injection hfs with hfs
      rw [hget] at hkind
      dsimp only at hkind
      rw [ht.2, if_neg ht.1, hfs] at hkind
      unfold LOCATION_KINDS at hkind
      rw [List.find?_cons_of_pos (by simp)] at hkind
      injection hkind with hkind
      exact hkind.symm
  · intro hkind e he hname
    obtain ⟨text, hvalue, ht⟩ := hs.locations e he (by rw [hname]; simp [LOCATION_KEYS])
    have hentry : (⟨js "locationKind", .string text⟩ : MetadataEntry) ∈ item.metadata := by
      rw [← hname, ← hvalue]
      exact he
    rw [hvalue, ← h.kind_text hplain ht hentry, hkind]

/-- **THE PLACE** an item names is the one the row names. -/
theorem ReadAs.location (h : ReadAs cfg agent item o) (hplain : PlainEntries item.metadata)
    (hs : StorableObservation item) {e : MetadataEntry} (he : e ∈ item.metadata)
    (hname : e.name ∈ LOCATION_KEYS) :
    (e.name, e.value) ∈ observationEntries agent inventory observedAtServer o := by
  obtain ⟨text, hvalue, ht⟩ := hs.locations e he hname
  have hget := get_metadataMap hplain he
  rw [hvalue] at hget ⊢
  have htruthy := truthy_of_trimmed ht
  simp only [LOCATION_KEYS, List.mem_cons, List.not_mem_nil, or_false] at hname
  unfold observationEntries
  simp only [List.mem_cons]
  obtain hn | hn | hn | hn := hname
  · have hpath := h.filePath
    rw [(h.ofFile_iff hplain hs).mp (hs.filePath e he hn)] at hpath
    unfold readFilePath at hpath
    rw [if_pos rfl, ← hn, hget, firstTruthy_of_truthy htruthy] at hpath
    obtain ⟨path, hread, hpath⟩ := Option.map_eq_some_iff.mp hpath
    rw [requiredText_trimmed ht hread] at hpath
    rw [hn, ← hpath]
    simp [textOrNull]
  · have hhost := h.targetHost
    rw [← hn, hget, firstTruthy_of_truthy htruthy] at hhost
    rw [hn, requiredText_trimmed ht hhost]
    simp
  · have hentry : (⟨js "locationKind", .string text⟩ : MetadataEntry) ∈ item.metadata := by
      rw [← hn, ← hvalue]
      exact he
    rw [hn, h.kind_text hplain ht hentry]
    simp
  · have hslot := h.locationSlot
    have hkind : o.locationKind ≠ .filesystem := fun hfs =>
      hs.locationSlot e he hn ((h.ofFile_iff hplain hs).mpr hfs)
    unfold readLocationSlot at hslot
    rw [if_neg hkind, ← hn, hget] at hslot
    obtain ⟨slot, hread, hslot⟩ := Option.map_eq_some_iff.mp hslot
    rw [requiredText_trimmed ht hread] at hslot
    rw [hn, ← hslot]
    simp [textOrNull]

theorem ReadAs.summary_eq (h : ReadAs cfg agent item o) (hplain : PlainEntries item.metadata)
    (hs : StorableObservation item) : o.summary = item.summary := by
  have hread := h.summary
  cases hsummary : item.summary with
  | some text =>
    have ht := hs.summary text hsummary
    rw [hsummary] at hread
    rw [Option.map_some, firstTruthy_of_truthy (truthy_of_trimmed ht)] at hread
    exact optionalText_trimmed ht hread
  | none =>
    have hnone : (metadataMapFromItem item).get (js "summary") = none := by
      cases hget : (metadataMapFromItem item).get (js "summary") with
      | none => rfl
      | some value =>
        refine absurd ?_ (hs.names _ ((get_foldl_assignEntry hplain).mp hget))
        simp [DISCOVERY_KEYS_LOST, JOB_KEYS_LOST]
    rw [hsummary, hnone] at hread
    simp only [Option.map_none, firstTruthy, optionalText, Option.some.injEq] at hread
    exact hread.symm

theorem ReadAs.fingerprint_eq (h : ReadAs cfg agent item o) (hs : StorableObservation item) :
    item.fingerprintSha256 = some o.fingerprintSha256 := by
  obtain ⟨print, hprint, hne⟩ := hs.fingerprint
  have hread := h.fingerprint
  unfold readFingerprint at hread
  rw [hprint, Option.map_some, firstTruthy_of_truthy (truthy_of_ne hne)] at hread
  dsimp only at hread
  split at hread
  · rw [hprint]
    exact hread
  · cases hread

theorem observationRow_records (inventory : Inventory) (observedAtServer : JsString)
    (h : ReadAs cfg agent item o) (hplain : PlainEntries item.metadata)
    (hs : StorableObservation item) :
    Records cfg (observationRow agent inventory observedAtServer o) ⟨agent, none, item⟩ := by
  have hkeys : ((observationEntries agent inventory observedAtServer o).map Prod.fst).Nodup := by
    rw [observationEntries_keys]
    exact nodup_discoveryServerKeys
  have hoverlay : ([(js "agentId", MetadataValue.string agent.agentId)].map Prod.fst).Nodup :=
    List.nodup_singleton _
  have hsub : [(js "agentId", MetadataValue.string agent.agentId)].map Prod.fst ⊆
      (observationEntries agent inventory observedAtServer o).map Prod.fst := by
    rw [observationEntries_keys]
    simp [DISCOVERY_SERVER_KEYS]
  have hmeta := observationRow_metadata agent inventory observedAtServer o
  -- The server's own entries other than the agent's id.
  have hserver : ∀ key value, (key, value) ∈ observationEntries agent inventory observedAtServer o →
      key ≠ js "agentId" → key ∉ CLIENT_KEYS_DROPPED →
      (observationRow agent inventory observedAtServer o).metadata.get key = some value := by
    intro key value hmem hne hkept
    rw [hmeta]
    exact get_persisted_server hkeys hoverlay hmem (.inl ⟨by simpa using hne, hkept⟩)
  refine ⟨rfl, rfl, rfl, h.eventType.symm, h.observedAt.symm, ?_, ?_, ?_, ?_⟩
  · refine hserver _ _ ?_ fingerprint_ne_agentId fingerprint_not_dropped
    rw [h.fingerprint_eq hs]
    unfold observationEntries
    simp [textOrNull]
  · refine hserver _ _ ?_ summary_ne_agentId summary_not_dropped
    rw [← h.summary_eq hplain hs]
    unfold observationEntries
    simp
  · intro e he
    have hlost := hs.names e he
    have hkept : e.name ∉ CLIENT_KEYS_DROPPED := fun hk =>
      hlost (List.mem_append_left _ (clientKeysDropped_subset_lost hk))
    by_cases hkey : e.name ∈ (observationEntries agent inventory observedAtServer o).map Prod.fst
    · obtain hloc | hl := discoveryServerKeys_cases hkey
      · refine hserver _ _ (h.location hplain hs he hloc) ?_ hkept
        rintro heq
        apply hkept
        rw [heq]
        simp [CLIENT_KEYS_DROPPED]
      · exact absurd hl hlost
    · have hget : (observationRow agent inventory observedAtServer o).metadata.get e.name =
          (o.clientMetadata.filterKeys keptInDiscovery).get e.name := by
        rw [hmeta]
        exact get_persisted_client hkeys hoverlay hsub hkey hkept
      rw [hget, Dict.get_filterKeys, if_pos, h.clientMetadata]
      · exact get_metadataMap hplain he
      · exact keptInDiscovery_iff.mpr fun hk => hlost (discoveryKeysDropped_subset hk)
  · intro name value hget
    by_cases hkey : name ∈ (observationEntries agent inventory observedAtServer o).map Prod.fst
    · exact .inl hkey
    · have hbase : (o.clientMetadata.filterKeys keptInDiscovery).get name = some value := by
        rw [hmeta] at hget
        exact get_of_get_persisted hkeys hoverlay hsub hkey hget
      rw [Dict.get_filterKeys, h.clientMetadata] at hbase
      split at hbase
      · exact .inr ((get_foldl_assignEntry hplain).mp hbase)
      · cases hbase

/-- **THE ROW OF A STORABLE ITEM** holds it, under the key of the item. -/
theorem rowOf_records {binding : Binding} {env : Env} {row : EvidenceRow} (h : Storable cfg r)
    (hbuilt : r.item.evidenceId = none) (hshape : (sentItem cfg r).wellShaped = true)
    (hrow : rowOf cfg r.agent r.jobId binding env (sentItem cfg r) = some row) :
    Records cfg row r ∧ row.key = r.key cfg := by
  obtain ⟨⟨id, hid, hne, htrim⟩, hnames⟩ := wellShaped_spec hshape
  rw [sentItem_eq hbuilt] at hid hnames hrow
  injection hid with hid
  have hplain := h.plain hnames
  obtain ⟨agent, jobId, item⟩ := r
  unfold rowOf at hrow
  cases jobId with
  | none =>
    obtain ⟨o, ho, hrow⟩ := Option.map_eq_some_iff.mp hrow
    have hread := normalizeObservation_spec ho
    have hid' := hread.evidenceId
    rw [Option.map_some, hid, htrim] at hid'
    injection hid' with hid'
    have hobs := h.observation rfl
    subst hrow
    have hrec := observationRow_records (env.inventory o.evidenceId) env.observedAtServer hread hplain
      ⟨hobs.fingerprint, hobs.summary, hobs.names, hobs.locations, hobs.filePath, hobs.locationSlot⟩
    refine ⟨⟨hrec.workspaceId, hrec.createdBy, hrec.jobId, hrec.evidenceType, hrec.observedAt,
      hrec.fingerprint, hrec.summary, hrec.metadata, hrec.nothingElse⟩, ?_⟩
    show (agent.workspaceId, agent.id, o.evidenceId) = _
    rw [← hid', ← hid]
    rfl
  | some jobId =>
    dsimp only at hrow
    unfold jobItemRow at hrow
    dsimp only at hrow
    rw [Option.map_some, hid, htrim] at hrow
    obtain ⟨c, rest, rfl⟩ := List.exists_cons_of_ne_nil hne
    dsimp only at hrow
    split at hrow
    · cases hrow
    · injection hrow with hrow
      subst hrow
      have hrec := jobEvidenceRow_records (c :: rest) binding h rfl hnames
      refine ⟨hrec, ?_⟩
      show (agent.workspaceId, agent.id, c :: rest) = _
      rw [← hid]
      rfl

end Rows

end TokenTimer.Evidence
