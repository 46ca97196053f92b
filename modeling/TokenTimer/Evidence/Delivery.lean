/-
  TokenTimer.Evidence.Delivery — no evidence is lost or doubled, EXACTLY as far as
  the evidence id tells the items apart.

  The id is the hash of the job, the type, the time, the fingerprint and the
  summary.  Two items that differ only in their METADATA have one id, and the
  second insert does nothing: its report is acknowledged and its metadata is
  gone.  Where no two items of a run are so, and every item is storable, each
  acknowledged item has exactly one row.

  Main results:
    * `deliver_spec` — what one delivered body inserts.
    * `evidence_kept` — every acknowledged item has exactly one row.
-/

import TokenTimer.Evidence.Records
import TokenTimer.Lib.Runs

namespace TokenTimer.Evidence

open Json Lib Lib.Runs Lib.Table

/-! ## §1. Runs. -/

/-- The tables, and the items whose report was acknowledged. -/
structure State where
  tables : Tables
  acked : List Report

/-- An agent builds a body and sends it, or the jobs change hands. -/
inductive Label
  | report (agent : Agent) (input : BodyInput) (env : Env) (responseLost : Bool)
  | schedule (jobs : List JobRow)

def bodyReports (agent : Agent) (body : EvidenceBody) : List Report :=
  body.evidenceItems.map fun item => ⟨agent, body.jobId, item⟩

/-- The items a step reports. -/
def Label.reports (cfg : Config) : Label → List Report
  | .report agent input _ _ =>
    match buildEvidenceBody cfg input with
    | .error _ => []
    | .ok body => bodyReports agent body
  | .schedule _ => []

/-- A message from the host to the tables; `none` where either side refuses it. -/
def deliver (cfg : Config) (t : Tables) (agent : Agent) (body : EvidenceBody) (env : Env) :
    Option Tables :=
  (prepareOutboundEnvelope cfg (reportEvidence cfg body)).bind fun wire =>
    resultsHandler cfg t agent wire env

def next (cfg : Config) (s : State) : Label → State
  | .schedule jobs => { s with tables := { s.tables with jobs := jobs } }
  | .report agent input env responseLost =>
    match buildEvidenceBody cfg input with
    | .error _ => s
    | .ok body =>
      match deliver cfg s.tables agent body env with
      | none => s
      | some tables =>
        { tables, acked := if responseLost then s.acked else s.acked ++ bodyReports agent body }

/-- The state before any agent has reported. -/
def State.initial : State := ⟨⟨[], [], fun _ => 0⟩, []⟩

def evidenceSystem (cfg : Config) : System State Label where
  init s := s = .initial
  step s a t := t = next cfg s a

/-- The items reported in a run. -/
def reportsOf (cfg : Config) (steps : List (Stepped State Label)) : List Report :=
  steps.flatMap fun x => x.label.reports cfg

/-! ## §2. The condition. -/

/-- Exactly one row holds the item. -/
def Kept (cfg : Config) (rows : List EvidenceRow) (r : Report) : Prop :=
  ∃ pre row post, rows = pre ++ row :: post ∧ Records cfg row r ∧
    ∀ other ∈ pre ++ post, ¬ Records cfg other r

def SameAgent (a b : Report) : Prop :=
  a.agent.workspaceId = b.agent.workspaceId ∧ a.agent.id = b.agent.id

/-- No two items of the run differ in their metadata alone, and no instant is
    spelled in two ways. -/
structure Distinguished (cfg : Config) (reports : List Report) : Prop where
  metadata : ∀ a ∈ reports, ∀ b ∈ reports, SameAgent a b →
    SameIdentity a.jobId b.jobId a.item b.item → ∀ e, e ∈ a.item.metadata ↔ e ∈ b.item.metadata
  spelling : ∀ a ∈ reports, ∀ b ∈ reports, SameAgent a b → a.jobId = b.jobId →
    a.item.eventType = b.item.eventType →
    cfg.dateParse a.item.observedAt = cfg.dateParse b.item.observedAt →
    a.item.fingerprintSha256 = b.item.fingerprintSha256 → a.item.summary = b.item.summary →
    a.item.observedAt = b.item.observedAt

/-- No two of the texts hashed in the run have one hash. -/
def CollisionFree (cfg : Config) (reports : List Report) : Prop :=
  ∀ a ∈ reports, ∀ b ∈ reports,
    cfg.sha256Hex (stableText a.jobId a.item) = cfg.sha256Hex (stableText b.jobId b.item) →
    stableText a.jobId a.item = stableText b.jobId b.item

/-! ## §3. Inserting. -/

/-- What the rows are: one for each key, each the row of an item of the run. -/
structure Inv (cfg : Config) (reports : List Report) (rows : List EvidenceRow) : Prop where
  keys : KeyNodup EvidenceRow.key rows
  written : ∀ row ∈ rows, ∃ r ∈ reports, row.key = r.key cfg ∧ Records cfg row r

variable {cfg : Config} {reports : List Report} {rows : List EvidenceRow}

theorem subset_insertEvidence (rows : List EvidenceRow) (row : EvidenceRow) :
    rows ⊆ insertEvidence rows row := by
  unfold insertEvidence
  split
  · exact List.Subset.refl _
  · exact List.subset_append_left _ _

theorem exists_key_insertEvidence (rows : List EvidenceRow) (row : EvidenceRow) :
    ∃ x ∈ insertEvidence rows row, x.key = row.key := by
  unfold insertEvidence
  split
  · rename_i hany
    obtain ⟨x, hx, hkey⟩ := List.any_eq_true.mp hany
    exact ⟨x, hx, of_decide_eq_true hkey⟩
  · exact ⟨row, List.mem_append_right _ List.mem_cons_self, rfl⟩

variable {agent : Agent} {body : EvidenceBody} {row : EvidenceRow} {a b : Report}

theorem Inv.insert (h : Inv cfg reports rows)
    (hrow : ∃ r ∈ reports, row.key = r.key cfg ∧ Records cfg row r) :
    Inv cfg reports (insertEvidence rows row) := by
  unfold insertEvidence
  split
  · exact h
  · rename_i hany
    have hfresh : ∀ x ∈ rows, x.key ≠ row.key := by
      intro x hx hkey
      exact hany (List.any_eq_true.mpr ⟨x, hx, decide_eq_true hkey⟩)
    refine ⟨keyNodup_append_singleton h.keys hfresh, ?_⟩
    rw [List.forall_mem_append, List.forall_mem_singleton]
    exact ⟨h.written, hrow⟩

variable {new : List EvidenceRow} {α β : Type} {input : BodyInput} {env : Env} {s : State}

theorem Inv.insertAll (h : Inv cfg reports rows)
    (hnew : ∀ row ∈ new, ∃ r ∈ reports, row.key = r.key cfg ∧ Records cfg row r) :
    Inv cfg reports (new.foldl insertEvidence rows) := by
  induction new generalizing rows with
  | nil => exact h
  | cons row rest ih =>
    rw [List.forall_mem_cons] at hnew
    exact ih (h.insert hnew.1) hnew.2

theorem subset_foldl_insertEvidence (new rows : List EvidenceRow) :
    rows ⊆ new.foldl insertEvidence rows := by
  induction new generalizing rows with
  | nil => exact List.Subset.refl _
  | cons row rest ih => exact List.Subset.trans (subset_insertEvidence rows row) (ih _)

theorem exists_key_foldl_insertEvidence (hrow : row ∈ new) (rows : List EvidenceRow) :
    ∃ x ∈ new.foldl insertEvidence rows, x.key = row.key := by
  induction new generalizing rows with
  | nil => cases hrow
  | cons first rest ih =>
    rw [List.mem_cons] at hrow
    obtain rfl | hrow := hrow
    · obtain ⟨x, hx, hkey⟩ := exists_key_insertEvidence rows row
      exact ⟨x, subset_foldl_insertEvidence rest _ hx, hkey⟩
    · exact ih hrow _

/-! ## §4. One delivered body. -/

theorem buildEvidenceItem_noId {input : ItemInput} {item : EvidenceItem}
    (h : buildEvidenceItem cfg input = .ok item) : item.evidenceId = none := by
  unfold buildEvidenceItem at h
  split at h
  · cases h
  · obtain ⟨_, -, h⟩ := bind_ok.mp h
    obtain ⟨_, -, h⟩ := bind_ok.mp h
    obtain ⟨_, -, h⟩ := bind_ok.mp h
    obtain ⟨_, -, h⟩ := bind_ok.mp h
    cases h
    rfl

theorem buildEvidenceBody_noId (h : buildEvidenceBody cfg input = .ok body) :
    ∀ item ∈ body.evidenceItems, item.evidenceId = none := by
  unfold buildEvidenceBody at h
  obtain ⟨_, -, h⟩ := bind_ok.mp h
  obtain ⟨_, -, h⟩ := bind_ok.mp h
  obtain ⟨_, -, h⟩ := bind_ok.mp h
  obtain ⟨_, -, h⟩ := bind_ok.mp h
  obtain ⟨_, -, h⟩ := bind_ok.mp h
  obtain ⟨items, hitems, h⟩ := bind_ok.mp h
  cases h
  intro item hitem
  obtain ⟨input, -, hbuilt⟩ := mem_of_mapM_ok hitems item hitem
  exact buildEvidenceItem_noId hbuilt

theorem exists_left_of_forall₂ {R : α → β → Prop} {l : List α} {l' : List β}
    (h : List.Forall₂ R l l') : ∀ b ∈ l', ∃ a ∈ l, R a b := by
  induction h with
  | nil => exact List.forall_mem_nil _
  | @cons a b l l' hab _ ih =>
    rw [List.forall_mem_cons]
    refine ⟨⟨a, List.mem_cons_self, hab⟩, fun c hc => ?_⟩
    obtain ⟨x, hx, hxc⟩ := ih c hc
    exact ⟨x, List.mem_cons_of_mem _ hx, hxc⟩

/-- A hash is no secret. -/
def HashUnredacted (cfg : Config) : Prop := ∀ text, cfg.redact (cfg.sha256Hex text) = cfg.sha256Hex text

theorem sentItem_redacted (hhash : HashUnredacted cfg) {r : Report} (h : Storable cfg r)
    (hbuilt : r.item.evidenceId = none) : (sentItem cfg r).redacted cfg = sentItem cfg r := by
  have hred := h.unredacted
  rw [sentItem_eq hbuilt]
  unfold EvidenceItem.redacted at hred ⊢
  dsimp only
  rw [Option.map_some, show cfg.redact (computeEvidenceId cfg r.jobId r.item) =
    computeEvidenceId cfg r.jobId r.item from hhash _]
  have htime := congrArg EvidenceItem.observedAt hred
  have hprint := congrArg EvidenceItem.fingerprintSha256 hred
  have hsummary := congrArg EvidenceItem.summary hred
  have hmeta := congrArg EvidenceItem.metadata hred
  dsimp only at htime hprint hsummary hmeta
  rw [htime, hprint, hsummary, hmeta]

theorem prepareOutboundEnvelope_spec (hhash : HashUnredacted cfg) {wire : EvidenceBody}
    (hbuilt : ∀ item ∈ body.evidenceItems, item.evidenceId = none)
    (hstorable : ∀ r ∈ bodyReports agent body, Storable cfg r)
    (h : prepareOutboundEnvelope cfg (reportEvidence cfg body) = some wire) :
    wire.jobId = body.jobId ∧
      wire.evidenceItems = (bodyReports agent body).map (sentItem cfg) ∧
      ∀ r ∈ bodyReports agent body, (sentItem cfg r).wellShaped = true := by
  obtain ⟨-, h⟩ := Option.ite_none_left_eq_some.mp h
  obtain ⟨hshape, h⟩ := Option.ite_none_right_eq_some.mp h
  injection h with h
  rw [h] at hshape
  have hitems : wire.evidenceItems = (bodyReports agent body).map (sentItem cfg) := by
    rw [← h]
    unfold EvidenceBody.redacted reportEvidence bodyReports
    dsimp only
    rw [List.map_map, List.map_map]
    refine List.map_congr_left fun item hitem => ?_
    have hr : (⟨agent, body.jobId, item⟩ : Report) ∈ bodyReports agent body :=
      List.mem_map_of_mem hitem
    exact sentItem_redacted hhash (hstorable _ hr) (hbuilt item hitem)
  unfold EvidenceBody.wellShaped at hshape
  simp only [Bool.and_eq_true, decide_eq_true_eq, List.all_eq_true] at hshape
  obtain ⟨⟨⟨-, hpos⟩, -⟩, hall⟩ := hshape
  rw [hitems] at hpos hall
  refine ⟨?_, hitems, fun r hr => hall _ (List.mem_map_of_mem hr)⟩
  obtain ⟨sent, hsent⟩ := List.exists_mem_of_length_pos hpos
  obtain ⟨r, hr, -⟩ := List.mem_map.mp hsent
  have hjob := (hstorable r hr).jobId
  obtain ⟨item, -, rfl⟩ := List.mem_map.mp hr
  rw [← h]
  exact hjob

/-- **ONE DELIVERED BODY** inserts one row for each of its items, which holds it. -/
theorem deliver_spec (hhash : HashUnredacted cfg) {t t' : Tables}
    (hbuilt : ∀ item ∈ body.evidenceItems, item.evidenceId = none)
    (hstorable : ∀ r ∈ bodyReports agent body, Storable cfg r)
    (h : deliver cfg t agent body env = some t') :
    ∃ new : List EvidenceRow, t'.rows = new.foldl insertEvidence t.rows ∧
      (∀ row ∈ new, ∃ r ∈ bodyReports agent body, row.key = r.key cfg ∧ Records cfg row r) ∧
      ∀ r ∈ bodyReports agent body, ∃ row ∈ new, row.key = r.key cfg := by
  obtain ⟨wire, hwire, hhandler⟩ := Option.bind_eq_some_iff.mp h
  obtain ⟨hjob, hitems, hshape⟩ := prepareOutboundEnvelope_spec hhash hbuilt hstorable hwire
  obtain ⟨binding, new, hnew, hrows⟩ := resultsHandler_cases hhandler
  rw [hitems, List.forall₂_map_left_iff, hjob] at hnew
  -- Each item of the body with the row it asks for.
  have hpairs : List.Forall₂ (fun r row => Records cfg row r ∧ row.key = r.key cfg)
      (bodyReports agent body) new := by
    refine ((List.forall₂_and_left (bodyReports agent body) new).mpr
      ⟨fun r hr => hr, hnew⟩).imp fun r row hrow => ?_
    obtain ⟨hr, hrow⟩ := hrow
    obtain ⟨item, hitem, rfl⟩ := List.mem_map.mp hr
    exact rowOf_records (hstorable _ hr) (hbuilt item hitem) (hshape _ hr) hrow
  refine ⟨new, hrows, ?_, ?_⟩
  · intro row hrow
    obtain ⟨r, hr, hrec, hkey⟩ := exists_left_of_forall₂ hpairs row hrow
    exact ⟨r, hr, hkey, hrec⟩
  · intro r hr
    obtain ⟨row, hrow, -, hkey⟩ := exists_left_of_forall₂ hpairs.flip r hr
    exact ⟨row, hrow, hkey⟩

/-! ## §5. Runs of storable items. -/

theorem reports_of_build {lost : Bool} (h : buildEvidenceBody cfg input = .ok body) :
    (Label.report agent input env lost).reports cfg = bodyReports agent body := by
  unfold Label.reports
  dsimp only
  rw [h]

/-- The tables of a run, and the acknowledged items among those of the run. -/
structure Ledger (cfg : Config) (reports : List Report) (s : State) : Prop where
  rows : Inv cfg reports s.tables.rows
  acked : ∀ r ∈ s.acked, r ∈ reports ∧ ∃ row ∈ s.tables.rows, row.key = r.key cfg

/-- **ONE STEP** of an agent or of the control plane keeps the ledger. -/
theorem Ledger.next (h : Ledger cfg reports s) (hhash : HashUnredacted cfg)
    (hstorable : ∀ r ∈ reports, Storable cfg r) {a : Label} (ha : a.reports cfg ⊆ reports) :
    Ledger cfg reports (next cfg s a) := by
  cases a with
  | schedule jobs => exact ⟨h.rows, h.acked⟩
  | report agent input env lost =>
    unfold Evidence.next
    dsimp only
    cases hbody : buildEvidenceBody cfg input with
    | error e => exact h
    | ok body =>
      dsimp only
      rw [reports_of_build hbody] at ha
      cases hdeliver : deliver cfg s.tables agent body env with
      | none => exact h
      | some tables =>
        dsimp only
        obtain ⟨new, hrows, hnew, hall⟩ := deliver_spec hhash (buildEvidenceBody_noId hbody)
          (fun r hr => hstorable r (ha hr)) hdeliver
        have hsub : s.tables.rows ⊆ tables.rows := by
          rw [hrows]
          exact subset_foldl_insertEvidence new s.tables.rows
        have hold : ∀ r ∈ s.acked, r ∈ reports ∧ ∃ row ∈ tables.rows, row.key = r.key cfg := by
          intro r hr
          obtain ⟨hmem, row, hrow, hkey⟩ := h.acked r hr
          exact ⟨hmem, row, hsub hrow, hkey⟩
        constructor
        · show Inv cfg reports tables.rows
          rw [hrows]
          refine h.rows.insertAll fun row hrow => ?_
          obtain ⟨r, hr, hkey, hrec⟩ := hnew row hrow
          exact ⟨r, ha hr, hkey, hrec⟩
        · show ∀ r ∈ (if lost then s.acked else s.acked ++ bodyReports agent body), _
          split
          · exact hold
          · rw [List.forall_mem_append]
            refine ⟨hold, fun r hr => ⟨ha hr, ?_⟩⟩
            obtain ⟨row, hrow, hkey⟩ := hall r hr
            obtain ⟨x, hx, hxkey⟩ := exists_key_foldl_insertEvidence hrow s.tables.rows
            rw [← hrows] at hx
            exact ⟨x, hx, hxkey.trans hkey⟩

theorem Ledger.of_trace (hhash : HashUnredacted cfg) (hstorable : ∀ r ∈ reports, Storable cfg r)
    {steps : List (Stepped State Label)} (h : Trace (evidenceSystem cfg) .initial steps s)
    (hsub : reportsOf cfg steps ⊆ reports) :
    Ledger cfg reports s := by
  induction h with
  | nil => exact ⟨⟨List.nodup_nil, List.forall_mem_nil _⟩, List.forall_mem_nil _⟩
  | snoc hpre hst ih =>
    unfold reportsOf at hsub ih
    rw [List.flatMap_append, List.append_subset] at hsub
    rw [hst]
    refine (ih hsub.1).next hhash hstorable ?_
    simpa using hsub.2

/-- Items with one key are told apart by nothing that is hashed. -/
theorem sameIdentity_of_key (hfree : CollisionFree cfg reports) (ha : a ∈ reports) (hb : b ∈ reports)
    (h : a.key cfg = b.key cfg) :
    SameAgent a b ∧ SameIdentity a.jobId b.jobId a.item b.item := by
  unfold Report.key at h
  rw [Prod.mk.injEq, Prod.mk.injEq] at h
  exact ⟨⟨h.1, h.2.1⟩, stableText_inj (hfree a ha b hb h.2.2)⟩

theorem textOrNull_inj {a b : Option JsString} (h : textOrNull a = textOrNull b) : a = b := by
  cases a <;> cases b <;> simp_all [textOrNull]

/-- A row that holds two items holds one under the spelling of the other. -/
theorem key_of_records (hdist : Distinguished cfg reports) (ha : a ∈ reports) (hb : b ∈ reports)
    (hra : Records cfg row a) (hrb : Records cfg row b) :
    a.key cfg = b.key cfg := by
  have hagent : SameAgent a b :=
    ⟨hra.workspaceId.symm.trans hrb.workspaceId, hra.createdBy.symm.trans hrb.createdBy⟩
  have hjob := hra.jobId.symm.trans hrb.jobId
  have htype := hra.evidenceType.symm.trans hrb.evidenceType
  have hprint := textOrNull_inj (Option.some.inj (hra.fingerprint.symm.trans hrb.fingerprint))
  have hsummary := textOrNull_inj (Option.some.inj (hra.summary.symm.trans hrb.summary))
  have htime := hdist.spelling a ha b hb hagent hjob htype
    (hra.observedAt.symm.trans hrb.observedAt) hprint hsummary
  have hsame : SameIdentity a.jobId b.jobId a.item b.item := ⟨hjob, htype, htime, hprint, hsummary⟩
  unfold Report.key computeEvidenceId
  rw [hagent.1, hagent.2, hsame.stableText_eq]

theorem Records.of_same (h : Records cfg row a) (hagent : SameAgent a b)
    (hsame : SameIdentity a.jobId b.jobId a.item b.item)
    (hmeta : ∀ e, e ∈ a.item.metadata ↔ e ∈ b.item.metadata) : Records cfg row b where
  workspaceId := h.workspaceId.trans hagent.1
  createdBy := h.createdBy.trans hagent.2
  jobId := h.jobId.trans hsame.jobId
  evidenceType := h.evidenceType.trans hsame.eventType
  observedAt := by rw [h.observedAt, hsame.observedAt]
  fingerprint := by rw [h.fingerprint, hsame.fingerprintSha256]
  summary := by rw [h.summary, hsame.summary]
  metadata e he := h.metadata e ((hmeta e).mpr he)
  nothingElse name value hget := by
    rw [← hsame.jobId]
    exact (h.nothingElse name value hget).imp id (hmeta _).mp

/-- **NO EVIDENCE IS LOST OR DOUBLED** in a run whose items are storable and told
    apart by more than their metadata. -/
theorem evidence_kept (cfg : Config) (hhash : HashUnredacted cfg)
    {steps : List (Stepped State Label)} {s : State}
    (h : Trace (evidenceSystem cfg) .initial steps s)
    (hfree : CollisionFree cfg (reportsOf cfg steps))
    (hstorable : ∀ r ∈ reportsOf cfg steps, Storable cfg r)
    (hdist : Distinguished cfg (reportsOf cfg steps)) :
    ∀ r ∈ s.acked, Kept cfg s.tables.rows r := by
  have hledger := Ledger.of_trace hhash hstorable h (List.Subset.refl _)
  intro r hr
  obtain ⟨hmem, row, hrow, hkey⟩ := hledger.acked r hr
  obtain ⟨c, hc, hckey, hrec⟩ := hledger.rows.written row hrow
  obtain ⟨hagent, hsame⟩ := sameIdentity_of_key hfree hc hmem (hckey.symm.trans hkey)
  obtain ⟨pre, post, hsplit⟩ := List.append_of_mem hrow
  refine ⟨pre, row, post, hsplit,
    hrec.of_same hagent hsame (hdist.metadata c hc r hmem hagent hsame), ?_⟩
  intro other hother hor
  have hin : other ∈ s.tables.rows := by
    rw [hsplit]
    rw [List.mem_append] at hother ⊢
    exact hother.imp id (List.mem_cons_of_mem row)
  obtain ⟨d, hd, hdkey, hdrec⟩ := hledger.rows.written other hin
  have hsamekey : other.key = row.key := by
    rw [hdkey, hkey]
    exact key_of_records hdist hd hmem hdrec hor
  -- Two places of one list with one key.
  have hkeys := hledger.rows.keys
  unfold KeyNodup at hkeys
  rw [hsplit, List.map_append, List.map_cons, List.nodup_middle, List.nodup_cons] at hkeys
  apply hkeys.1
  rw [← List.map_append, ← hsamekey]
  exact List.mem_map_of_mem hother

/-- A hash of 64 hexadecimal digits, by the length of the text. -/
def demoConfig : Config where
  redact := id
  containsPrivateKeyMaterial _ := false
  sha256Hex text := List.replicate 64 (hexDigit (text.length % 16))
  dateParse _ := some 1767225600000

def demoAgent : Agent := ⟨1, 1, js "prod-web-01", js "web-01"⟩

def demoJobs : List JobRow := [⟨js "job-1", 1, some 1, some (js "claim-1"), 1⟩]

/-- A deployment that took so many milliseconds. -/
def deployedIn (ms : Rat) : ItemInput where
  eventType := js "deployment.updated"
  observedAt := js "2026-01-01T00:00:00.000Z"
  summary := some (js "Deploy step succeeded for job job-1: certificate installed atomically.")
  metadata := [⟨js "step", .string (js "deploy")⟩, ⟨js "deployMetric_totalMs", .number ms⟩]

def demoReport (sequence : Nat) (ms : Rat) (responseLost : Bool) : Label :=
  .report demoAgent { jobId := some (js "job-1"), evidenceItems := [deployedIn ms] }
    { sequence := some sequence } responseLost

def demoItem (ms : Rat) : Report where
  agent := demoAgent
  jobId := some (js "job-1")
  item := { eventType := .deploymentUpdated, observedAt := (deployedIn ms).observedAt
            summary := (deployedIn ms).summary, metadata := (deployedIn ms).metadata }

/-- The state after the jobs are claimed and two bodies have been sent. -/
def demoState (first second : Label) : State :=
  next demoConfig (next demoConfig (next demoConfig .initial (.schedule demoJobs)) first) second

def demoSteps (first second : Label) : List (Stepped State Label) :=
  let claimed := next demoConfig .initial (.schedule demoJobs)
  [⟨.initial, .schedule demoJobs, claimed⟩, ⟨claimed, first, next demoConfig claimed first⟩,
    ⟨next demoConfig claimed first, second, demoState first second⟩]

theorem trace_demo (first second : Label) :
    Trace (evidenceSystem demoConfig) .initial (demoSteps first second) (demoState first second) :=
  .snoc (.snoc (.snoc .nil rfl) rfl) rfl

/-- Two targets of one job are deployed in the same millisecond: both reports are
    acknowledged, and the measurement of the second is nowhere. -/
theorem deployment_metric_lost :
    ∃ steps s r, Trace (evidenceSystem demoConfig) .initial steps s ∧
      CollisionFree demoConfig (reportsOf demoConfig steps) ∧ r ∈ s.acked ∧
      ¬ Kept demoConfig s.tables.rows r := by
  refine ⟨demoSteps (demoReport 1 12 false) (demoReport 2 31 false), _, demoItem 31,
    trace_demo _ _, ?_, by decide +kernel, ?_⟩
  · have hreports : reportsOf demoConfig (demoSteps (demoReport 1 12 false) (demoReport 2 31 false)) =
        [demoItem 12, demoItem 31] := by
      decide +kernel
    rw [hreports]
    unfold CollisionFree
    decide +kernel
  · rintro ⟨pre, row, post, hsplit, hrec, -⟩
    have hrows : ∀ row ∈ (demoState (demoReport 1 12 false) (demoReport 2 31 false)).tables.rows,
        row.metadata.get (js "deployMetric_totalMs") = some (.number 12) := by
      decide +kernel
    have hrow := hrows row (by rw [hsplit]; exact List.mem_append_right _ List.mem_cons_self)
    have hheld := hrec.metadata ⟨js "deployMetric_totalMs", .number 31⟩ (by decide +kernel)
    rw [hheld] at hrow
    exact absurd hrow (by decide +kernel)

/-- The response to the first send is lost and the body is sent again. -/
theorem evidence_kept_demo :
    ∃ (s : State) (r : Report), r ∈ s.acked ∧ Kept demoConfig s.tables.rows r := by
  have hreports : reportsOf demoConfig (demoSteps (demoReport 1 12 true) (demoReport 2 12 false)) =
      [demoItem 12, demoItem 12] := by
    decide +kernel
  have hstorable : Storable demoConfig (demoItem 12) :=
    { jobId := by decide +kernel
      unredacted := by decide +kernel
      functional := by decide +kernel
      names := by decide +kernel
      observation := fun h => absurd h (by decide) }
  refine ⟨demoState (demoReport 1 12 true) (demoReport 2 12 false), demoItem 12, by decide +kernel,
    evidence_kept demoConfig (fun _ => rfl) (trace_demo _ _) ?_ ?_ ?_ _ (by decide +kernel)⟩
  · rw [hreports]
    unfold CollisionFree
    decide +kernel
  · rw [hreports]
    simpa using hstorable
  · rw [hreports]
    constructor
    · simp
    · simp

end TokenTimer.Evidence
