/-
  TokenTimer.CertOps.CsrLeftovers — which runs of the CSR workflows leave a
  provisional certificate behind.

  An import of a leaf that nothing owns makes a provisional row, tagged with its
  workflow; later imports of the leaf share the row.  A cancellation releases it
  with the last workflow of the row, unless that workflow was created FOR the
  row; an observation under another certificate takes away every workflow of the
  row and deletes it only if the workflow in turn is the one that made it.
-/

import TokenTimer.CertOps.CsrPromotion

namespace TokenTimer.CertOps.CsrWorkflow

open Lib.Runs Lib.Table

variable {cfg : Config} {answers : Answers} {s s' : State} {row r w : Workflow}

/-! ## §1. The claim and the condition. -/

/-- No provisional row is left over, and none is in the way of a promotion. -/
structure Unblocked (s : State) : Prop where
  used : ∀ c ∈ s.certificates, c.isBare s = true →
    ∃ w ∈ s.workflows, w.managedCertificateId = some c.id ∧ w.status ≠ .cancelled
  free : ∀ w ∈ s.workflows, w.status = .signedPendingInstall → w.observedInstanceId.isSome = true →
    namesNeedAcknowledgement w = false →
      ∀ fingerprint, w.signedFingerprintSha256 = some fingerprint → leftovers s w fingerprint = []
  deferred : ∀ row rows, .deferred row rows ∈ s.history → rows = []

/-- A workflow that an observation under another certificate takes away from `c`. -/
def Workflow.leaves (c : Certificate) (w : Workflow) : Bool :=
  w.existingCertificateId.isNone && w.managedCertificateId = some c.id

/-- **THE CONDITION**: a workflow that was created for a provisional row is not
    cancelled as its last one; no provisional row is made of a leaf that another
    workflow has signed; and the first workflow that an observation takes away
    from a provisional row is the one that made it. -/
def releases (cfg : Config) (s : State) : Action → Prop
  | .cancelCsrWorkflow workflowId =>
    ∀ w ∈ s.workflows, w.id = workflowId → w.status ≠ .completed → w.existingCertificateId ≠ none →
      ∀ c ∈ s.certificates, c.isBare s = true → w.managedCertificateId = some c.id →
        ∃ other ∈ s.workflows, other.id ≠ workflowId ∧ other.managedCertificateId = some c.id
  | .importSignedCertificate _ workflowId _ certificatePem =>
    ∀ w ∈ s.workflows, w.id = workflowId → w.status = .pendingSignature →
      w.existingCertificateId = none →
      ∀ leaf rest, cfg.parsePublicCertificateMaterial certificatePem = .ok (leaf :: rest) →
        findFingerprintOwners s leaf.fingerprintSha256 = [] →
        ∀ other ∈ s.workflows, other.status = .signedPendingInstall →
          other.signedFingerprintSha256 ≠ some leaf.fingerprintSha256
  | .recordCsrObservation answers obs =>
    ∀ observed, observedCertificate s obs = some observed →
      ∀ c ∈ s.certificates, c.isBare s = true → c.id ≠ observed →
        ∀ w, (answers.arrange (s.workflows.filter (Workflow.awaits obs))).find? (Workflow.leaves c) =
            some w → c.sourceRef = some (.csr w.id)
  | _ => True

/-! ## §2. The invariant. -/

/-- **THE INVARIANT**: every bare provisional row is in use, and by every signed
    workflow of its leaf. -/
structure Used (s : State) : Prop where
  certificateKeys : KeyNodup Certificate.id s.certificates
  source : ∀ c ∈ s.certificates, c.isProvisional = true → c.source = "api"
  unassigned : ∀ w ∈ s.workflows, w.status = .pendingSignature ∨ w.status = .cancelled →
    w.managedCertificateId = none
  used : ∀ c ∈ s.certificates, c.isBare s = true →
    ∃ w ∈ s.workflows, w.managedCertificateId = some c.id ∧ w.status ≠ .cancelled
  only : ∀ w ∈ s.workflows, w.status = .signedPendingInstall → ∀ c ∈ s.certificates,
    c.isBare s = true → c.facts.fingerprintSha256 = w.signedFingerprintSha256 →
      w.managedCertificateId = some c.id
  deferred : ∀ row rows, .deferred row rows ∈ s.history → rows = []

variable {c : Certificate} {id observed workflowId : Nat} {obs : Observation} {actor : Option Nat}
  {current : Workflow}

theorem isBare_iff : c.isBare s = true ↔
    c.isProvisional = true ∧ ∀ i ∈ s.instances, i.managedCertificateId ≠ c.id := by
  simp [Certificate.isBare]

theorem isProvisional_iff : c.isProvisional = true ↔
    c.status = .provisioning ∧ c.tokenId = none ∧ c.sourceRef.any SourceRef.isCsr = true := by
  simp [Certificate.isProvisional, and_assoc]

/-- Nothing in the way of a workflow that has every bare row of its leaf. -/
theorem leftovers_eq_nil {fingerprint : String} (h : ∀ c ∈ s.certificates, c.isBare s = true →
    c.facts.fingerprintSha256 = some fingerprint → row.managedCertificateId = some c.id) :
    leftovers s row fingerprint = [] := by
  rw [leftovers, List.filter_eq_nil_iff]
  intro c hc hleft
  obtain ⟨hmem, hfingerprint⟩ := mem_findFingerprintOwners.mp hc
  simp only [Bool.and_eq_true, decide_eq_true_eq] at hleft
  exact hleft.2 (h c hmem hleft.1 hfingerprint)

/-- The invariant gives the claim. -/
theorem Used.unblocked (hU : Used s) : Unblocked s :=
  { hU with
    free w hw hstatus _ _ fingerprint hfingerprint := by
      refine leftovers_eq_nil ?_
      intro c hc hbare hfc
      exact hU.only w hw hstatus c hc hbare (hfc.trans hfingerprint.symm) }

/-! ## §3. Statements that take no row out of use. -/

/-- A workflow keeps its certificate and its leaf. -/
structure Stays (w w' : Workflow) : Prop where
  managed : w'.managedCertificateId = w.managedCertificateId
  fingerprint : w'.status = .signedPendingInstall → w'.signedFingerprintSha256 = w.signedFingerprintSha256
  status : w'.status = w.status ∨ w'.status = .completed ∨
    (w.status = .cancelled ∧ w'.status = .pendingSignature)

theorem Stays.refl (w : Workflow) : Stays w w := ⟨rfl, fun _ => rfl, .inl rfl⟩

def BareBefore (s s' : State) : Prop :=
  ∀ c' ∈ s'.certificates, c'.isBare s' = true → ∃ c ∈ s.certificates, c.isBare s = true ∧
    c.id = c'.id ∧ c.facts.fingerprintSha256 = c'.facts.fingerprintSha256

theorem BareBefore.of_eq (hcertificates : s'.certificates = s.certificates)
    (hinstances : s'.instances = s.instances) : BareBefore s s' := by
  intro c hc hbare
  refine ⟨c, hcertificates ▸ hc, ?_, rfl, rfl⟩
  rw [isBare_iff] at hbare ⊢
  exact ⟨hbare.1, hinstances ▸ hbare.2⟩

/-- **THE RULE OF A STATEMENT** under which every workflow stays. -/
theorem Used.map (hU : Used s) (g : Workflow → Workflow)
    (hworkflows : s'.workflows = s.workflows.map g) (hg : ∀ w ∈ s.workflows, Stays w (g w))
    (hkeys : KeyNodup Certificate.id s'.certificates)
    (hsource : ∀ c ∈ s'.certificates, c.isProvisional = true → c.source = "api")
    (hbare : BareBefore s s')
    (hdeferred : ∀ row rows, .deferred row rows ∈ s'.history → rows = []) : Used s' where
  certificateKeys := hkeys
  source := hsource
  unassigned w' hw' hstatus := by
    rw [hworkflows, List.mem_map] at hw'
    obtain ⟨w, hw, rfl⟩ := hw'
    rw [(hg w hw).managed]
    apply hU.unassigned w hw
    obtain h | h | ⟨h, _⟩ := (hg w hw).status
    · rwa [h] at hstatus
    · rw [h] at hstatus
      obtain h' | h' := hstatus <;> cases h'
    · exact .inr h
  used c' hc' hb' := by
    obtain ⟨c, hc, hb, hid, _⟩ := hbare c' hc' hb'
    obtain ⟨w, hw, hmanaged, hstatus⟩ := hU.used c hc hb
    refine ⟨g w, by rw [hworkflows]; exact List.mem_map_of_mem hw, ?_, ?_⟩
    · rw [(hg w hw).managed, hmanaged, hid]
    · obtain h | h | ⟨h, _⟩ := (hg w hw).status
      · rwa [h]
      · rw [h]
        decide
      · exact absurd h hstatus
  only w' hw' hstatus c' hc' hb' hfingerprint := by
    rw [hworkflows, List.mem_map] at hw'
    obtain ⟨w, hw, rfl⟩ := hw'
    obtain ⟨c, hc, hb, hid, hf⟩ := hbare c' hc' hb'
    have hold : w.status = .signedPendingInstall := by
      obtain h | h | ⟨_, h⟩ := (hg w hw).status
      · exact h.symm.trans hstatus
      · cases h.symm.trans hstatus
      · cases h.symm.trans hstatus
    rw [(hg w hw).managed, ← hid]
    exact hU.only w hw hold c hc hb (hf.trans (hfingerprint.trans ((hg w hw).fingerprint hstatus)))
  deferred := hdeferred

/-- A history that goes on without a promotion that is put off. -/
theorem deferred_append {events : List Event} (hU : Used s)
    (h : ∀ row rows, Event.deferred row rows ∈ events → rows = []) :
    ∀ row rows, Event.deferred row rows ∈ s.history ++ events → rows = [] := by
  intro row rows hmem
  exact (List.mem_append.mp hmem).elim (hU.deferred row rows) (h row rows)

theorem Used.edit (hU : Used s) (id : Nat) (events : List Event) {f : Workflow → Workflow}
    (hworkflows : s'.workflows = updateWhere (fun x => x.id = id) f s.workflows)
    (hcertificates : s'.certificates = s.certificates) (hinstances : s'.instances = s.instances)
    (hhistory : s'.history = s.history ++ events)
    (hf : ∀ w ∈ s.workflows, w.id = id → Stays w (f w))
    (hevents : ∀ row rows, Event.deferred row rows ∈ events → rows = []) : Used s' := by
  refine hU.map (fun x => if decide (x.id = id) = true then f x else x) hworkflows ?_
    (hcertificates ▸ hU.certificateKeys) (hcertificates ▸ hU.source)
    (.of_eq hcertificates hinstances) ?_
  · intro w hw
    by_cases hid : w.id = id
    · simpa [hid] using hf w hw hid
    · simpa [hid] using Stays.refl w
  · rw [hhistory]
    exact deferred_append hU hevents

/-! ## §4. The promotion. -/

theorem updateCertificate_id (id : Nat) (f : Certificate → Certificate) (hf : ∀ c, (f c).id = c.id) :
    (s.updateCertificate id f).certificates.map Certificate.id = s.certificates.map Certificate.id :=
  map_key_updateWhere fun c => prepareManagedIdentity_id (hf c)

theorem mem_link_provisional {tokenId : Nat}
    (hc : c ∈ (s.updateCertificate id (Certificate.link tokenId)).certificates)
    (hprovisional : c.isProvisional = true) : c ∈ s.certificates ∧ c.id ≠ id := by
  obtain ⟨x, hx, heq⟩ := mem_updateWhere.mp hc
  by_cases hid : x.id = id
  · exfalso
    rw [if_pos (decide_eq_true hid)] at heq
    have htoken : c.tokenId = some tokenId := by
      rw [← heq]
      have hfresh : staleObservation x (x.link tokenId) = false := by
        unfold staleObservation Certificate.link
        cases x.identityObservedAt <;> simp
      unfold prepareManagedIdentity
      rw [hfresh]
      simp only [Bool.false_eq_true, if_false]
      split <;> rfl
    rw [(isProvisional_iff.mp hprovisional).2.1] at htoken
    cases htoken
  · rw [if_neg (by simpa using hid)] at heq
    subst heq
    exact ⟨hx, hid⟩

theorem mem_promoted_provisional {leaf : Leaf} {current : Certificate} {tokenId : Nat}
    (hc : c ∈ ((s.writeLeaf row leaf current).updateCertificate current.id (Certificate.link tokenId)).certificates)
    (hprovisional : c.isProvisional = true) :
    c ∈ s.certificates := by
  obtain ⟨hmem, hid⟩ := mem_link_provisional hc hprovisional
  obtain ⟨x, hx, heq⟩ := mem_updateWhere.mp hmem
  have hx' : x.id ≠ current.id := by
    intro hxid
    rw [if_pos (decide_eq_true hxid)] at heq
    have hsame : (prepareManagedIdentity s x (x.promote s.now leaf)).id = x.id :=
      prepareManagedIdentity_id rfl
    rw [← heq] at hid
    exact hid (hsame.trans hxid)
  rw [if_neg (by simpa using hx')] at heq
  exact heq ▸ hx

theorem Used.promote (hU : Used s) {method : Method} {instanceId : Option Nat}
    (h : promote cfg answers row actor method instanceId s = .ok (s', r)) : Used s' := by
  obtain ⟨_, rfl⟩ | ⟨leaf, current, tokenId, _, _, _, _, rfl⟩ := promote_ok h
  · exact hU
  refine hU.map (fun x => if decide (x.id = row.id) = true then
    Workflow.complete s.now actor method instanceId x else x) rfl ?_ ?_ ?_ ?_ ?_
  · intro w _
    by_cases hid : w.id = row.id
    · rw [if_pos (decide_eq_true hid)]
      exact ⟨rfl, fun _ => rfl, .inr (.inl rfl)⟩
    · rw [if_neg (by simpa using hid)]
      exact .refl w
  · have hids : ((s.writeLeaf row leaf current).updateCertificate current.id
        (Certificate.link tokenId)).certificates.map Certificate.id =
        s.certificates.map Certificate.id :=
      (updateCertificate_id current.id (Certificate.link tokenId) fun _ => rfl).trans
        (updateCertificate_id current.id (·.promote s.now leaf) fun _ => rfl)
    have hkeys : (((s.writeLeaf row leaf current).updateCertificate current.id
        (Certificate.link tokenId)).certificates.map Certificate.id).Nodup := by
      rw [hids]
      exact hU.certificateKeys
    exact hkeys
  · exact fun c hc hprovisional => hU.source c (mem_promoted_provisional hc hprovisional) hprovisional
  · intro c hc hbare
    obtain ⟨hprovisional, hinstances⟩ := isBare_iff.mp hbare
    exact ⟨c, mem_promoted_provisional hc hprovisional, isBare_iff.mpr ⟨hprovisional, hinstances⟩, rfl, rfl⟩
  · intro row' rows hmem
    obtain hmem | hmem := List.mem_append.mp hmem
    · exact hU.deferred row' rows hmem
    · cases List.mem_singleton.mp hmem

/-! ## §5. Creation, import, acknowledgement, confirmation. -/

theorem Used.createCsrWorkflow (hU : Used s) {request : CreateRequest}
    (h : createCsrWorkflow cfg answers request s = .ok (s', r)) (hI : Inv cfg s) : Used s' := by
  obtain ⟨targets, rfl | ⟨row, hrow, hcancelled, rfl⟩ | ⟨targetId, csr, _, rfl⟩⟩ := createCsrWorkflow_ok h
  · exact ⟨hU.certificateKeys, hU.source, hU.unassigned, hU.used, hU.only, hU.deferred⟩
  · refine hU.edit row.id [.restarted row.id] (f := Workflow.restart s.now) rfl rfl rfl
      rfl ?_ (by simp)
    intro w hw hid
    obtain rfl := hI.workflowKeys.eq_of_mem hw hrow hid
    exact ⟨(hU.unassigned w hw (.inr hcancelled)).symm, (by intro hs; cases hs),
      .inr (.inr ⟨hcancelled, rfl⟩)⟩
  · refine ⟨hU.certificateKeys, hU.source, ?_, ?_, ?_, hU.deferred⟩
    · intro w hw hstatus
      obtain hw | hw := List.mem_append.mp hw
      · exact hU.unassigned w hw hstatus
      · rw [List.mem_singleton.mp hw]
        rfl
    · intro c hc hbare
      obtain ⟨w, hw, hused⟩ := hU.used c hc hbare
      exact ⟨w, List.mem_append_left _ hw, hused⟩
    · intro w hw hstatus
      obtain hw | hw := List.mem_append.mp hw
      · exact hU.only w hw hstatus
      · rw [List.mem_singleton.mp hw] at hstatus
        cases hstatus

theorem Used.sign (hU : Used s) (hI : Inv cfg s) (hrow : row ∈ s.workflows)
    (hpending : row.status = .pendingSignature) {now managed : Nat} {leaf : Leaf} {chain : Option String}
    (hworkflows : s'.workflows = updateWhere (fun x => x.id = row.id) (·.sign now managed leaf chain)
      s.workflows)
    (hhistory : s'.history = s.history ++ [.imported row.id leaf])
    (hkeys : KeyNodup Certificate.id s'.certificates)
    (hsource : ∀ c ∈ s'.certificates, c.isProvisional = true → c.source = "api")
    (hbare : ∀ c ∈ s'.certificates, c.isBare s' = true →
      (c.id = managed ∨ (c ∈ s.certificates ∧ c.isBare s = true)))
    (hown : ∀ c ∈ s'.certificates, c.isBare s' = true →
      c.facts.fingerprintSha256 = some leaf.fingerprintSha256 → c.id = managed)
    (hothers : ∀ w ∈ s.workflows, w.status = .signedPendingInstall → ∀ c ∈ s'.certificates,
      c.isBare s' = true → c.facts.fingerprintSha256 = w.signedFingerprintSha256 →
        c ∈ s.certificates ∧ c.isBare s = true) : Used s' where
  certificateKeys := hkeys
  source := hsource
  unassigned w' hw' hstatus := by
    rw [hworkflows] at hw'
    obtain ⟨w, hw, rfl⟩ := mem_updateWhere.mp hw'
    by_cases hid : w.id = row.id
    · rw [if_pos (decide_eq_true hid)] at hstatus
      obtain h | h := hstatus <;> cases h
    · rw [if_neg (by simpa using hid)] at hstatus ⊢
      exact hU.unassigned w hw hstatus
  used c hc hb := by
    obtain rfl | ⟨hold, hbold⟩ := hbare c hc hb
    · exact ⟨_, hworkflows ▸ mem_updateWhere_self hrow rfl, rfl, by intro hs; cases hs⟩
    · obtain ⟨w, hw, hmanaged, hstatus⟩ := hU.used c hold hbold
      refine ⟨w, hworkflows ▸ mem_updateWhere_of_ne hw ?_, hmanaged, hstatus⟩
      -- The workflow that signs had no certificate.
      intro hid
      obtain rfl := hI.workflowKeys.eq_of_mem hw hrow hid
      cases (hU.unassigned w hw (.inl hpending)).symm.trans hmanaged
  only w' hw' hstatus c hc hb hfingerprint := by
    rw [hworkflows] at hw'
    obtain ⟨w, hw, rfl⟩ := mem_updateWhere.mp hw'
    by_cases hid : w.id = row.id
    · rw [if_pos (decide_eq_true hid)] at hfingerprint ⊢
      rw [hown c hc hb hfingerprint]
      rfl
    · rw [if_neg (by simpa using hid)] at hstatus hfingerprint ⊢
      obtain ⟨hold, hbold⟩ := hothers w hw hstatus c hc hb hfingerprint
      exact hU.only w hw hstatus c hold hbold hfingerprint
  deferred := by
    rw [hhistory]
    exact deferred_append hU (by simp)

theorem Used.importSignedCertificate (hU : Used s) (hI : Inv cfg s) {pem : String}
    (hcondition : releases cfg s (.importSignedCertificate answers workflowId actor pem))
    (h : importSignedCertificate cfg answers workflowId actor pem s = .ok (s', r)) : Used s' := by
  obtain rfl | ⟨row, hrow, hid, leaf, rest, s₁, managed, hpending, hparse, _, hidentity, rfl⟩ :=
    importSignedCertificate_ok h
  · exact hU
  obtain ⟨rfl, hexisting, howners⟩ | ⟨rfl, hexisting, owner, howner, rfl⟩ |
    ⟨hexisting, hnone, hfresh, _, rfl⟩ := importIdentity_ok hidentity
  · refine hU.sign hI hrow hpending rfl rfl hU.certificateKeys hU.source (fun c hc hb => .inr ⟨hc, hb⟩)
      ?_ fun _ _ _ c hc hb _ => ⟨hc, hb⟩
    exact fun c hc _ hf => howners c (mem_findFingerprintOwners.mpr ⟨hc, hf⟩)
  · refine hU.sign hI hrow hpending rfl rfl hU.certificateKeys hU.source (fun c hc hb => .inr ⟨hc, hb⟩)
      ?_ fun _ _ _ c hc hb _ => ⟨hc, hb⟩
    intro c hc _ hf
    have hmem : c ∈ [owner] := howner ▸ mem_findFingerprintOwners.mpr ⟨hc, hf⟩
    rw [List.mem_singleton.mp hmem]
  · -- A row of its own: nothing else owns the leaf, and nothing else has signed it.
    have hcases : ∀ c ∈ s.certificates ++ [provisionalCertificate s managed row actor leaf],
        c ∈ s.certificates ∨ c = provisionalCertificate s managed row actor leaf := by
      intro c hc
      exact (List.mem_append.mp hc).imp id List.mem_singleton.mp
    have hnew := hcondition row hrow hid hpending hexisting leaf rest hparse hnone
    refine hU.sign hI hrow hpending rfl rfl ?_ ?_ ?_ ?_ ?_
    · exact keyNodup_append_singleton hU.certificateKeys hfresh
    · intro c hc hprovisional
      obtain hc | rfl := hcases c hc
      · exact hU.source c hc hprovisional
      · rfl
    · intro c hc hb
      obtain hc | rfl := hcases c hc
      · exact .inr ⟨hc, hb⟩
      · exact .inl rfl
    · intro c hc _ hf
      obtain hc | rfl := hcases c hc
      · have hmem : c ∈ findFingerprintOwners s leaf.fingerprintSha256 :=
          mem_findFingerprintOwners.mpr ⟨hc, hf⟩
        rw [hnone] at hmem
        cases hmem
      · rfl
    · intro w hw hstatus c hc hb hf
      obtain hc | rfl := hcases c hc
      · exact ⟨hc, hb⟩
      · exact absurd hf.symm (hnew w hw hstatus)

theorem Used.acknowledgeCsrNames (hU : Used s)
    (h : acknowledgeCsrNames cfg answers workflowId actor s = .ok (s', r)) : Used s' := by
  obtain ⟨row, _, _, hend⟩ := acknowledgeCsrNames_ok h
  have hgiven : Used (giveAcknowledgement actor row s).1 := by
    unfold giveAcknowledgement
    split
    · exact hU
    · exact hU.edit row.id [.acknowledged row.id] (f := Workflow.acknowledge s.now actor) rfl rfl rfl rfl
        (fun _ _ _ => ⟨rfl, fun _ => rfl, .inl rfl⟩) (by simp)
  obtain rfl | ⟨_, hpromote⟩ := hend
  · exact hgiven
  · exact hgiven.promote hpromote

theorem Used.confirmCsrInstallation (hU : Used s)
    (h : confirmCsrInstallation cfg answers workflowId actor s = .ok (s', r)) : Used s' := by
  obtain ⟨row, _, _, _, hpromote⟩ := confirmCsrInstallation_ok h
  exact hU.promote hpromote

/-! ## §6. A row that is about to go. -/

/-- The invariant, but for a row that loses its workflows. -/
structure UsedBut (gone : Option Nat) (s : State) : Prop where
  certificateKeys : KeyNodup Certificate.id s.certificates
  source : ∀ c ∈ s.certificates, c.isProvisional = true → c.source = "api"
  unassigned : ∀ w ∈ s.workflows, w.status = .pendingSignature ∨ w.status = .cancelled →
    w.managedCertificateId = none
  used : ∀ c ∈ s.certificates, c.isBare s = true → gone ≠ some c.id →
    ∃ w ∈ s.workflows, w.managedCertificateId = some c.id ∧ w.status ≠ .cancelled
  only : ∀ w ∈ s.workflows, w.status = .signedPendingInstall → ∀ c ∈ s.certificates,
    c.isBare s = true → gone ≠ some c.id → c.facts.fingerprintSha256 = w.signedFingerprintSha256 →
      w.managedCertificateId = some c.id
  deferred : ∀ row rows, .deferred row rows ∈ s.history → rows = []

/-- The row was no bare one. -/
theorem UsedBut.close {gone : Option Nat} (h : UsedBut gone s)
    (hgone : ∀ c ∈ s.certificates, c.isBare s = true → gone ≠ some c.id) : Used s :=
  { h with
    used c hc hb := h.used c hc hb (hgone c hc hb)
    only w hw hstatus c hc hb := h.only w hw hstatus c hc hb (hgone c hc hb) }

/-- The rows that a deletion leaves. -/
theorem mem_withoutCertificate :
    c ∈ (s.withoutCertificate id).certificates ↔ c ∈ s.certificates ∧ c.id ≠ id := by
  simp [State.withoutCertificate]

/-- A deletion makes no other row bare. -/
theorem isBare_withoutCertificate (hid : c.id ≠ id) (h : c.isBare (s.withoutCertificate id) = true) :
    c.isBare s = true := by
  rw [isBare_iff] at h ⊢
  refine ⟨h.1, ?_⟩
  intro i hi hic
  refine h.2 i (mem_deleteWhere.mpr ⟨hi, ?_⟩) hic
  simpa [hic] using hid

/-- The row goes. -/
theorem UsedBut.withoutCertificate (h : UsedBut (some id) s) :
    Used (s.withoutCertificate id) where
  certificateKeys := keyNodup_deleteWhere h.certificateKeys
  source c hc := h.source c (mem_withoutCertificate.mp hc).1
  unassigned w' hw' := by
    obtain ⟨w, hw, rfl⟩ := List.mem_map.mp hw'
    exact h.unassigned w hw
  used c hc hb := by
    obtain ⟨hmem, hid⟩ := mem_withoutCertificate.mp hc
    obtain ⟨w, hw, hused⟩ :=
      h.used c hmem (isBare_withoutCertificate hid hb) fun heq => hid (Option.some.inj heq).symm
    exact ⟨_, List.mem_map_of_mem hw, hused⟩
  only w' hw' hstatus c hc hb hf := by
    obtain ⟨w, hw, rfl⟩ := List.mem_map.mp hw'
    obtain ⟨hmem, hid⟩ := mem_withoutCertificate.mp hc
    exact h.only w hw hstatus c hmem (isBare_withoutCertificate hid hb)
      (fun heq => hid (Option.some.inj heq).symm) hf
  deferred := h.deferred

/-! ## §7. Cancellation. -/

theorem Used.cancelRow (hU : Used s) (hI : Inv cfg s) (hrow : row ∈ s.workflows) (gone : Option Nat)
    (hother : ∀ c ∈ s.certificates, c.isBare s = true → gone ≠ some c.id →
      row.managedCertificateId = some c.id →
      ∃ other ∈ s.workflows, other.id ≠ row.id ∧ other.managedCertificateId = some c.id) :
    UsedBut gone (s.cancelRow row) where
  certificateKeys := hU.certificateKeys
  source := hU.source
  unassigned w' hw' hstatus := by
    obtain ⟨w, hw, rfl⟩ := mem_updateWhere.mp hw'
    by_cases hid : w.id = row.id
    · rw [if_pos (decide_eq_true hid)]
      rfl
    · rw [if_neg (by simpa using hid)] at hstatus ⊢
      exact hU.unassigned w hw hstatus
  used c hc hb hgone := by
    obtain ⟨w, hw, hmanaged, hstatus⟩ := hU.used c hc hb
    by_cases hid : w.id = row.id
    · obtain rfl := hI.workflowKeys.eq_of_mem hw hrow hid
      obtain ⟨other, ho, hoid, homanaged⟩ := hother c hc hb hgone hmanaged
      refine ⟨other, mem_updateWhere_of_ne ho hoid, homanaged, ?_⟩
      intro hcancelled
      cases (hU.unassigned other ho (.inr hcancelled)).symm.trans homanaged
    · exact ⟨w, mem_updateWhere_of_ne hw hid, hmanaged, hstatus⟩
  only w' hw' hstatus c hc hb _ hf := by
    obtain ⟨w, hw, rfl⟩ := mem_updateWhere.mp hw'
    by_cases hid : w.id = row.id
    · rw [if_pos (decide_eq_true hid)] at hstatus
      cases hstatus
    · rw [if_neg (by simpa using hid)] at hstatus hf ⊢
      exact hU.only w hw hstatus c hc hb hf
  deferred := by
    intro row' rows hmem
    obtain hmem | hmem := List.mem_append.mp hmem
    · exact hU.deferred row' rows hmem
    · cases List.mem_singleton.mp hmem

theorem exists_other_of_not_released (hU : Used s) (hc : c ∈ s.certificates) (hb : c.isBare s = true)
    (h : c.released (s.cancelRow row) = false) :
    ∃ other ∈ s.workflows, other.id ≠ row.id ∧ other.managedCertificateId = some c.id := by
  obtain ⟨hprovisional, hinstances⟩ := isBare_iff.mp hb
  obtain ⟨hstatus, htoken, href⟩ := isProvisional_iff.mp hprovisional
  have hnone : s.instances.any (fun i => i.managedCertificateId = c.id) = false := by
    simpa using hinstances
  have hsame : (s.cancelRow row).instances = s.instances := rfl
  unfold Certificate.released at h
  rw [hsame, hnone, hstatus, htoken, hU.source c hc hprovisional, href] at h
  simp only [decide_true, Option.isNone_none, Bool.true_and, Bool.not_false, Bool.and_true,
    Bool.not_eq_false', List.any_eq_true, decide_eq_true_eq] at h
  obtain ⟨w', hw', hmanaged⟩ := h
  obtain ⟨w, hw, rfl⟩ := mem_updateWhere.mp hw'
  by_cases hid : w.id = row.id
  · rw [if_pos (decide_eq_true hid)] at hmanaged
    cases hmanaged
  · rw [if_neg (by simpa using hid)] at hmanaged
    exact ⟨w, hw, hid, hmanaged⟩

theorem Used.cancelCsrWorkflow (hU : Used s) (hI : Inv cfg s)
    (hcondition : releases cfg s (.cancelCsrWorkflow workflowId))
    (h : cancelCsrWorkflow workflowId s = .ok (s', r)) : Used s' := by
  obtain rfl | ⟨row, hrow, hid, hcompleted, _, hend⟩ := cancelCsrWorkflow_ok h
  · exact hU
  obtain ⟨hkept, rfl⟩ | ⟨managed, hmanaged, _, hdelete⟩ := hend
  · -- Nothing is deleted: the row of the workflow has another one.
    refine (hU.cancelRow hI hrow none ?_).close (by simp)
    intro c hc hb _ hcm
    obtain hnone | hexisting := hkept
    · cases hnone.symm.trans hcm
    · rw [hid]
      exact hcondition row hrow hid hcompleted hexisting c hc hb hcm
  · obtain ⟨rfl, hnot⟩ | ⟨rfl, _, _⟩ := deleteCertificate_ok hdelete
    · refine (hU.cancelRow hI hrow none ?_).close (by simp)
      intro c hc hb _ hcm
      exact exists_other_of_not_released hU hc hb
        (hnot c hc (Option.some.inj (hcm.symm.trans hmanaged)))
    · refine UsedBut.withoutCertificate (hU.cancelRow hI hrow _ ?_)
      intro c _ _ hgone hcm
      exact absurd (hmanaged.symm.trans hcm) hgone

/-! ## §8. Observations. -/

/-- What the UPDATEs of a reassignment do to a workflow. -/
structure Reassigned (row : Workflow) (observed : Nat) (w w' : Workflow) : Prop where
  id : w'.id = w.id
  status : w'.status = w.status
  fingerprint : w'.signedFingerprintSha256 = w.signedFingerprintSha256
  managed : w'.managedCertificateId = w.managedCertificateId ∨
    (w'.managedCertificateId = some observed ∧ (w.id = row.id ∨
      (w.managedCertificateId = row.managedCertificateId ∧ w.status = .signedPendingInstall)))

/-- A workflow after the two UPDATEs. -/
def Workflow.moved (obs : Observation) (row : Workflow) (observed now : Nat) (w : Workflow) : Workflow :=
  if w.id = row.id then w.reassign now observed
  else if row.shares obs.fingerprintSha256 w then w.reassign now observed
  else w

theorem Workflow.moved_reassigned (obs : Observation) (row : Workflow) (observed now : Nat)
    (w : Workflow) : Reassigned row observed w (Workflow.moved obs row observed now w) := by
  unfold Workflow.moved
  split
  · rename_i hid
    exact ⟨rfl, rfl, rfl, .inr ⟨rfl, .inl hid⟩⟩
  · split
    · rename_i hshares
      simp only [Workflow.shares, Bool.and_eq_true, decide_eq_true_eq] at hshares
      exact ⟨rfl, rfl, rfl, .inr ⟨rfl, .inr ⟨hshares.1.1.1.2, hshares.2⟩⟩⟩
    · exact ⟨rfl, rfl, rfl, .inl rfl⟩

theorem moveToObserved_map (obs : Observation) (row : Workflow) (observed : Nat) (s : State) :
    (moveToObserved obs row observed s).workflows =
      s.workflows.map (Workflow.moved obs row observed s.now) := by
  have htwo : (CsrWorkflow.moveToObserved obs row observed s).workflows =
      updateWhere (row.shares obs.fingerprintSha256) (·.reassign s.now observed)
        (updateWhere (fun x => x.id = row.id) (·.reassign s.now observed) s.workflows) := rfl
  rw [htwo, updateWhere, updateWhere, List.map_map]
  apply List.map_congr_left
  intro w _
  simp only [Function.comp, Workflow.moved, decide_eq_true_eq]
  by_cases hid : w.id = row.id
  · rw [if_pos hid]
    -- Moving a workflow twice is moving it.
    split
    · rfl
    · rfl
  · rw [if_neg hid, if_neg hid]

theorem Used.moveToObserved (hU : Used s) (hI : Inv cfg s) (obs : Observation) (hw : w ∈ s.workflows)
    (hm : Moved observed row w) (hstatus : row.status = .signedPendingInstall) :
    UsedBut row.managedCertificateId (moveToObserved obs row observed s) := by
  have hworkflows := moveToObserved_map obs row observed s
  have hg := Workflow.moved_reassigned obs row observed s.now
  -- A row other than that of `row` that a workflow is for, it is still for.
  have hkeeps : ∀ x ∈ s.workflows, ∀ c : Certificate, row.managedCertificateId ≠ some c.id →
      x.managedCertificateId = some c.id →
      (Workflow.moved obs row observed s.now x).managedCertificateId = some c.id := by
    intro x hx c hgone hxc
    obtain h | ⟨h, hid | ⟨hrow, _⟩⟩ := (hg x).managed
    · exact h.trans hxc
    · obtain rfl := hI.workflowKeys.eq_of_mem hx hw (hid.trans hm.id.symm)
      obtain hmanaged | ⟨_, hmanaged⟩ := hm.managed
      · exact absurd (hmanaged.symm.trans hxc) hgone
      · exact h.trans (hmanaged.symm.trans hxc)
    · exact absurd (hrow.symm.trans hxc) hgone
  refine ⟨hU.certificateKeys, hU.source, ?_, ?_, ?_, hU.deferred⟩
  · intro u hu hpending
    rw [hworkflows] at hu
    obtain ⟨x, hx, rfl⟩ := List.mem_map.mp hu
    rw [(hg x).status] at hpending
    obtain h | ⟨_, hid | ⟨_, hsigned⟩⟩ := (hg x).managed
    · exact h.trans (hU.unassigned x hx hpending)
    · obtain rfl := hI.workflowKeys.eq_of_mem hx hw (hid.trans hm.id.symm)
      rw [hm.status, hstatus] at hpending
      obtain h | h := hpending <;> cases h
    · rw [hsigned] at hpending
      obtain h | h := hpending <;> cases h
  · intro c hc hb hgone
    obtain ⟨x, hx, hmanaged, hxstatus⟩ := hU.used c hc hb
    refine ⟨_, hworkflows ▸ List.mem_map_of_mem hx, hkeeps x hx c hgone hmanaged, ?_⟩
    rw [(hg x).status]
    exact hxstatus
  · intro u hu hsigned c hc hb hgone hf
    rw [hworkflows] at hu
    obtain ⟨x, hx, rfl⟩ := List.mem_map.mp hu
    rw [(hg x).status] at hsigned
    rw [(hg x).fingerprint] at hf
    exact hkeeps x hx c hgone (hU.only x hx hsigned c hc hb hf)

/-- **A REASSIGNMENT** under the condition: the row that the workflow leaves goes,
    if it was bare. -/
theorem Used.reassignObserved (hU : Used s) (hI : Inv cfg s) {s₁ : State} (hw : w ∈ s.workflows)
    (hm : Moved observed row w) (hstatus : row.status = .signedPendingInstall)
    (hcreator : ∀ c ∈ s.certificates, c.isBare s = true → row.managedCertificateId = some c.id → c.sourceRef = some (.csr row.id))
    (h : reassignObserved obs row observed s = .ok (s₁, current)) :
    Used s₁ ∧ (∀ c ∈ s₁.certificates, c.isBare s₁ = true →
      c ∈ s.certificates ∧ c.isBare s = true ∧ row.managedCertificateId ≠ some c.id) := by
  have hmoved := hU.moveToObserved hI obs hw hm hstatus
  obtain ⟨_, ⟨hnone, rfl⟩ | ⟨managed, hmanaged, hdelete⟩⟩ := reassignObserved_ok h
  · have hgone : ∀ c : Certificate, row.managedCertificateId ≠ some c.id := by simp [hnone]
    exact ⟨hmoved.close fun c _ _ => hgone c, fun c hc hb => ⟨hc, hb, hgone c⟩⟩
  · obtain ⟨rfl, hnot⟩ | ⟨rfl, _, _⟩ := deleteCertificate_ok hdelete
    · have hgone : ∀ c ∈ s.certificates, c.isBare s = true → row.managedCertificateId ≠ some c.id := by
        intro c hc hb hcm
        obtain ⟨hcstatus, htoken, _⟩ := isProvisional_iff.mp (isBare_iff.mp hb).1
        have hdeletes : c.provisionalOf row = true := by
          simp [Certificate.provisionalOf, hcstatus, htoken, hcreator c hc hb hcm]
        rw [hnot c hc (Option.some.inj (hcm.symm.trans hmanaged))] at hdeletes
        cases hdeletes
      exact ⟨hmoved.close hgone, fun c hc hb => ⟨hc, hb, hgone c hc hb⟩⟩
    · rw [hmanaged] at hmoved
      refine ⟨hmoved.withoutCertificate, ?_⟩
      intro c hc hb
      obtain ⟨hmem, hid⟩ := mem_withoutCertificate.mp hc
      refine ⟨hmem, isBare_withoutCertificate hid hb, ?_⟩
      rw [hmanaged]
      exact fun heq => hid (Option.some.inj heq).symm

theorem Used.settleObserved (hU : Used s) (hw : w ∈ s.workflows) (hs : SameStory w current)
    (hstatus : w.status = .signedPendingInstall)
    (hfingerprint : w.signedFingerprintSha256 = some obs.fingerprintSha256) :
    Used (settleObserved cfg answers obs row current s) := by
  unfold CsrWorkflow.settleObserved
  simp only
  have hstays : ∀ resolved, ∀ x ∈ s.workflows, x.id = row.id →
      Stays x (x.observe s.now obs.instanceId resolved) := fun _ _ _ _ => ⟨rfl, fun _ => rfl, .inl rfl⟩
  cases hresolved : conflictResolved s obs row with
  | false =>
    simp only [Bool.false_eq_true, if_false]
    exact hU.edit row.id [] rfl rfl rfl (List.append_nil _).symm (hstays false) (by simp)
  | true =>
    simp only [if_true]
    have hobserved : Used ((s.setWorkflow row.id (·.observe s.now obs.instanceId true)).note
        (.resolved row.id)) :=
      hU.edit row.id [.resolved row.id] rfl rfl rfl rfl (hstays true) (by simp)
    split
    · exact hobserved
    obtain ⟨r, hpromote⟩ | hdefer := promoteOrDefer_cases cfg answers obs current
      ((s.setWorkflow row.id (·.observe s.now obs.instanceId true)).note (.resolved row.id))
    · exact hobserved.promote hpromote
    · rw [hdefer]
      have hnone : leftovers ((s.setWorkflow row.id (·.observe s.now obs.instanceId true)).note
          (.resolved row.id)) current obs.fingerprintSha256 = [] := by
        refine leftovers_eq_nil ?_
        intro c hc hb hf
        exact hs.managed.trans (hU.only w hw hstatus c hc hb (hf.trans hfingerprint.symm))
      rw [hnone]
      refine ⟨hobserved.certificateKeys, hobserved.source, hobserved.unassigned, hobserved.used,
        hobserved.only, deferred_append hobserved ?_⟩
      intro row' rows hmem
      cases List.mem_singleton.mp hmem
      rfl

theorem bare_of_promoteOrDefer (hc : c ∈ (promoteOrDefer cfg answers obs current s).certificates)
    (hb : c.isBare (promoteOrDefer cfg answers obs current s) = true) :
    c ∈ s.certificates ∧ c.isBare s = true := by
  obtain ⟨r, hpromote⟩ | hdefer := promoteOrDefer_cases cfg answers obs current s
  · obtain ⟨_, heq⟩ | ⟨leaf, target, tokenId, _, _, _, _, heq⟩ := promote_ok hpromote
    · rw [heq] at hc hb
      exact ⟨hc, hb⟩
    · rw [heq] at hc hb
      have hwritten : c ∈ ((s.writeLeaf current leaf target).updateCertificate target.id
          (Certificate.link tokenId)).certificates := hc
      obtain ⟨hprovisional, hinstances⟩ := isBare_iff.mp hb
      exact ⟨mem_promoted_provisional hwritten hprovisional,
        isBare_iff.mpr ⟨hprovisional, hinstances⟩⟩
  · rw [hdefer] at hc hb
    exact ⟨hc, hb⟩

theorem settleObserved_cases (cfg : Config) (answers : Answers) (obs : Observation)
    (row current : Workflow) (s : State) :
    ∃ s₁ : State, s₁.certificates = s.certificates ∧ s₁.instances = s.instances ∧
      (settleObserved cfg answers obs row current s = s₁ ∨
        settleObserved cfg answers obs row current s = promoteOrDefer cfg answers obs current s₁) := by
  unfold CsrWorkflow.settleObserved
  simp only
  split
  · refine ⟨(s.setWorkflow row.id (·.observe s.now obs.instanceId (conflictResolved s obs row))).note
      (.resolved row.id), rfl, rfl, ?_⟩
    split
    · exact .inl rfl
    · exact .inr rfl
  · exact ⟨s.setWorkflow row.id (·.observe s.now obs.instanceId (conflictResolved s obs row)), rfl, rfl,
      .inl rfl⟩

theorem bare_of_settleObserved (hc : c ∈ (settleObserved cfg answers obs row current s).certificates)
    (hb : c.isBare (settleObserved cfg answers obs row current s) = true) :
    c ∈ s.certificates ∧ c.isBare s = true := by
  obtain ⟨s₁, hcertificates, hinstances, heq⟩ := settleObserved_cases cfg answers obs row current s
  have hbefore : c ∈ s₁.certificates ∧ c.isBare s₁ = true := by
    obtain heq | heq := heq
    · rw [heq] at hc hb
      exact ⟨hc, hb⟩
    · rw [heq] at hc hb
      exact bare_of_promoteOrDefer hc hb
  rw [isBare_iff, hcertificates, hinstances, ← isBare_iff] at hbefore
  exact hbefore

theorem leaves_iff : w.leaves c = true ↔
    w.existingCertificateId = none ∧ w.managedCertificateId = some c.id := by
  simp [Workflow.leaves]

/-- **ONE TURN** under the condition: the bare rows that are left are not the ones
    that the workflow of the turn has left. -/
theorem Used.observeWorkflow (hU : Used s) (hI : Inv cfg s)
    (hobserved : ∀ i ∈ s.instances, i.id = obs.instanceId → i.managedCertificateId = observed)
    (hw : w ∈ s.workflows) (hm : Moved observed row w) (hstatus : row.status = .signedPendingInstall)
    (hfingerprint : row.signedFingerprintSha256 = some obs.fingerprintSha256)
    (hcreator : ∀ c ∈ s.certificates, c.isBare s = true → c.id ≠ observed → row.leaves c = true → c.sourceRef = some (.csr row.id))
    (h : observeWorkflow cfg answers obs row s = .ok s') (hsome : observedCertificate s obs ≠ none) :
    Used s' ∧ ∀ c ∈ s'.certificates, c.isBare s' = true →
      c ∈ s.certificates ∧ c.isBare s = true ∧ (c.id ≠ observed → row.leaves c = false) := by
  have hwid : row.id = w.id := hm.id.symm
  have hwstatus : w.status = .signedPendingInstall := hm.status.trans hstatus
  have hwfingerprint : w.signedFingerprintSha256 = some obs.fingerprintSha256 :=
    hm.fingerprint.trans hfingerprint
  obtain ⟨hnone, _⟩ | ⟨certificateId, hcertificate, hcases⟩ := observeWorkflow_ok h
  · exact absurd hnone hsome
  obtain rfl := observedCertificate_eq hobserved hcertificate
  obtain ⟨hmanaged, rfl⟩ | ⟨hmanaged, hexisting, rfl⟩ | ⟨hmanaged, hexisting, s₁, current, hs₁, rfl⟩ := hcases
  · -- Its own certificate.
    have hs : SameStory w row := by
      refine ⟨hm.toSameColumns.symm, ?_⟩
      obtain h | ⟨_, h⟩ := hm.managed
      · exact h.symm
      · exact hmanaged.trans h.symm
    refine ⟨hU.settleObserved hw hs hwstatus hwfingerprint, ?_⟩
    intro c hc hb
    obtain ⟨hmem, hbare⟩ := bare_of_settleObserved hc hb
    refine ⟨hmem, hbare, ?_⟩
    intro hne
    rw [← Bool.not_eq_true, leaves_iff, hmanaged]
    exact fun hleaves => hne (Option.some.inj hleaves.2).symm
  · -- A conflict.
    refine ⟨hU.edit row.id [.conflicted row.id obs.instanceId certificateId]
      (f := Workflow.conflict s.now obs.instanceId certificateId) rfl rfl rfl rfl
      (fun _ _ _ => ⟨rfl, fun _ => rfl, .inl rfl⟩) (by simp), ?_⟩
    intro c hc hb
    refine ⟨hc, hb, fun _ => ?_⟩
    rw [← Bool.not_eq_true, leaves_iff]
    exact fun hleaves => hexisting hleaves.1
  · -- A new-certificate workflow leaves its row, which goes.
    have hcreates : ∀ c ∈ s.certificates, c.isBare s = true → row.managedCertificateId = some c.id →
        c.sourceRef = some (.csr row.id) := by
      intro c hc hb hcm
      refine hcreator c hc hb ?_ (leaves_iff.mpr ⟨hexisting, hcm⟩)
      exact fun heq => hmanaged (hcm.trans (congrArg some heq))
    obtain ⟨hU₁, hbare₁⟩ := hU.reassignObserved hI hw hm hstatus hcreates hs₁
    obtain ⟨hturn, w₁, hw₁, hsame, hid₁⟩ := Turn.reassignObserved hI hw hwid
      (hm.existing.trans hexisting) (by rw [hwstatus]; decide) hs₁
    have hcurrent : SameColumns w current := sameColumns_of_reassignObserved hI hw hwid hs₁
    have hw₁status : w₁.status = .signedPendingInstall :=
      hsame.status.symm.trans (hcurrent.status.trans hwstatus)
    have hw₁fingerprint : w₁.signedFingerprintSha256 = some obs.fingerprintSha256 :=
      hsame.fingerprint.symm.trans (hcurrent.fingerprint.trans hwfingerprint)
    refine ⟨hU₁.settleObserved hw₁ hsame hw₁status hw₁fingerprint, ?_⟩
    intro c hc hb
    obtain ⟨hmem₁, hb₁⟩ := bare_of_settleObserved hc hb
    obtain ⟨hmem, hbare, hne⟩ := hbare₁ c hmem₁ hb₁
    refine ⟨hmem, hbare, fun _ => ?_⟩
    rw [← Bool.not_eq_true, leaves_iff]
    exact fun hleaves => hne hleaves.2

/-- **THE LOOP** under the condition: either nothing is observed, or the first of
    the remaining workflows to leave a bare row is the one that made it. -/
theorem Used.observeWorkflows {rows : List Workflow} (hU : Used s) (hI : Inv cfg s)
    (hrows : Awaited observed obs rows s)
    (hcreator : observedCertificate s obs = none ∨ ∀ c ∈ s.certificates, c.isBare s = true →
      c.id ≠ observed → ∀ w, rows.find? (Workflow.leaves c) = some w → c.sourceRef = some (.csr w.id))
    (h : observeWorkflows cfg answers obs rows s = .ok s') : Used s' := by
  induction rows generalizing s with
  | nil =>
    cases h
    exact hU
  | cons row rest ih =>
    obtain ⟨s₁, hs₁, hrest⟩ := bind_ok.mp h
    obtain ⟨hstatus, hfingerprint, w, hw, hm⟩ := hrows.each row List.mem_cons_self
    obtain ⟨hturn, hnext⟩ := hrows.turn hI hs₁
    by_cases hnone : observedCertificate s obs = none
    · -- Nothing is observed, and nothing happens.
      obtain ⟨_, rfl⟩ | ⟨certificateId, hcertificate, _⟩ := observeWorkflow_ok hs₁
      · exact ih hU hI hnext (.inl hnone) hrest
      · cases hnone.symm.trans hcertificate
    · have hfirst := hcreator.resolve_left hnone
      have hthis : ∀ c ∈ s.certificates, c.isBare s = true → c.id ≠ observed → row.leaves c = true →
          c.sourceRef = some (.csr row.id) := by
        intro c hc hb hne hleaves
        exact hfirst c hc hb hne row (List.find?_cons_of_pos hleaves)
      obtain ⟨hU₁, hbare₁⟩ :=
        hU.observeWorkflow hI hrows.instances hw hm hstatus hfingerprint hthis hs₁ hnone
      refine ih hU₁ hturn.inv hnext (.inr ?_) hrest
      intro c hc hb hne w' hfind
      obtain ⟨hmem, hbare, hleaves⟩ := hbare₁ c hc hb
      refine hfirst c hmem hbare hne w' ?_
      rw [List.find?_cons_of_neg (by simp [hleaves hne])]
      exact hfind

theorem Used.recordCsrObservation (hU : Used s) (hI : Inv cfg s)
    (hcondition : releases cfg s (.recordCsrObservation answers obs))
    (h : recordCsrObservation cfg answers obs s = .ok s') : Used s' := by
  obtain ⟨observed, hrows⟩ := exists_awaited hI answers obs
  refine hU.observeWorkflows hI hrows ?_ h
  cases hsome : observedCertificate s obs with
  | none => exact .inl rfl
  | some certificateId =>
    right
    intro c hc hb hne w hfind
    obtain rfl := observedCertificate_eq hrows.instances hsome
    exact hcondition certificateId hsome c hc hb hne w hfind

/-! ## §9. Runs. -/

/-- What a transaction commits keeps the rows in use if what it returns does. -/
theorem committed_used {α : Type} {result : Except CsrWorkflowError (State × α)} (hU : Used s)
    (h : ∀ s' a, result = .ok (s', a) → Used s') : Used (committed s result) := by
  cases hresult : result with
  | error e => exact hU
  | ok r => exact h r.1 r.2 hresult

/-- **THE STEP LEMMA**: an action in the condition keeps the rows in use. -/
theorem Used.next (hU : Used s) (hI : Inv cfg s) (a : Action) (hcondition : releases cfg s a) :
    Used (next cfg s a) := by
  cases a with
  | createCsrWorkflow answers request => exact committed_used hU fun _ _ h => hU.createCsrWorkflow h hI
  | importSignedCertificate answers id actor pem =>
    exact committed_used hU fun _ _ h => hU.importSignedCertificate hI hcondition h
  | acknowledgeCsrNames answers id actor => exact committed_used hU fun _ _ h => hU.acknowledgeCsrNames h
  | confirmCsrInstallation answers id actor =>
    exact committed_used hU fun _ _ h => hU.confirmCsrInstallation h
  | cancelCsrWorkflow id => exact committed_used hU fun _ _ h => hU.cancelCsrWorkflow hI hcondition h
  | recordCsrObservation answers obs =>
    refine committed_used hU ?_
    intro s' a h
    cases hrun : CsrWorkflow.recordCsrObservation cfg answers obs s with
    | error e => rw [hrun] at h; cases h
    | ok s₁ =>
      rw [hrun] at h
      cases h
      exact hU.recordCsrObservation hI hcondition hrun
  | insertInstance i =>
    simp only [CsrWorkflow.next]
    split
    · refine hU.map id (List.map_id _).symm (fun w _ => .refl w) hU.certificateKeys hU.source ?_ hU.deferred
      intro c hc hb
      rw [isBare_iff] at hb
      exact ⟨c, hc, isBare_iff.mpr ⟨hb.1, fun j hj => hb.2 j (List.mem_append_left _ hj)⟩, rfl, rfl⟩
    · exact hU
  | writeInventory certificates =>
    simp only [CsrWorkflow.next]
    split
    · rename_i hwrite
      obtain ⟨hkeys, _, hnew⟩ := hwrite
      refine hU.map id (List.map_id _).symm (fun w _ => .refl w) hkeys ?_ ?_ hU.deferred
      · intro c hc hprovisional
        obtain ⟨old, hold, _, hprovisional', hsource, _⟩ := hnew c hc hprovisional
        exact hsource.symm.trans (hU.source old hold hprovisional')
      · intro c hc hb
        obtain ⟨hprovisional, hinstances⟩ := isBare_iff.mp hb
        obtain ⟨old, hold, hid, hprovisional', _, _, hf⟩ := hnew c hc hprovisional
        exact ⟨old, hold, isBare_iff.mpr ⟨hprovisional', hid ▸ hinstances⟩, hid, hf⟩
    · exact hU
  | writeTargets | writeLifecycle =>
    exact ⟨hU.certificateKeys, hU.source, hU.unassigned, hU.used, hU.only, hU.deferred⟩
  | tick ms => exact ⟨hU.certificateKeys, hU.source, hU.unassigned, hU.used, hU.only, hU.deferred⟩

theorem Used.initial {certificates : List Certificate} (targets : List Target)
    (hkeys : KeyNodup Certificate.id certificates)
    (hnone : ∀ c ∈ certificates, c.isProvisional = false) : Used (State.initial certificates targets) := by
  have hnot : ∀ c ∈ certificates, c.isProvisional ≠ true := by simpa using hnone
  refine ⟨hkeys, fun c hc h => absurd h (hnot c hc), fun _ hw => ?_, ?_, fun _ hw => ?_, fun _ _ he => ?_⟩
  · cases hw
  · exact fun c hc hb => absurd (isBare_iff.mp hb).1 (hnot c hc)
  · cases hw
  · cases he

/-- **NO LEFTOVER**: in a run whose cancellations, imports and observations meet the
    condition, every bare provisional row is in use by a workflow that is not
    cancelled, and none is in the way of a promotion. -/
theorem unblocked_of_releases (cfg : Config) {s : State}
    (h : Reachable (csrSystem cfg) (releases cfg) s) : Unblocked s := by
  have hboth : Inv cfg s ∧ Used s := by
    refine h.invariant (I := fun t => Inv cfg t ∧ Used t) ?_ ?_
    · rintro _ ⟨certificates, targets, rfl, hkeys, hnone⟩
      exact ⟨.initial certificates targets, .initial targets hkeys hnone⟩
    · rintro t a u ⟨hI, hU⟩ hcondition hstep
      obtain rfl : u = next cfg t a := hstep
      exact ⟨(hI.next a).1, hU.next hI a hcondition⟩
  exact hboth.2.unblocked

/-! ### Two workflows that share a provisional row. -/

/-- A computed condition that is enough, for runs without cancellations. -/
def releasesCheck (s : State) : Action → Bool
  | .cancelCsrWorkflow _ => false
  | .importSignedCertificate _ _ _ _ => s.workflows.all (·.status ≠ .signedPendingInstall)
  | .recordCsrObservation _ _ =>
    s.certificates.all fun c => s.workflows.all fun w => !w.leaves c || c.sourceRef = some (.csr w.id)
  | _ => true

theorem releases_of_check {a : Action} (h : releasesCheck s a = true) : releases cfg s a := by
  cases a with
  | cancelCsrWorkflow id => cases h
  | importSignedCertificate answers id actor pem =>
    intro w _ _ _ _ leaf rest _ _ other hother hsigned
    have hnone := List.all_eq_true.mp h other hother
    exact absurd hsigned (of_decide_eq_true hnone)
  | recordCsrObservation answers obs =>
    intro observed _ c hc _ _ w hfind
    have hmem := List.mem_of_find?_eq_some hfind
    have hw := (List.mem_filter.mp ((answers.arrange_perm _).mem_iff.mp hmem)).1
    have hor := List.all_eq_true.mp (List.all_eq_true.mp h c hc) w hw
    simpa [List.find?_some hfind] using hor
  | createCsrWorkflow | acknowledgeCsrNames | confirmCsrInstallation | insertInstance | writeInventory
  | writeTargets | writeLifecycle | tick => trivial

def exactLeaf : Leaf := { demoLeaf with subjectAltNames := ["shop.example"] }

def monitorRow : Certificate :=
  ⟨9, none, .discovered, "endpoint_monitor", some (.text "monitor"), some 0, exactLeaf.facts, none⟩

/-- The row that the import of workflow 1 makes. -/
def sharedRow : Certificate := ⟨2, none, .provisioning, "api", some (.csr 1), some 0, exactLeaf.facts, none⟩

def backupTarget : Target := ⟨8, "shop-backup", "host", "manual", none, none, false⟩

/-- A workflow, its provisional row, and a monitor that has a row of its own. -/
def ownObservation : List Action :=
  [.createCsrWorkflow (demoAnswers 1) ⟨none, "csr", .id 7, none⟩,
    .importSignedCertificate (demoAnswers 2) 1 none "leaf",
    .writeInventory [sharedRow, monitorRow],
    .insertInstance ⟨10, 9, 7, some "f1"⟩,
    .recordCsrObservation (demoAnswers 11) ⟨7, "f1", 10⟩]

/-- The same with a second workflow for the leaf, whose target is observed. -/
def sharedObservation : List Action :=
  [.createCsrWorkflow (demoAnswers 1) ⟨none, "csr", .id 7, none⟩,
    .importSignedCertificate (demoAnswers 2) 1 none "leaf",
    .createCsrWorkflow (demoAnswers 3) ⟨none, "csr", .id 8, none⟩,
    .importSignedCertificate (demoAnswers 4) 3 none "leaf",
    .writeInventory [sharedRow, monitorRow],
    .insertInstance ⟨10, 9, 8, some "f1"⟩,
    .recordCsrObservation (demoAnswers 11) ⟨8, "f1", 10⟩]

def leftoverStart : State := .initial [] [demoTarget, backupTarget]

def exactConfig : Config := demoParsers exactLeaf demoCsr

theorem init_leftoverStart : (csrSystem exactConfig).init leftoverStart :=
  ⟨[], [demoTarget, backupTarget], rfl, List.nodup_nil, by simp⟩

/-- The observed workflow made the row: it goes, and the workflow is completed. -/
theorem unblocked_of_releases_demo :
    Unblocked (ownObservation.foldl (next exactConfig) leftoverStart) ∧
      (ownObservation.foldl (next exactConfig) leftoverStart).workflows.map (·.status) = [.completed] :=
  ⟨unblocked_of_releases exactConfig ⟨_, init_leftoverStart,
      Run.of_checked (fun _ _ => rfl) (fun _ _ => releases_of_check) ownObservation _ (by decide +kernel)⟩,
    by decide +kernel⟩

/-- The observed workflow shares the row of another one: both move, the row stays,
    and the promotion is put off because of it. -/
theorem shared_row_left_over :
    ∃ s, Reachable (csrSystem exactConfig) anyStep s ∧
      (∃ c ∈ s.certificates, c.isBare s = true ∧
        ∀ w ∈ s.workflows, w.managedCertificateId ≠ some c.id) ∧
      (∃ w ∈ s.workflows, w.status = .signedPendingInstall ∧ w.observedInstanceId = some 10 ∧
        namesNeedAcknowledgement w = false ∧ leftovers s w "f1" = [sharedRow]) ∧
      ¬ Unblocked s := by
  have hleft : sharedRow ∈ (sharedObservation.foldl (next exactConfig) leftoverStart).certificates ∧
      sharedRow.isBare (sharedObservation.foldl (next exactConfig) leftoverStart) = true ∧
      ∀ w ∈ (sharedObservation.foldl (next exactConfig) leftoverStart).workflows,
        w.managedCertificateId ≠ some sharedRow.id := by decide +kernel
  refine ⟨sharedObservation.foldl (next exactConfig) leftoverStart,
    ⟨_, init_leftoverStart, Run.of_foldl (fun _ _ => rfl) sharedObservation _⟩,
    ⟨sharedRow, hleft⟩, by decide +kernel, ?_⟩
  intro h
  obtain ⟨w, hw, hmanaged, _⟩ := h.used sharedRow hleft.1 hleft.2.1
  exact hleft.2.2 w hw hmanaged

end TokenTimer.CertOps.CsrWorkflow
