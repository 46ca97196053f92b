/-
  TokenTimer.CertOps.CsrPromotion — only the signed and acknowledged leaf of a
  CSR workflow is promoted.

  Each operation keeps the invariant of `CsrStory`.  The rows of the loop of
  `recordCsrObservation` are as old as its first query: a turn for one workflow
  may move another one to the observed certificate, and nothing else (`Moved`).

  Main results:
    * `Inv.promote` — a promotion promotes the leaf of the story.
    * `Turn.observeWorkflow`, `observeWorkflows_good`
        — an observation, over any number of workflows.
    * `promotes_signed_leaf` — in every run each promotion is of the leaf that
        was signed, acknowledged and not in conflict,
        and what is completed stays as it is.
-/

import TokenTimer.CertOps.CsrStory

namespace TokenTimer.CertOps.CsrWorkflow

open Lib.Runs Lib.Table

variable {cfg : Config} {answers : Answers} {s s' : State} {row r w : Workflow}

/-! ## §1. The promotion. -/

variable {leaf : Leaf} {observed workflowId : Nat} {obs : Observation} {actor : Option Nat}
  {s₁ : State} {current : Workflow} {f : Workflow → Workflow}

theorem names_same {requested : List String} (hadd : nameAdditions requested leaf = [])
    (homit : nameOmissions requested leaf = []) (name : String) :
    name ∈ issuedNamesFor leaf ↔ name ∈ requested := by
  simp only [nameAdditions, nameOmissions, List.filter_eq_nil_iff, decide_eq_true_eq, not_not] at hadd homit
  exact ⟨hadd name, homit name⟩

theorem acknowledged_of_needless (h : namesNeedAcknowledgement row = false)
    (hadd : row.nameAdditions = nameAdditions row.requestedNames leaf)
    (homit : row.nameOmissions = nameOmissions row.requestedNames leaf)
    (hnames : ¬ ∀ name, name ∈ issuedNamesFor leaf ↔ name ∈ row.requestedNames) :
    row.namesAcknowledgedAt.isSome = true := by
  unfold namesNeedAcknowledgement at h
  by_contra hnone
  rw [Bool.not_eq_true, Option.isSome_eq_false_iff] at hnone
  rw [hnone, Bool.and_true, Bool.or_eq_false_iff, Bool.not_eq_false', Bool.not_eq_false',
    List.isEmpty_iff, List.isEmpty_iff] at h
  exact hnames (names_same (hadd.symm.trans h.1) (homit.symm.trans h.2))

theorem SignedWith.signedLeaf {leaf' : Leaf} (h : SignedWith cfg leaf w) (hs : SameStory w row)
    (hread : signedLeaf cfg row = .ok leaf') : leaf' = leaf := by
  obtain ⟨pem, certificates, hpem, hparse, hhead⟩ := signedLeaf_ok hread
  rw [hs.leafPem, h.leafPem] at hpem
  injection hpem with hpem
  rw [← hpem] at hparse
  rw [h.rereads certificates hparse, List.head?_cons] at hhead
  injection hhead with hhead
  exact hhead.symm

/-- **A PROMOTION IS RIGHT**, and completes the workflow, if `row` is a workflow
    with no open conflict. -/
theorem Inv.promote (hI : Inv cfg s) (hw : w ∈ s.workflows) (hs : SameStory w row)
    (hconflict : w.identityConflictAt = none) {method : Method} {instanceId : Option Nat}
    (h : promote cfg answers row actor method instanceId s = .ok (s', r)) :
    Inv cfg s' ∧ Kept s s' := by
  obtain ⟨_, rfl⟩ | ⟨leaf, current, tokenId, hstatus, hneed, hread, htarget, rfl⟩ := promote_ok h
  · exact hI.frame rfl rfl hI.instanceKeys
  have htold := hI.told w hw
  have hopen : w.status = .signedPendingInstall := hs.status.symm.trans hstatus
  obtain ⟨leaf', hleaf, hsigned⟩ := htold.signed (.inl hopen)
  obtain rfl := hsigned.signedLeaf hs hread
  have hrow : SignedWith cfg leaf row := hsigned.of_same hs
  obtain ⟨_, hmanaged, _⟩ := promotionTarget_ok htarget
  have hright : Right s.history row leaf s.now current
      (prepareManagedIdentity s current (current.promote s.now leaf)) := {
    imported := by rw [hs.id]; exact hleaf
    publicKey := hrow.publicKey
    acknowledged := by
      intro hnames
      rw [hs.id, htold.acknowledged, ← hs.acknowledged]
      exact acknowledged_of_needless hneed hrow.additions hrow.omissions hnames
    identity := by
      intro existing hexisting
      have heq := hmanaged.symm.trans (hrow.identity existing hexisting)
      injection heq
    resolved := by rw [hs.id, htold.conflict, hconflict, Option.isSome_none]
    sameRow := prepareManagedIdentity_id rfl
    written := prepareManagedIdentity_promote s.now leaf current }
  have hby : PromotedBy (s.history ++ [.promoted row leaf s.now current
      (prepareManagedIdentity s current (current.promote s.now leaf))])
      (w.complete s.now actor method instanceId) :=
    ⟨row, leaf, s.now, current, _, List.mem_append_right _ (List.mem_singleton_self _), hs.id,
      hs.existing, hs.publicKey, hs.requested, hs.managed.symm.trans hmanaged, hsigned.leafPem⟩
  refine hI.edit hw (f := Workflow.complete s.now actor method instanceId) ?_ rfl rfl hs.id
    ?_ (.of_open rfl ?_) hright
  · rw [← hs.id]
    rfl
  · exact {
      acknowledged := by rw [story_snoc]; exact htold.acknowledged
      conflict := by rw [story_snoc]; exact htold.conflict
      pending := by intro hp; cases hp
      signed := by
        intro _
        rw [story_snoc]
        exact ⟨leaf, hleaf, hsigned.leafPem, hsigned.rereads, hsigned.publicKey, hsigned.additions,
          hsigned.omissions, hsigned.identity⟩
      completed := fun _ => hby }
  · rw [hopen]
    decide

/-! ## §2. Creation, import, acknowledgement, cancellation. -/

theorem Inv.story_fresh (hI : Inv cfg s) {id : Nat} (hfresh : ∀ w ∈ s.workflows, w.id ≠ id) :
    story id s.history = {} := by
  have hne : ∀ e ∈ s.history, e.workflowId ≠ id := by
    intro e he hid
    obtain ⟨w, hw, hwe⟩ := hI.named e he
    exact hfresh w hw (hwe.trans hid)
  have hnil : story id ([] ++ s.history) = story id [] := story_append_of_ne hne
  simpa using hnil

theorem Inv.createCsrWorkflow (hI : Inv cfg s) {request : CreateRequest}
    (h : createCsrWorkflow cfg answers request s = .ok (s', r)) : Inv cfg s' ∧ Kept s s' := by
  obtain ⟨targets, rfl | ⟨row, hrow, hcancelled, rfl⟩ | ⟨targetId, csr, hfresh, rfl⟩⟩ :=
    createCsrWorkflow_ok h
  · exact hI.frame rfl rfl hI.instanceKeys
  · -- A restart begins the story again.
    refine hI.edit hrow (f := Workflow.restart s.now) (e := .restarted row.id) rfl rfl rfl rfl ?_
      (.of_open rfl (by rw [hcancelled]; decide)) trivial
    have hstory : story row.id (s.history ++ [.restarted row.id]) = {} := by
      rw [story_snoc]
      exact if_pos rfl
    exact {
      acknowledged := congrArg Story.acknowledged hstory
      conflict := congrArg Story.conflict hstory
      pending := fun _ => rfl
      signed := by rintro (hp | hp) <;> cases hp
      completed := by intro hp; cases hp }
  · have hstory := hI.story_fresh hfresh
    refine ⟨⟨?_, hI.instanceKeys, ?_, ?_, hI.right⟩, ?_⟩
    · exact keyNodup_append_singleton hI.workflowKeys hfresh
    · intro w hw
      obtain hw | hw := List.mem_append.mp hw
      · exact hI.told w hw
      · rw [List.mem_singleton.mp hw]
        exact {
          acknowledged := congrArg Story.acknowledged hstory
          conflict := congrArg Story.conflict hstory
          pending := fun _ => rfl
          signed := by rintro (hp | hp) <;> cases hp
          completed := by intro hp; cases hp }
    · intro e he
      obtain ⟨w, hw, hid⟩ := hI.named e he
      exact ⟨w, List.mem_append_left _ hw, hid⟩
    · intro w hw
      exact ⟨w, List.mem_append_left _ hw, .refl w⟩

theorem importIdentity_frame {id : Nat} (h : importIdentity answers row actor leaf s = .ok (s₁, id)) :
    (s₁.workflows = s.workflows ∧ s₁.history = s.history ∧ s₁.instances = s.instances) ∧
      ∀ existing, row.existingCertificateId = some existing → some id = some existing := by
  obtain ⟨rfl, hexisting, _⟩ | ⟨rfl, hexisting, _⟩ | ⟨hexisting, _, _, _, rfl⟩ := importIdentity_ok h
  · exact ⟨⟨rfl, rfl, rfl⟩, fun existing he => hexisting.symm.trans he⟩
  · exact ⟨⟨rfl, rfl, rfl⟩, by simp [hexisting]⟩
  · exact ⟨⟨rfl, rfl, rfl⟩, by simp [hexisting]⟩

theorem Inv.importSignedCertificate (hI : Inv cfg s) {pem : String}
    (h : importSignedCertificate cfg answers workflowId actor pem s = .ok (s', r)) :
    Inv cfg s' ∧ Kept s s' := by
  obtain rfl | ⟨row, hrow, _, leaf, rest, s₁, managed, hpending, hparse, hspki, hidentity, rfl⟩ :=
    importSignedCertificate_ok h
  · exact ⟨hI, .refl _⟩
  obtain ⟨⟨hworkflows, hhistory, hinstances⟩, hexisting⟩ := importIdentity_frame hidentity
  have htold := hI.told row hrow
  have hsigned : SignedWith cfg leaf (row.sign s₁.now managed leaf (chainPem rest)) :=
    ⟨rfl, cfg.parse_certificatePem pem _ hparse leaf (List.mem_cons_self ..), hspki, rfl, rfl, hexisting⟩
  refine hI.edit hrow (f := Workflow.sign s₁.now managed leaf (chainPem rest))
    (e := .imported row.id leaf) ?_ ?_ hinstances rfl ?_ (.of_open rfl ?_) trivial
  · exact congrArg _ hworkflows
  · exact congrArg (· ++ _) hhistory
  · have hstory : story row.id (s.history ++ [.imported row.id leaf]) =
        { story row.id s.history with leaf := some leaf, acknowledged := false } := by
      rw [story_snoc]
      exact if_pos rfl
    exact {
      acknowledged := by
        rw [show (row.sign s₁.now managed leaf (chainPem rest)).id = row.id from rfl, hstory]
        exact (congrArg Option.isSome (htold.pending hpending)).symm
      conflict := by
        rw [show (row.sign s₁.now managed leaf (chainPem rest)).id = row.id from rfl, hstory]
        exact htold.conflict
      pending := by intro hp; cases hp
      signed := by
        intro _
        rw [show (row.sign s₁.now managed leaf (chainPem rest)).id = row.id from rfl, hstory]
        exact ⟨leaf, rfl, hsigned⟩
      completed := by intro hp; cases hp }
  · rw [hpending]
    decide

theorem Inv.giveAcknowledgement (hI : Inv cfg s) (hrow : row ∈ s.workflows)
    (hstatus : row.status = .signedPendingInstall) (actor : Option Nat) :
    (Inv cfg (giveAcknowledgement actor row s).1 ∧ Kept s (giveAcknowledgement actor row s).1) ∧
      (giveAcknowledgement actor row s).2 ∈ (giveAcknowledgement actor row s).1.workflows := by
  unfold CsrWorkflow.giveAcknowledgement
  split
  · exact ⟨⟨hI, .refl s⟩, hrow⟩
  have htold := hI.told row hrow
  have hstory : story row.id (s.history ++ [.acknowledged row.id]) =
      { story row.id s.history with acknowledged := true } := by
    rw [story_snoc]
    exact if_pos rfl
  refine ⟨hI.edit hrow (f := Workflow.acknowledge s.now actor) (e := .acknowledged row.id) rfl rfl rfl
    rfl ?_ (.of_open rfl (by rw [hstatus]; decide)) trivial, ?_⟩
  · exact {
      acknowledged := congrArg Story.acknowledged hstory
      conflict := (congrArg Story.conflict hstory).trans htold.conflict
      pending := by intro hp; cases hstatus.symm.trans hp
      signed := by
        intro hp
        obtain ⟨leaf, hleaf, hsigned⟩ := htold.signed hp
        exact ⟨leaf, (congrArg Story.leaf hstory).trans hleaf, hsigned.leafPem, hsigned.rereads,
          hsigned.publicKey, hsigned.additions, hsigned.omissions, hsigned.identity⟩
      completed := by intro hp; cases hstatus.symm.trans hp }
  · exact mem_updateWhere.mpr ⟨row, hrow, by simp⟩

theorem Inv.acknowledgeCsrNames (hI : Inv cfg s)
    (h : acknowledgeCsrNames cfg answers workflowId actor s = .ok (s', r)) :
    Inv cfg s' ∧ Kept s s' := by
  obtain ⟨row, hrow, hstatus, hend⟩ := acknowledgeCsrNames_ok h
  obtain ⟨⟨hI₁, hk₁⟩, hmem⟩ := hI.giveAcknowledgement hrow hstatus actor
  obtain rfl | ⟨hconflict, hpromote⟩ := hend
  · exact ⟨hI₁, hk₁⟩
  · obtain ⟨hI₂, hk₂⟩ := hI₁.promote hmem (.refl _) hconflict hpromote
    exact ⟨hI₂, hk₁.trans hk₂⟩

theorem Inv.confirmCsrInstallation (hI : Inv cfg s)
    (h : confirmCsrInstallation cfg answers workflowId actor s = .ok (s', r)) :
    Inv cfg s' ∧ Kept s s' := by
  obtain ⟨row, hrow, _, hconflict, hpromote⟩ := confirmCsrInstallation_ok h
  exact hI.promote hrow (.refl row) hconflict hpromote

/-- What the deletion of a certificate leaves of a workflow. -/
theorem sameStory_clearReferences (id : Nat) (gone : Nat → Bool) (w : Workflow) :
    SameStory w (w.clearReferences id gone) :=
  ⟨⟨rfl, rfl, rfl, rfl, rfl, rfl, rfl, rfl, rfl, rfl⟩, rfl⟩

theorem Inv.deleteCertificate (hI : Inv cfg s) {id : Nat} {p : Certificate → Bool}
    (h : deleteCertificate s id p = .ok s') : Inv cfg s' ∧ Kept s s' := by
  obtain ⟨rfl, _⟩ | ⟨rfl, _, _⟩ := deleteCertificate_ok h
  · exact ⟨hI, .refl _⟩
  · refine hI.map (Workflow.clearReferences id (s.instanceOf id)) [] rfl (List.append_nil _).symm
      (keyNodup_deleteWhere hI.instanceKeys) ?_ (by simp) (by simpa using hI.right)
    intro w hw
    rw [List.append_nil]
    have hsame := sameStory_clearReferences id (s.instanceOf id) w
    exact ⟨(hI.told w hw).of_same hsame (hI.told w hw).conflict, hsame.later⟩

theorem Inv.cancelCsrWorkflow (hI : Inv cfg s) (h : cancelCsrWorkflow workflowId s = .ok (s', r)) :
    Inv cfg s' ∧ Kept s s' := by
  obtain rfl | ⟨row, hrow, _, hcompleted, _, hend⟩ := cancelCsrWorkflow_ok h
  · exact ⟨hI, .refl _⟩
  have htold := hI.told row hrow
  have hcancel : Inv cfg (s.cancelRow row) ∧ Kept s (s.cancelRow row) := by
    refine hI.edit hrow (f := Workflow.cancel s.now) (e := .cancelled row.id) rfl rfl rfl rfl ?_
      (.of_open rfl hcompleted) trivial
    exact {
      acknowledged := by rw [story_snoc]; exact htold.acknowledged
      conflict := by rw [story_snoc]; exact htold.conflict
      pending := by intro hp; cases hp
      signed := by rintro (hp | hp) <;> cases hp
      completed := by intro hp; cases hp }
  obtain ⟨_, rfl⟩ | ⟨managed, _, _, hdelete⟩ := hend
  · exact hcancel
  · obtain ⟨hI₂, hk₂⟩ := hcancel.1.deleteCertificate hdelete
    exact ⟨hI₂, hcancel.2.trans hk₂⟩

/-! ## §3. Observations. -/

structure Moved (observed : Nat) (w w' : Workflow) : Prop extends SameColumns w w' where
  managed : w'.managedCertificateId = w.managedCertificateId ∨
    (w.existingCertificateId = none ∧ w'.managedCertificateId = some observed)

theorem Moved.of_same {w' : Workflow} (h : SameStory w w') : Moved observed w w' :=
  ⟨h.toSameColumns, .inl h.managed⟩

theorem Moved.trans {w₁ w₂ w₃ : Workflow} (h₁ : Moved observed w₁ w₂) (h₂ : Moved observed w₂ w₃) :
    Moved observed w₁ w₃ where
  toSameColumns := h₁.toSameColumns.trans h₂.toSameColumns
  managed := by
    obtain h | ⟨hexisting, h⟩ := h₂.managed
    · obtain h' | ⟨hexisting', h'⟩ := h₁.managed
      · exact .inl (h.trans h')
      · exact .inr ⟨hexisting', h.trans h'⟩
    · exact .inr ⟨h₁.existing.symm.trans hexisting, h⟩

/-- What a part of the turn of one workflow does: the invariant holds, no
    instance is new, and the other workflows are at most moved. -/
structure Turn (cfg : Config) (observed id : Nat) (s s' : State) : Prop where
  inv : Inv cfg s'
  kept : Kept s s'
  instances : ∀ i ∈ s'.instances, i ∈ s.instances
  others : ∀ w ∈ s.workflows, w.id ≠ id → ∃ w' ∈ s'.workflows, Moved observed w w'

theorem Turn.trans {id : Nat} {s₂ s₃ : State} (h₁ : Turn cfg observed id s₁ s₂)
    (h₂ : Turn cfg observed id s₂ s₃) : Turn cfg observed id s₁ s₃ where
  inv := h₂.inv
  kept := h₁.kept.trans h₂.kept
  instances i hi := h₁.instances i (h₂.instances i hi)
  others w hw hne := by
    obtain ⟨w₂, hw₂, hm₂⟩ := h₁.others w hw hne
    obtain ⟨w₃, hw₃, hm₃⟩ := h₂.others w₂ hw₂ (by rw [hm₂.id]; exact hne)
    exact ⟨w₃, hw₃, hm₂.trans hm₃⟩

/-- A workflow that an UPDATE does not match is there unchanged. -/
theorem mem_updateWhere_of_ne {id : Nat} (hw : w ∈ s.workflows) (hne : w.id ≠ id) :
    w ∈ updateWhere (fun x => x.id = id) f s.workflows :=
  mem_updateWhere.mpr ⟨w, hw, by simp [hne]⟩

theorem mem_updateWhere_self {id : Nat} (hw : w ∈ s.workflows) (hid : w.id = id) :
    f w ∈ updateWhere (fun x => x.id = id) f s.workflows :=
  mem_updateWhere.mpr ⟨w, hw, by simp [hid]⟩

theorem Turn.of_update {id : Nat} (h : Inv cfg s' ∧ Kept s s')
    (hworkflows : s'.workflows = updateWhere (fun x => x.id = id) f s.workflows)
    (hinstances : s'.instances = s.instances) : Turn cfg observed id s s' where
  inv := h.1
  kept := h.2
  instances i hi := hinstances ▸ hi
  others w hw hne := ⟨w, by rw [hworkflows]; exact mem_updateWhere_of_ne hw hne, .of_same (.refl w)⟩

theorem Turn.refl {id : Nat} (hI : Inv cfg s) : Turn cfg observed id s s :=
  ⟨hI, .refl s, fun _ hi => hi, fun w hw _ => ⟨w, hw, .of_same (.refl w)⟩⟩

theorem Turn.promoteOrDefer (hI : Inv cfg s) (hw : w ∈ s.workflows) (hs : SameStory w row)
    (hconflict : w.identityConflictAt = none) :
    Turn cfg observed w.id s (promoteOrDefer cfg answers obs row s) := by
  obtain ⟨r, hpromote⟩ | hdefer := promoteOrDefer_cases cfg answers obs row s
  · have hgood := hI.promote hw hs hconflict hpromote
    obtain ⟨_, heq⟩ | ⟨leaf, current, tokenId, _, _, _, _, heq⟩ := promote_ok hpromote
    · rw [heq] at hgood ⊢
      exact .refl hI
    · refine Turn.of_update (f := Workflow.complete s.now none .observation (some obs.instanceId)) hgood
        ?_ ?_
      · rw [heq, ← hs.id]
        rfl
      · rw [heq]
        rfl
  · rw [hdefer]
    refine Turn.of_update (f := id) (hI.noted hw hs.id (fun _ => rfl) trivial) ?_ rfl
    simp [State.note, updateWhere]

theorem Turn.settleObserved (hI : Inv cfg s) (hw : w ∈ s.workflows) (hid : row.id = w.id)
    (hs : SameStory w current) :
    Turn cfg observed w.id s (settleObserved cfg answers obs row current s) := by
  unfold CsrWorkflow.settleObserved
  simp only
  rw [hid]
  have htold := hI.told w hw
  have hsame : ∀ resolved, SameStory w (w.observe s.now obs.instanceId resolved) := fun _ =>
    ⟨⟨rfl, rfl, rfl, rfl, rfl, rfl, rfl, rfl, rfl, rfl⟩, rfl⟩
  cases hresolved : conflictResolved s obs row with
  | false =>
    simp only [Bool.false_eq_true, if_false]
    refine Turn.of_update (f := Workflow.observe s.now obs.instanceId false) ?_ rfl rfl
    exact hI.editSame hw rfl rfl rfl (hsame false) rfl
  | true =>
    simp only [if_true]
    have hstory : story w.id (s.history ++ [.resolved w.id]) =
        { story w.id s.history with conflict := false } := by
      rw [story_snoc]
      exact if_pos rfl
    have hobserved : Turn cfg observed w.id s
        ((s.setWorkflow w.id (·.observe s.now obs.instanceId true)).note (.resolved w.id)) := by
      refine Turn.of_update (f := Workflow.observe s.now obs.instanceId true) ?_ rfl rfl
      refine hI.edit hw (f := Workflow.observe s.now obs.instanceId true) rfl rfl rfl rfl ?_
        (hsame true).later trivial
      exact {
        acknowledged := (congrArg Story.acknowledged hstory).trans htold.acknowledged
        conflict := congrArg Story.conflict hstory
        pending := htold.pending
        signed := by
          intro hp
          obtain ⟨leaf, hleaf, hsigned⟩ := htold.signed hp
          exact ⟨leaf, (congrArg Story.leaf hstory).trans hleaf, hsigned.of_same (hsame true)⟩
        completed := fun hp => ((htold.completed hp).append _).of_same (hsame true) }
    split
    · exact hobserved
    · refine hobserved.trans ?_
      exact Turn.promoteOrDefer (w := w.observe s.now obs.instanceId true) hobserved.inv
        (mem_updateWhere_self hw rfl)
        ⟨⟨hs.id, hs.existing, hs.publicKey, hs.requested, hs.status, hs.leafPem, hs.fingerprint,
          hs.additions, hs.omissions, hs.acknowledged⟩, hs.managed⟩ rfl

theorem Told.reassign {history : List Event} (h : Told cfg history w)
    (hexisting : w.existingCertificateId = none) (hstatus : w.status ≠ .completed) (now observed : Nat) :
    Told cfg history (w.reassign now observed) :=
  { h with
    signed hp := by
      obtain ⟨leaf, hleaf, hsigned⟩ := h.signed hp
      refine ⟨leaf, hleaf, hsigned.leafPem, hsigned.rereads, hsigned.publicKey, hsigned.additions,
        hsigned.omissions, ?_⟩
      intro existing he
      cases hexisting.symm.trans he
    completed hp := absurd hp hstatus }

theorem moved_reassign (hexisting : w.existingCertificateId = none) (now : Nat) :
    Moved observed w (w.reassign now observed) :=
  ⟨⟨rfl, rfl, rfl, rfl, rfl, rfl, rfl, rfl, rfl, rfl⟩, .inr ⟨hexisting, rfl⟩⟩

theorem Inv.reassignWhere (hI : Inv cfg s) (s' : State) {p : Workflow → Bool} {now : Nat}
    (hworkflows : s'.workflows = updateWhere p (·.reassign now observed) s.workflows)
    (hhistory : s'.history = s.history) (hinstances : s'.instances = s.instances)
    (hp : ∀ w ∈ s.workflows, p w = true → w.existingCertificateId = none ∧ w.status ≠ .completed) :
    (Inv cfg s' ∧ Kept s s') ∧ ∀ w ∈ s.workflows, ∃ w' ∈ s'.workflows, Moved observed w w' := by
  have hmap : ∀ w ∈ s.workflows, Told cfg s.history (if p w then w.reassign now observed else w) ∧
      Later w (if p w then w.reassign now observed else w) ∧
      Moved observed w (if p w then w.reassign now observed else w) := by
    intro w hw
    split
    · rename_i hpw
      obtain ⟨hexisting, hstatus⟩ := hp w hw hpw
      exact ⟨(hI.told w hw).reassign hexisting hstatus now observed, .of_open rfl hstatus,
        moved_reassign hexisting now⟩
    · exact ⟨hI.told w hw, .refl w, .of_same (.refl w)⟩
  constructor
  · refine hI.map _ [] hworkflows (by simpa using hhistory) (hinstances ▸ hI.instanceKeys) ?_ (by simp)
      (by simpa using hI.right)
    intro w hw
    rw [List.append_nil]
    exact ⟨(hmap w hw).1, (hmap w hw).2.1⟩
  · intro w hw
    refine ⟨_, ?_, (hmap w hw).2.2⟩
    rw [hworkflows]
    exact mem_updateWhere.mpr ⟨w, hw, rfl⟩

theorem Turn.deleteCertificate (observed id : Nat) {certificateId : Nat} {p : Certificate → Bool}
    (hI : Inv cfg s) (h : deleteCertificate s certificateId p = .ok s') :
    Turn cfg observed id s s' ∧ ∀ w ∈ s.workflows, ∃ w' ∈ s'.workflows, SameStory w w' := by
  have hgood := hI.deleteCertificate h
  have hworkflows : ∀ w ∈ s.workflows, ∃ w' ∈ s'.workflows, SameStory w w' := by
    intro w hw
    obtain ⟨rfl, _⟩ | ⟨rfl, _, _⟩ := deleteCertificate_ok h
    · exact ⟨w, hw, .refl w⟩
    · exact ⟨_, List.mem_map_of_mem hw, sameStory_clearReferences _ _ w⟩
  refine ⟨⟨hgood.1, hgood.2, ?_, ?_⟩, hworkflows⟩
  · intro i hi
    obtain ⟨rfl, _⟩ | ⟨rfl, _, _⟩ := deleteCertificate_ok h
    · exact hi
    · exact (mem_deleteWhere.mp hi).1
  · intro w hw _
    obtain ⟨w', hw', hsame⟩ := hworkflows w hw
    exact ⟨w', hw', .of_same hsame⟩

theorem Turn.reassignObserved (hI : Inv cfg s) (hw : w ∈ s.workflows) (hid : row.id = w.id)
    (hexisting : w.existingCertificateId = none) (hstatus : w.status ≠ .completed)
    (h : reassignObserved obs row observed s = .ok (s₁, current)) :
    Turn cfg observed w.id s s₁ ∧ ∃ w₁ ∈ s₁.workflows, SameStory w₁ current ∧ w₁.id = w.id := by
  obtain ⟨hcurrent, hend⟩ := reassignObserved_ok h
  -- The two UPDATEs.
  have hown : ∀ x ∈ s.workflows, decide (x.id = row.id) = true →
      x.existingCertificateId = none ∧ x.status ≠ .completed := by
    intro x hx hxid
    obtain rfl := hI.workflowKeys.eq_of_mem hx hw ((of_decide_eq_true hxid).trans hid)
    exact ⟨hexisting, hstatus⟩
  obtain ⟨⟨hI₁, hk₁⟩, hm₁⟩ := hI.reassignWhere
    (s.setWorkflow row.id (·.reassign s.now observed)) rfl rfl rfl hown
  have hshares : ∀ x ∈ (s.setWorkflow row.id (·.reassign s.now observed)).workflows,
      row.shares obs.fingerprintSha256 x = true →
      x.existingCertificateId = none ∧ x.status ≠ .completed := by
    intro x _ hx
    simp only [Workflow.shares, Bool.and_eq_true, decide_eq_true_eq, Option.isNone_iff_eq_none] at hx
    refine ⟨hx.1.1.2, ?_⟩
    rw [hx.2]
    decide
  obtain ⟨⟨hI₂, hk₂⟩, hm₂⟩ := hI₁.reassignWhere (moveToObserved obs row observed s) rfl rfl rfl
    hshares
  have hmoved : Turn cfg observed w.id s (moveToObserved obs row observed s) := by
    refine ⟨hI₂, hk₁.trans hk₂, fun _ hi => hi, ?_⟩
    intro x hx _
    obtain ⟨x₁, hx₁, hmx₁⟩ := hm₁ x hx
    obtain ⟨x₂, hx₂, hmx₂⟩ := hm₂ x₁ hx₁
    exact ⟨x₂, hx₂, hmx₁.trans hmx₂⟩
  -- The row that the first UPDATE returned.
  obtain ⟨hcmem, hcid⟩ := workflowRow_ok hcurrent
  have hown₁ : w.reassign s.now observed ∈
      (s.setWorkflow row.id (·.reassign s.now observed)).workflows := mem_updateWhere_self hw hid.symm
  have hceq : current = w.reassign s.now observed :=
    hI₁.workflowKeys.eq_of_mem hcmem hown₁ (hcid.trans hid)
  obtain ⟨w₂, hw₂, hmw₂⟩ := hm₂ _ hown₁
  have hsame₂ : SameStory w₂ current := by
    rw [hceq]
    refine ⟨hmw₂.toSameColumns.symm, ?_⟩
    obtain h | ⟨_, h⟩ := hmw₂.managed
    · exact h.symm
    · exact h.symm
  obtain ⟨_, rfl⟩ | ⟨managed, _, hdelete⟩ := hend
  · exact ⟨hmoved, w₂, hw₂, hsame₂, hmw₂.id⟩
  · obtain ⟨hturn, hrows⟩ := Turn.deleteCertificate observed w.id hI₂ hdelete
    obtain ⟨w₃, hw₃, hs₃⟩ := hrows w₂ hw₂
    exact ⟨hmoved.trans hturn, w₃, hw₃, ⟨hs₃.toSameColumns.symm.trans hsame₂.toSameColumns,
      hsame₂.managed.trans hs₃.managed.symm⟩, hs₃.id.trans hmw₂.id⟩

theorem sameColumns_of_reassignObserved (hI : Inv cfg s) (hw : w ∈ s.workflows) (hid : row.id = w.id)
    (h : reassignObserved obs row observed s = .ok (s₁, current)) : SameColumns w current := by
  obtain ⟨hcmem, hcid⟩ := workflowRow_ok (reassignObserved_ok h).1
  obtain ⟨x, hx, heq⟩ := mem_updateWhere.mp hcmem
  have hsame : SameColumns x current := by
    rw [← heq]
    split
    · exact ⟨rfl, rfl, rfl, rfl, rfl, rfl, rfl, rfl, rfl, rfl⟩
    · exact .refl x
  obtain rfl := hI.workflowKeys.eq_of_mem hx hw (hsame.id.symm.trans (hcid.trans hid))
  exact hsame

theorem observedCertificate_eq {certificateId : Nat}
    (hobserved : ∀ i ∈ s.instances, i.id = obs.instanceId → i.managedCertificateId = observed)
    (h : observedCertificate s obs = some certificateId) : certificateId = observed := by
  obtain ⟨i, hi, heq⟩ := Option.map_eq_some_iff.mp h
  obtain ⟨himem, hiid⟩ := selectOne_some hi
  exact heq.symm.trans (hobserved i himem (of_decide_eq_true hiid).1)

/-- **ONE TURN OF AN OBSERVATION**: `w` is now what `row` was when it was selected,
    moved at most. -/
theorem Turn.observeWorkflow (hI : Inv cfg s)
    (hobserved : ∀ i ∈ s.instances, i.id = obs.instanceId → i.managedCertificateId = observed)
    (hw : w ∈ s.workflows) (hm : Moved observed row w) (hstatus : row.status = .signedPendingInstall)
    (h : observeWorkflow cfg answers obs row s = .ok s') : Turn cfg observed row.id s s' := by
  have hwid : row.id = w.id := hm.id.symm
  have hwstatus : w.status ≠ .completed := by
    rw [hm.status, hstatus]
    decide
  obtain ⟨_, rfl⟩ | ⟨certificateId, hcertificate, hcases⟩ := observeWorkflow_ok h
  · exact .refl hI
  obtain rfl := observedCertificate_eq hobserved hcertificate
  rw [hwid]
  obtain ⟨hmanaged, rfl⟩ | ⟨hmanaged, hexisting, rfl⟩ | ⟨hmanaged, hexisting, s₁, current, hs₁, rfl⟩ := hcases
  · -- Its own certificate.
    refine Turn.settleObserved hI hw hwid ⟨hm.toSameColumns.symm, ?_⟩
    obtain h | ⟨_, h⟩ := hm.managed
    · exact h.symm
    · exact hmanaged.trans h.symm
  · -- Another one: the conflict is recorded.
    have htold := hI.told w hw
    have hsame : SameStory w (w.conflict s.now obs.instanceId certificateId) :=
      ⟨⟨rfl, rfl, rfl, rfl, rfl, rfl, rfl, rfl, rfl, rfl⟩, rfl⟩
    have hstory : story w.id (s.history ++ [.conflicted w.id obs.instanceId certificateId]) =
        { story w.id s.history with conflict := true } := by
      rw [story_snoc]
      exact if_pos rfl
    rw [hwid]
    refine Turn.of_update (f := Workflow.conflict s.now obs.instanceId certificateId) ?_ rfl rfl
    refine hI.edit hw (f := Workflow.conflict s.now obs.instanceId certificateId) rfl rfl rfl rfl ?_
      hsame.later trivial
    exact {
      acknowledged := (congrArg Story.acknowledged hstory).trans htold.acknowledged
      conflict := congrArg Story.conflict hstory
      pending := htold.pending
      signed := by
        intro hp
        obtain ⟨leaf, hleaf, hsigned⟩ := htold.signed hp
        exact ⟨leaf, (congrArg Story.leaf hstory).trans hleaf, hsigned.of_same hsame⟩
      completed := fun hp => ((htold.completed hp).append _).of_same hsame }
  · -- A new-certificate workflow moves.
    obtain ⟨hturn, w₁, hw₁, hs₁', hid₁⟩ :=
      Turn.reassignObserved hI hw hwid (hm.existing.trans hexisting) hwstatus hs₁
    rw [← hid₁]
    rw [← hid₁] at hturn
    exact hturn.trans (Turn.settleObserved hturn.inv hw₁ (hwid.trans hid₁.symm) hs₁')

/-- The selected rows an observation has not come to: each is a workflow, moved at most. -/
structure Awaited (observed : Nat) (obs : Observation) (rows : List Workflow) (s : State) : Prop where
  instances : ∀ i ∈ s.instances, i.id = obs.instanceId → i.managedCertificateId = observed
  each : ∀ row ∈ rows, row.status = .signedPendingInstall ∧
    row.signedFingerprintSha256 = some obs.fingerprintSha256 ∧ ∃ w ∈ s.workflows, Moved observed row w
  nodup : (rows.map Workflow.id).Nodup

theorem Awaited.turn {rest : List Workflow} (h : Awaited observed obs (row :: rest) s) (hI : Inv cfg s)
    (hs : CsrWorkflow.observeWorkflow cfg answers obs row s = .ok s') :
    Turn cfg observed row.id s s' ∧ Awaited observed obs rest s' := by
  obtain ⟨⟨hstatus, -, w, hw, hm⟩, hothers⟩ := List.forall_mem_cons.mp h.each
  obtain ⟨hnew, hnodup⟩ := List.nodup_cons.mp h.nodup
  have hturn := Turn.observeWorkflow hI h.instances hw hm hstatus hs
  refine ⟨hturn, fun i hi => h.instances i (hturn.instances i hi), fun row' hrow' => ?_, hnodup⟩
  obtain ⟨hstatus', hfingerprint', w', hw', hm'⟩ := hothers row' hrow'
  have hne : w'.id ≠ row.id := by
    rw [hm'.id]
    intro heq
    exact hnew (heq ▸ List.mem_map_of_mem hrow')
  obtain ⟨w'', hw'', hm''⟩ := hturn.others w' hw' hne
  exact ⟨hstatus', hfingerprint', w'', hw'', hm'.trans hm''⟩

/-- The instance of an observation is recorded under one certificate, and the rows that
    the observation selects are workflows. -/
theorem exists_awaited (hI : Inv cfg s) (answers : Answers) (obs : Observation) :
    ∃ observed, Awaited observed obs (answers.arrange (s.workflows.filter (Workflow.awaits obs))) s := by
  have hobserved : ∃ observed, ∀ i ∈ s.instances, i.id = obs.instanceId →
      i.managedCertificateId = observed := by
    by_cases hex : ∃ i ∈ s.instances, i.id = obs.instanceId
    · obtain ⟨i, hi, hid⟩ := hex
      refine ⟨i.managedCertificateId, fun j hj hjd => ?_⟩
      rw [hI.instanceKeys.eq_of_mem hj hi (hjd.trans hid.symm)]
    · exact ⟨0, fun i hi hid => absurd ⟨i, hi, hid⟩ hex⟩
  obtain ⟨observed, hobserved⟩ := hobserved
  refine ⟨observed, hobserved, fun row hrow => ?_, ?_⟩
  · obtain ⟨hw, hawaits⟩ := List.mem_filter.mp ((answers.arrange_perm _).mem_iff.mp hrow)
    simp only [Workflow.awaits, Bool.and_eq_true, decide_eq_true_eq] at hawaits
    exact ⟨hawaits.2, hawaits.1.2, row, hw, .of_same (.refl row)⟩
  · have hperm := (answers.arrange_perm (s.workflows.filter (Workflow.awaits obs))).map Workflow.id
    rw [hperm.nodup_iff]
    exact hI.workflowKeys.sublist (List.filter_sublist.map Workflow.id)

/-- The loop over the selected rows. -/
theorem observeWorkflows_good {rows : List Workflow} (hI : Inv cfg s)
    (hrows : Awaited observed obs rows s) (h : observeWorkflows cfg answers obs rows s = .ok s') :
    Inv cfg s' ∧ Kept s s' := by
  induction rows generalizing s with
  | nil =>
    cases h
    exact ⟨hI, .refl _⟩
  | cons row rest ih =>
    obtain ⟨s₁, hs₁, hrest⟩ := bind_ok.mp h
    obtain ⟨hturn, hnext⟩ := hrows.turn hI hs₁
    obtain ⟨hI', hk'⟩ := ih hturn.inv hnext hrest
    exact ⟨hI', hturn.kept.trans hk'⟩

theorem Inv.recordCsrObservation (hI : Inv cfg s) (h : recordCsrObservation cfg answers obs s = .ok s') :
    Inv cfg s' ∧ Kept s s' := by
  obtain ⟨observed, hrows⟩ := exists_awaited hI answers obs
  exact observeWorkflows_good hI hrows h

/-! ## §4. Runs. -/

theorem committed_good {α : Type} {result : Except CsrWorkflowError (State × α)} (hI : Inv cfg s)
    (h : ∀ s' a, result = .ok (s', a) → Inv cfg s' ∧ Kept s s') :
    Inv cfg (committed s result) ∧ Kept s (committed s result) := by
  cases hresult : result with
  | error e => exact ⟨hI, .refl s⟩
  | ok r => exact h r.1 r.2 hresult

/-- **THE STEP LEMMA**: every action keeps the invariant, and what is completed. -/
theorem Inv.next (hI : Inv cfg s) (a : Action) : Inv cfg (next cfg s a) ∧ Kept s (next cfg s a) := by
  cases a with
  | createCsrWorkflow answers request => exact committed_good hI fun _ _ h => hI.createCsrWorkflow h
  | importSignedCertificate answers id actor pem =>
    exact committed_good hI fun _ _ h => hI.importSignedCertificate h
  | acknowledgeCsrNames answers id actor => exact committed_good hI fun _ _ h => hI.acknowledgeCsrNames h
  | confirmCsrInstallation answers id actor =>
    exact committed_good hI fun _ _ h => hI.confirmCsrInstallation h
  | cancelCsrWorkflow id => exact committed_good hI fun _ _ h => hI.cancelCsrWorkflow h
  | recordCsrObservation answers obs =>
    refine committed_good hI ?_
    intro s' a h
    cases hrun : CsrWorkflow.recordCsrObservation cfg answers obs s with
    | error e => rw [hrun] at h; cases h
    | ok s₁ =>
      rw [hrun] at h
      cases h
      exact hI.recordCsrObservation hrun
  | insertInstance i =>
    simp only [CsrWorkflow.next]
    split
    · rename_i hi
      refine hI.frame rfl rfl (keyNodup_append_singleton hI.instanceKeys ?_)
      simp only [instanceWrite, Bool.and_eq_true, Bool.not_eq_true', List.any_eq_false,
        decide_eq_true_eq] at hi
      exact hi.1
    · exact ⟨hI, .refl s⟩
  | writeInventory certificates =>
    simp only [CsrWorkflow.next]
    split
    · exact hI.frame rfl rfl hI.instanceKeys
    · exact ⟨hI, .refl s⟩
  | writeTargets | writeLifecycle | tick => exact hI.frame rfl rfl hI.instanceKeys

theorem Inv.initial (certificates : List Certificate) (targets : List Target) :
    Inv cfg (State.initial certificates targets) where
  workflowKeys := List.nodup_nil
  instanceKeys := List.nodup_nil
  told w hw := by cases hw
  named e he := by cases he
  right pre e hpre := by
    have hlen := hpre.length_le
    simp [State.initial] at hlen

theorem Inv.reachable (h : Reachable (csrSystem cfg) anyStep s) : Inv cfg s := by
  refine h.invariant ?_ ?_
  · rintro _ ⟨certificates, targets, rfl, _⟩
    exact .initial certificates targets
  · intro t a u hI _ hstep
    obtain rfl : u = CsrWorkflow.next cfg t a := hstep
    exact (hI.next a).1

theorem Kept.run (h : Reachable (csrSystem cfg) anyStep s) (hrun : Run (csrSystem cfg) anyStep s s') :
    Kept s s' := by
  have hboth := hrun.stable (I := Inv cfg) (Q := fun t => Kept s t)
    (fun t a u hI _ hstep => by
      obtain rfl : u = next cfg t a := hstep
      exact (hI.next a).1)
    (fun t a u hI hk _ hstep => by
      obtain rfl : u = next cfg t a := hstep
      exact hk.trans (hI.next a).2)
    (Inv.reachable h) (.refl s)
  exact hboth.2

def demoParsers (leaf : Leaf) (csr : Csr) : Config where
  parsePublicCertificateMaterial text :=
    if text = leaf.certificatePem then .ok [leaf]
    else .error ⟨"Certificate input 1 is malformed", "CERTOPS_CERTIFICATE_PARSE_FAILED", 400⟩
  parse_certificatePem := by
    intro text certificates h leaf' hmem again hagain
    split at h
    · cases h
      rw [List.mem_singleton.mp hmem] at hagain ⊢
      rw [if_pos rfl] at hagain
      injection hagain with hagain
      exact hagain.symm
    · cases h
  parsePublicCsr text :=
    if text = csr.csrPem then .ok csr
    else .error ⟨"CSR is malformed", "CERTOPS_CSR_INVALID", 400⟩
  containsGenericSecretMaterial _ := false
  targetIdentity type name := type ++ name

/-- Nothing outside fails; the transaction draws the id. -/
def demoAnswers (newId : Nat) : Answers where
  newId := newId
  newTargetId := newId
  triggers _ := .ok ()
  ensureManagedCertificateToken certificateId := .ok certificateId
  updateCertificateTokenFacts _ := .ok ()
  arrange := id
  arrange_perm _ := .refl _

def demoLeaf : Leaf where
  commonName := some "shop.example"
  subjectAltNames := ["shop.example", "www.shop.example"]
  certificatePem := "leaf"
  fingerprintSha256 := "f1"
  spkiFingerprintSha256 := some "k1"

def demoCsr : Csr := ⟨"csr", "d1", "k1", "CN=shop.example", ["shop.example"]⟩

def demoTarget : Target := ⟨7, "shop", "host", "manual", none, none, false⟩

end TokenTimer.CertOps.CsrWorkflow
