/-
  TokenTimer.CertOps.CsrStory — the story of a CSR workflow.

  What a workflow has been through is read off the history: the leaf imported
  since its last restart, whether its names were acknowledged after that import,
  and whether a conflict of identities is open.  The invariant `Inv` ties the
  columns of every workflow to its story.  Every operation is a sequence of
  statements that each map the workflows and note at most one event.

  Main results:
    * `story` — the story of a workflow in a history.
    * `Right` — what is claimed of a promotion.
-/

import TokenTimer.CertOps.CsrFrame

namespace TokenTimer.CertOps.CsrWorkflow

open Lib.Runs Lib.Table

/-! ## §1. The story of a workflow. -/

/-- What has happened to a workflow. -/
structure Story where
  leaf : Option Leaf := none
  acknowledged : Bool := false
  conflict : Bool := false
deriving DecidableEq, Repr

def Story.next (workflowId : Nat) (story : Story) : Event → Story
  | .imported id leaf =>
    if id = workflowId then { story with leaf := some leaf, acknowledged := false } else story
  | .restarted id => if id = workflowId then {} else story
  | .acknowledged id => if id = workflowId then { story with acknowledged := true } else story
  | .conflicted id _ _ => if id = workflowId then { story with conflict := true } else story
  | .resolved id => if id = workflowId then { story with conflict := false } else story
  | .cancelled _ | .promoted _ _ _ _ _ | .deferred _ _ => story

def story (workflowId : Nat) (history : List Event) : Story :=
  history.foldl (Story.next workflowId) {}

def Event.workflowId : Event → Nat
  | .imported id _ | .restarted id | .acknowledged id | .conflicted id _ _ | .resolved id
  | .cancelled id => id
  | .promoted row _ _ _ _ | .deferred row _ => row.id

@[simp] theorem story_nil (workflowId : Nat) : story workflowId [] = {} := rfl

@[simp] theorem story_snoc (workflowId : Nat) (history : List Event) (e : Event) :
    story workflowId (history ++ [e]) = (story workflowId history).next workflowId e := by
  simp [story, List.foldl_append]

variable {e : Event} {history : List Event} {w' : Workflow}

variable {workflowId : Nat} {events : List Event} {w₁ w₂ w₃ : Workflow} {f : Workflow → Workflow}

theorem Story.next_of_ne {story : Story} (h : e.workflowId ≠ workflowId) :
    story.next workflowId e = story := by
  cases e with
  | imported | restarted | acknowledged | conflicted | resolved => exact if_neg h
  | cancelled | promoted | deferred => rfl

/-- The story of a workflow is in the events about it. -/
theorem story_append_of_ne (h : ∀ e ∈ events, e.workflowId ≠ workflowId) :
    story workflowId (history ++ events) = story workflowId history := by
  induction events generalizing history with
  | nil => rw [List.append_nil]
  | cons e rest ih =>
    rw [List.forall_mem_cons] at h
    rw [List.append_cons, ih h.2, story_snoc, Story.next_of_ne h.1]

/-! ## §2. What is claimed of a promotion. -/

/-- A promotion with the history before it: (a) the leaf, (b) the names, (c) the
    certificate and the row that is written, (d) the conflict. -/
structure Right (history : List Event) (row : Workflow) (leaf : Leaf) (now : Nat)
    (before after : Certificate) : Prop where
  imported : (story row.id history).leaf = some leaf
  publicKey : leaf.spkiFingerprintSha256 = some row.spkiFingerprintSha256
  acknowledged : (¬ ∀ name, name ∈ issuedNamesFor leaf ↔ name ∈ row.requestedNames) →
    (story row.id history).acknowledged = true
  identity : ∀ existing, row.existingCertificateId = some existing → before.id = existing
  resolved : (story row.id history).conflict = false
  sameRow : after.id = before.id
  written : after.facts = leaf.facts ∨
    (after = before ∧ ∃ last, before.identityObservedAt = some last ∧ now ≤ last)

def Event.IsRight (history : List Event) : Event → Prop
  | .promoted row leaf now before after => Right history row leaf now before after
  | _ => True

def PromotedBy (history : List Event) (w : Workflow) : Prop :=
  ∃ row leaf now before after, Event.promoted row leaf now before after ∈ history ∧
    row.id = w.id ∧ row.existingCertificateId = w.existingCertificateId ∧
    row.spkiFingerprintSha256 = w.spkiFingerprintSha256 ∧ row.requestedNames = w.requestedNames ∧
    w.managedCertificateId = some before.id ∧ w.signedLeafPem = some leaf.certificatePem

structure Later (w w' : Workflow) : Prop where
  id : w'.id = w.id
  completed : w.status = .completed → w'.status = .completed ∧
    w'.managedCertificateId = w.managedCertificateId ∧ w'.signedLeafPem = w.signedLeafPem ∧
    w'.signedFingerprintSha256 = w.signedFingerprintSha256

theorem Later.refl (w : Workflow) : Later w w := ⟨rfl, fun h => ⟨h, rfl, rfl, rfl⟩⟩

theorem Later.trans (h₁ : Later w₁ w₂) (h₂ : Later w₂ w₃) : Later w₁ w₃ where
  id := h₂.id.trans h₁.id
  completed h := by
    obtain ⟨hs, hm, hl, hf⟩ := h₁.completed h
    obtain ⟨hs', hm', hl', hf'⟩ := h₂.completed hs
    exact ⟨hs', hm'.trans hm, hl'.trans hl, hf'.trans hf⟩

/-- A workflow that is not completed may change. -/
theorem Later.of_open {w : Workflow} (hid : w'.id = w.id) (h : w.status ≠ .completed) : Later w w' :=
  ⟨hid, fun hc => absurd hc h⟩

def Kept (s s' : State) : Prop := ∀ w ∈ s.workflows, ∃ w' ∈ s'.workflows, Later w w'

theorem Kept.refl (s : State) : Kept s s := fun w hw => ⟨w, hw, .refl w⟩

theorem Kept.trans {s₁ s₂ s₃ : State} (h₁ : Kept s₁ s₂) (h₂ : Kept s₂ s₃) : Kept s₁ s₃ := by
  intro w hw
  obtain ⟨w₂, hw₂, hl₂⟩ := h₁ w hw
  obtain ⟨w₃, hw₃, hl₃⟩ := h₂ w₂ hw₂
  exact ⟨w₃, hw₃, hl₂.trans hl₃⟩

/-! ## §3. The invariant. -/

structure SignedWith (cfg : Config) (leaf : Leaf) (w : Workflow) : Prop where
  leafPem : w.signedLeafPem = some leaf.certificatePem
  rereads : ∀ again, cfg.parsePublicCertificateMaterial leaf.certificatePem = .ok again → again = [leaf]
  publicKey : leaf.spkiFingerprintSha256 = some w.spkiFingerprintSha256
  additions : w.nameAdditions = nameAdditions w.requestedNames leaf
  omissions : w.nameOmissions = nameOmissions w.requestedNames leaf
  identity : ∀ existing, w.existingCertificateId = some existing → w.managedCertificateId = some existing

/-- The columns of a workflow are those of its story. -/
structure Told (cfg : Config) (history : List Event) (w : Workflow) : Prop where
  acknowledged : (story w.id history).acknowledged = w.namesAcknowledgedAt.isSome
  conflict : (story w.id history).conflict = w.identityConflictAt.isSome
  pending : w.status = .pendingSignature → w.namesAcknowledgedAt = none
  signed : w.status = .signedPendingInstall ∨ w.status = .completed →
    ∃ leaf, (story w.id history).leaf = some leaf ∧ SignedWith cfg leaf w
  completed : w.status = .completed → PromotedBy history w

/-- **THE INVARIANT.** -/
structure Inv (cfg : Config) (s : State) : Prop where
  workflowKeys : KeyNodup Workflow.id s.workflows
  instanceKeys : KeyNodup Instance.id s.instances
  told : ∀ w ∈ s.workflows, Told cfg s.history w
  named : ∀ e ∈ s.history, ∃ w ∈ s.workflows, w.id = e.workflowId
  right : ∀ pre e, pre ++ [e] <+: s.history → e.IsRight pre

variable {cfg : Config} {answers : Answers} {s s' : State} {row r w : Workflow}

theorem PromotedBy.append (events : List Event) (h : PromotedBy history w) :
    PromotedBy (history ++ events) w := by
  obtain ⟨row, leaf, now, before, after, hmem, hrest⟩ := h
  exact ⟨row, leaf, now, before, after, List.mem_append_left _ hmem, hrest⟩

/-- A workflow is told of by a history that goes on about others. -/
theorem Told.of_ne (h : Told cfg history w) (hne : ∀ e ∈ events, e.workflowId ≠ w.id) :
    Told cfg (history ++ events) w where
  acknowledged := by rw [story_append_of_ne hne]; exact h.acknowledged
  conflict := by rw [story_append_of_ne hne]; exact h.conflict
  pending := h.pending
  signed := by rw [story_append_of_ne hne]; exact h.signed
  completed hc := (h.completed hc).append events

/-- The columns that a story tells of, but for the certificate. -/
structure SameColumns (w w' : Workflow) : Prop where
  id : w'.id = w.id
  existing : w'.existingCertificateId = w.existingCertificateId
  publicKey : w'.spkiFingerprintSha256 = w.spkiFingerprintSha256
  requested : w'.requestedNames = w.requestedNames
  status : w'.status = w.status
  leafPem : w'.signedLeafPem = w.signedLeafPem
  fingerprint : w'.signedFingerprintSha256 = w.signedFingerprintSha256
  additions : w'.nameAdditions = w.nameAdditions
  omissions : w'.nameOmissions = w.nameOmissions
  acknowledged : w'.namesAcknowledgedAt = w.namesAcknowledgedAt

structure SameStory (w w' : Workflow) : Prop extends SameColumns w w' where
  managed : w'.managedCertificateId = w.managedCertificateId

theorem SameColumns.trans (h₁ : SameColumns w₁ w₂) (h₂ : SameColumns w₂ w₃) :
    SameColumns w₁ w₃ where
  id := h₂.id.trans h₁.id
  existing := h₂.existing.trans h₁.existing
  publicKey := h₂.publicKey.trans h₁.publicKey
  requested := h₂.requested.trans h₁.requested
  status := h₂.status.trans h₁.status
  leafPem := h₂.leafPem.trans h₁.leafPem
  fingerprint := h₂.fingerprint.trans h₁.fingerprint
  additions := h₂.additions.trans h₁.additions
  omissions := h₂.omissions.trans h₁.omissions
  acknowledged := h₂.acknowledged.trans h₁.acknowledged

theorem SameColumns.symm (h : SameColumns w w') : SameColumns w' w where
  id := h.id.symm
  existing := h.existing.symm
  publicKey := h.publicKey.symm
  requested := h.requested.symm
  status := h.status.symm
  leafPem := h.leafPem.symm
  fingerprint := h.fingerprint.symm
  additions := h.additions.symm
  omissions := h.omissions.symm
  acknowledged := h.acknowledged.symm

theorem SameColumns.refl (w : Workflow) : SameColumns w w :=
  ⟨rfl, rfl, rfl, rfl, rfl, rfl, rfl, rfl, rfl, rfl⟩

theorem SameStory.refl (w : Workflow) : SameStory w w := ⟨.refl w, rfl⟩

theorem SameStory.later (h : SameStory w w') : Later w w' where
  id := h.id
  completed hc := ⟨h.status.trans hc, h.managed, h.leafPem, h.fingerprint⟩

theorem SignedWith.of_same {leaf : Leaf} (h : SignedWith cfg leaf w) (hs : SameStory w w') :
    SignedWith cfg leaf w' where
  leafPem := hs.leafPem.trans h.leafPem
  rereads := h.rereads
  publicKey := h.publicKey.trans (congrArg some hs.publicKey.symm)
  additions := by rw [hs.additions, hs.requested]; exact h.additions
  omissions := by rw [hs.omissions, hs.requested]; exact h.omissions
  identity := by rw [hs.existing, hs.managed]; exact h.identity

theorem PromotedBy.of_same (h : PromotedBy history w) (hs : SameStory w w') : PromotedBy history w' := by
  obtain ⟨row, leaf, now, before, after, hmem, hid, hexisting, hspki, hnames, hmanaged, hpem⟩ := h
  exact ⟨row, leaf, now, before, after, hmem, hid.trans hs.id.symm, hexisting.trans hs.existing.symm,
    hspki.trans hs.publicKey.symm, hnames.trans hs.requested.symm, hs.managed.trans hmanaged,
    hs.leafPem.trans hpem⟩

/-- A change of other columns, the conflict included, where the story agrees on it. -/
theorem Told.of_same (h : Told cfg history w) (hs : SameStory w w')
    (hc : (story w'.id history).conflict = w'.identityConflictAt.isSome) :
    Told cfg history w' where
  acknowledged := by rw [hs.id, hs.acknowledged]; exact h.acknowledged
  conflict := hc
  pending hp := hs.acknowledged.trans (h.pending (hs.status.symm.trans hp))
  signed hp := by
    rw [hs.status] at hp
    obtain ⟨leaf, hleaf, hsigned⟩ := h.signed hp
    rw [hs.id]
    exact ⟨leaf, hleaf, hsigned.of_same hs⟩
  completed hp := (h.completed (hs.status.symm.trans hp)).of_same hs

/-- A history that goes on without a word on the story or the promotion. -/
theorem Told.snoc (h : Told cfg history w) (he : (story w.id history).next w.id e = story w.id history) :
    Told cfg (history ++ [e]) w where
  acknowledged := by rw [story_snoc, he]; exact h.acknowledged
  conflict := by rw [story_snoc, he]; exact h.conflict
  pending := h.pending
  signed := by rw [story_snoc, he]; exact h.signed
  completed hc := (h.completed hc).append [e]

/-! ## §4. One statement. -/

theorem right_snoc (h : ∀ pre e, pre ++ [e] <+: history → e.IsRight pre) (he : e.IsRight history) :
    ∀ pre e', pre ++ [e'] <+: history ++ [e] → e'.IsRight pre := by
  intro pre e' hpre
  obtain heq | hpre := List.prefix_concat_iff.mp hpre
  · obtain ⟨hpre', hlast⟩ := List.append_inj' heq rfl
    subst hpre'
    cases hlast
    exact he
  · exact h pre e' hpre

/-- **THE RULE OF A STATEMENT** that maps the workflows. -/
theorem Inv.map (hI : Inv cfg s) (g : Workflow → Workflow) (events : List Event)
    (hworkflows : s'.workflows = s.workflows.map g) (hhistory : s'.history = s.history ++ events)
    (hinstances : KeyNodup Instance.id s'.instances)
    (hg : ∀ w ∈ s.workflows, Told cfg (s.history ++ events) (g w) ∧ Later w (g w))
    (hnamed : ∀ e ∈ events, ∃ w ∈ s.workflows, w.id = e.workflowId)
    (hright : ∀ pre e, pre ++ [e] <+: s.history ++ events → e.IsRight pre) :
    Inv cfg s' ∧ Kept s s' := by
  refine ⟨⟨?_, hinstances, ?_, ?_, ?_⟩, ?_⟩
  · have hkeys : (s.workflows.map g).map Workflow.id = s.workflows.map Workflow.id := by
      rw [List.map_map]
      exact List.map_congr_left fun w hw => (hg w hw).2.id
    unfold KeyNodup
    rw [hworkflows, hkeys]
    exact hI.workflowKeys
  · intro w hw
    rw [hworkflows, List.mem_map] at hw
    obtain ⟨x, hx, rfl⟩ := hw
    rw [hhistory]
    exact (hg x hx).1
  · intro e he
    rw [hhistory, List.mem_append] at he
    obtain ⟨w, hw, hid⟩ : ∃ w ∈ s.workflows, w.id = e.workflowId := he.elim (hI.named e) (hnamed e)
    exact ⟨g w, by rw [hworkflows]; exact List.mem_map_of_mem hw, (hg w hw).2.id.trans hid⟩
  · rw [hhistory]
    exact hright
  · intro w hw
    exact ⟨g w, by rw [hworkflows]; exact List.mem_map_of_mem hw, (hg w hw).2⟩

/-- A statement that writes no workflow and notes nothing. -/
theorem Inv.frame (hI : Inv cfg s) (hworkflows : s'.workflows = s.workflows)
    (hhistory : s'.history = s.history) (hinstances : KeyNodup Instance.id s'.instances) :
    Inv cfg s' ∧ Kept s s' := by
  refine hI.map id [] (by simpa using hworkflows) (by simpa using hhistory) hinstances ?_ ?_ ?_
  · intro w hw
    rw [List.append_nil]
    exact ⟨hI.told w hw, .refl w⟩
  · simp
  · rw [List.append_nil]
    exact hI.right

theorem Inv.edit (hI : Inv cfg s) (hw : w ∈ s.workflows)
    (hworkflows : s'.workflows = updateWhere (fun x => x.id = w.id) f s.workflows)
    (hhistory : s'.history = s.history ++ [e]) (hinstances : s'.instances = s.instances)
    (he : e.workflowId = w.id) (htold : Told cfg (s.history ++ [e]) (f w)) (hlater : Later w (f w))
    (hright : e.IsRight s.history) : Inv cfg s' ∧ Kept s s' := by
  refine hI.map (fun x => if decide (x.id = w.id) = true then f x else x) [e] hworkflows hhistory
    (hinstances ▸ hI.instanceKeys) ?_ ?_ (right_snoc hI.right hright)
  · intro x hx
    by_cases hid : x.id = w.id
    · obtain rfl := hI.workflowKeys.eq_of_mem hx hw hid
      simpa using ⟨htold, hlater⟩
    · simp only [hid, decide_false, Bool.false_eq_true, if_false]
      refine ⟨(hI.told x hx).of_ne ?_, .refl x⟩
      intro e' he'
      rw [List.mem_singleton.mp he', he]
      exact Ne.symm hid
  · intro e' he'
    rw [List.mem_singleton.mp he']
    exact ⟨w, hw, he.symm⟩

theorem Inv.editSame (hI : Inv cfg s) (hw : w ∈ s.workflows)
    (hworkflows : s'.workflows = updateWhere (fun x => x.id = w.id) f s.workflows)
    (hhistory : s'.history = s.history) (hinstances : s'.instances = s.instances)
    (hsame : SameStory w (f w)) (hconflict : (f w).identityConflictAt = w.identityConflictAt) :
    Inv cfg s' ∧ Kept s s' := by
  refine hI.map (fun x => if decide (x.id = w.id) = true then f x else x) [] hworkflows
    (by simpa using hhistory) (hinstances ▸ hI.instanceKeys) ?_ (by simp) (by simpa using hI.right)
  intro x hx
  rw [List.append_nil]
  by_cases hid : x.id = w.id
  · obtain rfl := hI.workflowKeys.eq_of_mem hx hw hid
    have htold := hI.told x hx
    have hold : Told cfg s.history (f x) := by
      refine htold.of_same hsame ?_
      rw [hsame.id, hconflict]
      exact htold.conflict
    simpa using ⟨hold, hsame.later⟩
  · simp only [hid, decide_false, Bool.false_eq_true, if_false]
    exact ⟨hI.told x hx, .refl x⟩

theorem Inv.noted (hI : Inv cfg s) (hw : w ∈ s.workflows) (he : e.workflowId = w.id)
    (hsame : ∀ story : Story, story.next w.id e = story) (hright : e.IsRight s.history) :
    Inv cfg (s.note e) ∧ Kept s (s.note e) := by
  refine hI.edit hw (f := id) ?_ rfl rfl he ((hI.told w hw).snoc (hsame _)) (.refl w) hright
  simp [State.note, updateWhere]

end TokenTimer.CertOps.CsrWorkflow
