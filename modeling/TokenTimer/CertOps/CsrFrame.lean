/-
  TokenTimer.CertOps.CsrFrame — what each operation on a CSR workflow writes.

  One inversion lemma for each operation that succeeds, with the guards it has
  passed; the proofs about runs use these and do not unfold the operations.

  Main results:
    * `promote_ok` — the certificate, the token and the workflow.
    * `deleteCertificate_ok` — the row, its instances and the references to it.
-/

import TokenTimer.CertOps.CsrWorkflow

namespace TokenTimer.CertOps.CsrWorkflow

open Lib.Runs Lib.Table

variable {cfg : Config} {answers : Answers} {s s' : State} {row r : Workflow}

/-! ## §1. Small facts. -/

variable {leaf : Leaf} {id workflowId : Nat} {actor : Option Nat}

theorem workflowRow_ok (h : workflowRow s id = .ok row) : row ∈ s.workflows ∧ row.id = id := by
  have hsel : selectOne (fun w => decide (w.id = id)) s.workflows = some row := found_ok.mp h
  obtain ⟨hmem, hid⟩ := selectOne_some hsel
  exact ⟨hmem, of_decide_eq_true hid⟩

@[simp] theorem mem_findFingerprintOwners {fingerprint : String} {c : Certificate} :
    c ∈ findFingerprintOwners s fingerprint ↔
      c ∈ s.certificates ∧ c.facts.fingerprintSha256 = some fingerprint := by
  simp [findFingerprintOwners]

@[simp] theorem prepareManagedIdentity_id {old new : Certificate} (h : new.id = old.id) :
    (prepareManagedIdentity s old new).id = old.id := by
  unfold prepareManagedIdentity
  split
  · rfl
  · split
    · exact h
    · exact h

theorem prepareManagedIdentity_promote (now : Nat) (leaf : Leaf) (old : Certificate) :
    (prepareManagedIdentity s old (old.promote now leaf)).facts = leaf.facts ∨
      (prepareManagedIdentity s old (old.promote now leaf) = old ∧
        ∃ last, old.identityObservedAt = some last ∧ now ≤ last) := by
  unfold prepareManagedIdentity
  split
  · rename_i hstale
    right
    refine ⟨rfl, ?_⟩
    unfold staleObservation at hstale
    split at hstale
    · rename_i observed last hnow hlast
      refine ⟨last, hlast, ?_⟩
      have hle : observed ≤ last := by
        simp only [Bool.and_eq_true, decide_eq_true_eq] at hstale
        exact hstale.1.2
      have heq : some now = some observed := hnow
      injection heq with heq
      omega
    · cases hstale
  · left
    split
    · rfl
    · rfl

/-! ## §2. The deletion of a certificate. -/

def State.withoutCertificate (s : State) (id : Nat) : State :=
  { s with
    certificates := deleteWhere (fun c => c.id = id) s.certificates
    instances := deleteWhere (fun i => i.managedCertificateId = id) s.instances
    workflows := s.workflows.map (Workflow.clearReferences id (s.instanceOf id)) }

theorem deleteCertificate_ok {p : Certificate → Bool} (h : deleteCertificate s id p = .ok s') :
    (s' = s ∧ ∀ c ∈ s.certificates, c.id = id → p c = false) ∨
      (s' = s.withoutCertificate id ∧ (∃ c ∈ s.certificates, c.id = id ∧ p c = true) ∧
        ∀ w ∈ s.workflows, Workflow.references id w = false) := by
  unfold deleteCertificate at h
  split at h
  · rename_i hany
    rw [check_bind_ok] at h
    obtain ⟨hfree, h⟩ := h
    right
    refine ⟨?_, ?_, ?_⟩
    · injection h with h
      exact h.symm
    · simpa using hany
    · simpa using hfree
  · rename_i hnone
    left
    refine ⟨?_, ?_⟩
    · injection h with h
      exact h.symm
    · intro c hc hid
      by_contra hp
      rw [Bool.not_eq_false] at hp
      exact hnone (List.any_eq_true.mpr ⟨c, hc, by simp [hid, hp]⟩)

/-! ## §3. The promotion. -/

theorem signedLeaf_ok (h : signedLeaf cfg row = .ok leaf) :
    ∃ pem certificates, row.signedLeafPem = some pem ∧
      cfg.parsePublicCertificateMaterial pem = .ok certificates ∧ certificates.head? = some leaf := by
  unfold signedLeaf at h
  obtain ⟨pem, hpem, h⟩ := bind_ok.mp h
  obtain ⟨certificates, hparse, h⟩ := bind_ok.mp h
  exact ⟨pem, certificates, found_ok.mp hpem, hparse, found_ok.mp h⟩

theorem promotionTarget_ok {current : Certificate} (h : promotionTarget s row leaf = .ok current) :
    current ∈ s.certificates ∧ row.managedCertificateId = some current.id ∧
      current.status.isRetired = false := by
  unfold promotionTarget at h
  rw [check_bind_ok] at h
  obtain ⟨_, h⟩ := h
  obtain ⟨c, hc, h⟩ := bind_ok.mp h
  rw [check_bind_ok] at h
  obtain ⟨hretired, h⟩ := h
  injection h with h
  subst h
  obtain ⟨hmem, hid⟩ := selectOne_some (found_ok.mp hc)
  exact ⟨hmem, of_decide_eq_true hid, by simpa using hretired⟩

def Certificate.link (tokenId : Nat) (c : Certificate) : Certificate := { c with tokenId := some tokenId }

theorem linkReconciledCertificateToken_ok {existing : Option Nat}
    (h : linkReconciledCertificateToken answers s id existing = .ok s') :
    ∃ tokenId, s' = s.updateCertificate id (Certificate.link tokenId) := by
  unfold linkReconciledCertificateToken at h
  obtain ⟨tokenId, _, h⟩ := bind_ok.mp h
  obtain ⟨_, _, h⟩ := bind_ok.mp h
  injection h with h
  exact ⟨tokenId, h.symm⟩

/-- **WHAT A PROMOTION DOES**: nothing to a workflow that does not await its
    installation; otherwise the managed certificate gets the stored leaf and its
    token, and the workflow is completed. -/
theorem promote_ok {method : Method} {instanceId : Option Nat}
    (h : promote cfg answers row actor method instanceId s = .ok (s', r)) :
    (row.status ≠ .signedPendingInstall ∧ s' = s) ∨
      ∃ leaf current tokenId, row.status = .signedPendingInstall ∧
        namesNeedAcknowledgement row = false ∧ signedLeaf cfg row = .ok leaf ∧
        promotionTarget s row leaf = .ok current ∧
        s' = ((s.writeLeaf row leaf current).updateCertificate current.id
          (Certificate.link tokenId)).setWorkflow row.id (Workflow.complete s.now actor method instanceId) := by
  unfold promote at h
  split at h
  · rename_i hstatus
    left
    injection h with h
    injection h with h _
    exact ⟨hstatus, h.symm⟩
  · rename_i hstatus
    right
    rw [check_bind_ok] at h
    obtain ⟨hnames, h⟩ := h
    obtain ⟨leaf, hleaf, h⟩ := bind_ok.mp h
    obtain ⟨current, hcurrent, h⟩ := bind_ok.mp h
    obtain ⟨_, _, h⟩ := bind_ok.mp h
    obtain ⟨linked, hlinked, h⟩ := bind_ok.mp h
    obtain ⟨tokenId, rfl⟩ := linkReconciledCertificateToken_ok hlinked
    injection h with h
    injection h with h _
    exact ⟨leaf, current, tokenId, not_not.mp hstatus, by simpa using hnames, hleaf, hcurrent, h.symm⟩

/-! ## §4. Creation and import. -/

/-- A target is found or inserted; nothing else changes. -/
theorem resolveTarget_ok {request : TargetRequest} {targetId : Nat}
    (h : resolveTarget cfg answers s request = .ok (s', targetId)) :
    ∃ targets, s' = { s with targets } := by
  cases request with
  | id i =>
    obtain ⟨_, _, h⟩ := bind_ok.mp h
    cases h
    exact ⟨s.targets, rfl⟩
  | named name type =>
    unfold resolveTarget at h
    simp only at h
    rw [check_bind_ok] at h
    obtain ⟨_, h⟩ := h
    split at h
    · cases h
      exact ⟨s.targets, rfl⟩
    · rw [check_bind_ok] at h
      obtain ⟨_, h⟩ := h
      cases h
      exact ⟨_, rfl⟩

theorem createCsrWorkflow_ok {request : CreateRequest}
    (h : createCsrWorkflow cfg answers request s = .ok (s', r)) :
    ∃ targets,
      s' = { s with targets } ∨
      (∃ row ∈ s.workflows, row.status = .cancelled ∧
        s' = (restartCancelledCsr { s with targets } row).1) ∨
      (∃ targetId csr, (∀ w ∈ s.workflows, w.id ≠ answers.newId) ∧
        s' = { s with
          targets
          workflows := s.workflows ++ [newWorkflow s.now answers.newId targetId request csr] }) := by
  unfold createCsrWorkflow at h
  obtain ⟨csr, _, h⟩ := bind_ok.mp h
  obtain ⟨⟨s₁, targetId⟩, htarget, h⟩ := bind_ok.mp h
  obtain ⟨targets, rfl⟩ := resolveTarget_ok htarget
  obtain ⟨_, _, h⟩ := bind_ok.mp h
  refine ⟨targets, ?_⟩
  simp only at h
  split at h
  · rename_i row hrow
    rw [check_bind_ok] at h
    obtain ⟨_, h⟩ := h
    split at h
    · rename_i hcancelled
      right; left
      refine ⟨row, (selectOne_some hrow).1, hcancelled, ?_⟩
      injection h with h
      rw [h]
    · left
      cases h
      rfl
  · rw [check_bind_ok] at h
    obtain ⟨hfresh, h⟩ := h
    right; right
    refine ⟨targetId, csr, ?_, ?_⟩
    · simpa using hfresh
    · cases h
      rfl

theorem importIdentity_ok (h : importIdentity answers row actor leaf s = .ok (s', id)) :
    (s' = s ∧ row.existingCertificateId = some id ∧
        ∀ owner ∈ findFingerprintOwners s leaf.fingerprintSha256, owner.id = id) ∨
      (s' = s ∧ row.existingCertificateId = none ∧
        ∃ owner, findFingerprintOwners s leaf.fingerprintSha256 = [owner] ∧ owner.id = id) ∨
      (row.existingCertificateId = none ∧ findFingerprintOwners s leaf.fingerprintSha256 = [] ∧
        (∀ c ∈ s.certificates, c.id ≠ id) ∧ id = answers.newId ∧
        s' = { s with certificates := s.certificates ++ [provisionalCertificate s id row actor leaf] }) := by
  unfold importIdentity at h
  simp only at h
  rw [check_bind_ok] at h
  obtain ⟨_, h⟩ := h
  split at h
  · rename_i existing hexisting
    left
    obtain ⟨selected, _, h⟩ := bind_ok.mp h
    rw [check_bind_ok] at h
    obtain ⟨_, h⟩ := h
    rw [check_bind_ok] at h
    obtain ⟨howners, h⟩ := h
    cases h
    exact ⟨rfl, hexisting, by simpa using howners⟩
  · rename_i hexisting
    right
    split at h
    · rename_i owner howner
      left
      cases h
      exact ⟨rfl, hexisting, owner, howner, rfl⟩
    · cases h
    · rename_i hnone
      right
      rw [check_bind_ok] at h
      obtain ⟨hfresh, h⟩ := h
      obtain ⟨_, _, h⟩ := bind_ok.mp h
      cases h
      exact ⟨hexisting, hnone, by simpa using hfresh, rfl, rfl⟩

theorem importSignedCertificate_ok {pem : String}
    (h : importSignedCertificate cfg answers workflowId actor pem s = .ok (s', r)) :
    s' = s ∨ ∃ row ∈ s.workflows, row.id = workflowId ∧ ∃ leaf rest s₁ managed,
      row.status = .pendingSignature ∧
      cfg.parsePublicCertificateMaterial pem = .ok (leaf :: rest) ∧
      leaf.spkiFingerprintSha256 = some row.spkiFingerprintSha256 ∧
      importIdentity answers row actor leaf s = .ok (s₁, managed) ∧
      s' = (s₁.setWorkflow row.id (Workflow.sign s₁.now managed leaf (chainPem rest))).note
        (.imported row.id leaf) := by
  unfold importSignedCertificate at h
  obtain ⟨certificates, hparse, h⟩ := bind_ok.mp h
  split at h
  · cases h
  · rename_i leaf rest
    obtain ⟨row, hrow, h⟩ := bind_ok.mp h
    rw [check_bind_ok] at h
    obtain ⟨_, h⟩ := h
    split at h
    · left
      rw [check_bind_ok] at h
      cases h.2
      rfl
    · rename_i hstatus
      right
      rw [check_bind_ok] at h
      obtain ⟨hspki, h⟩ := h
      obtain ⟨⟨s₁, managed⟩, hidentity, h⟩ := bind_ok.mp h
      cases h
      exact ⟨row, (workflowRow_ok hrow).1, (workflowRow_ok hrow).2, leaf, rest, s₁, managed, not_not.mp hstatus, hparse,
        of_decide_eq_true hspki, hidentity, rfl⟩

/-! ## §5. Acknowledgement, confirmation, cancellation. -/

theorem acknowledgeCsrNames_ok (h : acknowledgeCsrNames cfg answers workflowId actor s = .ok (s', r)) :
    ∃ row ∈ s.workflows, row.status = .signedPendingInstall ∧
      (s' = (giveAcknowledgement actor row s).1 ∨
        ((giveAcknowledgement actor row s).2.identityConflictAt = none ∧
          promote cfg answers (giveAcknowledgement actor row s).2 actor .observation
            (giveAcknowledgement actor row s).2.observedInstanceId (giveAcknowledgement actor row s).1 =
              .ok (s', r))) := by
  unfold acknowledgeCsrNames at h
  obtain ⟨row, hrow, h⟩ := bind_ok.mp h
  rw [check_bind_ok] at h
  obtain ⟨hstatus, h⟩ := h
  refine ⟨row, (workflowRow_ok hrow).1, of_decide_eq_true hstatus, ?_⟩
  simp only at h
  split at h
  · rename_i hobserved
    right
    rw [Bool.and_eq_true] at hobserved
    exact ⟨Option.isNone_iff_eq_none.mp hobserved.2, h⟩
  · left
    cases h
    rfl

theorem confirmCsrInstallation_ok
    (h : confirmCsrInstallation cfg answers workflowId actor s = .ok (s', r)) :
    ∃ row ∈ s.workflows, row.status = .signedPendingInstall ∧ row.identityConflictAt = none ∧
      promote cfg answers row actor .manual none s = .ok (s', r) := by
  unfold confirmCsrInstallation at h
  obtain ⟨row, hrow, h⟩ := bind_ok.mp h
  rw [check_bind_ok] at h
  obtain ⟨hstatus, h⟩ := h
  rw [check_bind_ok] at h
  obtain ⟨hconflict, h⟩ := h
  obtain ⟨_, _, h⟩ := bind_ok.mp h
  rw [check_bind_ok] at h
  exact ⟨row, (workflowRow_ok hrow).1, of_decide_eq_true hstatus,
    Option.isNone_iff_eq_none.mp hconflict, h.2⟩

/-- The tables after the UPDATE of a cancellation. -/
def State.cancelRow (s : State) (row : Workflow) : State :=
  (s.setWorkflow row.id (·.cancel s.now)).note (.cancelled row.id)

theorem cancelCsrWorkflow_ok (h : cancelCsrWorkflow workflowId s = .ok (s', r)) :
    s' = s ∨ ∃ row ∈ s.workflows, row.id = workflowId ∧ row.status ≠ .completed ∧
      row.status ≠ .cancelled ∧
      (((row.managedCertificateId = none ∨ row.existingCertificateId ≠ none) ∧ s' = s.cancelRow row) ∨
        ∃ managed, row.managedCertificateId = some managed ∧ row.existingCertificateId = none ∧
          deleteCertificate (s.cancelRow row) managed (Certificate.released (s.cancelRow row)) = .ok s') := by
  unfold cancelCsrWorkflow at h
  obtain ⟨row, hrow, h⟩ := bind_ok.mp h
  rw [check_bind_ok] at h
  obtain ⟨hcompleted, h⟩ := h
  split at h
  · left
    cases h
    rfl
  · rename_i hcancelled
    right
    refine ⟨row, (workflowRow_ok hrow).1, (workflowRow_ok hrow).2, of_decide_eq_true hcompleted,
      hcancelled, ?_⟩
    simp only at h
    split at h
    · rename_i managed hmanaged hexisting
      right
      obtain ⟨released, hreleased, h⟩ := bind_ok.mp h
      cases h
      exact ⟨managed, hmanaged, hexisting, hreleased⟩
    · rename_i hother
      left
      refine ⟨?_, ?_⟩
      · cases hm : row.managedCertificateId with
        | none => exact .inl rfl
        | some managed =>
          right
          intro hexisting
          exact hother managed hm hexisting
      · cases h
        rfl

/-! ## §6. Observations. -/

theorem reassignObserved_ok {obs : Observation} {observed : Nat}
    (h : reassignObserved obs row observed s = .ok (s', r)) :
    workflowRow (s.setWorkflow row.id (·.reassign s.now observed)) row.id = .ok r ∧
      ((row.managedCertificateId = none ∧ s' = moveToObserved obs row observed s) ∨
        ∃ managed, row.managedCertificateId = some managed ∧
          deleteCertificate (moveToObserved obs row observed s) managed
            (Certificate.provisionalOf row) = .ok s') := by
  unfold reassignObserved at h
  obtain ⟨current, hcurrent, h⟩ := bind_ok.mp h
  split at h
  · rename_i managed hmanaged
    obtain ⟨s₁, hs₁, h⟩ := bind_ok.mp h
    cases h
    exact ⟨hcurrent, .inr ⟨managed, hmanaged, hs₁⟩⟩
  · rename_i hmanaged
    cases h
    exact ⟨hcurrent, .inl ⟨hmanaged, rfl⟩⟩

/-- **WHAT ONE TURN OF AN OBSERVATION DOES.** -/
theorem observeWorkflow_ok {obs : Observation} (h : observeWorkflow cfg answers obs row s = .ok s') :
    (observedCertificate s obs = none ∧ s' = s) ∨
      ∃ observed, observedCertificate s obs = some observed ∧
        ((row.managedCertificateId = some observed ∧ s' = settleObserved cfg answers obs row row s) ∨
          (row.managedCertificateId ≠ some observed ∧ row.existingCertificateId ≠ none ∧
            s' = (s.setWorkflow row.id (·.conflict s.now obs.instanceId observed)).note
              (.conflicted row.id obs.instanceId observed)) ∨
          (row.managedCertificateId ≠ some observed ∧ row.existingCertificateId = none ∧
            ∃ s₁ current, reassignObserved obs row observed s = .ok (s₁, current) ∧
              s' = settleObserved cfg answers obs row current s₁)) := by
  unfold observeWorkflow at h
  split at h
  · rename_i hnone
    left
    cases h
    exact ⟨hnone, rfl⟩
  · rename_i observed hobserved
    right
    refine ⟨observed, hobserved, ?_⟩
    split at h
    · rename_i hmanaged
      left
      cases h
      exact ⟨hmanaged, rfl⟩
    · rename_i hmanaged
      right
      split at h
      · rename_i hexisting
        left
        cases h
        exact ⟨hmanaged, Option.isSome_iff_ne_none.mp hexisting, rfl⟩
      · rename_i hexisting
        right
        obtain ⟨⟨s₁, current⟩, hs₁, h⟩ := bind_ok.mp h
        cases h
        exact ⟨hmanaged, by simpa using hexisting, s₁, current, hs₁, rfl⟩

theorem promoteOrDefer_cases (cfg : Config) (answers : Answers) (obs : Observation) (current : Workflow)
    (s : State) :
    (∃ r, promote cfg answers current none .observation (some obs.instanceId) s =
        .ok (promoteOrDefer cfg answers obs current s, r)) ∨
      promoteOrDefer cfg answers obs current s =
        s.note (.deferred current (leftovers s current obs.fingerprintSha256)) := by
  unfold promoteOrDefer
  cases hp : promote cfg answers current none .observation (some obs.instanceId) s with
  | ok result => exact .inl ⟨result.2, rfl⟩
  | error e => exact .inr rfl

end TokenTimer.CertOps.CsrWorkflow
