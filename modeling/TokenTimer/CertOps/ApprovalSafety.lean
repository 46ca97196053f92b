/-
  TokenTimer.CertOps.ApprovalSafety — what runs is what was approved.

  The invariant looks at the jobs that were created in `pending_approval`.  Such a
  job is parked, or its LATEST decision in the ledger is an approval by another
  user whose hashes are the ones its row carries.  The claim compares the row's
  hashes with the job as stored, so at a dispatch the approval covers the job.

  Main results:
    * `ApprovalInv.step` — every call keeps the invariant.
    * `dispatched_was_approved` — a dispatch has a standing approval.
-/

import TokenTimer.CertOps.ApprovalFrame

namespace TokenTimer.CertOps

open Lib.Table Lib.Runs

variable {env : Env} {db db' : Db} {ledger rows : List ApprovalRow} {created : List Nat}

/-! ## §1. The latest decision. -/

def latestDecision (ledger : List ApprovalRow) (jobId : Nat) : Option ApprovalRow :=
  (ledger.filter fun row => row.jobId = jobId).getLast?

variable {jobId ws approver : Nat} {j : JobRow} {mgmt : JobRow → Management}
    {out : Option Dispatched} {call : ApprovalCall} {s : ApprovalState}

theorem latestDecision_append_other (h : ∀ row ∈ rows, row.jobId ≠ jobId) :
    latestDecision (ledger ++ rows) jobId = latestDecision ledger jobId := by
  have hnone : rows.filter (fun row => row.jobId = jobId) = [] := by
    rw [List.filter_eq_nil_iff]
    intro row hrow
    simpa using h row hrow
  unfold latestDecision
  rw [List.filter_append, hnone, List.append_nil]

theorem latestDecision_append_self (row : ApprovalRow) :
    latestDecision (ledger ++ [row]) row.jobId = some row := by
  unfold latestDecision
  simp [List.filter_append]

/-- Nothing about the job stands after its latest decision. -/
theorem latestDecision_split {row : ApprovalRow} (h : latestDecision ledger jobId = some row) :
    ∃ earlier later, ledger = earlier ++ row :: later ∧ row.jobId = jobId ∧
      ∀ r ∈ later, r.jobId ≠ jobId := by
  obtain ⟨before, hfilter⟩ := List.getLast?_eq_some_iff.mp h
  obtain ⟨earlier, rest, rfl, -, hrest⟩ := List.filter_eq_append_iff.mp hfilter
  obtain ⟨skipped, later, rfl, hskipped, hrow, hlater⟩ := List.filter_eq_cons_iff.mp hrest
  refine ⟨earlier ++ skipped, later, by simp, by simpa using hrow, ?_⟩
  intro r hr hid
  have hmem : r ∈ later.filter fun row => row.jobId = jobId :=
    List.mem_filter.mpr ⟨hr, by simpa using hid⟩
  rw [hlater] at hmem
  cases hmem

/-! ## §2. The invariant. -/

/-- The latest decision of the job is an approval by another user, and the row
    carries its hashes. -/
def BoundByApproval (ledger : List ApprovalRow) (job : JobRow) : Prop :=
  ∃ row user payloadHash intentHash, latestDecision ledger job.id = some row ∧
    row.decision = .approved ∧ row.approvedByUserId = some user ∧
    job.requestedByUserId ≠ some user ∧
    (row.payloadHash = some payloadHash ∧ job.approvedPayloadHash = some payloadHash) ∧
    (row.canonicalIntentHash = some intentHash ∧
      job.approvedCanonicalIntentHash = some intentHash)

/-- The job waits, has ended, or is bound by its approval. -/
def Covered (ledger : List ApprovalRow) (job : JobRow) : Prop :=
  job.status.parked = true ∨ BoundByApproval ledger job

/-- THE INVARIANT of the approval gate. -/
structure ApprovalInv (db : Db) (ledger : List ApprovalRow) (created : List Nat) : Prop where
  wf : WellFormed db
  drawn : ∀ id ∈ created, id < db.nextId
  covered : ∀ j ∈ db.jobs, j.id ∈ created → Covered ledger j

theorem Covered.follows {j' : JobRow} (h : Covered ledger j) (hf : Follows j j') :
    Covered ledger j' := by
  obtain hparked | ⟨hopen, hsame⟩ := hf.kept
  · exact .inl hparked
  obtain hparked | ⟨row, user, p, c, hlast, hdecision, huser, hother, hp, hc⟩ := h
  · rw [hparked] at hopen
    cases hopen
  · right
    refine ⟨row, user, p, c, ?_, hdecision, huser, ?_, ⟨hp.1, ?_⟩, hc.1, ?_⟩
    · rw [hf.id]
      exact hlast
    · rw [hsame.requester]
      exact hother
    · rw [hsame.payloadHash]
      exact hp.2
    · rw [hsame.intentHash]
      exact hc.2

theorem Covered.append (h : Covered ledger j) (hrows : ∀ row ∈ rows, row.jobId ≠ j.id) :
    Covered (ledger ++ rows) j := by
  unfold Covered BoundByApproval
  rw [latestDecision_append_other hrows]
  exact h

/-- A call that follows its rows keeps the invariant, when every job it decides on
    is left parked. -/
theorem ApprovalInv.frame (h : ApprovalInv db ledger created) (hwf : WellFormed db')
    (hframe : ApprovalFrame db db')
    (hrows : ∀ row ∈ rows, ∀ j' ∈ db'.jobs, j'.id = row.jobId → j'.status.parked = true) :
    ApprovalInv db' (ledger ++ rows) created := by
  refine ⟨hwf, fun id hid => (h.drawn id hid).trans_le hframe.grows, ?_⟩
  intro j' hj' hcreated
  by_cases hdecided : ∃ row ∈ rows, row.jobId = j'.id
  · obtain ⟨row, hrow, hid⟩ := hdecided
    exact .inl (hrows row hrow j' hj' hid.symm)
  have hother : ∀ row ∈ rows, row.jobId ≠ j'.id := fun row hrow hid => hdecided ⟨row, hrow, hid⟩
  obtain ⟨j, hj, hfollows⟩ | hnew := hframe.jobs j' hj'
  · have hold : Covered ledger j := h.covered j hj (hfollows.id ▸ hcreated)
    exact (hold.follows hfollows).append hother
  · have hdrawn := h.drawn j'.id hcreated
    omega

/-- A call without decisions. -/
theorem ApprovalInv.quiet (h : ApprovalInv db ledger created) (hwf : WellFormed db')
    (hframe : ApprovalFrame db db') : ApprovalInv db' (ledger ++ []) created := by
  apply h.frame hwf hframe
  intro row hrow
  cases hrow

theorem ApprovalInv.born (h : ApprovalInv db' ledger created) :
    ApprovalInv db' ledger (created ++ createdWaiting db db') := by
  have hwaiting : ∀ id ∈ createdWaiting db db', ∃ j ∈ db'.jobs, j.id = id ∧
      j.status = .pendingApproval := by
    intro id hid
    obtain ⟨j, hj, rfl⟩ := List.mem_map.mp hid
    obtain ⟨hmem, hp⟩ := List.mem_filter.mp hj
    simp only [Bool.and_eq_true, decide_eq_true_eq] at hp
    exact ⟨j, hmem, rfl, hp.2⟩
  refine ⟨h.wf, ?_, ?_⟩
  · intro id hid
    obtain hid | hid := List.mem_append.mp hid
    · exact h.drawn id hid
    · obtain ⟨j, hj, rfl, -⟩ := hwaiting id hid
      exact h.wf.jobs.fresh j hj
  · intro j hj hid
    obtain hid | hid := List.mem_append.mp hid
    · exact h.covered j hj hid
    · obtain ⟨x, hx, hxid, hstatus⟩ := hwaiting j.id hid
      obtain rfl := h.wf.jobs.key.eq_of_mem hx hj hxid
      exact .inl (by rw [hstatus]; rfl)

/-! ## §3. The decisions. -/

variable {agent : AgentIdentity} {reads : ClaimReads} {d : Dispatched} {row : JobRow} {id : Nat}

theorem approveJob_inv (h : ApprovalInv db ledger created) {review : Option ServiceError}
    (hcall : approveJob env mgmt ws id approver review db = .ok db') :
    ApprovalInv db'
      (ledger ++ ((loadPendingApproval ws id db).toOption.map (approvedRow env approver)).toList)
      created := by
  have hmoves : Moves (Regime.any 0) db db' := approveJob_moves h.wf hcall
  simp only [approveJob, bind_ok, require_ok] at hcall
  obtain ⟨job, hload, -, hother, -, -, ⟨written, db₁⟩, hupd, hret⟩ := hcall
  cases hret
  rw [hload]
  show ApprovalInv db₁ (ledger ++ [approvedRow env approver job]) created
  obtain ⟨hmem, -⟩ := loadPendingApproval_ok hload
  obtain ⟨new, -, htrig, hid, hspec, rfl⟩ := updateJob_of_mem h.wf hmem rfl hupd
  refine ⟨hmoves.wellFormed h.wf, h.drawn, ?_⟩
  intro j' hj' hcreated
  obtain ⟨hj', hne⟩ | ⟨rfl, -⟩ := mem_replaceByKey.mp hj'
  · -- the decision is about another job
    apply (h.covered j' hj' hcreated).append
    intro row hrow hrowid
    rw [List.mem_singleton] at hrow
    subst hrow
    exact hne (hrowid.symm.trans hid.symm)
  · -- the triggers leave the binding the approval wrote
    right
    have hrequester : j'.requestedByUserId = job.requestedByUserId :=
      congrArg JobSpec.requestedByUserId hspec
    have hbinding : j'.approvedPayloadHash = some (env.computeJobPayloadApprovalHash job.payload) ∧
        j'.approvedCanonicalIntentHash = some (computeCanonicalIntentHash env job) := by
      cases htrig <;> exact ⟨rfl, rfl⟩
    refine ⟨approvedRow env approver job, approver, _, _, ?_, rfl, rfl, ?_, ⟨rfl, hbinding.1⟩, rfl,
      hbinding.2⟩
    · rw [hid]
      exact latestDecision_append_self (approvedRow env approver job)
    · rw [hrequester]
      simpa using hother

theorem rejectJob_inv (h : ApprovalInv db ledger created) {reason : Option String}
    (hcall : rejectJob mgmt ws id reason db = .ok db') :
    ApprovalInv db'
      (ledger ++ ((loadPendingApproval ws id db).toOption.map (rejectedRow approver)).toList)
      created := by
  have hmoves : Moves (Regime.any 0) db db' := rejectJob_moves h.wf hcall
  apply h.frame (hmoves.wellFormed h.wf) (rejectJob_frame hcall)
  simp only [rejectJob, bind_ok] at hcall
  obtain ⟨job, hload, ⟨written, db₁⟩, hupd, hret⟩ := hcall
  cases hret
  rw [hload]
  intro row hrow j' hj' hid
  rw [onTrustJobTerminalTransition_jobs] at hj'
  obtain rfl : row = rejectedRow approver job := by simpa [Except.toOption] using hrow
  obtain ⟨hmem, -⟩ := loadPendingApproval_ok hload
  obtain ⟨new, -, htrig, hnew, -, rfl⟩ := updateJob_of_mem h.wf hmem rfl hupd
  obtain ⟨-, hne⟩ | ⟨rfl, -⟩ := mem_replaceByKey.mp hj'
  · exact absurd (hid.trans hnew.symm) hne
  · cases htrig <;> rfl

/-! ## §4. The claim. -/

theorem Claimable.open (h : Claimable agent row) :
    row.status.parked = false := by
  obtain hst | hst := h.waiting <;> rw [hst] <;> rfl

theorem rejectDenied_frame {reason : String} (h : rejectDenied reads row reason db = .ok (out, db')) :
    ApprovalFrame db db' := by
  unfold rejectDenied at h
  split at h
  · obtain ⟨⟨written, db₁⟩, hupd, hret⟩ := bind_ok.mp h
    cases hret
    exact updateJob_frame_parked hupd fun _ => ⟨rfl, rfl⟩
  · cases h
    exact .refl _

theorem claimAndSign_frame (hwf : WellFormed db) {generation : Option Nat} (hrow : row ∈ db.jobs)
    (hc : Claimable agent row) (h : claimAndSign env agent reads row generation db = .ok (out, db')) :
    ApprovalFrame db db' := by
  obtain ⟨⟨written, db₁⟩, hupd, h⟩ := bind_ok.mp h
  have hdraw : Move (Regime.any 0) db { db with nextId := db.nextId + 2 } :=
    .frame le_rfl (Nat.le_add_right _ 2) rfl rfl rfl fun _ h => h
  have hclaimed : ApprovalFrame { db with nextId := db.nextId + 2 } db₁ :=
    updateJob_frame_open (hdraw.wellFormed hwf) hrow hupd hc.open fun _ => ⟨rfl, rfl, rfl, rfl⟩
  have hdrawn : ApprovalFrame db { db with nextId := db.nextId + 2 } :=
    .of_jobs rfl (Nat.le_add_right _ 2)
  have hframe : ApprovalFrame db db₁ := hdrawn.trans hclaimed
  simp only at h
  split at h
  · cases h
    exact hframe
  · simp only [bind_ok] at h
    obtain ⟨-, -, -, -, -, -, hret⟩ := h
    cases hret
    exact hframe.trans (.of_jobs rfl le_rfl)

/-- **ONE TURN OF THE CLAIM LOOP** keeps the invariant: a stale approval is
    recorded as invalidated and its job parked, every other write follows. -/
theorem claimRow_inv (h : ApprovalInv db ledger created) (hrow : row ∈ db.jobs)
    (hc : Claimable agent row) (hturn : claimRow env agent reads row db = .ok (out, db')) :
    ApprovalInv db'
      (ledger ++ if invalidates env reads row db then [invalidatedRow env row] else [])
      created := by
  have hstep : RowStep (Regime.free env) row db db' :=
    claimRow_rowStep h.wf (Regime.free_timed env) hrow hc hturn
  have hwf := hstep.moves.wellFormed h.wf
  unfold claimRow at hturn
  unfold invalidates
  split at hturn
  · rename_i hgates
    cases hturn
    rw [show claimGates reads row = false by simpa using hgates]
    exact h.quiet hwf (.refl _)
  rename_i hgates
  rw [show claimGates reads row = true by simpa using hgates]
  split at hturn
  · -- a denied trust job is rejected, not invalidated
    rename_i reason db₁ hval
    rw [revalidate_deny hval] at hturn
    rw [hval, Bool.and_false]
    exact h.quiet hwf (unwind_frame.trans (rejectDenied_frame hturn))
  · rename_i pem generation db₁ hval
    rw [revalidate_allow hval] at hturn
    rw [hval, Bool.and_true, Bool.true_and]
    unfold claimRevalidated at hturn
    by_cases hstale : approvalStale env row = true
    · rw [if_pos hstale] at hturn ⊢
      obtain ⟨⟨written, db₂⟩, hupd, hret⟩ := bind_ok.mp hturn
      cases hret
      apply h.frame hwf (updateJob_frame_parked hupd fun _ => ⟨rfl, rfl⟩)
      intro decision hdecision j' hj' hid
      rw [List.mem_singleton] at hdecision
      subst hdecision
      obtain ⟨new, -, htrig, hnew, -, rfl⟩ := updateJob_of_mem h.wf hrow rfl hupd
      obtain ⟨-, hne⟩ | ⟨rfl, -⟩ := mem_replaceByKey.mp hj'
      · exact absurd (hid.trans hnew.symm) hne
      · cases htrig <;> rfl
    · rw [if_neg hstale] at hturn ⊢
      split at hturn
      · obtain ⟨⟨written, db₂⟩, hupd, hret⟩ := bind_ok.mp hturn
        cases hret
        exact h.quiet hwf (updateJob_frame_parked hupd fun _ => ⟨rfl, rfl⟩)
      · exact h.quiet hwf (claimAndSign_frame h.wf hrow hc hturn)

theorem claimLoop_inv (turns : List JobRow) (h : ApprovalInv db ledger created)
    (hturns : Turns agent turns db) {out : List Dispatched}
    (hloop : claimLoop env agent reads turns db = .ok (out, db')) :
    ApprovalInv db' (ledger ++ claimInvalidations env agent reads turns db) created := by
  induction turns generalizing db ledger out with
  | nil =>
    cases hloop
    exact h.quiet h.wf (.refl _)
  | cons row turns ih =>
    simp only [claimLoop, bind_ok] at hloop
    obtain ⟨⟨signed, db₁⟩, hturn, ⟨rest, db₂⟩, hrest, hret⟩ := hloop
    cases hret
    have hrow := hturns.row row List.mem_cons_self
    have hinv := claimRow_inv h hrow.1 hrow.2 hturn
    simp only [claimInvalidations, hturn]
    rw [← List.append_assoc]
    exact ih hinv (hturns.turn (Regime.free_timed env) hturn).2.1 hrest

theorem claimJobs_inv (h : ApprovalInv db ledger created) {sequence : Option Nat} {caps : AgentCaps}
    {maxJobs : Nat} {out : List Dispatched}
    (hcall : claimJobs env agent sequence caps maxJobs reads db = .ok (out, db')) :
    ApprovalInv db' (ledger ++ claimDecisions env agent sequence caps maxJobs reads db) created := by
  simp only [claimJobs, bind_ok] at hcall
  obtain ⟨⟨proceed, db₀⟩, hbegin, hcall⟩ := hcall
  have hmove : Move (Regime.free env) db db₀ := beginClaim_move hbegin
  have hwf₀ := hmove.wellFormed h.wf
  have hframe : ApprovalFrame db db₀ :=
    .of_jobs (beginClaim_jobs hbegin) ((Moves.single hmove).nextId_le h.wf)
  have hinv₀ : ApprovalInv db₀ ledger created := by
    have hquiet := h.quiet hwf₀ hframe
    rwa [List.append_nil] at hquiet
  unfold claimDecisions
  rw [hbegin]
  cases proceed with
  | true =>
    exact claimLoop_inv _ hinv₀ (selectClaimable_spec agent _ caps reads _ hwf₀) hcall
  | false =>
    cases hcall
    exact hinv₀.quiet hwf₀ (.refl _)

/-! ## §5. Every call, every run. -/

theorem changeStoredJob_wellFormed (hwf : WellFormed db) {payload : JobPayload}
    {routing : OperatorRouting} : WellFormed (changeStoredJob id payload routing db) := by
  have horigin : ∀ j' ∈ (changeStoredJob id payload routing db).jobs, ∃ j ∈ db.jobs,
      j'.id = j.id ∧ j'.claimId = j.claimId := by
    intro j' hj'
    obtain ⟨j, hj, rfl⟩ := mem_updateWhere.mp hj'
    refine ⟨j, hj, ?_⟩
    split <;> exact ⟨rfl, rfl⟩
  refine ⟨⟨keyNodup_updateWhere (fun _ => rfl) hwf.jobs.key, ?_, ?_⟩, hwf.nonces, hwf.rows⟩
  · intro j' hj'
    obtain ⟨j, hj, hid, -⟩ := horigin j' hj'
    rw [hid]
    exact hwf.jobs.fresh j hj
  · intro j' hj' c hclaim
    obtain ⟨j, hj, -, hsame⟩ := horigin j' hj'
    rw [hsame] at hclaim
    exact hwf.jobs.claimFresh j hj c hclaim

/-- **EVERY CALL KEEPS THE INVARIANT.** -/
theorem ApprovalInv.exec (h : ApprovalInv db ledger created) (hissued : call.issued)
    (hcall : call.exec env db = .ok db') :
    ApprovalInv db' (ledger ++ call.decisions env db) created := by
  cases call with
  | approveJob ws id approver review m => exact approveJob_inv h hcall
  | rejectJob ws id approver reason m => exact rejectJob_inv h hcall
  | executorEvent event =>
    have hmoves : Moves (Regime.free env) db db' := by
      simp only [ApprovalCall.exec, executorEvent] at hcall
      split at hcall
      · cases hcall
      simp only [bind_ok] at hcall
      obtain ⟨-, -, ⟨d, db₁⟩, hupd, hret⟩ := hcall
      cases hret
      exact updateCertificateJobStatus_moves h.wf (fun _ _ _ => trivial) hupd
    exact h.quiet (hmoves.wellFormed h.wf) (executorEvent_frame h.wf hcall)
  | changeStoredJob id payload routing =>
    cases hcall
    exact h.quiet (changeStoredJob_wellFormed h.wf)
      (updateWhere_frame fun _ => ⟨rfl, rfl, rfl, rfl, rfl⟩)
  | transaction call =>
    by_cases hclaim : ∃ agent sequence caps maxJobs reads,
        call = .claimJobs agent sequence caps maxJobs reads
    · obtain ⟨agent, sequence, caps, maxJobs, reads, rfl⟩ := hclaim
      simp only [ApprovalCall.exec, CertOps.exec, asAgent, bind_ok] at hcall
      obtain ⟨-, -, ⟨out, db₁⟩, hclaimed, hret⟩ := hcall
      cases hret
      exact claimJobs_inv h hclaimed
    · have hother : ∀ agent sequence caps maxJobs reads,
          call ≠ .claimJobs agent sequence caps maxJobs reads := by
        intro agent sequence caps maxJobs reads heq
        exact hclaim ⟨agent, sequence, caps, maxJobs, reads, heq⟩
      have hmoves : Moves (Regime.free env) db db' :=
        exec_moves h.wf (Regime.free_timed env) (permits_free call) hcall
      have hnone : (ApprovalCall.transaction call).decisions env db = [] := by
        cases call with
        | claimJobs agent sequence caps maxJobs reads =>
          exact absurd rfl (hother agent sequence caps maxJobs reads)
        | _ => rfl
      rw [hnone]
      exact h.quiet (hmoves.wellFormed h.wf) (exec_frame h.wf hissued hother hcall)

theorem ApprovalInv.step (h : ApprovalInv s.db s.ledger s.createdPendingApproval)
    (hissued : call.issued) :
    ApprovalInv (s.next env call).db (s.next env call).ledger
      (s.next env call).createdPendingApproval := by
  unfold ApprovalState.next
  split
  · rename_i db' hcall
    exact (h.exec hissued hcall).born
  · exact h

theorem reachable_approvalInv {ok : ApprovalState → ApprovalCall → Prop}
    (h : Reachable (approvalSystem env) ok s) :
    ApprovalInv s.db s.ledger s.createdPendingApproval := by
  apply h.invariant (I := fun s => ApprovalInv s.db s.ledger s.createdPendingApproval)
  · intro s hs
    have hempty : s = { db := Db.empty, ledger := [], createdPendingApproval := [] } := hs
    subst hempty
    exact ⟨WellFormed.empty, fun id hid => (by cases hid), fun j hj => (by cases hj)⟩
  · intro s call s' hinv _ hstep
    obtain ⟨hissued, rfl⟩ := hstep
    exact hinv.step hissued

/-! ## §6. A dispatch. -/

structure ClaimedAs (row : JobRow) (d : Dispatched) (job : JobRow) : Prop where
  spec : job.toJobSpec = row.toJobSpec
  payload : job.payload = row.payload
  status : job.status = .claimed
  claim : job.claimId = some d.claimId

/-- A turn that signs found the approval current, and claimed the stored job. -/
theorem claimRow_claimed (hwf : WellFormed db) (hrow : row ∈ db.jobs)
    (h : claimRow env agent reads row db = .ok (some d, db')) :
    approvalStale env row = false ∧ ∃ job ∈ db'.jobs, ClaimedAs row d job := by
  unfold claimRow at h
  split at h
  · cases h
  split at h
  · unfold rejectDenied at h
    split at h
    · obtain ⟨_, -, hret⟩ := bind_ok.mp h
      cases hret
    · cases h
  · rename_i pem generation db₁ hval
    rw [revalidate_allow hval] at h
    unfold claimRevalidated at h
    split at h
    · obtain ⟨_, -, hret⟩ := bind_ok.mp h
      cases hret
    rename_i hfresh
    split at h
    · obtain ⟨_, -, hret⟩ := bind_ok.mp h
      cases hret
    refine ⟨by simpa using hfresh, ?_⟩
    obtain ⟨⟨written, db₂⟩, hupd, h⟩ := bind_ok.mp h
    have hdraw : Move (Regime.any 0) db { db with nextId := db.nextId + 2 } :=
      .frame le_rfl (Nat.le_add_right _ 2) rfl rfl rfl fun _ h => h
    obtain ⟨new, rfl, htrig, hid, hspec, rfl⟩ :=
      updateJob_of_mem (hdraw.wellFormed hwf) hrow rfl hupd
    simp only [Option.all_some, decide_eq_true_eq] at h
    split at h
    · cases h
    · rename_i hclaimed
      simp only [bind_ok] at h
      obtain ⟨-, -, -, -, -, -, hret⟩ := h
      cases hret
      have hstatus : new.status = .claimed := not_not.mp hclaimed
      refine ⟨new, mem_replaceJob_self hrow hid, hspec, ?_, hstatus, ?_⟩
      · cases htrig <;> rfl
      · -- a cancelled row is not claimed
        cases htrig with
        | kept => rfl
        | cancelled => cases hstatus

/-- The decisions of a loop are about its rows. -/
theorem claimInvalidations_jobs (turns : List JobRow) :
    ∀ decision ∈ claimInvalidations env agent reads turns db, ∃ r ∈ turns, decision.jobId = r.id := by
  induction turns generalizing db with
  | nil =>
    intro decision hdecision
    cases hdecision
  | cons row turns ih =>
    intro decision hdecision
    unfold claimInvalidations at hdecision
    obtain hhead | hlater := List.mem_append.mp hdecision
    · split at hhead
      · rw [List.mem_singleton] at hhead
        exact ⟨row, List.mem_cons_self, by rw [hhead]; rfl⟩
      · cases hhead
    · split at hlater
      · obtain ⟨r, hr, hid⟩ := ih decision hlater
        exact ⟨r, List.mem_cons_of_mem _ hr, hid⟩
      · cases hlater

theorem claimLoop_claimed (turns : List JobRow) (hturns : Turns agent turns db)
    {out : List Dispatched} (hloop : claimLoop env agent reads turns db = .ok (out, db')) (hd : d ∈ out) :
    ∃ row ∈ turns, d.jobId = row.id ∧ approvalStale env row = false ∧
      (∃ job ∈ db'.jobs, ClaimedAs row d job) ∧
      ∀ decision ∈ claimInvalidations env agent reads turns db, decision.jobId ≠ row.id := by
  induction turns generalizing db out with
  | nil =>
    cases hloop
    cases hd
  | cons first turns ih =>
    simp only [claimLoop, bind_ok] at hloop
    obtain ⟨⟨signed, db₁⟩, hturn, ⟨rest, db₂⟩, hrest, hret⟩ := hloop
    cases hret
    obtain ⟨-, hothers, hne⟩ := hturns.turn (Regime.free_timed env) hturn
    obtain hd | hd := List.mem_append.mp hd
    · -- the dispatch is this turn's
      have hsigned : signed = some d := by simpa using hd
      subst hsigned
      obtain ⟨hjobId, -⟩ := claimRow_signed hturn
      obtain ⟨hfresh, job, hjob, hclaimed⟩ := claimRow_claimed hturns.wf
        (hturns.row first List.mem_cons_self).1 hturn
      have hid : job.id = first.id := congrArg JobSpec.id hclaimed.spec
      have hlater : job ∈ db₂.jobs :=
        claimLoop_others (Regime.free_timed env) turns hothers hjob
          (fun r hr => by rw [hid]; exact hne r hr) hrest
      refine ⟨first, List.mem_cons_self, hjobId, hfresh, ⟨job, hlater, hclaimed⟩, ?_⟩
      intro decision hdecision
      simp only [claimInvalidations, invalidates, hfresh, Bool.and_false, Bool.false_and,
        Bool.false_eq_true, if_false, List.nil_append, hturn] at hdecision
      obtain ⟨r, hr, hdecided⟩ := claimInvalidations_jobs turns decision hdecision
      rw [hdecided]
      exact hne r hr
    · obtain ⟨row, hrow, hjobId, hfresh, hjob, hundecided⟩ := ih hothers hrest hd
      refine ⟨row, List.mem_cons_of_mem _ hrow, hjobId, hfresh, hjob, ?_⟩
      intro decision hdecision
      simp only [claimInvalidations, hturn] at hdecision
      obtain hhead | hlater := List.mem_append.mp hdecision
      · split at hhead
        · rw [List.mem_singleton] at hhead
          rw [hhead]
          exact (hne row hrow).symm
        · cases hhead
      · exact hundecided decision hlater

theorem BoundByApproval.standing {job : JobRow} (h : BoundByApproval ledger row)
    (hfresh : approvalStale env row = false) (hclaimed : ClaimedAs row d job) :
    StandingApproval env ledger job := by
  obtain ⟨decision, user, p, c, hlast, hdecision, huser, hother, ⟨hp, hrowp⟩, hc, hrowc⟩ := h
  have hid : job.id = row.id := congrArg JobSpec.id hclaimed.spec
  have hrequester : job.requestedByUserId = row.requestedByUserId :=
    congrArg JobSpec.requestedByUserId hclaimed.spec
  have hintent : buildCanonicalExecutionIntent job = buildCanonicalExecutionIntent row := by
    obtain ⟨spec, payload⟩ := hclaimed
    cases job
    cases row
    subst spec payload
    rfl
  unfold approvalStale at hfresh
  rw [hrowp, hrowc] at hfresh
  simp only [Option.isSome_some, decide_eq_false_iff_not, not_or, not_not, true_and,
    Option.some.injEq, ne_eq] at hfresh
  obtain ⟨earlier, later, hledger, hrowid, hafter⟩ := latestDecision_split hlast
  refine ⟨earlier, decision, later, user, hledger, by rw [hrowid, hid], hdecision, huser, ?_, ?_,
    ?_, ?_⟩
  · rw [hrequester]
    exact hother
  · rw [hp, hclaimed.payload, hfresh.1]
  · unfold computeCanonicalIntentHash at hfresh ⊢
    rw [hc, hintent, hfresh.2]
  · intro r hr hsame
    exact absurd (hsame.trans hid) (hafter r hr)

/-- **WHAT RUNS IS WHAT WAS APPROVED**: in every state of every run, a job that
    was created in `pending_approval` and that a claim dispatches has, in the
    ledger as the claim leaves it, an approval by a user other than its requester
    that binds both hashes of the stored job, with no rejection and no
    invalidation of the job after it. -/
theorem dispatched_was_approved {s : ApprovalState}
    (hreach : Reachable (approvalSystem env) anyStep s) {agent : AgentIdentity}
    {sequence : Option Nat} {caps : AgentCaps} {maxJobs : Nat} {reads : ClaimReads}
    {out : List Dispatched}
    (hclaim : claimJobs env agent sequence caps maxJobs reads s.db = .ok (out, db'))
    {d : Dispatched} (hd : d ∈ out) (hcreated : d.jobId ∈ s.createdPendingApproval) :
    ∃ job ∈ db'.jobs, job.id = d.jobId ∧ job.status = .claimed ∧ job.claimId = some d.claimId ∧
      StandingApproval env
        (s.ledger ++ claimDecisions env agent sequence caps maxJobs reads s.db) job := by
  have hinv := reachable_approvalInv hreach
  simp only [claimJobs, bind_ok] at hclaim
  obtain ⟨⟨proceed, db₀⟩, hbegin, hclaim⟩ := hclaim
  cases proceed with
  | false =>
    cases hclaim
    cases hd
  | true =>
    have hmove : Move (Regime.free env) s.db db₀ := beginClaim_move hbegin
    have hwf₀ := hmove.wellFormed hinv.wf
    have hturns := selectClaimable_spec agent (agentKindOf db₀ agent.id) caps reads
      (claimLimit maxJobs) hwf₀
    obtain ⟨row, hrow, hjobId, hfresh, ⟨job, hjob, hclaimed⟩, hundecided⟩ :=
      claimLoop_claimed _ hturns hclaim hd
    have hstored : row ∈ s.db.jobs := by
      rw [← beginClaim_jobs hbegin]
      exact (hturns.row row hrow).1
    -- a row with a turn is not parked, so the invariant gives its approval
    have hcovered : Covered s.ledger row := hinv.covered row hstored (hjobId ▸ hcreated)
    have hdecisions : claimDecisions env agent sequence caps maxJobs reads s.db =
        claimInvalidations env agent reads
          (selectClaimable agent (agentKindOf db₀ agent.id) caps reads (claimLimit maxJobs) db₀)
          db₀ := by
      unfold claimDecisions
      rw [hbegin]
    have hcovered' := hcovered.append hundecided
    rw [← hdecisions] at hcovered'
    have hopen : row.status.parked = false := (hturns.row row hrow).2.open
    obtain hparked | hbound := hcovered'
    · rw [hparked] at hopen
      cases hopen
    · have hid : job.id = row.id := congrArg JobSpec.id hclaimed.spec
      exact ⟨job, hjob, hid.trans hjobId.symm, hclaimed.status, hclaimed.claim,
        hbound.standing hfresh hclaimed⟩

/-! ## §7. A run. -/

def playApprovals (env : Env) (calls : List ApprovalCall) : ApprovalState :=
  calls.foldl (ApprovalState.next env)
    { db := Db.empty, ledger := [], createdPendingApproval := [] }

theorem playApprovals_reachable (calls : List ApprovalCall) (hissued : ∀ c ∈ calls, c.issued) :
    Reachable (approvalSystem env) anyStep (playApprovals env calls) := by
  have hrun : ∀ s, Run (approvalSystem env) anyStep s (calls.foldl (ApprovalState.next env) s) := by
    induction calls with
    | nil => exact .refl
    | cons call calls ih =>
      intro s
      rw [List.forall_mem_cons] at hissued
      have hstep : (approvalSystem env).step s call (s.next env call) := ⟨hissued.1, rfl⟩
      exact (Run.single trivial hstep).trans (ih hissued.2 _)
  exact ⟨_, rfl, hrun _⟩

namespace Demo

/-- User 1 asks for a renewal that needs an approval, user 9 approves it. -/
def approvedRenewal : List ApprovalCall :=
  setup.map .transaction ++
    [.transaction (.createCertificateJob
        { workspaceId := 7, operation := .renew, subjectType := some .domain, subjectId := some 1
          requestedByUserId := some 1, requiresApproval := true } {}),
      .approveJob 7 2 9 none fun _ => {}]

end Demo

theorem dispatched_was_approved_demo :
    ∃ out db' d job,
      claimJobs Demo.env Demo.agent none Demo.caps 1 {}
        (playApprovals Demo.env Demo.approvedRenewal).db = .ok (out, db') ∧
      d ∈ out ∧ job ∈ db'.jobs ∧ job.id = d.jobId ∧
      StandingApproval Demo.env
        ((playApprovals Demo.env Demo.approvedRenewal).ledger ++
          claimDecisions Demo.env Demo.agent none Demo.caps 1 {}
            (playApprovals Demo.env Demo.approvedRenewal).db) job := by
  have hreach : Reachable (approvalSystem Demo.env) anyStep
      (playApprovals Demo.env Demo.approvedRenewal) := by
    apply playApprovals_reachable
    intro c hc
    simp only [Demo.approvedRenewal, Demo.setup, List.map_cons, List.map_nil, List.cons_append,
      List.nil_append, List.mem_cons, List.not_mem_nil, or_false] at hc
    obtain rfl | rfl | rfl | rfl | rfl := hc <;> trivial
  have hok : (claimJobs Demo.env Demo.agent none Demo.caps 1 {}
      (playApprovals Demo.env Demo.approvedRenewal).db).toOption.map
        (fun r => r.1.map (·.jobId)) = some [2] := by decide +kernel
  obtain ⟨⟨out, db'⟩, hclaim, hjobs⟩ := ok_of_map hok
  have hmem : 2 ∈ out.map (·.jobId) := hjobs ▸ List.mem_cons_self
  obtain ⟨d, hd, hid⟩ := List.mem_map.mp hmem
  have hcreated : d.jobId ∈
      (playApprovals Demo.env Demo.approvedRenewal).createdPendingApproval := by
    rw [hid]
    decide +kernel
  obtain ⟨job, hjob, hjobId, -, -, hstanding⟩ :=
    dispatched_was_approved hreach hclaim hd hcreated
  exact ⟨out, db', d, job, hclaim, hd, hjob, hjobId, hstanding⟩

end TokenTimer.CertOps
