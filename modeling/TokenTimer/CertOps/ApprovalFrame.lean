/-
  TokenTimer.CertOps.ApprovalFrame — what a transaction leaves of the approval
  columns.

  A job is PARKED while it waits for an approval and once it has ended: no claim
  hands it out.  Every writer but `approveJob` leaves a job parked, or finds it
  unparked and keeps its approval columns.  That is all the approval gate needs
  of leases, results, the reaper, the fence and the triggers.

  Main results:
    * `updateJob_frame` — one triggered UPDATE.
    * `exec_frame` — every call that has no constructor of its own.
-/

import TokenTimer.CertOps.Approvals

namespace TokenTimer.CertOps

open Lib.Table

variable {env : Env} {db db' : Db}

/-! ## §1. Parked jobs, and rows that follow from rows. -/

/-- No claim selects the status, and only an approval leads out of it. -/
def JobStatus.parked (status : JobStatus) : Bool :=
  status = .pendingApproval || isTerminalJobStatus status

variable {j : JobRow} {set : JobRow → JobRow} {mgmt : JobRow → Management} {status : JobStatus}
  {id ws : Nat} {out : Option JobRow} {opts : TrustJobOptions}

theorem inFlight_not_parked (h : status.inFlight = true) :
    status.parked = false := by
  cases status <;> first | rfl | cases h

/-- The requester and the approval binding stay. -/
structure SameApproval (j j' : JobRow) : Prop where
  requester : j'.requestedByUserId = j.requestedByUserId
  payloadHash : j'.approvedPayloadHash = j.approvedPayloadHash
  intentHash : j'.approvedCanonicalIntentHash = j.approvedCanonicalIntentHash

/-- What a writer other than the approval leaves of a row. -/
structure Follows (j j' : JobRow) : Prop where
  id : j'.id = j.id
  kept : j'.status.parked = true ∨ (j.status.parked = false ∧ SameApproval j j')

theorem Follows.refl (j : JobRow) : Follows j j := by
  refine ⟨rfl, ?_⟩
  by_cases hparked : j.status.parked = true
  · exact .inl hparked
  · exact .inr ⟨by simpa using hparked, rfl, rfl, rfl⟩

theorem Follows.trans {a b c : JobRow} (h₁ : Follows a b) (h₂ : Follows b c) : Follows a c := by
  refine ⟨h₂.id.trans h₁.id, ?_⟩
  obtain hparked | ⟨hopen, hsame₂⟩ := h₂.kept
  · exact .inl hparked
  obtain hparked | ⟨hopen₁, hsame₁⟩ := h₁.kept
  · rw [hparked] at hopen
    cases hopen
  · exact .inr ⟨hopen₁, hsame₂.requester.trans hsame₁.requester,
      hsame₂.payloadHash.trans hsame₁.payloadHash, hsame₂.intentHash.trans hsame₁.intentHash⟩

variable {j' row job : JobRow} {reads : TrustReads} {ctx : TrustContext} {locked : InstallationRow}
    {reply : TrustJobReply} {agent : AgentIdentity} {sequence : Option Nat}
    {eventType : ExecutorEventType} {seen : JobStatus}

/-- An UPDATE that ends the job, or that sends it back to the approvers. -/
theorem Follows.of_parked (hid : j'.id = j.id) (h : j'.status.parked = true) :
    Follows j j' :=
  ⟨hid, .inl h⟩

theorem Follows.of_open (hid : j'.id = j.id) (h : j.status.parked = false)
    (hsame : SameApproval j j') : Follows j j' :=
  ⟨hid, .inr ⟨h, hsame⟩⟩

/-- The triggers keep the approval columns, and cancel at most. -/
theorem Triggered.follows {now : Nat} {old : Option JobRow} {new out : JobRow}
    (h : Triggered now old new out) (hset : Follows j new) : Follows j out := by
  cases h with
  | kept flag reason => exact ⟨hset.id, hset.kept.imp id fun k => ⟨k.1, k.2.1, k.2.2, k.2.3⟩⟩
  | cancelled flag reason hactive hstart => exact .of_parked hset.id rfl

/-! ## §2. The frame. -/

/-- Every job row of `db'` follows from the row of its id, or is new. -/
structure ApprovalFrame (db db' : Db) : Prop where
  grows : db.nextId ≤ db'.nextId
  jobs : ∀ j' ∈ db'.jobs, (∃ j ∈ db.jobs, Follows j j') ∨ db.nextId ≤ j'.id

theorem ApprovalFrame.of_jobs (hjobs : db'.jobs = db.jobs) (hgrows : db.nextId ≤ db'.nextId) :
    ApprovalFrame db db' := by
  refine ⟨hgrows, ?_⟩
  intro j' hj'
  rw [hjobs] at hj'
  exact .inl ⟨j', hj', .refl j'⟩

theorem ApprovalFrame.refl (db : Db) : ApprovalFrame db db :=
  .of_jobs rfl le_rfl

theorem ApprovalFrame.trans {a b c : Db} (h₁ : ApprovalFrame a b) (h₂ : ApprovalFrame b c) :
    ApprovalFrame a c := by
  refine ⟨h₁.grows.trans h₂.grows, ?_⟩
  intro j'' hj''
  obtain ⟨j', hj', hfollows⟩ | hnew := h₂.jobs j'' hj''
  · obtain ⟨j, hj, hfollows₁⟩ | hnew := h₁.jobs j' hj'
    · exact .inl ⟨j, hj, hfollows₁.trans hfollows⟩
    · exact .inr (hfollows.id ▸ hnew)
  · exact .inr (h₁.grows.trans hnew)

/-- **ONE TRIGGERED UPDATE**, of a row its SET list follows. -/
theorem updateJob_frame (h : updateJob mgmt id set db = .ok (out, db'))
    (hset : ∀ j ∈ db.jobs, j.id = id → Follows j (set j)) : ApprovalFrame db db' := by
  obtain ⟨-, rfl, -⟩ | ⟨old, new, hold, -, htrig, rfl⟩ := updateJob_ok h
  · exact .refl _
  obtain ⟨hmem, hid⟩ := jobById_some hold
  refine ⟨le_rfl, ?_⟩
  intro j' hj'
  obtain ⟨j, hj, rfl⟩ := mem_updateWhere.mp hj'
  left
  by_cases hj'id : j.id = id
  · simp only [hj'id, decide_true, if_true]
    exact ⟨old, hmem, htrig.follows (hset old hmem hid)⟩
  · simp only [hj'id, decide_false, Bool.false_eq_true, if_false]
    exact ⟨j, hj, .refl j⟩

theorem updateJob_frame_parked (h : updateJob mgmt id set db = .ok (out, db'))
    (hset : ∀ j, (set j).id = j.id ∧ (set j).status.parked = true) : ApprovalFrame db db' :=
  updateJob_frame h fun j _ _ => .of_parked (hset j).1 (hset j).2

theorem updateJob_frame_open (hwf : WellFormed db) (hrow : row ∈ db.jobs)
    (h : updateJob mgmt row.id set db = .ok (out, db')) (hopen : row.status.parked = false)
    (hset : ∀ j, (set j).id = j.id ∧ SameApproval j (set j)) : ApprovalFrame db db' := by
  apply updateJob_frame h
  intro j hj hid
  obtain rfl := hwf.jobs.key.eq_of_mem hj hrow hid
  exact .of_open (hset j).1 hopen (hset j).2

/-! ## §3. Creation. -/

theorem createCertificateJob_frame {opts : CreateJobOptions} {reads : CreateReads}
    {out : CreateJobOutcome} (h : createCertificateJob env opts reads db = .ok (out, db')) :
    ApprovalFrame db db' := by
  have hawait : opts.awaitsDryRun → (Regime.any 0).dryAwait := fun _ => trivial
  obtain ⟨-, rfl, -⟩ | ⟨-, -, ⟨status, kind, period, hspec⟩, -, rfl⟩ :=
    createCertificateJob_ok h hawait
  · exact .refl _
  refine ⟨Nat.le_succ _, ?_⟩
  intro j' hj'
  rw [List.mem_append, List.mem_singleton] at hj'
  obtain hj' | rfl := hj'
  · exact .inl ⟨j', hj', .refl j'⟩
  · have hid : out.job.id = db.nextId := congrArg JobSpec.id hspec
    exact .inr hid.ge

theorem dispatchTrustJob_frame
    (h : dispatchTrustJob env opts reads ctx locked db = .ok (reply, db')) :
    ApprovalFrame db db' := by
  simp only [dispatchTrustJob, bind_ok] at h
  obtain ⟨⟨outcome, db₁⟩, hcreate, h⟩ := h
  have hlocked : ApprovalFrame db
      (updateInstallation locked.id (InstallationRow.advanced opts.operation db.now) db) :=
    .of_jobs rfl le_rfl
  have hframe : ApprovalFrame db db₁ := hlocked.trans (createCertificateJob_frame hcreate)
  simp only at h
  split at h
  · cases h
    exact hframe.trans (.of_jobs rfl le_rfl)
  · cases h
    exact hframe.trans (.of_jobs rfl le_rfl)

theorem releaseReference_frame :
    ApprovalFrame db (releaseReference opts ctx locked db).2 := by
  unfold releaseReference recordTrustReferenceRelease
  dsimp only
  split <;> exact .of_jobs rfl le_rfl

theorem createTrustJob_frame (h : createTrustJob env opts reads db = .ok (reply, db')) :
    ApprovalFrame db db' := by
  obtain ⟨ctx, -, h⟩ := bind_ok.mp h
  unfold runCreateTrustJob at h
  split at h
  · split at h
    · unfold revokeTrust at h
      split at h
      · split at h
        · cases h
          exact .refl _
        · cases h
      split at h
      · cases h
      split at h
      · cases h
        exact releaseReference_frame
      split at h
      · cases h
        exact releaseReference_frame
      · exact dispatchTrustJob_frame h
    · exact dispatchTrustJob_frame h
  · split at h
    · cases h
    · have hframe := dispatchTrustJob_frame h
      exact ⟨(Nat.le_succ _).trans hframe.grows, fun j' hj' =>
        (hframe.jobs j' hj').imp id fun hnew => (Nat.le_succ _).trans hnew⟩

/-! ## §4. Unwinding. -/

theorem unwind_frame {operation : JobOperation} :
    ApprovalFrame db (onTrustJobTerminalTransition operation status ws id db) := by
  rw [onTrustJobTerminalTransition_eq]
  exact .of_jobs rfl le_rfl

/-! ## §5. Results, leases and executor events. -/

theorem settleTrust_frame {result : Option TrustResult}
    (h : settleTrust env job status result db = .ok db') : ApprovalFrame db db' := by
  unfold settleTrust at h
  simp only at h
  split at h
  · cases h
    exact .refl _
  split at h
  · obtain ⟨r, row, -, -, -, -, rfl⟩ := ingestTrustJobResult_ok h
    exact .of_jobs rfl le_rfl
  split at h
  · cases h
    exact unwind_frame
  · cases h
    exact .refl _

theorem resultStatusToJobStatus_parked {text : String} (h : resultStatusToJobStatus text = some status) :
    status.parked = true := by
  unfold resultStatusToJobStatus at h
  split at h <;> cases h <;> rfl

theorem ingestResult_frame {body : ResultBody} {reads : ResultReads} {reply : ResultReply}
    (h : ingestResult env agent sequence body reads db = .ok (reply, db')) :
    ApprovalFrame db db' := by
  simp only [ingestResult, bind_ok] at h
  obtain ⟨status, hstatus, job, -, -, -, -, -, h⟩ := h
  have hparked : status.parked = true := by
    unfold resultJobStatus at hstatus
    split at hstatus
    · rename_i hread
      cases hstatus
      exact resultStatusToJobStatus_parked hread
    · cases hstatus
  split at h
  · rename_i db₀ hconsume
    obtain ⟨x, -, -, rfl⟩ := consumeNonce_consumed hconsume
    simp only [acceptResult, bind_ok] at h
    obtain ⟨agents, -, -, -, -, -, ⟨written, db₁⟩, hupd, db₂, hsettle, hret⟩ := h
    cases hret
    have hframe := updateJob_frame_parked hupd fun _ => ⟨rfl, hparked⟩
    have hwritten : ApprovalFrame db db₁ := ⟨hframe.grows, hframe.jobs⟩
    exact hwritten.trans (settleTrust_frame hsettle)
  · split at h
    · cases h
      exact .refl _
    · cases h

theorem renewJobLease_frame (hwf : WellFormed db) {claim : Nat} {reads : RenewReads}
    (h : renewJobLease env agent id claim sequence reads db = .ok db') : ApprovalFrame db db' := by
  simp only [renewJobLease, bind_ok, require_ok] at h
  obtain ⟨agents, -, job, hlock, -, -, -, hflight, -, -, ⟨written, db₁⟩, hupd, -, -, hret⟩ := h
  cases hret
  obtain ⟨hmem, -⟩ := lockAgentJob_ok hlock
  have hagents : Move (Regime.any 0) db { db with agents := agents } :=
    .frame le_rfl le_rfl rfl rfl rfl fun _ h => h
  have hframe : ApprovalFrame { db with agents := agents } db₁ :=
    updateJob_frame_open (hagents.wellFormed hwf) hmem hupd (inFlight_not_parked hflight)
      fun _ => ⟨rfl, rfl, rfl, rfl⟩
  exact ⟨hframe.grows, hframe.jobs⟩

theorem executorTransition_parked (h : jobStatusByEventType eventType ∈ jobStatusTransitions seen) :
    (jobStatusByEventType eventType).parked = true ∨ seen.parked = false := by
  cases eventType with
  | jobCompleted | jobFailed | jobRejected => exact .inl rfl
  | jobAccepted | jobStarted =>
    right
    cases seen <;> first | rfl | simp [jobStatusTransitions, jobStatusByEventType] at h

theorem casJobStatus_frame (hwf : WellFormed db) {opts : UpdateStatusOptions}
    (hopts : opts.status = jobStatusByEventType eventType) (hjob : job ∈ db.jobs)
    {d : TransitionDecision} (h : casJobStatus mgmt opts job seen db = .ok (some (d, db'))) :
    ApprovalFrame db db' := by
  simp only [casJobStatus, bind_ok] at h
  obtain ⟨-, -, decision, hdecision, h⟩ := h
  split at h
  · cases h
    exact .refl _
  rename_i happlied
  split at h
  · rename_i hseen
    obtain ⟨⟨written, db₁⟩, hupd, hret⟩ := bind_ok.mp h
    cases hret
    obtain ⟨-, hmem⟩ := jobStatusTransitionDecision_ok hdecision (by simpa using happlied)
    rw [hopts] at hmem
    obtain hparked | hopen := executorTransition_parked hmem
    · rw [← hopts] at hparked
      exact updateJob_frame_parked hupd fun _ => ⟨rfl, hparked⟩
    · rw [← hseen] at hopen
      exact updateJob_frame_open hwf hjob hupd hopen fun _ => ⟨rfl, rfl, rfl, rfl⟩
  · cases h

theorem executorEvent_frame (hwf : WellFormed db) {event : ExecutorEvent}
    (h : executorEvent event db = .ok db') : ApprovalFrame db db' := by
  unfold executorEvent at h
  dsimp only at h
  split at h
  · cases h
  simp only [bind_ok] at h
  obtain ⟨-, -, ⟨d, db₁⟩, hupd, hret⟩ := h
  cases hret
  simp only [updateCertificateJobStatus, bind_ok] at hupd
  obtain ⟨-, -, hupd⟩ := hupd
  split at hupd
  · cases hupd
  rename_i job hfound
  obtain ⟨hmem, -⟩ := jobOf_some hfound
  obtain ⟨out, hcas, hupd⟩ := bind_ok.mp hupd
  split at hupd
  · cases hupd
    exact casJobStatus_frame hwf rfl hmem hcas
  obtain ⟨out₂, hcas₂, hupd⟩ := bind_ok.mp hupd
  split at hupd
  · cases hupd
    exact casJobStatus_frame hwf rfl hmem hcas₂
  · cases hupd

/-! ## §6. The writers without an agent. -/

/-- A requeue is of a claimed job; every other outcome of the reaper ends it. -/
theorem reapRow_frame (hwf : WellFormed db) {graceMs : Nat} {alive : Bool} (hrow : row ∈ db.jobs)
    (h : reapRow mgmt graceMs alive row db = .ok db') : ApprovalFrame db db' := by
  unfold reapRow at h
  split at h
  · cases h
    exact .refl _
  split at h
  · rename_i hbudget
    obtain ⟨⟨written, db₁⟩, hupd, hret⟩ := bind_ok.mp h
    cases hret
    simp only [hasRetryBudget, Bool.and_eq_true, decide_eq_true_eq] at hbudget
    have hopen : row.status.parked = false := by
      rw [hbudget.1.2]
      rfl
    exact updateJob_frame_open hwf hrow hupd hopen fun _ => ⟨rfl, rfl, rfl, rfl⟩
  split at h
  · obtain ⟨⟨written, db₁⟩, hupd, hret⟩ := bind_ok.mp h
    cases hret
    exact updateJob_frame_parked hupd fun _ => ⟨rfl, rfl⟩
  · obtain ⟨⟨written, db₁⟩, hupd, hret⟩ := bind_ok.mp h
    cases hret
    exact (updateJob_frame_parked hupd fun _ => ⟨rfl, rfl⟩).trans unwind_frame

/-- The reaper loop, by induction over the selected rows: each is still what the
    selection saw when its turn comes. -/
theorem reapExpiredLeases_frame (hwf : WellFormed db) {skip : Nat → Bool} {batch offlineAfterMs : Nat}
    (h : reapExpiredLeases env mgmt skip batch offlineAfterMs db = .ok db') :
    ApprovalFrame db db' :=
  reapExpiredLeases_induct (motive := fun _ db => ApprovalFrame db db') (.refl _)
    (fun hwf hrow _ _ h ih => (reapRow_frame hwf hrow h).trans ih) hwf h

theorem fenceLoop_frame (rows : List JobRow) (h : fenceLoop mgmt set rows db = .ok db')
    (hset : ∀ j, (set j).id = j.id ∧ (set j).status.parked = true) : ApprovalFrame db db' := by
  induction rows generalizing db with
  | nil =>
    cases h
    exact .refl _
  | cons row rows ih =>
    obtain ⟨⟨written, db₁⟩, hupd, hloop⟩ := bind_ok.mp h
    exact (updateJob_frame_parked hupd hset).trans (ih hloop)

theorem fenceUnwind_frame (rows : List JobRow) : ApprovalFrame db (fenceUnwind rows db) := by
  induction rows generalizing db with
  | nil => exact .refl _
  | cons row rows ih =>
    show ApprovalFrame db (fenceUnwind rows
      (onTrustJobTerminalTransition row.operation .cancelled row.workspaceId row.id db))
    exact unwind_frame.trans ih

theorem retireAgent_frame {agent : Nat} {force : Bool} {reason : String}
    (h : retireAgent mgmt ws agent force reason db = .ok db') :
    ApprovalFrame db db' := by
  unfold retireAgent at h
  split at h
  · obtain ⟨db₁, hfence, hret⟩ := bind_ok.mp h
    cases hret
    simp only [fenceAgentInFlightWork, bind_ok] at hfence
    obtain ⟨db₂, hcancel, db₃, horphan, hret⟩ := hfence
    cases hret
    have hcancelled : ApprovalFrame db db₂ := fenceLoop_frame _ hcancel fun _ => ⟨rfl, rfl⟩
    have horphaned : ApprovalFrame db₂ db₃ := fenceLoop_frame _ horphan fun _ => ⟨rfl, rfl⟩
    have hfenced := hcancelled.trans horphaned
    exact (hfenced.trans (fenceUnwind_frame (fenceSelect agent .claimed db))).trans
      (.of_jobs rfl le_rfl)
  · cases h
    exact .of_jobs rfl le_rfl

/-- Any rewriting of the payload and the routing leaves the approval columns. -/
theorem updateWhere_frame {p : JobRow → Bool} {f : JobRow → JobRow}
    (hf : ∀ j, (f j).id = j.id ∧ (f j).status = j.status ∧ SameApproval j (f j)) :
    ApprovalFrame db { db with jobs := updateWhere p f db.jobs } := by
  refine ⟨le_rfl, ?_⟩
  intro j' hj'
  obtain ⟨j, hj, rfl⟩ := mem_updateWhere.mp hj'
  refine .inl ⟨j, hj, ?_⟩
  split
  · obtain ⟨hid, hstatus, hsame⟩ := hf j
    refine ⟨hid, ?_⟩
    by_cases hparked : j.status.parked = true
    · exact .inl (by rw [hstatus]; exact hparked)
    · exact .inr ⟨by simpa using hparked, hsame⟩
  · exact .refl j

/-! ## §7. Every other call. -/

theorem rejectJob_frame {reason : Option String} (h : rejectJob mgmt ws id reason db = .ok db') :
    ApprovalFrame db db' := by
  simp only [rejectJob, bind_ok] at h
  obtain ⟨job, -, ⟨written, db₁⟩, hupd, hret⟩ := h
  cases hret
  exact (updateJob_frame_parked hupd fun _ => ⟨rfl, rfl⟩).trans unwind_frame

/-- **NO OTHER CALL UNPARKS A JOB** or changes what an approval of an unparked one
    bound. -/
theorem exec_frame (hwf : WellFormed db) {call : Call}
    (hissued : (ApprovalCall.transaction call).issued)
    (hclaim : ∀ agent sequence caps maxJobs reads,
      call ≠ .claimJobs agent sequence caps maxJobs reads)
    (h : exec env call db = .ok db') : ApprovalFrame db db' := by
  cases call with
  | tick | markStaleAgents | sweepExpiredNonces =>
    cases h
    exact .of_jobs rfl le_rfl
  | setWorkspace row =>
    cases h
    unfold setWorkspace
    split <;> exact .of_jobs rfl le_rfl
  | registerAgent ws kind =>
    cases h
    exact .of_jobs rfl (Nat.le_succ _)
  | heartbeat agent sequence =>
    simp only [exec, heartbeat, bind_ok] at h
    obtain ⟨-, -, agents, -, hret⟩ := h
    cases hret
    exact .of_jobs rfl le_rfl
  | retireAgent ws agent force reason m => exact retireAgent_frame h
  | createTrustAnchor request =>
    simp only [exec, createTrustAnchor] at h
    split at h
    · split at h
      · cases h
      · cases h
        exact .of_jobs rfl le_rfl
    · cases h
      exact .of_jobs rfl (Nat.le_succ _)
  | retireTrustAnchor ws anchor =>
    simp only [exec, retireTrustAnchor, bind_ok] at h
    obtain ⟨-, -, h⟩ := h
    split at h
    · cases h
    · cases h
      exact .of_jobs rfl le_rfl
  | createCertificateJob opts reads =>
    simp only [exec, createOtherJob, bind_ok] at h
    obtain ⟨-, -, ⟨out, db₁⟩, hcreate, hret⟩ := h
    cases hret
    exact createCertificateJob_frame hcreate
  | createTrustJob opts reads =>
    obtain ⟨⟨reply, db₁⟩, hcreate, hret⟩ := bind_ok.mp h
    cases hret
    exact createTrustJob_frame hcreate
  | rewritePayload id payload =>
    cases h
    exact updateWhere_frame fun _ => ⟨rfl, rfl, rfl, rfl, rfl⟩
  | approveJob | rejectJob | updateCertificateJobStatus => cases hissued
  | claimJobs agent sequence caps maxJobs reads =>
    exact absurd rfl (hclaim agent sequence caps maxJobs reads)
  | renewJobLease agent id claim sequence reads =>
    obtain ⟨-, -, hrenew⟩ := bind_ok.mp h
    exact renewJobLease_frame hwf hrenew
  | ingestResult agent sequence body reads =>
    simp only [exec, asAgent, bind_ok] at h
    obtain ⟨-, -, ⟨reply, db₁⟩, hresult, hret⟩ := h
    cases hret
    exact ingestResult_frame hresult
  | reapExpiredLeases skip batch offlineAfterMs m => exact reapExpiredLeases_frame hwf h
  | sweepOverdueTrustInstallations skip limit maxAgeMs delayMs =>
    cases h
    apply ApprovalFrame.of_jobs (sweepInstallations_jobs _)
    have hmoves : Moves (Regime.any 0) db
        (sweepOverdueTrustInstallations skip limit maxAgeMs delayMs db) :=
      sweepInstallations_moves _ hwf
    exact hmoves.nextId_le hwf

end TokenTimer.CertOps
