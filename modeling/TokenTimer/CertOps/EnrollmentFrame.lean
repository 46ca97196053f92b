/-
  TokenTimer.CertOps.EnrollmentFrame — the FRAME of the job tables: what a call
  of the job tables leaves to the enrollments.

  A job belongs to an enrollment from its INSERT on (`enrollment_id` is an INSERT
  column), so a call that inserts no job with an enrollment can only step the
  jobs an enrollment already has.

  Main results:
    * `NoBoundBorn` — no job that is bound to an enrollment is born.
    * `exec_noBoundBorn` — every isolated call is such a call.
-/

import TokenTimer.CertOps.JobEndings
import TokenTimer.CertOps.EnrollmentSystem

namespace TokenTimer.CertOps

open Lib.Table

variable {env : Env} {db db' db'' : Db}

/-! ## §1. The frame. -/

/-- Every job with an enrollment was there before, with the same INSERT
    columns. -/
def NoBoundBorn (db db' : Db) : Prop :=
  ∀ j' ∈ db'.jobs, j'.enrollmentId ≠ none → ∃ j ∈ db.jobs, j.toJobSpec = j'.toJobSpec

theorem NoBoundBorn.of_jobs (h : db'.jobs = db.jobs) : NoBoundBorn db db' := by
  intro j' hj' _
  exact ⟨j', h ▸ hj', rfl⟩

theorem NoBoundBorn.trans (h₁ : NoBoundBorn db db') (h₂ : NoBoundBorn db' db'') :
    NoBoundBorn db db'' := by
  intro j'' hj'' hb
  obtain ⟨j', hj', hspec'⟩ := h₂ j'' hj'' hb
  have hb' : j'.enrollmentId ≠ none := by
    rw [show j'.enrollmentId = j''.enrollmentId from congrArg JobSpec.enrollmentId hspec']
    exact hb
  obtain ⟨j, hj, hspec⟩ := h₁ j' hj' hb'
  exact ⟨j, hj, hspec.trans hspec'⟩

/-- An UPDATE keeps the INSERT columns. -/
def KeepsSpec (set : JobRow → JobRow) : Prop :=
  ∀ j, (set j).toJobSpec = j.toJobSpec

variable {agent : AgentIdentity} {reads : ClaimReads} {job row : JobRow} {set : JobRow → JobRow}
  {mgmt : JobRow → Management} {id : Nat} {sequence : Option Nat}

theorem updateJob_noBoundBorn {out : Option JobRow} (h : updateJob mgmt id set db = .ok (out, db'))
    (hset : KeepsSpec set) : NoBoundBorn db db' := by
  obtain ⟨-, rfl, -⟩ | ⟨old, new, hold, -, htrig, rfl⟩ := updateJob_ok h
  · exact .of_jobs rfl
  · intro j' hj' _
    obtain ⟨x, hx, hj⟩ := mem_updateWhere.mp hj'
    by_cases hid : x.id = id
    · simp only [hid, decide_true, if_true] at hj
      subst hj
      exact ⟨old, (jobById_some hold).1, (htrig.spec.trans (hset old)).symm⟩
    · simp only [hid, decide_false, Bool.false_eq_true, if_false] at hj
      exact ⟨x, hx, congrArg _ hj⟩

/-- One UPDATE of a loop, then the rest. -/
theorem updateJob_then_noBoundBorn {rest : Option JobRow × Db → Except ServiceError Db}
    (h : (updateJob mgmt id set db >>= rest) = .ok db'') (hset : KeepsSpec set)
    (hrest : ∀ out db', rest (out, db') = .ok db'' → NoBoundBorn db' db'') :
    NoBoundBorn db db'' := by
  obtain ⟨⟨out, db'⟩, hupd, h⟩ := bind_ok.mp h
  exact (updateJob_noBoundBorn hupd hset).trans (hrest out db' h)

variable {status : JobStatus} {ws graceMs : Nat} {opts : TrustJobOptions} {ctx : TrustContext}
    {locked : InstallationRow} {reply : TrustJobReply} {generation : Option Nat}
    {out : Option Dispatched} {d : TransitionDecision} {reason : String} {R : Regime}

theorem unwind_noBoundBorn {operation : JobOperation} :
    NoBoundBorn db (onTrustJobTerminalTransition operation status ws id db) :=
  .of_jobs onTrustJobTerminalTransition_jobs

/-! ## §2. Creation. -/

theorem createCertificateJob_noBoundBorn {opts : CreateJobOptions} {reads : CreateReads}
    {out : CreateJobOutcome} (hnone : opts.enrollmentId = none)
    (h : createCertificateJob env opts reads db = .ok (out, db')) : NoBoundBorn db db' := by
  have hawait : opts.awaitsDryRun → (Regime.any 0).dryAwait := fun _ => trivial
  obtain ⟨-, rfl, -⟩ | ⟨-, -, ⟨status, kind, period, hspec⟩, -, rfl⟩ :=
    createCertificateJob_ok h hawait
  · exact .of_jobs rfl
  · intro j' hj' hb
    obtain hold | hnew := List.mem_append.mp hj'
    · exact ⟨j', hold, rfl⟩
    · rw [List.mem_singleton.mp hnew] at hb
      have he : out.job.enrollmentId = opts.enrollmentId := congrArg JobSpec.enrollmentId hspec
      exact absurd (he.trans hnone) hb

theorem dispatchTrustJob_noBoundBorn {reads : TrustReads}
    (h : dispatchTrustJob env opts reads ctx locked db = .ok (reply, db')) :
    NoBoundBorn db db' := by
  simp only [dispatchTrustJob, bind_ok] at h
  obtain ⟨⟨outcome, db₁⟩, hcreate, h⟩ := h
  have hborn : NoBoundBorn db db₁ := by
    intro j' hj' hb
    exact createCertificateJob_noBoundBorn rfl hcreate j' hj' hb
  simp only at h
  split at h
  · cases h
    exact hborn.trans (.of_jobs rfl)
  · cases h
    exact hborn.trans (.of_jobs rfl)

theorem releaseReference_noBoundBorn : NoBoundBorn db (releaseReference opts ctx locked db).2 := by
  refine .of_jobs ?_
  unfold releaseReference recordTrustReferenceRelease
  dsimp only
  split <;> rfl

theorem createTrustJob_noBoundBorn {reads : TrustReads}
    (h : createTrustJob env opts reads db = .ok (reply, db')) :
    NoBoundBorn db db' := by
  obtain ⟨ctx, -, h⟩ := bind_ok.mp h
  unfold runCreateTrustJob at h
  split at h
  · split at h
    · unfold revokeTrust at h
      split at h
      · split at h
        · cases h
          exact .of_jobs rfl
        · cases h
      split at h
      · cases h
      split at h
      · cases h
        exact releaseReference_noBoundBorn
      split at h
      · cases h
        exact releaseReference_noBoundBorn
      · exact dispatchTrustJob_noBoundBorn h
    · exact dispatchTrustJob_noBoundBorn h
  · split at h
    · cases h
    · intro j' hj' hb
      exact dispatchTrustJob_noBoundBorn h j' hj' hb

/-! ## §3. The claim. -/

theorem claimAndSign_noBoundBorn
    (h : claimAndSign env agent reads row generation db = .ok (out, db')) : NoBoundBorn db db' := by
  simp only [claimAndSign, bind_ok] at h
  obtain ⟨⟨written, db₁⟩, hupd, h⟩ := h
  have hborn : NoBoundBorn db db₁ := by
    have hupdate := updateJob_noBoundBorn hupd fun _ => rfl
    exact hupdate
  simp only at h
  split at h
  · cases h
    exact hborn
  · simp only [bind_ok] at h
    obtain ⟨-, -, -, -, -, -, h⟩ := h
    cases h
    exact hborn.trans (.of_jobs rfl)

theorem claimRevalidated_noBoundBorn
    (h : claimRevalidated env agent reads row generation db = .ok (out, db')) :
    NoBoundBorn db db' := by
  unfold claimRevalidated at h
  split at h
  · obtain ⟨⟨written, db₁⟩, hupd, h⟩ := bind_ok.mp h
    cases h
    exact updateJob_noBoundBorn hupd fun _ => rfl
  split at h
  · obtain ⟨⟨written, db₁⟩, hupd, h⟩ := bind_ok.mp h
    cases h
    exact updateJob_noBoundBorn hupd fun _ => rfl
  · exact claimAndSign_noBoundBorn h

theorem revalidate_noBoundBorn :
    NoBoundBorn db (revalidateTrustJobForDispatch job db).2 := by
  unfold revalidateTrustJobForDispatch
  split
  · exact .of_jobs rfl
  split
  · exact .of_jobs rfl
  · exact unwind_noBoundBorn

theorem claimRow_noBoundBorn (h : claimRow env agent reads row db = .ok (out, db')) :
    NoBoundBorn db db' := by
  unfold claimRow at h
  split at h
  · cases h
    exact .of_jobs rfl
  have hre : NoBoundBorn db (revalidateTrustJobForDispatch row db).2 := revalidate_noBoundBorn
  split at h
  · rename_i reason db₁ heq
    rw [heq] at hre
    unfold rejectDenied at h
    split at h
    · obtain ⟨⟨written, db₂⟩, hupd, h⟩ := bind_ok.mp h
      cases h
      exact hre.trans (updateJob_noBoundBorn hupd fun _ => rfl)
    · cases h
      exact hre
  · rename_i pem generation db₁ heq
    rw [heq] at hre
    exact hre.trans (claimRevalidated_noBoundBorn h)

theorem claimLoop_noBoundBorn (rows : List JobRow) {out : List Dispatched}
    (h : claimLoop env agent reads rows db = .ok (out, db')) :
    NoBoundBorn db db' := by
  induction rows generalizing db out with
  | nil =>
    cases h
    exact .of_jobs rfl
  | cons row rows ih =>
    simp only [claimLoop, bind_ok] at h
    obtain ⟨⟨signed, db₁⟩, hrow, ⟨rest, db₂⟩, hrest, h⟩ := h
    cases h
    exact (claimRow_noBoundBorn hrow).trans (ih hrest)

theorem claimJobs_noBoundBorn {caps : AgentCaps} {maxJobs : Nat} {out : List Dispatched}
    (h : claimJobs env agent sequence caps maxJobs reads db = .ok (out, db')) :
    NoBoundBorn db db' := by
  simp only [claimJobs, bind_ok] at h
  obtain ⟨⟨proceed, db₀⟩, hbegin, h⟩ := h
  have hjobs : db₀.jobs = db.jobs := beginClaim_jobs hbegin
  simp only at h
  split at h
  · exact (NoBoundBorn.of_jobs hjobs).trans (claimLoop_noBoundBorn _ h)
  · cases h
    exact .of_jobs hjobs

/-! ## §4. Results, leases and status changes. -/

theorem settleTrust_noBoundBorn {result : Option TrustResult}
    (h : settleTrust env job status result db = .ok db') : NoBoundBorn db db' := by
  unfold settleTrust at h
  simp only at h
  split at h
  · cases h
    exact .of_jobs rfl
  split at h
  · obtain ⟨r, row, -, -, -, -, rfl⟩ := ingestTrustJobResult_ok h
    exact .of_jobs rfl
  split at h
  · cases h
    exact unwind_noBoundBorn
  · cases h
    exact .of_jobs rfl

theorem ingestResult_noBoundBorn {body : ResultBody} {reads : ResultReads} {reply : ResultReply}
    (h : ingestResult env agent sequence body reads db = .ok (reply, db')) :
    NoBoundBorn db db' := by
  simp only [ingestResult, bind_ok] at h
  obtain ⟨status, -, job, -, -, -, -, -, h⟩ := h
  split at h
  · rename_i db₀ hconsume
    obtain ⟨x, -, -, rfl⟩ := consumeNonce_consumed hconsume
    simp only [acceptResult, bind_ok] at h
    obtain ⟨agents, -, -, -, -, -, ⟨written, db₁⟩, hupd, db₂, hsettle, hret⟩ := h
    cases hret
    have hborn : NoBoundBorn db db₁ := by
      have hupdate := updateJob_noBoundBorn hupd fun _ => rfl
      exact hupdate
    exact hborn.trans (settleTrust_noBoundBorn hsettle)
  · split at h
    · cases h
      exact .of_jobs rfl
    · cases h

theorem renewJobLease_noBoundBorn {claim : Nat} {reads : RenewReads}
    (h : renewJobLease env agent id claim sequence reads db = .ok db') :
    NoBoundBorn db db' := by
  simp only [renewJobLease, bind_ok] at h
  obtain ⟨agents, -, job, -, -, -, -, -, -, -, ⟨written, db₁⟩, hupd, -, -, hret⟩ := h
  cases hret
  have hborn : NoBoundBorn db db₁ := by
    have hupdate := updateJob_noBoundBorn hupd fun _ => rfl
    exact hupdate
  exact hborn.trans (.of_jobs rfl)

theorem casJobStatus_noBoundBorn {opts : UpdateStatusOptions} {seen : JobStatus}
    (h : casJobStatus mgmt opts job seen db = .ok (some (d, db'))) :
    NoBoundBorn db db' := by
  simp only [casJobStatus, bind_ok] at h
  obtain ⟨-, -, decision, -, h⟩ := h
  split at h
  · cases h
    exact .of_jobs rfl
  split at h
  · obtain ⟨⟨written, db₁⟩, hupd, h⟩ := bind_ok.mp h
    cases h
    exact updateJob_noBoundBorn hupd fun _ => rfl
  · cases h

theorem updateCertificateJobStatus_noBoundBorn {opts : UpdateStatusOptions}
    {first second : JobStatus}
    (h : updateCertificateJobStatus mgmt opts first second db = .ok (d, db')) :
    NoBoundBorn db db' := by
  simp only [updateCertificateJobStatus, bind_ok] at h
  obtain ⟨-, -, h⟩ := h
  split at h
  · cases h
  obtain ⟨out, hcas, h⟩ := bind_ok.mp h
  split at h
  · cases h
    exact casJobStatus_noBoundBorn hcas
  obtain ⟨out₂, hcas₂, h⟩ := bind_ok.mp h
  split at h
  · cases h
    exact casJobStatus_noBoundBorn hcas₂
  · cases h

/-! ## §5. The writers without an agent. -/

theorem reapRow_noBoundBorn {alive : Bool} (h : reapRow mgmt graceMs alive row db = .ok db') :
    NoBoundBorn db db' := by
  unfold reapRow at h
  split at h
  · cases h
    exact .of_jobs rfl
  split at h
  · refine updateJob_then_noBoundBorn h (fun _ => rfl) fun out db₁ h => ?_
    cases h
    exact .of_jobs rfl
  split at h
  · refine updateJob_then_noBoundBorn h (fun _ => rfl) fun out db₁ h => ?_
    cases h
    exact .of_jobs rfl
  · refine updateJob_then_noBoundBorn h (fun _ => rfl) fun out db₁ h => ?_
    cases h
    exact unwind_noBoundBorn

theorem reapLoop_noBoundBorn (rows : List (JobRow × Bool))
    (h : reapLoop mgmt graceMs rows db = .ok db') :
    NoBoundBorn db db' := by
  induction rows generalizing db with
  | nil =>
    cases h
    exact .of_jobs rfl
  | cons row rows ih =>
    obtain ⟨row, alive⟩ := row
    simp only [reapLoop, bind_ok] at h
    obtain ⟨db₁, hrow, h⟩ := h
    exact (reapRow_noBoundBorn hrow).trans (ih h)

theorem fenceLoop_noBoundBorn (rows : List JobRow) (h : fenceLoop mgmt set rows db = .ok db')
    (hset : KeepsSpec set) : NoBoundBorn db db' := by
  induction rows generalizing db with
  | nil =>
    cases h
    exact .of_jobs rfl
  | cons row rows ih =>
    unfold fenceLoop at h
    exact updateJob_then_noBoundBorn h hset fun out db₁ h => ih h

theorem fenceUnwind_noBoundBorn (rows : List JobRow) :
    NoBoundBorn db (fenceUnwind rows db) := by
  induction rows generalizing db with
  | nil => exact .of_jobs rfl
  | cons row rows ih => exact unwind_noBoundBorn.trans ih

theorem fenceAgentInFlightWork_noBoundBorn {agent : Nat}
    (h : fenceAgentInFlightWork mgmt agent reason db = .ok db') :
    NoBoundBorn db db' := by
  simp only [fenceAgentInFlightWork, bind_ok] at h
  obtain ⟨db₂, hcancel, db₃, horphan, hret⟩ := h
  cases hret
  have hcancelled := fenceLoop_noBoundBorn _ hcancel fun _ => rfl
  have horphaned := fenceLoop_noBoundBorn _ horphan fun _ => rfl
  exact (hcancelled.trans horphaned).trans (fenceUnwind_noBoundBorn _)

theorem retireAgent_noBoundBorn {agent : Nat} {force : Bool}
    (h : retireAgent mgmt ws agent force reason db = .ok db') :
    NoBoundBorn db db' := by
  unfold retireAgent at h
  split at h
  · obtain ⟨db₁, hfence, hret⟩ := bind_ok.mp h
    cases hret
    exact (fenceAgentInFlightWork_noBoundBorn hfence).trans (.of_jobs rfl)
  · cases h
    exact .of_jobs rfl

theorem rewritePayload_noBoundBorn {payload : JobPayload} :
    NoBoundBorn db (rewritePayload id payload db) := by
  intro j' hj' _
  obtain ⟨x, hx, hj⟩ := mem_updateWhere.mp hj'
  split at hj
  · exact ⟨x, hx, by rw [← hj]⟩
  · exact ⟨x, hx, by rw [hj]⟩

/-! ## §6. Every isolated call. -/

/-- **NO ISOLATED CALL BINDS A JOB TO AN ENROLLMENT.** -/
theorem exec_noBoundBorn {call : Call} (hcall : Enrollment.isolated call = true)
    (h : exec env call db = .ok db') : NoBoundBorn db db' := by
  cases call with
  | tick | registerAgent | markStaleAgents | sweepExpiredNonces =>
    cases h
    exact .of_jobs rfl
  | setWorkspace row =>
    cases h
    refine .of_jobs ?_
    unfold setWorkspace
    split <;> rfl
  | heartbeat agent sequence =>
    simp only [exec, heartbeat, bind_ok] at h
    obtain ⟨-, -, agents, -, hret⟩ := h
    cases hret
    exact .of_jobs rfl
  | retireAgent ws agent force reason m => exact retireAgent_noBoundBorn h
  | createTrustAnchor req =>
    refine .of_jobs ?_
    simp only [exec, createTrustAnchor] at h
    split at h
    · split at h
      · cases h
      · cases h
        rfl
    · cases h
      rfl
  | retireTrustAnchor ws anchor =>
    refine .of_jobs ?_
    simp only [exec, retireTrustAnchor, bind_ok] at h
    obtain ⟨-, -, h⟩ := h
    split at h
    · cases h
    · cases h
      rfl
  | createCertificateJob opts reads =>
    simp only [exec, createOtherJob, bind_ok] at h
    obtain ⟨-, -, ⟨out, db₁⟩, hcreate, hret⟩ := h
    cases hret
    simp only [Enrollment.isolated, Bool.and_eq_true, Option.isNone_iff_eq_none] at hcall
    exact createCertificateJob_noBoundBorn hcall.1.1 hcreate
  | createTrustJob opts reads =>
    obtain ⟨⟨reply, db₁⟩, hcreate, hret⟩ := bind_ok.mp h
    cases hret
    exact createTrustJob_noBoundBorn hcreate
  | rewritePayload id payload =>
    cases h
    exact rewritePayload_noBoundBorn
  | approveJob ws id approver review m =>
    simp only [exec, approveJob, bind_ok] at h
    obtain ⟨job, -, -, -, -, -, ⟨written, db₁⟩, hupd, hret⟩ := h
    cases hret
    exact updateJob_noBoundBorn hupd fun _ => rfl
  | rejectJob ws id reason m =>
    simp only [exec, rejectJob, bind_ok] at h
    obtain ⟨job, -, ⟨written, db₁⟩, hupd, hret⟩ := h
    cases hret
    exact (updateJob_noBoundBorn hupd fun _ => rfl).trans unwind_noBoundBorn
  | claimJobs | ingestResult => cases hcall
  | renewJobLease agent id claim sequence reads =>
    obtain ⟨-, -, hrenew⟩ := bind_ok.mp h
    exact renewJobLease_noBoundBorn hrenew
  | updateCertificateJobStatus opts first second m =>
    obtain ⟨⟨d, db₁⟩, hupd, hret⟩ := bind_ok.mp h
    cases hret
    exact updateCertificateJobStatus_noBoundBorn hupd
  | reapExpiredLeases skip batch offlineAfterMs m => exact reapLoop_noBoundBorn _ h
  | sweepOverdueTrustInstallations skip limit maxAgeMs delayMs =>
    cases h
    exact .of_jobs (sweepInstallations_jobs _)

/-! ## §7. A job across moves. -/

theorem Moves.spec_forward (h : Moves R db db') (hwf : WellFormed db) {j : JobRow}
    (hj : j ∈ db.jobs) : ∃ j' ∈ db'.jobs, j'.toJobSpec = j.toJobSpec := by
  have hkept := h.invariant
    (I := fun x => WellFormed x ∧ ∃ j' ∈ x.jobs, j'.toJobSpec = j.toJobSpec) ?_ ⟨hwf, j, hj, rfl⟩
  · exact hkept.2
  · intro a b ha hm
    obtain ⟨hwf, j₁, hj₁, hspec⟩ := ha
    refine ⟨hm.wellFormed hwf, ?_⟩
    obtain ⟨j₂, hj₂, rfl | hstep⟩ := hm.job_forward hwf hj₁
    · exact ⟨j₂, hj₂, hspec⟩
    · exact ⟨j₂, hj₂, hstep.spec.trans hspec⟩

theorem live_origin (hwf : WellFormed db) (hborn : NoBoundBorn db db') (hmoves : Moves R db db')
    {j' : JobRow} (hj' : j' ∈ db'.jobs) (hbound : j'.enrollmentId ≠ none)
    (hlive : isTerminalJobStatus j'.status = false) :
    ∃ j ∈ db.jobs, j.toJobSpec = j'.toJobSpec ∧ isTerminalJobStatus j.status = false := by
  obtain ⟨j, hj, hspec⟩ := hborn j' hj' hbound
  refine ⟨j, hj, hspec, ?_⟩
  -- An ended row stays as it is, so a row that is live now has never ended.
  by_contra hend
  have hstays := hmoves.terminal_stays hwf hj (by simpa using hend)
  have hid : j.id = j'.id := congrArg JobSpec.id hspec
  obtain rfl := (hmoves.wellFormed hwf).jobs.key.eq_of_mem hstays hj' hid
  exact hend hlive

end TokenTimer.CertOps
