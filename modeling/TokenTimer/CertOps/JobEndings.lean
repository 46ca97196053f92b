/-
  TokenTimer.CertOps.JobEndings — which calls END a job.

  A job that waits or runs stays so unless a call ends it.  `MayEnd` says, from
  the call's inputs and the tables before it, which calls those are: a result
  of its claim, the reaper, a rejection, a status update, the fence of a forced
  retirement, and every write at which the management guard cancels the job.

  Main results:
    * `updateJob_live` — one UPDATE that neither ends the job nor lets the
        management guard cancel it.
    * `exec_live` — a call that may not end a live job leaves it live.
-/

import TokenTimer.CertOps.SystemRefinement

namespace TokenTimer.CertOps

open Lib.Table

variable {env : Env} {db db' : Db}

/-! ## §1. A write of a job. -/

/-- The management guard cancels the job instead of writing the status. -/
def periodCancels (m : Management) (job : JobRow) (status : JobStatus) : Bool :=
  (job.subjectType = some .managedCertificate : Bool) && job.managementPeriodId.isSome &&
  !m.boundContinuation && (!m.periodFound || m.periodEnded) &&
  !(m.periodFound && alreadyStarted (some job) && m.endedByRetirement &&
    (job.mode = .dryRun ∨ ¬ (job.operation ∈
      [.renew, .deploy, .deployFromStore, .reload, .continueEnrollment]) : Bool)) &&
  !(alreadyStarted (some job) && (status = .claimed ∨ status = .running : Bool))

variable {agent : AgentIdentity} {j job row : JobRow} {set : JobRow → JobRow}
  {mgmt : JobRow → Management} {m : Management}

theorem periodCancels_inFlight {status : JobStatus} (hstarted : job.status.inFlight = true)
    (hstatus : status.inFlight = true) :
    periodCancels m job status = false := by
  have hold : alreadyStarted (some job) = true := hstarted
  have hnew : decide (status = .claimed ∨ status = .running) = true := hstatus
  unfold periodCancels
  rw [hold, hnew]
  simp

variable {now id maxAgeMs delayMs : Nat} {old new : JobRow} {out : Option JobRow}
    {reads : ClaimReads} {sequence : Option Nat} {alive : Bool} {o : TrustJobOptions}
    {d : TransitionDecision} {ctx : TrustContext} {locked : InstallationRow} {reply : TrustJobReply}

theorem guardManagementJobClaim_status {out : JobRow} (hspec : new.toJobSpec = old.toJobSpec)
    (hquiet : periodCancels m old new.status = false)
    (h : guardManagementJobClaim m now (some old) new = .ok out) : out.status = new.status := by
  have hsubject : new.subjectType = old.subjectType := congrArg JobSpec.subjectType hspec
  have hperiod : new.managementPeriodId = old.managementPeriodId :=
    congrArg JobSpec.managementPeriodId hspec
  have hmode : new.mode = old.mode := congrArg JobSpec.mode hspec
  have hop : new.operation = old.operation := congrArg JobSpec.operation hspec
  unfold guardManagementJobClaim at h
  split at h
  · rw [← Except.ok.inj h]
  rename_i hmanaged
  split at h
  · rw [← Except.ok.inj h]
  split at h
  · rw [← Except.ok.inj h]
  rename_i hbound
  split at h
  · rw [← Except.ok.inj h]
  rename_i hretired
  split at h
  · rename_i hclosed
    split at h
    · rw [← Except.ok.inj h]
      rfl
    · -- Every conjunct of `periodCancels` has been passed.
      rename_i hstart
      exfalso
      rw [not_or, not_not, hsubject, hperiod] at hmanaged
      rw [hmode, hop] at hretired
      unfold periodCancels at hquiet
      rw [Bool.eq_false_iff.mpr hbound, hclosed, Bool.eq_false_iff.mpr hretired,
        Bool.eq_false_iff.mpr hstart, decide_eq_true hmanaged.1,
        Option.isSome_iff_ne_none.mpr hmanaged.2] at hquiet
      cases hquiet
  split at h
  · rw [← Except.ok.inj h]
  split at h
  · cases h
  · rw [← Except.ok.inj h]

theorem jobTriggers_status {out : JobRow} (hspec : new.toJobSpec = old.toJobSpec)
    (hquiet : periodCancels m old new.status = false)
    (h : jobTriggers m now (some old) new = .ok out) :
    out.status = new.status := by
  obtain ⟨mid, hmid, hout⟩ := bind_ok.mp h
  obtain ⟨flag, reason, rfl⟩ := guardJobIdentityStart_ok hmid
  refine (guardManagementJobClaim_status ?_ ?_ hout).trans rfl
  · exact hspec
  · exact hquiet

def LiveJob (id : Nat) (db : Db) : Prop :=
  ∃ j ∈ db.jobs, j.id = id ∧ isTerminalJobStatus j.status = false

theorem LiveJob.of_mem (hj : j ∈ db.jobs) (hlive : isTerminalJobStatus j.status = false) :
    LiveJob j.id db :=
  ⟨j, hj, rfl, hlive⟩

/-- **A WRITE THAT DOES NOT END THE JOB** leaves it live. -/
theorem updateJob_live (hwf : WellFormed db) (hj : j ∈ db.jobs)
    (hspec : (set j).toJobSpec = j.toJobSpec) (hlive : isTerminalJobStatus (set j).status = false)
    (hquiet : periodCancels (mgmt j) j (set j).status = false)
    (h : updateJob mgmt j.id set db = .ok (out, db')) : LiveJob j.id db' := by
  unfold updateJob at h
  rw [jobById_of_mem hwf hj] at h
  obtain ⟨new, htrig, hret⟩ := bind_ok.mp h
  cases hret
  have hstatus : new.status = (set j).status := jobTriggers_status hspec hquiet htrig
  have hid : new.id = j.id := congrArg JobSpec.id ((jobTriggers_ok htrig).spec.trans hspec)
  refine ⟨new, ?_, hid, by rw [hstatus]; exact hlive⟩
  exact mem_updateWhere.mpr ⟨j, hj, by simp⟩

/-- A write of another job leaves the row alone. -/
theorem updateJob_other (hj : j ∈ db.jobs) (hne : j.id ≠ id)
    (h : updateJob mgmt id set db = .ok (out, db')) : j ∈ db'.jobs := by
  obtain ⟨-, rfl, -⟩ | ⟨old, new, -, -, -, rfl⟩ := updateJob_ok h
  · exact hj
  · exact mem_updateWhere.mpr ⟨j, hj, by simp [hne]⟩

theorem updateJob_now (h : updateJob mgmt id set db = .ok (out, db')) :
    db'.now = db.now := by
  obtain ⟨-, rfl, -⟩ | ⟨old, new, -, -, -, rfl⟩ := updateJob_ok h
  · rfl
  · rfl

/-! ## §2. Which calls may end a job. -/

def claimEnds (env : Env) (reads : ClaimReads) (job : JobRow) : Bool :=
  claimGates reads job &&
    (isTrustAnchorOperation job.operation ||
      (job.operation = .deploy : Bool) && !reads.deployCertAvailable job ||
      periodCancels (reads.management job) job
        (if approvalStale env job then .pendingApproval else .claimed))

def reapEnds (env : Env) (m : Management) (now : Nat) (alive : Bool) (job : JobRow) : Bool :=
  !(alive && !pastHardGrace now (leaseHardGraceMs env.timing) job) &&
    (!hasRetryBudget job || periodCancels m job .pending)

/-- THE CALLS THAT MAY END A LIVE JOB, by their inputs and the tables they find. -/
def MayEnd (env : Env) (db : Db) (job : JobRow) : Call → Prop
  | .retireAgent _ agent force _ _ =>
    force = true ∧ (job ∈ fenceSelect agent .claimed db ∨ job ∈ fenceSelect agent .running db)
  | .approveJob ws id _ _ m =>
    loadPendingApproval ws id db = .ok job ∧ periodCancels (m job) job .pending = true
  | .rejectJob ws id _ _ => loadPendingApproval ws id db = .ok job
  | .claimJobs agent sequence caps maxJobs reads =>
    ∃ db₀, beginClaim env agent sequence caps reads db = .ok (true, db₀) ∧
      job ∈ selectClaimable agent (agentKindOf db₀ agent.id) caps reads (claimLimit maxJobs) db₀ ∧
      claimEnds env reads job = true
  | .ingestResult agent _ body _ =>
    lockClaim agent body db = .ok job ∧
      (consumeNonce body.nonce body.jobId agent.workspaceId agent.id db).1 = .consumed
  | .updateCertificateJobStatus o first second m =>
    db.jobOf o.workspaceId o.jobId = some job ∧ (job.status = first ∨ job.status = second) ∧
      (isTerminalJobStatus o.status = true ∨ periodCancels (m job) job o.status = true)
  | .reapExpiredLeases skip batch offlineAfterMs m =>
    ∃ alive, (job, alive) ∈ selectExpired skip batch offlineAfterMs db ∧
      reapEnds env (m job) db.now alive job = true
  | _ => False

/-! ## §3. The claim. -/

theorem claimRow_live (hwf : WellFormed db) {out : Option Dispatched} (hrow : row ∈ db.jobs)
    (hlive : isTerminalJobStatus row.status = false) (hquiet : claimEnds env reads row = false)
    (h : claimRow env agent reads row db = .ok (out, db')) :
    LiveJob row.id db' := by
  unfold claimRow at h
  split at h
  · cases h
    exact .of_mem hrow hlive
  rename_i hgates
  have hgate : claimGates reads row = true := by simpa using hgates
  simp only [claimEnds, hgate, Bool.true_and, Bool.or_eq_false_iff] at hquiet
  obtain ⟨⟨htrust, hdeploy⟩, hperiod⟩ := hquiet
  -- The revalidation is about trust jobs only.
  have hallow : revalidateTrustJobForDispatch row db = (.allow none none, db) := by
    unfold revalidateTrustJobForDispatch
    rw [htrust]
    rfl
  rw [hallow] at h
  dsimp only at h
  unfold claimRevalidated at h
  by_cases hstale : approvalStale env row = true
  · rw [if_pos hstale] at h hperiod
    obtain ⟨⟨written, db₁⟩, hupd, hret⟩ := bind_ok.mp h
    cases hret
    exact updateJob_live hwf hrow rfl rfl hperiod hupd
  rw [if_neg hstale] at h hperiod
  split at h
  · rename_i hblocked
    simp [hblocked.1, hblocked.2] at hdeploy
  · simp only [claimAndSign, bind_ok] at h
    obtain ⟨⟨written, db₁⟩, hupd, h⟩ := h
    have hdraw : Move (Regime.free env) db { db with nextId := db.nextId + 2 } :=
      .frame le_rfl (Nat.le_add_right _ 2) rfl rfl rfl fun _ h => h
    have hkept : LiveJob row.id db₁ :=
      updateJob_live (hdraw.wellFormed hwf) hrow rfl rfl hperiod hupd
    dsimp only at h
    split at h
    · cases h
      exact hkept
    · simp only [bind_ok] at h
      obtain ⟨-, -, -, -, -, -, hret⟩ := h
      cases hret
      exact hkept

theorem claimLoop_live (rows : List JobRow) (hturns : Turns agent rows db) (hjob : job ∈ db.jobs)
    (hlive : isTerminalJobStatus job.status = false)
    (hquiet : job ∈ rows → claimEnds env reads job = false) {out : List Dispatched}
    (h : claimLoop env agent reads rows db = .ok (out, db')) : LiveJob job.id db' := by
  induction rows generalizing db out with
  | nil =>
    cases h
    exact .of_mem hjob hlive
  | cons first rows ih =>
    simp only [claimLoop, bind_ok] at h
    obtain ⟨⟨signed, db₁⟩, hfirst, ⟨rest, db₂⟩, hloop, hret⟩ := h
    cases hret
    obtain ⟨hstep, hlater, hapart⟩ := hturns.turn (Regime.free_timed env) hfirst
    by_cases hid : job.id = first.id
    · obtain rfl := hturns.wf.jobs.key.eq_of_mem hjob (hturns.row first List.mem_cons_self).1 hid
      obtain ⟨job', hjob', hid', hlive'⟩ : LiveJob job.id db₁ :=
        claimRow_live hturns.wf hjob hlive (hquiet List.mem_cons_self) hfirst
      exact ⟨job', claimLoop_others (Regime.free_timed env) rows hlater hjob'
        (fun r hr hsame => hapart r hr (hsame.trans hid')) hloop, hid', hlive'⟩
    · exact ih hlater (hstep.others job hjob hid)
        (fun hmem => hquiet (List.mem_cons_of_mem _ hmem)) hloop

theorem claimJobs_live (hwf : WellFormed db) {caps : AgentCaps} {maxJobs : Nat}
    (hjob : job ∈ db.jobs) (hlive : isTerminalJobStatus job.status = false)
    (hquiet : ¬ MayEnd env db job (.claimJobs agent sequence caps maxJobs reads))
    {out : List Dispatched}
    (h : claimJobs env agent sequence caps maxJobs reads db = .ok (out, db')) :
    LiveJob job.id db' := by
  simp only [claimJobs, bind_ok] at h
  obtain ⟨⟨proceed, db₀⟩, hbegin, h⟩ := h
  have hmove : Move (Regime.free env) db db₀ := beginClaim_move hbegin
  have hwf₀ := hmove.wellFormed hwf
  have hjob₀ : job ∈ db₀.jobs := by
    rw [beginClaim_jobs hbegin]
    exact hjob
  cases proceed with
  | true =>
    refine claimLoop_live _ (selectClaimable_spec agent _ caps reads _ hwf₀) hjob₀ hlive ?_ h
    intro hmem
    by_contra hends
    exact hquiet ⟨db₀, hbegin, hmem, by simpa using hends⟩
  | false =>
    cases h
    exact .of_mem hjob₀ hlive

/-! ## §4. The reaper and the fence. -/

theorem reapRow_now {graceMs : Nat} (h : reapRow mgmt graceMs alive row db = .ok db') :
    db'.now = db.now := by
  unfold reapRow at h
  split at h
  · cases h
    rfl
  split at h
  · obtain ⟨⟨written, db₁⟩, hupd, hret⟩ := bind_ok.mp h
    cases hret
    exact updateJob_now hupd
  split at h
  · obtain ⟨⟨written, db₁⟩, hupd, hret⟩ := bind_ok.mp h
    cases hret
    exact updateJob_now hupd
  · obtain ⟨⟨written, db₁⟩, hupd, hret⟩ := bind_ok.mp h
    cases hret
    have hnow : db₁.now = db.now := updateJob_now hupd
    rw [onTrustJobTerminalTransition_eq]
    exact hnow

theorem reapRow_live (hwf : WellFormed db) (hrow : row ∈ db.jobs)
    (hlive : isTerminalJobStatus row.status = false)
    (hquiet : reapEnds env (mgmt row) db.now alive row = false)
    (h : reapRow mgmt (leaseHardGraceMs env.timing) alive row db = .ok db') :
    LiveJob row.id db' := by
  unfold reapRow at h
  split at h
  · cases h
    exact .of_mem hrow hlive
  rename_i hgrace
  have hdue : (alive && !pastHardGrace db.now (leaseHardGraceMs env.timing) row) = false := by
    simpa using hgrace
  simp only [reapEnds, hdue, Bool.not_false, Bool.true_and, Bool.or_eq_false_iff,
    Bool.not_eq_false'] at hquiet
  obtain ⟨hbudget, hperiod⟩ := hquiet
  rw [if_pos hbudget] at h
  obtain ⟨⟨written, db₁⟩, hupd, hret⟩ := bind_ok.mp h
  cases hret
  exact updateJob_live hwf hrow rfl rfl hperiod hupd

theorem reapExpiredLeases_live (hwf : WellFormed db) {skip : Nat → Bool} {batch offlineAfterMs : Nat}
    (hjob : job ∈ db.jobs) (hlive : isTerminalJobStatus job.status = false)
    (hquiet : ¬ MayEnd env db job (.reapExpiredLeases skip batch offlineAfterMs mgmt))
    (h : reapExpiredLeases env mgmt skip batch offlineAfterMs db = .ok db') :
    LiveJob job.id db' := by
  -- the rest of the turns leaves every job it does not name, and the job when its turn comes
  have hrun := reapExpiredLeases_induct
    (motive := fun rows db => (∀ j ∈ db.jobs, (∀ x ∈ rows, j.id ≠ x.1.id) → j ∈ db'.jobs) ∧
      (job ∈ db.jobs →
        (∀ alive, (job, alive) ∈ rows → reapEnds env (mgmt job) db.now alive job = false) →
        LiveJob job.id db')) ⟨fun _ hj _ => hj, fun hj _ => .of_mem hj hlive⟩ ?_ hwf h
  · refine hrun.2 hjob fun alive hx => ?_
    by_contra hends
    exact hquiet ⟨alive, hx, by simpa using hends⟩
  · intro row alive rows db db₁ hwf hmem hflight hapart hrow ih
    have hstep : RowStep (Regime.any 0) row db db₁ := reapRow_rowStep hwf hmem hflight hrow
    refine ⟨fun j hj hne => ?_, fun hjob hquiet => ?_⟩
    · rw [List.forall_mem_cons] at hne
      exact ih.1 j (hstep.others j hj hne.1) hne.2
    by_cases hid : job.id = row.id
    · obtain rfl := hwf.jobs.key.eq_of_mem hjob hmem hid
      obtain ⟨job', hjob', hid', hlive'⟩ : LiveJob job.id db₁ :=
        reapRow_live hwf hjob hlive (hquiet alive List.mem_cons_self) hrow
      exact ⟨job', ih.1 job' hjob' fun x hx hsame => hapart x hx (hsame.symm.trans hid'), hid', hlive'⟩
    · refine ih.2 (hstep.others job hjob hid) fun alive hmem => ?_
      rw [reapRow_now hrow]
      exact hquiet alive (List.mem_cons_of_mem _ hmem)

theorem fenceLoop_others (rows : List JobRow) (hjob : job ∈ db.jobs) (hne : ∀ r ∈ rows, job.id ≠ r.id)
    (h : fenceLoop mgmt set rows db = .ok db') : job ∈ db'.jobs ∧ db'.now = db.now := by
  induction rows generalizing db with
  | nil =>
    cases h
    exact ⟨hjob, rfl⟩
  | cons row rows ih =>
    obtain ⟨⟨written, db₁⟩, hupd, hloop⟩ := bind_ok.mp h
    rw [List.forall_mem_cons] at hne
    obtain ⟨hmem, hnow⟩ := ih (updateJob_other hjob hne.1 hupd) hne.2 hloop
    exact ⟨hmem, hnow.trans (updateJob_now hupd)⟩

theorem fenceUnwind_jobs (rows : List JobRow) : (fenceUnwind rows db).jobs = db.jobs := by
  induction rows generalizing db with
  | nil => rfl
  | cons row rows ih =>
    unfold fenceUnwind
    rw [ih, onTrustJobTerminalTransition_jobs]

theorem retireAgent_live (hwf : WellFormed db) {ws agent : Nat} {force : Bool} {reason : String}
    (hjob : job ∈ db.jobs) (hlive : isTerminalJobStatus job.status = false)
    (hquiet : ¬ MayEnd env db job (.retireAgent ws agent force reason mgmt))
    (h : retireAgent mgmt ws agent force reason db = .ok db') : LiveJob job.id db' := by
  unfold retireAgent at h
  split at h
  · rename_i hforce
    obtain ⟨db₁, hfence, hret⟩ := bind_ok.mp h
    cases hret
    simp only [fenceAgentInFlightWork, bind_ok] at hfence
    obtain ⟨db₂, hcancel, db₃, horphan, hret⟩ := hfence
    cases hret
    -- Neither UPDATE matches the row: the second sees it as the first did.
    have hfirst : ∀ r ∈ fenceSelect agent .claimed db, job.id ≠ r.id := by
      intro r hr hid
      obtain rfl := hwf.jobs.key.eq_of_mem hjob (List.mem_filter.mp hr).1 hid
      exact hquiet ⟨hforce, .inl hr⟩
    obtain ⟨hjob₂, hnow⟩ := fenceLoop_others _ hjob hfirst hcancel
    have hmoves : Moves (Regime.any 0) db db₂ := by
      obtain ⟨hnodup, hsel⟩ := fenceSelect_spec agent .claimed hwf
      exact (fenceLoop_moves _ _ hwf (fun r hr => (hsel r hr).1)
        (fun r hr => by rw [(hsel r hr).2]; rfl) (setFenceCancelled_ends reason db.now) hnodup
        hcancel).1
    have hwf₂ := hmoves.wellFormed hwf
    have hsecond : ∀ r ∈ fenceSelect agent .running db₂, job.id ≠ r.id := by
      intro r hr hid
      obtain ⟨hr₂, hmatch⟩ := List.mem_filter.mp hr
      obtain rfl := hwf₂.jobs.key.eq_of_mem hjob₂ hr₂ hid
      rw [hnow] at hmatch
      exact hquiet ⟨hforce, .inr (List.mem_filter.mpr ⟨hjob, hmatch⟩)⟩
    obtain ⟨hjob₃, -⟩ := fenceLoop_others _ hjob₂ hsecond horphan
    refine .of_mem ?_ hlive
    show job ∈ (fenceUnwind _ db₃).jobs
    rw [fenceUnwind_jobs]
    exact hjob₃
  · cases h
    exact .of_mem hjob hlive

/-! ## §5. The other writers. -/

theorem ingestResult_live (hwf : WellFormed db) {body : ResultBody} {reads : ResultReads}
    {reply : ResultReply} (hjob : job ∈ db.jobs) (hlive : isTerminalJobStatus job.status = false)
    (hquiet : ¬ MayEnd env db job (.ingestResult agent sequence body reads))
    (h : ingestResult env agent sequence body reads db = .ok (reply, db')) :
    LiveJob job.id db' := by
  obtain rfl | ⟨found, new, db₁, hacc, hsettle⟩ := ingestResult_ok hwf h
  · exact .of_mem hjob hlive
  obtain ⟨hfound, -, -⟩ := jobOf_some hacc.found
  obtain ⟨x, hx, ⟨n, hn, hopen⟩, agents, rfl⟩ := hacc.nonce
  refine .of_mem ?_ hlive
  rw [settleTrust_jobs hsettle]
  refine mem_replaceJob_other hjob ?_
  intro hid
  have hnewid : new.id = found.id := congrArg JobSpec.id hacc.spec
  obtain rfl := hwf.jobs.key.eq_of_mem hjob hfound (hid.trans hnewid)
  -- The job of the result is this one, under its claim and with an open nonce.
  refine hquiet ⟨?_, ?_⟩
  · unfold lockClaim
    rw [hacc.found]
    exact if_pos ⟨hacc.owner, hacc.claim⟩
  · unfold consumeNonce
    rw [hx]
    dsimp only
    rw [if_pos (List.any_eq_true.mpr ⟨n, hn, hopen⟩)]

theorem casJobStatus_live (hwf : WellFormed db) {o : UpdateStatusOptions} {found : JobRow}
    {seen : JobStatus} (hfound : found ∈ db.jobs) (hjob : job ∈ db.jobs)
    (hlive : isTerminalJobStatus job.status = false)
    (hquiet : found = job → job.status = seen → isTerminalJobStatus o.status = false ∧ periodCancels (mgmt job) job o.status = false)
    (h : casJobStatus mgmt o found seen db = .ok (some (d, db'))) : LiveJob job.id db' := by
  simp only [casJobStatus, bind_ok] at h
  obtain ⟨-, -, decision, -, h⟩ := h
  split at h
  · cases h
    exact .of_mem hjob hlive
  split at h
  · rename_i hseen
    obtain ⟨⟨written, db₁⟩, hupd, h⟩ := bind_ok.mp h
    cases h
    by_cases hid : job.id = found.id
    · obtain rfl := hwf.jobs.key.eq_of_mem hjob hfound hid
      obtain ⟨hst, hperiod⟩ := hquiet rfl hseen
      exact updateJob_live hwf hjob rfl hst hperiod hupd
    · exact .of_mem (updateJob_other hjob hid hupd) hlive
  · cases h

theorem updateCertificateJobStatus_live (hwf : WellFormed db) {o : UpdateStatusOptions}
    {first second : JobStatus} (hjob : job ∈ db.jobs)
    (hlive : isTerminalJobStatus job.status = false)
    (hquiet : ¬ MayEnd env db job (.updateCertificateJobStatus o first second mgmt))
    (h : updateCertificateJobStatus mgmt o first second db = .ok (d, db')) :
    LiveJob job.id db' := by
  simp only [updateCertificateJobStatus, bind_ok] at h
  obtain ⟨-, -, h⟩ := h
  split at h
  · cases h
  rename_i found hfound
  obtain ⟨hmem, -, -⟩ := jobOf_some hfound
  have hkeeps : ∀ seen, (job.status = seen → job.status = first ∨ job.status = second) →
      found = job → job.status = seen →
      isTerminalJobStatus o.status = false ∧ periodCancels (mgmt job) job o.status = false := by
    intro seen hread hsame hseen
    subst hsame
    constructor
    · by_contra hterm
      exact hquiet ⟨hfound, hread hseen, .inl (by simpa using hterm)⟩
    · by_contra hperiod
      exact hquiet ⟨hfound, hread hseen, .inr (by simpa using hperiod)⟩
  obtain ⟨out, hcas, h⟩ := bind_ok.mp h
  split at h
  · cases h
    exact casJobStatus_live hwf hmem hjob hlive (hkeeps first .inl) hcas
  obtain ⟨out₂, hcas₂, h⟩ := bind_ok.mp h
  split at h
  · cases h
    exact casJobStatus_live hwf hmem hjob hlive (hkeeps second .inr) hcas₂
  · cases h

theorem createCertificateJob_keeps {o : CreateJobOptions} {reads : CreateReads} {out : CreateJobOutcome}
    (h : createCertificateJob env o reads db = .ok (out, db')) (hjob : job ∈ db.jobs) : job ∈ db'.jobs := by
  have hawait : o.awaitsDryRun → (Regime.any 0).dryAwait := fun _ => trivial
  obtain ⟨-, rfl, -⟩ | ⟨-, -, -, -, rfl⟩ := createCertificateJob_ok h hawait
  · exact hjob
  · exact List.mem_append_left _ hjob

theorem dispatchTrustJob_keeps {reads : TrustReads}
    (h : dispatchTrustJob env o reads ctx locked db = .ok (reply, db')) (hjob : job ∈ db.jobs) :
    job ∈ db'.jobs := by
  simp only [dispatchTrustJob, bind_ok] at h
  obtain ⟨⟨outcome, db₁⟩, hcreate, h⟩ := h
  have hkept : job ∈ db₁.jobs := createCertificateJob_keeps hcreate hjob
  dsimp only at h
  split at h <;> cases h <;> exact hkept

theorem releaseReference_keeps (hjob : job ∈ db.jobs) :
    job ∈ (releaseReference o ctx locked db).2.jobs := by
  unfold releaseReference recordTrustReferenceRelease
  dsimp only
  split <;> exact hjob

theorem createTrustJob_keeps {reads : TrustReads}
    (h : createTrustJob env o reads db = .ok (reply, db')) (hjob : job ∈ db.jobs) :
    job ∈ db'.jobs := by
  obtain ⟨ctx, -, h⟩ := bind_ok.mp h
  unfold runCreateTrustJob at h
  split at h
  · split at h
    · unfold revokeTrust at h
      split at h
      · split at h
        · cases h
          exact hjob
        · cases h
      split at h
      · cases h
      split at h
      · cases h
        exact releaseReference_keeps hjob
      split at h
      · cases h
        exact releaseReference_keeps hjob
      · exact dispatchTrustJob_keeps h hjob
    · exact dispatchTrustJob_keeps h hjob
  · split at h
    · cases h
    · exact dispatchTrustJob_keeps h hjob

theorem sweepInstallation_jobs {row : InstallationRow} :
    (sweepInstallation maxAgeMs delayMs row db).jobs = db.jobs := by
  unfold sweepInstallation
  split
  · split
    · exact onTrustJobTerminalTransition_jobs
    split <;> rfl
  · split <;> rfl

theorem sweepInstallations_jobs (rows : List InstallationRow) :
    (rows.foldl (fun db row => sweepInstallation maxAgeMs delayMs row db) db).jobs = db.jobs := by
  induction rows generalizing db with
  | nil => rfl
  | cons row rows ih =>
    rw [List.foldl_cons, ih]
    exact sweepInstallation_jobs

/-! ## §6. Every call. -/

/-- **A JOB STAYS LIVE** through a call that may not end it. -/
theorem exec_live (hwf : WellFormed db) {call : Call} (hjob : job ∈ db.jobs)
    (hlive : isTerminalJobStatus job.status = false) (hquiet : ¬ MayEnd env db job call)
    (h : exec env call db = .ok db') : LiveJob job.id db' := by
  have hkept : job ∈ db'.jobs → LiveJob job.id db' := fun hmem => .of_mem hmem hlive
  cases call with
  | tick | registerAgent | markStaleAgents | sweepExpiredNonces =>
    cases h
    exact hkept hjob
  | setWorkspace row =>
    cases h
    apply hkept
    unfold setWorkspace
    split <;> exact hjob
  | heartbeat agent sequence =>
    simp only [exec, heartbeat, bind_ok] at h
    obtain ⟨-, -, agents, -, hret⟩ := h
    cases hret
    exact hkept hjob
  | retireAgent ws agent force reason m => exact retireAgent_live hwf hjob hlive hquiet h
  | createTrustAnchor req =>
    apply hkept
    simp only [exec, createTrustAnchor] at h
    split at h
    · split at h
      · cases h
      · cases h
        exact hjob
    · cases h
      exact hjob
  | retireTrustAnchor ws anchor =>
    apply hkept
    simp only [exec, retireTrustAnchor, bind_ok] at h
    obtain ⟨-, -, h⟩ := h
    split at h
    · cases h
    · cases h
      exact hjob
  | createCertificateJob o reads =>
    simp only [exec, createOtherJob, bind_ok] at h
    obtain ⟨-, -, ⟨out, db₁⟩, hcreate, hret⟩ := h
    cases hret
    exact hkept (createCertificateJob_keeps hcreate hjob)
  | createTrustJob o reads =>
    obtain ⟨⟨reply, db₁⟩, hcreate, hret⟩ := bind_ok.mp h
    cases hret
    exact hkept (createTrustJob_keeps hcreate hjob)
  | rewritePayload id payload =>
    cases h
    refine ⟨_, mem_updateWhere.mpr ⟨job, hjob, rfl⟩, ?_⟩
    split <;> exact ⟨rfl, hlive⟩
  | approveJob ws id approver review m =>
    simp only [exec, approveJob, bind_ok] at h
    obtain ⟨found, hload, -, -, -, -, ⟨written, db₁⟩, hupd, hret⟩ := h
    cases hret
    obtain ⟨hmem, -⟩ := loadPendingApproval_ok hload
    by_cases hid : job.id = found.id
    · obtain rfl := hwf.jobs.key.eq_of_mem hjob hmem hid
      refine updateJob_live hwf hjob rfl rfl ?_ hupd
      by_contra hperiod
      exact hquiet ⟨hload, (Bool.not_eq_false _).mp hperiod⟩
    · exact hkept (updateJob_other hjob hid hupd)
  | rejectJob ws id reason m =>
    simp only [exec, rejectJob, bind_ok] at h
    obtain ⟨found, hload, ⟨written, db₁⟩, hupd, hret⟩ := h
    cases hret
    obtain ⟨hmem, -⟩ := loadPendingApproval_ok hload
    apply hkept
    rw [onTrustJobTerminalTransition_jobs]
    refine updateJob_other hjob ?_ hupd
    intro hid
    obtain rfl := hwf.jobs.key.eq_of_mem hjob hmem hid
    exact hquiet hload
  | claimJobs agent sequence caps maxJobs reads =>
    simp only [exec, asAgent, bind_ok] at h
    obtain ⟨-, -, ⟨out, db₁⟩, hclaim, hret⟩ := h
    cases hret
    exact claimJobs_live hwf hjob hlive hquiet hclaim
  | renewJobLease agent id claim sequence reads =>
    simp only [exec, renewJobLease, bind_ok, require_ok] at h
    obtain ⟨-, -, agents, -, found, hlock, -, -, -, hflight, -, -, ⟨written, db₁⟩, hupd, -, -, hret⟩ := h
    cases hret
    obtain ⟨hmem, -⟩ := lockAgentJob_ok hlock
    have hframe : Move (Regime.any 0) db { db with agents := agents } :=
      .frame le_rfl le_rfl rfl rfl rfl fun _ h => h
    have hkept₁ : LiveJob job.id db₁ := by
      by_cases hid : job.id = found.id
      · obtain rfl := hwf.jobs.key.eq_of_mem hjob hmem hid
        exact updateJob_live (hframe.wellFormed hwf) hjob rfl rfl
          (periodCancels_inFlight hflight rfl) hupd
      · exact .of_mem (updateJob_other (show job ∈ Db.jobs { db with agents := agents } from hjob)
          hid hupd) hlive
    exact hkept₁
  | ingestResult agent sequence body reads =>
    simp only [exec, asAgent, bind_ok] at h
    obtain ⟨-, -, ⟨reply, db₁⟩, hresult, hret⟩ := h
    cases hret
    exact ingestResult_live hwf hjob hlive hquiet hresult
  | updateCertificateJobStatus o first second m =>
    obtain ⟨⟨d, db₁⟩, hupd, hret⟩ := bind_ok.mp h
    cases hret
    exact updateCertificateJobStatus_live hwf hjob hlive hquiet hupd
  | reapExpiredLeases skip batch offlineAfterMs m =>
    exact reapExpiredLeases_live hwf hjob hlive hquiet h
  | sweepOverdueTrustInstallations skip limit maxAgeMs delayMs =>
    cases h
    apply hkept
    unfold sweepOverdueTrustInstallations
    rw [sweepInstallations_jobs]
    exact hjob

end TokenTimer.CertOps
