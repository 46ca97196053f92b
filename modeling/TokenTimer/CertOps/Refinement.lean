/-
  TokenTimer.CertOps.Refinement — every transaction is a sequence of moves.

  Each service function is peeled once, here: from `exec env call db = .ok db'`
  on a well-formed database follows `Moves R db db'`, in any regime that permits
  the call.  No invariant proof unfolds a service function again.

  The decomposition may order the writes of a transaction differently from the
  source where they are on different tables: a job is ended BEFORE its reference
  is unwound, and a result ends its job and settles its reference in one move.

  Main results:
    * `updateJob_move` — a triggered UPDATE of a live job is a step of it.
    * `unwind_moves` — unwinding an ended job.
-/

import TokenTimer.CertOps.Moves

namespace TokenTimer.CertOps

open Lib.Table

variable {R : Regime} {env : Env} {db db' : Db}

/-! ## §1. Rows and lookups. -/

variable {opts : CreateJobOptions} {reads : CreateReads} {row : InstallationRow}
  {operation : JobOperation} {j new : JobRow} {mgmt : JobRow → Management} {status : JobStatus}
  {id now ws : Nat}

theorem jobById_some (h : db.jobById id = some j) :
    j ∈ db.jobs ∧ j.id = id := by
  obtain ⟨hj, hp⟩ := selectOne_some h
  exact ⟨hj, by simpa using hp⟩

theorem jobOf_some (h : db.jobOf ws id = some j) :
    j ∈ db.jobs ∧ j.workspaceId = ws ∧ j.id = id := by
  obtain ⟨hj, hp⟩ := selectOne_some h
  exact ⟨hj, by simpa using hp⟩

theorem jobById_of_mem (hwf : WellFormed db) (hj : j ∈ db.jobs) :
    db.jobById j.id = some j :=
  hwf.jobs.key.selectOne_eq hj

theorem installationOfJob_some (h : db.installationOfJob ws id = some row) :
    row ∈ db.installations ∧ row.workspaceId = ws ∧ row.lastJobId = some id := by
  obtain ⟨hr, hp⟩ := selectOne_some h
  exact ⟨hr, by simpa using hp⟩

theorem updateInstallation_eq (hwf : WellFormed db) (hrow : row ∈ db.installations)
    {f : InstallationRow → InstallationRow} (hf : (f row).id = row.id) :
    updateInstallation row.id f db =
      { db with installations := replaceRow (f row) db.installations } := by
  unfold updateInstallation replaceRow
  rw [← updateWhere_eq_replaceByKey hwf.rows.key hrow hf]

/-! ## §2. One UPDATE of a live job is a step. -/

variable {old : Option JobRow} {out job : JobRow} {set : JobRow → JobRow} {kind : ExecutorKind}

theorem Triggered.spec (h : Triggered now old new out) :
    out.toJobSpec = new.toJobSpec := by
  cases h <;> rfl

theorem Triggered.status_claim (h : Triggered now old new out) :
    (out.status = new.status ∧ out.claim = new.claim) ∨
      (out.status = .cancelled ∧ out.claimId = none ∧ isTerminalJobStatus new.status = false ∧
        (alreadyStarted old = true → ¬ (new.status = .claimed ∨ new.status = .running))) := by
  cases h with
  | kept => exact .inl ⟨rfl, rfl⟩
  | cancelled flag reason hactive hstart => exact .inr ⟨rfl, rfl, hactive, hstart⟩

def JobStatus.modeFree (status : JobStatus) : Bool :=
  status ≠ .succeeded && status ≠ .dryRunComplete && status ≠ .awaitingIssuer

theorem modeAllows_of_free {mode : JobMode} (h : status.modeFree = true) :
    ModeAllows R mode status := by
  simp only [JobStatus.modeFree, Bool.and_eq_true, decide_eq_true_eq, ne_eq] at h
  exact ⟨fun _ => h.1.1, fun _ => h.1.2, fun _ hs => absurd hs h.2⟩

theorem updateJob_of_mem (hwf : WellFormed db) (hj : j ∈ db.jobs)
    (hspec : (set j).toJobSpec = j.toJobSpec) {out : Option JobRow}
    (h : updateJob mgmt j.id set db = .ok (out, db')) :
    ∃ new, out = some new ∧ Triggered db.now (some j) (set j) new ∧ new.id = j.id ∧
      new.toJobSpec = j.toJobSpec ∧ db' = { db with jobs := replaceJob new db.jobs } := by
  obtain ⟨-, -, hnone⟩ | ⟨old, new, hold, hout, htrig, hdb⟩ := updateJob_ok h
  · rw [jobById_of_mem hwf hj] at hnone
    cases hnone
  · rw [jobById_of_mem hwf hj] at hold
    cases hold
    have hnew : new.toJobSpec = j.toJobSpec := htrig.spec.trans hspec
    have hid : new.id = j.id := congrArg JobSpec.id hnew
    refine ⟨new, hout, htrig, hid, hnew, ?_⟩
    rw [hdb, replaceJob, replaceByKey, hid]

structure LiveSet (R : Regime) (j new : JobRow) : Prop where
  spec : new.toJobSpec = j.toJobSpec
  forward : j.status = .running → new.status = .running ∨ isTerminalJobStatus new.status = true
  allowed : ModeAllows R j.mode new.status

/-- An UPDATE that ends the job. -/
theorem LiveSet.of_end (hspec : new.toJobSpec = j.toJobSpec)
    (hend : isTerminalJobStatus new.status = true) (hmode : ModeAllows R j.mode new.status) :
    LiveSet R j new :=
  ⟨hspec, fun _ => .inr hend, hmode⟩

theorem LiveSet.of_waiting (hspec : new.toJobSpec = j.toJobSpec) (hwait : j.status ≠ .running)
    (hmode : ModeAllows R j.mode new.status) : LiveSet R j new :=
  ⟨hspec, fun hr => absurd hr hwait, hmode⟩

theorem LiveSet.step (h : LiveSet R j new) (hlive : isTerminalJobStatus j.status = false)
    (htrig : Triggered now (some j) new out) :
    JobStep R j out := by
  obtain ⟨hst, -⟩ | ⟨hst, -, -, -⟩ := htrig.status_claim
  · exact ⟨htrig.spec.trans h.spec, hlive, hst ▸ h.forward, hst ▸ h.allowed⟩
  · refine ⟨htrig.spec.trans h.spec, hlive, fun _ => .inr (by rw [hst]; rfl), ?_⟩
    rw [hst]
    exact modeAllows_of_free rfl

/-- **A TRIGGERED UPDATE OF A LIVE JOB IS A STEP OF IT**, when the new row keeps
    the claim, gives it up, or ends. -/
theorem updateJob_move (hwf : WellFormed db) (hj : j ∈ db.jobs)
    (hlive : isTerminalJobStatus j.status = false) (hset : LiveSet R j (set j))
    (hclaim : (set j).claim = j.claim ∨ (set j).claimId = none ∨ (isTerminalJobStatus (set j).status = true ∧ (set j).claimId = j.claimId))
    {out : Option JobRow} (h : updateJob mgmt j.id set db = .ok (out, db')) :
    ∃ new, new.id = j.id ∧ db' = { db with jobs := replaceJob new db.jobs } ∧ Move R db db' ∧
      (isTerminalJobStatus (set j).status = true → isTerminalJobStatus new.status = true) := by
  obtain ⟨new, -, htrig, hid, -, rfl⟩ := updateJob_of_mem hwf hj hset.spec h
  refine ⟨new, hid, rfl, .job hj (hset.step hlive htrig) (.keep db.nextId le_rfl ?_), ?_⟩
  · obtain ⟨hst, hcl⟩ | ⟨-, hnone, -, -⟩ := htrig.status_claim
    · have hcid : new.claimId = (set j).claimId := congrArg Prod.fst hcl
      rw [hcl, hcid, hst]
      exact hclaim
    · exact .inr (.inl hnone)
  · intro hend
    obtain ⟨hst, -⟩ | ⟨hst, -, -, -⟩ := htrig.status_claim
    · rw [hst]
      exact hend
    · rw [hst]
      rfl

theorem mem_replaceJob_self (hj : j ∈ db.jobs) (hid : new.id = j.id) :
    new ∈ replaceJob new db.jobs :=
  mem_replaceByKey.mpr (.inr ⟨rfl, j, hj, hid.symm⟩)

theorem mem_replaceJob_other {x : JobRow} (hx : x ∈ db.jobs) (hne : x.id ≠ new.id) :
    x ∈ replaceJob new db.jobs :=
  mem_replaceByKey.mpr (.inl ⟨hx, hne⟩)

/-! ## §3. Unwinding. -/

theorem unwindInstallation_moves (hwf : WellFormed db) (hj : j ∈ db.jobs)
    (hend : isTerminalJobStatus j.status = true) (hrow : row ∈ db.installations)
    (hlast : row.lastJobId = some j.id) :
    Moves R db (unwindInstallation status row db).2 := by
  cases hstate : row.transitionState with
  | pendingInstall =>
    simp only [unwindInstallation, hstate]
    exact .single (.unwindDelete row j hrow hj hend hlast hstate)
  | pendingRemove =>
    simp only [unwindInstallation, hstate]
    rw [updateInstallation_eq hwf hrow rfl]
    exact .single (.unwindRevert row _ j hrow hj hend hlast hstate
      ⟨⟨rfl, rfl, rfl⟩, rfl, rfl, rfl⟩)
  | installed | removed =>
    simp only [unwindInstallation, hstate]
    exact .refl db

/-- **UNWINDING AN ENDED JOB** is at most one move. -/
theorem unwind_moves (hwf : WellFormed db) (hj : j ∈ db.jobs)
    (hend : isTerminalJobStatus j.status = true) :
    Moves R db (onTrustJobTerminalTransition operation status ws j.id db) := by
  unfold onTrustJobTerminalTransition unwindTerminalTrustJob
  split
  · exact .refl db
  split
  · exact .refl db
  split
  · exact .refl db
  · rename_i row hfound
    obtain ⟨hrow, -, hlast⟩ := installationOfJob_some hfound
    exact unwindInstallation_moves hwf hj hend hrow hlast

theorem onTrustJobTerminalTransition_jobs :
    (onTrustJobTerminalTransition operation status ws id db).jobs = db.jobs := by
  unfold onTrustJobTerminalTransition unwindTerminalTrustJob
  split
  · rfl
  split
  · rfl
  split
  · rfl
  · unfold unwindInstallation
    split <;> rfl

/-- Unwinding reads and writes the references only. -/
theorem onTrustJobTerminalTransition_with_jobs {jobs : List JobRow} :
    onTrustJobTerminalTransition operation status ws id { db with jobs := jobs } =
      { onTrustJobTerminalTransition operation status ws id db with jobs := jobs } := by
  unfold onTrustJobTerminalTransition unwindTerminalTrustJob
  split
  · rfl
  split
  · rfl
  have hfind : ({ db with jobs := jobs } : Db).installationOfJob ws id =
      db.installationOfJob ws id := rfl
  rw [hfind]
  split
  · rfl
  · unfold unwindInstallation
    split <;> rfl

/-! ## §4. Approval decisions. -/

theorem loadPendingApproval_ok (h : loadPendingApproval ws id db = .ok job) :
    job ∈ db.jobs ∧ job.status = .pendingApproval := by
  unfold loadPendingApproval at h
  split at h
  · cases h
  · rename_i j hfound
    split at h
    · cases h
    · rename_i hst
      cases h
      exact ⟨(jobOf_some hfound).1, not_not.mp hst⟩

theorem approveJob_moves (hwf : WellFormed db) {u : Nat} {review : Option ServiceError}
    (h : approveJob env mgmt ws id u review db = .ok db') :
    Moves R db db' := by
  simp only [approveJob, bind_ok, require_ok] at h
  obtain ⟨job, hload, -, -, -, -, ⟨out, db₁⟩, hupd, hret⟩ := h
  cases hret
  obtain ⟨hj, hst⟩ := loadPendingApproval_ok hload
  have hset : LiveSet R job (setApproved env u db.now job) :=
    .of_waiting rfl (by simp [hst]) (modeAllows_of_free rfl)
  obtain ⟨new, -, -, hmove, -⟩ := updateJob_move hwf hj (by rw [hst]; rfl) hset (.inl rfl) hupd
  exact .single hmove

theorem rejectJob_moves (hwf : WellFormed db) {reason : Option String}
    (h : rejectJob mgmt ws id reason db = .ok db') : Moves R db db' := by
  simp only [rejectJob, bind_ok] at h
  obtain ⟨job, hload, ⟨out, db₁⟩, hupd, hret⟩ := h
  cases hret
  obtain ⟨hj, hst⟩ := loadPendingApproval_ok hload
  have hset : LiveSet R job (setApprovalRejected reason db.now job) :=
    .of_end rfl rfl (modeAllows_of_free rfl)
  obtain ⟨new, hid, hdb, hmove, hend⟩ :=
    updateJob_move hwf hj (by rw [hst]; rfl) hset (.inl rfl) hupd
  -- The job has ended, so its reference may be unwound.
  have hnew : new ∈ db₁.jobs := by
    rw [hdb]
    exact mem_replaceJob_self hj hid
  rw [← hid]
  exact (Moves.single hmove).trans (unwind_moves (hmove.wellFormed hwf) hnew (hend rfl))

/-! ## §5. Creation of a job. -/

theorem resolveJobStatus_ok {forces : Bool} (h : resolveJobStatus opts forces = .ok status)
    (hawait : status = .awaitingIssuer) :
    opts.status = some .awaitingIssuer ∧ opts.enrollmentId.isSome = true := by
  simp only [resolveJobStatus, bind_ok, require_ok, decide_eq_true_eq] at h
  obtain ⟨-, -, -, hbound, hret⟩ := h
  have hst := Except.ok.inj hret
  rw [hst, hawait] at hbound
  refine ⟨?_, hbound.resolve_left fun hne => hne rfl⟩
  rw [hawait] at hst
  split at hst
  · cases hst
  · cases hopt : opts.status with
    | none =>
      rw [hopt, Option.getD_none] at hst
      split at hst <;> cases hst
    | some x =>
      rw [hopt, Option.getD_some] at hst
      rw [hst]

/-- The request is for a dry run that waits for its issuer from the start. -/
def CreateJobOptions.awaitsDryRun (opts : CreateJobOptions) : Prop :=
  normalizeJobMode opts = .dryRun ∧ opts.status = some .awaitingIssuer ∧
    opts.enrollmentId.isSome = true

/-- A creation that passed its validators has a status its mode allows. -/
theorem validateJobOptions_allows (h : validateJobOptions opts reads db = .ok (status, kind))
    (hawait : opts.awaitsDryRun → R.dryAwait) :
    ModeAllows R (normalizeJobMode opts) status := by
  simp only [validateJobOptions, bind_ok] at h
  obtain ⟨-, -, st, hst, -, -, -, -, -, -, _, hmode, k, -, hret⟩ := h
  cases hret
  obtain ⟨hdry, hreal⟩ := assertModeAllowsTerminalStatus_ok hmode
  exact ⟨hdry, hreal, fun hm hs => hawait ⟨hm, resolveJobStatus_ok hst hs⟩⟩

theorem insertJob_ok {m : Management} (h : insertJob env opts status kind m db = .ok (job, db'))
    (hmode : ModeAllows R (normalizeJobMode opts) status) :
    (∃ period, job.toJobSpec =
        (newJobRow env opts status kind period db.nextId db.now).toJobSpec) ∧
      NewJob R job ∧
      db' = { db with nextId := db.nextId + 1, jobs := db.jobs ++ [job] } := by
  simp only [insertJob, bind_ok] at h
  obtain ⟨period, -, new, htrig, hret⟩ := h
  cases hret
  have hspec := (jobTriggers_ok htrig).spec
  refine ⟨⟨period, hspec⟩, ?_, rfl⟩
  have hm : job.mode = normalizeJobMode opts := congrArg JobSpec.mode hspec
  obtain ⟨hst, hcl⟩ | ⟨hst, hnone, -, -⟩ := (jobTriggers_ok htrig).status_claim
  · refine ⟨congrArg Prod.fst hcl, ?_⟩
    rw [hm, hst]
    exact hmode
  · refine ⟨hnone, ?_⟩
    rw [hst]
    exact modeAllows_of_free rfl

theorem createCertificateJob_ok {out : CreateJobOutcome}
    (h : createCertificateJob env opts reads db = .ok (out, db'))
    (hawait : opts.awaitsDryRun → R.dryAwait) :
    (out.created = false ∧ db' = db ∧
      getJobByIdempotencyKey db opts.workspaceId opts.idempotencyKey = some out.job) ∨
    (out.created = true ∧
      getJobByIdempotencyKey db opts.workspaceId opts.idempotencyKey = none ∧
      (∃ status kind period, out.job.toJobSpec =
        (newJobRow env opts status kind period db.nextId db.now).toJobSpec) ∧
      NewJob R out.job ∧
      db' = { db with nextId := db.nextId + 1, jobs := db.jobs ++ [out.job] }) := by
  simp only [createCertificateJob, bind_ok] at h
  obtain ⟨⟨status, kind⟩, hval, h⟩ := h
  have hmode : ModeAllows R (normalizeJobMode opts) status := validateJobOptions_allows hval hawait
  simp only at h
  split at h
  · rename_i existing hfound
    split at h
    · cases h
      exact .inl ⟨rfl, rfl, hfound⟩
    · cases h
  · rename_i hfree
    obtain ⟨-, -, h⟩ := bind_ok.mp h
    obtain ⟨⟨job, db₁⟩, hins, hret⟩ := bind_ok.mp h
    cases hret
    obtain ⟨⟨period, hspec⟩, hnew, hdb⟩ := insertJob_ok hins hmode
    exact .inr ⟨rfl, hfree, ⟨status, kind, period, hspec⟩, hnew, hdb⟩

theorem createOtherJob_moves (h : createOtherJob env opts reads db = .ok db')
    (hawait : opts.awaitsDryRun → R.dryAwait) :
    Moves R db db' := by
  simp only [createOtherJob, bind_ok, require_ok] at h
  obtain ⟨-, hother, ⟨out, db₁⟩, hcreate, hret⟩ := h
  cases hret
  obtain ⟨-, rfl, -⟩ | ⟨-, -, ⟨status, kind, period, hspec⟩, hnew, rfl⟩ :=
    createCertificateJob_ok hcreate hawait
  · exact .refl _
  · have hid : out.job.id = db.nextId := congrArg JobSpec.id hspec
    have hop : out.job.operation = opts.operation := congrArg JobSpec.operation hspec
    refine .single (.create out.job hid hnew ?_)
    rw [hop]
    simpa using hother

end TokenTimer.CertOps
