/-
  TokenTimer.CertOps.TrustRelease — a released reference stays released.

  Every later step finds a reference through `last_job_id`.  A revoke that creates
  a job re-points it, so an older distribute is superseded.  A release WITHOUT a
  job only bumps the generation: an older distribute that has not ended is still
  the last job, is dispatched with the new generation and installs the reference.
  When it takes no such reference, a release is final.

  Main results:
    * `Superseded`, `Move.superseded` — no old distribute can act on the reference.
    * `release_final_unless_live_distribute` — dispatch, result, and every later
        state of a reference that was removed.
-/

import TokenTimer.CertOps.TrustUnwind

namespace TokenTimer.CertOps

open Lib.Table Lib.Runs

variable {R : Regime} {env : Env} {db db' : Db} {key : TrustTuple × String} {N : Nat}

/-! ## §1. Old jobs are superseded. -/

/-- The job is a distribute for the slot of a key, created since `N`. -/
structure LaterDistribute (N : Nat) (key : TrustTuple × String) (j : JobRow) : Prop where
  later : N ≤ j.id
  operation : j.operation = .distributeTrust
  workspace : j.workspaceId = key.1.workspaceId
  agent : j.assignedAgentId = some key.1.agentId

/-- NO OLD DISTRIBUTE ACTS ON THE REFERENCE: if its last job is a distribute that
    has not ended, that job was created since `N`. -/
structure Superseded (N : Nat) (key : TrustTuple × String) (db : Db) : Prop where
  counter : N ≤ db.nextId
  last : ∀ r ∈ db.installations, r.key = key → ∀ j ∈ db.jobs, r.lastJobId = some j.id →
    j.operation = .distributeTrust → isTerminalJobStatus j.status = false →
      LaterDistribute N key j

theorem LaterDistribute.step {j j' : JobRow} (h : LaterDistribute N key j)
    (hspec : j'.toJobSpec = j.toJobSpec) : LaterDistribute N key j' := by
  refine ⟨?_, ?_, ?_, ?_⟩
  · rw [show j'.id = j.id from congrArg JobSpec.id hspec]
    exact h.later
  · rw [show j'.operation = j.operation from congrArg JobSpec.operation hspec]
    exact h.operation
  · rw [show j'.workspaceId = j.workspaceId from congrArg JobSpec.workspaceId hspec]
    exact h.workspace
  · rw [show j'.assignedAgentId = j.assignedAgentId from congrArg JobSpec.assignedAgentId hspec]
    exact h.agent

variable {row row' : InstallationRow} {job : JobRow} {jobs : List JobRow} {nonces : List NonceRow}
  {id : Nat}

/-- The rule across a change of the jobs and of one reference that keeps its key
    and its last job. -/
theorem Superseded.of_rows {rows : List InstallationRow} (h : Superseded N key db)
    (hid : db.nextId ≤ id)
    (hrows : ∀ r ∈ rows, ∃ r₀ ∈ db.installations, r.key = r₀.key ∧ r.lastJobId = r₀.lastJobId)
    (hjobs : ∀ j ∈ jobs, ∃ j₀ ∈ db.jobs, j = j₀ ∨ JobStep R j₀ j) :
    Superseded N key
      { db with nextId := id, jobs := jobs, nonces := nonces, installations := rows } := by
  refine ⟨h.counter.trans hid, ?_⟩
  intro r hr hrkey j hj hlast hop hlive
  obtain ⟨r₀, hr₀, hkey₀, hlast₀⟩ := hrows r hr
  obtain ⟨j₀, hj₀, rfl | hstep⟩ := hjobs j hj
  · exact h.last r₀ hr₀ (hkey₀ ▸ hrkey) j hj₀ (hlast₀ ▸ hlast) hop hlive
  · refine (h.last r₀ hr₀ (hkey₀ ▸ hrkey) j₀ hj₀ ?_ ?_ hstep.live).step hstep.spec
    · rw [← hlast₀, hlast, show j.id = j₀.id from congrArg JobSpec.id hstep.spec]
    · rw [← hop]
      exact (congrArg JobSpec.operation hstep.spec).symm

theorem replaceRow_origin (hrow : row ∈ db.installations) (hsame : SameReference row row')
    (hlast : row'.lastJobId = row.lastJobId) :
    ∀ r ∈ replaceRow row' db.installations,
      ∃ r₀ ∈ db.installations, r.key = r₀.key ∧ r.lastJobId = r₀.lastJobId := by
  intro r hr
  obtain ⟨hr, -⟩ | ⟨rfl, -⟩ := mem_replaceByKey.mp hr
  · exact ⟨r, hr, rfl, rfl⟩
  · exact ⟨row, hrow, hsame.key, hlast⟩

theorem replaceJob_origin {j j' : JobRow} (hj : j ∈ db.jobs) (hstep : JobStep R j j') :
    ∀ x ∈ replaceJob j' db.jobs, ∃ x₀ ∈ db.jobs, x = x₀ ∨ JobStep R x₀ x := by
  intro x hx
  obtain ⟨hx, -⟩ | ⟨rfl, -⟩ := mem_replaceByKey.mp hx
  · exact ⟨x, hx, .inl rfl⟩
  · exact ⟨j, hj, .inr hstep⟩

theorem self_origin (jobs : List JobRow) :
    ∀ x ∈ jobs, ∃ x₀ ∈ jobs, x = x₀ ∨ JobStep R x₀ x :=
  fun x hx => ⟨x, hx, .inl rfl⟩

theorem self_rows (rows : List InstallationRow) :
    ∀ r ∈ rows, ∃ r₀ ∈ rows, r.key = r₀.key ∧ r.lastJobId = r₀.lastJobId :=
  fun r hr => ⟨r, hr, rfl, rfl⟩

theorem Superseded.append (h : Superseded N key db) (hwf : WellFormed db) (hid : job.id = db.nextId) :
    Superseded N key { db with nextId := db.nextId + 1, jobs := db.jobs ++ [job] } := by
  refine ⟨h.counter.trans (Nat.le_succ _), ?_⟩
  intro r hr hrkey j hj hlast hop hlive
  rw [List.mem_append, List.mem_singleton] at hj
  obtain hj | rfl := hj
  · exact h.last r hr hrkey j hj hlast hop hlive
  · have hlt := hwf.rows.lastFresh r hr j.id hlast
    omega

/-- **EVERY MOVE KEEPS OLD JOBS SUPERSEDED.** -/
theorem Move.superseded (h : Move R db db') (hwf : WellFormed db) (hs : Superseded N key db) :
    Superseded N key db' := by
  cases h with
  | frame hnow hid hjobs hnonces hrows hledger =>
    refine ⟨hs.counter.trans hid, ?_⟩
    rw [hrows, hjobs]
    exact hs.last
  | create job hid hnew hother => exact hs.append hwf hid
  | job hj hstep hnonce =>
    exact hs.of_rows (hnonce.keyed hj hwf).1 (self_rows _) (replaceJob_origin hj hstep)
  | sweep p hp =>
    exact hs.of_rows (R := R) le_rfl (self_rows _) (self_origin _)
  | addRow row hid hkey hstate hprov hlast =>
    refine ⟨hs.counter.trans (Nat.le_succ _), ?_⟩
    intro r hr hrkey j hj hlastj
    rw [List.mem_append, List.mem_singleton] at hr
    obtain hr | rfl := hr
    · exact hs.last r hr hrkey j hj hlastj
    · rw [hlast] at hlastj
      cases hlastj
  | trustJob row row' job hrow hid hnew hfor hadv hrevoke =>
    refine ⟨hs.counter.trans (Nat.le_succ _), ?_⟩
    intro r hr hrkey j hj hlast hop hlive
    obtain ⟨hr, hne⟩ | ⟨rfl, -⟩ := mem_replaceByKey.mp hr
    · exact (hs.append hwf hid).last r hr hrkey j hj hlast hop hlive
    · -- The reference now points at the new job.
      rw [hadv.lastJob] at hlast
      have hjid : job.id = j.id := Option.some.inj hlast
      rw [List.mem_append, List.mem_singleton] at hj
      obtain hj | rfl := hj
      · have hlt := hwf.jobs.fresh j hj
        omega
      · have hrow' : row.key = key := hadv.same.key.symm.trans hrkey
        refine ⟨hid ▸ hs.counter, hop, ?_, ?_⟩
        · rw [hfor.workspace, ← hrow']
          rfl
        · rw [hfor.agent, ← hrow']
          rfl
  | release _ _ hrow hrel | unwindRevert _ _ _ hrow _ _ _ _ hrel =>
    exact hs.of_rows (R := R) le_rfl (replaceRow_origin hrow hrel.same hrel.lastJob) (self_origin _)
  | settle row row' hj hflight hstep hend hnonce hrow hlast hset htrust hinstall =>
    exact hs.of_rows (hnonce.keyed hj hwf).1 (replaceRow_origin hrow hset.same hset.lastJob)
      (replaceJob_origin hj hstep)
  | unwindDelete row j hrow hj hend hlast hstate =>
    exact hs.of_rows (R := R) le_rfl
      (fun r hr => ⟨r, (mem_deleteWhere.mp hr).1, rfl, rfl⟩) (self_origin _)
  | note row row' hrow hnote =>
    exact hs.of_rows (R := R) le_rfl (replaceRow_origin hrow hnote.same hnote.lastJob)
      (self_origin _)

/-! ## §2. A removed reference. -/

def Removed (key : TrustTuple × String) (db : Db) : Prop :=
  ∃ r ∈ db.installations, r.key = key ∧ r.transitionState = .removed

/-- The reference is removed, or a later distribute was created for its slot. -/
def RemovedOrLater (N : Nat) (key : TrustTuple × String) (db : Db) : Prop :=
  Removed key db ∨ ∃ j ∈ db.jobs, LaterDistribute N key j

theorem Move.laterDistribute (h : Move R db db') (hwf : WellFormed db)
    (hex : ∃ j ∈ db.jobs, LaterDistribute N key j) : ∃ j ∈ db'.jobs, LaterDistribute N key j := by
  obtain ⟨j, hj, hlater⟩ := hex
  obtain ⟨j', hj', rfl | hstep⟩ := h.job_forward hwf hj
  · exact ⟨_, hj', hlater⟩
  · exact ⟨j', hj', hlater.step hstep.spec⟩

/-- A removed reference that another row's replacement does not touch. -/
theorem Removed.replace_other (hsame : SameReference row row') (hne : row.key ≠ key)
    (hwf : WellFormed db) (hrow : row ∈ db.installations) (h : Removed key db) :
    Removed key { db with
      nextId := id, jobs := jobs, nonces := nonces
      installations := replaceRow row' db.installations } := by
  obtain ⟨r, hr, hrkey, hstate⟩ := h
  refine ⟨r, mem_replaceByKey.mpr (.inl ⟨hr, ?_⟩), hrkey, hstate⟩
  intro hid
  have heq : r = row := hwf.rows.key.eq_of_mem hr hrow (hid.trans hsame.id)
  exact hne (heq ▸ hrkey)

theorem Removed.replace_self (hsame : SameReference row row') (hkey : row.key = key)
    (hrow : row ∈ db.installations) (hstate : row'.transitionState = .removed) :
    Removed key { db with
      nextId := id, jobs := jobs, nonces := nonces
      installations := replaceRow row' db.installations } :=
  ⟨row', mem_replaceByKey.mpr (.inr ⟨rfl, row, hrow, hsame.id.symm⟩), hsame.key.trans hkey, hstate⟩

theorem Removed.state (h : Removed key db) (hwf : WellFormed db) (hrow : row ∈ db.installations)
    (hkey : row.key = key) : row.transitionState = .removed := by
  obtain ⟨r, hr, hrkey, hstate⟩ := h
  rw [← hwf.rows.unique.eq_of_mem hr hrow (hrkey.trans hkey.symm)]
  exact hstate

/-- **EVERY MOVE KEEPS A REMOVED REFERENCE REMOVED**, unless a later distribute
    was created for its slot. -/
theorem Move.removedOrLater (h : Move R db db') (hwf : WellFormed db) (hs : Superseded N key db)
    (hk : RemovedOrLater N key db) : RemovedOrLater N key db' := by
  obtain hrem | hlater := hk
  case inr => exact .inr (h.laterDistribute hwf hlater)
  cases h with
  | frame hnow hid hjobs hnonces hrows hledger =>
    left
    unfold Removed
    rw [hrows]
    exact hrem
  | create | job | sweep => exact .inl hrem
  | addRow row hid hkey hstate hprov hlast =>
    obtain ⟨r, hr, hrest⟩ := hrem
    exact .inl ⟨r, List.mem_append_left _ hr, hrest⟩
  | trustJob row row' job hrow hid hnew hfor hadv hrevoke =>
    by_cases hkey : row.key = key
    · obtain hdist | hrev := isTrustAnchorOperation_cases hfor.trust
      · refine .inr ⟨job, List.mem_append_right _ (List.mem_singleton.mpr rfl),
          hid ▸ hs.counter, hdist, ?_, ?_⟩
        · rw [hfor.workspace, ← hkey]
          rfl
        · rw [hfor.agent, ← hkey]
          rfl
      · -- A removed reference is not revoked again.
        exact absurd (hrem.state hwf hrow hkey) (hrevoke hrev).1
    · exact .inl (hrem.replace_other hadv.same hkey hwf hrow)
  | release row row' hrow hrel hwhy =>
    by_cases hkey : row.key = key
    · exact .inl (.replace_self hrel.same hkey hrow hrel.state)
    · exact .inl (hrem.replace_other hrel.same hkey hwf hrow)
  | settle row row' hj hflight hstep hend hnonce hrow hlast hset htrust hinstall =>
    by_cases hkey : row.key = key
    · obtain hdist | hrev := isTrustAnchorOperation_cases htrust
      · have hlater := hs.last row hrow hkey _ hj hlast hdist (inFlight_live hflight)
        refine .inr ⟨_, mem_replaceJob_self hj (congrArg JobSpec.id hstep.spec), ?_⟩
        exact hlater.step hstep.spec
      · exact .inl (.replace_self hset.same hkey hrow (hset.remove hrev).1)
    · exact .inl (hrem.replace_other hset.same hkey hwf hrow)
  | unwindDelete row j hrow hj hend hlast hstate =>
    obtain ⟨r, hr, hrkey, hrstate⟩ := hrem
    refine .inl ⟨r, mem_deleteWhere.mpr ⟨hr, ?_⟩, hrkey, hrstate⟩
    simp only [decide_eq_false_iff_not]
    intro hid
    rw [hwf.rows.key.eq_of_mem hr hrow hid, hstate] at hrstate
    cases hrstate
  | unwindRevert row row' j hrow hj hend hlast hstate hrev =>
    by_cases hkey : row.key = key
    · have hcontra := hrem.state hwf hrow hkey
      rw [hstate] at hcontra
      cases hcontra
    · exact .inl (hrem.replace_other hrev.same hkey hwf hrow)
  | note row row' hrow hnote =>
    by_cases hkey : row.key = key
    · exact .inl (.replace_self hnote.same hkey hrow
        (hnote.state.trans (hrem.state hwf hrow hkey)))
    · exact .inl (hrem.replace_other hnote.same hkey hwf hrow)

/-! ## §3. Results of superseded jobs. -/

theorem installationByKey_congr
    (hu' : KeyNodup InstallationRow.key db'.installations)
    (h : ∀ r, r.key = key → (r ∈ db'.installations ↔ r ∈ db.installations)) :
    installationByKey db' key = installationByKey db key := by
  cases hfound : installationByKey db key with
  | some r =>
    obtain ⟨hr, rfl⟩ := installationByKey_some hfound
    exact hu'.selectOne_eq ((h r rfl).mpr hr)
  | none =>
    refine selectOne_none.mpr fun r hr => ?_
    simp only [decide_eq_false_iff_not]
    intro hkey
    exact installationByKey_none hfound r ((h r hkey).mp hr) hkey

theorem installationByKey_replace (row' : InstallationRow) (hwf : WellFormed db)
    (hrow : row ∈ db.installations) (hid : row'.id = row.id) (hkey : row'.key = row.key)
    (hne : row.key ≠ key) (hrows : db'.installations = replaceRow row' db.installations) :
    installationByKey db' key = installationByKey db key := by
  refine installationByKey_congr ?_ ?_
  · rw [hrows]
    exact keyNodup_replaceByKey_of_eq hwf.rows.key hwf.rows.unique hrow hid hkey
  · intro r hrkey
    rw [hrows, replaceRow, mem_replaceByKey, hid]
    constructor
    · intro h
      obtain ⟨hr, -⟩ | ⟨rfl, -⟩ := h
      · exact hr
      · exact absurd (hkey.symm.trans hrkey) hne
    · intro hr
      refine .inl ⟨hr, fun hsame => hne ?_⟩
      rw [← hwf.rows.key.eq_of_mem hr hrow hsame]
      exact hrkey

theorem onTrustJobTerminalTransition_key (hwf : WellFormed db) {op : JobOperation} {status : JobStatus}
    {ws : Nat} (hne : ∀ row ∈ db.installations, row.lastJobId = some id → row.key ≠ key) :
    installationByKey (onTrustJobTerminalTransition op status ws id db) key =
      installationByKey db key := by
  unfold onTrustJobTerminalTransition unwindTerminalTrustJob
  split
  · rfl
  split
  · rfl
  split
  · rfl
  rename_i row hfound
  obtain ⟨hrow, -, hlast⟩ := installationOfJob_some hfound
  have hkey := hne row hrow hlast
  unfold unwindInstallation
  split
  · refine installationByKey_congr (keyNodup_deleteWhere hwf.rows.unique) ?_
    intro r hrkey
    rw [mem_deleteWhere, decide_eq_false_iff_not]
    refine ⟨fun h => h.1, fun hr => ⟨hr, fun hid => hkey ?_⟩⟩
    rw [← hwf.rows.key.eq_of_mem hr hrow hid]
    exact hrkey
  · rw [updateInstallation_eq hwf hrow rfl]
    exact installationByKey_replace (row.reverted status) hwf hrow rfl rfl hkey rfl
  · rfl
  · rfl

theorem Superseded.not_last (hs : Superseded N key db) (hjob : job ∈ db.jobs)
    (hop : job.operation = .distributeTrust) (hold : job.id < N)
    (hlive : isTerminalJobStatus job.status = false) :
    ∀ row ∈ db.installations, row.lastJobId = some job.id → row.key ≠ key := by
  intro row hrow hlast hkey
  have hlater := (hs.last row hrow hkey job hjob hlast hop hlive).later
  omega

theorem ingestResult_superseded (hwf : WellFormed db) (hs : Superseded N key db) {agent : AgentIdentity}
    {sequence : Option Nat} {body : ResultBody} {reads : ResultReads}
    (h : exec env (.ingestResult agent sequence body reads) db = .ok db')
    (hjob : db.jobOf agent.workspaceId body.jobId = some job) (hop : job.operation = .distributeTrust)
    (hold : job.id < N) :
    installationByKey db' key = installationByKey db key := by
  simp only [exec, asAgent, bind_ok] at h
  obtain ⟨-, -, ⟨reply, db₁⟩, hresult, hret⟩ := h
  cases hret
  obtain rfl | ⟨job', new, db₂, hacc, hsettle⟩ := ingestResult_ok hwf hresult
  · rfl
  have hsame := hacc.found
  rw [hjob] at hsame
  cases hsame
  have hmem := (jobOf_some hjob).1
  have hnot := hs.not_last hmem hop hold (inFlight_live hacc.flight)
  obtain ⟨agents, nonces, rfl, hnonce⟩ := hacc.consumes (R := Regime.free env)
  have hframe : Move (Regime.free env) db { db with agents := agents } :=
    .frame le_rfl le_rfl rfl rfl rfl fun _ h => h
  have hmove : Move (Regime.free env) { db with agents := agents } _ :=
    .job hmem hacc.step hnonce
  have hwf₂ := hmove.wellFormed (hframe.wellFormed hwf)
  unfold settleTrust at hsettle
  simp only at hsettle
  split at hsettle
  · cases hsettle
    rfl
  split at hsettle
  · obtain ⟨r, row, -, hfound, -, -, rfl⟩ := ingestTrustJobResult_ok hsettle
    obtain ⟨hrow, -, hlast⟩ := installationOfJob_some hfound
    have hrows := congrArg Db.installations
      (updateInstallation_eq hwf₂ hrow (f := InstallationRow.settled r) rfl)
    exact installationByKey_replace (row.settled r) hwf hrow rfl rfl (hnot row hrow hlast)
      hrows
  split at hsettle
  · cases hsettle
    exact onTrustJobTerminalTransition_key hwf₂ hnot
  · cases hsettle
    rfl

/-! ## §4. A release is final. -/

/-- The call takes a branch without a job on a reference whose last job is a
    distribute that has not ended. -/
def ReleasesLiveDistribute (opts : TrustJobOptions) (ctx : TrustContext) (db : Db) : Prop :=
  ∃ row, installationByKey db (ctx.key opts) = some row ∧
    (OtherLive db row ∨ ¬ Genuine db row.tuple) ∧
    ∃ j ∈ db.jobs, row.lastJobId = some j.id ∧ j.operation = .distributeTrust ∧
      isTerminalJobStatus j.status = false

/-- A revoke that changed the reference, without releasing a live distribute. -/
theorem TrustJobDone.superseded {opts : TrustJobOptions} {ctx : TrustContext}
    {reply : TrustJobReply} (h : TrustJobDone R opts ctx db reply db') (hwf : WellFormed db)
    (hop : opts.operation = .revokeTrust)
    (hset : installationByKey db' (ctx.key opts) ≠ installationByKey db (ctx.key opts))
    (hcond : ¬ ReleasesLiveDistribute opts ctx db) :
    Superseded db.nextId (ctx.key opts) db' := by
  cases h with
  | releaseReplayed | jobReplayed => exact absurd rfl hset
  | reinserted _ _ hdist | createdFresh _ _ hdist =>
    rw [hop] at hdist
    cases hdist
  | released row _ _ hrow _ _ hwhy _ =>
    obtain ⟨hmem, hkey⟩ := installationByKey_some hrow
    refine ⟨le_rfl, ?_⟩
    intro r hr hrkey j hj hlast hdist hlive
    obtain ⟨hr, hne⟩ | ⟨rfl, -⟩ := mem_replaceByKey.mp hr
    · have heq : r = row := hwf.rows.unique.eq_of_mem hr hmem (hrkey.trans hkey.symm)
      exact absurd (congrArg InstallationRow.id heq) hne
    · exact absurd ⟨row, hrow, hwhy, j, hj, hlast, hdist, hlive⟩ hcond
  | created row job _ hrow _ hnew _ _ _ =>
    obtain ⟨hmem, hkey⟩ := installationByKey_some hrow
    refine ⟨Nat.le_succ _, ?_⟩
    intro r hr hrkey j hj hlast hdist hlive
    obtain ⟨hr, hne⟩ | ⟨rfl, -⟩ := mem_replaceByKey.mp hr
    · have heq : r = row := hwf.rows.unique.eq_of_mem hr hmem (hrkey.trans hkey.symm)
      exact absurd (congrArg InstallationRow.id heq) hne
    · -- The last job is the revoke that was just created.
      have hjid : job.id = j.id := Option.some.inj hlast
      rw [List.mem_append, List.mem_singleton] at hj
      obtain hj | rfl := hj
      · have hlt := hwf.jobs.fresh j hj
        have hid := hnew.id
        omega
      · rw [hnew.operation, hop] at hdist
        cases hdist

/-- **A RELEASED REFERENCE STAYS RELEASED** after every revoke call that changed
    it and did not release it under a live distribute.  In every later state: no
    distribute created before the call is let through for the reference, no
    result of one touches it, and once it is removed, it is installed again only
    after a distribute for its slot was created later. -/
theorem release_final_unless_live_distribute {s₀ s₁ s : Db} {opts : TrustJobOptions}
    {reads : TrustReads} {ctx : TrustContext} {reply : TrustJobReply}
    (hreach : Reachable (system env) anyStep s₀)
    (hctx : trustContext env opts reads s₀ = .ok ctx) (hop : opts.operation = .revokeTrust)
    (hcall : createTrustJob env opts reads s₀ = .ok (reply, s₁))
    (hset : installationByKey s₁ (ctx.key opts) ≠ installationByKey s₀ (ctx.key opts))
    (hcond : ¬ ReleasesLiveDistribute opts ctx s₀)
    (hrun : Run (system env) anyStep s₁ s) :
    (∀ agent sequence caps maxJobs reads' job s₂,
      ClaimTurn env agent sequence caps maxJobs reads' s job s₂ →
      job.operation = .distributeTrust → job.id < s₀.nextId →
      (revalidateTrustJobForDispatch job s₂).1.allowed = true →
      ∀ row, s₂.installationOfJob job.workspaceId job.id = some row → row.key ≠ ctx.key opts) ∧
    (∀ agent sequence body reads' job s',
      exec env (.ingestResult agent sequence body reads') s = .ok s' →
      s.jobOf agent.workspaceId body.jobId = some job → job.operation = .distributeTrust →
      job.id < s₀.nextId →
      installationByKey s' (ctx.key opts) = installationByKey s (ctx.key opts)) ∧
    (Removed (ctx.key opts) s → ∀ s', Run (system env) anyStep s s' →
      ∀ row, installationByKey s' (ctx.key opts) = some row → row.transitionState = .installed →
        ∃ j ∈ s'.jobs, LaterDistribute s₀.nextId (ctx.key opts) j) := by
  have hwf₀ := reachable_wellFormed hreach
  have htrust := (trustContext_ok hctx).1
  have hdone : TrustJobDone (Regime.free env) opts ctx s₀ reply s₁ :=
    createTrustJob_done hwf₀ htrust (runCreateTrustJob_of_createTrustJob hctx hcall)
  have hs₁ := hdone.superseded hwf₀ hop hset hcond
  obtain ⟨hwf, hs⟩ := run_invariant (I := Superseded s₀.nextId (ctx.key opts))
    (Regime.free_timed env) (fun _ call _ _ => permits_free call)
    (fun _ _ hwf hs hm => hm.superseded hwf hs) hrun ((hdone.moves htrust hwf₀).wellFormed hwf₀) hs₁
  refine ⟨?_, ?_, ?_⟩
  · intro agent sequence caps maxJobs reads' job s₂ hturn hdist hold _ row hrow
    obtain ⟨hmoves, hjob, hc⟩ := hturn.spec (Regime.free_timed env) hwf
    have hs₂ := (hmoves.invariant
      (I := fun x => WellFormed x ∧ Superseded s₀.nextId (ctx.key opts) x)
      (fun _ _ hx hm => ⟨hm.wellFormed hx.1, hm.superseded hx.1 hx.2⟩) ⟨hwf, hs⟩).2
    obtain ⟨hmem, -, hlast⟩ := installationOfJob_some hrow
    exact hs₂.not_last hjob hdist hold hc.live row hmem hlast
  · intro agent sequence body reads' job s' hexec hjob hdist hold
    exact ingestResult_superseded hwf hs hexec hjob hdist hold
  · intro hremoved s' hrun' row hrow hinstalled
    obtain ⟨hwf', -, hk⟩ := run_invariant
      (I := fun x => Superseded s₀.nextId (ctx.key opts) x ∧
        RemovedOrLater s₀.nextId (ctx.key opts) x)
      (Regime.free_timed env) (fun _ call _ _ => permits_free call)
      (fun _ _ hwf hx hm => ⟨hm.superseded hwf hx.1, hm.removedOrLater hwf hx.1 hx.2⟩)
      hrun' hwf ⟨hs, .inl hremoved⟩
    obtain hrem | hlater := hk
    · obtain ⟨hmem, hkey⟩ := installationByKey_some hrow
      rw [hrem.state hwf' hmem hkey] at hinstalled
      cases hinstalled
    · exact hlater

/-- Owner A's confirmed reference is revoked: a job is created, so nothing is
    released under a live distribute. -/
theorem release_final_demo :
    ∃ ctx reply s₁,
      trustContext Demo.env (Demo.trustJobOptions .revokeTrust "A" "k2") {}
        (play Demo.env (Demo.setup ++ [Demo.trustJob .distributeTrust "A" "k1", Demo.claim,
          Demo.trustSucceed 3 4 5 2 .distributeTrust .installed])) = .ok ctx ∧
      createTrustJob Demo.env (Demo.trustJobOptions .revokeTrust "A" "k2") {}
        (play Demo.env (Demo.setup ++ [Demo.trustJob .distributeTrust "A" "k1", Demo.claim,
          Demo.trustSucceed 3 4 5 2 .distributeTrust .installed])) = .ok (reply, s₁) ∧
      (Removed (ctx.key (Demo.trustJobOptions .revokeTrust "A" "k2")) s₁ →
        ∀ s', Run (system Demo.env) anyStep s₁ s' →
        ∀ row, installationByKey s' (ctx.key (Demo.trustJobOptions .revokeTrust "A" "k2")) =
            some row → row.transitionState = .installed →
          ∃ j ∈ s'.jobs, LaterDistribute
            (play Demo.env (Demo.setup ++ [Demo.trustJob .distributeTrust "A" "k1", Demo.claim,
              Demo.trustSucceed 3 4 5 2 .distributeTrust .installed])).nextId
            (ctx.key (Demo.trustJobOptions .revokeTrust "A" "k2")) j) := by
  obtain ⟨s₀, hs₀⟩ : ∃ s₀, s₀ = play Demo.env (Demo.setup ++ [Demo.trustJob .distributeTrust "A" "k1",
    Demo.claim, Demo.trustSucceed 3 4 5 2 .distributeTrust .installed]) := ⟨_, rfl⟩
  have hreach : Reachable (system Demo.env) anyStep s₀ := hs₀ ▸ play_reachable _ _
  have hok : (createTrustJob Demo.env (Demo.trustJobOptions .revokeTrust "A" "k2") {}
      s₀).toOption.map (fun x => x.1.created && x.1.job.isSome) = some true := hs₀ ▸ by decide
  have hended : ∀ j ∈ s₀.jobs, isTerminalJobStatus j.status = true := hs₀ ▸ by decide
  have hinstalled : ∀ r ∈ s₀.installations, r.transitionState = .installed := hs₀ ▸ by decide
  rw [← hs₀]
  obtain ⟨⟨reply, s₁⟩, hcall, hcreated⟩ := ok_of_map hok
  simp only [Bool.and_eq_true, Option.isSome_iff_exists] at hcreated
  obtain ⟨hnew, job, hjob⟩ := hcreated
  obtain ⟨ctx, hctx, -⟩ := bind_ok.mp hcall
  have hwf := reachable_wellFormed hreach
  have hdone : TrustJobDone (Regime.free Demo.env) _ ctx s₀ reply s₁ :=
    createTrustJob_done hwf rfl (runCreateTrustJob_of_createTrustJob hctx hcall)
  -- The reference was installed and is now on its way out.
  have hset : installationByKey s₁ (ctx.key (Demo.trustJobOptions .revokeTrust "A" "k2")) ≠
      installationByKey s₀ (ctx.key (Demo.trustJobOptions .revokeTrust "A" "k2")) := by
    intro hsame
    obtain ⟨-, -, -, href⟩ := created_reference hwf hdone rfl hnew hjob
    rw [referenceOf, hsame] at href
    obtain ⟨r, hr, hpair⟩ := Option.map_eq_some_iff.mp href
    have hst := (Prod.mk.inj hpair).1
    rw [hinstalled r (installationByKey_some hr).1] at hst
    cases hst
  have hcond : ¬ ReleasesLiveDistribute (Demo.trustJobOptions .revokeTrust "A" "k2") ctx s₀ := by
    intro h
    obtain ⟨row, -, -, j, hj, -, -, hlive⟩ := h
    rw [hended j hj] at hlive
    cases hlive
  exact ⟨ctx, reply, s₁, hctx, hcall,
    (release_final_unless_live_distribute hreach hctx rfl hcall hset hcond (.refl _)).2.2⟩

/-- Owner A distributes and, before the job is claimed, asks for the removal: the
    reference is released without a job.  The distribute is then dispatched with
    the new generation, and its result installs the released reference. -/
theorem released_reference_installed :
    referenceOf (play Demo.env (Demo.setup ++ [Demo.trustJob .distributeTrust "A" "k1",
      Demo.trustJob .revokeTrust "A" "k2"])) (Demo.key "A") = some (.removed, .preexisting) ∧
    (play Demo.env (Demo.setup ++ [Demo.trustJob .distributeTrust "A" "k1",
      Demo.trustJob .revokeTrust "A" "k2", Demo.claim])).jobs.map (fun j => (j.id, j.status)) =
        [(3, .claimed)] ∧
    referenceOf (play Demo.env (Demo.setup ++ [Demo.trustJob .distributeTrust "A" "k1",
      Demo.trustJob .revokeTrust "A" "k2", Demo.claim,
      Demo.trustSucceed 3 4 5 3 .distributeTrust .installed])) (Demo.key "A") =
        some (.installed, .tokentimerInstalled) ∧
    (play Demo.env (Demo.setup ++ [Demo.trustJob .distributeTrust "A" "k1",
      Demo.trustJob .revokeTrust "A" "k2", Demo.claim,
      Demo.trustSucceed 3 4 5 3 .distributeTrust .installed])).jobs.map
        (fun j => (j.id, j.operation)) = [(3, .distributeTrust)] := by
  refine ⟨?_, ?_, ?_, ?_⟩ <;> decide

end TokenTimer.CertOps
