/-
  TokenTimer.CertOps.SystemRefinement — the control plane refines the moves.

  The writers that act without an agent (reaper, fence of a forced retirement,
  sweeps) and the status updates of operators are peeled here; with them EVERY
  call is a sequence of moves, in any regime that `Permits` it.

  Main results:
    * `exec_moves` — every call of the system.
    * `next_invariant` — what permitted moves keep, a step of the system keeps.
-/

import TokenTimer.CertOps.DispatchRefinement

namespace TokenTimer.CertOps

open Lib.Table Lib.Runs

variable {R : Regime} {env : Env} {db db' : Db}

/-! ## §1. A job that has ended. -/

variable {j : JobRow} {skip : Nat → Bool} {batch offlineAfterMs agent ws id maxAgeMs delayMs : Nat}
    {reason : String} {opts : UpdateStatusOptions} {d : TransitionDecision} {call : Call}
    {I : Db → Prop}

theorem Move.terminal_stays (h : Move R db db') (hwf : WellFormed db) (hj : j ∈ db.jobs)
    (hend : isTerminalJobStatus j.status = true) : j ∈ db'.jobs := by
  obtain ⟨j', hj', rfl | hstep⟩ := h.job_forward hwf hj
  · exact hj'
  · have hlive := hstep.live
    rw [hend] at hlive
    cases hlive

theorem Moves.terminal_stays (h : Moves R db db') (hwf : WellFormed db) (hj : j ∈ db.jobs)
    (hend : isTerminalJobStatus j.status = true) : j ∈ db'.jobs :=
  (h.invariant (I := fun x => WellFormed x ∧ j ∈ x.jobs)
    (fun _ _ hx hm => ⟨hm.wellFormed hx.1, hm.terminal_stays hx.1 hx.2 hend⟩) ⟨hwf, hj⟩).2

/-! ## §2. The reaper. -/

variable {ok : Db → Call → Prop} {mgmt : JobRow → Management}

theorem reapRow_rowStep (hwf : WellFormed db) {graceMs : Nat} {alive : Bool} {row : JobRow}
    (hrow : row ∈ db.jobs) (hflight : row.status.inFlight = true)
    (h : reapRow mgmt graceMs alive row db = .ok db') : RowStep R row db db' := by
  have hlive := inFlight_live hflight
  unfold reapRow at h
  split at h
  · cases h
    exact .refl
  split at h
  · rename_i hbudget
    obtain ⟨⟨written, db₁⟩, hupd, hret⟩ := bind_ok.mp h
    cases hret
    -- A retry budget is one of a claim that never ran.
    have hclaimed : row.status ≠ .running := by
      simp only [hasRetryBudget, Bool.and_eq_true, decide_eq_true_eq] at hbudget
      rw [hbudget.1.2]
      decide
    have hset : LiveSet R row (setRequeued db.now row) :=
      .of_waiting rfl hclaimed (modeAllows_of_free rfl)
    exact updateJob_rowStep hwf hrow hlive hset (.inr (.inl rfl)) hupd
  split at h
  · obtain ⟨⟨written, db₁⟩, hupd, hret⟩ := bind_ok.mp h
    cases hret
    have hset : LiveSet R row (setReaperOrphaned db.now row) :=
      .of_end rfl rfl (modeAllows_of_free rfl)
    exact updateJob_rowStep hwf hrow hlive hset (.inr (.inl rfl)) hupd
  · obtain ⟨⟨written, db₁⟩, hupd, hret⟩ := bind_ok.mp h
    cases hret
    have hset : LiveSet R row (setReaperFailed alive db.now row) :=
      .of_end rfl rfl (modeAllows_of_free rfl)
    exact updateJob_unwind_rowStep .failed hwf hrow hlive hset rfl (.inr (.inl rfl)) hupd

/-- The rows of the reaper's selection. -/
theorem selectExpired_spec (skip : Nat → Bool) (batch offlineAfterMs : Nat) (hwf : WellFormed db) :
    (∀ x ∈ selectExpired skip batch offlineAfterMs db,
      x.1 ∈ db.jobs ∧ x.1.status.inFlight = true) ∧
    KeyNodup (fun j : JobRow => j.id) ((selectExpired skip batch offlineAfterMs db).map Prod.fst) := by
  constructor
  · intro x hx
    obtain ⟨j, hj, rfl⟩ := List.mem_map.mp hx
    obtain ⟨hjobs, hp⟩ := mem_selection hj
    simp only [leaseExpired, Bool.and_eq_true] at hp
    exact ⟨hjobs, hp.1.1.1⟩
  · have hid : (selectExpired skip batch offlineAfterMs db).map Prod.fst = _ :=
      List.map_map.trans (List.map_id _)
    rw [hid]
    exact keyNodup_selection hwf.jobs.key _ _

/-- THE INDUCTION RULE of the reaper: every turn is on a row that the table holds in flight,
    and no row has two turns. -/
theorem reapExpiredLeases_induct {motive : List (JobRow × Bool) → Db → Prop} (hnil : motive [] db')
    (hcons :
    ∀ {row alive rows db db₁}, WellFormed db → row ∈ db.jobs → row.status.inFlight = true → (∀ x ∈ rows, x.1.id ≠ row.id) → reapRow mgmt (leaseHardGraceMs env.timing) alive row db = .ok db₁ → motive rows db₁ → motive ((row, alive) :: rows) db)
    (hwf : WellFormed db) (h : reapExpiredLeases env mgmt skip batch offlineAfterMs db = .ok db') :
    motive (selectExpired skip batch offlineAfterMs db) db := by
  obtain ⟨hmem, hnodup⟩ := selectExpired_spec skip batch offlineAfterMs hwf
  unfold reapExpiredLeases at h
  generalize selectExpired skip batch offlineAfterMs db = rows at h hmem hnodup
  induction rows generalizing db with
  | nil =>
    cases h
    exact hnil
  | cons x rows ih =>
    obtain ⟨db₁, hrow, hloop⟩ := bind_ok.mp h
    rw [List.forall_mem_cons] at hmem
    have hstep : RowStep (Regime.any 0) x.1 db db₁ := reapRow_rowStep hwf hmem.1.1 hmem.1.2 hrow
    refine hcons hwf hmem.1.1 hmem.1.2 (fun y hy hid => ?_) hrow
      (ih (hstep.moves.wellFormed hwf) hloop (fun y hy => ⟨?_, (hmem.2 y hy).2⟩)
        (List.nodup_cons.mp hnodup).2)
    · exact (List.nodup_cons.mp hnodup).1 (List.mem_map.mpr ⟨y.1, List.mem_map_of_mem hy, hid⟩)
    · refine hstep.rest hnodup (fun r hr => ?_) y.1 (List.mem_map_of_mem hy)
      obtain ⟨z, hz, rfl⟩ := List.mem_map.mp hr
      exact (hmem.2 z hz).1

theorem reapExpiredLeases_moves (hwf : WellFormed db)
    (h : reapExpiredLeases env mgmt skip batch offlineAfterMs db = .ok db') : Moves R db db' :=
  reapExpiredLeases_induct (motive := fun _ db => Moves R db db') (.refl _)
    (fun hwf hrow hflight _ h ih => (reapRow_rowStep hwf hrow hflight h).moves.trans ih) hwf h

/-! ## §3. The fence. -/

/-- What an UPDATE of the fence sets: the job ends, its claim stays on record. -/
def FenceSet (set : JobRow → JobRow) : Prop :=
  ∀ r, (set r).toJobSpec = r.toJobSpec ∧ isTerminalJobStatus (set r).status = true ∧
    (set r).status.modeFree = true ∧ (set r).claimId = r.claimId

theorem setFenceCancelled_ends (reason : String) (now : Nat) :
    FenceSet (setFenceCancelled reason now) :=
  fun _ => ⟨rfl, rfl, rfl, rfl⟩

theorem setFenceOrphaned_ends (reason : String) (now : Nat) :
    FenceSet (setFenceOrphaned reason now) :=
  fun _ => ⟨rfl, rfl, rfl, rfl⟩

/-- One UPDATE of the fence ends every row it matched. -/
theorem fenceLoop_moves (set : JobRow → JobRow) (rows : List JobRow) (hwf : WellFormed db)
    (hrows : ∀ r ∈ rows, r ∈ db.jobs) (hlive : ∀ r ∈ rows, isTerminalJobStatus r.status = false)
    (hset : FenceSet set) (hnodup : KeyNodup (fun j : JobRow => j.id) rows)
    (h : fenceLoop mgmt set rows db = .ok db') :
    Moves R db db' ∧
      ∀ r ∈ rows, ∃ j ∈ db'.jobs, j.id = r.id ∧ isTerminalJobStatus j.status = true := by
  induction rows generalizing db with
  | nil =>
    cases h
    exact ⟨.refl _, by simp⟩
  | cons row rows ih =>
    simp only [fenceLoop, bind_ok] at h
    obtain ⟨⟨written, db₁⟩, hupd, hloop⟩ := h
    rw [List.forall_mem_cons] at hrows hlive
    obtain ⟨hspec, hend, hfree, hclaim⟩ := hset row
    have hlset : LiveSet R row (set row) := .of_end hspec hend (modeAllows_of_free hfree)
    obtain ⟨new, hid, hdb, hmove, hnew⟩ :=
      updateJob_move hwf hrows.1 hlive.1 hlset (.inr (.inr ⟨hend, hclaim⟩)) hupd
    have hstep : RowStep R row db db₁ :=
      updateJob_rowStep hwf hrows.1 hlive.1 hlset (.inr (.inr ⟨hend, hclaim⟩)) hupd
    have hwf₁ := hmove.wellFormed hwf
    obtain ⟨hmoves, hrest⟩ := ih hwf₁ (hstep.rest hnodup hrows.2) hlive.2
      (List.nodup_cons.mp hnodup).2 hloop
    refine ⟨(Moves.single hmove).trans hmoves, ?_⟩
    rw [List.forall_mem_cons]
    refine ⟨⟨new, hmoves.terminal_stays hwf₁ ?_ (hnew hend), hid, hnew hend⟩, hrest⟩
    rw [hdb]
    exact mem_replaceJob_self hrows.1 hid

theorem fenceUnwind_moves (rows : List JobRow) (hwf : WellFormed db)
    (hend : ∀ r ∈ rows, ∃ j ∈ db.jobs, j.id = r.id ∧ isTerminalJobStatus j.status = true) :
    Moves R db (fenceUnwind rows db) := by
  induction rows generalizing db with
  | nil => exact .refl _
  | cons row rows ih =>
    rw [List.forall_mem_cons] at hend
    obtain ⟨⟨j, hj, hid, hterm⟩, hrest⟩ := hend
    have hmoves : Moves R db
        (onTrustJobTerminalTransition row.operation .cancelled row.workspaceId row.id db) := by
      rw [← hid]
      exact unwind_moves hwf hj hterm
    refine hmoves.trans (ih (hmoves.wellFormed hwf) ?_)
    intro r hr
    rw [onTrustJobTerminalTransition_jobs]
    exact hrest r hr

theorem fenceSelect_spec (agent : Nat) (status : JobStatus) (hwf : WellFormed db) :
    KeyNodup (fun j : JobRow => j.id) (fenceSelect agent status db) ∧
      ∀ r ∈ fenceSelect agent status db, r ∈ db.jobs ∧ r.status = status := by
  refine ⟨hwf.jobs.key.sublist (List.filter_sublist.map _), ?_⟩
  intro r hr
  obtain ⟨hmem, hp⟩ := List.mem_filter.mp hr
  exact ⟨hmem, (of_decide_eq_true hp).2.1⟩

theorem fenceAgentInFlightWork_moves (hwf : WellFormed db)
    (h : fenceAgentInFlightWork mgmt agent reason db = .ok db') :
    Moves R db db' := by
  simp only [fenceAgentInFlightWork, bind_ok] at h
  obtain ⟨db₁, hcancel, db₂, horphan, hret⟩ := h
  cases hret
  obtain ⟨hnodup, hsel⟩ := fenceSelect_spec agent .claimed hwf
  obtain ⟨hmoves₁, hended⟩ := fenceLoop_moves (R := R) _ _ hwf (fun r hr => (hsel r hr).1)
    (fun r hr => by rw [(hsel r hr).2]; rfl) (setFenceCancelled_ends reason db.now) hnodup hcancel
  have hwf₁ := hmoves₁.wellFormed hwf
  obtain ⟨hnodup₁, hsel₁⟩ := fenceSelect_spec agent .running hwf₁
  obtain ⟨hmoves₂, -⟩ := fenceLoop_moves (R := R) _ _ hwf₁ (fun r hr => (hsel₁ r hr).1)
    (fun r hr => by rw [(hsel₁ r hr).2]; rfl) (setFenceOrphaned_ends reason db.now) hnodup₁ horphan
  have hwf₂ := hmoves₂.wellFormed hwf₁
  -- The cancelled rows have ended, and the second UPDATE leaves them alone.
  refine (hmoves₁.trans hmoves₂).trans (fenceUnwind_moves _ hwf₂ ?_)
  intro r hr
  obtain ⟨j, hj, hid, hterm⟩ := hended r hr
  exact ⟨j, hmoves₂.terminal_stays hwf₁ hj hterm, hid, hterm⟩

theorem retireAgent_moves (hwf : WellFormed db) {force : Bool}
    (h : retireAgent mgmt ws agent force reason db = .ok db') :
    Moves R db db' := by
  have hframe : ∀ db₁ : Db, Moves R db₁
      { db₁ with agents := retireAgentRow db₁.now ws agent db₁.agents } :=
    fun db₁ => .single (.frame le_rfl le_rfl rfl rfl rfl fun _ h => h)
  unfold retireAgent at h
  split at h
  · obtain ⟨db₁, hfence, hret⟩ := bind_ok.mp h
    cases hret
    exact (fenceAgentInFlightWork_moves hwf hfence).trans (hframe db₁)
  · cases h
    exact hframe db

/-! ## §4. The sweeps. -/

theorem note_moves (hwf : WellFormed db) {f : InstallationRow → InstallationRow}
    (hf : ∀ r, Restated r (f r) r.transitionState) : Moves R db (updateInstallation id f db) := by
  by_cases hex : ∃ row ∈ db.installations, row.id = id
  · obtain ⟨row, hrow, rfl⟩ := hex
    rw [updateInstallation_eq hwf hrow (hf row).same.id]
    exact .single (.note row _ hrow (hf row))
  · have hsame : updateInstallation id f db = db := by
      unfold updateInstallation
      rw [updateWhere_of_forall_not]
      intro r hr
      simp only [decide_eq_false_iff_not]
      exact fun hid => hex ⟨r, hr, hid⟩
    rw [hsame]
    exact .refl db

theorem trustJobTerminalNegative_terminal {status : JobStatus}
    (h : trustJobTerminalNegative status = true) : isTerminalJobStatus status = true := by
  cases status <;> first | rfl | cases h

theorem sweepInstallation_moves (hwf : WellFormed db) {row : InstallationRow} :
    Moves R db (sweepInstallation maxAgeMs delayMs row db) := by
  have hnote : ∀ f : InstallationRow → InstallationRow,
      (∀ r, Restated r (f r) r.transitionState) → Moves R db (updateInstallation row.id f db) :=
    fun f hf => note_moves hwf hf
  unfold sweepInstallation
  split
  · rename_i job hjob
    obtain ⟨id, -, hfound⟩ := Option.bind_eq_some_iff.mp hjob
    split
    · rename_i hneg
      exact unwind_moves hwf (jobOf_some hfound).1 (trustJobTerminalNegative_terminal hneg)
    · split
      · exact hnote _ fun r => ⟨⟨rfl, rfl, rfl⟩, rfl, rfl, rfl⟩
      · exact hnote _ fun r => ⟨⟨rfl, rfl, rfl⟩, rfl, rfl, rfl⟩
  · split
    · exact hnote _ fun r => ⟨⟨rfl, rfl, rfl⟩, rfl, rfl, rfl⟩
    · exact hnote _ fun r => ⟨⟨rfl, rfl, rfl⟩, rfl, rfl, rfl⟩

theorem sweepInstallations_moves (rows : List InstallationRow) (hwf : WellFormed db) :
    Moves R db (rows.foldl (fun db row => sweepInstallation maxAgeMs delayMs row db) db) := by
  induction rows generalizing db with
  | nil => exact .refl db
  | cons row rows ih =>
    have hrow : Moves R db (sweepInstallation maxAgeMs delayMs row db) :=
      sweepInstallation_moves hwf
    exact hrow.trans (ih (hrow.wellFormed hwf))

/-! ## §5. The other calls. -/

theorem rewritePayload_moves (hwf : WellFormed db) {payload : JobPayload} :
    Moves R db (rewritePayload id payload db) := by
  unfold rewritePayload
  by_cases hex : ∃ j ∈ db.jobs, j.id = id ∧
      (j.status = .pendingApproval ∨ j.status = .approved ∨ j.status = .pending)
  · obtain ⟨j, hj, rfl, hwait⟩ := hex
    have hlive : isTerminalJobStatus j.status = false ∧ j.status ≠ .running ∧
        j.status.modeFree = true := by
      obtain hst | hst | hst := hwait <;> rw [hst] <;> decide
    have hstep : JobStep R j { j with payload := payload } :=
      ⟨rfl, hlive.1, fun hr => absurd hr hlive.2.1, modeAllows_of_free hlive.2.2⟩
    rw [updateWhere_eq_replaceByKey_of_iff hwf.jobs.key hj rfl]
    · exact .single (.job hj hstep (.keep db.nextId le_rfl (.inl rfl)))
    · intro x hx
      rw [decide_eq_true_eq]
      constructor
      · exact fun hp => hp.1
      · intro hid
        obtain rfl := hwf.jobs.key.eq_of_mem hx hj hid
        exact ⟨rfl, hwait⟩
  · rw [updateWhere_of_forall_not]
    · exact .refl db
    · intro j hj
      rw [decide_eq_false_iff_not]
      exact fun hp => hex ⟨j, hj, hp⟩

/-- The call moves a dry-run job, which its enrollment binds, to `awaiting_issuer`. -/
def UpdateStatusOptions.awaitsDryRun (opts : UpdateStatusOptions) (job : JobRow) : Prop :=
  job.mode = .dryRun ∧ opts.status = .awaitingIssuer ∧ opts.enrollmentId.isSome = true ∧
    job.enrollmentId = opts.enrollmentId ∧ .awaitingIssuer ∈ jobStatusTransitions job.status

/-- One turn of the compare-and-swap. -/
theorem casJobStatus_moves (hwf : WellFormed db) {job : JobRow} {seen : JobStatus}
    (hj : job ∈ db.jobs)
    (hbound :
    opts.status = .awaitingIssuer → opts.enrollmentId.isSome = true ∧ job.enrollmentId = opts.enrollmentId)
    (hawait : opts.awaitsDryRun job → R.dryAwait)
    (h : casJobStatus mgmt opts job seen db = .ok (some (d, db'))) : Moves R db db' := by
  simp only [casJobStatus, bind_ok] at h
  obtain ⟨_, hmode, dec, hdec, h⟩ := h
  split at h
  · cases h
    exact .refl _
  rename_i happlied
  split at h
  · rename_i hseen
    obtain ⟨⟨written, db₁⟩, hupd, hret⟩ := bind_ok.mp h
    cases hret
    obtain ⟨hlive, htable⟩ := jobStatusTransitionDecision_ok hdec (by simpa using happlied)
    rw [← hseen] at hlive htable
    obtain ⟨hdry, hreal⟩ := assertModeAllowsTerminalStatus_ok hmode
    -- Every entry of the table for `running` ends the job.
    have hforward : job.status = .running →
        opts.status = .running ∨ isTerminalJobStatus opts.status = true := by
      intro hr
      right
      rw [hr] at htable
      revert htable
      cases opts.status <;> decide
    have hset : LiveSet R job (setJobStatus opts db.now job) := by
      refine ⟨rfl, ?_, hdry, hreal, fun hm hs => ?_⟩
      · exact hforward
      · have hs' : opts.status = .awaitingIssuer := hs
        exact hawait ⟨hm, hs', (hbound hs').1, (hbound hs').2, hs' ▸ htable⟩
    obtain ⟨new, -, -, hmove, -⟩ := updateJob_move hwf hj hlive hset (.inl rfl) hupd
    exact .single hmove
  · cases h

theorem updateCertificateJobStatus_moves (hwf : WellFormed db) {first second : JobStatus}
    (hawait : ∀ job, db.jobOf opts.workspaceId opts.jobId = some job → opts.awaitsDryRun job → R.dryAwait)
    (h : updateCertificateJobStatus mgmt opts first second db = .ok (d, db')) : Moves R db db' := by
  simp only [updateCertificateJobStatus, bind_ok, require_ok, decide_eq_true_eq] at h
  obtain ⟨-, hguard, h⟩ := h
  split at h
  · cases h
  rename_i job hfound
  have hj := (jobOf_some hfound).1
  have hbound : opts.status = .awaitingIssuer →
      opts.enrollmentId.isSome = true ∧ job.enrollmentId = opts.enrollmentId := by
    intro hs
    rw [hfound] at hguard
    exact hguard.resolve_left fun hne => hne hs
  obtain ⟨turn₁, hturn₁, h⟩ := bind_ok.mp h
  split at h
  · cases h
    exact casJobStatus_moves hwf hj hbound (hawait job hfound) hturn₁
  obtain ⟨turn₂, hturn₂, h⟩ := bind_ok.mp h
  split at h
  · cases h
    exact casJobStatus_moves hwf hj hbound (hawait job hfound) hturn₂
  · cases h

theorem retireTrustAnchor_moves {anchor : Nat} (h : retireTrustAnchor env ws anchor db = .ok db') :
    Moves R db db' := by
  simp only [retireTrustAnchor, bind_ok] at h
  obtain ⟨-, -, h⟩ := h
  split at h
  · cases h
  · cases h
    exact .single (.frame le_rfl le_rfl rfl rfl rfl fun _ h => h)

theorem createTrustAnchor_moves {req : ApproveAnchor} (h : createTrustAnchor req db = .ok db') :
    Moves R db db' := by
  unfold createTrustAnchor at h
  split at h
  · split at h
    · cases h
    · cases h
      exact .single (.frame le_rfl le_rfl rfl rfl rfl fun _ h => h)
  · cases h
    exact .single (.frame le_rfl (Nat.le_succ _) rfl rfl rfl fun _ h => h)

theorem setWorkspace_moves {row : WorkspaceRow} : Moves R db (setWorkspace row db) := by
  unfold setWorkspace
  split
  · exact .single (.frame le_rfl le_rfl rfl rfl rfl fun _ h => h)
  · exact .single (.frame le_rfl le_rfl rfl rfl rfl fun _ h => h)

/-! ## §6. Every call. -/

/-- The regime permits what the call may do beyond the guards of the code. -/
def Permits (R : Regime) (db : Db) : Call → Prop
  | .createCertificateJob opts _ => opts.awaitsDryRun → R.dryAwait
  | .updateCertificateJobStatus opts _ _ _ =>
    ∀ job, db.jobOf opts.workspaceId opts.jobId = some job → opts.awaitsDryRun job → R.dryAwait
  | .ingestResult agent _ body _ =>
    ∀ job row, db.jobOf agent.workspaceId body.jobId = some job → body.settles = true →
      db.installationOfJob job.workspaceId job.id = some row →
      job.operation = .distributeTrust → R.install db.jobs db.installations row
  | .sweepExpiredNonces picked =>
    ∀ n ∈ db.nonces, (picked n && nonceSweepable db.now n) = true → R.sweep db.jobs n
  | _ => True

/-- **EVERY CALL IS A SEQUENCE OF MOVES.** -/
theorem exec_moves (hwf : WellFormed db) (hR : R.Timed env) (hperm : Permits R db call)
    (h : exec env call db = .ok db') : Moves R db db' := by
  cases call with
  | tick ms =>
    cases h
    exact .single (.frame (Nat.le_add_right _ _) le_rfl rfl rfl rfl fun _ h => h)
  | setWorkspace row =>
    cases h
    exact setWorkspace_moves
  | registerAgent ws kind =>
    cases h
    exact .single (.frame le_rfl (Nat.le_succ _) rfl rfl rfl fun _ h => h)
  | heartbeat agent sequence =>
    simp only [exec, heartbeat, bind_ok] at h
    obtain ⟨-, -, agents, -, hret⟩ := h
    cases hret
    exact .single (.frame le_rfl le_rfl rfl rfl rfl fun _ h => h)
  | markStaleAgents offlineAfterMs =>
    cases h
    exact .single (.frame le_rfl le_rfl rfl rfl rfl fun _ h => h)
  | retireAgent ws agent force reason m => exact retireAgent_moves hwf h
  | createTrustAnchor req => exact createTrustAnchor_moves h
  | retireTrustAnchor ws anchor => exact retireTrustAnchor_moves h
  | createCertificateJob opts reads => exact createOtherJob_moves h hperm
  | createTrustJob opts reads =>
    obtain ⟨⟨reply, db₁⟩, hcreate, hret⟩ := bind_ok.mp h
    cases hret
    exact createTrustJob_moves hwf hcreate
  | rewritePayload id payload =>
    cases h
    exact rewritePayload_moves hwf
  | approveJob ws id approver review m => exact approveJob_moves hwf h
  | rejectJob ws id reason m => exact rejectJob_moves hwf h
  | claimJobs agent sequence caps maxJobs reads =>
    simp only [exec, asAgent, bind_ok] at h
    obtain ⟨-, -, ⟨out, db₁⟩, hclaim, hret⟩ := h
    cases hret
    exact claimJobs_moves hwf hR hclaim
  | renewJobLease agent id claim sequence reads =>
    obtain ⟨-, -, hrenew⟩ := bind_ok.mp h
    exact (renewJobLease_ok hwf hR hrenew).1
  | ingestResult agent sequence body reads =>
    simp only [exec, asAgent, bind_ok] at h
    obtain ⟨-, -, ⟨reply, db₁⟩, hresult, hret⟩ := h
    cases hret
    obtain rfl | ⟨job, new, db₂, hacc, hsettle⟩ := ingestResult_ok hwf hresult
    · exact .refl _
    · exact hacc.moves hwf (fun row hrow => hperm job row hacc.found hrow) hsettle
  | updateCertificateJobStatus opts first second m =>
    obtain ⟨⟨d, db₁⟩, hupd, hret⟩ := bind_ok.mp h
    cases hret
    exact updateCertificateJobStatus_moves hwf hperm hupd
  | reapExpiredLeases skip batch offlineAfterMs m => exact reapExpiredLeases_moves hwf h
  | sweepExpiredNonces picked =>
    cases h
    exact .single (.sweep _ hperm)
  | sweepOverdueTrustInstallations skip limit maxAgeMs delayMs =>
    cases h
    exact sweepInstallations_moves _ hwf

theorem next_moves (hwf : WellFormed db) (hR : R.Timed env) (hperm : Permits R db call) :
    Moves R db (next env db call) := by
  unfold next
  split
  · rename_i db₁ hexec
    exact exec_moves hwf hR hperm hexec
  · exact .refl db

/-! ## §7. Runs. -/

/-- The regime of the environment with no condition. -/
def Regime.free (env : Env) : Regime :=
  .any (leaseHardGraceMs env.timing + NONCE_TTL_GRACE_SECONDS * 1000)

theorem Regime.free_timed (env : Env) : (Regime.free env).Timed env := le_refl _

theorem permits_free (call : Call) : Permits (Regime.free env) db call := by
  cases call <;> simp [Permits, Regime.free, Regime.any]

/-- **THE KEYS ARE KEYS IN EVERY REACHABLE STATE.** -/
theorem reachable_wellFormed (h : Reachable (system env) ok db) :
    WellFormed db :=
  h.invariant (fun s hs => by rw [show s = Db.empty from hs]; exact .empty)
    fun s call t hwf _ hstep => by
      rw [show t = next env s call from hstep]
      exact (next_moves hwf (Regime.free_timed env) (permits_free call)).wellFormed hwf

theorem run_invariant (hR : R.Timed env)
    (hok : ∀ s call, WellFormed s → ok s call → Permits R s call)
    (hmove : ∀ a b, WellFormed a → I a → Move R a b → I b) (h : Run (system env) ok db db')
    (hwf : WellFormed db) (hI : I db) : WellFormed db' ∧ I db' := by
  refine h.invariant (I := fun s => WellFormed s ∧ I s) ?_ ⟨hwf, hI⟩
  intro s call t hs hcall hstep
  rw [show t = next env s call from hstep]
  refine (next_moves hs.1 hR (hok s call hs.1 hcall)).invariant (I := fun s => WellFormed s ∧ I s)
    ?_ hs
  intro a b ha hm
  exact ⟨hm.wellFormed ha.1, hmove a b ha.1 ha.2 hm⟩

/-- **THE INVARIANT RULE OF THE CONTROL PLANE.** -/
theorem reachable_invariant (hR : R.Timed env)
    (hok : ∀ s call, WellFormed s → ok s call → Permits R s call)
    (hmove : ∀ a b, WellFormed a → I a → Move R a b → I b) (hempty : I Db.empty)
    (h : Reachable (system env) ok db) : I db := by
  obtain ⟨s, hs, hrun⟩ := h
  rw [show s = Db.empty from hs] at hrun
  exact (run_invariant hR hok hmove hrun .empty hempty).2

end TokenTimer.CertOps
