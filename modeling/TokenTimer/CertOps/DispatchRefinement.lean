/-
  TokenTimer.CertOps.DispatchRefinement — the transactions of an agent are moves:
  claim, lease renewal, result.

  The claim (like the reaper and the fence) loops over a SELECTION: rows as they were
  when the transaction locked them.  A turn of the loop writes only its own row,
  so the rows of the later turns are still what the selection saw (`RowStep`).

  Main results:
    * `claimLoop_moves`, `renewJobLease_ok`, `ingestResult_ok`.
    * `claimJobs_dispatched` — every dispatch was signed in the turn of a row that
        waited and that the revalidation let through.
-/

import TokenTimer.CertOps.TrustCreation

namespace TokenTimer.CertOps

open Lib.Table Lib.Runs

variable {R : Regime} {env : Env} {db db' : Db}

/-! ## §1. One turn of a loop over a selection. -/

/-- A turn that only writes the row it is about. -/
structure RowStep (R : Regime) (row : JobRow) (db db' : Db) : Prop where
  moves : Moves R db db'
  others : ∀ j ∈ db.jobs, j.id ≠ row.id → j ∈ db'.jobs

variable {caps : AgentCaps} {agent : AgentIdentity} {reads : ClaimReads} {db₁ : Db} {d : Dispatched}
  {job new row : JobRow} {set : JobRow → JobRow} {mgmt : JobRow → Management} {status : JobStatus}
  {id maxJobs ws : Nat} {generation sequence : Option Nat} {body : ResultBody}

theorem RowStep.refl : RowStep R row db db :=
  ⟨.refl db, fun _ hj _ => hj⟩

variable {rows : List JobRow} {j : JobRow} {out : Option Dispatched} {reason : String}
    {proceed : Bool} {result : Option TrustResult}

/-- The rows of the later turns are still what the selection saw. -/
theorem RowStep.rest (h : RowStep R row db db')
    (hnodup : KeyNodup (fun j : JobRow => j.id) (row :: rows)) (hrows : ∀ r ∈ rows, r ∈ db.jobs) :
    ∀ r ∈ rows, r ∈ db'.jobs := by
  intro r hr
  refine h.others r (hrows r hr) ?_
  intro hid
  have hnot := (List.nodup_cons.mp hnodup).1
  exact hnot (List.mem_map.mpr ⟨r, hr, hid⟩)

theorem updateJob_rowStep (hwf : WellFormed db) (hj : j ∈ db.jobs)
    (hlive : isTerminalJobStatus j.status = false) (hset : LiveSet R j (set j))
    (hclaim : (set j).claim = j.claim ∨ (set j).claimId = none ∨ (isTerminalJobStatus (set j).status = true ∧ (set j).claimId = j.claimId))
    {out : Option JobRow} (h : updateJob mgmt j.id set db = .ok (out, db')) :
    RowStep R j db db' := by
  obtain ⟨new, hid, hdb, hmove, -⟩ := updateJob_move hwf hj hlive hset hclaim h
  refine ⟨.single hmove, ?_⟩
  intro x hx hne
  rw [hdb]
  exact mem_replaceJob_other hx (by rwa [hid])

theorem updateJob_unwind_rowStep (status : JobStatus) (hwf : WellFormed db) (hj : j ∈ db.jobs)
    (hlive : isTerminalJobStatus j.status = false) (hset : LiveSet R j (set j))
    (hend : isTerminalJobStatus (set j).status = true)
    (hclaim : (set j).claim = j.claim ∨ (set j).claimId = none ∨ (isTerminalJobStatus (set j).status = true ∧ (set j).claimId = j.claimId))
    {out : Option JobRow} (h : updateJob mgmt j.id set db = .ok (out, db')) :
    RowStep R j db (onTrustJobTerminalTransition j.operation status j.workspaceId j.id db') := by
  obtain ⟨new, hid, hdb, hmove, hnew⟩ := updateJob_move hwf hj hlive hset hclaim h
  have hmem : new ∈ db'.jobs := by
    rw [hdb]
    exact mem_replaceJob_self hj hid
  refine ⟨(Moves.single hmove).trans ?_, ?_⟩
  · rw [← hid]
    exact unwind_moves (hmove.wellFormed hwf) hmem (hnew hend)
  · intro x hx hne
    rw [onTrustJobTerminalTransition_jobs, hdb]
    exact mem_replaceJob_other hx (by rwa [hid])

/-! ## §2. The claim loop. -/

/-- Unwinding writes the references only. -/
theorem onTrustJobTerminalTransition_eq {operation : JobOperation} :
    onTrustJobTerminalTransition operation status ws id db =
      { db with
        installations := (onTrustJobTerminalTransition operation status ws id db).installations } := by
  unfold onTrustJobTerminalTransition unwindTerminalTrustJob
  split
  · rfl
  split
  · rfl
  split
  · rfl
  · unfold unwindInstallation
    split <;> rfl

theorem updateJob_with_installations {rows : List InstallationRow} {out : Option JobRow}
    (h : updateJob mgmt id set { db with installations := rows } = .ok (out, db')) :
    ∃ db₁, updateJob mgmt id set db = .ok (out, db₁) ∧ db' = { db₁ with installations := rows } := by
  unfold updateJob at h ⊢
  have hfind : ({ db with installations := rows } : Db).jobById id = db.jobById id := rfl
  rw [hfind] at h
  split at h
  · cases h
    exact ⟨db, rfl, rfl⟩
  · obtain ⟨new, hnew, hout⟩ := bind_ok.mp h
    cases hout
    exact ⟨_, bind_ok.mpr ⟨new, hnew, rfl⟩, rfl⟩

/-- A row the claim may have selected. -/
structure Claimable (agent : AgentIdentity) (row : JobRow) : Prop where
  waiting : row.status = .pending ∨ row.status = .claimed
  workspace : row.workspaceId = agent.workspaceId

theorem Claimable.live (h : Claimable agent row) :
    isTerminalJobStatus row.status = false := by
  obtain hst | hst := h.waiting <;> rw [hst] <;> rfl

theorem Claimable.not_running (h : Claimable agent row) :
    row.status ≠ .running := by
  obtain hst | hst := h.waiting <;> rw [hst] <;> decide

/-- A denied trust job is unwound and rejected; in the other order this is a step
    of the job and the unwinding of an ended job. -/
theorem rejectDenied_rowStep (hwf : WellFormed db) (hrow : row ∈ db.jobs) (hc : Claimable agent row)
    (h : rejectDenied reads row reason (onTrustJobTerminalTransition row.operation .rejected row.workspaceId row.id db) = .ok (out, db')) :
    RowStep R row db db' := by
  unfold rejectDenied at h
  rw [if_pos hc.waiting] at h
  obtain ⟨⟨written, db₁⟩, hupd, hret⟩ := bind_ok.mp h
  cases hret
  rw [onTrustJobTerminalTransition_eq] at hupd
  obtain ⟨db₂, hupd₂, rfl⟩ := updateJob_with_installations hupd
  have hset : LiveSet R row (setRevalidationRejected reason db.now row) :=
    .of_end rfl rfl (modeAllows_of_free rfl)
  have hstep := updateJob_unwind_rowStep .rejected hwf hrow hc.live hset rfl
    (.inl rfl) hupd₂
  obtain ⟨new, -, hdb₂, -, -⟩ := updateJob_move (R := R) hwf hrow hc.live hset (.inl rfl) hupd₂
  rw [hdb₂, onTrustJobTerminalTransition_with_jobs] at hstep
  rw [hdb₂]
  rw [onTrustJobTerminalTransition_eq] at hstep
  exact hstep

/-- The regime knows the window of the environment's settings. -/
def Regime.Timed (R : Regime) (env : Env) : Prop :=
  R.windowMs ≤ leaseHardGraceMs env.timing + NONCE_TTL_GRACE_SECONDS * 1000

/-- A lease and the nonce expiry that is set with it leave the window open. -/
theorem Regime.Timed.window (hR : R.Timed env) (now : Nat) :
    now + jobLeaseSeconds env.timing * 1000 + R.windowMs ≤
      now + dispatchNonceTtlSeconds env.timing * 1000 := by
  have httl := lease_grace_le_ttl env.timing
  unfold Regime.Timed at hR
  rw [Nat.add_assoc]
  refine Nat.add_le_add_left (le_trans ?_ httl) now
  rw [Nat.add_assoc]
  exact Nat.add_le_add_left hR _

theorem claimAndSign_rowStep (hwf : WellFormed db) (hR : R.Timed env) (hrow : row ∈ db.jobs)
    (hc : Claimable agent row) (h : claimAndSign env agent reads row generation db = .ok (out, db')) :
    RowStep R row db db' := by
  obtain ⟨⟨written, db₁⟩, hupd, h⟩ := bind_ok.mp h
  have hdraw : Move R db { db with nextId := db.nextId + 2 } :=
    .frame le_rfl (Nat.le_add_right _ 2) rfl rfl rfl fun _ h => h
  obtain ⟨new, rfl, htrig, hid, hspec, rfl⟩ :=
    updateJob_of_mem (hdraw.wellFormed hwf) hrow rfl hupd
  have hset : LiveSet R row (setClaimed agent.id db.nextId
      (db.now + jobLeaseSeconds env.timing * 1000) db.now row) :=
    .of_waiting rfl hc.not_running (modeAllows_of_free rfl)
  have hstep : JobStep R row new := hset.step hc.live htrig
  have hothers : ∀ j ∈ db.jobs, j.id ≠ row.id → j ∈ replaceJob new db.jobs :=
    fun j hj hne => mem_replaceJob_other hj (by rwa [hid])
  simp only [Option.all_some, decide_eq_true_eq] at h
  obtain ⟨hst, hcl⟩ | ⟨hst, hnone, -, -⟩ := htrig.status_claim
  · have hclaimed : new.status = .claimed := hst
    rw [if_neg (not_not.mpr hclaimed)] at h
    simp only [bind_ok, require_ok] at h
    obtain ⟨-, -, -, -, -, -, hret⟩ := h
    cases hret
    have hmove := Move.job hrow hstep
      (.claim agent.id _ _ hc.waiting hclaimed hcl (hR.window db.now))
    rw [hc.workspace] at hmove
    exact ⟨.single hmove, hothers⟩
  · rw [if_pos (by rw [hst]; decide)] at h
    cases h
    exact ⟨.single (.job hrow hstep (.keep _ (Nat.le_add_right _ 2) (.inr (.inl hnone)))), hothers⟩

/-- The turn of a row that was let through. -/
theorem claimRevalidated_rowStep (hwf : WellFormed db) (hR : R.Timed env) (hrow : row ∈ db.jobs)
    (hc : Claimable agent row)
    (h : claimRevalidated env agent reads row generation db = .ok (out, db')) :
    RowStep R row db db' := by
  unfold claimRevalidated at h
  split at h
  · obtain ⟨⟨written, db₁⟩, hupd, hret⟩ := bind_ok.mp h
    cases hret
    have hset : LiveSet R row (setApprovalInvalidated row) :=
      .of_waiting rfl hc.not_running (modeAllows_of_free rfl)
    exact updateJob_rowStep hwf hrow hc.live hset (.inl rfl) hupd
  split at h
  · obtain ⟨⟨written, db₁⟩, hupd, hret⟩ := bind_ok.mp h
    cases hret
    have hset : LiveSet R row (setDeployBlocked db.now row) :=
      .of_end rfl rfl (modeAllows_of_free rfl)
    exact updateJob_rowStep hwf hrow hc.live hset (.inl rfl) hupd
  · exact claimAndSign_rowStep hwf hR hrow hc h

theorem revalidate_allow {pem : Option String}
    (h : revalidateTrustJobForDispatch job db = (.allow pem generation, db')) : db' = db := by
  unfold revalidateTrustJobForDispatch at h
  split at h
  · cases h
    rfl
  · split at h
    · cases h
      rfl
    · cases h

theorem revalidate_deny (h : revalidateTrustJobForDispatch job db = (.deny reason, db')) :
    db' = onTrustJobTerminalTransition job.operation .rejected job.workspaceId job.id db := by
  unfold revalidateTrustJobForDispatch at h
  split at h
  · cases h
  · split at h
    · cases h
    · cases h
      rfl

theorem claimRow_rowStep (hwf : WellFormed db) (hR : R.Timed env) (hrow : row ∈ db.jobs)
    (hc : Claimable agent row) (h : claimRow env agent reads row db = .ok (out, db')) :
    RowStep R row db db' := by
  unfold claimRow at h
  split at h
  · cases h
    exact .refl
  split at h
  · rename_i reason db₁ hval
    rw [revalidate_deny hval] at h
    exact rejectDenied_rowStep hwf hrow hc h
  · rename_i pem generation db₁ hval
    rw [revalidate_allow hval] at h
    exact claimRevalidated_rowStep hwf hR hrow hc h

/-- The rows a claim loop may turn to. -/
structure Turns (agent : AgentIdentity) (rows : List JobRow) (db : Db) : Prop where
  wf : WellFormed db
  nodup : KeyNodup (fun j : JobRow => j.id) rows
  row : ∀ r ∈ rows, r ∈ db.jobs ∧ Claimable agent r

/-- After a turn the loop may turn to the other rows. -/
theorem Turns.turn (h : Turns agent (row :: rows) db) (hR : R.Timed env)
    (hrow : claimRow env agent reads row db = .ok (out, db')) :
    RowStep R row db db' ∧ Turns agent rows db' ∧ ∀ r ∈ rows, r.id ≠ row.id := by
  obtain ⟨hmem, hrest⟩ := List.forall_mem_cons.mp h.row
  have hstep : RowStep R row db db' := claimRow_rowStep h.wf hR hmem.1 hmem.2 hrow
  have hnodup := List.nodup_cons.mp h.nodup
  refine ⟨hstep, ⟨hstep.moves.wellFormed h.wf, hnodup.2, fun r hr => ⟨?_, (hrest r hr).2⟩⟩, ?_⟩
  · exact hstep.rest h.nodup (fun r hr => (hrest r hr).1) r hr
  · intro r hr hid
    exact hnodup.1 (List.mem_map.mpr ⟨r, hr, hid⟩)

/-- **THE CLAIM LOOP** over any rows of the table it may have selected. -/
theorem claimLoop_moves (hR : R.Timed env) (rows : List JobRow) (hturns : Turns agent rows db)
    {out : List Dispatched} (h : claimLoop env agent reads rows db = .ok (out, db')) :
    Moves R db db' := by
  induction rows generalizing db out with
  | nil =>
    cases h
    exact .refl _
  | cons row rows ih =>
    simp only [claimLoop, bind_ok] at h
    obtain ⟨⟨signed, db₁⟩, hrow, ⟨rest, db₂⟩, hloop, hret⟩ := h
    cases hret
    obtain ⟨hstep, hturns, -⟩ := hturns.turn hR hrow
    exact hstep.moves.trans (ih hturns hloop)

theorem selectClaimable_spec (agent : AgentIdentity) (kind : AgentKind) (caps : AgentCaps)
    (reads : ClaimReads) (n : Nat) (hwf : WellFormed db) :
    Turns agent (selectClaimable agent kind caps reads n db) db := by
  refine ⟨hwf, keyNodup_selection hwf.jobs.key _ _, ?_⟩
  intro r hr
  obtain ⟨hmem, hsel⟩ := mem_selection hr
  simp only [claimSelectable, Bool.and_eq_true, Bool.or_eq_true, decide_eq_true_eq] at hsel
  refine ⟨hmem, ?_, hsel.1.1.1.1.1.1⟩
  obtain hp | hp := hsel.1.1.1.2
  · simp only [pendingClaimable, decide_eq_true_eq] at hp
    exact .inl hp.1
  · simp only [reclaimable, decide_eq_true_eq] at hp
    exact .inr hp.1

/-- What a claim does before its selection is a frame. -/
theorem beginClaim_move (h : beginClaim env agent sequence caps reads db = .ok (proceed, db')) :
    Move R db db' := by
  simp only [beginClaim, bind_ok, require_ok] at h
  obtain ⟨agents, -, -, -, h⟩ := h
  split at h
  · cases h
    exact .frame le_rfl le_rfl rfl rfl rfl fun _ h => h
  · obtain ⟨-, -, hret⟩ := bind_ok.mp h
    cases hret
    exact .frame le_rfl le_rfl rfl rfl rfl fun _ h => h

theorem beginClaim_jobs (h : beginClaim env agent sequence caps reads db = .ok (proceed, db')) :
    db'.jobs = db.jobs := by
  simp only [beginClaim, bind_ok] at h
  obtain ⟨agents, -, -, -, h⟩ := h
  split at h
  · cases h
    rfl
  · obtain ⟨-, -, hret⟩ := bind_ok.mp h
    cases hret
    rfl

theorem claimJobs_moves (hwf : WellFormed db) (hR : R.Timed env) {out : List Dispatched}
    (h : claimJobs env agent sequence caps maxJobs reads db = .ok (out, db')) : Moves R db db' := by
  simp only [claimJobs, bind_ok] at h
  obtain ⟨⟨proceed, db₀⟩, hbegin, h⟩ := h
  have hmove : Move R db db₀ := beginClaim_move hbegin
  have hwf₀ := hmove.wellFormed hwf
  split at h
  · exact (Moves.single hmove).trans
      (claimLoop_moves hR _ (selectClaimable_spec agent _ caps reads _ hwf₀) h)
  · cases h
    exact .single hmove

/-! ## §3. The turns of a claim. -/

/-- `claimJobs`, called in `db`, comes to the turn of `row` in the state `db₁`
    that the earlier turns left. -/
def ClaimTurn (env : Env) (agent : AgentIdentity) (sequence : Option Nat) (caps : AgentCaps)
    (maxJobs : Nat) (reads : ClaimReads) (db : Db) (row : JobRow) (db₁ : Db) : Prop :=
  ∃ db₀ earlier later signed,
    beginClaim env agent sequence caps reads db = .ok (true, db₀) ∧
    selectClaimable agent (agentKindOf db₀ agent.id) caps reads (claimLimit maxJobs) db₀ =
      earlier ++ row :: later ∧
    claimLoop env agent reads earlier db₀ = .ok (signed, db₁)

def firstTurn (env : Env) (agent : AgentIdentity) (sequence : Option Nat) (caps : AgentCaps)
    (maxJobs : Nat) (reads : ClaimReads) (db : Db) : Option (JobRow × Db) :=
  match beginClaim env agent sequence caps reads db with
  | .ok (true, db₀) =>
    (selectClaimable agent (agentKindOf db₀ agent.id) caps reads (claimLimit maxJobs) db₀).head?.map
      fun row => (row, db₀)
  | _ => none

theorem firstTurn_some (h : firstTurn env agent sequence caps maxJobs reads db = some (row, db₁)) :
    ClaimTurn env agent sequence caps maxJobs reads db row db₁ := by
  unfold firstTurn at h
  split at h
  · rename_i db₀ hbegin
    obtain ⟨r, hr, heq⟩ := Option.map_eq_some_iff.mp h
    cases heq
    obtain ⟨later, hsel⟩ := List.head?_eq_some_iff.mp hr
    exact ⟨db₁, [], later, [], hbegin, hsel, rfl⟩
  · cases h

/-- The loop over the rows before a row leaves that row alone. -/
theorem claimLoop_others (hR : R.Timed env) (rows : List JobRow) (hturns : Turns agent rows db)
    (hrow : row ∈ db.jobs) (hne : ∀ r ∈ rows, r.id ≠ row.id) {out : List Dispatched}
    (h : claimLoop env agent reads rows db = .ok (out, db')) :
    row ∈ db'.jobs := by
  induction rows generalizing db out with
  | nil =>
    cases h
    exact hrow
  | cons first rows ih =>
    simp only [claimLoop, bind_ok] at h
    obtain ⟨⟨signed, db₁⟩, hfirst, ⟨rest, db₂⟩, hloop, hret⟩ := h
    cases hret
    rw [List.forall_mem_cons] at hne
    obtain ⟨hstep, hturns, -⟩ := hturns.turn hR hfirst
    exact ih hturns (hstep.others row hrow hne.1.symm) hne.2 hloop

theorem ClaimTurn.spec (hR : R.Timed env) (hwf : WellFormed db)
    (h : ClaimTurn env agent sequence caps maxJobs reads db row db₁) :
    Moves R db db₁ ∧ row ∈ db₁.jobs ∧ Claimable agent row := by
  obtain ⟨db₀, earlier, later, signed, hbegin, hsel, hloop⟩ := h
  have hmove : Move R db db₀ := beginClaim_move hbegin
  have hwf₀ := hmove.wellFormed hwf
  have hturns := selectClaimable_spec agent (agentKindOf db₀ agent.id) caps reads
    (claimLimit maxJobs) hwf₀
  rw [hsel] at hturns
  have hnodup := hturns.nodup
  unfold KeyNodup at hnodup
  rw [List.map_append, List.nodup_append] at hnodup
  have hearlier : Turns agent earlier db₀ :=
    ⟨hwf₀, hnodup.1, fun r hr => hturns.row r (List.mem_append_left _ hr)⟩
  have hrow := hturns.row row (by simp)
  refine ⟨(Moves.single hmove).trans (claimLoop_moves hR _ hearlier hloop), ?_, hrow.2⟩
  exact claimLoop_others hR _ hearlier hrow.1
    (fun r hr => hnodup.2.2 _ (List.mem_map_of_mem hr) _ (by simp)) hloop

theorem claimRow_signed (h : claimRow env agent reads row db = .ok (some d, db')) :
    d.jobId = row.id ∧
      ∃ pem generation, revalidateTrustJobForDispatch row db = (.allow pem generation, db) := by
  unfold claimRow at h
  split at h
  · cases h
  split at h
  · unfold rejectDenied at h
    split at h
    · obtain ⟨_, -, hret⟩ := bind_ok.mp h
      cases hret
    · cases h
  · rename_i pem generation db₁ hval
    have hdb := revalidate_allow hval
    subst hdb
    refine ⟨?_, pem, generation, hval⟩
    unfold claimRevalidated at h
    split at h
    · obtain ⟨_, -, hret⟩ := bind_ok.mp h
      cases hret
    split at h
    · obtain ⟨_, -, hret⟩ := bind_ok.mp h
      cases hret
    obtain ⟨⟨written, db₂⟩, -, h⟩ := bind_ok.mp h
    simp only at h
    split at h
    · cases h
    · simp only [bind_ok] at h
      obtain ⟨-, -, -, -, -, -, hret⟩ := h
      cases hret
      rfl

theorem claimLoop_signed (rows : List JobRow) {out : List Dispatched}
    (h : claimLoop env agent reads rows db = .ok (out, db')) (hd : d ∈ out) :
    ∃ earlier row later signed db₁ db₂, rows = earlier ++ row :: later ∧
      claimLoop env agent reads earlier db = .ok (signed, db₁) ∧
      claimRow env agent reads row db₁ = .ok (some d, db₂) := by
  induction rows generalizing db out with
  | nil =>
    cases h
    cases hd
  | cons row rows ih =>
    simp only [claimLoop, bind_ok] at h
    obtain ⟨⟨first, db₁⟩, hfirst, ⟨rest, db₂⟩, hloop, hret⟩ := h
    cases hret
    rw [List.mem_append] at hd
    obtain hd | hd := hd
    · have hsome : first = some d := by simpa using hd
      exact ⟨[], row, rows, [], db, db₁, rfl, rfl, hsome ▸ hfirst⟩
    · obtain ⟨earlier, r, later, signed, db₃, db₄, rfl, hearlier, hr⟩ := ih hloop hd
      refine ⟨row :: earlier, r, later, first.toList ++ signed, db₃, db₄, rfl, ?_, hr⟩
      simp only [claimLoop, bind_ok]
      exact ⟨(first, db₁), hfirst, (signed, db₃), hearlier, rfl⟩

/-- **EVERY DISPATCH HAS ITS TURN**: the job waited, and a trust job was let
    through by the revalidation in that very state. -/
theorem claimJobs_dispatched {out : List Dispatched}
    (h : claimJobs env agent sequence caps maxJobs reads db = .ok (out, db')) (hd : d ∈ out) :
    ∃ row db₁ pem generation, ClaimTurn env agent sequence caps maxJobs reads db row db₁ ∧
      d.jobId = row.id ∧ revalidateTrustJobForDispatch row db₁ = (.allow pem generation, db₁) := by
  simp only [claimJobs, bind_ok] at h
  obtain ⟨⟨proceed, db₀⟩, hbegin, h⟩ := h
  split at h
  · rename_i hproceed
    obtain ⟨earlier, row, later, signed, db₁, db₂, hsel, hloop, hrow⟩ := claimLoop_signed _ h hd
    obtain ⟨hid, pem, generation, hval⟩ := claimRow_signed hrow
    have hp : proceed = true := hproceed
    rw [hp] at hbegin
    exact ⟨row, db₁, pem, generation, ⟨db₀, earlier, later, signed, hbegin, hsel, hloop⟩, hid, hval⟩
  · cases h
    cases hd

/-! ## §4. Lease renewal. -/

theorem lockAgentJob_ok (h : lockAgentJob agent id db = .ok job) :
    job ∈ db.jobs ∧ job.id = id ∧ job.workspaceId = agent.workspaceId ∧
      job.executorKind = .agent := by
  unfold lockAgentJob at h
  split at h
  · cases h
  · rename_i j hfound
    cases h
    obtain ⟨hj, hp⟩ := selectOne_some hfound
    exact ⟨hj, by simpa using hp⟩

theorem inFlight_live (h : status.inFlight = true) :
    isTerminalJobStatus status = false := by
  cases status <;> first | rfl | cases h

/-- **A LEASE RENEWAL** leaves the job running; its nonces move on with it. -/
theorem renewJobLease_ok (hwf : WellFormed db) (hR : R.Timed env) {claimId : Nat} {reads : RenewReads}
    (h : renewJobLease env agent id claimId sequence reads db = .ok db') :
    Moves R db db' ∧ ∃ j ∈ db'.jobs, j.id = id ∧ j.status = .running := by
  simp only [renewJobLease, bind_ok, require_ok] at h
  obtain ⟨agents, -, job, hlock, -, hown, -, hflight, -, -, ⟨written, db₁⟩, hupd, -, -, hret⟩ := h
  cases hret
  obtain ⟨hj, hid, hws, -⟩ := lockAgentJob_ok hlock
  simp only [ownsClaim, decide_eq_true_eq] at hown
  have hframe : Move R db { db with agents := agents } :=
    .frame le_rfl le_rfl rfl rfl rfl fun _ h => h
  obtain ⟨new, -, htrig, hnewid, -, rfl⟩ :=
    updateJob_of_mem (hframe.wellFormed hwf) hj rfl hupd
  -- A job in flight is already started, so no trigger cancels the renewal.
  have hstart : alreadyStarted (some job) = true := hflight
  obtain ⟨hst, hcl⟩ | ⟨-, -, -, hno⟩ := htrig.status_claim
  · have hrunning : new.status = .running := hst
    have hset : LiveSet R job
        (setRenewed (db.now + jobLeaseSeconds env.timing * 1000) db.now job) :=
      ⟨rfl, fun _ => .inl rfl, modeAllows_of_free rfl⟩
    have hclaim : new.claim = (job.claimId, some agent.id,
        some (db.now + jobLeaseSeconds env.timing * 1000)) := by
      rw [hcl, ← hown.1]
      rfl
    have hmove : Move R { db with agents := agents } _ :=
      .job hj (hset.step (inFlight_live hflight) htrig)
        (.extend agent.id _ _ hown.1 hrunning hclaim (hR.window db.now))
    rw [hws] at hmove
    refine ⟨(Moves.single hframe).trans (.single hmove), new, ?_, hnewid.trans hid, hrunning⟩
    exact mem_replaceJob_self hj hnewid
  · exact absurd (Or.inr rfl) (hno hstart)

/-! ## §5. Results. -/

theorem resultJobStatus_ok (h : resultJobStatus body = .ok status) : isTerminalJobStatus status = true := by
  unfold resultJobStatus resultStatusToJobStatus at h
  split at h
  · rename_i st hst
    cases h
    split at hst <;> cases hst <;> rfl
  · cases h

theorem lockClaim_ok (h : lockClaim agent body db = .ok job) :
    db.jobOf agent.workspaceId body.jobId = some job ∧
      job.claimedByAgentId = some agent.id ∧ job.claimId = body.claimId := by
  unfold lockClaim at h
  split at h
  · cases h
  · rename_i j hfound
    split at h
    · rename_i hown
      cases h
      exact ⟨hfound, hown⟩
    · cases h

theorem checkResultMode_ok {mode : JobMode} {u : Unit} (h : checkResultMode mode status = .ok u) :
    (mode = .dryRun → status ≠ .succeeded) ∧ (mode = .real → status ≠ .dryRunComplete) ∧
      (mode = .dryRun → status ≠ .orphanedUnknownEffect) ∧
      (mode = .dryRun → status ≠ .awaitingIssuer) := by
  simp only [checkResultMode, bind_ok, require_ok, decide_eq_true_eq, not_and] at h
  obtain ⟨-, h₁, -, h₂, -, h₃, h₄⟩ := h
  exact ⟨h₁, h₂, h₃, h₄⟩

theorem consumeNonce_consumed {nonce : Option Nat} {job agent : Nat}
    (h : consumeNonce nonce job ws agent db = (.consumed, db')) :
    ∃ x, nonce = some x ∧ (∃ n ∈ db.nonces, nonceConsumable db.now x job ws agent n = true) ∧
      db' = { db with
        nonces := updateWhere (nonceConsumable db.now x job ws agent)
          (fun n => { n with consumedAt := some db.now }) db.nonces } := by
  unfold consumeNonce at h
  split at h
  · cases h
  · rename_i x
    split at h
    · rename_i hany
      cases h
      exact ⟨x, rfl, List.any_eq_true.mp hany, rfl⟩
    · split at h
      · split at h <;> cases h
      · cases h

theorem nonceConsumable_iff {now x job agent : Nat} {n : NonceRow} :
    nonceConsumable now x job ws agent n = true ↔
      n.nonce = x ∧ n.jobId = job ∧ n.workspaceId = ws ∧
        (n.issuedToAgentId = none ∨ n.issuedToAgentId = some agent) ∧ n.consumedAt = none ∧
        now < n.expiresAt := by
  simp only [nonceConsumable, nonceBinds, Bool.and_eq_true, decide_eq_true_eq, Option.isNone_iff_eq_none]
  constructor
  · intro h
    exact ⟨h.1.1.1, h.1.1.2.1, h.1.1.2.2.1, h.1.1.2.2.2, h.1.2, h.2⟩
  · intro h
    exact ⟨⟨⟨h.1, h.2.1, h.2.2.1, h.2.2.2.1⟩, h.2.2.2.2.1⟩, h.2.2.2.2.2⟩

theorem settled_of_check {row : InstallationRow} {r : TrustResult} (haction : r.action = job.operation)
    (hgen : genuineSuccessOutcome r.action r.outcome = true) :
    Settled row (row.settled r) job := by
  simp only [genuineSuccessOutcome, decide_eq_true_eq, haction] at hgen
  refine ⟨⟨rfl, rfl, rfl⟩, rfl, ?_, ?_⟩
  · intro hop
    obtain ⟨-, hout⟩ | ⟨hrev, -⟩ := hgen
    · show settledState r = .installed
      rw [settledState, if_pos hout]
    · rw [hop] at hrev
      cases hrev
  · intro hop
    obtain ⟨hdist, -⟩ | ⟨-, hout⟩ := hgen
    · rw [hop] at hdist
      cases hdist
    · refine ⟨?_, ?_⟩
      · show settledState r = .removed
        rw [settledState, if_neg]
        obtain ho | ho := hout <;> rw [ho] <;> decide
      · show settledProvenance r row.provenance = row.provenance
        rw [settledProvenance, if_neg]
        rw [haction, hop]
        simp

theorem ingestTrustJobResult_ok (h : ingestTrustJobResult env job result db = .ok db') :
    ∃ r row, result = some r ∧ db.installationOfJob job.workspaceId job.id = some row ∧
      Settled row (row.settled r) job ∧ r.transitionGeneration = row.transitionGeneration ∧
      db' = updateInstallation row.id (InstallationRow.settled r) db := by
  unfold ingestTrustJobResult at h
  split at h
  · cases h
  · rename_i r
    simp only [checkTrustResult, bind_ok, require_ok] at h
    obtain ⟨-, ⟨-, -, -, -, hgen⟩, h⟩ := h
    split at h
    · cases h
    · rename_i row hfound
      simp only [checkTrustResultIdentity, bind_ok, require_ok, decide_eq_true_eq] at h
      obtain ⟨-, ⟨-, haction, -, -, -, -, -, -, -, -, -, -, -, -, -, -, -, -, hgeneration⟩, hret⟩ := h
      cases hret
      exact ⟨r, row, rfl, hfound, settled_of_check haction hgen, hgeneration, rfl⟩

theorem settleTrust_jobs (h : settleTrust env job status result db = .ok db') :
    db'.jobs = db.jobs := by
  unfold settleTrust at h
  simp only at h
  split at h
  · cases h
    rfl
  split at h
  · obtain ⟨r, row, -, -, -, -, rfl⟩ := ingestTrustJobResult_ok h
    rfl
  split at h
  · cases h
    exact onTrustJobTerminalTransition_jobs
  · cases h
    rfl

/-- AN ACCEPTED RESULT: the job it ends, the row it leaves, and the database in
    which the reference of a trust job is then settled. -/
structure ResultAccepted (agent : AgentIdentity) (body : ResultBody) (db : Db) (job new : JobRow)
    (db₁ : Db) : Prop where
  found : db.jobOf agent.workspaceId body.jobId = some job
  owner : job.claimedByAgentId = some agent.id
  claim : job.claimId = body.claimId
  flight : job.status.inFlight = true
  status : resultJobStatus body = .ok new.status
  mode : checkResultMode job.mode new.status = .ok ()
  spec : new.toJobSpec = job.toJobSpec
  keeps : new.claimId = job.claimId
  nonce : ∃ x, body.nonce = some x ∧
    (∃ n ∈ db.nonces,
      nonceConsumable db.now x body.jobId agent.workspaceId agent.id n = true) ∧
    ∃ agents, db₁ = { db with
      agents := agents
      nonces := updateWhere (nonceConsumable db.now x body.jobId agent.workspaceId agent.id)
        (fun n => { n with consumedAt := some db.now }) db.nonces
      jobs := replaceJob new db.jobs }

/-- **A RESULT** is a duplicate that changes nothing, or it is accepted. -/
theorem ingestResult_ok (hwf : WellFormed db) {reads : ResultReads} {reply : ResultReply}
    (h : ingestResult env agent sequence body reads db = .ok (reply, db')) :
    db' = db ∨ ∃ job new db₁, ResultAccepted agent body db job new db₁ ∧
      settleTrust env job new.status body.trustResult db₁ = .ok db' := by
  simp only [ingestResult, bind_ok] at h
  obtain ⟨status, hstatus, job, hlock, _, hmode, -, -, h⟩ := h
  obtain ⟨hfound, howner, hclaim⟩ := lockClaim_ok hlock
  obtain ⟨hj, hws, hid⟩ := jobOf_some hfound
  split at h
  · rename_i db₀ hconsume
    obtain ⟨x, hx, hopen, rfl⟩ := consumeNonce_consumed hconsume
    simp only [acceptResult, bind_ok, require_ok] at h
    obtain ⟨agents, -, -, hflight, -, -, ⟨written, db₁⟩, hupd, db₂, hsettle, hret⟩ := h
    cases hret
    have hend := resultJobStatus_ok hstatus
    -- Only the rows of the job are looked up, so its key is enough.
    have hkey : JobsKeyed db.jobs db.nextId := hwf.jobs
    obtain ⟨-, -, hnone⟩ | ⟨old, new, hold, -, htrig, hdb⟩ := updateJob_ok hupd
    · have hsome : db.jobById job.id = some job := hkey.key.selectOne_eq hj
      rw [show db.jobById job.id = none from hnone] at hsome
      cases hsome
    · have hsome : db.jobById job.id = some job := hkey.key.selectOne_eq hj
      rw [show db.jobById job.id = some old from hold] at hsome
      cases hsome
      obtain ⟨hst, hcl⟩ | ⟨-, -, hactive, -⟩ := htrig.status_claim
      · have hnew : new.status = status := hst
        have hspec : new.toJobSpec = job.toJobSpec := htrig.spec
        have hnewid : new.id = job.id := congrArg JobSpec.id hspec
        refine .inr ⟨job, new, db₁, ⟨hfound, howner, hclaim, hflight, hnew ▸ hstatus,
          hnew ▸ hmode, hspec, congrArg Prod.fst hcl, x, hx, hopen, agents, ?_⟩, ?_⟩
        · rw [hdb, replaceJob, replaceByKey, hnewid]
        · rw [hnew]
          exact hsettle
      · rw [show isTerminalJobStatus status = false from hactive] at hend
        cases hend
  · rename_i outcome db₀ hconsume
    split at h
    · cases h
      exact .inl rfl
    · cases h

theorem ResultAccepted.step (h : ResultAccepted agent body db job new db₁) : JobStep R job new := by
  obtain ⟨hdry, hreal, -, hawait⟩ := checkResultMode_ok h.mode
  exact ⟨h.spec, inFlight_live h.flight, fun _ => .inr (resultJobStatus_ok h.status),
    ⟨hdry, hreal, fun hm hs => absurd hs (hawait hm)⟩⟩

theorem ResultAccepted.consumes (h : ResultAccepted agent body db job new db₁) :
    ∃ agents nonces, db₁ = { db with
        agents := agents, nonces := nonces, jobs := replaceJob new db.jobs } ∧
      NonceMove R { db with agents := agents } job new db.nextId nonces := by
  obtain ⟨x, -, -, agents, hdb⟩ := h.nonce
  obtain ⟨-, -, hid⟩ := jobOf_some h.found
  refine ⟨agents, _, hdb, .consume _ ?_ (resultJobStatus_ok h.status) h.keeps⟩
  intro n hn
  obtain ⟨-, hjob, -, -, hopen, -⟩ := nonceConsumable_iff.mp hn
  exact ⟨hopen, hjob.trans hid.symm⟩

theorem settles_of_status (hstatus : resultJobStatus body = .ok status)
    (h : status = .succeeded ∨ (trustJobTerminalNegative status = true ∧ (body.trustResult.map (·.mutationPerformed)).getD false = true)) :
    body.settles = true := by
  unfold ResultBody.settles
  obtain rfl | ⟨-, hmutated⟩ := h
  · -- Only the text "succeeded" is the status `succeeded`.
    have htext : body.status = "succeeded" := by
      unfold resultJobStatus resultStatusToJobStatus at hstatus
      split at hstatus
      · rename_i st hst
        cases hstatus
        split at hst <;> first | assumption | cases hst
      · cases hstatus
    simp [htext]
  · simp [hmutated]

theorem ResultAccepted.moves (hwf : WellFormed db) (h : ResultAccepted agent body db job new db₁)
    (hinstall : ∀ row, body.settles = true → db.installationOfJob job.workspaceId job.id = some row → job.operation = .distributeTrust → R.install db.jobs db.installations row)
    (hsettle : settleTrust env job new.status body.trustResult db₁ = .ok db') : Moves R db db' := by
  obtain ⟨hj, -, -⟩ := jobOf_some h.found
  have hend := resultJobStatus_ok h.status
  obtain ⟨agents, nonces, rfl, hnonce⟩ := h.consumes (R := R)
  have hframe : Move R db { db with agents := agents } :=
    .frame le_rfl le_rfl rfl rfl rfl fun _ h => h
  have hjob : Move R { db with agents := agents } _ := .job hj h.step hnonce
  have hwf₀ := hframe.wellFormed hwf
  have hnewid : new.id = job.id := congrArg JobSpec.id h.spec
  refine (Moves.single hframe).trans ?_
  unfold settleTrust at hsettle
  simp only at hsettle
  split at hsettle
  · cases hsettle
    exact .single hjob
  rename_i htrust
  split at hsettle
  · -- The job and its reference are settled in one move.
    rename_i hwhy
    have hsettles : body.settles = true := settles_of_status h.status (by simpa using hwhy)
    obtain ⟨r, row, -, hfound, hset, -, rfl⟩ := ingestTrustJobResult_ok hsettle
    obtain ⟨hrow, -, hlast⟩ := installationOfJob_some hfound
    have hmove : Move R { db with agents := agents } _ :=
      .settle row _ hj h.flight h.step hend hnonce hrow hlast hset (by simpa using htrust)
        (hinstall row hsettles hfound)
    have hupd := updateInstallation_eq hwf₀ hrow (f := InstallationRow.settled r) rfl
    have hrows := congrArg Db.installations hupd
    simp only [updateInstallation] at hrows ⊢
    rw [hrows]
    exact .single hmove
  split at hsettle
  · cases hsettle
    refine (Moves.single hjob).trans ?_
    rw [← hnewid]
    exact unwind_moves (hjob.wellFormed hwf₀) (mem_replaceJob_self hj hnewid) hend
  · cases hsettle
    exact .single hjob

end TokenTimer.CertOps
