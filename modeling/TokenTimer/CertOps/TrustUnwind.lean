/-
  TokenTimer.CertOps.TrustUnwind — when unwinding a trust job undoes its creation.

  A creation advances the reference from ANY state to `pending_install` or
  `pending_remove`; the unwinding decides from the pending state alone, deleting
  the one and reverting the other to `installed`.  So it undoes the creation
  exactly when the creation came from "no reference", or from `installed`.

  Main results:
    * `unwind_dispatched` — what unwinding leaves of the reference of a job.
    * `unwind_undoes_creation_iff` — the condition, for every creation in every
        reachable state and every run up to the unwinding.
-/

import TokenTimer.CertOps.SystemRefinement

namespace TokenTimer.CertOps

open Lib.Table Lib.Runs

variable {R : Regime} {env : Env} {db db' : Db}

/-! ## §1. The reference of a key. -/

def referenceOf (db : Db) (key : TrustTuple × String) : Option (TransitionState × Provenance) :=
  (installationByKey db key).map fun r => (r.transitionState, r.provenance)

def lastJobOf (db : Db) (key : TrustTuple × String) : Option Nat :=
  (installationByKey db key).bind (·.lastJobId)

variable {row : InstallationRow} {id : Nat} {opts : TrustJobOptions} {ctx : TrustContext}
    {reply : TrustJobReply}

/-- The reference of a job is the one that names it. -/
theorem installationOfJob_of_mem (hwf : WellFormed db) {ws : Nat} (hrow : row ∈ db.installations)
    (hws : row.workspaceId = ws) (hlast : row.lastJobId = some id) :
    db.installationOfJob ws id = some row := by
  cases hfound : db.installationOfJob ws id with
  | none =>
    have hnot := selectOne_none.mp hfound row hrow
    simp [hws, hlast] at hnot
  | some x =>
    obtain ⟨hx, -, hxlast⟩ := installationOfJob_some hfound
    rw [hwf.rows.lastUnique x hx row hrow id hxlast hlast]

theorem installationByKey_eq (key : TrustTuple × String) (hwf : WellFormed db)
    (hrow : row ∈ db.installations) (hkey : row.key = key) :
    installationByKey db key = some row := by
  rw [← hkey]
  exact installationByKey_of_mem hwf hrow

/-! ## §2. What unwinding leaves. -/

/-- **UNWINDING A JOB** whose reference is pending: the pending install is gone,
    the pending removal is installed again with the provenance it had. -/
theorem unwind_dispatched (hwf : WellFormed db) {op : JobOperation} {status : JobStatus}
    {key : TrustTuple × String} (hop : isTrustAnchorOperation op = true)
    (hneg : trustJobTerminalNegative status = true) (hrow : installationByKey db key = some row)
    (hlast : row.lastJobId = some id) :
    (row.transitionState = .pendingInstall →
      referenceOf (onTrustJobTerminalTransition op status key.1.workspaceId id db) key = none) ∧
    (row.transitionState = .pendingRemove →
      referenceOf (onTrustJobTerminalTransition op status key.1.workspaceId id db) key =
        some (.installed, row.provenance)) := by
  obtain ⟨hmem, hkey⟩ := installationByKey_some hrow
  have hws : row.workspaceId = key.1.workspaceId := by rw [← hkey]; rfl
  have hfound := installationOfJob_of_mem hwf hmem hws hlast
  have hunwind : onTrustJobTerminalTransition op status key.1.workspaceId id db =
      (unwindInstallation status row db).2 := by
    unfold onTrustJobTerminalTransition unwindTerminalTrustJob
    simp [hop, hneg, hfound]
  rw [hunwind]
  refine ⟨?_, ?_⟩
  · intro hstate
    -- The key is unique, so no other row has it.
    have hnone : installationByKey (unwindInstallation status row db).2 key = none := by
      simp only [unwindInstallation, hstate]
      refine selectOne_none.mpr fun r hr => ?_
      obtain ⟨hr, hne⟩ := mem_deleteWhere.mp hr
      simp only [decide_eq_false_iff_not] at hne ⊢
      intro hrkey
      exact hne (congrArg InstallationRow.id
        (hwf.rows.unique.eq_of_mem hr hmem (hrkey.trans hkey.symm)))
    simp [referenceOf, hnone]
  · intro hstate
    simp only [unwindInstallation, hstate]
    rw [updateInstallation_eq hwf hmem rfl]
    have hkeyed : KeyNodup InstallationRow.key
        (replaceRow (row.reverted status) db.installations) :=
      keyNodup_replaceByKey_of_eq hwf.rows.key hwf.rows.unique hmem rfl rfl
    have hnew : selectOne (fun r => r.key = key)
        (replaceRow (row.reverted status) db.installations) = some (row.reverted status) := by
      rw [← hkey]
      exact hkeyed.selectOne_eq (mem_replaceByKey.mpr (.inr ⟨rfl, row, hmem, rfl⟩))
    simp only [referenceOf, installationByKey, hnew, Option.map_some]
    rfl

/-! ## §3. What a creation leaves. -/

theorem created_reference (hwf : WellFormed db) {job : JobRow}
    (hdone : TrustJobDone R opts ctx db reply db')
    (hop : isTrustAnchorOperation opts.operation = true) (hnew : reply.created = true)
    (hjob : reply.job = some job) :
    job.operation = opts.operation ∧ job.workspaceId = opts.workspaceId ∧
    lastJobOf db' (ctx.key opts) = some job.id ∧
    referenceOf db' (ctx.key opts) = some (nextTransitionState opts.operation,
      ((installationByKey db (ctx.key opts)).map (·.provenance)).getD .preexisting) := by
  have hwf' : WellFormed db' := (hdone.moves hop hwf).wellFormed hwf
  cases hdone with
  | releaseReplayed x row => cases hnew
  | released row _ _ _ _ _ _ hnone =>
    rw [hnone] at hjob
    cases hjob
  | jobReplayed _ _ _ _ _ hold | reinserted _ _ _ _ _ hold =>
    rw [hold] at hnew
    cases hnew
  | created row job' _ hrow _ hnewjob _ hreply _ =>
    rw [hreply] at hjob
    cases hjob
    obtain ⟨hmem, hkey⟩ := installationByKey_some hrow
    have hfound := installationByKey_eq (ctx.key opts) hwf'
      (mem_replaceByKey.mpr (.inr ⟨rfl, row, hmem, rfl⟩)) hkey
    refine ⟨hnewjob.operation, hnewjob.workspace, ?_, ?_⟩
    · rw [lastJobOf, hfound]
      rfl
    · rw [referenceOf, hfound, hrow]
      rfl
  | createdFresh job' _ _ hrow _ hnewjob hreply _ =>
    rw [hreply] at hjob
    cases hjob
    have hfound := installationByKey_eq (ctx.key opts) hwf'
      (List.mem_append_right _ (List.mem_singleton.mpr rfl)) rfl
    refine ⟨hnewjob.operation, hnewjob.workspace, ?_, ?_⟩
    · rw [lastJobOf, hfound]
      rfl
    · rw [referenceOf, hfound, hrow]
      rfl

/-! ## §4. When the unwinding undoes the creation. -/

theorem runCreateTrustJob_of_createTrustJob {reads : TrustReads}
    (hctx : trustContext env opts reads db = .ok ctx)
    (h : createTrustJob env opts reads db = .ok (reply, db')) :
    runCreateTrustJob env opts reads ctx db = .ok (reply, db') := by
  obtain ⟨ctx', hctx', hrun⟩ := bind_ok.mp h
  rw [hctx] at hctx'
  cases hctx'
  exact hrun

/-- **WHEN UNWINDING UNDOES A CREATION.**  A trust job is created in a reachable
    state; any run follows that leaves its reference as the creation did; then the
    job ends badly and is unwound.  The reference has its old state and provenance
    (or its old absence) if and only if it did not exist and was distributed, or
    was installed and was revoked. -/
theorem unwind_undoes_creation_iff {s s₁ s₂ : Db} {opts : TrustJobOptions} {reads : TrustReads}
    {ctx : TrustContext} {reply : TrustJobReply} {job : JobRow} {status : JobStatus}
    (hreach : Reachable (system env) anyStep s)
    (hctx : trustContext env opts reads s = .ok ctx)
    (hcreate : createTrustJob env opts reads s = .ok (reply, s₁))
    (hnew : reply.created = true) (hjob : reply.job = some job)
    (hrun : Run (system env) anyStep s₁ s₂)
    (hstate : referenceOf s₂ (ctx.key opts) = referenceOf s₁ (ctx.key opts))
    (hlast : lastJobOf s₂ (ctx.key opts) = lastJobOf s₁ (ctx.key opts))
    (hneg : trustJobTerminalNegative status = true) :
    referenceOf (onTrustJobTerminalTransition job.operation status job.workspaceId job.id s₂)
        (ctx.key opts) = referenceOf s (ctx.key opts) ↔
      (opts.operation = .distributeTrust ∧ installationByKey s (ctx.key opts) = none) ∨
      (opts.operation = .revokeTrust ∧
        ∃ row, installationByKey s (ctx.key opts) = some row ∧
          row.transitionState = .installed) := by
  have hwf := reachable_wellFormed hreach
  have hop := (trustContext_ok hctx).1
  have hdone : TrustJobDone (Regime.free env) opts ctx s reply s₁ :=
    createTrustJob_done hwf hop (runCreateTrustJob_of_createTrustJob hctx hcreate)
  obtain ⟨hjobop, hjobws, hlast₁, href₁⟩ := created_reference hwf hdone hop hnew hjob
  have hwf₂ : WellFormed s₂ :=
    (run_invariant (I := fun _ => True) (Regime.free_timed env)
      (fun _ call _ _ => permits_free call) (fun _ _ _ h _ => h) hrun
      ((hdone.moves hop hwf).wellFormed hwf) trivial).1
  -- The reference at the moment of the unwinding.
  rw [href₁] at hstate
  obtain ⟨row₂, hrow₂, hpair⟩ := Option.map_eq_some_iff.mp hstate
  obtain ⟨hst₂, hprov₂⟩ := Prod.mk.inj hpair
  have hlast₂ : row₂.lastJobId = some job.id := by
    rw [hlast₁, lastJobOf, hrow₂] at hlast
    exact hlast
  obtain ⟨hdelete, hrevert⟩ :=
    unwind_dispatched hwf₂ hop hneg hrow₂ hlast₂
  rw [hjobop, hjobws]
  change referenceOf (onTrustJobTerminalTransition opts.operation status
    (ctx.key opts).1.workspaceId job.id s₂) _ = _ ↔ _
  obtain hdist | hrev := isTrustAnchorOperation_cases hop
  · rw [hdelete (by rw [hst₂, hdist]; rfl)]
    cases hbefore : installationByKey s (ctx.key opts) with
    | none | some => simp [referenceOf, hbefore, hdist]
  · rw [hrevert (by rw [hst₂, hrev]; rfl), hprov₂]
    cases hbefore : installationByKey s (ctx.key opts) with
    | none => simp [referenceOf, hbefore, hrev]
    | some row =>
      simp only [referenceOf, hbefore, hrev, Option.map_some, Option.getD_some, Option.some.injEq,
        Prod.mk.injEq, and_true, reduceCtorEq, false_and, true_and, false_or, exists_eq_left']
      exact eq_comm

/-- A first distribute of owner A, unwound right after its creation. -/
theorem unwind_undoes_first_distribute :
    ∃ ctx reply s₁ job,
      trustContext Demo.env (Demo.trustJobOptions .distributeTrust "A" "k1") {}
        (play Demo.env Demo.setup) = .ok ctx ∧
      createTrustJob Demo.env (Demo.trustJobOptions .distributeTrust "A" "k1") {}
        (play Demo.env Demo.setup) = .ok (reply, s₁) ∧ reply.job = some job ∧
      referenceOf (onTrustJobTerminalTransition job.operation .rejected job.workspaceId job.id s₁)
          (ctx.key (Demo.trustJobOptions .distributeTrust "A" "k1")) =
        referenceOf (play Demo.env Demo.setup)
          (ctx.key (Demo.trustJobOptions .distributeTrust "A" "k1")) := by
  have hok : (createTrustJob Demo.env (Demo.trustJobOptions .distributeTrust "A" "k1") {}
      (play Demo.env Demo.setup)).toOption.map (fun x => x.1.created && x.1.job.isSome) = some true := by
    decide
  have hnone : (play Demo.env Demo.setup).installations = [] := by decide
  obtain ⟨⟨reply, s₁⟩, hcreate, hcreated⟩ := ok_of_map hok
  simp only [Bool.and_eq_true, Option.isSome_iff_exists] at hcreated
  obtain ⟨hnew, job, hjob⟩ := hcreated
  obtain ⟨ctx, hctx, -⟩ := bind_ok.mp hcreate
  refine ⟨ctx, reply, s₁, job, hctx, hcreate, hjob, ?_⟩
  refine (unwind_undoes_creation_iff (play_reachable _ _) hctx hcreate hnew hjob (.refl _) rfl rfl
    rfl).mpr (.inl ⟨rfl, ?_⟩)
  simp [installationByKey, hnone, selectOne]

/-- Owner A's confirmed reference is distributed again, and the new job rejected:
    the confirmed reference is deleted. -/
theorem unwind_deletes_installed :
    referenceOf (play Demo.env (Demo.setup ++ [Demo.trustJob .distributeTrust "A" "k1", Demo.claim,
        Demo.trustSucceed 3 4 5 2 .distributeTrust .installed])) (Demo.key "A") =
      some (.installed, .tokentimerInstalled) ∧
    (play Demo.env (Demo.setup ++ [Demo.trustJob .distributeTrust "A" "k1", Demo.claim,
        Demo.trustSucceed 3 4 5 2 .distributeTrust .installed,
        Demo.trustJobForApproval .distributeTrust "A" "k2",
        .rejectJob 7 6 none fun _ => {}])).jobs.map (fun j => (j.id, j.operation, j.status)) =
      [(3, .distributeTrust, .succeeded), (6, .distributeTrust, .rejected)] ∧
    referenceOf (play Demo.env (Demo.setup ++ [Demo.trustJob .distributeTrust "A" "k1", Demo.claim,
        Demo.trustSucceed 3 4 5 2 .distributeTrust .installed,
        Demo.trustJobForApproval .distributeTrust "A" "k2",
        .rejectJob 7 6 none fun _ => {}])) (Demo.key "A") = none := by
  refine ⟨?_, ?_, ?_⟩ <;> decide

end TokenTimer.CertOps
