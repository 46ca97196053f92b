/-
  TokenTimer.CertOps.TrustReplay — when repeating `createTrustJob` changes nothing.

  Two ledgers remember a call: the job under the scoped key, and the release row
  under the same key.  A repeated call re-decides its branch from the references
  as they are NOW, before it looks at either of them: a distribute whose reference
  is gone inserts it again, a revoke that once created a job may now release the
  reference without one.

  Main results:
    * `createTrustJob_noChange_iff` — exactly when a call changes neither the
        references nor the jobs.
    * `replay_noop_iff` — the same at every replay, where the key is on record.
-/

import TokenTimer.CertOps.SystemRefinement

namespace TokenTimer.CertOps

open Lib.Table Lib.Runs

variable {env : Env} {db db' : Db} {opts : TrustJobOptions} {reads : TrustReads}
  {ctx : TrustContext}

/-! ## §1. When the job of a trust call is refused. -/

/-- The job request of the call is refused: by a validator, because its key was
    used for another request, or, when the key is free, by the admission gates. -/
def JobRequestRefused (env : Env) (opts : TrustJobOptions) (reads : TrustReads)
    (ctx : TrustContext) (db : Db) : Prop :=
  match validateJobOptions (trustJobCreateOptions opts ctx) reads.create db with
  | .error _ => True
  | .ok (status, _) =>
    match getJobByIdempotencyKey db opts.workspaceId (some ctx.scopedKey) with
    | some job => job.creationRequestHash ≠ env.jobCreationRequestFingerprint
        (jobCreationRequest (trustJobCreateOptions opts ctx) status)
    | none => reads.create.admission.isSome = true

/-- **WHEN THE JOB IS CREATED OR REPLAYED.** -/
theorem createCertificateJob_trust_ok_iff :
    (∃ out db', createCertificateJob env (trustJobCreateOptions opts ctx) reads.create db =
      .ok (out, db')) ↔ ¬ JobRequestRefused env opts reads ctx db := by
  unfold createCertificateJob JobRequestRefused
  cases hval : validateJobOptions (trustJobCreateOptions opts ctx) reads.create db with
  | error e => simp [bind, Except.bind]
  | ok pair =>
    obtain ⟨status, kind⟩ := pair
    have hlookup : getJobByIdempotencyKey db (trustJobCreateOptions opts ctx).workspaceId
        (trustJobCreateOptions opts ctx).idempotencyKey =
        getJobByIdempotencyKey db opts.workspaceId (some ctx.scopedKey) := rfl
    simp only [bind, Except.bind]
    rw [hlookup]
    cases hkey : getJobByIdempotencyKey db opts.workspaceId (some ctx.scopedKey) with
    | some job =>
      simp only
      constructor
      · intro h hne
        obtain ⟨out, db', h⟩ := h
        rw [if_neg hne] at h
        cases h
      · intro h
        rw [if_pos (not_not.mp h)]
        exact ⟨_, _, rfl⟩
    | none =>
      simp only
      cases hadm : reads.create.admission with
      | some e => simp [passes]
      | none =>
        refine ⟨fun _ h => (by cases h), fun _ => ?_⟩
        exact ⟨_, _, rfl⟩

/-! ## §2. Branches that change nothing. -/

/-- Whenever the call succeeds, the references and the jobs are those of `db`. -/
def NoChange (db : Db) (x : Except ServiceError (TrustJobReply × Db)) : Prop :=
  ∀ reply db', x = .ok (reply, db') → db'.installations = db.installations ∧ db'.jobs = db.jobs

theorem noChange_error {e : ServiceError} : NoChange db (.error e) := by
  intro reply db' h
  cases h

variable {locked : InstallationRow} {ws : Nat} {R : Regime} {key : String}

/-- The tail of the call succeeds unless its job request is refused. -/
theorem dispatchTrustJob_ok_iff :
    (∃ reply db', dispatchTrustJob env opts reads ctx locked db = .ok (reply, db')) ↔
      ¬ JobRequestRefused env opts reads ctx db := by
  rw [show JobRequestRefused env opts reads ctx db = JobRequestRefused env opts reads ctx
      (updateInstallation locked.id (InstallationRow.advanced opts.operation db.now) db) from rfl,
    ← createCertificateJob_trust_ok_iff]
  unfold dispatchTrustJob
  constructor
  · intro h
    obtain ⟨reply, db', h⟩ := h
    obtain ⟨⟨out, db₁⟩, hcreate, -⟩ := bind_ok.mp h
    exact ⟨out, db₁, hcreate⟩
  · intro h
    obtain ⟨out, db₁, hcreate⟩ := h
    by_cases hnew : out.created = true
    · exact ⟨_, _, bind_ok.mpr ⟨(out, db₁), hcreate, by simp only [hnew, if_true]; rfl⟩⟩
    · exact ⟨_, _, bind_ok.mpr ⟨(out, db₁), hcreate, by
        simp only [Bool.not_eq_true] at hnew
        simp only [hnew, Bool.false_eq_true, if_false]
        rfl⟩⟩

theorem dispatchTrustJob_noChange_iff (hwf : WellFormed db) (hrow : locked ∈ db.installations) :
    NoChange db (dispatchTrustJob env opts reads ctx locked db) ↔
      JobRequestRefused env opts reads ctx db ∨
        (getJobByIdempotencyKey db opts.workspaceId (some ctx.scopedKey)).isSome = true := by
  constructor
  · intro h
    by_contra hnot
    rw [not_or] at hnot
    obtain ⟨reply, db', hok⟩ := dispatchTrustJob_ok_iff.mpr hnot.1
    obtain ⟨job, hkey, -, -⟩ | ⟨job, -, -, -, -, rfl⟩ :=
      dispatchTrustJob_ok (R := Regime.free env) hwf hrow hok
    · exact hnot.2 (by rw [hkey]; rfl)
    · have hjobs : db.jobs ++ [job] = db.jobs := (h reply _ hok).2
      simp at hjobs
  · intro h reply db' hok
    obtain ⟨job, -, -, rfl⟩ | ⟨job, hkey, -, -, -, -⟩ :=
      dispatchTrustJob_ok (R := Regime.free env) hwf hrow hok
    · exact ⟨rfl, rfl⟩
    · obtain hrefused | hused := h
      · exact absurd hrefused (dispatchTrustJob_ok_iff.mp ⟨reply, db', hok⟩)
      · rw [hkey] at hused
        cases hused

theorem releaseReference_changes (hwf : WellFormed db) (hrow : locked ∈ db.installations) :
    ¬ NoChange db (.ok (releaseReference opts ctx locked db)) := by
  intro h
  have hrows : (releaseReference opts ctx locked db).2.installations = db.installations :=
    (h _ _ rfl).1
  have hreleased : (releaseReference opts ctx locked db).2.installations =
      replaceRow (locked.released db.now) db.installations := by
    simp only [releaseReference]
    rw [updateInstallation_eq hwf hrow rfl]
    unfold recordTrustReferenceRelease
    split <;> rfl
  have hmem : locked.released db.now ∈ db.installations := by
    rw [← hrows, hreleased]
    exact mem_replaceByKey.mpr (.inr ⟨rfl, locked, hrow, rfl⟩)
  have heq : locked.released db.now = locked := hwf.rows.key.eq_of_mem hmem hrow rfl
  have hgen : locked.transitionGeneration + 1 = locked.transitionGeneration :=
    congrArg InstallationRow.transitionGeneration heq
  omega

theorem dispatchTrustJob_fresh_noChange_iff (hwf : WellFormed db)
    (hfree : installationByKey db (ctx.key opts) = none) :
    NoChange db (dispatchTrustJob env opts reads ctx
        (freshInstallation db.nextId opts.trustAnchorId (ctx.key opts))
        (db.insertFresh opts.trustAnchorId (ctx.key opts))) ↔
      JobRequestRefused env opts reads ctx db := by
  have hsame : JobRequestRefused env opts reads ctx
      (db.insertFresh opts.trustAnchorId (ctx.key opts)) = JobRequestRefused env opts reads ctx db :=
    rfl
  have hwf₁ := (insertFresh_move (R := Regime.free env) opts.trustAnchorId hfree).wellFormed hwf
  constructor
  · intro h
    by_contra hnot
    rw [← hsame] at hnot
    obtain ⟨reply, db', hok⟩ := dispatchTrustJob_ok_iff.mpr hnot
    have hrows := (h reply db' hok).1
    have hlonger : db'.installations.length = db.installations.length + 1 := by
      obtain ⟨job, -, -, rfl⟩ | ⟨job, -, -, -, -, rfl⟩ :=
        dispatchTrustJob_ok (R := Regime.free env) hwf₁ (mem_insertFresh _ _ _) hok
      · simp [Db.insertFresh]
      · simp [Db.insertFresh, replaceRow, replaceByKey, updateWhere]
    rw [hrows] at hlonger
    omega
  · intro h reply db' hok
    rw [← hsame] at h
    exact absurd h (dispatchTrustJob_ok_iff.mp ⟨reply, db', hok⟩)

/-! ## §3. Exactly when a call changes nothing. -/

/-- A revoke on the reference `row` takes a branch that changes nothing: the
    release is in the ledger, the reference is removed and no job has the key, or
    it is the last confirmed one of genuine material and its job is refused or
    replayed. -/
def RevokeSettled (env : Env) (opts : TrustJobOptions) (reads : TrustReads) (ctx : TrustContext)
    (db : Db) (row : InstallationRow) : Prop :=
  (findTrustReferenceRelease db opts.workspaceId ctx.scopedKey).isSome = true ∨
  (row.transitionState = .removed ∧
    getJobByIdempotencyKey db opts.workspaceId (some ctx.scopedKey) = none) ∨
  (¬ OtherLive db row ∧ Genuine db row.tuple ∧
    (JobRequestRefused env opts reads ctx db ∨
      (getJobByIdempotencyKey db opts.workspaceId (some ctx.scopedKey)).isSome = true))

/-- The state in which a call changes nothing: its guards refuse it, or a
    distribute has both its reference and its job (or is refused), or a revoke has
    no reference or a settled one. -/
def ReplaySafe (env : Env) (opts : TrustJobOptions) (reads : TrustReads) (db : Db) : Prop :=
  ∀ ctx, trustContext env opts reads db = .ok ctx →
    (opts.operation = .distributeTrust →
      JobRequestRefused env opts reads ctx db ∨
        ((installationByKey db (ctx.key opts)).isSome = true ∧
          (getJobByIdempotencyKey db opts.workspaceId (some ctx.scopedKey)).isSome = true)) ∧
    (opts.operation = .revokeTrust →
      ∀ row, installationByKey db (ctx.key opts) = some row →
        RevokeSettled env opts reads ctx db row)

theorem revokeTrust_noChange_iff (hwf : WellFormed db) {row : InstallationRow}
    (hrow : installationByKey db (ctx.key opts) = some row) :
    NoChange db (revokeTrust env opts reads ctx row db) ↔
      RevokeSettled env opts reads ctx db row := by
  obtain ⟨hmem, hkey⟩ := installationByKey_some hrow
  have htuple : (ctx.key opts).1 = row.tuple := by rw [← hkey]; rfl
  unfold revokeTrust RevokeSettled
  rw [htuple, ← hkey]
  cases hledger : findTrustReferenceRelease db opts.workspaceId ctx.scopedKey with
  | some x =>
    simp only [Option.isSome_some, true_or, iff_true]
    split
    · intro reply db' h
      cases h
      exact ⟨rfl, rfl⟩
    · exact noChange_error
  | none =>
    simp only [Option.isSome_none, Bool.false_eq_true, false_or]
    split
    · rename_i hremoved
      rw [Option.isNone_iff_eq_none] at hremoved
      exact iff_of_true noChange_error (.inl hremoved)
    rename_i hremoved
    rw [Option.isNone_iff_eq_none] at hremoved
    split
    · rename_i hlive
      rw [countOtherLiveReferences_pos hwf hmem] at hlive
      refine iff_of_false (releaseReference_changes hwf hmem) ?_
      intro h
      exact h.elim hremoved fun hlast => hlast.1 hlive
    rename_i hlive
    rw [countOtherLiveReferences_pos hwf hmem] at hlive
    split
    · rename_i hgen
      refine iff_of_false (releaseReference_changes hwf hmem) ?_
      rw [Bool.not_eq_true', ← Bool.not_eq_true, tupleHasTokenTimerInstalledRow_iff] at hgen
      intro h
      exact h.elim hremoved fun hlast => hgen hlast.2.1
    · rename_i hgen
      rw [Bool.not_eq_true', ← Bool.not_eq_true, not_not,
        tupleHasTokenTimerInstalledRow_iff] at hgen
      rw [dispatchTrustJob_noChange_iff hwf hmem]
      constructor
      · exact fun h => .inr ⟨hlive, hgen, h⟩
      · exact fun h => h.elim (fun hr => absurd hr hremoved) fun hlast => hlast.2.2

/-- **EXACTLY WHEN A CALL CHANGES NEITHER THE REFERENCES NOR THE JOBS.** -/
theorem createTrustJob_noChange_iff (hwf : WellFormed db) :
    NoChange db (createTrustJob env opts reads db) ↔ ReplaySafe env opts reads db := by
  unfold createTrustJob ReplaySafe
  cases hctx : trustContext env opts reads db with
  | error e =>
    refine iff_of_true (noChange_error (e := e)) ?_
    intro ctx h
    cases h
  | ok ctx =>
    have hop := isTrustAnchorOperation_cases (trustContext_ok hctx).1
    simp only [bind, Except.bind, Except.ok.injEq, forall_eq']
    unfold runCreateTrustJob
    cases hrow : installationByKey db (ctx.key opts) with
    | some row =>
      have hmem := (installationByKey_some hrow).1
      obtain hdist | hrev := hop
      · simp only [hdist, reduceCtorEq, if_false, Option.isSome_some, true_and, forall_const,
          IsEmpty.forall_iff, and_true]
        rw [dispatchTrustJob_noChange_iff hwf hmem]
      · simp only [hrev, if_true, reduceCtorEq, IsEmpty.forall_iff, true_and, forall_const,
          Option.some.injEq, forall_eq']
        exact revokeTrust_noChange_iff hwf hrow
    | none =>
      obtain hdist | hrev := hop
      · simp only [hdist, reduceCtorEq, if_false, Option.isSome_none, Bool.false_eq_true,
          false_and, or_false, forall_const, IsEmpty.forall_iff, and_true]
        exact dispatchTrustJob_fresh_noChange_iff hwf hrow
      · simp only [hrev, if_true, reduceCtorEq, IsEmpty.forall_iff, implies_true, and_true]
        exact iff_of_true noChange_error trivial

/-! ## §4. What the first call leaves on record. -/

/-- The key of a call is in the release ledger or under a job. -/
def OnRecord (workspaceId : Nat) (key : String) (db : Db) : Prop :=
  (∃ x ∈ db.releases, x.workspaceId = workspaceId ∧ x.idempotencyKey = key) ∨
    ∃ j ∈ db.jobs, j.workspaceId = workspaceId ∧ j.idempotencyKey = some key

theorem findTrustReferenceRelease_isSome :
    (findTrustReferenceRelease db ws key).isSome = true ↔
      ∃ x ∈ db.releases, x.workspaceId = ws ∧ x.idempotencyKey = key := by
  simp [findTrustReferenceRelease, selectOne, List.find?_isSome]

theorem getJobByIdempotencyKey_isSome :
    (getJobByIdempotencyKey db ws (some key)).isSome = true ↔
      ∃ j ∈ db.jobs, j.workspaceId = ws ∧ j.idempotencyKey = some key := by
  simp [getJobByIdempotencyKey, selectOne, List.find?_isSome]

/-- A successful call puts its key on record. -/
theorem TrustJobDone.onRecord {reply : TrustJobReply} (h : TrustJobDone R opts ctx db reply db') :
    OnRecord opts.workspaceId ctx.scopedKey db' := by
  have hused : ∀ {job : JobRow},
      getJobByIdempotencyKey db opts.workspaceId (some ctx.scopedKey) = some job →
      ∃ j ∈ db.jobs, j.workspaceId = opts.workspaceId ∧ j.idempotencyKey = some ctx.scopedKey := by
    intro job hjob
    exact getJobByIdempotencyKey_isSome.mp (by rw [hjob]; rfl)
  cases h with
  | releaseReplayed x row hop hrow hledger =>
    exact .inl (findTrustReferenceRelease_isSome.mp (by rw [hledger]; rfl))
  | released row _ hop hrow hledger hlive hwhy hjob =>
    exact .inl ⟨_, List.mem_append_right _ (List.mem_singleton.mpr rfl), rfl, rfl⟩
  | jobReplayed _ _ _ _ hkey | reinserted _ _ _ _ hkey => exact .inr (hused hkey)
  | created _ job _ _ _ hjob | createdFresh job _ _ _ _ hjob =>
    exact .inr ⟨job, List.mem_append_right _ (List.mem_singleton.mpr rfl), hjob.workspace, hjob.key⟩

theorem Move.releases_grow (h : Move R db db') : ∀ x ∈ db.releases, x ∈ db'.releases := by
  cases h with
  | frame _ _ _ _ _ hledger => exact hledger
  | _ => exact fun _ h => h

theorem Move.onRecord (h : Move R db db') (hwf : WellFormed db) (hrec : OnRecord ws key db) :
    OnRecord ws key db' := by
  obtain ⟨x, hx, hxs⟩ | ⟨j, hj, hws, hkey⟩ := hrec
  · exact .inl ⟨x, h.releases_grow x hx, hxs⟩
  · obtain ⟨j', hj', rfl | hstep⟩ := h.job_forward hwf hj
    · exact .inr ⟨_, hj', hws, hkey⟩
    · refine .inr ⟨j', hj', ?_, ?_⟩
      · rw [show j'.workspaceId = j.workspaceId from congrArg JobSpec.workspaceId hstep.spec]
        exact hws
      · rw [show j'.idempotencyKey = j.idempotencyKey from
          congrArg JobSpec.idempotencyKey hstep.spec]
        exact hkey

theorem scopedKey_of_store {reads₀ : TrustReads} {ctx₀ : TrustContext}
    (h₀ : trustContext env opts reads₀ db = .ok ctx₀)
    (h : trustContext env opts reads db' = .ok ctx) (hstore : ctx.store = ctx₀.store) :
    ctx.scopedKey = ctx₀.scopedKey := by
  simp only [trustContext, bind_ok] at h₀ h
  obtain ⟨-, -, owner₀, howner₀, key₀, hkey₀, ws₀, -, anchor₀, -, -, -, hret₀⟩ := h₀
  obtain ⟨-, -, owner, howner, key, hkey, ws, -, anchor, -, -, -, hret⟩ := h
  cases hret₀
  cases hret
  rw [howner₀] at howner
  rw [hkey₀] at hkey
  cases howner
  cases hkey
  have hlabel : resolveTrustAnchorStoreLabel anchor.anchorType =
      resolveTrustAnchorStoreLabel anchor₀.anchorType := hstore
  simp only [hlabel]

/-! ## §5. The replay. -/

/-- **WHEN A REPLAY IS A NO-OP.**  A call has succeeded in a reachable state, and
    any run has followed.  The same call changes neither a reference nor a job if
    and only if the state is safe for it; and as long as the anchor names the
    same store, the key of the call is on record, as a release or as a job. -/
theorem replay_noop_iff {s₀ s₁ s : Db} {reads₀ : TrustReads} {ctx₀ : TrustContext}
    {reply₀ : TrustJobReply} (hreach : Reachable (system env) anyStep s₀)
    (hctx₀ : trustContext env opts reads₀ s₀ = .ok ctx₀)
    (hfirst : createTrustJob env opts reads₀ s₀ = .ok (reply₀, s₁))
    (hrun : Run (system env) anyStep s₁ s) :
    ((∀ reply s', createTrustJob env opts reads s = .ok (reply, s') →
        s'.installations = s.installations ∧ s'.jobs = s.jobs) ↔
      ReplaySafe env opts reads s) ∧
    ∀ ctx, trustContext env opts reads s = .ok ctx → ctx.store = ctx₀.store →
      (findTrustReferenceRelease s opts.workspaceId ctx.scopedKey).isSome = true ∨
        (getJobByIdempotencyKey s opts.workspaceId (some ctx.scopedKey)).isSome = true := by
  have hwf₀ := reachable_wellFormed hreach
  have hop := (trustContext_ok hctx₀).1
  have hrunFirst : runCreateTrustJob env opts reads₀ ctx₀ s₀ = .ok (reply₀, s₁) := by
    obtain ⟨ctx', hctx', h⟩ := bind_ok.mp hfirst
    rw [hctx₀] at hctx'
    cases hctx'
    exact h
  have hdone : TrustJobDone (Regime.free env) opts ctx₀ s₀ reply₀ s₁ :=
    createTrustJob_done hwf₀ hop hrunFirst
  obtain ⟨hwf, hrec⟩ := run_invariant (I := OnRecord opts.workspaceId ctx₀.scopedKey)
    (Regime.free_timed env) (fun _ call _ _ => permits_free call)
    (fun _ _ hwf hrec hm => hm.onRecord hwf hrec) hrun ((hdone.moves hop hwf₀).wellFormed hwf₀)
    hdone.onRecord
  refine ⟨createTrustJob_noChange_iff hwf, ?_⟩
  intro ctx hctx hstore
  rw [findTrustReferenceRelease_isSome, getJobByIdempotencyKey_isSome,
    scopedKey_of_store hctx₀ hctx hstore]
  exact hrec

/-- Owner A distributes and repeats the call at once: the key is under its job. -/
theorem replay_noop_demo :
    ∃ ctx₀ reply₀ s₁,
      trustContext Demo.env (Demo.trustJobOptions .distributeTrust "A" "k1") {}
        (play Demo.env Demo.setup) = .ok ctx₀ ∧
      createTrustJob Demo.env (Demo.trustJobOptions .distributeTrust "A" "k1") {}
        (play Demo.env Demo.setup) = .ok (reply₀, s₁) ∧
      ((∀ reply s', createTrustJob Demo.env (Demo.trustJobOptions .distributeTrust "A" "k1") {} s₁ =
          .ok (reply, s') → s'.installations = s₁.installations ∧ s'.jobs = s₁.jobs) ↔
        ReplaySafe Demo.env (Demo.trustJobOptions .distributeTrust "A" "k1") {} s₁) := by
  have hok : (createTrustJob Demo.env (Demo.trustJobOptions .distributeTrust "A" "k1") {}
      (play Demo.env Demo.setup)).toOption.map (fun x => x.1.created) = some true := by decide
  obtain ⟨⟨reply₀, s₁⟩, hfirst, -⟩ := ok_of_map hok
  obtain ⟨ctx₀, hctx₀, -⟩ := bind_ok.mp hfirst
  exact ⟨ctx₀, reply₀, s₁, hctx₀, hfirst,
    (replay_noop_iff (play_reachable _ _) hctx₀ hfirst (.refl _)).1⟩

/-- Owner A's distribute is rejected and its reference unwound; the repeated call
    creates no job and inserts a pending reference that no job will ever settle. -/
theorem replay_reinserts_reference :
    (exec Demo.env (Demo.trustJobForApproval .distributeTrust "A" "k1")
      (play Demo.env Demo.setup)).isOk = true ∧
    (play Demo.env (Demo.setup ++ [Demo.trustJobForApproval .distributeTrust "A" "k1",
      .rejectJob 7 3 none fun _ => {}])).installations = [] ∧
    (play Demo.env (Demo.setup ++ [Demo.trustJobForApproval .distributeTrust "A" "k1",
      .rejectJob 7 3 none (fun _ => {}),
      Demo.trustJobForApproval .distributeTrust "A" "k1"])).installations.map
        (fun r => (r.key, r.transitionState, r.lastJobId)) =
      [(Demo.key "A", .pendingInstall, none)] := by
  refine ⟨?_, ?_, ?_⟩ <;> decide

end TokenTimer.CertOps
