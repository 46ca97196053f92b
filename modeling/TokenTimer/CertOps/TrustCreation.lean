/-
  TokenTimer.CertOps.TrustCreation — what a successful `createTrustJob` did.

  The source advances the reference BEFORE it knows whether the job is new, and
  puts the old columns back on a replay.  Seen from outside there are six
  outcomes, `TrustJobDone`, each with its guards and its database; the proofs
  about trust references start from them and not from the code.

  Main results:
    * `createTrustJob_done` — a successful call is one of the six.
    * `createTrustJob_moves` — each of them is at most two moves.
-/

import TokenTimer.CertOps.Refinement

namespace TokenTimer.CertOps

open Lib.Table

variable {R : Regime} {env : Env} {db db' : Db} {opts : TrustJobOptions} {ctx : TrustContext}

/-! ## §1. What the guards establish. -/

theorem lockTrustAnchor_ok {anchor : AnchorRow} (h : lockTrustAnchor opts db = .ok anchor) :
    anchor ∈ db.anchors ∧ anchor.workspaceId = opts.workspaceId ∧
      anchor.id = opts.trustAnchorId := by
  unfold lockTrustAnchor at h
  split at h
  · cases h
  · rename_i a hfound
    obtain ⟨ha, hp⟩ := selectOne_some hfound
    split at h
    · cases h
    · cases h
      exact ⟨ha, by simpa using hp⟩

variable {row : InstallationRow} {reply : TrustJobReply} {reads : TrustReads}
  {key : TrustTuple × String}

/-- The context of a call that passed the guards. -/
theorem trustContext_ok (h : trustContext env opts reads db = .ok ctx) :
    isTrustAnchorOperation opts.operation = true ∧ ctx.anchor ∈ db.anchors ∧
      ctx.anchor.workspaceId = opts.workspaceId ∧ ctx.anchor.id = opts.trustAnchorId := by
  simp only [trustContext, bind_ok, require_ok] at h
  obtain ⟨-, hop, owner, -, key, -, ws, -, anchor, hanchor, -, -, hret⟩ := h
  cases hret
  exact ⟨hop, lockTrustAnchor_ok hanchor⟩

theorem isTrustAnchorOperation_cases {op : JobOperation} (h : isTrustAnchorOperation op = true) :
    op = .distributeTrust ∨ op = .revokeTrust := by
  simpa [isTrustAnchorOperation] using h

theorem installationByKey_some (h : installationByKey db key = some row) :
    row ∈ db.installations ∧ row.key = key := by
  obtain ⟨hr, hp⟩ := selectOne_some h
  exact ⟨hr, by simpa using hp⟩

theorem installationByKey_none (h : installationByKey db key = none) :
    ∀ r ∈ db.installations, r.key ≠ key := by
  intro r hr
  simpa using selectOne_none.mp h r hr

theorem installationByKey_of_mem (hwf : WellFormed db) (hrow : row ∈ db.installations) :
    installationByKey db row.key = some row :=
  hwf.rows.unique.selectOne_eq hrow

theorem owner_ne_iff (hwf : WellFormed db) {r : InstallationRow} (hr : r ∈ db.installations)
    (hrow : row ∈ db.installations) (htuple : r.tuple = row.tuple) :
    r.owner ≠ row.owner ↔ r.id ≠ row.id := by
  constructor
  · intro hne hid
    exact hne (congrArg InstallationRow.owner (hwf.rows.key.eq_of_mem hr hrow hid))
  · intro hne how
    have hkey : r.key = row.key := by rw [InstallationRow.key, InstallationRow.key, htuple, how]
    exact hne (congrArg InstallationRow.id (hwf.rows.unique.eq_of_mem hr hrow hkey))

theorem countOtherLiveReferences_pos (hwf : WellFormed db) (hrow : row ∈ db.installations) :
    0 < countOtherLiveReferences db row.key ↔ OtherLive db row := by
  unfold countOtherLiveReferences OtherLive
  rw [List.length_pos_iff_exists_mem]
  constructor
  · intro h
    obtain ⟨r, hr⟩ := h
    simp only [List.mem_filter, decide_eq_true_eq] at hr
    obtain ⟨hmem, htuple, howner, hlive⟩ := hr
    exact ⟨r, hmem, htuple, (owner_ne_iff hwf hmem hrow htuple).mp howner, hlive⟩
  · intro h
    obtain ⟨r, hmem, htuple, hid, hlive⟩ := h
    refine ⟨r, ?_⟩
    simp only [List.mem_filter, decide_eq_true_eq]
    exact ⟨hmem, htuple, (owner_ne_iff hwf hmem hrow htuple).mpr hid, hlive⟩

theorem tupleHasTokenTimerInstalledRow_iff {tuple : TrustTuple} :
    tupleHasTokenTimerInstalledRow db tuple = true ↔ Genuine db tuple := by
  simp [tupleHasTokenTimerInstalledRow, Genuine]

/-! ## §2. The six outcomes. -/

/-- The reference that a job for it leaves. -/
def InstallationRow.dispatched (operation : JobOperation) (now jobId : Nat)
    (row : InstallationRow) : InstallationRow :=
  { row.advanced operation now with lastJobId := some jobId }

/-- The job that a call creates: the columns of its request. -/
structure TrustJobNew (R : Regime) (opts : TrustJobOptions) (ctx : TrustContext) (id : Nat)
    (job : JobRow) : Prop where
  id : job.id = id
  new : NewJob R job
  operation : job.operation = opts.operation
  workspace : job.workspaceId = opts.workspaceId
  agent : job.assignedAgentId = some opts.agentId
  key : job.idempotencyKey = some ctx.scopedKey

/-- **WHAT A SUCCESSFUL `createTrustJob` DID.** -/
inductive TrustJobDone (R : Regime) (opts : TrustJobOptions) (ctx : TrustContext) (db : Db) :
    TrustJobReply → Db → Prop
  /-- The replay of a release that is in the ledger. -/
  | releaseReplayed (x : ReleaseRow) (row : InstallationRow) (hop : opts.operation = .revokeTrust)
      (hrow : installationByKey db (ctx.key opts) = some row)
      (hledger : findTrustReferenceRelease db opts.workspaceId ctx.scopedKey = some x) :
      TrustJobDone R opts ctx db (releaseReply x) db
  /-- The reference is released, no job. -/
  | released (row : InstallationRow) (reply : TrustJobReply)
      (hop : opts.operation = .revokeTrust)
      (hrow : installationByKey db (ctx.key opts) = some row)
      (hledger : findTrustReferenceRelease db opts.workspaceId ctx.scopedKey = none)
      (hlive : row.transitionState = .removed →
        (getJobByIdempotencyKey db opts.workspaceId (some ctx.scopedKey)).isSome = true)
      (hwhy : OtherLive db row ∨ ¬ Genuine db row.tuple) (hjob : reply.job = none) :
      TrustJobDone R opts ctx db reply
        { db with
          installations := replaceRow (row.released db.now) db.installations
          releases := db.releases ++ [releaseRow opts ctx (row.released db.now)] }
  /-- The replay of a creation, on a reference that is there. -/
  | jobReplayed (row : InstallationRow) (job : JobRow) (reply : TrustJobReply)
      (hrow : installationByKey db (ctx.key opts) = some row)
      (hkey : getJobByIdempotencyKey db opts.workspaceId (some ctx.scopedKey) = some job)
      (hnew : reply.created = false) : TrustJobDone R opts ctx db reply db
  /-- The replay of a creation whose reference is gone: it is INSERTED again. -/
  | reinserted (job : JobRow) (reply : TrustJobReply) (hop : opts.operation = .distributeTrust)
      (hrow : installationByKey db (ctx.key opts) = none)
      (hkey : getJobByIdempotencyKey db opts.workspaceId (some ctx.scopedKey) = some job)
      (hnew : reply.created = false) :
      TrustJobDone R opts ctx db reply
        { db with
          nextId := db.nextId + 1
          installations := db.installations ++
            [freshInstallation db.nextId opts.trustAnchorId (ctx.key opts)] }
  /-- A new job on a reference that is there. -/
  | created (row : InstallationRow) (job : JobRow) (reply : TrustJobReply)
      (hrow : installationByKey db (ctx.key opts) = some row)
      (hkey : getJobByIdempotencyKey db opts.workspaceId (some ctx.scopedKey) = none)
      (hjob : TrustJobNew R opts ctx db.nextId job)
      (hrevoke : opts.operation = .revokeTrust →
        row.transitionState ≠ .removed ∧ ¬ OtherLive db row ∧ Genuine db row.tuple)
      (hreply : reply.job = some job) (hnew : reply.created = true) :
      TrustJobDone R opts ctx db reply
        { db with
          nextId := db.nextId + 1
          jobs := db.jobs ++ [job]
          installations :=
            replaceRow (row.dispatched opts.operation db.now job.id) db.installations }
  /-- A new job on a new reference. -/
  | createdFresh (job : JobRow) (reply : TrustJobReply) (hop : opts.operation = .distributeTrust)
      (hrow : installationByKey db (ctx.key opts) = none)
      (hkey : getJobByIdempotencyKey db opts.workspaceId (some ctx.scopedKey) = none)
      (hjob : TrustJobNew R opts ctx (db.nextId + 1) job)
      (hreply : reply.job = some job) (hnew : reply.created = true) :
      TrustJobDone R opts ctx db reply
        { db with
          nextId := db.nextId + 2
          jobs := db.jobs ++ [job]
          installations := db.installations ++
            [(freshInstallation db.nextId opts.trustAnchorId (ctx.key opts)).dispatched
              opts.operation db.now job.id] }
/-! ## §3. A successful call is one of the six. -/

/-- Advancing a reference and putting its columns back changes nothing. -/
theorem restored_advanced (operation : JobOperation) (now : Nat) (row : InstallationRow) :
    InstallationRow.restored row (row.advanced operation now) = row := rfl

theorem update_update_eq_replaceRow (hwf : WellFormed db) (hrow : row ∈ db.installations)
    (f g : InstallationRow → InstallationRow) (hf : ∀ r, (f r).id = r.id) (hg : ∀ r, (g r).id = r.id) :
    updateWhere (fun r => r.id = row.id) g
        (updateWhere (fun r => r.id = row.id) f db.installations) =
      replaceRow (g (f row)) db.installations := by
  rw [updateWhere_updateWhere fun r => by rw [hf]]
  exact updateWhere_eq_replaceByKey hwf.rows.key hrow ((hg _).trans (hf _))

/-- The tail of the call, on a reference that is in the table. -/
theorem dispatchTrustJob_ok (hwf : WellFormed db) {locked : InstallationRow}
    (hrow : locked ∈ db.installations)
    (h : dispatchTrustJob env opts reads ctx locked db = .ok (reply, db')) :
    (∃ job, getJobByIdempotencyKey db opts.workspaceId (some ctx.scopedKey) = some job ∧
      reply.created = false ∧ db' = db) ∨
    (∃ job, getJobByIdempotencyKey db opts.workspaceId (some ctx.scopedKey) = none ∧
      TrustJobNew R opts ctx db.nextId job ∧ reply.job = some job ∧ reply.created = true ∧
      db' = { db with
        nextId := db.nextId + 1
        jobs := db.jobs ++ [job]
        installations :=
          replaceRow (locked.dispatched opts.operation db.now job.id) db.installations }) := by
  simp only [dispatchTrustJob, bind_ok] at h
  obtain ⟨⟨out, db₁⟩, hcreate, h⟩ := h
  have hcases := createCertificateJob_ok (R := R) hcreate fun hs => by cases hs.2.1
  obtain ⟨hnew, hdb, hkey⟩ | ⟨hnew, hkey, ⟨status, kind, period, hspec⟩, hjob, hdb⟩ := hcases
  · simp only [hnew, Bool.false_eq_true, if_false] at h
    cases h
    refine .inl ⟨out.job, hkey, rfl, ?_⟩
    -- The advance is put back, column by column.
    have hback := update_update_eq_replaceRow hwf hrow
      (InstallationRow.advanced opts.operation db.now) (InstallationRow.restored locked)
      (fun _ => rfl) fun _ => rfl
    rw [restored_advanced, replaceRow, replaceByKey_self hwf.rows.key hrow] at hback
    rw [hdb]
    simp only [updateInstallation, hback]
  · simp only [hnew, if_true] at h
    cases h
    refine .inr ⟨out.job, hkey, ?_, rfl, rfl, ?_⟩
    · exact ⟨congrArg JobSpec.id hspec, hjob, congrArg JobSpec.operation hspec,
        congrArg JobSpec.workspaceId hspec, congrArg JobSpec.assignedAgentId hspec,
        congrArg JobSpec.idempotencyKey hspec⟩
    · have hpoint := update_update_eq_replaceRow hwf hrow
        (InstallationRow.advanced opts.operation db.now)
        (fun r => { r with lastJobId := some out.job.id }) (fun _ => rfl) fun _ => rfl
      rw [hdb]
      simp only [updateInstallation, hpoint]
      rfl

/-- The database with the row that `lockOrCreateInstallation` inserts. -/
def Db.insertFresh (db : Db) (anchorId : Nat) (key : TrustTuple × String) : Db :=
  { db with
    nextId := db.nextId + 1
    installations := db.installations ++ [freshInstallation db.nextId anchorId key] }

theorem insertFresh_move (anchorId : Nat) (hfree : installationByKey db key = none) :
    Move R db (db.insertFresh anchorId key) :=
  .addRow (freshInstallation db.nextId anchorId key) rfl
    (fun r hr => installationByKey_none hfree r hr) rfl rfl rfl

theorem mem_insertFresh (db : Db) (anchorId : Nat) (key : TrustTuple × String) :
    freshInstallation db.nextId anchorId key ∈ (db.insertFresh anchorId key).installations :=
  List.mem_append_right _ (List.mem_singleton.mpr rfl)

theorem replaceRow_insertFresh (hwf : WellFormed db) (anchorId : Nat) (key : TrustTuple × String)
    {row' : InstallationRow} (hid : row'.id = db.nextId) :
    replaceRow row' (db.insertFresh anchorId key).installations = db.installations ++ [row'] := by
  have hrows : replaceRow row' db.installations = db.installations := by
    rw [replaceRow, replaceByKey, updateWhere, List.map_congr_left (g := id), List.map_id]
    intro r hr
    simp [hid, Nat.ne_of_lt (hwf.rows.fresh r hr)]
  have hlast : replaceRow row' [freshInstallation db.nextId anchorId key] = [row'] := by
    simp [replaceRow, replaceByKey, updateWhere, hid, freshInstallation]
  calc replaceRow row' (db.insertFresh anchorId key).installations
      = replaceRow row' db.installations ++
          replaceRow row' [freshInstallation db.nextId anchorId key] := List.map_append
    _ = db.installations ++ [row'] := by rw [hrows, hlast]

theorem releaseReference_done (hwf : WellFormed db) (hop : opts.operation = .revokeTrust)
    (hrow : installationByKey db (ctx.key opts) = some row)
    (hledger : findTrustReferenceRelease db opts.workspaceId ctx.scopedKey = none)
    (hlive : row.transitionState = .removed → (getJobByIdempotencyKey db opts.workspaceId (some ctx.scopedKey)).isSome = true)
    (hwhy : OtherLive db row ∨ ¬ Genuine db row.tuple) :
    TrustJobDone R opts ctx db (releaseReference opts ctx row db).1
      (releaseReference opts ctx row db).2 := by
  have hmem := (installationByKey_some hrow).1
  have hdb : (releaseReference opts ctx row db).2 =
      { db with
        installations := replaceRow (row.released db.now) db.installations
        releases := db.releases ++ [releaseRow opts ctx (row.released db.now)] } := by
    simp only [releaseReference]
    rw [updateInstallation_eq hwf hmem rfl]
    unfold recordTrustReferenceRelease
    have hfind : findTrustReferenceRelease
        { db with installations := replaceRow (row.released db.now) db.installations }
        (releaseRow opts ctx (row.released db.now)).workspaceId
        (releaseRow opts ctx (row.released db.now)).idempotencyKey = none := hledger
    rw [hfind]
  rw [hdb]
  exact .released row _ hop hrow hledger hlive hwhy rfl

/-- The branches of a revoke on a tracked reference. -/
theorem revokeTrust_done (hwf : WellFormed db) (hop : opts.operation = .revokeTrust)
    (hrow : installationByKey db (ctx.key opts) = some row)
    (h : revokeTrust env opts reads ctx row db = .ok (reply, db')) :
    TrustJobDone R opts ctx db reply db' := by
  obtain ⟨hmem, hkey⟩ := installationByKey_some hrow
  have htuple : (ctx.key opts).1 = row.tuple := by rw [← hkey]; rfl
  unfold revokeTrust at h
  split at h
  · rename_i x hledger
    split at h
    · cases h
      exact .releaseReplayed x row hop hrow hledger
    · cases h
  rename_i hledger
  split at h
  · cases h
  rename_i hremoved
  have hlive : row.transitionState = .removed →
      (getJobByIdempotencyKey db opts.workspaceId (some ctx.scopedKey)).isSome = true := by
    intro hst
    by_contra hnone
    exact hremoved ⟨hst, by simpa using hnone⟩
  rw [htuple, ← hkey] at h
  split at h
  · rename_i hcount
    cases h
    exact releaseReference_done hwf hop hrow hledger hlive
      (.inl ((countOtherLiveReferences_pos hwf hmem).mp hcount))
  rename_i hcount
  rw [countOtherLiveReferences_pos hwf hmem] at hcount
  split at h
  · rename_i hgen
    cases h
    refine releaseReference_done hwf hop hrow hledger hlive (.inr ?_)
    rw [← tupleHasTokenTimerInstalledRow_iff]
    simpa using hgen
  rename_i hgen
  have hgenuine : Genuine db row.tuple := by
    rw [← tupleHasTokenTimerInstalledRow_iff]
    simpa using hgen
  obtain ⟨job, hkeyjob, hnew, rfl⟩ | ⟨job, hkeyjob, hjob, hreply, hnew, rfl⟩ :=
    dispatchTrustJob_ok (R := R) hwf hmem h
  · exact .jobReplayed row job reply hrow hkeyjob hnew
  · refine .created row job reply hrow hkeyjob hjob (fun _ => ⟨?_, hcount, hgenuine⟩) hreply hnew
    intro hst
    have := hlive hst
    rw [hkeyjob] at this
    cases this

/-- **A SUCCESSFUL CALL IS ONE OF THE SIX.** -/
theorem createTrustJob_done (hwf : WellFormed db) (hop : isTrustAnchorOperation opts.operation = true)
    (h : runCreateTrustJob env opts reads ctx db = .ok (reply, db')) :
    TrustJobDone R opts ctx db reply db' := by
  unfold runCreateTrustJob at h
  split at h
  · rename_i row hrow
    split at h
    · rename_i hrev
      exact revokeTrust_done hwf hrev hrow h
    · rename_i hrev
      obtain ⟨job, hkey, hnew, rfl⟩ | ⟨job, hkey, hjob, hreply, hnew, rfl⟩ :=
        dispatchTrustJob_ok (R := R) hwf (installationByKey_some hrow).1 h
      · exact .jobReplayed row job reply hrow hkey hnew
      · exact .created row job reply hrow hkey hjob (fun hr => absurd hr hrev) hreply hnew
  · rename_i hfree
    split at h
    · cases h
    · rename_i hrev
      have hdist : opts.operation = .distributeTrust :=
        (isTrustAnchorOperation_cases hop).resolve_right hrev
      have hwf₁ := (insertFresh_move (R := R) opts.trustAnchorId hfree).wellFormed hwf
      obtain ⟨job, hkey, hnew, rfl⟩ | ⟨job, hkey, hjob, hreply, hnew, rfl⟩ :=
        dispatchTrustJob_ok (R := R) hwf₁ (mem_insertFresh _ _ _) h
      · exact .reinserted job reply hdist hfree hkey hnew
      · rw [replaceRow_insertFresh hwf _ _ rfl]
        exact .createdFresh job reply hdist hfree hkey hjob hreply hnew

/-! ## §4. Each outcome is at most two moves. -/

theorem dispatched_advanced (now : Nat) {job : JobRow} (hop : job.operation = opts.operation) :
    Advanced row (row.dispatched opts.operation now job.id) job :=
  ⟨⟨rfl, rfl, rfl⟩, by rw [hop]; rfl, rfl, rfl⟩

theorem TrustJobNew.jobFor {id : Nat} {job : JobRow} (h : TrustJobNew R opts ctx id job)
    (hop : isTrustAnchorOperation opts.operation = true) (hkey : row.key = ctx.key opts) :
    TrustJobFor row job := by
  have htuple : row.tuple = (ctx.key opts).1 := congrArg Prod.fst hkey
  have hws : row.workspaceId = opts.workspaceId := congrArg TrustTuple.workspaceId htuple
  have hagent : row.agentId = opts.agentId := congrArg TrustTuple.agentId htuple
  refine ⟨?_, ?_, ?_⟩
  · rw [h.operation]
    exact hop
  · rw [h.workspace, hws]
  · rw [h.agent, hagent]

theorem TrustJobDone.moves (h : TrustJobDone R opts ctx db reply db')
    (hop : isTrustAnchorOperation opts.operation = true) (hwf : WellFormed db) :
    Moves R db db' := by
  cases h with
  | releaseReplayed | jobReplayed => exact .refl db
  | released row _ hrev hrow hledger hlive hwhy _ =>
    have hmem := (installationByKey_some hrow).1
    have hrelease : Move R db
        { db with installations := replaceRow (row.released db.now) db.installations } :=
      .release row _ hmem ⟨⟨rfl, rfl, rfl⟩, rfl, rfl, rfl⟩ hwhy
    exact (Moves.single hrelease).trans (.single (.frame le_rfl le_rfl rfl rfl rfl
      fun _ h => List.mem_append_left _ h))
  | reinserted job _ _ hrow _ _ => exact .single (insertFresh_move _ hrow)
  | created row job _ hrow _ hjob hrevoke _ _ =>
    obtain ⟨hmem, hkey⟩ := installationByKey_some hrow
    refine .single (.trustJob row _ job hmem hjob.id hjob.new (hjob.jobFor hop hkey)
      (dispatched_advanced db.now hjob.operation) ?_)
    intro hr
    exact hrevoke (hjob.operation ▸ hr)
  | createdFresh job _ hdist hrow _ hjob _ _ =>
    -- The reference is inserted, then the job is created for it.
    have hinsert := insertFresh_move (R := R) opts.trustAnchorId hrow
    have hcreate := Move.trustJob (R := R) _ _ job
      (mem_insertFresh db opts.trustAnchorId (ctx.key opts)) hjob.id hjob.new
      (hjob.jobFor hop rfl) (dispatched_advanced db.now hjob.operation) (by
        intro hr
        rw [hjob.operation, hdist] at hr
        cases hr)
    rw [replaceRow_insertFresh hwf _ _ rfl] at hcreate
    exact (Moves.single hinsert).trans (.single hcreate)

theorem createTrustJob_moves (hwf : WellFormed db)
    (h : createTrustJob env opts reads db = .ok (reply, db')) : Moves R db db' := by
  obtain ⟨ctx, hctx, hrun⟩ := bind_ok.mp h
  have hop := (trustContext_ok hctx).1
  exact (createTrustJob_done hwf hop hrun).moves hop hwf

end TokenTimer.CertOps
