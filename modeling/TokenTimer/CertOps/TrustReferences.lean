/-
  TokenTimer.CertOps.TrustReferences — the last-reference rule.

  `countOtherLiveReferences` is taken when a revoke-trust job is CREATED.  The job
  is dispatched later; nothing counts again.  What keeps the rule in between is
  an invariant of the references: while the revoke of a reference can still be
  dispatched, no other reference of the slot is confirmed present.  Only one kind
  of step breaks it: a distribute of another owner that completes in between.

  Main results:
    * `LastReference`, `Move.lastReference` — the invariant and its step lemma.
    * `last_reference_while_no_late_install` — the rule at every dispatch.
-/

import TokenTimer.CertOps.SystemRefinement

namespace TokenTimer.CertOps

open Lib.Table Lib.Runs

variable {R : Regime} {env : Env} {db db' : Db}

/-! ## §1. The invariant. -/

/-- The last job of the reference is a revoke that can still be dispatched. -/
def PendingRevoke (jobs : List JobRow) (row : InstallationRow) : Prop :=
  ∃ j ∈ jobs, row.lastJobId = some j.id ∧ j.operation = .revokeTrust ∧
    j.status.dispatchable = true

/-- The regime in which no reference is settled as installed beside the pending
    revoke of another reference of its slot. -/
def Regime.noLateInstall (env : Env) : Regime :=
  { Regime.free env with
    install := fun jobs rows row => ∀ r ∈ rows, r.tuple = row.tuple → r.id ≠ row.id →
      ¬ PendingRevoke jobs r }

/-- THE LAST REFERENCE: beside a pending revoke no other reference of the slot is
    confirmed present, and the reference is on its way out, unless the slot never
    held material of TokenTimer. -/
structure LastReference (db : Db) (row : InstallationRow) : Prop where
  alone : ¬ OtherLive db row
  leaving : row.transitionState = .pendingRemove ∨ ¬ Genuine db row.tuple

def LastReferences (db : Db) : Prop :=
  ∀ row ∈ db.installations, PendingRevoke db.jobs row → LastReference db row

/-! ## §2. Pending revokes across a change of the jobs. -/

theorem dispatchable_live {status : JobStatus} (h : status.dispatchable = true) :
    isTerminalJobStatus status = false ∧ status ≠ .running := by
  simpa [JobStatus.dispatchable] using h

variable {row row' : InstallationRow} {j j' job : JobRow} {jobs : List JobRow}
  {nonces : List NonceRow} {id : Nat}

theorem JobStep.dispatchable (h : JobStep R j j') (hd : j'.status.dispatchable = true) :
    j.status.dispatchable = true := by
  obtain ⟨hlive', hrun'⟩ := dispatchable_live hd
  have hrun : j.status ≠ .running := by
    intro hr
    obtain hs | hs := h.forward hr
    · exact hrun' hs
    · rw [hs] at hlive'
      cases hlive'
  simp [JobStatus.dispatchable, h.live, hrun]

theorem PendingRevoke.of_step (hj : j ∈ jobs) (hstep : JobStep R j j')
    (h : PendingRevoke (replaceJob j' jobs) row) :
    PendingRevoke jobs row := by
  obtain ⟨x, hx, hlast, hop, hd⟩ := h
  obtain ⟨hx, -⟩ | ⟨rfl, -⟩ := mem_replaceByKey.mp hx
  · exact ⟨x, hx, hlast, hop, hd⟩
  · have hid : x.id = j.id := congrArg JobSpec.id hstep.spec
    have hopj : x.operation = j.operation := congrArg JobSpec.operation hstep.spec
    exact ⟨j, hj, hid ▸ hlast, hopj ▸ hop, hstep.dispatchable hd⟩

theorem PendingRevoke.of_append (hwf : WellFormed db) (hrow : row ∈ db.installations)
    (hid : job.id = db.nextId) (h : PendingRevoke (db.jobs ++ [job]) row) : PendingRevoke db.jobs row := by
  obtain ⟨x, hx, hlast, hop, hd⟩ := h
  rw [List.mem_append, List.mem_singleton] at hx
  obtain hx | rfl := hx
  · exact ⟨x, hx, hlast, hop, hd⟩
  · have hlt := hwf.rows.lastFresh row hrow x.id hlast
    omega

theorem not_pendingRevoke_of_ended (hkey : KeyNodup (fun j : JobRow => j.id) jobs) (hj : j ∈ jobs)
    (hend : isTerminalJobStatus j.status = true) (hlast : row.lastJobId = some j.id) :
    ¬ PendingRevoke jobs row := by
  intro h
  obtain ⟨x, hx, hlastx, -, hd⟩ := h
  rw [hlast] at hlastx
  obtain rfl : j = x := hkey.eq_of_mem hj hx (Option.some.inj hlastx)
  rw [(dispatchable_live hd).1] at hend
  cases hend

/-! ## §3. The rule across a change of the references. -/

/-- The references of a table after one of them was replaced. -/
theorem mem_replaceRow {rows : List InstallationRow} {r : InstallationRow} (hid : row'.id = row.id)
    (h : r ∈ replaceRow row' rows) :
    (r ∈ rows ∧ r.id ≠ row.id) ∨ r = row' := by
  obtain ⟨hr, hne⟩ | ⟨rfl, -⟩ := mem_replaceByKey.mp h
  · exact .inl ⟨hr, by rwa [hid] at hne⟩
  · exact .inr rfl

theorem SameReference.tuple (h : SameReference row row') :
    row'.tuple = row.tuple :=
  congrArg Prod.fst h.key

theorem LastReference.replace {r : InstallationRow} (h : LastReference db r)
    (hrow : row ∈ db.installations) (hsame : SameReference row row')
    (hprov : row'.tuple = r.tuple → row'.provenance = row.provenance)
    (hstate : row'.tuple = r.tuple → row'.id ≠ r.id → confirmedLive row'.transitionState = true → confirmedLive row.transitionState = true) :
    LastReference { db with
      jobs := jobs, nextId := id, nonces := nonces
      installations := replaceRow row' db.installations } r := by
  refine ⟨?_, ?_⟩
  · intro hlive
    obtain ⟨x, hx, htuple, hne, hconf⟩ := hlive
    obtain ⟨hx, -⟩ | rfl := mem_replaceRow hsame.id hx
    · exact h.alone ⟨x, hx, htuple, hne, hconf⟩
    · refine h.alone ⟨row, hrow, ?_, ?_, hstate htuple hne hconf⟩
      · rw [← hsame.tuple]
        exact htuple
      · rw [← hsame.id]
        exact hne
  · obtain hleaving | hgenuine := h.leaving
    · exact .inl hleaving
    · refine .inr fun hg => hgenuine ?_
      obtain ⟨x, hx, htuple, hp⟩ := hg
      obtain ⟨hx, -⟩ | rfl := mem_replaceRow hsame.id hx
      · exact ⟨x, hx, htuple, hp⟩
      · exact ⟨row, hrow, hsame.tuple ▸ htuple, hprov htuple ▸ hp⟩

theorem LastReferences.restate {state : TransitionState} (hinv : LastReferences db)
    (hrow : row ∈ db.installations) (hres : Restated row row' state)
    (hother : ∀ r ∈ db.installations, PendingRevoke db.jobs r → r.tuple = row.tuple → r.id ≠ row.id → confirmedLive state = true → confirmedLive row.transitionState = true)
    (hself : PendingRevoke db.jobs row → LastReference db row → state = .pendingRemove ∨ ¬ Genuine db row.tuple) :
    LastReferences { db with installations := replaceRow row' db.installations } := by
  intro r hr hpend
  have hsame := hres.same
  obtain ⟨hold, hne⟩ | rfl := mem_replaceRow hsame.id hr
  · refine (hinv r hold hpend).replace hrow hsame (fun _ => hres.provenance) ?_
    intro htuple _ hconf
    rw [hres.state] at hconf
    exact hother r hold hpend (htuple.symm.trans hsame.tuple) hne hconf
  · -- The replaced reference itself keeps its last job.
    have hpend' : PendingRevoke db.jobs row := by
      obtain ⟨x, hx, hlast, hop, hd⟩ := hpend
      exact ⟨x, hx, hres.lastJob ▸ hlast, hop, hd⟩
    have hlast := hinv row hrow hpend'
    have hrepl : LastReference
        { db with installations := replaceRow r db.installations } row :=
      hlast.replace hrow hsame (fun _ => hres.provenance)
        (fun _ hne _ => absurd hsame.id hne)
    refine ⟨?_, ?_⟩
    · intro hlive
      obtain ⟨x, hx, htuple, hnex, hconf⟩ := hlive
      exact hrepl.alone ⟨x, hx, htuple.trans hsame.tuple, hsame.id ▸ hnex, hconf⟩
    · obtain hst | hgen := hself hpend' hlast
      · exact .inl (hres.state.trans hst)
      · refine .inr ?_
        intro hg
        obtain ⟨x, hx, htuple, hp⟩ := hg
        obtain ⟨hx, -⟩ | rfl := mem_replaceRow hsame.id hx
        · exact hgen ⟨x, hx, htuple.trans hsame.tuple, hp⟩
        · exact hgen ⟨row, hrow, rfl, hres.provenance ▸ hp⟩

/-! ## §4. Every move. -/

/-- Only the jobs, the counter and the ledger change. -/
theorem LastReferences.of_jobs (hinv : LastReferences db)
    (hpend : ∀ r ∈ db.installations, PendingRevoke jobs r → PendingRevoke db.jobs r) :
    LastReferences { db with nextId := id, jobs := jobs, nonces := nonces } := by
  intro r hr h
  have hlast := hinv r hr (hpend r hr h)
  exact ⟨hlast.alone, hlast.leaving⟩

theorem LastReferences.trustJob (hwf : WellFormed db) (hinv : LastReferences db)
    (hrow : row ∈ db.installations) (hid : job.id = db.nextId)
    (htrust : isTrustAnchorOperation job.operation = true) (hadv : Advanced row row' job)
    (hrevoke : job.operation = .revokeTrust → row.transitionState ≠ .removed ∧ ¬ OtherLive db row ∧ Genuine db row.tuple) :
    LastReferences { db with
      nextId := db.nextId + 1
      jobs := db.jobs ++ [job]
      installations := replaceRow row' db.installations } := by
  have hsame := hadv.same
  intro r hr hpend
  obtain ⟨hold, hne⟩ | rfl := mem_replaceRow hsame.id hr
  · have hpend' := hpend.of_append hwf hold hid
    have hlast := hinv r hold hpend'
    refine hlast.replace hrow hsame (fun _ => hadv.provenance) ?_
    -- A second revoke in the slot would have counted `r`, which is leaving.
    intro htuple _ hconf
    have htup : r.tuple = row.tuple := htuple.symm.trans hsame.tuple
    obtain hdist | hrev := isTrustAnchorOperation_cases htrust
    · rw [hadv.state, hdist] at hconf
      cases hconf
    · obtain ⟨-, halone, hgenuine⟩ := hrevoke hrev
      obtain hleaving | hnot := hlast.leaving
      · refine absurd ⟨r, hold, htup, hne, ?_⟩ halone
        rw [hleaving]
        rfl
      · rw [htup] at hnot
        exact absurd hgenuine hnot
  · -- The reference of the new job: it was counted just now.
    obtain ⟨x, hx, hlast, hop, -⟩ := hpend
    have hxjob : x.operation = job.operation := by
      rw [hadv.lastJob] at hlast
      rw [List.mem_append, List.mem_singleton] at hx
      obtain hx | rfl := hx
      · have hlt := hwf.jobs.fresh x hx
        have hxid : job.id = x.id := Option.some.inj hlast
        omega
      · rfl
    have hrev : job.operation = .revokeTrust := hxjob.symm.trans hop
    obtain ⟨-, halone, -⟩ := hrevoke hrev
    refine ⟨?_, .inl ?_⟩
    · intro hlive
      obtain ⟨y, hy, htuple, hney, hconf⟩ := hlive
      obtain ⟨hy, -⟩ | rfl := mem_replaceRow hsame.id hy
      · exact halone ⟨y, hy, htuple.trans hsame.tuple, hsame.id ▸ hney, hconf⟩
      · exact hney rfl
    · rw [hadv.state, hrev]
      rfl

theorem LastReferences.settle (hwf : WellFormed db) (hinv : LastReferences db) (hj : j ∈ db.jobs)
    (hstep : JobStep R j j') (hend : isTerminalJobStatus j'.status = true)
    (hrow : row ∈ db.installations) (hlast : row.lastJobId = some j.id) (hset : Settled row row' j)
    (htrust : isTrustAnchorOperation j.operation = true)
    (hinstall : j.operation = .distributeTrust → (Regime.noLateInstall env).install db.jobs db.installations row) :
    LastReferences { db with
      nextId := id
      jobs := replaceJob j' db.jobs
      nonces := nonces
      installations := replaceRow row' db.installations } := by
  have hsame := hset.same
  have hj'id : j'.id = j.id := congrArg JobSpec.id hstep.spec
  intro r hr hpend
  obtain ⟨hold, hne⟩ | rfl := mem_replaceRow hsame.id hr
  · have hpend' := hpend.of_step hj hstep
    obtain hdist | hrev := isTrustAnchorOperation_cases htrust
    · -- An install in the slot of a pending revoke is what the regime excludes.
      have hnot : row'.tuple ≠ r.tuple := by
        intro htuple
        exact hinstall hdist r hold (htuple.symm.trans hsame.tuple) hne hpend'
      exact (hinv r hold hpend').replace hrow hsame (fun h => absurd h hnot)
        (fun h => absurd h hnot)
    · obtain ⟨hstate, hprov⟩ := hset.remove hrev
      refine (hinv r hold hpend').replace hrow hsame (fun _ => hprov) ?_
      intro _ _ hconf
      rw [hstate] at hconf
      cases hconf
  · -- The job of the settled reference has ended.
    refine absurd hpend (not_pendingRevoke_of_ended (keyNodup_replaceByKey hwf.jobs.key)
      (mem_replaceJob_self hj hj'id) hend ?_)
    rw [hset.lastJob, hlast, hj'id]

/-- **EVERY MOVE KEEPS THE LAST-REFERENCE RULE.** -/
theorem Move.lastReference (h : Move (Regime.noLateInstall env) db db') (hwf : WellFormed db)
    (hinv : LastReferences db) : LastReferences db' := by
  cases h with
  | frame hnow hid hjobs hnonces hrows hledger =>
    intro r hr hpend
    rw [hrows] at hr
    rw [hjobs] at hpend
    have hlast := hinv r hr hpend
    exact ⟨fun hlive => hlast.alone (by unfold OtherLive at hlive ⊢; rwa [hrows] at hlive),
      hlast.leaving.imp_right fun hnot hg => hnot (by unfold Genuine at hg ⊢; rwa [hrows] at hg)⟩
  | create job hid hnew hother =>
    exact hinv.of_jobs fun r hr hpend => hpend.of_append hwf hr hid
  | job hj hstep hnonce => exact hinv.of_jobs fun r _ hpend => hpend.of_step hj hstep
  | sweep p hp => exact hinv.of_jobs fun _ _ hpend => hpend
  | addRow row hid hkey hstate hprov hlast =>
    intro r hr hpend
    rw [List.mem_append, List.mem_singleton] at hr
    obtain hr | rfl := hr
    · have hrule := hinv r hr hpend
      refine ⟨?_, hrule.leaving.imp_right fun hnot hg => hnot ?_⟩
      · intro hlive
        obtain ⟨x, hx, htuple, hne, hconf⟩ := hlive
        rw [List.mem_append, List.mem_singleton] at hx
        obtain hx | rfl := hx
        · exact hrule.alone ⟨x, hx, htuple, hne, hconf⟩
        · rw [hstate] at hconf
          cases hconf
      · obtain ⟨x, hx, htuple, hp⟩ := hg
        rw [List.mem_append, List.mem_singleton] at hx
        obtain hx | rfl := hx
        · exact ⟨x, hx, htuple, hp⟩
        · rw [hprov] at hp
          cases hp
    · obtain ⟨x, -, hx, -⟩ := hpend
      rw [hlast] at hx
      cases hx
  | trustJob row row' job hrow hid hnew hfor hadv hrevoke =>
    exact hinv.trustJob hwf hrow hid hfor.trust hadv hrevoke
  | release row row' hrow hrel hwhy =>
    refine hinv.restate hrow hrel (fun _ _ _ _ _ hconf => by cases hconf) ?_
    intro _ hlast
    exact .inr (hwhy.resolve_left hlast.alone)
  | settle row row' hj hflight hstep hend hnonce hrow hlast hset htrust hinstall =>
    exact hinv.settle hwf hj hstep hend hrow hlast hset htrust hinstall
  | unwindDelete row j hrow hj hend hlast hstate =>
    intro r hr hpend
    have hrule := hinv r (mem_deleteWhere.mp hr).1 hpend
    refine ⟨?_, hrule.leaving.imp_right fun hnot hg => hnot ?_⟩
    · intro hlive
      obtain ⟨x, hx, htuple, hne, hconf⟩ := hlive
      exact hrule.alone ⟨x, (mem_deleteWhere.mp hx).1, htuple, hne, hconf⟩
    · obtain ⟨x, hx, htuple, hp⟩ := hg
      exact ⟨x, (mem_deleteWhere.mp hx).1, htuple, hp⟩
  | unwindRevert row row' j hrow hj hend hlast hstate hrev =>
    refine hinv.restate hrow hrev ?_ ?_
    · intro r hr hpend htuple hne _
      rw [hstate]
      rfl
    · intro hpend
      exact absurd hpend (not_pendingRevoke_of_ended hwf.jobs.key hj hend hlast)
  | note row row' hrow hnote =>
    exact hinv.restate hrow hnote (fun _ _ _ _ _ hconf => hconf) fun _ hlast => hlast.leaving

/-! ## §5. The rule at every dispatch. -/

/-- The call settles a distribute while another owner's reference of the slot has
    a revoke that can still be dispatched. -/
def Call.installsBesideRevoke (db : Db) : Call → Prop
  | .ingestResult agent _ body _ =>
    body.settles = true ∧
      ∃ job row, db.jobOf agent.workspaceId body.jobId = some job ∧
        job.operation = .distributeTrust ∧
        db.installationOfJob job.workspaceId job.id = some row ∧
        ∃ r ∈ db.installations, r.tuple = row.tuple ∧ r.owner ≠ row.owner ∧
          PendingRevoke db.jobs r
  | _ => False

theorem permits_noLateInstall (hwf : WellFormed db) {call : Call}
    (h : ¬ call.installsBesideRevoke db) : Permits (Regime.noLateInstall env) db call := by
  cases call with
  | ingestResult agent sequence body reads =>
    intro job row hjob hsettles hrow hop r hr htuple hne hpend
    have hmem := (installationOfJob_some hrow).1
    exact h ⟨hsettles, job, row, hjob, hop, hrow, r, hr, htuple,
      (owner_ne_iff hwf hr hmem htuple).mpr hne, hpend⟩
  | _ => simp [Permits, Regime.noLateInstall, Regime.free, Regime.any]

/-- A trust job that is let through has its reference. -/
theorem revalidate_allowed_row (hop : isTrustAnchorOperation job.operation = true)
    (h : (revalidateTrustJobForDispatch job db).1.allowed = true) :
    ∃ row, db.installationOfJob job.workspaceId job.id = some row := by
  cases hrow : db.installationOfJob job.workspaceId job.id with
  | some row => exact ⟨row, rfl⟩
  | none =>
    simp only [revalidateTrustJobForDispatch, revalidationVerdict, hop, hrow, Bool.not_true,
      Bool.false_eq_true, if_false] at h
    split at h
    · rename_i pem generation hverdict
      split at hverdict <;> cases hverdict
    · cases h

/-- **THE LAST-REFERENCE RULE** along every run that settles no distribute beside
    another owner's pending revoke: when the claim comes to a revoke-trust job and
    the revalidation lets it through, no reference of another owner of the slot is
    installed. -/
theorem last_reference_while_no_late_install {s s₁ : Db} {agent : AgentIdentity}
    {sequence : Option Nat} {caps : AgentCaps} {maxJobs : Nat} {reads : ClaimReads} {job : JobRow}
    (hreach : Reachable (system env) (fun s call => ¬ call.installsBesideRevoke s) s)
    (hturn : ClaimTurn env agent sequence caps maxJobs reads s job s₁)
    (hop : job.operation = .revokeTrust)
    (hallow : (revalidateTrustJobForDispatch job s₁).1.allowed = true) :
    ∃ row, s₁.installationOfJob job.workspaceId job.id = some row ∧
      ∀ r ∈ s₁.installations, r.tuple = row.tuple → r.owner ≠ row.owner →
        r.transitionState ≠ .installed := by
  have htimed : (Regime.noLateInstall env).Timed env := Regime.free_timed env
  have hwf := reachable_wellFormed hreach
  have hinv : LastReferences s :=
    reachable_invariant htimed (fun _ _ hwf h => permits_noLateInstall hwf h)
      (fun _ _ hwf hinv hm => hm.lastReference hwf hinv) (by intro r hr; cases hr) hreach
  obtain ⟨hmoves, hjob, hc⟩ := hturn.spec htimed hwf
  obtain ⟨hwf₁, hinv₁⟩ : WellFormed s₁ ∧ LastReferences s₁ :=
    hmoves.invariant (I := fun x => WellFormed x ∧ LastReferences x)
      (fun _ _ hx hm => ⟨hm.wellFormed hx.1, hm.lastReference hx.1 hx.2⟩) ⟨hwf, hinv⟩
  obtain ⟨row, hrow⟩ := revalidate_allowed_row (by rw [hop]; rfl) hallow
  refine ⟨row, hrow, fun r hr htuple howner hinstalled => ?_⟩
  obtain ⟨hmem, -, hlast⟩ := installationOfJob_some hrow
  have hdispatchable : job.status.dispatchable = true := by
    simp [JobStatus.dispatchable, hc.live, hc.not_running]
  refine (hinv₁ row hmem ⟨job, hjob, hlast, hop, hdispatchable⟩).alone ⟨r, hr, htuple, ?_, ?_⟩
  · exact (owner_ne_iff hwf₁ hr hmem htuple).mp howner
  · rw [hinstalled]
    rfl

/-- Owner A installs and asks for the removal: its revoke comes to its turn as the
    last reference. -/
theorem last_reference_demo :
    ∃ s s₁ job, Reachable (system Demo.env) (fun s call => ¬ call.installsBesideRevoke s) s ∧
      ClaimTurn Demo.env Demo.agent none Demo.caps 1 {} s job s₁ ∧
      job.operation = .revokeTrust ∧
      ∃ row, s₁.installationOfJob job.workspaceId job.id = some row ∧
        ∀ r ∈ s₁.installations, r.tuple = row.tuple → r.owner ≠ row.owner →
          r.transitionState ≠ .installed := by
  have hclaimed : Reachable (system Demo.env) (fun s call => ¬ call.installsBesideRevoke s)
      (play Demo.env (Demo.setup ++ [Demo.trustJob .distributeTrust "A" "k1", Demo.claim])) := by
    refine play_reachable_of_forall _ _ ?_
    intro call hcall db
    simp only [Demo.setup, List.cons_append, List.nil_append, List.mem_cons,
      List.not_mem_nil, or_false] at hcall
    obtain rfl | rfl | rfl | rfl | rfl := hcall <;> exact id
  -- One owner, so no other reference is beside the result.
  have hsettled := hclaimed.step (a := Demo.trustSucceed 3 4 5 2 .distributeTrust .installed)
    (by
      intro hbeside
      obtain ⟨-, job, row, -, -, hrow, r, hr, -, howner, -⟩ := hbeside
      have hone : ∀ r ∈ (play Demo.env (Demo.setup ++ [Demo.trustJob .distributeTrust "A" "k1",
          Demo.claim])).installations, r.owner = "A" := by decide
      exact howner ((hone r hr).trans (hone row (installationOfJob_some hrow).1).symm)) rfl
  have hrevoked := hsettled.step (a := Demo.trustJob .revokeTrust "A" "k2") id rfl
  have hturn : (firstTurn Demo.env Demo.agent none Demo.caps 1 {} (play Demo.env (Demo.setup ++
      [Demo.trustJob .distributeTrust "A" "k1", Demo.claim,
        Demo.trustSucceed 3 4 5 2 .distributeTrust .installed,
        Demo.trustJob .revokeTrust "A" "k2"]))).any (fun x =>
          x.1.operation = .revokeTrust && (revalidateTrustJobForDispatch x.1 x.2).1.allowed) =
      true := by decide
  obtain ⟨⟨job, s₁⟩, hfirst, hp⟩ := (Option.any_eq_true _ _).mp hturn
  simp only [Bool.and_eq_true, decide_eq_true_eq] at hp
  have hclaim := firstTurn_some hfirst
  exact ⟨_, s₁, job, hrevoked, hclaim, hp.1,
    last_reference_while_no_late_install hrevoked hclaim hp.1 hp.2⟩

/-- Owner B's distribute is claimed before owner A's revoke is created and reports
    after it: the revoke is then let through beside the installed reference of
    owner B. -/
theorem revoke_dispatched_beside_installed :
    ∃ s s₁ job row r, Reachable (system Demo.env) anyStep s ∧
      ClaimTurn Demo.env Demo.agent none Demo.caps 1 {} s job s₁ ∧
      job.operation = .revokeTrust ∧
      (revalidateTrustJobForDispatch job s₁).1.allowed = true ∧
      s₁.installationOfJob job.workspaceId job.id = some row ∧
      r ∈ s₁.installations ∧ r.tuple = row.tuple ∧ r.owner ≠ row.owner ∧
      r.transitionState = .installed := by
  have hturn : (firstTurn Demo.env Demo.agent none Demo.caps 1 {} (play Demo.env (Demo.setup ++
      [Demo.trustJob .distributeTrust "A" "k1", Demo.claim,
        Demo.trustSucceed 3 4 5 2 .distributeTrust .installed,
        Demo.trustJob .distributeTrust "B" "k2", Demo.claim,
        Demo.trustJob .revokeTrust "A" "k3",
        Demo.trustSucceed 7 8 9 2 .distributeTrust .preexisting]))).any (fun x =>
          x.1.operation = .revokeTrust && (revalidateTrustJobForDispatch x.1 x.2).1.allowed &&
          (x.2.installationOfJob x.1.workspaceId x.1.id).any (fun row =>
            x.2.installations.any fun r => r.tuple = row.tuple ∧ r.owner ≠ row.owner ∧
              r.transitionState = .installed)) = true := by decide
  obtain ⟨⟨job, s₁⟩, hfirst, hp⟩ := (Option.any_eq_true _ _).mp hturn
  simp only [Bool.and_eq_true, decide_eq_true_eq] at hp
  obtain ⟨⟨hop, hallow⟩, hrow⟩ := hp
  obtain ⟨row, hfound, hany⟩ := (Option.any_eq_true _ _).mp hrow
  obtain ⟨r, hr, hr'⟩ := List.any_eq_true.mp hany
  obtain ⟨htuple, howner, hstate⟩ := of_decide_eq_true hr'
  exact ⟨_, s₁, job, row, r, play_reachable _ _, firstTurn_some hfirst, hop, hallow, hfound, hr,
    htuple, howner, hstate⟩

end TokenTimer.CertOps
