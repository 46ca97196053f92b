/-
  TokenTimer.Distribution.Parallelism — how many deploy-from-store jobs of one rollout are
  active at a time.

  `advanceRollout` counts the consumers that are outstanding and have a job.  A consumer
  with an active job is outstanding as long as it is authorized; what breaks the bound is a
  job that becomes active again after its place was given away: `retryDistributionJob`
  counts nothing.

  Main results:
    * `parallelism_bounded` — at most `max_parallel` jobs are active, in every run whose
        retries find a free place.
-/

import TokenTimer.Distribution.WaveOrder

namespace TokenTimer.Distribution

open Lib.Runs Lib.Table TokenTimer.CertOps

variable {cfg : Config} {s t u : State}

/-! ## §1. The bound and the invariant. -/

/-- The jobs of a rollout in status `pending`, `pending_approval`, `claimed` or `running`. -/
def State.activeJobs (s : State) (rolloutId : Nat) : List Job :=
  s.jobs.filter fun j => j.intent.rolloutId = rolloutId ∧ activeStatus j.status = true

/-- At most `max_parallel` jobs of one rollout are active. -/
def Bounded (s : State) : Prop :=
  ∀ r ∈ s.rollouts, (s.activeJobs r.id).length ≤ r.maxParallel

/-- The rollout of a consumer is the newest of the group. -/
def State.newest (s : State) (d : Deployment) : Prop :=
  ∃ r ∈ s.rollouts, r.id = d.rolloutId ∧ r.generation = s.generation

/-- A consumer whose job is active is counted: it is not done, and it is authorized unless
    it is required. -/
structure Counted (s : State) (d : Deployment) : Prop where
  open_ : d.done = false
  authorized : s.newest d → d.terms.required = false → s.authorized d = true

structure Parallel (s : State) : Prop where
  bounded : Bounded s
  counted : ∀ d ∈ s.deployments, ∀ j ∈ s.jobs, d.jobId = some j.id →
    activeStatus j.status = true → Counted s d

variable {authority toApproval : Bool} {d : Deployment} {j : Job} {jobId : Nat} {r : Rollout}

theorem mem_activeJobs {rolloutId : Nat} :
    j ∈ s.activeJobs rolloutId ↔
      j ∈ s.jobs ∧ j.intent.rolloutId = rolloutId ∧ activeStatus j.status = true := by
  simp [State.activeJobs]

theorem Snapshots.activeJobs_length_le (h : Snapshots s) {rolloutId : Nat} {bindingIds : List Nat}
    (hsub : ∀ j ∈ s.activeJobs rolloutId, j.intent.bindingId ∈ bindingIds) :
    (s.activeJobs rolloutId).length ≤ bindingIds.length := by
  have hjobs : (s.activeJobs rolloutId).Nodup := (List.Nodup.of_map _ h.jobKeys).filter _
  have hnodup : ((s.activeJobs rolloutId).map (·.intent.bindingId)).Nodup := by
    apply hjobs.map_on
    intro i hi j hj hbinding
    obtain ⟨hi, hir, -⟩ := mem_activeJobs.mp hi
    obtain ⟨hj, hjr, -⟩ := mem_activeJobs.mp hj
    exact h.job_unique hi hj (hir.trans hjr.symm) hbinding
  rw [← List.length_map (fun j : Job => j.intent.bindingId)]
  apply (hnodup.subperm _).length_le
  intro id hid
  obtain ⟨j, hj, rfl⟩ := List.mem_map.mp hid
  exact hsub j hj

/-! ## §2. Steps that make no job active. -/

/-- No job becomes active, and no consumer with an active job moves on. -/
structure Calm (s t : State) : Prop where
  kept : Kept s t
  jobs : ∀ j ∈ t.jobs, activeStatus j.status = true →
    ∃ i ∈ s.jobs, i.core = j.core ∧ activeStatus i.status = true
  stages : ∀ d ∈ t.deployments, ∀ j ∈ t.jobs, d.jobId = some j.id → activeStatus j.status = true →
    d ∈ s.deployments ∨ d.done = false

theorem Calm.of_eq (hkept : Kept s t) (hjobs : t.jobs = s.jobs) (hdeployments : t.deployments = s.deployments) :
    Calm s t where
  kept := hkept
  jobs j hj hactive := ⟨j, hjobs ▸ hj, rfl, hactive⟩
  stages _ hd _ _ _ _ := .inl (hdeployments ▸ hd)

theorem State.newest.of_kept (hkept : Kept s t) {e : Deployment} (h : t.newest e)
    (hconsumer : d.consumer = e.consumer) : s.newest d := by
  obtain ⟨r, hr, hid, hgeneration⟩ := h
  obtain ⟨q, hq, hqr⟩ := hkept.mem_rollouts hr
  obtain ⟨hqid, hqgeneration, -⟩ := id_of_frozen hqr
  refine ⟨q, hq, ?_, ?_⟩
  · rw [hqid, hid, (rolloutId_of_consumer hconsumer).1]
  · rw [hqgeneration, hgeneration, hkept.generation]

theorem authorized_congr {e : Deployment} (hbindings : t.bindings = s.bindings)
    (hconsumer : d.consumer = e.consumer) : t.authorized e = s.authorized d := by
  obtain ⟨-, hbinding, -, hrevision⟩ := rolloutId_of_consumer hconsumer
  unfold State.authorized State.binding
  rw [hbindings, hbinding, hrevision]

/-- A consumer stays counted while its frozen columns and its binding stay. -/
theorem Counted.congr {e : Deployment} (h : Counted s d) (hkept : Kept s t)
    (hconsumer : d.consumer = e.consumer) (hopen : e.done = false) : Counted t e where
  open_ := hopen
  authorized := by
    intro hnewest hrequired
    rw [authorized_congr hkept.bindings hconsumer]
    apply h.authorized (hnewest.of_kept hkept hconsumer)
    rw [(rolloutId_of_consumer hconsumer).2.2.1]
    exact hrequired

theorem Parallel.calm (h : Parallel s) (ht : Snapshots t) (hcalm : Calm s t) : Parallel t where
  bounded := by
    intro r hr
    obtain ⟨q, hq, hqr⟩ := hcalm.kept.mem_rollouts hr
    obtain ⟨hid, -, -, hparallel, -⟩ := id_of_frozen hqr
    have hbound := h.bounded q hq
    rw [hid, hparallel] at hbound
    have hle : (t.activeJobs r.id).length ≤ ((s.activeJobs r.id).map (·.intent.bindingId)).length := by
      apply ht.activeJobs_length_le
      intro j hj
      obtain ⟨hj, hjr, hactive⟩ := mem_activeJobs.mp hj
      obtain ⟨i, hi, hij, hactive⟩ := hcalm.jobs j hj hactive
      have hintent : i.intent = j.intent := congrArg (fun c => c.2.1) hij
      refine List.mem_map.mpr ⟨i, mem_activeJobs.mpr ⟨hi, ?_, hactive⟩, ?_⟩
      · rw [hintent, hjr]
      · rw [hintent]
    rw [List.length_map] at hle
    omega
  counted := by
    intro e he j hj hjob hactive
    obtain ⟨d, hd, hde⟩ := hcalm.kept.mem_deployments he
    obtain ⟨hconsumer, hsame⟩ := consumer_of_frozen hde
    obtain ⟨i, hi, hij, hiactive⟩ := hcalm.jobs j hj hactive
    have hid : i.id = j.id := congrArg Prod.fst hij
    have hcounted := h.counted d hd i hi (by rw [hsame, hjob, hid]) hiactive
    apply hcounted.congr hcalm.kept hconsumer
    obtain hold | hopen := hcalm.stages e he j hj hjob hactive
    · exact (h.counted e hold i hi (by rw [hjob, hid]) hiactive).open_
    · exact hopen

theorem Calm.setJob (hs : Snapshots s) {f : Job → Job} (hj : s.job j.id = some j)
    (hcore : ∀ i, (f i).core = i.core)
    (hactive : activeStatus (f j).status = true → activeStatus j.status = true) :
    Calm s (s.setJob j.id f) where
  kept := setJob_kept s j.id hcore
  jobs := by
    intro i hi hiactive
    obtain ⟨x, hx, rfl⟩ := mem_updateWhere.mp hi
    by_cases hid : x.id = j.id
    · have hxj : x = j := hs.jobKeys.eq_of_mem hx (job_some hj).1 hid
      subst hxj
      rw [if_pos (by simp)] at hiactive ⊢
      exact ⟨x, hx, (hcore x).symm, hactive hiactive⟩
    · rw [if_neg (by simpa using hid)] at hiactive ⊢
      exact ⟨x, hx, rfl, hiactive⟩
  stages d hd _ _ _ _ := .inl hd

theorem Settled.calm (hs : Snapshots s) {jobStatus : JobStatus} (hj : s.job j.id = some j)
    (hover : activeStatus jobStatus = false) (h : Settled cfg s j jobStatus u) :
    Calm s (u.setJob j.id (Job.settled jobStatus)) := by
  have hmem := (job_some hj).1
  have hjobs : u.jobs = s.jobs := by
    cases h with
    | receipt receipt fenceBusy haccept =>
      obtain ⟨row, -, -, rfl | ⟨-, rfl⟩⟩ := acceptDeploymentReceipt_ok haccept <;>
        rw [enqueue_jobs] <;> rfl
    | failed =>
      rw [enqueue_jobs]
      rfl
  -- an active job of the state after is not the one that reported
  have hother : ∀ i ∈ (u.setJob j.id (Job.settled jobStatus)).jobs, activeStatus i.status = true →
      i ∈ s.jobs ∧ i.id ≠ j.id := by
    intro i hi hactive
    obtain ⟨x, hx, rfl⟩ := mem_updateWhere.mp hi
    by_cases hid : x.id = j.id
    · rw [if_pos (by simpa using hid)] at hactive
      have : activeStatus jobStatus = true := hactive
      rw [hover] at this
      cases this
    · rw [if_neg (by simpa using hid)]
      exact ⟨hjobs ▸ hx, hid⟩
  -- the consumers whose stage is written are held by that job
  have hstaged : ∀ stage, ∀ d ∈ (s.staged j stage).deployments, d.jobId ≠ some j.id →
      d ∈ s.deployments := by
    intro stage d hd hjob
    obtain ⟨x, hx, rfl⟩ := mem_updateWhere.mp hd
    split at hjob
    · rename_i hkey
      obtain ⟨e, he, howns, -, r, -, hr, hintent⟩ := hs.owned j hmem
      simp only [decide_eq_true_eq] at hkey
      have hxe : x = e := by
        apply hs.consumer_eq hx he
        · rw [hkey.1, ← hr, hintent]
          rfl
        · rw [hkey.2, hintent]
          rfl
      rw [hxe] at hjob
      exact absurd howns hjob
    · rename_i hkey
      rw [if_neg hkey]
      exact hx
  refine ⟨h.kept.trans (setJob_kept u _ fun _ => rfl), ?_, ?_⟩
  · intro i hi hactive
    exact ⟨i, (hother i hi hactive).1, rfl, hactive⟩
  · intro d hd i hi hjob hactive
    have hne : d.jobId ≠ some j.id := by
      rw [hjob]
      simpa using (hother i hi hactive).2
    left
    change d ∈ u.deployments at hd
    cases h with
    | receipt receipt fenceBusy haccept =>
      obtain ⟨row, -, -, rfl | ⟨-, rfl⟩⟩ := acceptDeploymentReceipt_ok haccept <;>
        rw [enqueue_deployments] at hd <;> exact hstaged _ d hd hne
    | failed hfailed stage =>
      rw [enqueue_deployments] at hd
      obtain ⟨x, hx, rfl⟩ := mem_updateWhere.mp hd
      split at hne
      · rename_i hkey
        exact absurd (by simpa using hkey) hne
      · rename_i hkey
        rw [if_neg hkey]
        exact hx

theorem failedStatus_inactive {status : JobStatus} (h : status = .succeeded ∨ failedStatus status = true) :
    activeStatus status = false := by
  cases status <;> simp_all [failedStatus, activeStatus]

theorem activeStatus_of_inFlight {status : JobStatus} (h : status.inFlight = true) :
    activeStatus status = true := by
  cases status <;> simp_all [JobStatus.inFlight, activeStatus]

theorem Job.dispatchable_active {now agentId : Nat} (h : j.dispatchable now agentId = true) :
    activeStatus j.status = true := by
  unfold Job.dispatchable at h
  simp only [Bool.or_eq_true, Bool.and_eq_true, decide_eq_true_eq] at h
  obtain hpending | ⟨⟨⟨⟨hclaimed, -⟩, -⟩, -⟩, -⟩ := h
  · simp [activeStatus, hpending]
  · simp [activeStatus, hclaimed]

theorem next_calm (hs : Snapshots s) {e : Event} (h : next cfg s e = some t) (hplain : e.plain = true)
    (hretry : ∀ jobId authority toApproval, e ≠ .retryJob jobId authority toApproval) : Calm s t := by
  have hkept := next_kept h hplain
  cases e <;> dsimp only [next] at h
  case wait => cases h; exact .of_eq hkept rfl rfl
  case setPaused => cases h; exact .of_eq hkept rfl rfl
  case endGroup => cases h; exact .of_eq hkept rfl rfl
  case publish =>
    split at h
    · cases h; exact .of_eq hkept rfl rfl
    · cases h
  case retireVersion => cases h; exact .of_eq hkept rfl rfl
  case setRolloutState =>
    obtain ⟨-, rfl⟩ | ⟨-, rfl⟩ := setRolloutState_ok h
    · exact .of_eq hkept rfl rfl
    · exact .of_eq hkept (by rw [enqueue_jobs]; rfl) (by rw [enqueue_deployments]; rfl)
  case claimJob jobId agentId authority =>
    obtain ⟨j, hj, hdispatchable, -, -, rfl⟩ := claimJob_ok h
    obtain rfl := (job_some hj).2
    have hcalm := Calm.setJob (f := Job.claimed agentId s.nextClaimId (s.now + cfg.jobLeaseMs)) hs hj
      (fun _ => rfl) fun _ => Job.dispatchable_active hdispatchable
    exact ⟨hkept, hcalm.jobs, hcalm.stages⟩
  case renewLease jobId claimId authority =>
    obtain ⟨j, hj, hflight, -, rfl⟩ := renewLease_ok h
    obtain rfl := (job_some hj).2
    exact .setJob hs hj (fun _ => rfl) fun _ => activeStatus_of_inFlight hflight
  case result jobId claimId jobStatus receipt fenceBusy =>
    obtain ⟨j, u, hj, -, hstatus, hsettled, rfl⟩ := ingestResult_ok h
    obtain rfl := (job_some hj).2
    exact hsettled.calm hs hj (failedStatus_inactive hstatus)
  case reap jobId =>
    obtain ⟨j, hj, hflight, rfl⟩ := reap_ok h
    obtain rfl := (job_some hj).2
    exact .setJob hs hj Job.reaped_core fun _ => activeStatus_of_inFlight hflight
  case moveJob jobId status =>
    obtain ⟨j, hj, hactive, -, rfl⟩ := moveJob_ok h
    obtain rfl := (job_some hj).2
    exact .setJob hs hj (fun _ => rfl) fun _ => hactive
  case retryJob jobId authority toApproval => exact absurd rfl (hretry jobId authority toApproval)
  case claimEvent =>
    obtain ⟨row, -, -, rfl⟩ := claimEvent_ok h
    exact .of_eq hkept rfl rfl
  case finishEvent =>
    obtain ⟨d, -, outcome, -, -, rfl⟩ := finishEvent_ok h
    exact .of_eq hkept rfl rfl
  case dropEvent => cases h; exact .of_eq hkept rfl rfl
  case resetEvent => cases h; exact .of_eq hkept rfl rfl
  all_goals cases hplain

/-! ## §3. The steps that can make jobs active. -/

/-- A retry finds a free place; and a binding that moves takes the authorization from no
    optional consumer whose job is active. -/
def PlaceFree (s : State) : Event → Prop
  | .retryJob jobId _ _ =>
    ∀ j ∈ s.jobs, j.id = jobId → ∀ r ∈ s.rollouts, r.id = j.intent.rolloutId →
      (s.activeJobs r.id).length < r.maxParallel
  | .putBinding bindingId terms active =>
    (∃ b ∈ s.bindings, b.id = bindingId ∧ b.terms = terms ∧ b.active = active) ∨
      ∀ d ∈ s.deployments, d.bindingId = bindingId → s.newest d → d.terms.required = false →
        ∀ j ∈ s.jobs, d.jobId = some j.id → activeStatus j.status = false
  | _ => True

instance (s : State) (d : Deployment) : Decidable (s.newest d) :=
  inferInstanceAs (Decidable (∃ r ∈ s.rollouts, r.id = d.rolloutId ∧ r.generation = s.generation))

instance (s : State) : DecidablePred (PlaceFree s)
  | .retryJob jobId _ _ =>
    inferInstanceAs (Decidable (∀ j ∈ s.jobs, j.id = jobId → ∀ r ∈ s.rollouts,
      r.id = j.intent.rolloutId → (s.activeJobs r.id).length < r.maxParallel))
  | .putBinding bindingId terms active =>
    inferInstanceAs (Decidable ((∃ b ∈ s.bindings, b.id = bindingId ∧ b.terms = terms ∧
      b.active = active) ∨ ∀ d ∈ s.deployments, d.bindingId = bindingId → s.newest d →
        d.terms.required = false → ∀ j ∈ s.jobs, d.jobId = some j.id → activeStatus j.status = false))
  | .wait _ | .setPaused _ | .endGroup | .publish _ | .retireVersion _ | .createSnapshot _ _ _ _
  | .setRolloutState _ _ _ | .claimJob _ _ _ | .renewLease _ _ _ | .result _ _ _ _ _ | .reap _
  | .moveJob _ _ | .claimEvent _ | .handleEvent _ _ _ _ | .finishEvent _ | .dropEvent _
  | .resetEvent _ => .isTrue trivial

/-- Other bindings than the one that moves stay found. -/
theorem putBinding_authorized (hs : Snapshots s) {bindingId : Nat} {terms : Terms} {active : Bool}
    (h : putBinding cfg bindingId terms active s = some t) (hother : d.bindingId ≠ bindingId ∨ t = s)
    (hauthorized : s.authorized d = true) :
    t.authorized d = true := by
  obtain ⟨b, hb, hactive⟩ := authorized_iff.mp hauthorized
  apply authorized_iff.mpr
  refine ⟨b, ?_, hactive⟩
  obtain ⟨hmem, hid⟩ := binding_some hb
  have ht := hs.putBinding h
  rw [← hid]
  apply ht.binding_eq
  obtain rfl | ⟨old, hold, -, rfl⟩ | ⟨hnone, rfl⟩ := putBinding_ok h
  · exact hmem
  · obtain hother | hsame := hother
    · refine mem_updateWhere.mpr ⟨b, hmem, ?_⟩
      rw [if_neg (by simpa [hid] using hother)]
    · rw [hsame]
      exact hmem
  · exact List.mem_append_left _ hmem

theorem Parallel.putBinding (h : Parallel s) (hs : Snapshots s) {bindingId : Nat} {terms : Terms}
    {active : Bool} (hok : PlaceFree s (.putBinding bindingId terms active))
    (hput : putBinding cfg bindingId terms active s = some t) : Parallel t := by
  have hrest : t.jobs = s.jobs ∧ t.deployments = s.deployments ∧ t.rollouts = s.rollouts ∧
      t.generation = s.generation := by
    obtain rfl | ⟨-, -, -, rfl⟩ | ⟨-, rfl⟩ := putBinding_ok hput <;> exact ⟨rfl, rfl, rfl, rfl⟩
  obtain ⟨hjobs, hdeployments, hrollouts, hgeneration⟩ := hrest
  refine ⟨?_, ?_⟩
  · unfold Bounded State.activeJobs
    rw [hjobs, hrollouts]
    exact h.bounded
  · intro d hd j hj hjob hactive
    rw [hdeployments] at hd
    rw [hjobs] at hj
    have hcounted := h.counted d hd j hj hjob hactive
    refine ⟨hcounted.open_, ?_⟩
    intro hnewest hrequired
    have hnewest : s.newest d := by
      unfold State.newest at hnewest ⊢
      rwa [hrollouts, hgeneration] at hnewest
    apply putBinding_authorized hs hput ?_ (hcounted.authorized hnewest hrequired)
    unfold PlaceFree at hok
    obtain ⟨b, hb, hid, hterms, hactiveb⟩ | hidle := hok
    · right
      obtain rfl | ⟨old, hold, hmoved, -⟩ | ⟨hnone, -⟩ := putBinding_ok hput
      · rfl
      · obtain ⟨hmem, holdid⟩ := binding_some hold
        have : b = old := hs.bindingKeys.eq_of_mem hb hmem (hid.trans holdid.symm)
        subst this
        exact absurd ⟨hterms, hactiveb⟩ hmoved
      · rw [← hid, hs.binding_eq hb] at hnone
        cases hnone
    · left
      intro hbinding
      have := hidle d hd hbinding hnewest hrequired j hj hjob
      rw [hactive] at this
      cases this

theorem Parallel.snapshot (h : Parallel s) (hs : Snapshots s) {versionId maxParallel : Nat}
    {verificationOnly approved : Bool}
    (hsnapshot : createRolloutSnapshot versionId maxParallel verificationOnly approved s = some t) :
    Parallel t := by
  obtain ⟨-, rfl⟩ := createRolloutSnapshot_ok hsnapshot
  refine ⟨?_, ?_⟩
  · intro r hr
    unfold State.activeJobs
    rw [enqueue_jobs]
    rw [enqueue_rollouts] at hr
    obtain hr | hr := List.mem_append.mp hr
    · exact h.bounded r hr
    · obtain rfl := List.mem_singleton.mp hr
      have hnone : s.activeJobs s.nextRolloutId = [] := by
        rw [List.eq_nil_iff_forall_not_mem]
        intro j hj
        obtain ⟨hj, hjr, -⟩ := mem_activeJobs.mp hj
        obtain ⟨d, hd, -, -, q, hq, -, hintent⟩ := hs.owned j hj
        have hlt := (hs.rolloutIds q hq).1
        rw [hintent] at hjr
        change q.id = s.nextRolloutId at hjr
        omega
      show (s.activeJobs s.nextRolloutId).length ≤ maxParallel
      rw [hnone]
      exact Nat.zero_le _
  · intro d hd j hj hjob hactive
    rw [enqueue_deployments] at hd
    rw [enqueue_jobs] at hj
    obtain hd | hd := List.mem_append.mp hd
    · refine ⟨(h.counted d hd j hj hjob hactive).open_, ?_⟩
      rintro ⟨r, hr, hid, hgeneration⟩
      exfalso
      rw [enqueue_rollouts] at hr
      rw [(enqueue_kept _ _ _).generation] at hgeneration
      change r.generation = s.generation + 1 at hgeneration
      obtain hr | hr := List.mem_append.mp hr
      · have := (hs.rolloutIds r hr).2.2
        omega
      · obtain rfl := List.mem_singleton.mp hr
        obtain ⟨⟨q, hq, hqid⟩, -⟩ := hs.placed d hd
        have := (hs.rolloutIds q hq).1
        change s.nextRolloutId = d.rolloutId at hid
        omega
    · obtain ⟨b, -, rfl⟩ := List.mem_map.mp hd
      cases hjob

theorem Parallel.active_le (h : Parallel s) (hs : Snapshots s) (hr : r ∈ s.rollouts)
    (hgeneration : s.generation = r.generation)
    (hfine : ∀ d ∈ s.consumers r.id, d.terms.required = true → s.failed d = false) :
    (s.activeJobs r.id).length ≤ ((s.outstanding r.id).filter fun d => d.jobId.isSome).length := by
  suffices hle : (s.activeJobs r.id).length ≤
      (((s.outstanding r.id).filter fun d => d.jobId.isSome).map Deployment.bindingId).length by
    rwa [List.length_map] at hle
  apply hs.activeJobs_length_le
  intro j hj
  obtain ⟨hj, hjr, hactive⟩ := mem_activeJobs.mp hj
  obtain ⟨d, hd, hjob, -, q, -, hq, hintent⟩ := hs.owned j hj
  have hrollout : d.rolloutId = r.id := by
    rw [← hjr, hintent]
    exact hq.symm
  have hbinding : d.bindingId = j.intent.bindingId := by
    rw [hintent]
    rfl
  have hcounted := h.counted d hd j hj hjob hactive
  have hrow : d ∈ s.consumers r.id := hrollout ▸ hs.consumer_mem hd
  refine List.mem_map.mpr ⟨d, ?_, hbinding⟩
  rw [List.mem_filter]
  refine ⟨mem_outstanding.mpr ⟨hrow, hcounted.open_, ?_⟩, by simp [hjob]⟩
  by_cases hrequired : d.terms.required = true
  · exact hfine d hrow hrequired
  · apply failed_eq_false.mpr
    refine ⟨?_, hcounted.authorized ⟨r, hr, hrollout.symm, hgeneration.symm⟩ (by simpa using hrequired)⟩
    have hstatus : s.jobStatus d = some j.status := by
      unfold State.jobStatus
      rw [hjob]
      show (s.job j.id).map (·.status) = _
      rw [hs.job_eq hj]
      rfl
    rw [hstatus]
    revert hactive
    cases j.status <;> simp [failedStatus, activeStatus]

theorem startJobs_stages {fingerprintSha256 : String} {status : JobStatus} :
    (s.startJobs r fingerprintSha256 status).deployments.map (fun d => { d with jobId := none }) =
      s.deployments.map fun d => { d with jobId := none } := by
  unfold State.startJobs
  generalize s.toStart r = ds
  induction ds generalizing s with
  | nil => rfl
  | cons d ds ih =>
    refine ih.trans ?_
    unfold State.startJob State.createJob
    split <;> exact map_key_updateWhere fun _ => rfl

theorem toStart_length_le (s : State) (r : Rollout) :
    (s.toStart r).length ≤
      r.maxParallel - ((s.outstanding r.id).filter fun d => d.jobId.isSome).length := by
  unfold State.toStart
  exact List.length_take_le _ _

/-- The jobs a rollout is given fit in the capacity that was left. -/
theorem Parallel.launched (h : Parallel s) (hs : Snapshots s) {fingerprintSha256 : String}
    {status : JobStatus} (ht : Snapshots t) (hlaunched : Launched s r fingerprintSha256 status t) :
    Parallel t := by
  obtain ⟨hr, -⟩ := rollout_some hlaunched.found
  have hjobs : ∀ j ∈ t.jobs, j ∈ s.jobs ∨ ∃ d ∈ s.toStart r, j.intent = d.intent r fingerprintSha256 := by
    intro j hj
    rw [hlaunched.jobs] at hj
    exact mem_startJobs hj
  refine ⟨?_, ?_⟩
  · intro q hq
    obtain ⟨q', hq', hframe⟩ := hlaunched.kept.mem_rollouts hq
    rw [startJobs_rollouts] at hq'
    obtain ⟨hid, -, -, hparallel, -⟩ := id_of_frozen hframe
    rw [← hid, ← hparallel]
    have hbound := h.bounded q' hq'
    by_cases hsame : q'.id = r.id
    · have hqr : q' = r := hs.rolloutKeys.eq_of_mem hq' hr hsame
      subst hqr
      have hle : (t.activeJobs q'.id).length ≤
          ((s.activeJobs q'.id).map (·.intent.bindingId) ++ (s.toStart q').map (·.bindingId)).length := by
        apply ht.activeJobs_length_le
        intro j hj
        obtain ⟨hj, hjr, hactive⟩ := mem_activeJobs.mp hj
        apply List.mem_append.mpr
        obtain hold | ⟨d, hd, hintent⟩ := hjobs j hj
        · exact .inl (List.mem_map.mpr ⟨j, mem_activeJobs.mpr ⟨hold, hjr, hactive⟩, rfl⟩)
        · exact .inr (List.mem_map.mpr ⟨d, hd, by rw [hintent]; rfl⟩)
      rw [List.length_append, List.length_map, List.length_map] at hle
      have hactive := h.active_le hs hr hlaunched.generation hlaunched.fine
      have hstart := toStart_length_le s q'
      omega
    · have hle : (t.activeJobs q'.id).length ≤
          ((s.activeJobs q'.id).map (·.intent.bindingId)).length := by
        apply ht.activeJobs_length_le
        intro j hj
        obtain ⟨hj, hjr, hactive⟩ := mem_activeJobs.mp hj
        obtain hold | ⟨d, hd, hintent⟩ := hjobs j hj
        · exact List.mem_map.mpr ⟨j, mem_activeJobs.mpr ⟨hold, hjr, hactive⟩, rfl⟩
        · rw [hintent] at hjr
          exact absurd hjr.symm hsame
      rw [List.length_map] at hle
      omega
  · intro e he j hj hjob hactive
    -- the consumer as it was, with its stage, and the owner of the job
    have hmem : { e with jobId := none } ∈ s.deployments.map fun d => { d with jobId := none } := by
      rw [← @startJobs_stages s r fingerprintSha256 status]
      exact List.mem_map_of_mem (hlaunched.deployments ▸ he)
    obtain ⟨d, hd, hde⟩ := List.mem_map.mp hmem
    simp only [Deployment.mk.injEq] at hde
    obtain ⟨hrollout, hbinding, hterms, hrevision, -, hstage⟩ := hde
    have hconsumer : d.consumer = e.consumer := by
      simp [Deployment.consumer, hrollout, hbinding, hterms, hrevision]
    have hdone : e.done = d.done := by
      unfold Deployment.done
      rw [hterms, hstage]
    obtain ⟨i, hi, hij, -, -, q, -, hq, hintent⟩ := ht.assigned e he j.id hjob
    have hij : i = j := ht.jobKeys.eq_of_mem hi hj hij
    subst hij
    have hkey : i.intent.rolloutId = d.rolloutId ∧ i.intent.bindingId = d.bindingId := by
      rw [hintent, hrollout, hbinding]
      exact ⟨hq, rfl⟩
    have hcounted : Counted s d := by
      obtain hold | ⟨c, hc, hfor⟩ := hjobs i hj
      · obtain ⟨c, hc, hcjob, -, p, -, hp, hfor⟩ := hs.owned i hold
        have hcd : c = d := by
          apply hs.consumer_eq hc hd
          · rw [← hkey.1, hfor, ← hp]
            rfl
          · rw [← hkey.2, hfor]
            rfl
        subst hcd
        exact h.counted c hc i hold hcjob hactive
      · obtain ⟨hrow, hopen, hfine⟩ := mem_outstanding.mp (mem_toStart hc).1
        obtain ⟨hcmem, hcr, -⟩ := mem_consumers.mp hrow
        have hcd : c = d := by
          apply hs.consumer_eq hcmem hd
          · rw [← hkey.1, hfor, hcr]
            rfl
          · rw [← hkey.2, hfor]
            rfl
        subst hcd
        exact ⟨hopen, fun _ _ => (failed_eq_false.mp hfine).2⟩
    refine ⟨hdone ▸ hcounted.open_, ?_⟩
    intro hnewest hrequired
    have hbindings : t.bindings = s.bindings := by
      rw [hlaunched.kept.bindings]
      exact startJobs_rest.2.2.1
    rw [authorized_congr hbindings hconsumer]
    apply hcounted.authorized _ (hterms ▸ hrequired)
    have hkept := hnewest.of_kept hlaunched.kept hconsumer
    unfold State.newest at hkept ⊢
    rwa [startJobs_rollouts, startJobs_rest.2.2.2.1] at hkept

theorem retry_jobs (hs : Snapshots s)
    (hretry : retryDistributionJob jobId authority toApproval s = some t) :
    ∃ j ∈ s.jobs, j.id = jobId ∧ ∀ i ∈ t.jobs, i ∈ s.jobs ∧ i.id ≠ jobId ∨ i.core = j.core := by
  obtain ⟨j, d, r, hj, -, -, -, -, -, -, rfl⟩ := retryDistributionJob_ok hretry
  obtain ⟨hmem, hid⟩ := job_some hj
  refine ⟨j, hmem, hid, ?_⟩
  intro i hi
  obtain ⟨x, hx, rfl⟩ := mem_updateWhere.mp hi
  have hx : x ∈ s.jobs := by
    by_cases hdegraded : r.state = .degraded
    · rwa [if_pos hdegraded] at hx
    · rwa [if_neg hdegraded] at hx
  by_cases hxid : x.id = jobId
  · have hxj : x = j := hs.jobKeys.eq_of_mem hx hmem (hxid.trans hid.symm)
    subst hxj
    rw [if_pos (by simpa using hxid)]
    exact .inr rfl
  · rw [if_neg (by simpa using hxid)]
    exact .inl ⟨hx, hxid⟩

theorem retry_stages (hretry : retryDistributionJob jobId authority toApproval s = some t) :
    ∀ d ∈ t.deployments, d.jobId ≠ some jobId ∧ d ∈ s.deployments ∨ d.done = false := by
  obtain ⟨j, c, r, -, -, -, -, -, -, -, rfl⟩ := retryDistributionJob_ok hretry
  intro d hd
  obtain ⟨x, hx, rfl⟩ := mem_updateWhere.mp hd
  have hx : x ∈ s.deployments := by
    by_cases hdegraded : r.state = .degraded
    · rwa [if_pos hdegraded] at hx
    · rwa [if_neg hdegraded] at hx
  split
  · right
    unfold Deployment.done
    dsimp only
    cases x.terms.verificationPolicy <;> rfl
  · rename_i hkey
    by_cases hjob : x.jobId = some jobId
    · right
      have hstage : x.stage = .orphanedUnknownEffect := by
        by_contra hstage
        exact hkey (by simpa using ⟨hjob, hstage⟩)
      unfold Deployment.done
      rw [hstage]
      cases x.terms.verificationPolicy <;> rfl
    · exact .inl ⟨hjob, hx⟩

theorem Parallel.retry (h : Parallel s) (hs : Snapshots s) (hkept : Kept s t)
    (hok : PlaceFree s (.retryJob jobId authority toApproval))
    (hretry : retryDistributionJob jobId authority toApproval s = some t) : Parallel t := by
  have ht := hs.of_kept hkept
  obtain ⟨j, hj, hid, hjobs⟩ := retry_jobs hs hretry
  refine ⟨?_, ?_⟩
  · intro q hq
    obtain ⟨q', hq', hframe⟩ := hkept.mem_rollouts hq
    obtain ⟨hqid, -, -, hparallel, -⟩ := id_of_frozen hframe
    rw [← hqid, ← hparallel]
    by_cases hsame : q'.id = j.intent.rolloutId
    · have hfree := hok j hj hid q' hq' hsame
      have hle : (t.activeJobs q'.id).length ≤
          (j.intent.bindingId :: (s.activeJobs q'.id).map (·.intent.bindingId)).length := by
        apply ht.activeJobs_length_le
        intro i hi
        obtain ⟨hi, hir, hiactive⟩ := mem_activeJobs.mp hi
        apply List.mem_cons.mpr
        obtain ⟨hold, -⟩ | hcore := hjobs i hi
        · exact .inr (List.mem_map.mpr ⟨i, mem_activeJobs.mpr ⟨hold, hir, hiactive⟩, rfl⟩)
        · exact .inl (congrArg (fun c => c.2.1.bindingId) hcore)
      rw [List.length_cons, List.length_map] at hle
      omega
    · have hbound := h.bounded q' hq'
      have hle : (t.activeJobs q'.id).length ≤
          ((s.activeJobs q'.id).map (·.intent.bindingId)).length := by
        apply ht.activeJobs_length_le
        intro i hi
        obtain ⟨hi, hir, hiactive⟩ := mem_activeJobs.mp hi
        obtain ⟨hold, -⟩ | hcore := hjobs i hi
        · exact List.mem_map.mpr ⟨i, mem_activeJobs.mpr ⟨hold, hir, hiactive⟩, rfl⟩
        · have : i.intent.rolloutId = j.intent.rolloutId :=
            congrArg (fun c => c.2.1.rolloutId) hcore
          exact absurd (hir.symm.trans this) hsame
      rw [List.length_map] at hle
      omega
  · intro e he i hi hjob hiactive
    obtain ⟨d, hd, hde⟩ := hkept.mem_deployments he
    obtain ⟨hconsumer, hsame⟩ := consumer_of_frozen hde
    obtain ⟨hold, hother⟩ | hcore := hjobs i hi
    · have hcounted := h.counted d hd i hold (hsame.trans hjob) hiactive
      apply hcounted.congr hkept hconsumer
      obtain ⟨-, hmem⟩ | hopen := retry_stages hretry e he
      · exact (h.counted e hmem i hold hjob hiactive).open_
      · exact hopen
    · have hii : i.id = jobId := (congrArg Prod.fst hcore).trans hid
      have hopen : e.done = false := by
        obtain ⟨hne, -⟩ | hopen := retry_stages hretry e he
        · rw [hjob, hii] at hne
          exact absurd rfl hne
        · exact hopen
      -- the retry has read the binding of this consumer
      obtain ⟨x, c, r, hx, hc, hcjob, hr, -, -, hcurrent, -⟩ := retryDistributionJob_ok hretry
      have hcd : c = d := by
        obtain ⟨k, hk, hkid, -, -, p, -, hp, hfor⟩ := hs.assigned c hc jobId hcjob
        obtain ⟨k', hk', hkid', -, -, p', -, hp', hfor'⟩ :=
          hs.assigned d hd jobId (hsame.trans (hjob.trans (congrArg some hii)))
        have hkk : k = k' := hs.jobKeys.eq_of_mem hk hk' (hkid.trans hkid'.symm)
        subst hkk
        apply hs.consumer_eq hc hd
        · rw [← hp, ← hp']
          exact congrArg Intent.rolloutId (hfor.symm.trans hfor')
        · exact congrArg Intent.bindingId (hfor.symm.trans hfor')
      subst hcd
      have hauthorized : s.authorized c = true := by
        unfold State.retryCurrent at hcurrent
        obtain ⟨b, hb, hcurrent⟩ := (Option.any_eq_true _ _).mp hcurrent
        obtain ⟨cur, -, hcurrent⟩ := (Option.any_eq_true _ _).mp hcurrent
        simp only [decide_eq_true_eq] at hcurrent
        exact authorized_iff.mpr ⟨b, hb, hcurrent.1, hcurrent.2.1⟩
      refine ⟨hopen, fun _ _ => ?_⟩
      rw [authorized_congr hkept.bindings hconsumer]
      exact hauthorized

/-! ## §4. Runs. -/

theorem Parallel.init (h : Init s) : Parallel s where
  bounded := by
    intro r hr
    rw [h.rollouts] at hr
    cases hr
  counted := by
    intro d hd
    rw [h.deployments] at hd
    cases hd

theorem Parallel.step {e : Event} (h : Parallel s) (hs : Snapshots s) (hok : PlaceFree s e)
    (hstep : next cfg s e = some t) : Parallel t := by
  have ht := hs.step hstep
  by_cases hplain : e.plain = true
  · by_cases hretry : ∃ jobId authority toApproval, e = .retryJob jobId authority toApproval
    · obtain ⟨jobId, authority, toApproval, rfl⟩ := hretry
      exact h.retry hs (next_kept hstep rfl) hok hstep
    · refine h.calm ht (next_calm hs hstep hplain ?_)
      intro jobId authority toApproval he
      exact hretry ⟨jobId, authority, toApproval, he⟩
  · cases e
    case putBinding => exact h.putBinding hs hok hstep
    case createSnapshot => exact h.snapshot hs hstep
    case handleEvent =>
      obtain ⟨d, -, -, -, hhandled⟩ := handleEvent_ok hstep
      obtain ⟨hkept, hjobs, hdeployments⟩ | ⟨r, fingerprintSha256, hlaunched⟩ := hhandled.rows
      · exact h.calm ht (.of_eq hkept hjobs hdeployments)
      · exact h.launched hs ht hlaunched
    all_goals exact absurd rfl hplain

/-- At most `max_parallel` jobs of a rollout are active in every state of every run whose
    retries find a free place. -/
theorem parallelism_bounded (cfg : Config) (s : State) (h : Reachable (system cfg) PlaceFree s) :
    Bounded s := by
  have hinv : Parallel s ∧ Snapshots s := by
    apply h.invariant (I := fun s => Parallel s ∧ Snapshots s)
    · intro s hs
      exact ⟨.init hs, .init hs⟩
    · intro s e t hs hok hstep
      exact ⟨hs.1.step hs.2 hok hstep, hs.2.step hstep⟩
  exact hinv.1.bounded

/-- The job of the first consumer fails. -/
def demoFailure : List Event :=
  [.createSnapshot 0 1 false true] ++ demoSweep 0 0 ++
    [.claimJob 0 7 true, .result 0 1 .failed none false]

/-- The consumer is retried while its place is free. -/
theorem parallelism_bounded_demo : ∃ t, (t.activeJobs 0).length = 1 ∧ Bounded t := by
  have hplay : ∃ t, playedWithin (next demoConfig) (fun s e => PlaceFree s e)
        (demoFailure ++ [.retryJob 0 true false]) (demoGroup (demoTerms false 0) (demoTerms true 0)) =
      some t ∧ (t.activeJobs 0).length = 1 := by
    refine ⟨_, rfl, ?_⟩
    decide +kernel
  obtain ⟨t, ht, hactive⟩ := hplay
  have hrun : Run (system demoConfig) PlaceFree (demoGroup (demoTerms false 0) (demoTerms true 0)) t :=
    .of_playedWithin (fun _ _ _ h => h) (fun _ _ h => of_decide_eq_true h) _ ht
  exact ⟨t, hactive, parallelism_bounded demoConfig t ⟨_, demoGroup_init _ _, hrun⟩⟩

/-- An optional consumer fails, its place goes to the next one, and its job is retried: two
    jobs of a rollout with `max_parallel` 1 are active. -/
theorem retry_exceeds : ∃ t, Reachable (system demoConfig) anyStep t ∧ (t.activeJobs 0).length = 2 ∧
    ¬Bounded t := by
  have hplay : ∃ t, played (next demoConfig) (demoFailure ++ demoSweep 1 2 ++ [.retryJob 0 true false])
        (demoGroup (demoTerms false 0) (demoTerms true 0)) = some t ∧
      (t.activeJobs 0).length = 2 ∧ t.rollouts.any (fun r => r.id = 0 ∧ r.maxParallel = 1) = true := by
    refine ⟨_, rfl, ?_⟩
    decide +kernel
  obtain ⟨t, ht, hactive, hlimit⟩ := hplay
  refine ⟨t, ⟨_, demoGroup_init _ _, .of_played (fun _ _ _ h => h) _ (fun _ _ _ => trivial) ht⟩,
    hactive, ?_⟩
  intro hbounded
  obtain ⟨r, hr, hrow⟩ := List.any_eq_true.mp hlimit
  simp only [decide_eq_true_eq] at hrow
  have hle := hbounded r hr
  rw [hrow.1, hrow.2, hactive] at hle
  omega

end TokenTimer.Distribution
