/-
  TokenTimer.Distribution.WaveOrder — the order in which a rollout reaches its consumers,
  and when it is complete (`advanceRollout`).

  A step is a transaction.  Those that decide on a rollout hold the lock of the group; the
  reaper and a result without a receipt do not, but `advanceRollout` reads what they write
  in one statement, so it comes before or after each of them.

  Main results:
    * `advance_in_wave_order` — jobs are made wave by wave and once, and a rollout is
        complete only with each of its consumers.
-/

import TokenTimer.Distribution.Snapshots

namespace TokenTimer.Distribution

open Lib.Runs Lib.Table TokenTimer.CertOps

variable {cfg : Config} {s t : State}

/-! ## §1. Which jobs a step makes. -/

variable {e : Event} {j : Job} {status : JobStatus} {r : Rollout} {fingerprintSha256 : String}

/-- The jobs of the loop are those of its consumers. -/
theorem mem_startJobs (h : j ∈ (s.startJobs r fingerprintSha256 status).jobs) :
    j ∈ s.jobs ∨ ∃ d ∈ s.toStart r, j.intent = d.intent r fingerprintSha256 := by
  unfold State.startJobs at h
  generalize s.toStart r = ds at h ⊢
  induction ds generalizing s with
  | nil => exact .inl h
  | cons d ds ih =>
    obtain hj | ⟨e, he, hintent⟩ := ih h
    · unfold State.startJob at hj
      obtain ⟨i, -, -, -, heq⟩ | ⟨-, heq⟩ :=
        createJob_cases s (d.intent r fingerprintSha256) d.terms.assignedAgentId status
      · simp only [heq] at hj
        exact .inl hj
      · simp only [heq] at hj
        obtain hj | hj := List.mem_append.mp hj
        · exact .inl hj
        · obtain rfl := List.mem_singleton.mp hj
          exact .inr ⟨d, List.mem_cons_self, rfl⟩
    · exact .inr ⟨e, List.mem_cons_of_mem _ he, hintent⟩

/-- The loop loses no job, and writes jobs and consumers only. -/
theorem startJobs_rest :
    s.jobs ⊆ (s.startJobs r fingerprintSha256 status).jobs ∧
      (s.startJobs r fingerprintSha256 status).rollouts = s.rollouts ∧
      (s.startJobs r fingerprintSha256 status).bindings = s.bindings ∧
      (s.startJobs r fingerprintSha256 status).generation = s.generation ∧
      (s.startJobs r fingerprintSha256 status).current = s.current ∧
      (s.startJobs r fingerprintSha256 status).acceptances = s.acceptances ∧
      (s.startJobs r fingerprintSha256 status).now = s.now ∧
      (s.startJobs r fingerprintSha256 status).outbox = s.outbox ∧
      (s.startJobs r fingerprintSha256 status).drains = s.drains := by
  unfold State.startJobs
  generalize s.toStart r = ds
  induction ds generalizing s with
  | nil => exact ⟨List.Subset.refl _, rfl, rfl, rfl, rfl, rfl, rfl, rfl, rfl⟩
  | cons d ds ih =>
    rw [List.foldl_cons]
    obtain ⟨hjobs, h₁, h₂, h₃, h₄, h₅, h₆, h₇, h₈⟩ := @ih (s.startJob r fingerprintSha256 status d)
    rw [h₁, h₂, h₃, h₄, h₅, h₆, h₇, h₈]
    refine ⟨List.Subset.trans ?_ hjobs, ?_⟩
    · unfold State.startJob State.createJob
      split
      · exact List.Subset.refl _
      · exact List.subset_append_left _ _
    · unfold State.startJob State.createJob
      split <;> exact ⟨rfl, rfl, rfl, rfl, rfl, rfl, rfl, rfl⟩

theorem next_jobs (h : next cfg s e = some t) (hj : j ∈ t.jobs) (hnew : ∀ i ∈ s.jobs, i.id ≠ j.id) :
    ∃ r, ∃ d ∈ s.toStart r, j.intent.rolloutId = r.id ∧ j.intent.bindingId = d.bindingId ∧
      ∀ c ∈ s.consumers r.id, c.terms.required = true → s.failed c = false := by
  cases next_changed h with
  | kept hkept =>
    obtain ⟨i, hi, hij⟩ := hkept.mem_jobs hj
    exact absurd (congrArg Prod.fst hij) (hnew i hi)
  | bound bindingId terms active hbound =>
    have hjobs : t.jobs = s.jobs := by
      obtain rfl | ⟨-, -, -, rfl⟩ | ⟨-, rfl⟩ := putBinding_ok hbound <;> rfl
    exact absurd rfl (hnew j (hjobs ▸ hj))
  | snapshot versionId maxParallel verificationOnly approved hsnapshot =>
    obtain ⟨-, rfl⟩ := createRolloutSnapshot_ok hsnapshot
    rw [enqueue_jobs] at hj
    exact absurd rfl (hnew j hj)
  | launched r fingerprintSha256 status hlaunched =>
    rw [hlaunched.jobs] at hj
    obtain hj | ⟨d, hd, hfor⟩ := mem_startJobs hj
    · exact absurd rfl (hnew j hj)
    · exact ⟨r, d, hd, by rw [hfor]; rfl, by rw [hfor]; rfl, hlaunched.fine⟩

theorem minWave_le {ds : List Deployment} {d : Deployment} (h : d ∈ ds) :
    minWave ds ≤ d.terms.wave := by
  have hmem : d.terms.wave ∈ ds.map (·.terms.wave) := List.mem_map_of_mem h
  unfold minWave
  cases hmin : (ds.map (·.terms.wave)).min? with
  | none => simp [List.min?_eq_none_iff.mp hmin] at hmem
  | some w => exact (List.min?_eq_some_iff.mp hmin).2 _ hmem

theorem earlier_wave {c d : Deployment} (hd : d ∈ s.toStart r) (hc : c ∈ s.consumers r.id)
    (hwave : c.terms.wave < d.terms.wave) :
    c.done = true ∨ s.failed c = true := by
  obtain ⟨-, hmin, -⟩ := mem_toStart hd
  by_contra hopen
  simp only [not_or, Bool.not_eq_true] at hopen
  have hle := minWave_le (mem_outstanding.mpr ⟨hc, hopen.1, hopen.2⟩)
  omega

/-! ## §2. Which rollouts a step completes. -/

theorem startJobs_rollouts :
    (s.startJobs r fingerprintSha256 status).rollouts = s.rollouts :=
  startJobs_rest.2.1

/-- `advanceRollout` found no consumer outstanding. -/
structure Finished (s t : State) (r : Rollout) : Prop where
  deployments : t.deployments = s.deployments
  bindings : t.bindings = s.bindings
  outstanding : s.outstanding r.id = []
  state : r.state = s.finalState r.id

def RolloutState.incomplete (state : RolloutState) : Prop := state ≠ .verified ∧ state ≠ .installed

theorem mem_setRollout {id : Nat} {state : RolloutState} (h : r ∈ (s.setRollout id state).rollouts) :
    r ∈ s.rollouts ∧ r.id ≠ id ∨ r.id = id ∧ r.state = state := by
  obtain ⟨q, hq, rfl⟩ := mem_updateWhere.mp h
  by_cases hid : q.id = id
  · rw [if_pos (by simpa using hid)]
    exact .inr ⟨hid, rfl⟩
  · rw [if_neg (by simpa using hid)]
    exact .inl ⟨hq, hid⟩

/-- A rollout a step writes is not complete, or `advanceRollout` completed it. -/
theorem Advanced.rollouts {rolloutId : Nat} {outcome : Outcome}
    (h : Advanced s status rolloutId t outcome) (hr : r ∈ t.rollouts) :
    r ∈ s.rollouts ∨ r.state.incomplete ∨ Finished s t r := by
  cases h with
  | inactive => exact .inl hr
  | stopped state hstate =>
    refine (mem_setRollout hr).imp And.left fun h => .inl ?_
    obtain rfl | rfl := hstate <;> simp [RolloutState.incomplete, h.2]
  | finished hfine hnone =>
    refine (mem_setRollout hr).imp And.left fun h => .inr ?_
    exact ⟨rfl, rfl, by rw [h.1]; exact hnone, by rw [h.1]; exact h.2⟩
  | started q fingerprintSha256 =>
    obtain ⟨hr, -⟩ | ⟨-, hstate⟩ := mem_setRollout hr
    · rw [startJobs_rollouts] at hr
      exact .inl hr
    · exact .inr (.inl (by simp [RolloutState.incomplete, hstate]))

theorem acceptDeploymentReceipt_rollouts {fenceBusy : Bool} {receipt : Receipt} {jobStatus : JobStatus}
    (h : acceptDeploymentReceipt cfg fenceBusy j receipt jobStatus s = some t) :
    t.rollouts = s.rollouts := by
  obtain ⟨row, -, -, rfl | ⟨-, rfl⟩⟩ := acceptDeploymentReceipt_ok h <;> simp only [enqueue_rollouts] <;> rfl

theorem Settled.rollouts {jobStatus : JobStatus} (h : Settled cfg s j jobStatus t) :
    t.rollouts = s.rollouts := by
  cases h with
  | receipt receipt fenceBusy haccept => exact acceptDeploymentReceipt_rollouts haccept
  | failed =>
    rw [enqueue_rollouts]
    rfl

theorem next_rollouts (h : next cfg s e = some t) (hr : r ∈ t.rollouts) :
    r ∈ s.rollouts ∨ r.state.incomplete ∨ Finished s t r := by
  cases e <;> dsimp only [next] at h
  case wait => cases h; exact .inl hr
  case setPaused => cases h; exact .inl hr
  case endGroup => cases h; exact .inl hr
  case publish =>
    split at h
    · cases h; exact .inl hr
    · cases h
  case retireVersion => cases h; exact .inl hr
  case putBinding =>
    obtain rfl | ⟨-, -, -, rfl⟩ | ⟨-, rfl⟩ := putBinding_ok h <;> exact .inl hr
  case createSnapshot =>
    obtain ⟨-, rfl⟩ := createRolloutSnapshot_ok h
    rw [enqueue_rollouts] at hr
    obtain hr | hr := List.mem_append.mp hr
    · exact .inl hr
    · obtain rfl := List.mem_singleton.mp hr
      exact .inr (.inl (by simp [RolloutState.incomplete]))
  case setRolloutState =>
    obtain ⟨hstate, rfl⟩ | ⟨-, rfl⟩ := setRolloutState_ok h
    · refine (mem_setRollout hr).imp And.left fun h => .inl ?_
      obtain rfl | rfl := hstate <;> simp [RolloutState.incomplete, h.2]
    · rw [enqueue_rollouts] at hr
      refine (mem_setRollout hr).imp And.left fun h => .inl ?_
      simp [RolloutState.incomplete, h.2]
  case claimJob =>
    obtain ⟨j, -, -, -, -, rfl⟩ := claimJob_ok h
    exact .inl hr
  case renewLease =>
    obtain ⟨j, -, -, -, rfl⟩ := renewLease_ok h
    exact .inl hr
  case result =>
    obtain ⟨j, u, -, -, -, hsettled, rfl⟩ := ingestResult_ok h
    exact .inl (hsettled.rollouts ▸ hr)
  case reap =>
    obtain ⟨j, -, -, rfl⟩ := reap_ok h
    exact .inl hr
  case moveJob =>
    obtain ⟨j, -, -, -, rfl⟩ := moveJob_ok h
    exact .inl hr
  case retryJob =>
    obtain ⟨j, d, q, -, -, -, -, -, -, -, rfl⟩ := retryDistributionJob_ok h
    by_cases hdegraded : q.state = .degraded
    · rw [if_pos hdegraded] at hr
      refine (mem_setRollout hr).imp And.left fun h => .inl ?_
      simp [RolloutState.incomplete, h.2]
    · rw [if_neg hdegraded] at hr
      exact .inl hr
  case claimEvent =>
    obtain ⟨row, -, -, rfl⟩ := claimEvent_ok h
    exact .inl hr
  case handleEvent =>
    obtain ⟨d, -, -, -, hhandled⟩ := handleEvent_ok h
    cases hhandled with
    | claimLost => exact .inl hr
    | thrown => exact .inl hr
    | advanced hheld hadvanced =>
      obtain hr | hr | hfinished := hadvanced.rollouts hr
      · exact .inl hr
      · exact .inr (.inl hr)
      · exact .inr (.inr { hfinished with })
  case finishEvent =>
    obtain ⟨d, -, outcome, -, -, rfl⟩ := finishEvent_ok h
    exact .inl hr
  case dropEvent => cases h; exact .inl hr
  case resetEvent => cases h; exact .inl hr

theorem finalState_complete {rolloutId : Nat} (h : ¬(s.finalState rolloutId).incomplete) :
    ∀ d ∈ s.consumers rolloutId, d.done = true ∧ s.failed d = false := by
  by_contra hnot
  apply h
  unfold State.finalState
  dsimp only
  rw [if_pos]
  · simp [RolloutState.incomplete]
  · simp only [Bool.or_eq_true, Bool.not_eq_true', List.all_eq_false]
    simp only [not_forall, exists_prop] at hnot
    obtain ⟨d, hd, hopen⟩ := hnot
    refine .inr ⟨d, hd, ?_⟩
    simpa using hopen

/-! ## §3. The order. -/

/-- A job is made only for a consumer whose earlier waves are done, or failed where they
    are optional, and while no required consumer is failed. -/
def InWaveOrder (s t : State) : Prop :=
  ∀ j ∈ t.jobs, (∀ i ∈ s.jobs, i.id ≠ j.id) →
    ∃ d ∈ s.deployments, d.rolloutId = j.intent.rolloutId ∧ d.bindingId = j.intent.bindingId ∧
      ∀ c ∈ s.deployments, c.rolloutId = d.rolloutId →
        (c.terms.wave < d.terms.wave →
          c.done = true ∨ c.terms.required = false ∧ s.failed c = true) ∧
        (c.terms.required = true → s.failed c = false)

/-- A rollout is set to `verified` or `installed` only where each of its consumers is done
    under the binding it was frozen from. -/
def CompleteWithAll (s t : State) : Prop :=
  ∀ r ∈ t.rollouts, r ∉ s.rollouts → (r.state = .verified ∨ r.state = .installed) →
    ∀ d ∈ t.deployments, d.rolloutId = r.id →
      d.done = true ∧ ∃ b ∈ t.bindings, b.id = d.bindingId ∧ b.active = true ∧
        b.authorizationRevision = d.authorizationRevision ∧ b.terms = d.terms

/-- A rollout has at most one job for each binding. -/
def OneJobEach (s : State) : Prop :=
  ∀ i ∈ s.jobs, ∀ j ∈ s.jobs, i.intent.rolloutId = j.intent.rolloutId →
    i.intent.bindingId = j.intent.bindingId → i = j

theorem Snapshots.inWaveOrder (h : Snapshots s) (hstep : next cfg s e = some t) :
    InWaveOrder s t := by
  intro j hj hnew
  obtain ⟨r, d, hd, hrollout, hbinding, hfine⟩ := next_jobs hstep hj hnew
  obtain ⟨hmem, hid, -⟩ := mem_consumers.mp (mem_outstanding.mp (mem_toStart hd).1).1
  refine ⟨d, hmem, hid.trans hrollout.symm, hbinding.symm, ?_⟩
  intro c hc hsame
  have hrow : c ∈ s.consumers r.id := hid ▸ hsame ▸ h.consumer_mem hc
  refine ⟨?_, hfine c hrow⟩
  intro hwave
  obtain hdone | hfailed := earlier_wave hd hrow hwave
  · exact .inl hdone
  · refine .inr ⟨?_, hfailed⟩
    by_contra hrequired
    have := hfine c hrow (by simpa using hrequired)
    rw [hfailed] at this
    cases this

theorem Snapshots.completeWithAll (h : Snapshots s) (hstep : next cfg s e = some t) :
    CompleteWithAll s t := by
  intro r hr hset hstate d hd hid
  obtain hold | hincomplete | hfinished := next_rollouts hstep hr
  · exact absurd hold hset
  · obtain hstate | hstate := hstate
    · exact absurd hstate hincomplete.1
    · exact absurd hstate hincomplete.2
  · have hwhole : ¬(s.finalState r.id).incomplete := by
      rw [← hfinished.state]
      rintro ⟨hverified, hinstalled⟩
      exact hstate.elim hverified hinstalled
    have hmem : d ∈ s.deployments := hfinished.deployments ▸ hd
    obtain ⟨hdone, hfine⟩ := finalState_complete hwhole d (hid ▸ h.consumer_mem hmem)
    obtain ⟨b, hb, hactive, hrevision⟩ := authorized_iff.mp (failed_eq_false.mp hfine).2
    obtain ⟨hbmem, hbid⟩ := binding_some hb
    obtain ⟨b', hb', hbid', -, hterms⟩ := (h.placed d hmem).binding
    have hsame : b' = b := h.bindingKeys.eq_of_mem hb' hbmem (hbid'.trans hbid.symm)
    subst hsame
    exact ⟨hdone, b', hfinished.bindings ▸ hb', hbid, hactive, hrevision, (hterms hrevision.symm).symm⟩

/-- In every run of a group, each step makes jobs in wave order and completes rollouts with
    all of their consumers, and no state has two jobs for one consumer. -/
theorem advance_in_wave_order (cfg : Config) (s : State) (h : Reachable (system cfg) anyStep s) :
    OneJobEach s ∧
      ∀ e t, (system cfg).step s e t → InWaveOrder s t ∧ CompleteWithAll s t := by
  have hshape := snapshots_of_reachable h
  refine ⟨fun i hi j hj => hshape.job_unique hi hj, ?_⟩
  intro e t hstep
  exact ⟨hshape.inWaveOrder hstep, hshape.completeWithAll hstep⟩

/-- A consumer that serves what it installs. -/
def demoTerms (required : Bool) (wave : Nat) : Terms :=
  { assignedAgentId := 7, deploymentProfileRef := "web", profileRevision := 1, required, wave
    verificationPolicy := .served, freshnessSeconds := 3600 }

/-- A version is published, and two consumers wait for it. -/
def demoGroup (first second : Terms) : State :=
  { now := 0
    versions :=
      [{ id := 0, published := true, fingerprintSha256 := "f0", validTo := 10000000
         identityActive := true }]
    bindings := [{ id := 0, terms := first }, { id := 1, terms := second }] }

def demoConfig : Config := { win32 := fun _ => false, jobLeaseMs := 600000 }

theorem demoGroup_init (first second : Terms) : Init (demoGroup first second) :=
  ⟨rfl, rfl, rfl, rfl, rfl, rfl, rfl, by simp [demoGroup], by simp [demoGroup]⟩

/-- An agent served the version on a binding. -/
def demoReceipt (bindingId observedAt : Nat) : Receipt :=
  { bindingId, materialVersionId := 0, generation := 1, fingerprintSha256 := "f0", validTo := 10000000
    fetched := true, installed := true, bound := true, servedVerified := true, trustValidated := false
    observedAt }

/-- A worker takes an event and has it handled. -/
def demoSweep (rowId claimId : Nat) : List Event :=
  [.claimEvent rowId, .handleEvent claimId false true false, .finishEvent claimId]

def demoFirstWave : List Event :=
  [.createSnapshot 0 1 false true] ++ demoSweep 0 0 ++
    [.claimJob 0 7 true, .result 0 1 .succeeded (some (demoReceipt 0 0)) false, .claimEvent 1]

/-- The second wave gets its job once the first is done. -/
theorem advance_in_wave_order_demo : ∃ s t,
    (system demoConfig).step s (.handleEvent 2 false true false) t ∧ s.jobs.length = 1 ∧
      t.jobs.length = 2 ∧ InWaveOrder s t := by
  have hplay : ∃ s t, played (next demoConfig) demoFirstWave
        (demoGroup (demoTerms true 0) (demoTerms true 1)) = some s ∧
      next demoConfig s (.handleEvent 2 false true false) = some t ∧ s.jobs.length = 1 ∧
      t.jobs.length = 2 := by
    refine ⟨_, _, rfl, rfl, ?_⟩
    decide +kernel
  obtain ⟨s, t, hs, ht, hbefore, hafter⟩ := hplay
  have hreach : Reachable (system demoConfig) anyStep s :=
    ⟨_, demoGroup_init _ _, .of_played (fun _ _ _ h => h) _ (fun _ _ _ => trivial) hs⟩
  exact ⟨s, t, ht, hbefore, hafter,
    ((advance_in_wave_order demoConfig s hreach).2 (.handleEvent 2 false true false) t ht).1⟩

end TokenTimer.Distribution
