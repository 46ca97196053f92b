/-
  TokenTimer.Distribution.Snapshots — the shape of the rows of a group in every reachable
  state: whom a rollout froze, under which revision of its binding, and which job belongs
  to which consumer.

  Main results:
    * `Snapshots.step` — one step keeps the shape.
    * `snapshots_of_reachable` — every reachable state has it.
-/

import TokenTimer.Distribution.Frame

namespace TokenTimer.Distribution

open Lib.Runs Lib.Table TokenTimer.CertOps

variable {cfg : Config} {s t u : State}

/-! ## §1. The invariant. -/

/-- The columns of a consumer that the snapshot froze. -/
def Deployment.consumer (d : Deployment) : Deployment := { d with stage := .pending, jobId := none }

/-- The revision a consumer was frozen under: where the binding still has it, the binding
    is unchanged. -/
def FrozenFrom (d : Deployment) (b : Binding) : Prop :=
  b.id = d.bindingId ∧ d.authorizationRevision ≤ b.authorizationRevision ∧
    (d.authorizationRevision = b.authorizationRevision → d.terms = b.terms)

/-- A consumer belongs to a rollout and to a binding. -/
structure Deployment.Placed (s : State) (d : Deployment) : Prop where
  rollout : ∃ r ∈ s.rollouts, r.id = d.rolloutId
  binding : ∃ b ∈ s.bindings, FrozenFrom d b

/-- The job of a consumer: made for it, and held by it. -/
def Owns (s : State) (d : Deployment) (j : Job) : Prop :=
  d.jobId = some j.id ∧ j.assignedAgentId = d.terms.assignedAgentId ∧
    ∃ r ∈ s.rollouts, r.id = d.rolloutId ∧ j.intent = d.intent r j.intent.fingerprintSha256

/-- The shape of the rows. -/
structure Snapshots (s : State) : Prop where
  bindingKeys : KeyNodup Binding.id s.bindings
  rolloutKeys : KeyNodup Rollout.id s.rollouts
  generations : KeyNodup Rollout.generation s.rollouts
  rolloutIds : ∀ r ∈ s.rollouts, r.id < s.nextRolloutId ∧ 1 ≤ r.generation ∧ r.generation ≤ s.generation
  consumerKeys : KeyNodup (fun d => (d.rolloutId, d.bindingId)) s.deployments
  placed : ∀ d ∈ s.deployments, d.Placed s
  jobKeys : KeyNodup Job.id s.jobs
  jobIds : ∀ j ∈ s.jobs, j.id < s.nextJobId
  owned : ∀ j ∈ s.jobs, ∃ d ∈ s.deployments, Owns s d j
  assigned : ∀ d ∈ s.deployments, ∀ id, d.jobId = some id → ∃ j ∈ s.jobs, j.id = id ∧ Owns s d j

theorem Snapshots.init (h : Init s) : Snapshots s where
  bindingKeys := h.bindings
  rolloutKeys := by simp [KeyNodup, h.rollouts]
  generations := by simp [KeyNodup, h.rollouts]
  rolloutIds := by simp [h.rollouts]
  consumerKeys := by simp [KeyNodup, h.deployments]
  placed := by simp [h.deployments]
  jobKeys := by simp [KeyNodup, h.jobs]
  jobIds := by simp [h.jobs]
  owned := by simp [h.jobs]
  assigned := by simp [h.deployments]

theorem Snapshots.rollout_eq (h : Snapshots s) {r : Rollout} (hr : r ∈ s.rollouts) :
    s.rollout r.id = some r :=
  h.rolloutKeys.selectOne_eq hr

theorem Snapshots.binding_eq (h : Snapshots s) {b : Binding} (hb : b ∈ s.bindings) :
    s.binding b.id = some b :=
  h.bindingKeys.selectOne_eq hb

variable {d e : Deployment} {j : Job} {ds : List Deployment}

theorem Snapshots.job_eq (h : Snapshots s) (hj : j ∈ s.jobs) : s.job j.id = some j :=
  h.jobKeys.selectOne_eq hj

theorem Snapshots.consumer_eq (h : Snapshots s) (hd : d ∈ s.deployments) (he : e ∈ s.deployments)
    (hrollout : d.rolloutId = e.rolloutId) (hbinding : d.bindingId = e.bindingId) :
    d = e :=
  h.consumerKeys.eq_of_mem hd he (Prod.ext hrollout hbinding)

/-- Every consumer is among the rows `advanceRollout` reads. -/
theorem Snapshots.consumer_mem (h : Snapshots s) (hd : d ∈ s.deployments) :
    d ∈ s.consumers d.rolloutId := by
  obtain ⟨b, hb, hid, -, -⟩ := (h.placed d hd).binding
  have hfound : s.binding d.bindingId = some b := hid ▸ h.binding_eq hb
  exact mem_consumers.mpr ⟨hd, rfl, by simp [hfound]⟩

theorem Snapshots.job_unique (h : Snapshots s) {i : Job} (hi : i ∈ s.jobs) (hj : j ∈ s.jobs)
    (hrollout : i.intent.rolloutId = j.intent.rolloutId)
    (hbinding : i.intent.bindingId = j.intent.bindingId) : i = j := by
  obtain ⟨d, hd, hdi, -, r, -, hr, hintent⟩ := h.owned i hi
  obtain ⟨e, he, hej, -, q, -, hq, hintent'⟩ := h.owned j hj
  have hsame : d = e := by
    apply h.consumer_eq hd he
    · rw [← hr, ← hq]
      rw [hintent, hintent'] at hrollout
      exact hrollout
    · rw [hintent, hintent'] at hbinding
      exact hbinding
  subst hsame
  have hid : i.id = j.id := by
    rw [hdi] at hej
    exact Option.some.inj hej
  exact h.jobKeys.eq_of_mem hi hj hid

/-! ## §2. The columns that stay. -/

theorem intent_of_frozen {r q : Rollout} (hd : d.consumer = e.consumer) (hr : r.frozen = q.frozen)
    (fingerprintSha256 : String) :
    d.intent r fingerprintSha256 = e.intent q fingerprintSha256 := by
  simp only [Deployment.consumer, Rollout.frozen, Deployment.mk.injEq, Rollout.mk.injEq] at hd hr
  simp [Deployment.intent, hd, hr]

theorem consumer_of_frozen (h : d.frozen = e.frozen) :
    d.consumer = e.consumer ∧ d.jobId = e.jobId := by
  simp only [Deployment.frozen, Deployment.mk.injEq] at h
  simp [Deployment.consumer, h]

theorem rolloutId_of_consumer (h : d.consumer = e.consumer) :
    d.rolloutId = e.rolloutId ∧ d.bindingId = e.bindingId ∧ d.terms = e.terms ∧
      d.authorizationRevision = e.authorizationRevision := by
  simpa [Deployment.consumer] using h

theorem id_of_frozen {r q : Rollout} (h : r.frozen = q.frozen) :
    r.id = q.id ∧ r.generation = q.generation ∧ r.materialVersionId = q.materialVersionId ∧
      r.maxParallel = q.maxParallel ∧ r.verificationOnly = q.verificationOnly := by
  simp only [Rollout.frozen, Rollout.mk.injEq] at h
  simp [h]

theorem FrozenFrom.congr {b : Binding} (h : FrozenFrom d b) (hd : d.consumer = e.consumer) :
    FrozenFrom e b := by
  obtain ⟨-, hbinding, hterms, hrevision⟩ := rolloutId_of_consumer hd
  unfold FrozenFrom at h ⊢
  rwa [← hbinding, ← hterms, ← hrevision]

/-- Ownership looks at the frozen columns only. -/
theorem Owns.congr {i : Job} (h : Owns s d i)
    (hrollouts : t.rollouts.map Rollout.frozen = s.rollouts.map Rollout.frozen)
    (hd : d.consumer = e.consumer) (hjob : e.jobId = d.jobId) (hi : i.core = j.core) : Owns t e j := by
  obtain ⟨hid, hagent, r, hr, hrollout, hintent⟩ := h
  simp only [Job.core, Prod.mk.injEq] at hi
  obtain ⟨hi, hiintent, hiagent⟩ := hi
  obtain ⟨hsame, -, hterms, -⟩ := rolloutId_of_consumer hd
  refine ⟨?_, ?_, ?_⟩
  · rw [hjob, hid, hi]
  · rw [← hiagent, hagent, hterms]
  · have hmem : r.frozen ∈ t.rollouts.map Rollout.frozen := hrollouts ▸ List.mem_map_of_mem hr
    obtain ⟨q, hq, hqr⟩ := List.mem_map.mp hmem
    refine ⟨q, hq, ?_, ?_⟩
    · rw [(id_of_frozen hqr).1, hrollout, hsame]
    · rw [← hiintent, hintent]
      exact intent_of_frozen hd hqr.symm _

/-- What keeps the frozen columns keeps the shape. -/
theorem Snapshots.of_kept (h : Snapshots s) (hkept : Kept s t) : Snapshots t where
  bindingKeys := hkept.bindings ▸ h.bindingKeys
  rolloutKeys := h.rolloutKeys.of_map_eq hkept.rollouts (g := Rollout.id) fun _ => rfl
  generations := h.generations.of_map_eq hkept.rollouts (g := Rollout.generation) fun _ => rfl
  rolloutIds := by
    intro r hr
    obtain ⟨q, hq, hqr⟩ := hkept.mem_rollouts hr
    obtain ⟨hid, hgeneration, -⟩ := id_of_frozen hqr
    rw [hkept.nextRolloutId, hkept.generation, ← hid, ← hgeneration]
    exact h.rolloutIds q hq
  consumerKeys :=
    h.consumerKeys.of_map_eq hkept.deployments (g := fun d => (d.rolloutId, d.bindingId)) fun _ => rfl
  placed := by
    intro d hd
    obtain ⟨e, he, hed⟩ := hkept.mem_deployments hd
    obtain ⟨hconsumer, -⟩ := consumer_of_frozen hed
    obtain ⟨⟨r, hr, hid⟩, b, hb, hfrozen⟩ := h.placed e he
    refine ⟨?_, b, hkept.bindings ▸ hb, hfrozen.congr hconsumer⟩
    have hmem : r.frozen ∈ t.rollouts.map Rollout.frozen := hkept.rollouts ▸ List.mem_map_of_mem hr
    obtain ⟨q, hq, hqr⟩ := List.mem_map.mp hmem
    refine ⟨q, hq, ?_⟩
    rw [(id_of_frozen hqr).1, hid, (rolloutId_of_consumer hconsumer).1]
  jobKeys := h.jobKeys.of_map_eq hkept.jobs (g := Prod.fst) fun _ => rfl
  jobIds := by
    intro j hj
    obtain ⟨i, hi, hij⟩ := hkept.mem_jobs hj
    have hid : i.id = j.id := congrArg Prod.fst hij
    rw [hkept.nextJobId, ← hid]
    exact h.jobIds i hi
  owned := by
    intro j hj
    obtain ⟨i, hi, hij⟩ := hkept.mem_jobs hj
    obtain ⟨e, he, howns⟩ := h.owned i hi
    have hmem : e.frozen ∈ t.deployments.map Deployment.frozen :=
      hkept.deployments ▸ List.mem_map_of_mem he
    obtain ⟨d, hd, hde⟩ := List.mem_map.mp hmem
    obtain ⟨hconsumer, hjob⟩ := consumer_of_frozen hde
    exact ⟨d, hd, howns.congr hkept.rollouts hconsumer.symm hjob hij⟩
  assigned := by
    intro d hd id hid
    obtain ⟨e, he, hed⟩ := hkept.mem_deployments hd
    obtain ⟨hconsumer, hjob⟩ := consumer_of_frozen hed
    obtain ⟨i, hi, hii, howns⟩ := h.assigned e he id (hjob ▸ hid)
    have hmem : i.core ∈ t.jobs.map Job.core := hkept.jobs ▸ List.mem_map_of_mem hi
    obtain ⟨j, hj, hji⟩ := List.mem_map.mp hmem
    refine ⟨j, hj, ?_, howns.congr hkept.rollouts hconsumer hjob.symm hji.symm⟩
    rw [← hii]
    exact congrArg Prod.fst hji

/-! ## §3. The operations that write the shape. -/

/-- A binding that moves takes a new revision, so no consumer is frozen under it yet. -/
theorem Snapshots.putBinding (h : Snapshots s) {bindingId : Nat} {terms : Terms} {active : Bool}
    (hput : putBinding cfg bindingId terms active s = some t) : Snapshots t := by
  obtain rfl | ⟨old, hold, -, rfl⟩ | ⟨hnone, rfl⟩ := putBinding_ok hput
  · exact h
  · refine { h with bindingKeys := keyNodup_updateWhere (fun _ => rfl) h.bindingKeys, placed := ?_ }
    intro d hd
    obtain ⟨hrollout, b, hb, hid, hle, hterms⟩ := h.placed d hd
    refine ⟨hrollout, _, mem_updateWhere.mpr ⟨b, hb, rfl⟩, ?_⟩
    by_cases hmoved : b.id = bindingId
    · rw [if_pos (by simpa using hmoved)]
      refine ⟨hid, Nat.le_succ_of_le hle, ?_⟩
      intro hsame
      change d.authorizationRevision = b.authorizationRevision + 1 at hsame
      omega
    · rw [if_neg (by simpa using hmoved)]
      exact ⟨hid, hle, hterms⟩
  · refine { h with bindingKeys := ?_, placed := ?_ }
    · apply keyNodup_append_singleton h.bindingKeys
      intro b hb
      simpa using selectOne_none.mp hnone b hb
    · intro d hd
      obtain ⟨hrollout, b, hb, hfrozen⟩ := h.placed d hd
      exact ⟨hrollout, b, List.mem_append_left _ hb, hfrozen⟩

theorem Owns.mono (h : Owns s d j) (hsub : s.rollouts ⊆ t.rollouts) :
    Owns t d j := by
  obtain ⟨hid, hagent, r, hr, hrollout, hintent⟩ := h
  exact ⟨hid, hagent, r, hsub hr, hrollout, hintent⟩

theorem Deployment.Placed.mono (h : d.Placed s) (hsub : s.rollouts ⊆ t.rollouts)
    (hbindings : t.bindings = s.bindings) : d.Placed t := by
  obtain ⟨⟨r, hr, hid⟩, b, hb, hfrozen⟩ := h
  exact ⟨⟨r, hsub hr, hid⟩, b, hbindings ▸ hb, hfrozen⟩

/-- A snapshot freezes each active binding once, under a rollout of its own. -/
theorem Snapshots.withSnapshot (h : Snapshots s) (versionId maxParallel : Nat)
    (verificationOnly : Bool) : Snapshots (s.withSnapshot versionId maxParallel verificationOnly) := by
  have hsub : s.rollouts ⊆ (s.withSnapshot versionId maxParallel verificationOnly).rollouts :=
    List.subset_append_left _ _
  refine
    { bindingKeys := h.bindingKeys, rolloutKeys := ?_, generations := ?_, rolloutIds := ?_
      consumerKeys := ?_, placed := ?_, jobKeys := h.jobKeys, jobIds := h.jobIds, owned := ?_
      assigned := ?_ }
  · apply keyNodup_append_singleton h.rolloutKeys
    intro r hr
    have := (h.rolloutIds r hr).1
    show r.id ≠ s.nextRolloutId
    omega
  · apply keyNodup_append_singleton h.generations
    intro r hr
    have := (h.rolloutIds r hr).2.2
    show r.generation ≠ s.generation + 1
    omega
  · intro r hr
    show r.id < s.nextRolloutId + 1 ∧ 1 ≤ r.generation ∧ r.generation ≤ s.generation + 1
    obtain hr | hr := List.mem_append.mp hr
    · have := h.rolloutIds r hr
      omega
    · obtain rfl := List.mem_singleton.mp hr
      simp
  · show KeyNodup _ (s.deployments ++ s.activeBindings.map (Binding.snapshot s.nextRolloutId))
    unfold KeyNodup
    rw [List.map_append, List.map_map]
    apply List.Nodup.append h.consumerKeys
    · have hactive : KeyNodup Binding.id s.activeBindings :=
        h.bindingKeys.sublist (List.filter_sublist.map _)
      apply List.Nodup.map_on _ (List.Nodup.of_map _ hactive)
      intro b hb c hc hkey
      exact hactive.eq_of_mem hb hc (congrArg Prod.snd hkey)
    · intro key hold hnew
      obtain ⟨d, hd, rfl⟩ := List.mem_map.mp hold
      obtain ⟨b, -, hkey⟩ := List.mem_map.mp hnew
      obtain ⟨⟨r, hr, hid⟩, -⟩ := h.placed d hd
      have hlt := (h.rolloutIds r hr).1
      have heq : s.nextRolloutId = d.rolloutId := congrArg Prod.fst hkey
      omega
  · intro d hd
    obtain hd | hd := List.mem_append.mp hd
    · exact (h.placed d hd).mono hsub rfl
    · obtain ⟨b, hb, rfl⟩ := List.mem_map.mp hd
      have hmem : b ∈ s.bindings := (List.mem_filter.mp hb).1
      exact ⟨⟨_, List.mem_append_right _ (List.mem_singleton.mpr rfl), rfl⟩, b, hmem, rfl, le_rfl,
        fun _ => rfl⟩
  · intro j hj
    obtain ⟨d, hd, howns⟩ := h.owned j hj
    exact ⟨d, List.mem_append_left _ hd, howns.mono hsub⟩
  · intro d hd id hid
    obtain hd | hd := List.mem_append.mp hd
    · obtain ⟨j, hj, hji, howns⟩ := h.assigned d hd id hid
      exact ⟨j, hj, hji, howns.mono hsub⟩
    · obtain ⟨b, -, rfl⟩ := List.mem_map.mp hd
      cases hid

theorem createJob_cases (s : State) (intent : Intent) (agentId : Nat) (status : JobStatus) :
    (∃ j ∈ s.jobs, j.intent.rolloutId = intent.rolloutId ∧ j.intent.bindingId = intent.bindingId ∧
        s.createJob intent agentId status = (s, j.id)) ∨
      ((∀ j ∈ s.jobs, ¬(j.intent.rolloutId = intent.rolloutId ∧ j.intent.bindingId = intent.bindingId)) ∧
        s.createJob intent agentId status =
          ({ s with
              jobs := s.jobs ++ [{ id := s.nextJobId, intent, assignedAgentId := agentId, status }]
              nextJobId := s.nextJobId + 1 }, s.nextJobId)) := by
  unfold State.createJob
  split
  · rename_i j hj
    obtain ⟨hmem, hkey⟩ := selectOne_some hj
    simp only [decide_eq_true_eq] at hkey
    exact .inl ⟨j, hmem, hkey.1, hkey.2, rfl⟩
  · rename_i hnone
    refine .inr ⟨?_, rfl⟩
    intro j hj
    simpa using selectOne_none.mp hnone j hj

def Deployment.newJob (r : Rollout) (fingerprintSha256 : String) (status : JobStatus) (id : Nat)
    (d : Deployment) : Job :=
  { id, intent := d.intent r fingerprintSha256, assignedAgentId := d.terms.assignedAgentId, status }

def State.withJob (s : State) (r : Rollout) (fingerprintSha256 : String) (status : JobStatus)
    (d : Deployment) : State :=
  { s with
    jobs := s.jobs ++ [d.newJob r fingerprintSha256 status s.nextJobId]
    nextJobId := s.nextJobId + 1
    deployments :=
      updateWhere (fun e => e.rolloutId = r.id ∧ e.bindingId = d.bindingId ∧ e.jobId = none)
        (fun e => { e with jobId := some s.nextJobId }) s.deployments }

variable {r : Rollout} {fingerprintSha256 : String} {status : JobStatus}

/-- A turn of the loop leaves a consumer that has a job alone, and makes one for a consumer
    that has none. -/
theorem startJob_cases (h : Snapshots s) (he : e ∈ s.deployments) (hconsumer : e.consumer = d.consumer)
    (hrollout : d.rolloutId = r.id) :
    s.startJob r fingerprintSha256 status d = s ∧ e.jobId ≠ none ∨
      e.jobId = none ∧
        s.startJob r fingerprintSha256 status d = s.withJob r fingerprintSha256 status d := by
  obtain ⟨hsame, hbinding, -⟩ := rolloutId_of_consumer hconsumer
  unfold State.startJob
  obtain ⟨j, hj, hjr, hjb, heq⟩ | ⟨hnone, heq⟩ :=
    createJob_cases s (d.intent r fingerprintSha256) d.terms.assignedAgentId status
  · left
    simp only [heq]
    -- the consumer of that job is this one, so its `job_id` is set
    obtain ⟨f, hf, hfj, -, q, -, hq, hintent⟩ := h.owned j hj
    have hfe : f = e := by
      apply h.consumer_eq hf he
      · rw [hsame, hrollout, ← hq]
        have : q.id = j.intent.rolloutId := by rw [hintent]; rfl
        rw [this, hjr]
        rfl
      · rw [hbinding]
        have : f.bindingId = j.intent.bindingId := by rw [hintent]; rfl
        rw [this, hjb]
        rfl
    subst hfe
    have hset : f.jobId ≠ none := by simp [hfj]
    refine ⟨?_, hset⟩
    rw [updateWhere_of_forall_not]
    intro x hx
    rw [decide_eq_false_iff_not]
    rintro ⟨hxr, hxb, hxj⟩
    have hxf : x = f :=
      h.consumer_eq hx he (by rw [hxr, hsame, hrollout]) (by rw [hxb, hbinding])
    exact hset (hxf ▸ hxj)
  · right
    refine ⟨?_, by simp only [heq]; rfl⟩
    cases hjob : e.jobId with
    | none => rfl
    | some id =>
      obtain ⟨j, hj, -, -, -, q, -, hq, hintent⟩ := h.assigned e he id hjob
      refine absurd ⟨?_, ?_⟩ (hnone j hj)
      · rw [hintent]
        show q.id = r.id
        rw [hq, hsame, hrollout]
      · rw [hintent]
        exact hbinding

theorem Snapshots.withJob (h : Snapshots s) (hr : r ∈ s.rollouts) (he : e ∈ s.deployments)
    (hconsumer : e.consumer = d.consumer) (hrollout : d.rolloutId = r.id) (hnone : e.jobId = none) :
    Snapshots (s.withJob r fingerprintSha256 status d) := by
  obtain ⟨hsame, hbinding, hterms, hrevision⟩ := rolloutId_of_consumer hconsumer
  have hnew : Owns s { e with jobId := some s.nextJobId }
      (d.newJob r fingerprintSha256 status s.nextJobId) := by
    refine ⟨rfl, by rw [hterms]; rfl, r, hr, by rw [← hrollout, ← hsame], ?_⟩
    exact intent_of_frozen (by rw [← hconsumer]; rfl) rfl _
  -- the consumer whose `job_id` is set is `e`, and no other
  have hupdate : ∀ x ∈ s.deployments,
      (x.rolloutId = r.id ∧ x.bindingId = d.bindingId ∧ x.jobId = none) ↔ x = e := by
    intro x hx
    constructor
    · rintro ⟨hxr, hxb, -⟩
      exact h.consumer_eq hx he (by rw [hxr, hsame, hrollout]) (by rw [hxb, hbinding])
    · rintro rfl
      exact ⟨hsame.trans hrollout, hbinding, hnone⟩
  have hmem : ∀ x, x ∈ (s.withJob r fingerprintSha256 status d).deployments →
      (x ∈ s.deployments ∧ x ≠ e) ∨ x = { e with jobId := some s.nextJobId } := by
    intro x hx
    obtain ⟨y, hy, rfl⟩ := mem_updateWhere.mp hx
    by_cases hye : y = e
    · subst hye
      rw [if_pos (by simpa using (hupdate y hy).mpr rfl)]
      exact .inr rfl
    · rw [if_neg (by simpa using fun h₁ h₂ h₃ => hye ((hupdate y hy).mp ⟨h₁, h₂, h₃⟩))]
      exact .inl ⟨hy, hye⟩
  have hchanged : { e with jobId := some s.nextJobId } ∈
      (s.withJob r fingerprintSha256 status d).deployments := by
    refine mem_updateWhere.mpr ⟨e, he, ?_⟩
    rw [if_pos (by simpa using (hupdate e he).mpr rfl)]
  have hkept : ∀ x ∈ s.deployments, x ≠ e →
      x ∈ (s.withJob r fingerprintSha256 status d).deployments := by
    intro x hx hxe
    refine mem_updateWhere.mpr ⟨x, hx, ?_⟩
    rw [if_neg (by simpa using fun h₁ h₂ h₃ => hxe ((hupdate x hx).mp ⟨h₁, h₂, h₃⟩))]
  refine
    { h with
      consumerKeys := keyNodup_updateWhere (fun _ => rfl) h.consumerKeys
      placed := ?_, jobKeys := ?_, jobIds := ?_, owned := ?_, assigned := ?_ }
  · intro x hx
    obtain ⟨hx, -⟩ | rfl := hmem x hx
    · exact (h.placed x hx).mono (fun _ hq => hq) rfl
    · obtain ⟨hplaced, b, hb, hfrozen⟩ := h.placed e he
      exact ⟨hplaced, b, hb, hfrozen.congr rfl⟩
  · apply keyNodup_append_singleton h.jobKeys
    intro j hj
    have := h.jobIds j hj
    show j.id ≠ s.nextJobId
    omega
  · intro j hj
    show j.id < s.nextJobId + 1
    obtain hj | hj := List.mem_append.mp hj
    · have := h.jobIds j hj
      omega
    · obtain rfl := List.mem_singleton.mp hj
      exact Nat.lt_succ_self _
  · intro j hj
    obtain hj | hj := List.mem_append.mp hj
    · obtain ⟨x, hx, howns⟩ := h.owned j hj
      have hxe : x ≠ e := by
        rintro rfl
        simp [howns.1] at hnone
      exact ⟨x, hkept x hx hxe, howns⟩
    · obtain rfl := List.mem_singleton.mp hj
      exact ⟨_, hchanged, hnew⟩
  · intro x hx id hid
    obtain ⟨hx, -⟩ | rfl := hmem x hx
    · obtain ⟨j, hj, hji, howns⟩ := h.assigned x hx id hid
      exact ⟨j, List.mem_append_left _ hj, hji, howns⟩
    · refine ⟨_, List.mem_append_right _ (List.mem_singleton.mpr rfl), ?_, hnew⟩
      exact Option.some.inj hid

/-- The consumers a loop is about, in the state it has come to. -/
def Started (s : State) (r : Rollout) (ds : List Deployment) : Prop :=
  r ∈ s.rollouts ∧ ∀ d ∈ ds, d.rolloutId = r.id ∧ ∃ e ∈ s.deployments, e.consumer = d.consumer

theorem startJob_rollouts (d : Deployment) :
    (s.startJob r fingerprintSha256 status d).rollouts = s.rollouts := by
  unfold State.startJob State.createJob
  split <;> rfl

theorem startJob_consumers (d : Deployment) :
    (s.startJob r fingerprintSha256 status d).deployments.map Deployment.consumer =
      s.deployments.map Deployment.consumer := by
  unfold State.startJob State.createJob
  split <;> exact map_key_updateWhere fun _ => rfl

theorem Started.next (h : Started s r (d :: ds)) :
    Started (s.startJob r fingerprintSha256 status d) r ds := by
  refine ⟨(startJob_rollouts d).symm ▸ h.1, ?_⟩
  intro x hx
  obtain ⟨hrollout, e, he, hconsumer⟩ := h.2 x (List.mem_cons_of_mem _ hx)
  refine ⟨hrollout, ?_⟩
  have hmem : e.consumer ∈
      (s.startJob r fingerprintSha256 status d).deployments.map Deployment.consumer := by
    rw [startJob_consumers]
    exact List.mem_map_of_mem he
  obtain ⟨f, hf, hfe⟩ := List.mem_map.mp hmem
  exact ⟨f, hf, hfe.trans hconsumer⟩

theorem Snapshots.startJob (h : Snapshots s) (hds : Started s r (d :: ds)) :
    Snapshots (s.startJob r fingerprintSha256 status d) := by
  obtain ⟨hrollout, e, he, hconsumer⟩ := hds.2 d List.mem_cons_self
  obtain ⟨heq, -⟩ | ⟨hnone, heq⟩ := startJob_cases h he hconsumer hrollout
  · rw [heq]
    exact h
  · rw [heq]
    exact h.withJob hds.1 he hconsumer hrollout hnone

/-- The loop keeps the shape. -/
theorem Snapshots.startEach (h : Snapshots s) (hds : Started s r ds) :
    Snapshots (ds.foldl (State.startJob r fingerprintSha256 status) s) := by
  induction ds generalizing s with
  | nil => exact h
  | cons d ds ih => exact ih (h.startJob hds) hds.next

theorem mem_toStart (h : d ∈ s.toStart r) :
    d ∈ s.outstanding r.id ∧ d.terms.wave = minWave (s.outstanding r.id) ∧ d.jobId = none := by
  unfold State.toStart at h
  simpa using List.mem_of_mem_take h

theorem started_toStart (hr : r ∈ s.rollouts) : Started s r (s.toStart r) := by
  refine ⟨hr, ?_⟩
  intro d hd
  obtain ⟨hmem, hrollout, -⟩ := mem_consumers.mp (mem_outstanding.mp (mem_toStart hd).1).1
  exact ⟨hrollout, d, hmem, rfl⟩

theorem Snapshots.startJobs (h : Snapshots s) (hr : r ∈ s.rollouts) :
    Snapshots (s.startJobs r fingerprintSha256 status) :=
  h.startEach (started_toStart hr)

/-! ## §4. Every reachable state. -/

theorem Snapshots.step {e : Event} (h : Snapshots s) (hstep : next cfg s e = some t) : Snapshots t := by
  cases next_changed hstep with
  | kept hkept => exact h.of_kept hkept
  | bound bindingId terms active hbound => exact h.putBinding hbound
  | snapshot versionId maxParallel verificationOnly approved hsnapshot =>
    obtain ⟨-, rfl⟩ := createRolloutSnapshot_ok hsnapshot
    exact (h.withSnapshot versionId maxParallel verificationOnly).of_kept (enqueue_kept _ _ _)
  | launched r fingerprintSha256 status hlaunched =>
    exact (h.startJobs (rollout_some hlaunched.found).1).of_kept hlaunched.kept

theorem snapshots_of_reachable {ok : State → Event → Prop} (h : Reachable (system cfg) ok s) :
    Snapshots s :=
  h.invariant (fun _ => Snapshots.init) fun _ _ _ hs _ hstep => hs.step hstep

end TokenTimer.Distribution
