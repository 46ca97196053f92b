/-
  TokenTimer.Distribution.Convergence — what a group records about its consumers, and what
  a consumer is reported as converged on (`createRolloutSnapshot`,
  `acceptDeploymentReceipt`, `consumerMatrix`).

  The state of a consumer is written by snapshots, which move what it should have, and by
  accepted receipts, which move what it has.  A receipt may be observed up to 30 seconds
  after it is accepted, so an accepted receipt proves that much longer.

  Main results:
    * `recorded_state_moves_forward` — generations only grow, an older rollout is neither
        dispatched nor accepted, and a converged consumer
        has a fresh receipt behind it.
-/

import TokenTimer.Distribution.Parallelism

namespace TokenTimer.Distribution

open Lib.Runs Lib.Table TokenTimer.CertOps

variable {cfg : Config} {s t u : State}

/-! ## §1. The invariant. -/

/-- A consumer was told of the newest rollout it is in. -/
def Told (s : State) (d : Deployment) : Prop :=
  ∃ c ∈ s.current, c.bindingId = d.bindingId ∧
    ∀ r ∈ s.rollouts, r.id = d.rolloutId → r.generation ≤ c.desiredGeneration

/-- The job of an accepted receipt: it succeeded, for that rollout and that consumer. -/
def Behind (s : State) (rolloutId bindingId : Nat) (a : Acceptance) : Prop :=
  a.bindingId = bindingId ∧ ∃ j ∈ s.jobs, j.id = a.jobId ∧ j.status = .succeeded ∧
    j.intent.rolloutId = rolloutId ∧ j.intent.bindingId = bindingId

/-- What a consumer is recorded with is what it was never told more than, and comes from
    an accepted receipt of the rollout it names. -/
structure Observed (s : State) (c : CurrentState) : Prop where
  accepted : c.acceptedGeneration ≤ c.desiredGeneration
  desired : c.desiredGeneration ≤ s.generation
  source :
    (c.acceptedGeneration = 0 ∧ c.observedMaterialVersionId = none ∧ c.observedAt = none) ∨
      ∃ r ∈ s.rollouts, r.generation = c.acceptedGeneration ∧
        c.observedMaterialVersionId = some r.materialVersionId ∧
        ∃ a ∈ s.acceptances, c.observedAt = some a.observedAt ∧ Behind s r.id c.bindingId a

/-- What the state of the consumers says is so. -/
structure Recorded (s : State) : Prop where
  keys : KeyNodup CurrentState.bindingId s.current
  told : ∀ d ∈ s.deployments, Told s d
  observed : ∀ c ∈ s.current, Observed s c
  timed : ∀ a ∈ s.acceptances, a.acceptedAt ≤ s.now ∧ a.observedAt ≤ a.acceptedAt + RECEIPT_SKEW_MS

theorem Recorded.init (h : Init s) : Recorded s where
  keys := by simp [KeyNodup, h.current]
  told := by simp [h.deployments]
  observed := by simp [h.current]
  timed := by simp [h.acceptances]

/-! ## §2. What the rows of the consumers rest on. -/

/-- The rollouts are those of before, no succeeded job is lost, and time does not go back. -/
structure Grown (s t : State) : Prop where
  rollouts : ∀ r ∈ s.rollouts, ∃ q ∈ t.rollouts, q.frozen = r.frozen
  generation : s.generation ≤ t.generation
  now : s.now ≤ t.now
  succeeded : ∀ j ∈ s.jobs, j.status = .succeeded → ∃ i ∈ t.jobs, i.core = j.core ∧ i.status = .succeeded
  acceptances : s.acceptances ⊆ t.acceptances

theorem Behind.grown (h : Grown s t) {rolloutId bindingId : Nat} {a : Acceptance}
    (ha : Behind s rolloutId bindingId a) : Behind t rolloutId bindingId a := by
  obtain ⟨hbinding, j, hj, hid, hstatus, hrollout, hjbinding⟩ := ha
  obtain ⟨i, hi, hij, hsucceeded⟩ := h.succeeded j hj hstatus
  simp only [Job.core, Prod.mk.injEq] at hij
  obtain ⟨hiid, hintent, -⟩ := hij
  exact ⟨hbinding, i, hi, hiid.trans hid, hsucceeded, hintent ▸ hrollout, hintent ▸ hjbinding⟩

variable {c : CurrentState} {j : Job} {jobStatus status : JobStatus} {e : Event}

theorem Observed.grown (h : Grown s t) (hc : Observed s c) : Observed t c where
  accepted := hc.accepted
  desired := hc.desired.trans h.generation
  source := by
    refine hc.source.imp id ?_
    rintro ⟨r, hr, hgeneration, hversion, a, ha, hat, hbehind⟩
    obtain ⟨q, hq, hqr⟩ := h.rollouts r hr
    obtain ⟨hid, hqgeneration, hmaterial, -⟩ := id_of_frozen hqr
    refine ⟨q, hq, hqgeneration.trans hgeneration, by rw [hversion, hmaterial], a,
      h.acceptances ha, hat, ?_⟩
    rw [hid]
    exact hbehind.grown h

/-- A step that writes neither the consumers nor what they are recorded with. -/
structure Still (s t : State) : Prop extends Grown s t where
  sameRollouts : t.rollouts.map Rollout.frozen = s.rollouts.map Rollout.frozen
  consumers : t.deployments.map Deployment.consumer = s.deployments.map Deployment.consumer
  current : t.current = s.current
  sameAcceptances : t.acceptances = s.acceptances

theorem Told.congr {d e : Deployment} (h : Told s d)
    (hrollouts : t.rollouts.map Rollout.frozen = s.rollouts.map Rollout.frozen)
    (hcurrent : ∀ c ∈ s.current, ∃ c' ∈ t.current, c'.bindingId = c.bindingId ∧
      c.desiredGeneration ≤ c'.desiredGeneration)
    (hconsumer : d.consumer = e.consumer) : Told t e := by
  obtain ⟨c, hc, hbinding, hle⟩ := h
  obtain ⟨c', hc', hcb, hcg⟩ := hcurrent c hc
  obtain ⟨hrollout, hsame, -⟩ := rolloutId_of_consumer hconsumer
  refine ⟨c', hc', by rw [hcb, hbinding, hsame], ?_⟩
  intro r hr hid
  have hmem : r.frozen ∈ s.rollouts.map Rollout.frozen := hrollouts ▸ List.mem_map_of_mem hr
  obtain ⟨q, hq, hqr⟩ := List.mem_map.mp hmem
  obtain ⟨hqid, hqgeneration, -⟩ := id_of_frozen hqr
  have := hle q hq (by rw [hqid, hid, hrollout])
  omega

theorem Recorded.still (h : Recorded s) (hst : Still s t) : Recorded t where
  keys := hst.current ▸ h.keys
  told := by
    intro e he
    have hmem : e.consumer ∈ s.deployments.map Deployment.consumer :=
      hst.consumers ▸ List.mem_map_of_mem he
    obtain ⟨d, hd, hde⟩ := List.mem_map.mp hmem
    refine (h.told d hd).congr hst.sameRollouts ?_ hde
    intro c hc
    exact ⟨c, hst.current ▸ hc, rfl, le_rfl⟩
  observed := by
    intro c hc
    exact (h.observed c (hst.current ▸ hc)).grown hst.toGrown
  timed := by
    intro a ha
    obtain ⟨haccepted, hskew⟩ := h.timed a (hst.sameAcceptances ▸ ha)
    exact ⟨haccepted.trans hst.now, hskew⟩

/-- Rows that stay make the group no smaller, if no succeeded job is lost. -/
theorem Grown.of_kept (hkept : Kept s t) (hacceptances : s.acceptances ⊆ t.acceptances)
    (hnow : s.now ≤ t.now)
    (hsucceeded : ∀ j ∈ s.jobs, j.status = .succeeded →
      ∃ i ∈ t.jobs, i.core = j.core ∧ i.status = .succeeded) : Grown s t where
  rollouts := by
    intro r hr
    have hmem : r.frozen ∈ t.rollouts.map Rollout.frozen := hkept.rollouts ▸ List.mem_map_of_mem hr
    exact List.mem_map.mp hmem
  generation := hkept.generation.ge
  now := hnow
  succeeded := hsucceeded
  acceptances := hacceptances

theorem Kept.consumers (h : Kept s t) :
    t.deployments.map Deployment.consumer = s.deployments.map Deployment.consumer := by
  have hmap : ∀ l : List Deployment, l.map Deployment.consumer =
      (l.map Deployment.frozen).map Deployment.consumer := by
    intro l
    rw [List.map_map]
    rfl
  rw [hmap, h.deployments, ← hmap]

theorem Still.of_kept (hkept : Kept s t) (hcurrent : t.current = s.current)
    (hacceptances : t.acceptances = s.acceptances) (hnow : s.now ≤ t.now)
    (hsucceeded : ∀ j ∈ s.jobs, j.status = .succeeded →
      ∃ i ∈ t.jobs, i.core = j.core ∧ i.status = .succeeded) : Still s t :=
  { Grown.of_kept hkept (by rw [hacceptances]; exact List.Subset.refl _) hnow hsucceeded with
    sameRollouts := hkept.rollouts
    consumers := hkept.consumers
    current := hcurrent
    sameAcceptances := hacceptances }

theorem succeeded_of_eq (h : t.jobs = s.jobs) : ∀ j ∈ s.jobs, j.status = .succeeded →
    ∃ i ∈ t.jobs, i.core = j.core ∧ i.status = .succeeded := by
  intro j hj hstatus
  exact ⟨j, h ▸ hj, rfl, hstatus⟩

theorem succeeded_setJob (hs : Snapshots s) {f : Job → Job} (hj : s.job j.id = some j)
    (hopen : j.status ≠ .succeeded) (hjobs : t.jobs = (s.setJob j.id f).jobs) :
    ∀ i ∈ s.jobs, i.status = .succeeded → ∃ k ∈ t.jobs, k.core = i.core ∧ k.status = .succeeded := by
  intro i hi hstatus
  refine ⟨i, ?_, rfl, hstatus⟩
  rw [hjobs]
  refine mem_updateWhere.mpr ⟨i, hi, ?_⟩
  rw [if_neg]
  intro hid
  have hij : i = j := hs.jobKeys.eq_of_mem hi (job_some hj).1 (by simpa using hid)
  exact hopen (hij ▸ hstatus)

/-! ## §3. Snapshots. -/

/-- What a snapshot makes of the state of the consumers. -/
structure Wanted (versionId generation : Nat) (bindingIds : List Nat) (current current' : List CurrentState) :
    Prop where
  keys : KeyNodup CurrentState.bindingId current → KeyNodup CurrentState.bindingId current'
  rows : ∀ c' ∈ current', (∃ c ∈ current, c' = c ∨ c' = c.want versionId generation) ∨
    ∃ bindingId ∈ bindingIds, c' =
      { bindingId, desiredMaterialVersionId := versionId, desiredGeneration := generation }
  kept : ∀ c ∈ current, ∃ c' ∈ current', c' = c ∨ c' = c.want versionId generation
  told : ∀ bindingId ∈ bindingIds, ∃ c' ∈ current', c'.bindingId = bindingId ∧
    c'.desiredGeneration = generation

theorem setDesired_wanted (versionId generation : Nat) (current : List CurrentState) (bindingId : Nat) :
    Wanted versionId generation [bindingId] current (setDesired versionId generation current bindingId) := by
  unfold setDesired
  split
  · rename_i hany
    obtain ⟨c, hc, hid⟩ := List.any_eq_true.mp hany
    simp only [decide_eq_true_eq] at hid
    refine ⟨keyNodup_updateWhere fun _ => rfl, ?_, ?_, ?_⟩
    · intro c' hc'
      obtain ⟨x, hx, rfl⟩ := mem_updateWhere.mp hc'
      left
      refine ⟨x, hx, ?_⟩
      split
      · exact .inr rfl
      · exact .inl rfl
    · intro x hx
      refine ⟨_, mem_updateWhere.mpr ⟨x, hx, rfl⟩, ?_⟩
      split
      · exact .inr rfl
      · exact .inl rfl
    · intro id hmem
      obtain rfl := List.mem_singleton.mp hmem
      refine ⟨c.want versionId generation, mem_updateWhere.mpr ⟨c, hc, ?_⟩, hid, rfl⟩
      rw [if_pos (by simpa using hid)]
  · rename_i hnone
    refine ⟨?_, ?_, ?_, ?_⟩
    · intro hkeys
      apply keyNodup_append_singleton hkeys
      intro c hc hsame
      exact hnone (List.any_eq_true.mpr ⟨c, hc, by simpa using hsame⟩)
    · intro c' hc'
      obtain hc' | hc' := List.mem_append.mp hc'
      · exact .inl ⟨c', hc', .inl rfl⟩
      · exact .inr ⟨bindingId, List.mem_singleton_self _, List.mem_singleton.mp hc'⟩
    · intro c hc
      exact ⟨c, List.mem_append_left _ hc, .inl rfl⟩
    · intro id hmem
      obtain rfl := List.mem_singleton.mp hmem
      exact ⟨_, List.mem_append_right _ (List.mem_singleton_self _), rfl, rfl⟩

theorem foldl_setDesired_wanted (versionId generation : Nat) (bindingIds : List Nat)
    (current : List CurrentState) :
    Wanted versionId generation bindingIds current
      (bindingIds.foldl (setDesired versionId generation) current) := by
  induction bindingIds generalizing current with
  | nil =>
    refine ⟨id, ?_, ?_, ?_⟩
    · intro c hc
      exact .inl ⟨c, hc, .inl rfl⟩
    · intro c hc
      exact ⟨c, hc, .inl rfl⟩
    · intro id hid
      cases hid
  | cons bindingId rest ih =>
    have hfirst := setDesired_wanted versionId generation current bindingId
    have hrest := ih (setDesired versionId generation current bindingId)
    refine ⟨fun hkeys => hrest.keys (hfirst.keys hkeys), ?_, ?_, ?_⟩
    · intro c'' hc''
      obtain ⟨c', hc', hto⟩ | ⟨id, hid, hnew⟩ := hrest.rows c'' hc''
      · obtain ⟨c, hc, hfrom⟩ | ⟨id, hid, hnew⟩ := hfirst.rows c' hc'
        · refine .inl ⟨c, hc, ?_⟩
          obtain rfl | rfl := hto
          · exact hfrom
          · obtain rfl | rfl := hfrom <;> exact .inr rfl
        · refine .inr ⟨id, List.mem_cons.mpr (.inl (List.mem_singleton.mp hid)), ?_⟩
          obtain rfl | rfl := hto
          · exact hnew
          · rw [hnew]
            rfl
      · exact .inr ⟨id, List.mem_cons_of_mem _ hid, hnew⟩
    · intro c hc
      obtain ⟨c', hc', hfrom⟩ := hfirst.kept c hc
      obtain ⟨c'', hc'', hto⟩ := hrest.kept c' hc'
      refine ⟨c'', hc'', ?_⟩
      obtain rfl | rfl := hto
      · exact hfrom
      · obtain rfl | rfl := hfrom <;> exact .inr rfl
    · intro id hid
      obtain rfl | hid := List.mem_cons.mp hid
      · obtain ⟨c', hc', hsame, hgeneration⟩ := hfirst.told id (List.mem_singleton_self _)
        obtain ⟨c'', hc'', hto⟩ := hrest.kept c' hc'
        refine ⟨c'', hc'', ?_⟩
        obtain rfl | rfl := hto
        · exact ⟨hsame, hgeneration⟩
        · exact ⟨hsame, rfl⟩
      · exact hrest.told id hid

theorem withSnapshot_grown (s : State) (versionId maxParallel : Nat) (verificationOnly : Bool) :
    Grown s (s.withSnapshot versionId maxParallel verificationOnly) where
  rollouts r hr := ⟨r, List.mem_append_left _ hr, rfl⟩
  generation := Nat.le_succ _
  now := le_rfl
  succeeded j hj hstatus := ⟨j, hj, rfl, hstatus⟩
  acceptances := List.Subset.refl _

theorem Recorded.withSnapshot (h : Recorded s) (hs : Snapshots s) (versionId maxParallel : Nat)
    (verificationOnly : Bool) : Recorded (s.withSnapshot versionId maxParallel verificationOnly) := by
  have hwanted := foldl_setDesired_wanted versionId (s.generation + 1) (s.activeBindings.map (·.id)) s.current
  have hgrown := withSnapshot_grown s versionId maxParallel verificationOnly
  refine ⟨hwanted.keys h.keys, ?_, ?_, h.timed⟩
  · intro d hd
    obtain hd | hd := List.mem_append.mp hd
    · obtain ⟨c, hc, hbinding, hle⟩ := h.told d hd
      obtain ⟨c', hc', hto⟩ := hwanted.kept c hc
      have hdesired : c'.bindingId = c.bindingId ∧ c.desiredGeneration ≤ c'.desiredGeneration := by
        obtain rfl | rfl := hto
        · exact ⟨rfl, le_rfl⟩
        · exact ⟨rfl, (h.observed c hc).desired.trans (Nat.le_succ _)⟩
      refine ⟨c', hc', hdesired.1.trans hbinding, ?_⟩
      intro r hr hid
      obtain hr | hr := List.mem_append.mp hr
      · exact (hle r hr hid).trans hdesired.2
      · obtain rfl := List.mem_singleton.mp hr
        obtain ⟨⟨q, hq, hqid⟩, -⟩ := hs.placed d hd
        have := (hs.rolloutIds q hq).1
        change s.nextRolloutId = d.rolloutId at hid
        omega
    · obtain ⟨b, hb, rfl⟩ := List.mem_map.mp hd
      obtain ⟨c', hc', hid, hgeneration⟩ := hwanted.told b.id (List.mem_map_of_mem hb)
      refine ⟨c', hc', hid, ?_⟩
      intro r hr _
      rw [hgeneration]
      obtain hr | hr := List.mem_append.mp hr
      · exact (hs.rolloutIds r hr).2.2.trans (Nat.le_succ _)
      · obtain rfl := List.mem_singleton.mp hr
        exact le_rfl
  · intro c' hc'
    obtain ⟨c, hc, rfl | rfl⟩ | ⟨id, -, rfl⟩ := hwanted.rows c' hc'
    · exact (h.observed c' hc).grown hgrown
    · have hobserved := (h.observed c hc).grown hgrown
      exact ⟨hobserved.accepted.trans ((h.observed c hc).desired.trans (Nat.le_succ _)), le_rfl,
        hobserved.source⟩
    · exact ⟨Nat.zero_le _, le_rfl, .inl ⟨rfl, rfl, rfl⟩⟩

/-! ## §4. Receipts. -/

@[simp] theorem setJob_acceptances (s : State) (id : Nat) (f : Job → Job) :
    (s.setJob id f).acceptances = s.acceptances := rfl

/-- The state after a receipt that was made the state of its consumer. -/
structure Promotion (s : State) (j : Job) (row : Joined) (receipt : Receipt) (t : State) : Prop
    extends Grown s t where
  sameRollouts : t.rollouts = s.rollouts
  consumers : t.deployments.map Deployment.consumer = s.deployments.map Deployment.consumer
  current : t.current =
    updateWhere
      (fun c => c.bindingId = row.deployment.bindingId ∧ c.acceptedGeneration ≤ receipt.generation)
      (CurrentState.accept row.deployment.terms.verificationPolicy receipt) s.current
  accepted : ∀ a ∈ t.acceptances, a ∈ s.acceptances ∨
    a.acceptedAt = s.now ∧ a.observedAt = receipt.observedAt
  behind : ∃ a ∈ t.acceptances, a.observedAt = receipt.observedAt ∧
    Behind t row.rollout.id row.deployment.bindingId a

theorem Recorded.promotion (h : Recorded s) {row : Joined} {receipt : Receipt}
    {identityActive : Bool} (hrow : s.joined j.intent = some row)
    (hadmissible : receipt.admissible cfg s.now j row jobStatus = true)
    (hpromotes : receipt.promotes row jobStatus identityActive = true)
    (ht : Promotion s j row receipt t) : Recorded t := by
  obtain ⟨hversion, hgeneration, hskew⟩ := admissible_ok hadmissible
  obtain ⟨hdesired, -⟩ := promotes_ok hpromotes
  obtain ⟨-, hrollout, -, hcurrent, -⟩ := joined_ok hrow
  refine ⟨?_, ?_, ?_, ?_⟩
  · rw [ht.current]
    exact keyNodup_updateWhere (fun _ => rfl) h.keys
  · intro e he
    have hmem : e.consumer ∈ s.deployments.map Deployment.consumer :=
      ht.consumers ▸ List.mem_map_of_mem he
    obtain ⟨d, hd, hde⟩ := List.mem_map.mp hmem
    refine (h.told d hd).congr (by rw [ht.sameRollouts]) ?_ hde
    intro c hc
    rw [ht.current]
    refine ⟨_, mem_updateWhere.mpr ⟨c, hc, rfl⟩, ?_⟩
    split <;> exact ⟨rfl, le_rfl⟩
  · intro c' hc'
    rw [ht.current] at hc'
    obtain ⟨c, hc, rfl⟩ := mem_updateWhere.mp hc'
    split
    · rename_i hkey
      simp only [decide_eq_true_eq] at hkey
      obtain ⟨hmem, hid⟩ := currentOf_some hcurrent
      have hsame : c = row.current := h.keys.eq_of_mem hc hmem (hkey.1.trans hid.symm)
      have hold := (h.observed c hc).grown ht.toGrown
      obtain ⟨a, ha, hat, hbehind⟩ := ht.behind
      refine ⟨?_, hold.desired, .inr ⟨row.rollout, ?_, hgeneration.symm, ?_, a, ha, ?_, ?_⟩⟩
      · show receipt.generation ≤ c.desiredGeneration
        rw [hsame, hdesired]
      · rw [ht.sameRollouts]
        exact (rollout_some hrollout).1
      · show some receipt.materialVersionId = _
        rw [hversion]
      · show some receipt.observedAt = _
        rw [hat]
      · show Behind t row.rollout.id c.bindingId a
        rw [hkey.1]
        exact hbehind
    · exact (h.observed c hc).grown ht.toGrown
  · intro a ha
    obtain hold | ⟨haccepted, hobserved⟩ := ht.accepted a ha
    · obtain ⟨haccepted, hskew⟩ := h.timed a hold
      exact ⟨haccepted.trans ht.now, hskew⟩
    · rw [haccepted, hobserved]
      exact ⟨ht.now, hskew⟩

theorem Settled.now (h : Settled cfg s j jobStatus u) :
    u.now = s.now := by
  cases h with
  | failed => exact enqueue_now _ _ _
  | receipt receipt fenceBusy haccept =>
    obtain ⟨row, -, -, rfl | ⟨-, rfl⟩⟩ := acceptDeploymentReceipt_ok haccept <;> exact enqueue_now _ _ _

/-- A result either writes nothing of the consumers' state, or promotes its receipt. -/
theorem Settled.rows (hs : Snapshots s) (hj : s.job j.id = some j) (hopen : j.status ≠ .succeeded)
    (h : Settled cfg s j jobStatus u) :
    Still s (u.setJob j.id (Job.settled jobStatus)) ∨
      ∃ row receipt identityActive, s.joined j.intent = some row ∧
        receipt.admissible cfg s.now j row jobStatus = true ∧
        receipt.promotes row jobStatus identityActive = true ∧
        Promotion s j row receipt (u.setJob j.id (Job.settled jobStatus)) := by
  have hkept : Kept s (u.setJob j.id (Job.settled jobStatus)) :=
    h.kept.trans (setJob_kept u _ fun _ => rfl)
  have hnow : s.now ≤ (u.setJob j.id (Job.settled jobStatus)).now := h.now.ge
  have hsucceeded : u.jobs = s.jobs → ∀ i ∈ s.jobs, i.status = .succeeded →
      ∃ k ∈ (u.setJob j.id (Job.settled jobStatus)).jobs, k.core = i.core ∧ k.status = .succeeded := by
    intro hjobs
    refine succeeded_setJob (f := Job.settled jobStatus) hs hj hopen ?_
    show updateWhere _ _ u.jobs = updateWhere _ _ s.jobs
    rw [hjobs]
  cases h with
  | failed hfailed stage hstage =>
    left
    apply Still.of_kept hkept
    · exact enqueue_current _ _ _
    · exact enqueue_acceptances _ _ _
    · exact hnow
    · exact hsucceeded (enqueue_jobs _ _ _)
  | receipt receipt fenceBusy haccept =>
    obtain ⟨row, hrow, hadmissible, rfl | ⟨hpromotes, rfl⟩⟩ := acceptDeploymentReceipt_ok haccept
    · left
      apply Still.of_kept hkept
      · exact enqueue_current _ _ _
      · exact enqueue_acceptances _ _ _
      · exact hnow
      · exact hsucceeded (enqueue_jobs _ _ _)
    · right
      have hacceptances := enqueue_acceptances
        ((s.staged j (receipt.stage jobStatus)).promoted j row receipt) j.intent.rolloutId
        (.result j.id j.claimId)
      refine ⟨row, receipt, _, hrow, hadmissible, hpromotes, ?_⟩
      refine
        { Grown.of_kept hkept (by rw [setJob_acceptances, hacceptances]; exact List.subset_append_left _ _)
            hnow (hsucceeded (enqueue_jobs _ _ _)) with
          sameRollouts := enqueue_rollouts _ _ _
          consumers := hkept.consumers
          current := enqueue_current _ _ _
          accepted := ?_
          behind := ?_ }
      · intro a ha
        rw [setJob_acceptances, hacceptances] at ha
        refine (List.mem_append.mp ha).imp id ?_
        intro ha
        obtain rfl := List.mem_singleton.mp ha
        exact ⟨rfl, rfl⟩
      · obtain ⟨hdeployment, hrollout, -⟩ := joined_ok hrow
        obtain ⟨-, hdr, hdb⟩ := deployment_some hdeployment
        refine ⟨{ bindingId := row.deployment.bindingId, jobId := j.id, acceptedAt := s.now
                  observedAt := receipt.observedAt }, ?_, rfl, rfl, j.settled jobStatus, ?_, rfl,
          (promotes_ok hpromotes).2, ?_, hdb.symm⟩
        · rw [setJob_acceptances, hacceptances]
          exact List.mem_append_right _ (List.mem_singleton_self _)
        · refine mem_updateWhere.mpr ⟨j, ?_, by rw [if_pos (by simp)]⟩
          rw [enqueue_jobs]
          exact (job_some hj).1
        · exact hdr.symm.trans (rollout_some hrollout).2.symm

/-! ## §5. Steps. -/

theorem not_succeeded_of_active (h : activeStatus status = true) :
    status ≠ .succeeded := by
  rintro rfl
  cases h

/-- A handled event writes nothing the consumers are recorded with. -/
theorem Handled.still {d : Drain} (h : Handled s status d t) : Still s t := by
  have hrest : t.current = s.current ∧ t.acceptances = s.acceptances ∧ t.now = s.now := by
    cases h with
    | claimLost | thrown => exact ⟨rfl, rfl, rfl⟩
    | advanced hheld hadvanced =>
      cases hadvanced with
      | inactive | stopped | finished => exact ⟨rfl, rfl, rfl⟩
      | started r fingerprintSha256 =>
        obtain ⟨-, -, -, -, hcurrent, hacceptances, hnow, -⟩ := @startJobs_rest s status r fingerprintSha256
        exact ⟨hcurrent, hacceptances, hnow⟩
  obtain ⟨hcurrent, hacceptances, hnow⟩ := hrest
  obtain ⟨hkept, hjobs, -⟩ | ⟨r, fingerprintSha256, hlaunched⟩ := h.rows
  · exact .of_kept hkept hcurrent hacceptances hnow.ge (succeeded_of_eq hjobs)
  · obtain ⟨hjobs, hrollouts, -, hgeneration, -⟩ := @startJobs_rest s status r fingerprintSha256
    have hsame : t.rollouts.map Rollout.frozen = s.rollouts.map Rollout.frozen := by
      rw [hlaunched.kept.rollouts, hrollouts]
    refine
      { rollouts := ?_, generation := ?_, now := hnow.ge, succeeded := ?_, acceptances := ?_
        sameRollouts := hsame, consumers := ?_, current := hcurrent, sameAcceptances := hacceptances }
    · intro q hq
      have hmem : q.frozen ∈ t.rollouts.map Rollout.frozen := hsame ▸ List.mem_map_of_mem hq
      exact List.mem_map.mp hmem
    · rw [hlaunched.kept.generation, hgeneration]
    · intro j hj hstatus
      exact ⟨j, hlaunched.jobs ▸ hjobs hj, rfl, hstatus⟩
    · rw [hacceptances]
      exact List.Subset.refl _
    · rw [hlaunched.kept.consumers]
      have hmap : ∀ l : List Deployment, l.map Deployment.consumer =
          (l.map fun d => { d with jobId := none }).map Deployment.consumer := by
        intro l
        rw [List.map_map]
        rfl
      rw [hmap, startJobs_stages, ← hmap]

/-- The steps that are neither a snapshot nor a result. -/
def Event.quiet : Event → Bool
  | .createSnapshot _ _ _ _ | .result _ _ _ _ _ => false
  | _ => true

theorem next_still (hs : Snapshots s) (h : next cfg s e = some t) (hquiet : e.quiet = true) :
    Still s t := by
  cases e
  case putBinding =>
    obtain rfl | ⟨-, -, -, rfl⟩ | ⟨-, rfl⟩ := putBinding_ok h <;>
      exact ⟨⟨fun r hr => ⟨r, hr, rfl⟩, le_rfl, le_rfl, fun j hj hj' => ⟨j, hj, rfl, hj'⟩,
        List.Subset.refl _⟩, rfl, rfl, rfl, rfl⟩
  case handleEvent =>
    obtain ⟨d, -, -, -, hhandled⟩ := handleEvent_ok h
    exact hhandled.still
  case createSnapshot => cases hquiet
  case result => cases hquiet
  all_goals
    have hkept := next_kept h rfl
    dsimp only [next] at h
  case wait ms =>
    cases h
    exact .of_kept hkept rfl rfl (Nat.le_add_right _ _) (succeeded_of_eq rfl)
  case setPaused => cases h; exact .of_kept hkept rfl rfl le_rfl (succeeded_of_eq rfl)
  case endGroup => cases h; exact .of_kept hkept rfl rfl le_rfl (succeeded_of_eq rfl)
  case publish =>
    split at h
    · cases h; exact .of_kept hkept rfl rfl le_rfl (succeeded_of_eq rfl)
    · cases h
  case retireVersion => cases h; exact .of_kept hkept rfl rfl le_rfl (succeeded_of_eq rfl)
  case setRolloutState =>
    obtain ⟨-, rfl⟩ | ⟨-, rfl⟩ := setRolloutState_ok h
    · exact .of_kept hkept rfl rfl le_rfl (succeeded_of_eq rfl)
    · exact .of_kept hkept (enqueue_current _ _ _) (enqueue_acceptances _ _ _)
        (enqueue_now (s.setRollout _ .deploying) _ _).ge (succeeded_of_eq (enqueue_jobs _ _ _))
  case claimJob =>
    obtain ⟨j, hj, hdispatchable, -, -, rfl⟩ := claimJob_ok h
    obtain rfl := (job_some hj).2
    exact .of_kept hkept rfl rfl le_rfl (succeeded_setJob hs hj
      (not_succeeded_of_active (Job.dispatchable_active hdispatchable)) rfl)
  case renewLease =>
    obtain ⟨j, hj, hflight, -, rfl⟩ := renewLease_ok h
    obtain rfl := (job_some hj).2
    exact .of_kept hkept rfl rfl le_rfl
      (succeeded_setJob hs hj (not_succeeded_of_active (activeStatus_of_inFlight hflight)) rfl)
  case reap =>
    obtain ⟨j, hj, hflight, rfl⟩ := reap_ok h
    obtain rfl := (job_some hj).2
    exact .of_kept hkept rfl rfl le_rfl
      (succeeded_setJob hs hj (not_succeeded_of_active (activeStatus_of_inFlight hflight)) rfl)
  case moveJob =>
    obtain ⟨j, hj, hactive, -, rfl⟩ := moveJob_ok h
    obtain rfl := (job_some hj).2
    exact .of_kept hkept rfl rfl le_rfl (succeeded_setJob hs hj (not_succeeded_of_active hactive) rfl)
  case retryJob jobId authority toApproval =>
    obtain ⟨j, d, r, hj, -, -, -, hfailed, -, -, rfl⟩ := retryDistributionJob_ok h
    obtain rfl := (job_some hj).2
    have hopen : j.status ≠ .succeeded := by
      intro hstatus
      rw [hstatus] at hfailed
      cases hfailed
    by_cases hdegraded : r.state = .degraded
    · simp only [if_pos hdegraded] at hkept ⊢
      exact .of_kept hkept rfl rfl le_rfl (succeeded_setJob hs hj hopen rfl)
    · simp only [if_neg hdegraded] at hkept ⊢
      exact .of_kept hkept rfl rfl le_rfl (succeeded_setJob hs hj hopen rfl)
  case claimEvent =>
    obtain ⟨row, -, -, rfl⟩ := claimEvent_ok h
    exact .of_kept hkept rfl rfl le_rfl (succeeded_of_eq rfl)
  case finishEvent =>
    obtain ⟨d, -, outcome, -, -, rfl⟩ := finishEvent_ok h
    exact .of_kept hkept rfl rfl le_rfl (succeeded_of_eq rfl)
  case dropEvent => cases h; exact .of_kept hkept rfl rfl le_rfl (succeeded_of_eq rfl)
  case resetEvent => cases h; exact .of_kept hkept rfl rfl le_rfl (succeeded_of_eq rfl)

theorem Recorded.step (h : Recorded s) (hs : Snapshots s) (hstep : next cfg s e = some t) :
    Recorded t := by
  by_cases hquiet : e.quiet = true
  · exact h.still (next_still hs hstep hquiet)
  · cases e
    case createSnapshot versionId maxParallel verificationOnly approved =>
      obtain ⟨-, rfl⟩ := createRolloutSnapshot_ok hstep
      have hsnapshot := h.withSnapshot hs versionId maxParallel verificationOnly
      exact hsnapshot.still (.of_kept (enqueue_kept _ _ _) (enqueue_current _ _ _)
        (enqueue_acceptances _ _ _) (enqueue_now _ _ _).ge (succeeded_of_eq (enqueue_jobs _ _ _)))
    case result =>
      obtain ⟨j, u, hj, hflight, -, hsettled, rfl⟩ := ingestResult_ok hstep
      obtain rfl := (job_some hj).2
      have hopen := not_succeeded_of_active (activeStatus_of_inFlight hflight)
      obtain hst | ⟨row, receipt, identityActive, hrow, hadmissible, hpromotes, hpromotion⟩ :=
        hsettled.rows hs hj hopen
      · exact h.still hst
      · exact h.promotion hrow hadmissible hpromotes hpromotion
    all_goals exact absurd rfl hquiet

/-! ## §6. What the group records. -/

/-- No consumer goes back to an older rollout. -/
def NeverOlder (s t : State) : Prop :=
  ∀ c ∈ s.current, ∃ c' ∈ t.current, c'.bindingId = c.bindingId ∧
    c.acceptedGeneration ≤ c'.acceptedGeneration

/-- A consumer is recorded with the version of the rollout it accepted, which is none it
    was not asked to accept; before the first there is none. -/
def OfItsRollout (s : State) : Prop :=
  ∀ c ∈ s.current, c.acceptedGeneration ≤ c.desiredGeneration ∧
    ((c.acceptedGeneration = 0 ∧ c.observedMaterialVersionId = none) ∨
      ∃ r ∈ s.rollouts, r.generation = c.acceptedGeneration ∧
        c.observedMaterialVersionId = some r.materialVersionId ∧
        ∀ q ∈ s.rollouts, q.generation = c.acceptedGeneration → q = r)

/-- A newer snapshot contains the binding of the job. -/
def Superseded (s : State) (j : Job) : Prop :=
  ∃ d ∈ s.deployments, d.bindingId = j.intent.bindingId ∧
    ∃ r ∈ s.rollouts, r.id = d.rolloutId ∧ j.intent.generation < r.generation

/-- A superseded job is not dispatched, and what it reports changes no consumer. -/
def OlderIsOver (cfg : Config) (s : State) : Prop :=
  ∀ j ∈ s.jobs, Superseded s j →
    (∀ agentId authority, claimJob cfg j.id agentId authority s = none) ∧
      ∀ claimId jobStatus receipt fenceBusy t,
        ingestResult cfg j.id claimId jobStatus receipt fenceBusy s = some t → t.current = s.current

/-- Behind a converged consumer stands the receipt of a job that succeeded, for its binding
    as it is, its policy and the version it should have; it was observed less than
    `freshness_seconds` ago, and so accepted less than that and the skew ago. -/
def ConvergedFresh (cfg : Config) (s : State) : Prop :=
  ∀ b ∈ s.bindings, s.converged cfg b = true →
    ∃ a ∈ s.acceptances, ∃ j ∈ s.jobs, ∃ c ∈ s.current,
      j.id = a.jobId ∧ j.status = .succeeded ∧ j.intent.bindingId = b.id ∧ c.bindingId = b.id ∧
      j.intent.authorizationRevision = b.authorizationRevision ∧
      j.intent.verificationPolicy = b.terms.verificationPolicy ∧
      j.intent.materialVersionId = c.desiredMaterialVersionId ∧
      s.now < a.observedAt + b.terms.freshnessSeconds * 1000 ∧
      s.now < a.acceptedAt + b.terms.freshnessSeconds * 1000 + RECEIPT_SKEW_MS

theorem NeverOlder.refl (s : State) : NeverOlder s s := fun c hc => ⟨c, hc, rfl, le_rfl⟩

theorem NeverOlder.trans (h : NeverOlder s t) (h' : NeverOlder t u) : NeverOlder s u := by
  intro c hc
  obtain ⟨c', hc', hid, hle⟩ := h c hc
  obtain ⟨c'', hc'', hid', hle'⟩ := h' c' hc'
  exact ⟨c'', hc'', hid'.trans hid, hle.trans hle'⟩

theorem NeverOlder.step (hs : Snapshots s) (hstep : next cfg s e = some t) :
    NeverOlder s t := by
  by_cases hquiet : e.quiet = true
  · have hcurrent := (next_still hs hstep hquiet).current
    intro c hc
    exact ⟨c, hcurrent ▸ hc, rfl, le_rfl⟩
  · cases e
    case createSnapshot versionId maxParallel verificationOnly approved =>
      obtain ⟨-, rfl⟩ := createRolloutSnapshot_ok hstep
      intro c hc
      rw [enqueue_current]
      obtain ⟨c', hc', rfl | rfl⟩ := (foldl_setDesired_wanted versionId (s.generation + 1)
        (s.activeBindings.map (·.id)) s.current).kept c hc
      · exact ⟨c', hc', rfl, le_rfl⟩
      · exact ⟨_, hc', rfl, le_rfl⟩
    case result =>
      obtain ⟨j, u, hj, hflight, -, hsettled, rfl⟩ := ingestResult_ok hstep
      obtain rfl := (job_some hj).2
      have hopen := not_succeeded_of_active (activeStatus_of_inFlight hflight)
      intro c hc
      obtain hst | ⟨row, receipt, identityActive, -, -, -, hpromotion⟩ := hsettled.rows hs hj hopen
      · exact ⟨c, hst.current ▸ hc, rfl, le_rfl⟩
      · rw [hpromotion.current]
        refine ⟨_, mem_updateWhere.mpr ⟨c, hc, rfl⟩, ?_⟩
        split
        · rename_i hkey
          simp only [decide_eq_true_eq] at hkey
          exact ⟨rfl, hkey.2⟩
        · exact ⟨rfl, le_rfl⟩
    all_goals exact absurd rfl hquiet

theorem Recorded.ofItsRollout (h : Recorded s) (hs : Snapshots s) : OfItsRollout s := by
  intro c hc
  have hobserved := h.observed c hc
  refine ⟨hobserved.accepted, ?_⟩
  obtain ⟨hzero, hnone, -⟩ | ⟨r, hr, hgeneration, hversion, -⟩ := hobserved.source
  · exact .inl ⟨hzero, hnone⟩
  · refine .inr ⟨r, hr, hgeneration, hversion, ?_⟩
    intro q hq hsame
    exact hs.generations.eq_of_mem hq hr (hsame.trans hgeneration.symm)

/-- The binding of a superseded job should have more than the job brings. -/
theorem Superseded.desired (h : Recorded s) (hj : Superseded s j)
    (hc : s.currentOf j.intent.bindingId = some c) : j.intent.generation < c.desiredGeneration := by
  obtain ⟨d, hd, hbinding, r, hr, hid, hlt⟩ := hj
  obtain ⟨c', hc', hsame, hle⟩ := h.told d hd
  obtain ⟨hmem, hcid⟩ := currentOf_some hc
  have : c' = c := h.keys.eq_of_mem hc' hmem (by rw [hsame, hbinding, hcid])
  subst this
  exact lt_of_lt_of_le hlt (hle r hr hid)

theorem Recorded.olderIsOver (h : Recorded s) (hs : Snapshots s) : OlderIsOver cfg s := by
  intro j hj hsuperseded
  have hfound := hs.job_eq hj
  refine ⟨?_, ?_⟩
  · intro agentId authority
    rw [Option.eq_none_iff_forall_ne_some]
    intro t ht
    obtain ⟨i, hi, -, -, hcurrent, -⟩ := claimJob_ok ht
    have hij : i = j := Option.some.inj (hi.symm.trans hfound)
    subst hij
    unfold State.intentCurrent at hcurrent
    rw [Bool.and_eq_true] at hcurrent
    obtain ⟨d, hd, hcurrent⟩ := (Option.any_eq_true _ _).mp hcurrent.2
    obtain ⟨r, -, hcurrent⟩ := (Option.any_eq_true _ _).mp hcurrent
    obtain ⟨b, -, hcurrent⟩ := (Option.any_eq_true _ _).mp hcurrent
    obtain ⟨c, hc, hcurrent⟩ := (Option.any_eq_true _ _).mp hcurrent
    obtain ⟨v, -, hcurrent⟩ := (Option.any_eq_true _ _).mp hcurrent
    simp only [decide_eq_true_eq] at hcurrent
    have hdesired : c.desiredGeneration = i.intent.generation := hcurrent.2.2.2.2.2.2.2.1
    rw [(deployment_some hd).2.2] at hc
    have := hsuperseded.desired h hc
    omega
  · intro claimId jobStatus receipt fenceBusy t ht
    obtain ⟨i, u, hi, hflight, -, hsettled, rfl⟩ := ingestResult_ok ht
    have hij : i = j := Option.some.inj (hi.symm.trans hfound)
    subst hij
    have hopen := not_succeeded_of_active (activeStatus_of_inFlight hflight)
    obtain hst | ⟨row, receipt, identityActive, hrow, hadmissible, hpromotes, -⟩ :=
      hsettled.rows hs hfound hopen
    · exact hst.current
    · exfalso
      obtain ⟨-, hgeneration, -⟩ := admissible_ok hadmissible
      obtain ⟨hdeployment, hrollout, -, hcurrent, -⟩ := joined_ok hrow
      obtain ⟨-, hdr, hdb⟩ := deployment_some hdeployment
      rw [hdb] at hcurrent
      have hlt := hsuperseded.desired h hcurrent
      obtain ⟨e, he, -, -, q, hq, -, hintent⟩ := hs.owned i hj
      have hqr : q = row.rollout := by
        apply hs.rolloutKeys.eq_of_mem hq (rollout_some hrollout).1
        rw [(rollout_some hrollout).2, hdr, hintent]
        rfl
      have hsame : i.intent.generation = row.rollout.generation := by
        rw [hintent, hqr]
        rfl
      have := (promotes_ok hpromotes).1
      omega

theorem Recorded.convergedFresh (h : Recorded s) (hs : Snapshots s) : ConvergedFresh cfg s := by
  intro b hb hconverged
  unfold State.converged at hconverged
  obtain ⟨c, hc, hconverged⟩ := (Option.any_eq_true _ _).mp hconverged
  simp only [Bool.and_eq_true, decide_eq_true_eq] at hconverged
  obtain ⟨⟨⟨⟨⟨⟨-, hobservedVersion⟩, -⟩, -⟩, -⟩, hproved⟩, hfresh⟩ := hconverged
  obtain ⟨observedAt, hobservedAt, hfresh⟩ := (Option.any_eq_true _ _).mp hfresh
  have hfresh : s.now < observedAt + b.terms.freshnessSeconds * 1000 := by simpa using hfresh
  obtain ⟨hcmem, hcid⟩ := currentOf_some hc
  obtain ⟨-, -, hnone⟩ | ⟨r, hr, hgeneration, hversion, a, ha, hat, hbinding, j, hj, hjid, hjstatus,
    hjrollout, hjbinding⟩ := (h.observed c hcmem).source
  · rw [hnone] at hobservedAt
    cases hobservedAt
  · -- the consumer that proves it is the one whose job reported
    obtain ⟨d, hd, hproves⟩ := List.any_eq_true.mp hproved
    unfold State.proves at hproves
    obtain ⟨q, hq, hproves⟩ := (Option.any_eq_true _ _).mp hproves
    obtain ⟨v, -, hproves⟩ := (Option.any_eq_true _ _).mp hproves
    rw [Bool.and_eq_true, decide_eq_true_eq] at hproves
    obtain ⟨⟨hdb, hqgeneration, hrevision, -, -, -, hpolicy⟩, -⟩ := hproves
    obtain ⟨hqmem, hqid⟩ := rollout_some hq
    have hqr : q = r := hs.generations.eq_of_mem hqmem hr (hqgeneration.trans hgeneration.symm)
    subst hqr
    obtain ⟨e, he, -, -, p, hp, hpe, hintent⟩ := hs.owned j hj
    have hpq : p = q := by
      apply hs.rolloutKeys.eq_of_mem hp hqmem
      rw [← hjrollout, hintent]
      rfl
    subst hpq
    have hed : e = d := by
      apply hs.consumer_eq he hd
      · rw [← hpe, hqid]
      · rw [hdb, ← hcid, ← hjbinding, hintent]
        rfl
    subst hed
    rw [hat] at hobservedAt
    obtain rfl := Option.some.inj hobservedAt
    have hskew := (h.timed a ha).2
    refine ⟨a, ha, j, hj, c, hcmem, hjid, hjstatus, hjbinding.trans hcid, hcid, ?_, ?_, ?_, hfresh, ?_⟩
    · rw [hintent]
      exact hrevision
    · rw [hintent]
      exact hpolicy
    · rw [hversion] at hobservedVersion
      rw [hintent]
      exact Option.some.inj hobservedVersion
    · omega

/-- Along every run of a group, consumers only move to newer rollouts; in each of its
    states they are recorded with what they accepted, older rollouts are over, and a
    converged consumer has a fresh receipt behind it. -/
theorem recorded_state_moves_forward (cfg : Config) (s : State)
    (h : Reachable (system cfg) anyStep s) :
    OfItsRollout s ∧ OlderIsOver cfg s ∧ ConvergedFresh cfg s ∧
      ∀ t, Run (system cfg) anyStep s t → NeverOlder s t := by
  have hinv : Recorded s ∧ Snapshots s := by
    apply h.invariant (I := fun s => Recorded s ∧ Snapshots s)
    · intro s hs
      exact ⟨.init hs, .init hs⟩
    · intro s e t hs _ hstep
      exact ⟨hs.1.step hs.2 hstep, hs.2.step hstep⟩
  obtain ⟨hrecorded, hs⟩ := hinv
  refine ⟨hrecorded.ofItsRollout hs, hrecorded.olderIsOver hs, hrecorded.convergedFresh hs, ?_⟩
  intro t hrun
  induction hrun with
  | refl => exact .refl s
  | tail hrun _ hstep ih =>
    have hreach := h.run hrun
    exact ih.trans (.step (snapshots_of_reachable hreach) hstep)

/-- One consumer is served by a receipt that its agent dates half a minute ahead. -/
def demoServed (ms : Nat) : List Event :=
  [.createSnapshot 0 1 false true] ++ demoSweep 0 0 ++
    [.claimJob 0 7 true, .result 0 1 .succeeded (some (demoReceipt 0 30000)) false, .wait ms]

/-- An hour after the receipt the consumer is converged, and the receipt is behind it. -/
theorem recorded_state_moves_forward_demo : ∃ t, t.now = 3600010 ∧
    (t.bindings.any fun b => t.converged demoConfig b) = true ∧ ConvergedFresh demoConfig t := by
  have hplay : ∃ t, played (next demoConfig) (demoServed 3600010)
        (demoGroup (demoTerms true 0) (demoTerms true 1)) = some t ∧ t.now = 3600010 ∧
      (t.bindings.any fun b => t.converged demoConfig b) = true := by
    refine ⟨_, rfl, ?_⟩
    decide +kernel
  obtain ⟨t, ht, hnow, hconverged⟩ := hplay
  have hreach : Reachable (system demoConfig) anyStep t :=
    ⟨_, demoGroup_init _ _, .of_played (fun _ _ _ h => h) _ (fun _ _ _ => trivial) ht⟩
  exact ⟨t, hnow, hconverged, (recorded_state_moves_forward demoConfig t hreach).2.2.1⟩

/-- The consumer is converged an hour and ten milliseconds after its only receipt was
    accepted, with `freshness_seconds` an hour. -/
theorem converged_on_older_acceptance : ∃ t, Reachable (system demoConfig) anyStep t ∧
    ∃ b ∈ t.bindings, t.converged demoConfig b = true ∧
      ∀ a ∈ t.acceptances, a.acceptedAt + b.terms.freshnessSeconds * 1000 < t.now := by
  have hplay : ∃ t, played (next demoConfig) (demoServed 3600010)
        (demoGroup (demoTerms true 0) (demoTerms true 1)) = some t ∧
      ∃ b ∈ t.bindings, t.converged demoConfig b = true ∧
        ∀ a ∈ t.acceptances, a.acceptedAt + b.terms.freshnessSeconds * 1000 < t.now := by
    refine ⟨_, rfl, ?_⟩
    decide +kernel
  obtain ⟨t, ht, hlate⟩ := hplay
  exact ⟨t, ⟨_, demoGroup_init _ _, .of_played (fun _ _ _ h => h) _ (fun _ _ _ => trivial) ht⟩, hlate⟩

end TokenTimer.Distribution
