/-
  TokenTimer.Distribution.PublicationSafety — one publication of a group at a time, and
  what becomes of a group whose publication is not resolved.

  A version is allocated with its job and resolved by a receipt, or by the rejection or
  cancellation of a job that was never claimed.  A job that ends any other way keeps its
  version allocated: it is retried, at most three claims in all, or the group stays fenced.

  Main results:
    * `publication_exclusive` — at most one unresolved version; a published version never
        changes; what blocks a refused publication, and the runs
        that resolve it.
    * `Wedged.run` — and does so in every run from there on.
-/

import TokenTimer.Distribution.Publication

namespace TokenTimer.Publication

open Lib.Runs Lib.Table TokenTimer.CertOps

variable {cfg : Config} {s t u : State} {j k : Job} {v w : Version}

/-! ## §1. What a transaction does. -/

/-- A job that no operation takes up again. -/
def Job.ended (j : Job) : Bool :=
  isTerminalJobStatus j.status && !(retryable j.status && decide (j.attemptCount < 3))

structure Job.Ok (cfg : Config) (j : Job) : Prop where
  resolved : ∀ versions, resolveDistributionJobDefaults cfg.group versions j.operation j.subjectId
    j.payload.publication (some j.assignedAgentId) none = .ok cfg.group.issuerAgentId
  issuer : j.assignedAgentId = cfg.group.issuerAgentId
  approval : j.approvalStale cfg = false
  fresh : j.attemptCount = 0 → j.claimId = none ∧ j.claimedByAgentId = none ∧ j.startedAt = none ∧
    j.leaseExpiresAt = none ∧ j.leaseRenewedAt = none
  held : j.status.inFlight = true → 0 < j.attemptCount ∧ j.claimId.isSome = true ∧
    j.claimedByAgentId = some j.assignedAgentId ∧ j.leaseExpiresAt.isSome = true
  plain : j.status ≠ .approved ∧ j.status ≠ .awaitingIssuer
  mode : j.payload.mode = .real → j.status ≠ .dryRunComplete

def Publishes (j : Job) (s : State) (versions : List Version) : Prop :=
  ∃ current ∈ s.versions, current.id = j.payload.publication.materialVersionId ∧
    current.publishingJobId = j.id ∧
    ((current.state = .published ∧ versions = s.versions) ∨
      (current.state ≠ .published ∧ ∃ receipt, versions =
        updateWhere (fun v => v.id = current.id) (Version.publish j.claimId receipt) s.versions))

/-- A transaction over one job. -/
structure Touch (cfg : Config) (s : State) (j k : Job) (versions : List Version) : Prop where
  mem : j ∈ s.jobs
  id : k.id = j.id
  payload : k.payload = j.payload
  ok : j.Ok cfg → k.Ok cfg
  going : j.ended = false
  versions : (k.status ≠ .succeeded ∧ versions = s.versions) ∨ Publishes j s versions

/-- Every transaction waits, creates a job or touches one. -/
inductive Acts (cfg : Config) (s t : State) : Prop
  | wait (jobs : t.jobs = s.jobs) (versions : t.versions = s.versions)
      (ids : t.nextJobId = s.nextJobId)
  | create (request : Request) (h : createCertificateJob cfg request s = .ok t)
  | touch (j k : Job) (versions : List Version) (t' : State) (h : Touch cfg s j k versions)
      (set : State.setJob { s with versions } k = some t') (jobs : t.jobs = t'.jobs)
      (rows : t.versions = t'.versions) (ids : t.nextJobId = t'.nextJobId)

variable {status : JobStatus} {versions : List Version} {agentId claimId id lease : Nat}
  {request : Request}

theorem job_some (h : s.job id = some j) : j ∈ s.jobs ∧ j.id = id := by
  have hj := selectOne_some h
  exact ⟨hj.1, of_decide_eq_true hj.2⟩

theorem setJob_ok (h : s.setJob k = some t) :
    t.jobs = replaceByKey Job.id k s.jobs ∧ t.nextJobId = s.nextJobId ∧ t.now = s.now ∧
    t.nextClaimId = s.nextClaimId ∧
    t.versions = if k.unexecuted = true then
      updateWhere (fun v => v.publishingJobId = k.id ∧ v.state = .allocated ∧ v.publishingClaimId = none)
        (Version.released k.status) s.versions else s.versions := by
  unfold State.setJob at h
  by_cases hk : k.unexecuted = true
  · simp only [hk, if_true] at h ⊢
    unfold updateVersions at h
    split at h
    · cases h
      exact ⟨rfl, rfl, rfl, rfl, rfl⟩
    · cases h
  · simp only [hk] at h ⊢
    cases h
    exact ⟨rfl, rfl, rfl, rfl, rfl⟩

/-- The release of an allocation passes the guard of the versions. -/
theorem setJob_isSome (s : State) (k : Job) : ∃ t, s.setJob k = some t := by
  unfold State.setJob
  by_cases hk : k.unexecuted = true
  · have hguard : (s.versions.all fun v =>
        !decide (v.publishingJobId = k.id ∧ v.state = .allocated ∧ v.publishingClaimId = none) ||
          v.mayBecome (v.released k.status)) = true := by
      rw [List.all_eq_true]
      intro v _
      by_cases hv : v.publishingJobId = k.id ∧ v.state = .allocated ∧ v.publishingClaimId = none
      · simp [Version.mayBecome, Version.released, hv]
      · simp [hv]
    simp only [hk, if_true, updateVersions, hguard]
    exact ⟨_, rfl⟩
  · exact ⟨{ s with jobs := replaceByKey Job.id k s.jobs }, by simp [hk]⟩

/-- A job that is touched without a receipt. -/
theorem Acts.of_setJob (h : s.setJob k = some t) (hj : s.job id = some j) (hid : k.id = j.id)
    (hpayload : k.payload = j.payload) (hok : j.Ok cfg → k.Ok cfg) (hgoing : j.ended = false)
    (hstatus : k.status ≠ .succeeded) : Acts cfg s t :=
  .touch j k s.versions t ⟨(job_some hj).1, hid, hpayload, hok, hgoing, .inl ⟨hstatus, rfl⟩⟩ h rfl rfl rfl

theorem going_of_not_terminal (h : isTerminalJobStatus j.status = false) : j.ended = false := by
  simp [Job.ended, h]

theorem ended_of_closed (h : j.status = .cancelled ∨ j.status = .rejected) : j.ended = true := by
  obtain h | h := h <;> simp [Job.ended, h, isTerminalJobStatus, retryable]

theorem not_terminal_of_inFlight (h : status.inFlight = true) :
    isTerminalJobStatus status = false := by
  cases status <;> first | rfl | cases h

/-! ## §2. Each operation. -/

theorem Job.Ok.approve (hok : j.Ok cfg) : (j.approve cfg).Ok cfg :=
  { hok with
    approval := by simp [Job.approvalStale, Job.approve]
    held := fun hheld => by cases hheld
    plain := by simp [Job.approve]
    mode := by simp [Job.approve] }

theorem Job.Ok.invalidated (hok : j.Ok cfg) : j.invalidated.Ok cfg :=
  { hok with
    approval := by simp [Job.approvalStale, Job.invalidated]
    held := fun hheld => by cases hheld
    plain := by simp [Job.invalidated]
    mode := by simp [Job.invalidated] }

theorem Job.Ok.claimed (hok : j.Ok cfg) :
    (j.claimed j.assignedAgentId claimId lease).Ok cfg :=
  { hok with
    fresh := fun hzero => by simp [Job.claimed] at hzero
    held := fun _ => by simp [Job.claimed]
    plain := by simp [Job.claimed]
    mode := by simp [Job.claimed] }

theorem Job.Ok.renewed {now : Nat} (hok : j.Ok cfg) (hflight : j.status.inFlight = true) :
    (j.renewed now lease).Ok cfg :=
  { hok with
    fresh := fun hzero => absurd hzero (Nat.pos_iff_ne_zero.mp (hok.held hflight).1)
    held := fun _ => ⟨(hok.held hflight).1, (hok.held hflight).2.1, (hok.held hflight).2.2.1, rfl⟩
    plain := by simp [Job.renewed]
    mode := by simp [Job.renewed] }

theorem reportable_ends {mode : JobMode} (h : reportable mode status = true) :
    status.inFlight = false ∧ status ≠ .approved ∧ status ≠ .awaitingIssuer ∧
    (mode = .real → status ≠ .dryRunComplete) := by
  revert h
  cases mode <;> cases status <;> decide

theorem Job.Ok.settled (hok : j.Ok cfg) (hflight : j.status.inFlight = true)
    (hreport : reportable j.payload.mode status = true) : (j.settled status).Ok cfg :=
  have hends := reportable_ends hreport
  { hok with
    fresh := fun hzero => absurd hzero (Nat.pos_iff_ne_zero.mp (hok.held hflight).1)
    held := fun hheld => by
      simp only [Job.settled] at hheld
      rw [hends.1] at hheld
      cases hheld
    plain := ⟨hends.2.1, hends.2.2.1⟩
    mode := hends.2.2.2 }

theorem reaped_status : j.reaped.status = .orphanedUnknownEffect ∨ j.reaped.status = .pending ∨
    j.reaped.status = .failed := by
  unfold Job.reaped
  split
  · exact .inl rfl
  · by_cases hbudget : j.attemptCount < j.maxAttempts.getD 3
    · simp [hbudget]
    · simp [hbudget]

/-- The columns the reaper leaves alone. -/
theorem reaped_kept : j.reaped.id = j.id ∧ j.reaped.payload = j.payload ∧
    j.reaped.operation = j.operation ∧ j.reaped.subjectId = j.subjectId ∧
    j.reaped.assignedAgentId = j.assignedAgentId ∧
    j.reaped.approvedPayloadHash = j.approvedPayloadHash ∧ j.reaped.attemptCount = j.attemptCount := by
  unfold Job.reaped
  split <;> exact ⟨rfl, rfl, rfl, rfl, rfl, rfl, rfl⟩

theorem Job.Ok.reaped (hok : j.Ok cfg) (hflight : j.status.inFlight = true) : j.reaped.Ok cfg := by
  obtain ⟨-, hpayload, hoperation, hsubject, hagent, happroved, hattempts⟩ := reaped_kept (j := j)
  have hstatus : j.reaped.status.inFlight = false ∧ j.reaped.status ≠ .approved ∧
      j.reaped.status ≠ .awaitingIssuer ∧ j.reaped.status ≠ .dryRunComplete := by
    obtain h | h | h := reaped_status (j := j) <;> rw [h] <;> decide
  have hpos := (hok.held hflight).1
  exact
    { resolved := by
        rw [hoperation, hsubject, hpayload, hagent]
        exact hok.resolved
      issuer := hagent.trans hok.issuer
      approval := by
        unfold Job.approvalStale
        rw [happroved, hpayload]
        exact hok.approval
      fresh := fun hzero => absurd (hattempts ▸ hzero) (Nat.pos_iff_ne_zero.mp hpos)
      held := fun hheld => by simp [hstatus.1] at hheld
      plain := ⟨hstatus.2.1, hstatus.2.2.1⟩
      mode := fun _ => hstatus.2.2.2 }

theorem Job.Ok.retried (hok : j.Ok cfg) (hstatus : status = .pending ∨ status = .pendingApproval) :
    (j.retried status).Ok cfg :=
  { hok with
    fresh := fun _ => ⟨rfl, rfl, rfl, rfl, rfl⟩
    held := fun hheld => by obtain rfl | rfl := hstatus <;> cases hheld
    plain := by obtain rfl | rfl := hstatus <;> simp [Job.retried]
    mode := by obtain rfl | rfl := hstatus <;> simp [Job.retried] }

theorem approveJob_acts (h : approveJob cfg id s = some t) : Acts cfg s t := by
  obtain ⟨j, hj, h⟩ := Option.bind_eq_some_iff.mp h
  split at h
  · rename_i hstatus
    have hgoing : j.ended = false := going_of_not_terminal (by simp [hstatus, isTerminalJobStatus])
    exact .of_setJob h hj rfl rfl .approve hgoing (by simp [Job.approve])
  · cases h

theorem endJob_acts (h : endJob id status s = some t) :
    Acts cfg s t := by
  obtain ⟨j, hj, h⟩ := Option.bind_eq_some_iff.mp h
  obtain ⟨hguard, h⟩ := Option.ite_none_right_eq_some.mp h
  have hfrom : isTerminalJobStatus j.status = false := by
    revert hguard
    cases j.status <;> cases status <;> decide
  have hto : isTerminalJobStatus status = true ∧ status.inFlight = false ∧ status ≠ .succeeded ∧
      status ≠ .approved ∧ status ≠ .awaitingIssuer ∧ status ≠ .dryRunComplete := by
    revert hguard
    cases j.status <;> cases status <;> decide
  refine .of_setJob h hj rfl rfl ?_ (going_of_not_terminal hfrom) hto.2.2.1
  intro hok
  exact
    { hok with
      held := fun hheld => by simp [hto.2.1] at hheld
      plain := ⟨hto.2.2.2.1, hto.2.2.2.2.1⟩
      mode := fun _ => hto.2.2.2.2.2 }

theorem dispatchable_going {now : Nat} (h : j.dispatchable now agentId = true) :
    j.ended = false := by
  apply going_of_not_terminal
  simp only [Job.dispatchable, Bool.or_eq_true, Bool.and_eq_true, decide_eq_true_eq] at h
  obtain hpending | ⟨⟨⟨⟨hclaimed, -⟩, -⟩, -⟩, -⟩ := h
  · simp [hpending, isTerminalJobStatus]
  · simp [hclaimed, isTerminalJobStatus]

theorem claimJob_acts {admitted : Bool} (h : claimJob cfg id agentId admitted s = some t) :
    Acts cfg s t := by
  obtain ⟨j, hj, h⟩ := Option.bind_eq_some_iff.mp h
  split at h
  · rename_i hguard
    simp only [Bool.and_eq_true, decide_eq_true_eq] at hguard
    obtain ⟨⟨⟨-, hdispatchable⟩, hagent⟩, -⟩ := hguard
    have hgoing := dispatchable_going hdispatchable
    split at h
    · exact .of_setJob h hj rfl rfl .invalidated hgoing (by simp [Job.invalidated])
    · obtain ⟨t', hset, rfl⟩ := Option.map_eq_some_iff.mp h
      subst hagent
      exact .touch j (j.claimed j.assignedAgentId s.nextClaimId (s.now + cfg.jobLeaseMs)) s.versions t'
        ⟨(job_some hj).1, rfl, rfl, .claimed, hgoing, .inl ⟨by simp [Job.claimed], rfl⟩⟩ hset rfl rfl rfl
  · cases h

theorem renewLease_acts {admitted : Bool} (h : renewLease cfg id claimId admitted s = some t) :
    Acts cfg s t := by
  obtain ⟨j, hj, h⟩ := Option.bind_eq_some_iff.mp h
  split at h
  · rename_i hguard
    simp only [Bool.and_eq_true, decide_eq_true_eq] at hguard
    obtain ⟨⟨⟨⟨-, hflight⟩, -⟩, -⟩, -⟩ := hguard
    have hgoing := going_of_not_terminal (not_terminal_of_inFlight hflight)
    exact .of_setJob h hj rfl rfl (fun hok => hok.renewed hflight) hgoing (by simp [Job.renewed])
  · cases h

theorem acceptPublicationReceipt_ok {receipt : Receipt} {leaf : Leaf} {recorded : Bool}
    (h : acceptPublicationReceipt cfg j agentId receipt leaf recorded s = some versions) :
    Publishes j s versions := by
  obtain ⟨-, h⟩ := Option.ite_none_left_eq_some.mp h
  obtain ⟨current, hcurrent, h⟩ := Option.bind_eq_some_iff.mp h
  have hmem := selectOne_some hcurrent
  obtain ⟨hguard, h⟩ := Option.ite_none_right_eq_some.mp h
  simp only [Bool.and_eq_true, Receipt.belongs, decide_eq_true_eq] at hguard
  refine ⟨current, hmem.1, of_decide_eq_true hmem.2, hguard.1.1.2.2.2.1, ?_⟩
  by_cases hstate : current.state = .published
  · simp only [hstate, if_true] at h
    split at h
    · cases h
      exact .inl ⟨hstate, rfl⟩
    · cases h
  · simp only [hstate, if_false] at h
    split at h
    · unfold updateVersions at h
      obtain ⟨-, rfl⟩ := of_guard h
      exact .inr ⟨hstate, receipt, rfl⟩
    · cases h

theorem ingestResult_acts {receipt : Receipt} {leaf : Leaf} {recorded : Bool}
    (h : ingestResult cfg id agentId claimId status receipt leaf recorded s = some t) :
    Acts cfg s t := by
  obtain ⟨j, hj, h⟩ := Option.bind_eq_some_iff.mp h
  split at h
  · rename_i hguard
    simp only [Bool.and_eq_true, decide_eq_true_eq] at hguard
    obtain ⟨⟨-, hflight⟩, hreport⟩ := hguard
    obtain ⟨versions, hversions, hset⟩ := Option.bind_eq_some_iff.mp h
    refine .touch j (j.settled status) versions t ⟨(job_some hj).1, rfl, rfl,
      fun hok => hok.settled hflight hreport,
      going_of_not_terminal (not_terminal_of_inFlight hflight), ?_⟩ hset rfl rfl rfl
    by_cases hstatus : status = .succeeded
    · rw [if_pos hstatus] at hversions
      exact .inr (acceptPublicationReceipt_ok hversions)
    · rw [if_neg hstatus] at hversions
      cases hversions
      exact .inl ⟨hstatus, rfl⟩
  · cases h

theorem reap_acts (h : reap id s = some t) : Acts cfg s t := by
  obtain ⟨j, hj, h⟩ := Option.bind_eq_some_iff.mp h
  split at h
  · rename_i hguard
    simp only [Bool.and_eq_true] at hguard
    have hstatus : j.reaped.status ≠ .succeeded := by
      obtain h | h | h := reaped_status (j := j) <;> rw [h] <;> decide
    have hgoing := going_of_not_terminal (not_terminal_of_inFlight hguard.1)
    exact .of_setJob h hj reaped_kept.1 reaped_kept.2.1 (fun hok => hok.reaped hguard.1) hgoing hstatus
  · cases h

theorem retryDistributionJob_acts {approvalAlways : Bool}
    (h : retryDistributionJob cfg id approvalAlways s = some t) : Acts cfg s t := by
  obtain ⟨j, hj, h⟩ := Option.bind_eq_some_iff.mp h
  split at h
  · cases h
  rename_i hguard
  split at h
  · cases h
  simp only [Bool.or_eq_true, Bool.not_eq_true', decide_eq_true_eq, not_or, Bool.not_eq_false,
    not_le] at hguard
  have hgoing : j.ended = false := by simp [Job.ended, hguard]
  by_cases happroval : (approvalAlways && j.approvedPayloadHash.isNone) = true
  · rw [if_pos happroval] at h
    exact .of_setJob h hj rfl rfl (fun hok => hok.retried (.inr rfl)) hgoing (by simp [Job.retried])
  · rw [if_neg happroval] at h
    exact .of_setJob h hj rfl rfl (fun hok => hok.retried (.inl rfl)) hgoing (by simp [Job.retried])

/-- Every transaction waits, creates a job or touches one. -/
theorem next_acts {e : Event} (h : next cfg s e = some t) : Acts cfg s t := by
  cases e
  case createCertificateJob request admitted =>
    dsimp only [next] at h
    split at h
    · cases hcreate : createCertificateJob cfg request s with
      | error code =>
        rw [hcreate] at h
        cases h
      | ok t' =>
        rw [hcreate] at h
        cases h
        exact .create request hcreate
    · cases h
  case approveJob => exact approveJob_acts h
  case endJob => exact endJob_acts h
  case claimJob => exact claimJob_acts h
  case renewLease => exact renewLease_acts h
  case ingestResult => exact ingestResult_acts h
  case reap => exact reap_acts h
  case retryDistributionJob => exact retryDistributionJob_acts h
  case wait ms =>
    cases h
    exact .wait rfl rfl rfl

/-! ## §3. The tables stay consistent. -/

theorem resolve_ok {operation : JobOperation} {subjectId : Nat} {intent : Intent}
    {assigned jobId : Option Nat}
    (h : resolveDistributionJobDefaults cfg.group versions operation subjectId intent assigned jobId = .ok agentId) :
    agentId = cfg.group.issuerAgentId ∧ intent.groupId = cfg.group.id ∧
    intent.provider = cfg.group.materialStoreProvider ∧
    intent.managementPeriodId = cfg.group.managementPeriodId ∧
    intent.profileRevision = cfg.group.profileRevision ∧
    ∀ versions, resolveDistributionJobDefaults cfg.group versions operation subjectId intent
      (some agentId) none = .ok agentId := by
  unfold resolveDistributionJobDefaults at h
  split at h
  · cases h
  rename_i hgroup
  split at h
  · cases h
  rename_i hprovider
  split at h
  · cases h
  rename_i hassigned
  split at h
  · cases h
  rename_i hintent
  split at h
  · cases h
  cases h
  simp only [not_or, not_not] at hintent
  obtain ⟨hoperation, hagent, hrest⟩ := hintent
  refine ⟨hagent.symm, not_not.mp hgroup, not_not.mp hprovider, hrest.1.symm, hrest.2.2.symm, ?_⟩
  intro versions
  unfold resolveDistributionJobDefaults
  rw [if_neg hgroup, if_neg hprovider, if_neg hassigned, if_neg, if_neg (by simp)]
  · rfl
  · simp only [not_or, not_not]
    exact ⟨hoperation, hagent, hrest⟩

theorem Job.Ok.resolves (hok : j.Ok cfg) (hv : v ∈ s.versions) (hjob : v.publishingJobId = j.id)
    (hid : v.id = j.payload.publication.materialVersionId) (hstate : v.state.workable = true) :
    s.resolves cfg j = true := by
  have hnone := hok.resolved s.versions
  have hversion : (s.versions.any fun v => decide (v.id = j.payload.publication.materialVersionId ∧
      v.publishingJobId = j.id) && v.state.workable) = true := by
    rw [List.any_eq_true]
    exact ⟨v, hv, by simp [hjob, hid, hstate]⟩
  unfold State.resolves
  unfold resolveDistributionJobDefaults at hnone ⊢
  simp only [Option.any_none, Bool.false_eq_true, if_false] at hnone
  simp only [Option.any_some, hversion, Bool.not_true, Bool.false_eq_true, if_false, hnone]
  rfl

structure Version.Ok (cfg : Config) (v : Version) : Prop where
  states : v.state = .allocated ∨ v.state = .published ∨ v.state = .failed
  unclaimed : v.state = .allocated → v.publishingClaimId = none
  revision : v.profileRevision = cfg.group.profileRevision

structure Pair (j : Job) (v : Version) : Prop where
  job : v.publishingJobId = j.id
  version : v.id = j.payload.publication.materialVersionId
  /-- A job that succeeded, or ended before it was claimed, has resolved its version. -/
  outstanding : v.state = .allocated → j.status ≠ .succeeded ∧
    (j.status = .cancelled ∨ j.status = .rejected → 0 < j.attemptCount)
  released : v.state = .failed → j.status = .cancelled ∨ j.status = .rejected

/-- The tables of a group. -/
structure Consistent (cfg : Config) (s : State) : Prop where
  jobKeys : KeyNodup Job.id s.jobs
  jobIds : ∀ j ∈ s.jobs, j.id < s.nextJobId
  jobs : ∀ j ∈ s.jobs, j.Ok cfg
  versionKeys : KeyNodup Version.id s.versions
  versions : ∀ v ∈ s.versions, v.Ok cfg
  pairs : ∀ v ∈ s.versions, ∃ j ∈ s.jobs, Pair j v
  one : ∀ v ∈ s.versions, ∀ w ∈ s.versions, v.state.unresolved = true → w.state.unresolved = true →
    v = w

theorem Consistent.init (h : Init s) : Consistent cfg s where
  jobKeys := by
    rw [h.jobs]
    exact List.nodup_nil
  jobIds := by simp [h.jobs]
  jobs := by simp [h.jobs]
  versionKeys := by
    rw [h.versions]
    exact List.nodup_nil
  versions := by simp [h.versions]
  pairs := by simp [h.versions]
  one := by simp [h.versions]

/-- The version of a new job. -/
theorem allocateMaterialVersion_ok {versions' : List Version}
    (hfresh : ∀ w ∈ versions, w.publishingJobId ≠ j.id)
    (h : allocateMaterialVersion cfg.group j versions = .ok versions') :
    ∃ v : Version, versions' = versions ++ [v] ∧ v.id = j.payload.publication.materialVersionId ∧
      v.publishingJobId = j.id ∧ v.state = .allocated ∧ v.Ok cfg ∧
      ∀ w ∈ versions, w.state.unresolved = false ∧ w.id ≠ v.id := by
  unfold allocateMaterialVersion at h
  dsimp only at h
  split at h
  · cases h
  split at h
  · cases h
  rename_i hintent
  split at h
  · cases h
  rename_i hpending
  split at h
  · rename_i hown
    obtain ⟨w, hw, heq⟩ := List.any_eq_true.mp hown
    exact absurd (of_decide_eq_true heq) (hfresh w hw)
  split at h
  · cases h
  rename_i hkey
  cases h
  refine ⟨_, rfl, rfl, rfl, rfl, ⟨.inl rfl, fun _ => rfl, ?_⟩, ?_⟩
  · by_contra hne
    exact hintent (.inr (.inr (.inr (.inr (.inl (Ne.symm hne))))))
  · intro w hw
    constructor
    · by_contra hunresolved
      apply hpending
      rw [List.any_eq_true]
      exact ⟨w, hw, by simp [Bool.not_eq_false _ ▸ hunresolved, hfresh w hw]⟩
    · intro heq
      apply hkey
      rw [List.any_eq_true]
      exact ⟨w, hw, decide_eq_true heq⟩

/-- A new job, from what its checks came to. -/
theorem Request.job_ok {assigned : Option Nat}
    (h : resolveDistributionJobDefaults cfg.group versions request.operation request.subjectId request.payload.publication assigned none = .ok agentId) :
    (request.job id agentId).Ok cfg := by
  obtain ⟨hissuer, -, -, -, -, hall⟩ := resolve_ok h
  have hstatus : (request.job id agentId).status = .pendingApproval ∨
      (request.job id agentId).status = .pending := by
    by_cases happroval : request.requiresApproval <;> simp [Request.job, happroval]
  exact
    { resolved := fun versions => hissuer ▸ hall versions
      issuer := hissuer
      approval := rfl
      fresh := fun _ => ⟨rfl, rfl, rfl, rfl, rfl⟩
      held := fun hheld => by obtain h | h := hstatus <;> rw [h] at hheld <;> cases hheld
      plain := by obtain h | h := hstatus <;> rw [h] <;> decide
      mode := fun _ => by obtain h | h := hstatus <;> rw [h] <;> decide }

theorem Consistent.fresh_job (h : Consistent cfg s) (hw : w ∈ s.versions) :
    w.publishingJobId < s.nextJobId := by
  obtain ⟨j, hj, hpair⟩ := h.pairs w hw
  rw [hpair.job]
  exact h.jobIds j hj

/-- A new publication: its rows, and what it was not refused for. -/
theorem createCertificateJob_ok (hs : Consistent cfg s) (h : createCertificateJob cfg request s = .ok t) :
    ∃ (agentId : Nat) (v : Version), (request.job s.nextJobId agentId).Ok cfg ∧
      t = { s with
        jobs := s.jobs ++ [request.job s.nextJobId agentId]
        versions := s.versions ++ [v], nextJobId := s.nextJobId + 1 } ∧
      v.id = request.payload.publication.materialVersionId ∧ v.publishingJobId = s.nextJobId ∧
      v.state = .allocated ∧ v.Ok cfg ∧
      ∀ w ∈ s.versions, w.state.unresolved = false ∧ w.id ≠ v.id := by
  unfold createCertificateJob at h
  cases hresolve : resolveDistributionJobDefaults cfg.group s.versions request.operation
      request.subjectId request.payload.publication request.assignedAgentId none with
  | error code =>
    rw [hresolve] at h
    cases h
  | ok agentId =>
    rw [hresolve] at h
    simp only [bind, Except.bind, pure, Except.pure] at h
    cases hallocate : allocateMaterialVersion cfg.group (request.job s.nextJobId agentId) s.versions with
    | error code =>
      rw [hallocate] at h
      cases h
    | ok versions =>
      rw [hallocate] at h
      cases h
      obtain ⟨v, rfl, hv⟩ := allocateMaterialVersion_ok
        (fun w hw => Nat.ne_of_lt (hs.fresh_job hw)) hallocate
      exact ⟨agentId, v, Request.job_ok hresolve, rfl, hv⟩

theorem Consistent.create (hs : Consistent cfg s) (h : createCertificateJob cfg request s = .ok t) :
    Consistent cfg t := by
  obtain ⟨agentId, v, hjob, rfl, hid, hpublishing, hstate, hv, hrest⟩ := createCertificateJob_ok hs h
  have hstatus : (request.job s.nextJobId agentId).status ≠ .succeeded ∧
      (request.job s.nextJobId agentId).status ≠ .cancelled ∧
      (request.job s.nextJobId agentId).status ≠ .rejected := by
    by_cases happroval : request.requiresApproval <;> simp [Request.job, happroval]
  constructor
  case jobKeys =>
    apply keyNodup_append_singleton hs.jobKeys
    intro j hj
    exact Nat.ne_of_lt (hs.jobIds j hj)
  case jobIds =>
    intro j hj
    rw [List.mem_append, List.mem_singleton] at hj
    obtain hj | rfl := hj
    · exact Nat.lt_succ_of_lt (hs.jobIds j hj)
    · exact Nat.lt_succ_self _
  case jobs =>
    intro j hj
    rw [List.mem_append, List.mem_singleton] at hj
    obtain hj | rfl := hj
    · exact hs.jobs j hj
    · exact hjob
  case versionKeys => exact keyNodup_append_singleton hs.versionKeys fun w hw => (hrest w hw).2
  case versions =>
    intro w hw
    rw [List.mem_append, List.mem_singleton] at hw
    obtain hw | rfl := hw
    · exact hs.versions w hw
    · exact hv
  case pairs =>
    intro w hw
    rw [List.mem_append, List.mem_singleton] at hw
    obtain hw | rfl := hw
    · obtain ⟨j, hj, hpair⟩ := hs.pairs w hw
      exact ⟨j, List.mem_append_left _ hj, hpair⟩
    · refine ⟨_, List.mem_append_right _ (List.mem_singleton_self _), hpublishing, hid, ?_, ?_⟩
      · intro _
        refine ⟨hstatus.1, ?_⟩
        intro hended
        obtain h | h := hended
        · exact absurd h hstatus.2.1
        · exact absurd h hstatus.2.2
      · intro hfailed
        rw [hstate] at hfailed
        cases hfailed
  case one =>
    intro x hx y hy hux huy
    rw [List.mem_append, List.mem_singleton] at hx hy
    obtain hx | rfl := hx
    · rw [(hrest x hx).1] at hux
      cases hux
    · obtain hy | rfl := hy
      · rw [(hrest y hy).1] at huy
        cases huy
      · rfl

theorem mem_touched (h : s.setJob k = some t) (hj : j ∈ t.jobs) :
    (j ∈ s.jobs ∧ j.id ≠ k.id) ∨ j = k := by
  rw [(setJob_ok h).1, mem_replaceByKey] at hj
  obtain hj | ⟨rfl, -⟩ := hj
  · exact .inl hj
  · exact .inr rfl

theorem mem_versions_setJob (h : s.setJob k = some t) (hw : w ∈ t.versions) :
    ∃ v ∈ s.versions, (w = v ∧ (k.unexecuted = true → v.publishingJobId = k.id → v.state = .allocated →
        v.publishingClaimId ≠ none)) ∨
      (w = v.released k.status ∧ v.publishingJobId = k.id ∧
        (k.status = .cancelled ∨ k.status = .rejected)) := by
  rw [(setJob_ok h).2.2.2.2] at hw
  by_cases hk : k.unexecuted = true
  · rw [if_pos hk] at hw
    obtain ⟨v, hv, heq⟩ := mem_updateWhere.mp hw
    refine ⟨v, hv, ?_⟩
    by_cases hmatch : v.publishingJobId = k.id ∧ v.state = .allocated ∧ v.publishingClaimId = none
    · rw [if_pos (decide_eq_true hmatch)] at heq
      simp only [Job.unexecuted, Bool.and_eq_true, Bool.or_eq_true, decide_eq_true_eq] at hk
      exact .inr ⟨heq.symm, hmatch.1, hk.1.1.1.1.1.1.symm⟩
    · rw [if_neg (by simpa using hmatch)] at heq
      refine .inl ⟨heq.symm, ?_⟩
      intro _ hjob hstate hclaim
      exact hmatch ⟨hjob, hstate, hclaim⟩
  · rw [if_neg hk] at hw
    exact ⟨w, hw, .inl ⟨rfl, fun h => absurd h hk⟩⟩

theorem Job.Ok.unexecuted (hok : k.Ok cfg) (hstatus : k.status = .cancelled ∨ k.status = .rejected)
    (hzero : k.attemptCount = 0) : k.unexecuted = true := by
  obtain ⟨hclaim, hagent, hstarted, hlease, hrenewed⟩ := hok.fresh hzero
  obtain hstatus | hstatus := hstatus <;>
    simp [Job.unexecuted, hstatus, hzero, hclaim, hagent, hstarted, hlease, hrenewed]

theorem Consistent.setJob (hs : Consistent cfg s) (hj : j ∈ s.jobs) (hgoing : j.ended = false)
    (hid : k.id = j.id) (hpayload : k.payload = j.payload) (hok : k.Ok cfg)
    (hdone : k.status = .succeeded → ∀ w ∈ s.versions, w.publishingJobId = k.id → w.state ≠ .allocated)
    (h : s.setJob k = some t) : Consistent cfg t := by
  obtain ⟨hjobs, hnext, -, -, hversions⟩ := setJob_ok h
  constructor
  case jobKeys =>
    rw [hjobs]
    exact keyNodup_replaceByKey hs.jobKeys
  case jobIds =>
    intro x hx
    rw [hnext]
    obtain ⟨hx, -⟩ | rfl := mem_touched h hx
    · exact hs.jobIds x hx
    · rw [hid]
      exact hs.jobIds j hj
  case jobs =>
    intro x hx
    obtain ⟨hx, -⟩ | rfl := mem_touched h hx
    · exact hs.jobs x hx
    · exact hok
  case versionKeys =>
    rw [hversions]
    split
    · exact keyNodup_updateWhere (fun _ => rfl) hs.versionKeys
    · exact hs.versionKeys
  case versions =>
    intro w hw
    obtain ⟨v, hv, ⟨rfl, -⟩ | ⟨rfl, -, -⟩⟩ := mem_versions_setJob h hw
    · exact hs.versions w hv
    · exact ⟨.inr (.inr rfl), (fun h => by cases h), (hs.versions v hv).revision⟩
  case pairs =>
    intro w hw
    obtain ⟨v, hv, hcase⟩ := mem_versions_setJob h hw
    obtain ⟨x, hx, hpair⟩ := hs.pairs v hv
    by_cases hkx : x.id = k.id
    · have hxj : x = j := hs.jobKeys.eq_of_mem hx hj (hkx.trans hid)
      subst hxj
      refine ⟨k, ?_, ?_⟩
      · rw [hjobs, mem_replaceByKey]
        exact .inr ⟨rfl, x, hx, hkx⟩
      · obtain ⟨rfl, hkept⟩ | ⟨rfl, -, hended⟩ := hcase
        · have hjob : w.publishingJobId = k.id := hpair.job.trans hkx
          refine ⟨hjob, hpayload ▸ hpair.version, ?_, ?_⟩
          · intro hstate
            refine ⟨fun hsucceeded => hdone hsucceeded w hv hjob hstate, ?_⟩
            intro hended
            by_contra hzero
            have hunexecuted := hok.unexecuted hended (Nat.eq_zero_of_not_pos hzero)
            exact hkept hunexecuted hjob hstate ((hs.versions w hv).unclaimed hstate)
          · intro hstate
            rw [ended_of_closed (hpair.released hstate)] at hgoing
            cases hgoing
        · exact ⟨hpair.job.trans hkx, hpayload ▸ hpair.version, (fun hstate => by cases hstate),
            fun _ => hended⟩
    · refine ⟨x, ?_, ?_⟩
      · rw [hjobs, mem_replaceByKey]
        exact .inl ⟨hx, hkx⟩
      · obtain ⟨rfl, -⟩ | ⟨rfl, hjob, -⟩ := hcase
        · exact hpair
        · exact absurd (hpair.job.symm.trans hjob) hkx
  case one =>
    intro x hx y hy hux huy
    obtain ⟨x', hx', ⟨rfl, -⟩ | ⟨rfl, -, -⟩⟩ := mem_versions_setJob h hx
    · obtain ⟨y', hy', ⟨rfl, -⟩ | ⟨rfl, -, -⟩⟩ := mem_versions_setJob h hy
      · exact hs.one x hx' y hy' hux huy
      · cases huy
    · cases hux

theorem Consistent.version_of_job (hs : Consistent cfg s) (hj : j ∈ s.jobs) (hv : v ∈ s.versions)
    (hjob : v.publishingJobId = j.id) : Pair j v := by
  obtain ⟨x, hx, hpair⟩ := hs.pairs v hv
  have hxj : x = j := hs.jobKeys.eq_of_mem hx hj (hpair.job.symm.trans hjob)
  exact hxj ▸ hpair

theorem Consistent.publishes (hs : Consistent cfg s) (hj : j ∈ s.jobs) (h : Publishes j s versions) :
    Consistent cfg { s with versions } ∧
      ∀ w ∈ versions, w.publishingJobId = j.id → w.state ≠ .allocated := by
  obtain ⟨current, hcurrent, hid, hjob, ⟨hstate, rfl⟩ | ⟨hstate, receipt, rfl⟩⟩ := h
  · refine ⟨hs, ?_⟩
    intro w hw hwj
    have hsame : w = current := hs.versionKeys.eq_of_mem hw hcurrent
      ((hs.version_of_job hj hw hwj).version.trans hid.symm)
    rw [hsame, hstate]
    decide
  · have hrow : ∀ w, w ∈ updateWhere (fun v => v.id = current.id) (Version.publish j.claimId receipt)
        s.versions → (w ∈ s.versions ∧ w.id ≠ current.id) ∨ w = current.publish j.claimId receipt := by
      intro w hw
      obtain ⟨v, hv, heq⟩ := mem_updateWhere.mp hw
      by_cases hmatch : v.id = current.id
      · rw [if_pos (decide_eq_true hmatch), hs.versionKeys.eq_of_mem hv hcurrent hmatch] at heq
        exact .inr heq.symm
      · rw [if_neg (by simpa using hmatch)] at heq
        exact .inl ⟨heq ▸ hv, heq ▸ hmatch⟩
    refine ⟨?_, ?_⟩
    · constructor
      case jobKeys => exact hs.jobKeys
      case jobIds => exact hs.jobIds
      case jobs => exact hs.jobs
      case versionKeys => exact keyNodup_updateWhere (fun _ => rfl) hs.versionKeys
      case versions =>
        intro w hw
        obtain ⟨hw, -⟩ | rfl := hrow w hw
        · exact hs.versions w hw
        · exact ⟨.inr (.inl rfl), (fun h => by cases h), (hs.versions current hcurrent).revision⟩
      case pairs =>
        intro w hw
        obtain ⟨hw, -⟩ | rfl := hrow w hw
        · exact hs.pairs w hw
        · exact ⟨j, hj, hjob, hid, (fun h => by cases h), fun h => by cases h⟩
      case one =>
        intro x hx y hy hux huy
        obtain ⟨hx, -⟩ | rfl := hrow x hx
        · obtain ⟨hy, -⟩ | rfl := hrow y hy
          · exact hs.one x hx y hy hux huy
          · cases huy
        · cases hux
    · intro w hw hwj
      obtain ⟨hw, hne⟩ | rfl := hrow w hw
      · exact absurd ((hs.version_of_job hj hw hwj).version.trans hid.symm) hne
      · intro h
        cases h

theorem Consistent.congr (hs : Consistent cfg s) (hjobs : t.jobs = s.jobs)
    (hversions : t.versions = s.versions) (hnext : t.nextJobId = s.nextJobId) : Consistent cfg t where
  jobKeys := hjobs ▸ hs.jobKeys
  jobIds := by
    rw [hjobs, hnext]
    exact hs.jobIds
  jobs := hjobs ▸ hs.jobs
  versionKeys := hversions ▸ hs.versionKeys
  versions := hversions ▸ hs.versions
  pairs := by
    rw [hjobs, hversions]
    exact hs.pairs
  one := hversions ▸ hs.one

theorem Consistent.touch (hs : Consistent cfg s) (h : Touch cfg s j k versions)
    (hset : State.setJob { s with versions } k = some t) :
    Consistent cfg t := by
  have hok := h.ok (hs.jobs j h.mem)
  obtain ⟨hstatus, rfl⟩ | hpublishes := h.versions
  · exact hs.setJob h.mem h.going h.id h.payload hok (fun hsucceeded => absurd hsucceeded hstatus) hset
  · obtain ⟨hs', hdone⟩ := hs.publishes h.mem hpublishes
    apply hs'.setJob h.mem h.going h.id h.payload hok _ hset
    intro _ w hw hwk
    exact hdone w hw (hwk.trans h.id)

/-- The tables stay consistent in every transaction. -/
theorem Consistent.step (hs : Consistent cfg s) (h : Acts cfg s t) : Consistent cfg t := by
  cases h
  case wait hjobs hversions hnext => exact hs.congr hjobs hversions hnext
  case create request hcreate => exact hs.create hcreate
  case touch j k versions t' htouch hset hjobs hversions hnext =>
    exact (hs.touch htouch hset).congr hjobs hversions hnext

theorem consistent_of_reachable (h : Reachable (system cfg) anyStep s) : Consistent cfg s :=
  h.invariant (I := fun s => Consistent cfg s) (fun _ hs => .init hs)
    fun _ _ _ hs _ hstep => hs.step (next_acts hstep)

/-! ## §4. A published version stays. -/

theorem published_kept (hs : Consistent cfg s) (h : Acts cfg s t) (hv : v ∈ s.versions)
    (hstate : v.state = .published) : v ∈ t.versions := by
  have hset : ∀ {s t : State} {k : Job}, v ∈ s.versions → s.setJob k = some t → v ∈ t.versions := by
    intro s t k hv hset
    rw [(setJob_ok hset).2.2.2.2]
    split
    · rw [mem_updateWhere]
      exact ⟨v, hv, if_neg (by simp [hstate])⟩
    · exact hv
  cases h
  case wait _ hversions _ => exact hversions ▸ hv
  case create request hcreate =>
    obtain ⟨_, _, -, rfl, -⟩ := createCertificateJob_ok hs hcreate
    exact List.mem_append_left _ hv
  case touch j k versions t' htouch hset' _ hversions _ =>
    rw [hversions]
    apply hset _ hset'
    obtain ⟨-, rfl⟩ | ⟨current, hcurrent, -, -, ⟨-, rfl⟩ | ⟨hunpublished, receipt, rfl⟩⟩ := htouch.versions
    · exact hv
    · exact hv
    · rw [mem_updateWhere]
      refine ⟨v, hv, if_neg ?_⟩
      rw [decide_eq_true_eq]
      intro hid
      exact hunpublished (hs.versionKeys.eq_of_mem hv hcurrent hid ▸ hstate)

theorem published_run (hs : Consistent cfg s) (h : Run (system cfg) anyStep s t) (hv : v ∈ s.versions)
    (hstate : v.state = .published) : v ∈ t.versions :=
  (h.stable (I := fun s => Consistent cfg s) (Q := fun s => v ∈ s.versions)
    (fun _ _ _ hs _ hstep => hs.step (next_acts hstep))
    (fun _ _ _ hs hv _ hstep => published_kept hs (next_acts hstep) hv hstate) hs hv).2

/-! ## §5. Runs that resolve a publication. -/

/-- Some run publishes the version and leaves nothing that blocks another publication. -/
def Resolvable (cfg : Config) (s : State) (v : Version) : Prop :=
  ∃ t, Run (system cfg) anyStep s t ∧ (∃ w ∈ t.versions, w.id = v.id ∧ w.state = .published) ∧
    ∀ w ∈ t.versions, w.state.unresolved = false

theorem Resolvable.of_step {e : Event} (h : next cfg s e = some t) (ht : Resolvable cfg t v) :
    Resolvable cfg s v := by
  obtain ⟨u, hrun, hu⟩ := ht
  exact ⟨u, (Run.single trivial h).trans hrun, hu⟩

structure Blocks (cfg : Config) (s : State) (j : Job) (v : Version) : Prop where
  consistent : Consistent cfg s
  job : j ∈ s.jobs
  version : v ∈ s.versions
  pair : Pair j v
  allocated : v.state = .allocated
  real : j.payload.mode = .real

theorem Blocks.selectJob (h : Blocks cfg s j v) : s.job j.id = some j :=
  h.consistent.jobKeys.selectOne_eq h.job

theorem Blocks.resolves (h : Blocks cfg s j v) : s.resolves cfg j = true :=
  (h.consistent.jobs j h.job).resolves h.version h.pair.job h.pair.version (by rw [h.allocated]; rfl)

theorem Blocks.congr (h : Blocks cfg s j v) (hjobs : t.jobs = s.jobs) (hversions : t.versions = s.versions)
    (hnext : t.nextJobId = s.nextJobId) : Blocks cfg t j v :=
  { h with
    consistent := h.consistent.congr hjobs hversions hnext
    job := hjobs ▸ h.job
    version := hversions ▸ h.version }

/-- A step of the job that neither succeeds nor releases its version. -/
theorem Blocks.setJob (h : Blocks cfg s j v) (hset : s.setJob k = some t) (hgoing : j.ended = false)
    (hid : k.id = j.id) (hpayload : k.payload = j.payload) (hok : k.Ok cfg) (hstatus : k.status ≠ .succeeded)
    (hexecuted : k.status ≠ .cancelled ∧ k.status ≠ .rejected) : Blocks cfg t k v where
  consistent := h.consistent.setJob h.job hgoing hid hpayload hok (fun hs => absurd hs hstatus) hset
  job := by
    rw [(setJob_ok hset).1, mem_replaceByKey]
    exact .inr ⟨rfl, j, h.job, hid.symm⟩
  version := by
    have hunexecuted : k.unexecuted = false := by simp [Job.unexecuted, hexecuted]
    rw [(setJob_ok hset).2.2.2.2, if_neg (by simp [hunexecuted])]
    exact h.version
  pair := by
    refine ⟨h.pair.job.trans hid.symm, hpayload ▸ h.pair.version, fun _ => ⟨hstatus, ?_⟩, ?_⟩
    · intro hended
      obtain hended | hended := hended
      · exact absurd hended hexecuted.1
      · exact absurd hended hexecuted.2
    · intro hfailed
      rw [h.allocated] at hfailed
      cases hfailed
  allocated := h.allocated
  real := hpayload ▸ h.real

def Provider.someVersion : Provider → ProviderVersion
  | .azureKeyVault => .ref "0123456789abcdef0123456789abcdef"
  | _ => .number 1

theorem validProviderVersion_someVersion (provider : Provider) :
    validProviderVersion provider provider.someVersion = true := by
  cases provider <;> decide

/-- The receipt of a certificate that is valid for another millisecond. -/
def Job.receipt (group : Group) (now : Nat) (j : Job) : Receipt :=
  { groupId := group.id, materialVersionId := j.payload.publication.materialVersionId
    materialStoreRef := group.materialStoreRef, provider := group.materialStoreProvider
    providerVersion := group.materialStoreProvider.someVersion, fingerprintSha256 := ""
    validTo := now + 1 }

def Job.leaf (now : Nat) (j : Job) : Leaf :=
  { fingerprintSha256 := "", notAfter := now + 1, subjectAltNames := j.payload.sans }

def State.publishedBy (group : Group) (s : State) (j : Job) (v : Version) : List Version :=
  updateWhere (fun w => w.id = v.id) (Version.publish j.claimId (j.receipt group s.now)) s.versions

theorem Blocks.accepted (h : Blocks cfg s j v) (hflight : j.status.inFlight = true)
    (hlease : j.leaseExpiresAt = some lease) (hlive : s.now < lease) :
    acceptPublicationReceipt cfg j cfg.group.issuerAgentId (j.receipt cfg.group s.now) (j.leaf s.now)
      true s = some (s.publishedBy cfg.group j v) := by
  have hok := h.consistent.jobs j h.job
  have hagent := (hok.held hflight).2.2.1
  rw [hok.issuer] at hagent
  obtain ⟨-, hgroup, hprovider, hperiod, hrevision, -⟩ := resolve_ok (hok.resolved [])
  have hselect : selectOne (fun w => w.id = j.payload.publication.materialVersionId) s.versions = some v := by
    have hself := h.consistent.versionKeys.selectOne_eq h.version
    rw [h.pair.version] at hself
    exact hself
  have hunpublished : v.state ≠ .published := by
    rw [h.allocated]
    decide
  have hguard : (s.versions.all fun w => !decide (w.id = v.id) ||
      w.mayBecome (w.publish j.claimId (j.receipt cfg.group s.now))) = true := by
    rw [List.all_eq_true]
    intro w hw
    by_cases hsame : w.id = v.id
    · rw [h.consistent.versionKeys.eq_of_mem hw h.version hsame]
      simp [Version.mayBecome, Version.publish, h.allocated]
    · simp [hsame]
  have hbelongs : (j.receipt cfg.group s.now).belongs cfg.group j cfg.group.issuerAgentId v = true := by
    apply decide_eq_true
    exact ⟨rfl, h.pair.version.symm, rfl, h.pair.job, hagent, hok.issuer, rfl, hperiod,
      (h.consistent.versions v h.version).revision, hrevision⟩
  have hcertified : (j.receipt cfg.group s.now).certified s.now j.payload.sans (j.leaf s.now) = true := by
    simp [Receipt.certified, Job.receipt, Job.leaf, List.isPerm_iff]
  unfold acceptPublicationReceipt
  dsimp only
  rw [if_neg, hselect]
  · rw [Option.bind_some, if_pos, if_neg hunpublished, if_pos rfl, updateVersions, if_pos hguard]
    · rfl
    · simp [hbelongs, hcertified, hlease, hlive]
  · simp [hgroup, hprovider, Job.receipt, validProviderVersion_someVersion]

/-- Once the version of the job is published, nothing blocks the group. -/
theorem Blocks.publishedBy (h : Blocks cfg s j v) (hw : w ∈ s.publishedBy cfg.group j v) :
    w.state.unresolved = false := by
  obtain ⟨x, hx, heq⟩ := mem_updateWhere.mp hw
  by_cases hsame : x.id = v.id
  · rw [if_pos (decide_eq_true hsame)] at heq
    rw [← heq]
    rfl
  · rw [if_neg (by simpa using hsame)] at heq
    rw [← heq]
    by_contra hunresolved
    apply hsame
    rw [h.consistent.one x hx v h.version (by simpa using hunresolved) (by rw [h.allocated]; rfl)]

theorem Blocks.accept (h : Blocks cfg s j v) (hflight : j.status.inFlight = true)
    (hlease : j.leaseExpiresAt = some lease) (hlive : s.now < lease) : Resolvable cfg s v := by
  have hok := h.consistent.jobs j h.job
  obtain ⟨-, hclaim, hagent, -⟩ := hok.held hflight
  obtain ⟨claimId, hclaim⟩ := Option.isSome_iff_exists.mp hclaim
  rw [hok.issuer] at hagent
  obtain ⟨t, hset⟩ := setJob_isSome { s with versions := s.publishedBy cfg.group j v }
    (j.settled .succeeded)
  have hversions : t.versions = s.publishedBy cfg.group j v := by
    rw [(setJob_ok hset).2.2.2.2, if_neg (by simp [Job.unexecuted, Job.settled])]
  have hstep : next cfg s (.ingestResult j.id cfg.group.issuerAgentId claimId .succeeded
      (j.receipt cfg.group s.now) (j.leaf s.now) true) = some t := by
    show ingestResult cfg j.id _ _ _ _ _ _ s = some t
    unfold ingestResult
    rw [h.selectJob, Option.bind_some, if_pos]
    · dsimp only
      rw [if_pos rfl, h.accepted hflight hlease hlive]
      exact hset
    · simp [hagent, hclaim, hflight, h.real, reportable]
  refine ⟨t, .single trivial hstep, ⟨v.publish j.claimId (j.receipt cfg.group s.now), ?_, rfl, rfl⟩, ?_⟩
  · rw [hversions]
    exact mem_updateWhere.mpr ⟨v, h.version, by simp⟩
  · intro w hw
    exact h.publishedBy (hversions ▸ hw)

theorem Blocks.claim (h : Blocks cfg s j v) (hstatus : j.status = .pending) : Resolvable cfg s v := by
  have hok := h.consistent.jobs j h.job
  obtain ⟨t, hset⟩ := setJob_isSome s
    (j.claimed j.assignedAgentId s.nextClaimId (s.now + cfg.jobLeaseMs))
  have hstep : next cfg s (.claimJob j.id j.assignedAgentId true) =
      some { t with nextClaimId := t.nextClaimId + 1 } := by
    show claimJob cfg j.id _ _ s = _
    unfold claimJob
    rw [h.selectJob, Option.bind_some, if_pos, if_neg (by simp [hok.approval]), hset]
    · rfl
    · simp [Job.dispatchable, hstatus, h.resolves]
  have hgoing : j.ended = false := going_of_not_terminal (by rw [hstatus]; rfl)
  have hkept := h.setJob hset hgoing rfl rfl hok.claimed (by simp [Job.claimed]) (by simp [Job.claimed])
  have hkept : Blocks cfg { t with nextClaimId := t.nextClaimId + 1 } _ v := hkept.congr rfl rfl rfl
  refine .of_step hstep (hkept.accept rfl rfl ?_)
  show t.now < s.now + cfg.jobLeaseMs
  rw [(setJob_ok hset).2.2.1]
  exact Nat.lt_add_of_pos_right cfg.jobLeaseMs_pos

theorem Blocks.approve (h : Blocks cfg s j v) (hstatus : j.status = .pendingApproval) :
    Resolvable cfg s v := by
  have hok := h.consistent.jobs j h.job
  obtain ⟨t, hset⟩ := setJob_isSome s (j.approve cfg)
  have hstep : next cfg s (.approveJob j.id) = some t := by
    show approveJob cfg j.id s = _
    unfold approveJob
    rw [h.selectJob, Option.bind_some, if_pos hstatus]
    exact hset
  have hgoing : j.ended = false := going_of_not_terminal (by rw [hstatus]; rfl)
  have hkept := h.setJob hset hgoing rfl rfl hok.approve (by simp [Job.approve]) (by simp [Job.approve])
  exact .of_step hstep (hkept.claim rfl)

theorem Blocks.retried (h : Blocks cfg s j v) (hstatus : retryable j.status = true)
    (hattempts : j.attemptCount < 3) (approvalAlways : Bool) :
    retryDistributionJob cfg j.id approvalAlways s = s.setJob (j.retried
      (if approvalAlways && j.approvedPayloadHash.isNone then .pendingApproval else .pending)) := by
  unfold retryDistributionJob
  rw [h.selectJob, Option.bind_some, if_neg, if_neg]
  · simp [h.resolves, (h.consistent.jobs j h.job).approval]
  · simp [hstatus, hattempts]

theorem Blocks.retry (h : Blocks cfg s j v) (hstatus : retryable j.status = true)
    (hattempts : j.attemptCount < 3) : Resolvable cfg s v := by
  have hok := h.consistent.jobs j h.job
  obtain ⟨t, hset⟩ := setJob_isSome s (j.retried .pending)
  have hstep : next cfg s (.retryDistributionJob j.id false) = some t := by
    show retryDistributionJob cfg j.id false s = _
    rw [h.retried hstatus hattempts]
    exact hset
  have hgoing : j.ended = false := by simp [Job.ended, hstatus, hattempts]
  have hkept := h.setJob hset hgoing rfl rfl (hok.retried (.inl rfl)) (by simp [Job.retried])
    (by simp [Job.retried])
  exact .of_step hstep (hkept.claim rfl)

/-- A claim that ran out is reaped, and the job is claimed or retried. -/
theorem Blocks.reap (h : Blocks cfg s j v) (hflight : j.status.inFlight = true)
    (hlease : j.leaseExpiresAt = some lease) (hlapsed : lease < s.now) (hattempts : j.attemptCount < 3) :
    Resolvable cfg s v := by
  have hok := h.consistent.jobs j h.job
  obtain ⟨t, hset⟩ := setJob_isSome s j.reaped
  have hstep : next cfg s (.reap j.id) = some t := by
    show Publication.reap j.id s = _
    unfold Publication.reap
    rw [h.selectJob, Option.bind_some, if_pos]
    · exact hset
    · simp [hflight, hlease, hlapsed]
  have hattempts : j.reaped.attemptCount < 3 :=
    lt_of_eq_of_lt (reaped_kept (j := j)).2.2.2.2.2.2 hattempts
  have hgoing := going_of_not_terminal (not_terminal_of_inFlight hflight)
  obtain hstatus | hstatus | hstatus := reaped_status (j := j)
  all_goals
    have hkept := h.setJob hset hgoing reaped_kept.1 reaped_kept.2.1 (hok.reaped hflight) (by simp [hstatus])
      (by simp [hstatus])
  · exact .of_step hstep (hkept.retry (by rw [hstatus]; rfl) hattempts)
  · exact .of_step hstep (hkept.claim hstatus)
  · exact .of_step hstep (hkept.retry (by rw [hstatus]; rfl) hattempts)

/-- A job in flight with attempts left: by its receipt, or once its lease has run out. -/
theorem Blocks.inFlight (h : Blocks cfg s j v) (hflight : j.status.inFlight = true)
    (hattempts : j.attemptCount < 3) : Resolvable cfg s v := by
  obtain ⟨lease, hlease⟩ := Option.isSome_iff_exists.mp ((h.consistent.jobs j h.job).held hflight).2.2.2
  by_cases hlive : s.now < lease
  · exact h.accept hflight hlease hlive
  · have hstep : next cfg s (.wait 1) = some { s with now := s.now + 1 } := rfl
    have hkept : Blocks cfg { s with now := s.now + 1 } j v := h.congr rfl rfl rfl
    exact .of_step hstep (hkept.reap hflight hlease (Nat.lt_succ_of_le (not_lt.mp hlive)) hattempts)

/-! ## §6. What blocks a refused publication. -/

/-- A job that ended with its version allocated and is not taken up again: it was
    claimed three times, or somebody ended it after it had been claimed. -/
def Job.fenced (j : Job) : Prop :=
  (retryable j.status = true ∧ 3 ≤ j.attemptCount) ∨
    ((j.status = .cancelled ∨ j.status = .rejected) ∧ 0 < j.attemptCount)

/-- The job waits, holds a live lease, or has claims left. -/
def Job.recoverable (now : Nat) (j : Job) : Prop :=
  j.status = .pendingApproval ∨ j.status = .pending ∨
    (j.status.inFlight = true ∧ j.leaseExpiresAt.any (fun t => now < t) = true) ∨
    ((j.status.inFlight = true ∨ retryable j.status = true) ∧ j.attemptCount < 3)

theorem Blocks.resolvable (h : Blocks cfg s j v) (hj : j.recoverable s.now) : Resolvable cfg s v := by
  obtain hstatus | hstatus | ⟨hflight, hlive⟩ | ⟨hstatus | hstatus, hattempts⟩ := hj
  · exact h.approve hstatus
  · exact h.claim hstatus
  · cases hlease : j.leaseExpiresAt with
    | none => simp [hlease] at hlive
    | some lease => exact h.accept hflight hlease (by simpa [hlease] using hlive)
  · exact h.inFlight hstatus hattempts
  · exact h.retry hstatus hattempts

/-- A real job whose version is allocated is on its way, can be retried, or is fenced. -/
theorem Blocks.cases (h : Blocks cfg s j v) :
    isTerminalJobStatus j.status = false ∨ (retryable j.status = true ∧ j.attemptCount < 3) ∨
      j.fenced := by
  have hok := h.consistent.jobs j h.job
  have hopen := h.pair.outstanding h.allocated
  by_cases hretry : retryable j.status = true
  · by_cases hattempts : j.attemptCount < 3
    · exact .inr (.inl ⟨hretry, hattempts⟩)
    · exact .inr (.inr (.inl ⟨hretry, not_lt.mp hattempts⟩))
  by_cases hended : j.status = .cancelled ∨ j.status = .rejected
  · exact .inr (.inr (.inr ⟨hended, hopen.2 hended⟩))
  left
  have hplain := hok.plain
  have hmode := hok.mode h.real
  revert hretry hended hplain hmode
  have hsucceeded := hopen.1
  revert hsucceeded
  cases j.status <;> decide

theorem unresolved_of_refused
    (h : createCertificateJob cfg request s = .error CERTOPS_PUBLICATION_UNRESOLVED) :
    ∃ v ∈ s.versions, v.state.unresolved = true := by
  unfold createCertificateJob at h
  cases hresolve : resolveDistributionJobDefaults cfg.group s.versions request.operation
      request.subjectId request.payload.publication request.assignedAgentId none with
  | error code =>
    rw [hresolve] at h
    cases h
    unfold resolveDistributionJobDefaults at hresolve
    repeat' split at hresolve
    all_goals
      simp [CERTOPS_DISTRIBUTION_NOT_FOUND, CERTOPS_MATERIAL_PROVIDER_MISMATCH,
        CERTOPS_MATERIAL_ASSIGNMENT_REQUIRED, CERTOPS_PUBLICATION_INTENT_MISMATCH,
        CERTOPS_PUBLICATION_UNRESOLVED] at hresolve
  | ok agentId =>
    rw [hresolve] at h
    simp only [bind, Except.bind, pure, Except.pure] at h
    cases hallocate : allocateMaterialVersion cfg.group (request.job s.nextJobId agentId) s.versions with
    | ok versions =>
      rw [hallocate] at h
      cases h
    | error code =>
      rw [hallocate] at h
      cases h
      unfold allocateMaterialVersion at hallocate
      dsimp only at hallocate
      split at hallocate
      · simp [CERTOPS_MATERIAL_PROVIDER_MISMATCH, CERTOPS_PUBLICATION_UNRESOLVED] at hallocate
      split at hallocate
      · simp [CERTOPS_PUBLICATION_INTENT_MISMATCH, CERTOPS_PUBLICATION_UNRESOLVED] at hallocate
      split at hallocate
      · rename_i hpending
        obtain ⟨v, hv, hblocks⟩ := List.any_eq_true.mp hpending
        exact ⟨v, hv, (Bool.and_eq_true _ _ ▸ hblocks).1⟩
      split at hallocate
      · cases hallocate
      split at hallocate
      · simp [UNIQUE_VIOLATION, CERTOPS_PUBLICATION_UNRESOLVED] at hallocate
      · cases hallocate

/-- At every point of every run at most one version of the group is unresolved, and a
    published version stays as it is.  A publication that is refused as unresolved is blocked
    by an allocated version; unless its job is a dry run, that job is on its way, or
    `retryDistributionJob` accepts it, or it is fenced; and while it waits, holds a live
    lease or has claims left, some run publishes the version and unblocks the group. -/
theorem publication_exclusive (cfg : Config) (s : State) (h : Reachable (system cfg) anyStep s) :
    (∀ v ∈ s.versions, ∀ w ∈ s.versions, v.state.unresolved = true → w.state.unresolved = true →
      v = w) ∧
    (∀ v ∈ s.versions, v.state = .published →
      ∀ t, Run (system cfg) anyStep s t → v ∈ t.versions) ∧
    (∀ request, createCertificateJob cfg request s = .error CERTOPS_PUBLICATION_UNRESOLVED →
      ∃ v ∈ s.versions, v.state = .allocated ∧ ∃ j ∈ s.jobs, j.id = v.publishingJobId ∧
        (j.payload.mode = .real →
          (isTerminalJobStatus j.status = false ∨
            (∀ approvalAlways, ∃ t, retryDistributionJob cfg j.id approvalAlways s = some t) ∨
            j.fenced) ∧
          (j.recoverable s.now → Resolvable cfg s v))) := by
  have hs := consistent_of_reachable h
  refine ⟨hs.one, ?_, ?_⟩
  · intro v hv hstate t hrun
    exact published_run hs hrun hv hstate
  · intro request hrefused
    obtain ⟨v, hv, hunresolved⟩ := unresolved_of_refused hrefused
    have hallocated : v.state = .allocated := by
      obtain hstate | hstate | hstate := (hs.versions v hv).states
      · exact hstate
      · rw [hstate] at hunresolved
        cases hunresolved
      · rw [hstate] at hunresolved
        cases hunresolved
    obtain ⟨j, hj, hpair⟩ := hs.pairs v hv
    refine ⟨v, hv, hallocated, j, hj, hpair.job.symm, ?_⟩
    intro hreal
    have hblocks : Blocks cfg s j v := ⟨hs, hj, hv, hpair, hallocated, hreal⟩
    refine ⟨?_, hblocks.resolvable⟩
    obtain hgoing | ⟨hstatus, hattempts⟩ | hfenced := hblocks.cases
    · exact .inl hgoing
    · right
      left
      intro approvalAlways
      rw [hblocks.retried hstatus hattempts]
      exact setJob_isSome s _
    · exact .inr (.inr hfenced)

def demoGroup : Group :=
  { id := 0, managedCertificateId := 1, managementPeriodId := 2, issuerAgentId := 7
    materialStoreRef := "vault", issuanceProfileRef := "acme", profileRevision := 1 }

def demoConfig : Config :=
  { group := demoGroup, computeJobPayloadApprovalHash := fun p => p.publication.materialStoreRef
    jobLeaseMs := 60000, jobLeaseMs_pos := by decide }

def demoRequest (materialVersionId : Nat) : Request :=
  { operation := .renew, subjectId := 1, assignedAgentId := none, requiresApproval := false
    payload :=
      { publication :=
          { groupId := 0, materialVersionId, managementPeriodId := 2, materialStoreRef := "vault"
            issuanceProfileRef := "acme", profileRevision := 1 }
        sans := ["a.example"], mode := .real } }

/-- A publication that is refused while the other one is under way. -/
theorem publication_exclusive_demo : ∃ s,
    createCertificateJob demoConfig (demoRequest 11) s = .error CERTOPS_PUBLICATION_UNRESOLVED ∧
    ∃ v ∈ s.versions, v.state = .allocated ∧ Resolvable demoConfig s v := by
  have hplay : ∃ s, played (next demoConfig)
        [.createCertificateJob (demoRequest 10) true, .claimJob 0 7 true] { now := 0 } = some s ∧
      createCertificateJob demoConfig (demoRequest 11) s = .error CERTOPS_PUBLICATION_UNRESOLVED ∧
      (∀ j ∈ s.jobs, j.payload.mode = .real ∧ j.status.inFlight = true ∧ j.attemptCount < 3) := by
    refine ⟨_, rfl, ?_⟩
    decide +kernel
  obtain ⟨s, hs, hrefused, hjobs⟩ := hplay
  have hreach : Reachable (system demoConfig) anyStep s :=
    ⟨_, ⟨rfl, rfl⟩, .of_played (fun _ _ _ h => h) _ (fun _ _ _ => trivial) hs⟩
  obtain ⟨v, hv, hallocated, j, hj, -, hreal⟩ :=
    (publication_exclusive demoConfig s hreach).2.2 (demoRequest 11) hrefused
  obtain ⟨hmode, hflight, hattempts⟩ := hjobs j hj
  exact ⟨s, hrefused, v, hv, hallocated, (hreal hmode).2 (.inr (.inr (.inr ⟨.inl hflight, hattempts⟩)))⟩

/-! ## §7. A fenced group. -/

structure Wedged (s : State) (j : Job) (v : Version) : Prop where
  job : j ∈ s.jobs
  version : v ∈ s.versions
  pair : Pair j v
  allocated : v.state = .allocated
  ended : j.ended = true

/-- While a job that ended blocks the group, only other jobs move, and none of them
    publishes. -/
theorem Wedged.step (hs : Consistent cfg s) (h : Wedged s j v) (hacts : Acts cfg s t) :
    Wedged t j v ∧ ∀ w ∈ t.versions, w.state = .published → w ∈ s.versions := by
  have hunresolved : v.state.unresolved = true := by
    rw [h.allocated]
    rfl
  cases hacts
  case wait hjobs hversions _ =>
    exact ⟨⟨hjobs ▸ h.job, hversions ▸ h.version, h.pair, h.allocated, h.ended⟩,
      fun w hw _ => hversions ▸ hw⟩
  case create request hcreate =>
    obtain ⟨_, _, -, -, -, -, -, -, hresolved⟩ := createCertificateJob_ok hs hcreate
    rw [(hresolved v h.version).1] at hunresolved
    cases hunresolved
  case touch x k versions t' htouch hset hjobs hversions _ =>
    have hother : k.id ≠ j.id := by
      intro hid
      have hxj := hs.jobKeys.eq_of_mem htouch.mem h.job (htouch.id.symm.trans hid)
      have hgoing := htouch.going
      rw [hxj, h.ended] at hgoing
      cases hgoing
    have hsame : versions = s.versions := by
      obtain ⟨-, hsame⟩ | ⟨current, hcurrent, -, hjob, ⟨-, hsame⟩ | ⟨hunpublished, -⟩⟩ := htouch.versions
      · exact hsame
      · exact hsame
      · obtain hstate | hstate | hstate := (hs.versions current hcurrent).states
        · have hcv := hs.one current hcurrent v h.version (by rw [hstate]; rfl) hunresolved
          rw [hcv, h.pair.job, ← htouch.id] at hjob
          exact absurd hjob.symm hother
        · exact absurd hstate hunpublished
        · have hgoing := htouch.going
          rw [ended_of_closed ((hs.version_of_job htouch.mem hcurrent hjob).released hstate)] at hgoing
          cases hgoing
    subst hsame
    refine ⟨⟨?_, ?_, h.pair, h.allocated, h.ended⟩, ?_⟩
    · rw [hjobs, (setJob_ok hset).1, mem_replaceByKey]
      exact .inl ⟨h.job, Ne.symm hother⟩
    · rw [hversions, (setJob_ok hset).2.2.2.2]
      split
      · rw [mem_updateWhere]
        refine ⟨v, h.version, if_neg ?_⟩
        simp [h.pair.job, Ne.symm hother]
      · exact h.version
    · intro w hw hstate
      obtain ⟨x, hx, ⟨rfl, -⟩ | ⟨rfl, -, -⟩⟩ := mem_versions_setJob hset (hversions ▸ hw)
      · exact hx
      · cases hstate

/-- **A fenced group never publishes again**: in every run from there on, a new
    publication is refused and no version becomes published. -/
theorem Wedged.run (hs : Consistent cfg s) (h : Wedged s j v) (hrun : Run (system cfg) anyStep s t) :
    (∀ request t', createCertificateJob cfg request t ≠ .ok t') ∧
      ∀ w ∈ t.versions, w.state = .published → w ∈ s.versions := by
  have hall : Consistent cfg t ∧ Wedged t j v ∧
      ∀ w ∈ t.versions, w.state = .published → w ∈ s.versions :=
    hrun.stable (I := fun t => Consistent cfg t)
      (Q := fun t => Wedged t j v ∧ ∀ w ∈ t.versions, w.state = .published → w ∈ s.versions)
      (fun _ _ _ hs _ hstep => hs.step (next_acts hstep))
      (fun _ _ _ hs hw _ hstep =>
        have hstep := hw.1.step hs (next_acts hstep)
        ⟨hstep.1, fun w hmem hstate => hw.2 w (hstep.2 w hmem hstate) hstate⟩)
      hs ⟨h, fun _ hw _ => hw⟩
  obtain ⟨hs', hwedged, hpublished⟩ := hall
  refine ⟨?_, hpublished⟩
  intro request t' hcreate
  obtain ⟨_, _, -, -, -, -, -, -, hresolved⟩ := createCertificateJob_ok hs' hcreate
  have hstate := (hresolved v hwedged.version).1
  rw [hwedged.allocated] at hstate
  cases hstate

def demoFailure (claimId : Nat) : List Event :=
  let j := (demoRequest 10).job 0 7
  [.claimJob 0 7 true,
    .ingestResult 0 7 claimId .failed (j.receipt demoGroup 0) (j.leaf 0) true]

/-- A publication that failed three times: the group refuses a new one, its job has ended
    and is not retried, and in no run from there on is a version published. -/
theorem third_failure_wedges : ∃ s, Reachable (system demoConfig) anyStep s ∧
    createCertificateJob demoConfig (demoRequest 11) s = .error CERTOPS_PUBLICATION_UNRESOLVED ∧
    (∀ v ∈ s.versions, ∀ j ∈ s.jobs, isTerminalJobStatus j.status = true ∧
      ∀ approvalAlways, retryDistributionJob demoConfig j.id approvalAlways s = none) ∧
    ∀ t, Run (system demoConfig) anyStep s t →
      (∀ request t', createCertificateJob demoConfig request t ≠ .ok t') ∧
      ∀ w ∈ t.versions, w.state ≠ .published := by
  have hplay : ∃ s, played (next demoConfig)
        ([.createCertificateJob (demoRequest 10) true] ++ demoFailure 0 ++
          [.retryDistributionJob 0 false] ++ demoFailure 1 ++ [.retryDistributionJob 0 false] ++
          demoFailure 2) { now := 0 } = some s ∧
      createCertificateJob demoConfig (demoRequest 11) s = .error CERTOPS_PUBLICATION_UNRESOLVED ∧
      (∀ j ∈ s.jobs, j.ended = true ∧ isTerminalJobStatus j.status = true ∧
        ∀ approvalAlways, retryDistributionJob demoConfig j.id approvalAlways s = none) ∧
      s.versions.length = 1 ∧ (∀ v ∈ s.versions, v.state = .allocated) := by
    refine ⟨_, rfl, ?_⟩
    decide +kernel
  obtain ⟨s, hs, hrefused, hjobs, hlength, hversions⟩ := hplay
  have hreach : Reachable (system demoConfig) anyStep s :=
    ⟨_, ⟨rfl, rfl⟩, .of_played (fun _ _ _ h => h) _ (fun _ _ _ => trivial) hs⟩
  have hconsistent := consistent_of_reachable hreach
  obtain ⟨v, hv⟩ := List.length_pos_iff_exists_mem.mp (hlength ▸ Nat.one_pos)
  obtain ⟨j, hj, hpair⟩ := hconsistent.pairs v hv
  have hwedged : Wedged s j v := ⟨hj, hv, hpair, hversions v hv, (hjobs j hj).1⟩
  refine ⟨s, hreach, hrefused, fun _ _ j hj => (hjobs j hj).2, ?_⟩
  intro t hrun
  obtain ⟨hcreate, hpublished⟩ := hwedged.run hconsistent hrun
  refine ⟨hcreate, ?_⟩
  intro w hw hstate
  have hallocated := hversions w (hpublished w hw hstate)
  rw [hstate] at hallocated
  cases hallocated

end TokenTimer.Publication
