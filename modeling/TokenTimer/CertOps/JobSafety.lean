/-
  TokenTimer.CertOps.JobSafety — what a job can still become.

  Main results:
    * `no_dispatch_after_renewal` — once a lease was renewed, no claim hands the
        job out again.
    * `outcomes_final_while_no_dry_await` — an ended job is not written again, a
        result changes a job only under its claim and an
        open nonce, a nonce is consumed once, and the
        status fits the mode as long as nothing moves a
        dry run to `awaiting_issuer`.
-/

import TokenTimer.CertOps.SystemRefinement

namespace TokenTimer.CertOps

open Lib.Table Lib.Runs

variable {R : Regime} {env : Env} {db db' : Db}

/-! ## §1. A job that ran. -/

/-- The job runs or has ended. -/
def Started (id : Nat) (db : Db) : Prop :=
  ∃ j, db.jobById id = some j ∧ (j.status = .running ∨ isTerminalJobStatus j.status = true)

variable {j j' : JobRow} {id x t : Nat} {agent : AgentIdentity} {sequence : Option Nat}

theorem Started.of_mem (hwf : WellFormed db) (hj : j ∈ db.jobs)
    (hst : j.status = .running ∨ isTerminalJobStatus j.status = true) : Started j.id db :=
  ⟨j, jobById_of_mem hwf hj, hst⟩

theorem JobStep.started (h : JobStep R j j')
    (hst : j.status = .running ∨ isTerminalJobStatus j.status = true) :
    j'.status = .running ∨ isTerminalJobStatus j'.status = true := by
  obtain hrun | hend := hst
  · exact h.forward hrun
  · have hlive := h.live
    rw [hend] at hlive
    cases hlive

theorem Move.started (h : Move R db db') (hwf : WellFormed db) (hs : Started id db) :
    Started id db' := by
  obtain ⟨j, hfound, hst⟩ := hs
  obtain ⟨hj, rfl⟩ := jobById_some hfound
  obtain ⟨j', hj', rfl | hstep⟩ := h.job_forward hwf hj
  · exact .of_mem (h.wellFormed hwf) hj' hst
  · have hid : j'.id = j.id := congrArg JobSpec.id hstep.spec
    rw [← hid]
    exact .of_mem (h.wellFormed hwf) hj' (hstep.started hst)

theorem Moves.started (h : Moves R db db') (hwf : WellFormed db) (hs : Started id db) :
    Started id db' :=
  (h.invariant (I := fun s => WellFormed s ∧ Started id s)
    (fun _ _ hx hm => ⟨hm.wellFormed hx.1, hm.started hx.1 hx.2⟩) ⟨hwf, hs⟩).2

theorem Run.started {ok : Db → Call → Prop} (h : Run (system env) ok db db') (hwf : WellFormed db)
    (hs : Started id db) : WellFormed db' ∧ Started id db' :=
  run_invariant (R := Regime.free env) (Regime.free_timed env)
    (fun _ call _ _ => permits_free call) (fun _ _ hwf hs hm => hm.started hwf hs) h hwf hs

theorem Started.not_dispatched (hs : Started id db) (hwf : WellFormed db) {caps : AgentCaps}
    {maxJobs : Nat} {reads : ClaimReads} {out : List Dispatched}
    (h : claimJobs env agent sequence caps maxJobs reads db = .ok (out, db')) {d : Dispatched}
    (hd : d ∈ out) : d.jobId ≠ id := by
  intro hid
  obtain ⟨row, db₁, pem, generation, hturn, hrow, -⟩ := claimJobs_dispatched h hd
  obtain ⟨hmoves, hmem, hc⟩ := hturn.spec (Regime.free_timed env) hwf
  obtain ⟨j, hfound, hst⟩ := hmoves.started hwf hs
  -- The row of the turn is the started job, and it waits.
  have hfind := jobById_of_mem (hmoves.wellFormed hwf) hmem
  rw [← hrow, hid, hfound] at hfind
  cases hfind
  obtain hrun | hend := hst
  · exact hc.not_running hrun
  · rw [hc.live] at hend
    cases hend

/-- **NO RE-EXECUTION AFTER A RENEWAL**: once `renewJobLease` has succeeded, the
    job runs or has ended in every later state of every run, and no claim in such
    a state hands it out. -/
theorem no_dispatch_after_renewal {s s₁ s₂ : Db} {agent : AgentIdentity} {id claimId : Nat}
    {sequence : Option Nat} {reads : RenewReads} (hreach : Reachable (system env) anyStep s)
    (hrenew : exec env (.renewJobLease agent id claimId sequence reads) s = .ok s₁)
    (hrun : Run (system env) anyStep s₁ s₂) :
    (∃ j, s₂.jobById id = some j ∧ j.status ≠ .pending ∧
      (j.status = .running ∨ isTerminalJobStatus j.status = true)) ∧
    ∀ agent' sequence' caps maxJobs reads' out s₃,
      claimJobs env agent' sequence' caps maxJobs reads' s₂ = .ok (out, s₃) →
        ∀ d ∈ out, d.jobId ≠ id := by
  have hwf := reachable_wellFormed hreach
  obtain ⟨-, -, hcall⟩ := bind_ok.mp hrenew
  obtain ⟨hmoves, j, hj, rfl, hst⟩ := renewJobLease_ok hwf (Regime.free_timed env) hcall
  have hwf₁ := hmoves.wellFormed hwf
  obtain ⟨hwf₂, hstarted⟩ := Run.started hrun hwf₁ (.of_mem hwf₁ hj (.inl hst))
  refine ⟨?_, ?_⟩
  · obtain ⟨j₂, hfound, hst₂⟩ := hstarted
    refine ⟨j₂, hfound, ?_, hst₂⟩
    intro hpending
    rw [hpending] at hst₂
    obtain h | h := hst₂ <;> cases h
  · intro agent' sequence' caps maxJobs reads' out s₃ hclaim d hd
    exact hstarted.not_dispatched hwf₂ hclaim hd

/-- A job that was claimed and renewed, in the state right after. -/
theorem no_dispatch_after_renewal_demo :
    (exec Demo.env (Demo.renewLease 2 3)
      (play Demo.env (Demo.setup ++ [Demo.renewJob .real none, Demo.claim]))).isOk = true ∧
    ∃ j, (play Demo.env (Demo.setup ++ [Demo.renewJob .real none, Demo.claim,
        Demo.renewLease 2 3])).jobById 2 = some j ∧ j.status ≠ .pending ∧
      (j.status = .running ∨ isTerminalJobStatus j.status = true) := by
  have hok : (exec Demo.env (Demo.renewLease 2 3)
      (play Demo.env (Demo.setup ++ [Demo.renewJob .real none, Demo.claim]))).isOk = true := by
    decide
  exact ⟨hok, (no_dispatch_after_renewal (play_reachable _ _) (exec_of_isOk hok) (.refl _)).1⟩

/-! ## §2. A nonce is consumed once. -/

/-- Every row of a nonce that was drawn is consumed, at `t`. -/
def ConsumedAt (x t : Nat) (db : Db) : Prop :=
  x < db.nextId ∧ ∀ n ∈ db.nonces, n.nonce = x → n.consumedAt = some t

/-- A step of a job issues fresh nonces and touches open ones only. -/
theorem NonceMove.consumedAt {nonces : List NonceRow} (h : NonceMove R db j j' id nonces)
    (hc : ConsumedAt x t db) :
    ∀ n ∈ nonces, n.nonce = x → n.consumedAt = some t := by
  obtain ⟨hx, hall⟩ := hc
  -- An update that only changes open rows, and keeps the nonce of each.
  have hupdate : ∀ (p : NonceRow → Bool) (f : NonceRow → NonceRow),
      (∀ n, p n = true → n.consumedAt = none) → (∀ n, (f n).nonce = n.nonce) →
      ∀ n ∈ updateWhere p f db.nonces, n.nonce = x → n.consumedAt = some t := by
    intro p f hp hf n hn hnx
    obtain ⟨m, hm, rfl⟩ := mem_updateWhere.mp hn
    by_cases hpm : p m = true
    · rw [if_pos hpm, hf] at hnx
      have hclosed := hall m hm hnx
      rw [hp m hpm] at hclosed
      cases hclosed
    · rw [if_neg hpm] at hnx ⊢
      exact hall m hm hnx
  cases h with
  | keep id hid hclaim => exact hall
  | claim agent lease expiry hfrom hstatus hclaim hwindow =>
    intro n hn hnx
    rw [List.mem_append, List.mem_singleton] at hn
    obtain hn | rfl := hn
    · exact hall n hn hnx
    · have hfresh : db.nextId + 1 = x := hnx
      omega
  | extend agent lease expiry howner hstatus hclaim hwindow =>
    exact hupdate _ _ (fun n hn => (of_decide_eq_true hn).2.2.1) fun n => rfl
  | consume p hopen hend hclaim =>
    exact hupdate _ _ (fun n hn => (hopen n hn).1) fun n => rfl

theorem Move.consumedAt (h : Move R db db') (hwf : WellFormed db) (hc : ConsumedAt x t db) :
    ConsumedAt x t db' := by
  refine ⟨hc.1.trans_le (h.grows hwf).1, ?_⟩
  obtain heq | ⟨j, j', id, hnonce⟩ | ⟨p, heq⟩ := h.nonces_cases
  · rw [heq]
    exact hc.2
  · exact hnonce.consumedAt hc
  · intro n hn hnx
    rw [heq] at hn
    exact hc.2 n (mem_deleteWhere.mp hn).1 hnx

/-! ## §3. The status fits the mode. -/

def Call.awaitsDryRun (db : Db) : Call → Prop
  | .createCertificateJob opts _ => opts.awaitsDryRun
  | .updateCertificateJobStatus opts _ _ _ =>
    ∃ job, db.jobOf opts.workspaceId opts.jobId = some job ∧ opts.awaitsDryRun job
  | _ => False

/-- The regime in which no dry run waits for an issuer. -/
def Regime.noDryAwait (env : Env) : Regime :=
  { Regime.free env with dryAwait := False }

theorem permits_noDryAwait {call : Call} (h : ¬ call.awaitsDryRun db) :
    Permits (Regime.noDryAwait env) db call := by
  cases call with
  | createCertificateJob opts reads => exact h
  | updateCertificateJobStatus opts first second m =>
    intro job hfound haw
    exact h ⟨job, hfound, haw⟩
  | _ => simp [Permits, Regime.noDryAwait, Regime.free, Regime.any]

/-- Every job has a status that its mode allows. -/
def ModeSafe (R : Regime) (db : Db) : Prop :=
  ∀ j ∈ db.jobs, ModeAllows R j.mode j.status

theorem Move.modeSafe (h : Move R db db') (hs : ModeSafe R db) : ModeSafe R db' := by
  intro j' hj'
  obtain ⟨j, hj, rfl | hstep⟩ | ⟨-, hnew⟩ := h.job_origin hj'
  · exact hs _ hj
  · rw [show j'.mode = j.mode from congrArg JobSpec.mode hstep.spec]
    exact hstep.allowed
  · exact hnew.allowed

/-! ## §4. Results change their own claim. -/

/-- The job that a result wrote is the one it reports, under its claim and with
    an open nonce of the reporting agent. -/
theorem ingestResult_changes (hwf : WellFormed db) {body : ResultBody} {reads : ResultReads}
    (h : exec env (.ingestResult agent sequence body reads) db = .ok db') (hj : j ∈ db.jobs)
    (hchanged : db'.jobById j.id ≠ some j) :
    body.jobId = j.id ∧ j.claimedByAgentId = some agent.id ∧ j.claimId = body.claimId ∧
      (∃ n ∈ db.nonces, body.nonce = some n.nonce ∧ n.jobId = j.id ∧
        n.issuedToAgentId = some agent.id ∧ n.consumedAt = none ∧ db.now < n.expiresAt) ∧
      (j.mode = .dryRun → ∀ j', db'.jobById j.id = some j' →
        j'.status ≠ .orphanedUnknownEffect) := by
  simp only [exec, asAgent, bind_ok] at h
  obtain ⟨-, -, ⟨reply, db₁⟩, hresult, hret⟩ := h
  cases hret
  obtain rfl | ⟨job, new, db₂, hacc, hsettle⟩ := ingestResult_ok hwf hresult
  · exact absurd (jobById_of_mem hwf hj) hchanged
  obtain ⟨hjob, -, hid⟩ := jobOf_some hacc.found
  obtain ⟨x, hx, ⟨n, hn, hopen⟩, agents, rfl⟩ := hacc.nonce
  have hjobs : db₁.jobs = replaceJob new db.jobs := settleTrust_jobs hsettle
  have hnewid : new.id = job.id := congrArg JobSpec.id hacc.spec
  have hkey : KeyNodup (fun x : JobRow => x.id) db₁.jobs := by
    rw [hjobs]
    exact keyNodup_replaceByKey hwf.jobs.key
  -- A row of another id is still there as it was.
  have hsame : j.id = job.id := by
    by_contra hne
    refine hchanged (hkey.selectOne_eq ?_)
    rw [hjobs]
    exact mem_replaceJob_other hj (by rwa [hnewid])
  obtain rfl : j = job := hwf.jobs.key.eq_of_mem hj hjob hsame
  obtain ⟨hnonce, hnjob, -, hagent, hunused, htime⟩ := nonceConsumable_iff.mp hopen
  have hissued : n.issuedToAgentId = some agent.id := by
    refine hagent.resolve_left fun hnone => ?_
    have hsome := hwf.nonces.issued n hn
    rw [hnone] at hsome
    cases hsome
  refine ⟨hid.symm, hacc.owner, hacc.claim, ⟨n, hn, ?_, hnjob.trans hid.symm, hissued, hunused,
    htime⟩, ?_⟩
  · rw [hx, hnonce]
  · intro hmode j' hj'
    have hnew : db₁.jobById new.id = some new := by
      refine hkey.selectOne_eq ?_
      rw [hjobs]
      exact mem_replaceJob_self hj hnewid
    rw [← hnewid, hnew] at hj'
    cases hj'
    exact (checkResultMode_ok hacc.mode).2.2.1 hmode

/-! ## §5. Outcomes are final. -/

/-- **TERMINAL OUTCOMES ARE FINAL AND BELONG TO THE CLAIM HOLDER.**  In every
    reachable state: an ended job is not written by any later run; a result
    changes a job only under its current claim and with an open nonce of the
    reporting agent for that job, and never makes a dry run orphaned; a consumed
    nonce stays consumed as it was.  And in every state of a run in which no call
    moves a dry run to `awaiting_issuer`, every status fits the mode. -/
theorem outcomes_final_while_no_dry_await {s : Db}
    (hreach : Reachable (system env) anyStep s) :
    (∀ s', Run (system env) anyStep s s' → ∀ j ∈ s.jobs, isTerminalJobStatus j.status = true →
      s'.jobById j.id = some j) ∧
    (∀ agent sequence body reads s',
      exec env (.ingestResult agent sequence body reads) s = .ok s' →
      ∀ j ∈ s.jobs, s'.jobById j.id ≠ some j →
        body.jobId = j.id ∧ j.claimedByAgentId = some agent.id ∧ j.claimId = body.claimId ∧
        (∃ n ∈ s.nonces, body.nonce = some n.nonce ∧ n.jobId = j.id ∧
          n.issuedToAgentId = some agent.id ∧ n.consumedAt = none ∧ s.now < n.expiresAt) ∧
        (j.mode = .dryRun → ∀ j', s'.jobById j.id = some j' →
          j'.status ≠ .orphanedUnknownEffect)) ∧
    (∀ s', Run (system env) anyStep s s' → ∀ n ∈ s.nonces, ∀ t, n.consumedAt = some t →
      ∀ n' ∈ s'.nonces, n'.nonce = n.nonce → n'.consumedAt = some t) ∧
    (Reachable (system env) (fun s call => ¬ call.awaitsDryRun s) s → ∀ j ∈ s.jobs,
      (j.mode = .dryRun → j.status ≠ .succeeded ∧ j.status ≠ .awaitingIssuer) ∧
      (j.mode = .real → j.status ≠ .dryRunComplete)) := by
  have hwf := reachable_wellFormed hreach
  refine ⟨?_, ?_, ?_, ?_⟩
  · intro s' hrun j hj hend
    obtain ⟨hwf', hj'⟩ := run_invariant (I := fun x => j ∈ x.jobs) (Regime.free_timed env)
      (fun _ call _ _ => permits_free call)
      (fun a b hwf hj hm => hm.terminal_stays hwf hj hend) hrun hwf hj
    exact jobById_of_mem hwf' hj'
  · intro agent sequence body reads s' hexec j hj hchanged
    exact ingestResult_changes hwf hexec hj hchanged
  · intro s' hrun n hn t ht
    have hc : ConsumedAt n.nonce t s := by
      refine ⟨(hwf.nonces.fresh n hn).1, ?_⟩
      intro m hm hmn
      rw [hwf.nonces.key.eq_of_mem hm hn hmn]
      exact ht
    exact (run_invariant (I := ConsumedAt n.nonce t) (Regime.free_timed env)
      (fun _ call _ _ => permits_free call)
      (fun a b hwf hc hm => hm.consumedAt hwf hc) hrun hwf hc).2.2
  · intro hcond j hj
    have htimed : (Regime.noDryAwait env).Timed env := Regime.free_timed env
    have hsafe : ModeSafe (Regime.noDryAwait env) s :=
      reachable_invariant htimed (fun _ _ _ h => permits_noDryAwait h)
        (fun a b _ hs hm => hm.modeSafe hs) (by intro j hj; cases hj) hcond
    have hmode := hsafe j hj
    exact ⟨fun hm => ⟨hmode.dryRun hm, fun hs => hmode.await hm hs⟩, hmode.real⟩

/-- A job that was claimed, run and reported: no later run writes it. -/
theorem outcomes_final_demo :
    ∃ j ∈ (play Demo.env (Demo.setup ++ [Demo.renewJob .real none, Demo.claim,
        Demo.succeed 2 3 4])).jobs,
      j.status = .succeeded ∧
      ∀ s', Run (system Demo.env) anyStep
          (play Demo.env (Demo.setup ++ [Demo.renewJob .real none, Demo.claim,
            Demo.succeed 2 3 4])) s' → s'.jobById j.id = some j := by
  have hj : ∃ j ∈ (play Demo.env (Demo.setup ++ [Demo.renewJob .real none, Demo.claim,
      Demo.succeed 2 3 4])).jobs, j.status = .succeeded := by decide
  obtain ⟨j, hj, hst⟩ := hj
  refine ⟨j, hj, hst, fun s' hrun => ?_⟩
  exact (outcomes_final_while_no_dry_await (play_reachable _ _)).1 s' hrun j hj (by rw [hst]; rfl)

/-- A dry run whose enrollment is bound, moved to `awaiting_issuer` by
    `updateCertificateJobStatus`: `assertModeAllowsTerminalStatus` has no case for
    it, where `ingestResult` refuses the same report. -/
theorem dry_run_awaits_issuer :
    ∃ s, Reachable (system Demo.env) anyStep s ∧
      ∃ j ∈ s.jobs, j.mode = .dryRun ∧ j.status = .awaitingIssuer := by
  refine ⟨_, play_reachable Demo.env (Demo.setup ++ [Demo.renewJob .dryRun (some 9),
    .updateCertificateJobStatus
      { workspaceId := 7, jobId := 2, status := .awaitingIssuer, enrollmentId := some 9 }
      .pending .pending fun _ => {}]), ?_⟩
  decide

end TokenTimer.CertOps
