/-
  TokenTimer.CertOps.NonceWindow — a late result is still reportable.

  A dispatch nonce is issued with the lease of its claim and moves on with every
  renewal.  In between, the nonce sweep deletes rows by `expires_at` alone: it
  does not look at the job.  As long as it takes no nonce of a claim that a live
  job records, every claim has its open nonce, and the nonce outlives the lease by
  the hard grace.

  Main results:
    * `Window`, `Move.window` — the invariant and its step lemma.
    * `nonce_window_while_unswept` — the window of every claim, and the result in it.
-/

import TokenTimer.CertOps.SystemRefinement

namespace TokenTimer.CertOps

open Lib.Table Lib.Runs

variable {R : Regime} {env : Env} {db db' : Db}

/-! ## §1. The open nonce of a claim. -/

/-- The nonce row of the claim `c` of a job: open, bound to the holder, and alive
    for the window after the lease. -/
structure OpenNonce (R : Regime) (j : JobRow) (c agent lease : Nat) (n : NonceRow) : Prop where
  claim : n.claimId = c
  job : n.jobId = j.id
  workspace : n.workspaceId = j.workspaceId
  agent : n.issuedToAgentId = some agent
  unconsumed : n.consumedAt = none
  window : lease + R.windowMs ≤ n.expiresAt

/-- The window of a job: while it lives, its claim has a lease and an open nonce. -/
def JobWindow (R : Regime) (nonces : List NonceRow) (j : JobRow) : Prop :=
  isTerminalJobStatus j.status = false → ∀ c, j.claimId = some c →
    ∃ agent lease, j.claimedByAgentId = some agent ∧ j.leaseExpiresAt = some lease ∧
      ∃ n ∈ nonces, OpenNonce R j c agent lease n

/-- EVERY LIVE CLAIM HAS ITS WINDOW. -/
def Window (R : Regime) (db : Db) : Prop :=
  ∀ j ∈ db.jobs, JobWindow R db.nonces j

variable {j j' : JobRow} {nonces : List NonceRow} {id : Nat}

theorem JobWindow.of_unclaimed (h : j.claimId = none) :
    JobWindow R nonces j := by
  intro _ c hc
  rw [h] at hc
  cases hc

/-- The window survives any change of the ledger that keeps the rows of the job. -/
theorem JobWindow.mono {nonces' : List NonceRow} (h : JobWindow R nonces j)
    (hkeep : ∀ n ∈ nonces, n.jobId = j.id → n ∈ nonces') : JobWindow R nonces' j := by
  intro hlive c hc
  obtain ⟨agent, lease, hagent, hlease, n, hn, hopen⟩ := h hlive c hc
  exact ⟨agent, lease, hagent, hlease, n, hkeep n hn hopen.job, hopen⟩

/-! ## §2. One step of a job. -/

theorem NonceMove.other (h : NonceMove R db j j' id nonces) {n : NonceRow} (hn : n ∈ db.nonces)
    (hne : n.jobId ≠ j.id) : n ∈ nonces := by
  cases h with
  | keep id hid hclaim => exact hn
  | claim agent lease expiry hfrom hstatus hclaim hwindow => exact List.mem_append_left _ hn
  | extend agent lease expiry howner hstatus hclaim hwindow =>
    refine mem_updateWhere.mpr ⟨n, hn, if_neg ?_⟩
    intro hp
    exact hne (of_decide_eq_true hp).1
  | consume p hopen hend hclaim =>
    refine mem_updateWhere.mpr ⟨n, hn, if_neg ?_⟩
    intro hp
    exact hne (hopen n hp).2

theorem NonceMove.window (h : NonceMove R db j j' id nonces) (hstep : JobStep R j j')
    (hw : JobWindow R db.nonces j) :
    JobWindow R nonces j' := by
  have hid : j'.id = j.id := congrArg JobSpec.id hstep.spec
  have hws : j'.workspaceId = j.workspaceId := congrArg JobSpec.workspaceId hstep.spec
  cases h with
  | keep id _ hclaim =>
    obtain hsame | hnone | ⟨hend, -⟩ := hclaim
    · -- The claim columns are those of `j`, which was alive.
      have hc : j'.claimId = j.claimId := congrArg Prod.fst hsame
      have ha : j'.claimedByAgentId = j.claimedByAgentId := congrArg (·.2.1) hsame
      have hl : j'.leaseExpiresAt = j.leaseExpiresAt := congrArg (·.2.2) hsame
      intro _ c hc'
      obtain ⟨agent, lease, hagent, hlease, n, hn, hopen⟩ := hw hstep.live c (hc ▸ hc')
      exact ⟨agent, lease, ha ▸ hagent, hl ▸ hlease, n, hn,
        ⟨hopen.claim, hid ▸ hopen.job, hws ▸ hopen.workspace, hopen.agent, hopen.unconsumed,
          hopen.window⟩⟩
    · exact .of_unclaimed hnone
    · intro hlive
      rw [hend] at hlive
      cases hlive
  | claim agent lease expiry hfrom hstatus hclaim hwindow =>
    have hc : j'.claimId = some db.nextId := congrArg Prod.fst hclaim
    have ha : j'.claimedByAgentId = some agent := congrArg (·.2.1) hclaim
    have hl : j'.leaseExpiresAt = some lease := congrArg (·.2.2) hclaim
    intro _ c hc'
    rw [hc] at hc'
    cases hc'
    exact ⟨agent, lease, ha, hl, _, List.mem_append_right _ (List.mem_singleton.mpr rfl),
      ⟨rfl, hid.symm, hws.symm, rfl, rfl, hwindow⟩⟩
  | extend agent lease expiry howner hstatus hclaim hwindow =>
    have hc : j'.claimId = j.claimId := congrArg Prod.fst hclaim
    have ha : j'.claimedByAgentId = some agent := congrArg (·.2.1) hclaim
    have hl : j'.leaseExpiresAt = some lease := congrArg (·.2.2) hclaim
    intro _ c hc'
    obtain ⟨agent₀, lease₀, hagent₀, -, n, hn, hopen⟩ := hw hstep.live c (hc ▸ hc')
    rw [howner] at hagent₀
    cases hagent₀
    -- The open nonce of the claim is one of those the renewal extends.
    have hp : (decide (n.jobId = j.id ∧ n.workspaceId = j.workspaceId ∧ n.consumedAt = none ∧
        (n.issuedToAgentId = none ∨ n.issuedToAgentId = some agent))) = true :=
      decide_eq_true ⟨hopen.job, hopen.workspace, hopen.unconsumed, .inr hopen.agent⟩
    refine ⟨agent, lease, ha, hl, { n with expiresAt := expiry }, ?_, ?_⟩
    · exact mem_updateWhere.mpr ⟨n, hn, if_pos hp⟩
    · exact ⟨hopen.claim, hopen.job.trans hid.symm, hopen.workspace.trans hws.symm, hopen.agent,
        hopen.unconsumed, hwindow⟩
  | consume p hopen hend hclaim =>
    intro hlive
    rw [hend] at hlive
    cases hlive

theorem Window.step (hw : Window R db) (hj : j ∈ db.jobs) (hstep : JobStep R j j')
    (h : NonceMove R db j j' id nonces) :
    ∀ x ∈ replaceJob j' db.jobs, JobWindow R nonces x := by
  have hid : j'.id = j.id := congrArg JobSpec.id hstep.spec
  intro x hx
  obtain ⟨hx, hne⟩ | ⟨rfl, -⟩ := mem_replaceByKey.mp hx
  · refine (hw x hx).mono fun n hn hnx => h.other hn ?_
    rw [hnx, ← hid]
    exact hne
  · exact h.window hstep (hw j hj)

/-! ## §3. Every move. -/

/-- The regime in which no sweep takes the nonce of a claim on a live job. -/
def Regime.noLiveSweep (env : Env) : Regime :=
  { Regime.free env with
    sweep := fun jobs n => ∀ j ∈ jobs, j.claimId = some n.claimId →
      isTerminalJobStatus j.status = true }

/-- **EVERY MOVE KEEPS THE WINDOWS.** -/
theorem Move.window (h : Move (Regime.noLiveSweep env) db db')
    (hw : Window (Regime.noLiveSweep env) db) : Window (Regime.noLiveSweep env) db' := by
  have hnew : ∀ job : JobRow, job.claimId = none →
      ∀ x ∈ db.jobs ++ [job], JobWindow (Regime.noLiveSweep env) db.nonces x := by
    intro job hnone x hx
    rw [List.mem_append, List.mem_singleton] at hx
    obtain hx | rfl := hx
    · exact hw x hx
    · exact .of_unclaimed hnone
  cases h with
  | frame hnow hid hjobs hnonces hrows hledger =>
    intro j hj
    rw [hnonces]
    rw [hjobs] at hj
    exact hw j hj
  | create job hid hnew' hother => exact hnew job hnew'.unclaimed
  | trustJob row row' job hrow hid hnew' hfor hadv hrevoke => exact hnew job hnew'.unclaimed
  | job hj hstep hnonce => exact hw.step hj hstep hnonce
  | settle row row' hj hflight hstep hend hnonce hrow hlast hset htrust hinstall =>
    exact hw.step hj hstep hnonce
  | sweep p hp =>
    -- A swept nonce is that of no live claim.
    intro j hj hlive c hc
    obtain ⟨agent, lease, hagent, hlease, n, hn, hopen⟩ := hw j hj hlive c hc
    refine ⟨agent, lease, hagent, hlease, n, mem_deleteWhere.mpr ⟨hn, ?_⟩, hopen⟩
    by_contra hswept
    have hend := hp n hn (by simpa using hswept) j hj (by rw [hopen.claim]; exact hc)
    rw [hlive] at hend
    cases hend
  | addRow | release | unwindDelete | unwindRevert | note => exact hw

/-! ## §4. The window of every claim. -/

/-- The call sweeps a nonce of a claim that a live job records. -/
def Call.sweepsLiveNonce (db : Db) : Call → Prop
  | .sweepExpiredNonces picked =>
    ∃ n ∈ db.nonces, (picked n && nonceSweepable db.now n) = true ∧
      ∃ j ∈ db.jobs, j.claimId = some n.claimId ∧ isTerminalJobStatus j.status = false
  | _ => False

theorem permits_noLiveSweep {call : Call} (h : ¬ call.sweepsLiveNonce db) :
    Permits (Regime.noLiveSweep env) db call := by
  cases call with
  | sweepExpiredNonces picked =>
    intro n hn hp j hj hclaim
    by_contra hlive
    exact h ⟨n, hn, hp, j, hj, hclaim, by simpa using hlive⟩
  | _ => simp [Permits, Regime.noLiveSweep, Regime.free, Regime.any]

/-- **LATE RESULTS STAY REPORTABLE** in every run whose sweeps take no nonce of a
    claim on a live job: a claimed or running job has, for its claim, an
    unconsumed nonce that expires no earlier than the lease plus the hard grace,
    and the holder's result at any time up to then finds it consumable. -/
theorem nonce_window_while_unswept {s : Db}
    (hreach : Reachable (system env) (fun s call => ¬ call.sweepsLiveNonce s) s) :
    ∀ j ∈ s.jobs, j.status.inFlight = true → ∀ c, j.claimId = some c →
      ∃ agent lease, j.claimedByAgentId = some agent ∧ j.leaseExpiresAt = some lease ∧
        ∃ n ∈ s.nonces, n.claimId = c ∧ n.jobId = j.id ∧ n.consumedAt = none ∧
          lease + leaseHardGraceMs env.timing ≤ n.expiresAt ∧
          (s.now ≤ lease + leaseHardGraceMs env.timing →
            (consumeNonce (some n.nonce) j.id j.workspaceId agent s).1 = .consumed) := by
  have htimed : (Regime.noLiveSweep env).Timed env := Regime.free_timed env
  have hw : Window (Regime.noLiveSweep env) s :=
    reachable_invariant htimed (fun _ _ _ h => permits_noLiveSweep h)
      (fun _ _ _ hw hm => hm.window hw) (by intro j hj; cases hj) hreach
  intro j hj hflight c hc
  obtain ⟨agent, lease, hagent, hlease, n, hn, hopen⟩ := hw j hj (inFlight_live hflight) c hc
  have hwindow : lease + (leaseHardGraceMs env.timing + NONCE_TTL_GRACE_SECONDS * 1000) ≤
      n.expiresAt := hopen.window
  have hgrace : lease + leaseHardGraceMs env.timing < n.expiresAt := by
    refine lt_of_lt_of_le ?_ hwindow
    rw [← Nat.add_assoc]
    exact Nat.lt_add_of_pos_right (by decide)
  refine ⟨agent, lease, hagent, hlease, n, hn, hopen.claim, hopen.job, hopen.unconsumed,
    hgrace.le, ?_⟩
  intro hnow
  have hconsumable : nonceConsumable s.now n.nonce j.id j.workspaceId agent n = true :=
    nonceConsumable_iff.mpr ⟨rfl, hopen.job, hopen.workspace, .inr hopen.agent, hopen.unconsumed,
      hnow.trans_lt hgrace⟩
  unfold consumeNonce
  simp only
  rw [if_pos (List.any_eq_true.mpr ⟨n, hn, hconsumable⟩)]

/-- A fresh claim: its result is accepted at any time of the window. -/
theorem nonce_window_demo :
    ∃ j ∈ (play Demo.env (Demo.setup ++ [Demo.renewJob .real none, Demo.claim])).jobs,
      j.status.inFlight = true ∧ j.claimId = some 3 ∧
      ∃ agent lease, j.claimedByAgentId = some agent ∧ j.leaseExpiresAt = some lease ∧
        ∃ n ∈ (play Demo.env (Demo.setup ++ [Demo.renewJob .real none, Demo.claim])).nonces,
          n.claimId = 3 ∧ n.consumedAt = none ∧
          lease + leaseHardGraceMs Demo.env.timing ≤ n.expiresAt := by
  have hj : ∃ j ∈ (play Demo.env (Demo.setup ++ [Demo.renewJob .real none, Demo.claim])).jobs,
      j.status.inFlight = true ∧ j.claimId = some 3 := by decide
  obtain ⟨j, hj, hflight, hc⟩ := hj
  have hreach : Reachable (system Demo.env) (fun s call => ¬ call.sweepsLiveNonce s)
      (play Demo.env (Demo.setup ++ [Demo.renewJob .real none, Demo.claim])) := by
    refine play_reachable_of_forall _ _ ?_
    intro call hcall db
    simp only [Demo.setup, List.cons_append, List.nil_append, List.mem_cons,
      List.not_mem_nil, or_false] at hcall
    obtain rfl | rfl | rfl | rfl | rfl := hcall <;> exact id
  obtain ⟨agent, lease, hagent, hlease, n, hn, hclaim, -, hopen, hexp, -⟩ :=
    nonce_window_while_unswept hreach j hj hflight 3 hc
  exact ⟨j, hj, hflight, hc, agent, lease, hagent, hlease, n, hn, hclaim, hopen, hexp⟩

/-- The reaper is late: the sweep deletes the nonce of a claim that is still on
    record, the agent renews its lease, and the result it sends within the NEW
    lease is refused for its nonce. -/
theorem swept_nonce_refuses_result :
    ∃ s, Reachable (system Demo.env) anyStep s ∧
      (∃ j ∈ s.jobs, j.id = 2 ∧ j.status = .running ∧ j.claimId = some 3 ∧
        j.claimedByAgentId = some 0 ∧ (j.leaseExpiresAt.any fun lease => s.now ≤ lease) = true) ∧
      (∀ n ∈ s.nonces, n.claimId ≠ 3) ∧
      refusalCode (exec Demo.env (Demo.succeed 2 3 4) s) =
        some CERTOPS_AGENT_RESULT_NONCE_REJECTED := by
  refine ⟨_, play_reachable Demo.env (Demo.setup ++ [Demo.renewJob .real none, Demo.claim,
    .tick 8400001, .sweepExpiredNonces fun _ => true, Demo.renewLease 2 3]), ?_, ?_, ?_⟩ <;> decide

end TokenTimer.CertOps
