/-
  TokenTimer.Agent.Execution — `executeJob` and `handleSignedJob`
  (`packages/agent/src/index.js`), and the agent over its life.

  A job whose signature, replay, clock and policy gates pass is refused when the
  journal holds an unresolved marker of it.  Otherwise its lease is confirmed, it
  is executed, its result goes to the outbox, is sent, and only then is its
  marker removed.  The process may stop at any operation; what is left is what a
  restart finds.
-/

import TokenTimer.Agent.Renew

namespace TokenTimer.Agent

open Lib.Faulty TokenTimer.Json

/-! ## §1. `executeJob`. -/

def executeDryRunPlan (job : Job) : OnHost Status :=
  match job.planRefusal with
  | some status => pure status
  | none => do
    reportStepEvidence
    pure .dryRunComplete

section Execution

variable (env : Environment)

def executeJob (job : Job) : OnHost Status :=
  match job.action with
  | .noop => do
    reportStepEvidence
    pure (if job.dryRun then .dryRunComplete else .succeeded)
  | .revoke => pure .blocked
  | .unsupported => pure .blocked
  | .distributeTrust | .revokeTrust =>
    if !job.dryRun && env.localDryRun then pure .blocked else executeTrustJob env job true
  | .renew =>
    if job.dryRun then executeDryRunPlan job
    else if env.localDryRun then pure .blocked
    else executeRenewJob env .mayFail job true
  | .deploy =>
    match job.certificatePem with
    | none => pure .blocked
    | some certificatePem =>
      if job.dryRun then executeDryRunPlan job
      else if env.localDryRun then pure .blocked
      else executeDeployJob env .mayFail job certificatePem true
  | .reload =>
    if job.dryRun then executeDryRunPlan job
    else if env.localDryRun then pure .blocked
    else executeReloadJob env job true

/-! ## §2. Results. -/

def Status.text : Status → JsString
  | .succeeded => js "succeeded"
  | .failed => js "failed"
  | .rejected => js "rejected"
  | .blocked => js "blocked"
  | .dryRunComplete => js "dry_run_complete"
  | .orphanedUnknownEffect => js "orphaned_unknown_effect"

/-- A dispatch whose envelope is verified: its job, whether the replay, clock or
    policy gate refuses it, whether the lease heartbeat was lost by the end, and
    what its outbox entry is made of.  The evidence is that of the refusal, or of
    the steps. -/
structure Dispatch where
  job : Job
  claimId : JsString
  nonce : JsString
  refused : Bool
  heartbeatLost : Bool
  randomId : JsString
  createdNow : Stamp
  evidence : List JsValue

/-- The body of `reportResult`, without the members only the control plane
    reads. -/
def Dispatch.result (dispatch : Dispatch) (status : Status) : JsValue :=
  .object .objectPrototype
    [ (js "jobId", .string dispatch.job.jobId),
      (js "attemptId", .string dispatch.job.attemptId),
      (js "claimId", .string dispatch.claimId),
      (js "nonce", .string dispatch.nonce),
      (js "status", .string status.text) ]

def Dispatch.draft (dispatch : Dispatch) (status : Status) (evidence : List JsValue) : Draft where
  id := none
  randomId := dispatch.randomId
  createdAt := none
  createdNow := dispatch.createdNow
  result := dispatch.result status
  evidence := some evidence

def onOutbox {α : Type} (m : Outbox α) : OnHost α :=
  onPart (·.outbox) (fun disk host => { host with outbox := disk }) m

variable (bytes : Content → Nat)

def persistOutcome (dispatch : Dispatch) (status : Status) (evidence : List JsValue) :
    OnHost Entry := do
  let entry ← onOutbox (enqueueOutboxEntry bytes (dispatch.draft status evidence))
  note fun host => { host with
    history := host.history ++ [.recorded dispatch.job.jobId dispatch.job.attemptId] }
  pure entry

/-- `transmitOutboxEntry`: the evidence bodies in order, then the result. -/
def transmitOutboxEntry (dispatch : Dispatch) (entry : Entry) : OnHost Unit := do
  forEach (fun _ => tick) entry.evidence
  op fun host => .ok ((), { host with
    history := host.history ++ [.acknowledged dispatch.job.jobId dispatch.job.attemptId] })

def persistAndTransmitOutcome (dispatch : Dispatch) (status : Status) (evidence : List JsValue) :
    OnHost Status := do
  let entry ← persistOutcome bytes dispatch status evidence
  let _ ← attempt (do
    transmitOutboxEntry dispatch entry
    onOutbox (acknowledgeOutboxEntry 0 entry.id))
  pure status

/-! ## §3. `handleSignedJob`. -/

/-- `executeJob` and the catch block around it. -/
def executeAttempt (dispatch : Dispatch) : OnHost Status := do
  note fun host => { host with
    attempt := (dispatch.job.jobId, dispatch.job.attemptId)
    history := host.history ++ [.started dispatch.job.jobId dispatch.job.attemptId] }
  match ← attempt (executeJob env dispatch.job) with
  | .ok status =>
    -- Lease loss after a clean end is not reported as success.
    if dispatch.heartbeatLost && decide (status = .succeeded ∨ status = .dryRunComplete) then
      pure .blocked
    else pure status
  | .error _ => pure .failed

/-- From the accepted lease on. -/
def runAttempt (dispatch : Dispatch) : OnHost Status := do
  let status ← executeAttempt env dispatch
  -- `assertEvidencePayloadSafe`.
  forEach (fun _ => tick) dispatch.evidence
  let transmitted ← persistAndTransmitOutcome bytes dispatch status dispatch.evidence
  let _ ← attempt (clearJournalOnTerminal dispatch.job.jobId dispatch.job.attemptId)
  pure transmitted

/-- `handleSignedJob` from the verified envelope on. -/
def handleSignedJob (dispatch : Dispatch) : OnHost Status :=
  if dispatch.refused then do
    -- `reportJobRejection`, with `assertEvidencePayloadSafe`.
    forEach (fun _ => tick) dispatch.evidence
    persistAndTransmitOutcome bytes dispatch .rejected dispatch.evidence
  else do
    -- The nonce is consumed.
    tick
    if ← hasUnresolvedJournalForJob dispatch.job.jobId then
      persistAndTransmitOutcome bytes dispatch .orphanedUnknownEffect []
    else do
      if !(← renewJobLeaseOrAbort) then
        persistAndTransmitOutcome bytes dispatch .blocked []
      else runAttempt env bytes dispatch

/-! ## §4. The agent. -/

/-- The host and what of the outbox is under way in the process. -/
structure AgentState where
  host : Host
  drains : List Drain
  nextTag : Nat

def AgentState.fresh : AgentState :=
  ⟨⟨∅, [], ⟨[], [], 0, []⟩, 0, 0, ⟨[], [], [], [], [], []⟩, ([], []), []⟩, [], 0⟩

/-- What the agent does, or what happens to it: an attempt, with the outside
    world's answers and the faults of its operations; a call of the outbox; or
    files that change for other reasons. -/
inductive AgentCall
  | handle (dispatch : Dispatch) (clock : Int) (answers : Answers) (script : List (Fault FileError))
  | outbox (call : Call)
  | filesChange (files : Files) (clock : Nat)

/-- The host as an attempt finds it. -/
def Host.at (host : Host) (clock : Int) (answers : Answers) : Host :=
  { host with outbox := { host.outbox with clock := clock }, answers := answers }

def AgentState.call (isPermanent : Failure → Entry → Option Bool) (agent : AgentState) :
    AgentCall → AgentState
  | .handle dispatch clock answers script =>
    match exec (handleSignedJob env bytes dispatch) script (agent.host.at clock answers) with
    | (.error .crashed, host) => { agent with host := host, drains := [] }
    | (_, host) => { agent with host := host }
  | .outbox call =>
    let process := Process.call bytes isPermanent ⟨agent.host.outbox, agent.drains, agent.nextTag⟩ call
    ⟨{ agent.host with outbox := process.disk }, process.drains, process.nextTag⟩
  | .filesChange files clock => { agent with host := { agent.host with files := files, clock := clock } }

def agentSystem (isPermanent : Failure → Entry → Option Bool) : Lib.Runs.System AgentState AgentCall where
  init agent := agent = .fresh
  step agent call agent' := agent' = agent.call env bytes isPermanent call

end Execution

end TokenTimer.Agent
