/-
  TokenTimer.CertOps.KillSwitch — the workspace kill switch
  (`services/certops/workspaceKillSwitch.js`) and the transactions it is to stop.

  Every call is one transaction, or for `scheduleDueEnrollments` one for each
  candidate.  A statement is one step, and the statements of any number of calls
  interleave.  What a transaction writes is seen by the others when it commits;
  the row locks it takes are held until it ends.  A statement that has to wait
  for a row lock is a step that is not possible yet.

  The pause is a column of the workspace row.  A call that starts certificate
  work locks that row FOR SHARE and reads the column under the lock; a call that
  sets the column locks the row FOR UPDATE.
-/

import TokenTimer.CertOps.Schema
import TokenTimer.Json.Canonical
import TokenTimer.Lib.Runs
import Mathlib.Logic.Function.Basic

namespace TokenTimer.CertOps.KillSwitch

open Lib.Runs TokenTimer.Json

/-! ## §1. The arguments and the row. -/

def CERTOPS_DISABLED : String := "CERTOPS_DISABLED"
def CERTOPS_WORKSPACE_PAUSED : String := "CERTOPS_WORKSPACE_PAUSED"
def CERTOPS_WORKSPACE_NOT_FOUND : String := "CERTOPS_WORKSPACE_NOT_FOUND"
def CERTOPS_WORKSPACE_PAUSE_REASON_INVALID : String := "CERTOPS_WORKSPACE_PAUSE_REASON_INVALID"
def CERTOPS_WORKSPACE_PAUSE_STATE_INVALID : String := "CERTOPS_WORKSPACE_PAUSE_STATE_INVALID"
def CERTOPS_WORKSPACE_APPROVAL_POLICY_STATE_INVALID : String :=
  "CERTOPS_WORKSPACE_APPROVAL_POLICY_STATE_INVALID"
def MAX_CERTOPS_PAUSE_REASON_LENGTH : Nat := 500

/-- `normalizePaused` and `normalizeRequireApprovalAlways`. -/
def normalizeBoolean (error : ServiceError) : JsValue → Except ServiceError Bool
  | .bool b => .ok b
  | _ => .error error

def normalizePaused : JsValue → Except ServiceError Bool :=
  normalizeBoolean ⟨"certOpsPaused must be a boolean", CERTOPS_WORKSPACE_PAUSE_STATE_INVALID⟩

def normalizeRequireApprovalAlways : JsValue → Except ServiceError Bool :=
  normalizeBoolean
    ⟨"requireApprovalAlways must be a boolean", CERTOPS_WORKSPACE_APPROVAL_POLICY_STATE_INVALID⟩

/-- `trim` on code units: what it removes is in the basic plane. -/
def trimUnits (s : JsString) : JsString :=
  let isSpace (c : CodeUnit) : Bool := isJsSpace (Char.ofNat c.val)
  ((s.dropWhile isSpace).reverse.dropWhile isSpace).reverse

/-- `normalizeReason`, before the redactor that prepares the text for the metadata
    of the audit. -/
def normalizeReason : JsValue → Except ServiceError (Option JsString)
  | .undefined => .ok none
  | .null => .ok none
  | .string value =>
    let reason := trimUnits value
    if reason.isEmpty then .ok none
    else if MAX_CERTOPS_PAUSE_REASON_LENGTH < reason.length then
      .error ⟨"reason must not exceed 500 characters", CERTOPS_WORKSPACE_PAUSE_REASON_INVALID⟩
    else if reason.any fun c => c.val ≤ 0x1F || c.val = 0x7F then
      .error ⟨"reason contains control characters", CERTOPS_WORKSPACE_PAUSE_REASON_INVALID⟩
    else .ok (some reason)
  | _ => .error ⟨"reason must be a string", CERTOPS_WORKSPACE_PAUSE_REASON_INVALID⟩

/-- A row of `workspaces`. -/
structure Workspace where
  certopsPaused : Bool
  certopsRequireApprovalAlways : Bool
deriving DecidableEq, Repr

/-- `loadWorkspacePauseState`, and what `lockWorkspaceForCertOpsSideEffect` checks
    on the row it has locked.  Under `skipLocked` a missing row is a skipped one. -/
def lockWorkspaceForCertOpsSideEffect (row : Option Workspace) (certOpsEnabled skipLocked : Bool) :
    Except ServiceError (Option Workspace) :=
  match row with
  | none => if skipLocked then .ok none else .error ⟨"Workspace not found", CERTOPS_WORKSPACE_NOT_FOUND⟩
  | some workspace =>
    if certOpsEnabled = false then
      .error ⟨"CertOps is disabled for this deployment", CERTOPS_DISABLED⟩
    else if workspace.certopsPaused then
      .error ⟨"CertOps is paused for this workspace", CERTOPS_WORKSPACE_PAUSED⟩
    else .ok (some workspace)

/-! ## §2. Audits. -/

/-- The audited actions of the calls that make a job. -/
inductive JobAudit
  | createdManual | createdAutomatic | enrollmentCreated | installationRetryRequested
  | recoveryRequested
deriving DecidableEq, Repr

inductive AuditAction
  | workspacePaused | workspaceResumed | approvalPolicyEnabled | approvalPolicyDisabled
  | job (action : JobAudit)
deriving DecidableEq, Repr

def AuditAction.text : AuditAction → String
  | .workspacePaused => "CERTOPS_WORKSPACE_PAUSED"
  | .workspaceResumed => "CERTOPS_WORKSPACE_RESUMED"
  | .approvalPolicyEnabled => "CERTOPS_WORKSPACE_APPROVAL_POLICY_ENABLED"
  | .approvalPolicyDisabled => "CERTOPS_WORKSPACE_APPROVAL_POLICY_DISABLED"
  | .job .createdManual => "CERTOPS_JOB_CREATED_MANUAL"
  | .job .createdAutomatic => "CERTOPS_JOB_CREATED_AUTOMATIC"
  | .job .enrollmentCreated => "CERTOPS_ENROLLMENT_CREATED"
  | .job .installationRetryRequested => "certops.enrollment.installation_retry_requested"
  | .job .recoveryRequested => "certops.enrollment.recovery_requested"

/-- A row of the audit log. -/
structure Audit where
  workspaceId : Nat
  action : AuditAction
deriving DecidableEq, Repr

/-- What an audit row says of the pause of a workspace. -/
def Audit.transition (workspaceId : Nat) (audit : Audit) : Option Bool :=
  if audit.workspaceId = workspaceId then
    match audit.action with
    | .workspacePaused => some true
    | .workspaceResumed => some false
    | _ => none
  else none

/-- The last change of the pause of a workspace: `some true` after a pause. -/
def lastTransition (workspaceId : Nat) (audits : List Audit) : Option Bool :=
  (audits.filterMap (Audit.transition workspaceId)).getLast?

/-- The audit rows of `setWorkspaceCertOpsSettings`, one for each column that changes. -/
def transitionAudits (workspaceId : Nat) (previous next : Workspace) : List Audit :=
  (if previous.certopsPaused ≠ next.certopsPaused then
    [⟨workspaceId, if next.certopsPaused then .workspacePaused else .workspaceResumed⟩] else []) ++
  (if previous.certopsRequireApprovalAlways ≠ next.certopsRequireApprovalAlways then
    [⟨workspaceId, if next.certopsRequireApprovalAlways then .approvalPolicyEnabled
      else .approvalPolicyDisabled⟩] else [])

/-! ## §3. The transactions. -/

/-- A statement of a transaction, or a stretch of statements that touch neither
    the workspace row nor a job. -/
inductive Stmt
  /-- `lockWorkspaceForCertOpsSideEffect`. -/
  | lockWorkspace (skipLocked : Bool)
  /-- `loadWorkspacePauseState` with `lock: "update"`. -/
  | lockWorkspaceForUpdate
  /-- The UPDATE of the columns that are given and differ, and its audits. -/
  | updateWorkspace (certOpsPaused requireApprovalAlways : Option Bool)
  /-- Reads, checks and writes of other tables, any of which may end the call. -/
  | others
  /-- `INSERT INTO certificate_enrollments`. -/
  | insertEnrollment
  /-- `createCertificateJob`, and the audit of a job that is new. -/
  | createCertificateJob (audit : Option JobAudit)
  /-- The selection of `claimJobs` and its UPDATE of every row that is claimed. -/
  | claimRows
deriving DecidableEq, Repr

/-- The calls, with the arguments that decide which statements they make. -/
inductive Call
  | setWorkspaceCertOpsPauseState (workspaceId : Nat) (certOpsPaused reason : JsValue)
  | setWorkspaceCertOpsRequireApprovalAlways (workspaceId : Nat) (requireApprovalAlways : JsValue)
  | setWorkspaceCertOpsSettings (workspaceId : Nat)
      (certOpsPaused requireApprovalAlways reason : JsValue)
  | createManualCertificateJob (workspaceId : Nat)
  /-- `adcs`: `createAutomaticAdcsRenewal` makes the job. -/
  | createRenewalJobForCertificate (workspaceId : Nat) (adcs : Bool)
  | createEnrollment (workspaceId : Nat) (source : JobSource)
  | scheduleDueEnrollments
  | retryEnrollmentInstallation (workspaceId : Nat)
  | recoverOrphanedEnrollment (workspaceId : Nat)
  /-- `deployments`: the consumers of the wave that get a job. -/
  | advanceRollout (workspaceId deployments : Nat)
  | claimJobs (workspaceId : Nat)

/-- A field that may be absent. -/
def optionalField (normalize : JsValue → Except ServiceError Bool) :
    JsValue → Except ServiceError (Option Bool)
  | .undefined => .ok none
  | value => (normalize value).map some

/-- The transaction of `createEnrollment`. -/
def enrollmentTransaction (source : JobSource) : List Stmt :=
  (if source = .automation then [.lockWorkspace false] else []) ++
    [.others, .insertEnrollment, .createCertificateJob (some .enrollmentCreated), .others]

/-- The statements of a call's transaction; an argument that is refused throws
    before there is one. -/
def Call.transaction : Call → Except ServiceError (List Stmt)
  | .setWorkspaceCertOpsPauseState _ certOpsPaused reason => do
    let paused ← normalizePaused certOpsPaused
    let _ ← normalizeReason reason
    return [.lockWorkspaceForUpdate, .updateWorkspace (some paused) none]
  | .setWorkspaceCertOpsRequireApprovalAlways _ requireApprovalAlways => do
    let requireApproval ← normalizeRequireApprovalAlways requireApprovalAlways
    return [.lockWorkspaceForUpdate, .updateWorkspace none (some requireApproval)]
  | .setWorkspaceCertOpsSettings _ certOpsPaused requireApprovalAlways reason => do
    let paused ← optionalField normalizePaused certOpsPaused
    let requireApproval ← optionalField normalizeRequireApprovalAlways requireApprovalAlways
    let _ ← normalizeReason reason
    return [.lockWorkspaceForUpdate, .updateWorkspace paused requireApproval]
  | .createManualCertificateJob _ =>
    .ok [.lockWorkspace false, .createCertificateJob (some .createdManual), .others]
  | .createRenewalJobForCertificate _ adcs =>
    .ok (if adcs then enrollmentTransaction .automation
      else [.lockWorkspace false, .others, .createCertificateJob (some .createdAutomatic), .others])
  | .createEnrollment _ source => .ok (enrollmentTransaction source)
  -- No lock of the workspace: the enrollment is loaded, decided and written.
  | .scheduleDueEnrollments => .ok [.others, .createCertificateJob none, .others]
  | .retryEnrollmentInstallation _ =>
    .ok [.lockWorkspace false, .others, .createCertificateJob (some .installationRetryRequested),
      .others]
  | .recoverOrphanedEnrollment _ =>
    .ok [.lockWorkspace false, .others, .createCertificateJob (some .recoveryRequested), .others]
  | .advanceRollout _ deployments =>
    .ok ([.lockWorkspace false, .others] ++
      (List.replicate deployments [.createCertificateJob none, .others]).flatten ++ [.others])
  -- The sequence check comes first, the touch of the agent row after the lock.
  | .claimJobs _ => .ok [.others, .lockWorkspace true, .others, .claimRows]

/-- The workspaces of a call's transactions.  `scheduleDueEnrollments` reads its
    candidates over all workspaces, before any transaction. -/
def Call.workspaces (candidates : List Nat) : Call → List Nat
  | .setWorkspaceCertOpsPauseState w _ _ | .setWorkspaceCertOpsRequireApprovalAlways w _
  | .setWorkspaceCertOpsSettings w _ _ _ | .createManualCertificateJob w
  | .createRenewalJobForCertificate w _ | .createEnrollment w _ | .retryEnrollmentInstallation w
  | .recoverOrphanedEnrollment w | .advanceRollout w _ | .claimJobs w => [w]
  | .scheduleDueEnrollments => candidates

/-- The calls that insert a job and take no lock of the workspace. -/
def Call.isUnlocked : Call → Bool
  | .createEnrollment _ source => source ≠ .automation
  | .scheduleDueEnrollments => true
  | _ => false

/-! ## §4. The state. -/

/-- `FOR KEY SHARE` (the foreign key of an INSERT), `FOR SHARE` and `FOR UPDATE`. -/
inductive LockMode
  | keyShare | share | update
deriving DecidableEq, Repr

def LockMode.conflicts : LockMode → LockMode → Bool
  | .update, _ | _, .update => true
  | _, _ => false

inductive Row
  | workspace (id : Nat)
  | job (id : Nat)
deriving DecidableEq, Repr

structure RowLock where
  holder : Nat
  row : Row
  mode : LockMode
deriving DecidableEq, Repr

/-- A row of `certificate_jobs`. -/
structure Job where
  workspaceId : Nat
  status : JobStatus
  attemptCount : Nat
deriving DecidableEq, Repr

/-- What `claimJobs` does with a row it has selected. -/
inductive Verdict
  | claimed | passedOver | rejected | blocked
deriving DecidableEq, Repr

/-- A call in its transaction: what it has read and written, and what is left. -/
structure Session where
  call : Call
  /-- The statements of a transaction of the call. -/
  program : List Stmt
  workspaceId : Nat
  rest : List Stmt
  /-- The workspaces of the transactions that come after this one. -/
  later : List Nat
  workspace : Option Workspace
  setting : Option Workspace
  inserted : List (Nat × Job)
  verdicts : List (Nat × Verdict)
  audits : List Audit

def Session.begin (call : Call) (program : List Stmt) : List Nat → Option Session
  | [] => none
  | workspaceId :: later =>
    some { call, program, workspaceId, rest := program, later, workspace := none, setting := none
           inserted := [], verdicts := [], audits := [] }

/-- The committed rows, the row locks, and the calls in progress. -/
structure State where
  certOpsEnabled : Bool
  workspaces : Nat → Option Workspace
  jobs : Nat → Option Job
  audits : List Audit
  locks : List RowLock
  sessions : Nat → Option Session

/-- No call has begun, nothing is paused. -/
structure State.Initial (s : State) : Prop where
  sessions : ∀ c, s.sessions c = none
  locks : s.locks = []
  audits : s.audits = []
  workspaces : ∀ id row, s.workspaces id = some row → row.certopsPaused = false

/-- Another call holds a lock on the row that conflicts with `mode`. -/
def State.isLocked (s : State) (c : Nat) (row : Row) (mode : LockMode) : Bool :=
  s.locks.any fun l => l.holder ≠ c && l.row = row && l.mode.conflicts mode

/-- The call goes on to `session`, with more locks. -/
def State.goOn (s : State) (c : Nat) (session : Session) (locks : List RowLock) : State :=
  { s with locks := locks ++ s.locks, sessions := Function.update s.sessions c (some session) }

def State.endTransaction (s : State) (c : Nat) (x : Session) : State :=
  { s with
    locks := s.locks.filter fun l => l.holder ≠ c
    sessions := Function.update s.sessions c (Session.begin x.call x.program x.later) }

/-- The row of a job after the UPDATEs of a claim. -/
def Job.judged (j : Job) : Verdict → Job
  | .claimed => { j with status := .claimed, attemptCount := j.attemptCount + 1 }
  | .passedOver => j
  | .rejected => { j with status := .rejected }
  | .blocked => { j with status := .blocked }

/-- The jobs after a transaction: its rows, and those it has updated. -/
def Session.jobsAfter (x : Session) (jobs : Nat → Option Job) (id : Nat) : Option Job :=
  match jobs id with
  | none => x.inserted.lookup id
  | some j => some (((x.verdicts.lookup id).map j.judged).getD j)

def Session.workspacesAfter (x : Session) (workspaces : Nat → Option Workspace) :
    Nat → Option Workspace :=
  match x.setting with
  | none => workspaces
  | some row => Function.update workspaces x.workspaceId (some row)

def State.commit (s : State) (c : Nat) (x : Session) : State :=
  { s with
    workspaces := x.workspacesAfter s.workspaces
    jobs := x.jobsAfter s.jobs
    audits := s.audits ++ x.audits }.endTransaction c x

/-! ## §5. The statements. -/

/-- What the database or the code around a statement answers. -/
inductive Answer
  /-- The statement goes on.  An INSERT gives the row this id and this status. -/
  | done (id : Nat) (status : JobStatus)
  /-- The idempotency key is taken: `createCertificateJob` returns the stored job. -/
  | replayed
  /-- A check ends the callback without an error. -/
  | returns
  /-- An error ends the callback. -/
  | throws
  /-- The rows `claimJobs` has selected, and what it does with each. -/
  | selected (rows : List (Nat × Verdict))
deriving DecidableEq, Repr

/-- A row that the selection of `claimJobs` may take. -/
def State.isClaimable (s : State) (c workspaceId id : Nat) : Bool :=
  match s.jobs id with
  | none => false
  | some j =>
    j.workspaceId = workspaceId && (j.status = .pending || j.status = .claimed) &&
      !s.isLocked c (.job id) .update

/-- A transaction whose callback has returned: COMMIT is what is left. -/
def Session.return (x : Session) : Session := { x with rest := [] }

/-- One statement of the call `c`; `none` where it waits, or where the answer is
    not one of this statement. -/
def runStmt (s : State) (c : Nat) (x : Session) : Stmt → Answer → Option State
  -- A failed statement, whichever it is: ROLLBACK.
  | _, .throws => some (s.endTransaction c x)
  | .lockWorkspace skipLocked, .done _ _ =>
    if s.isLocked c (.workspace x.workspaceId) .share then
      if skipLocked then some (s.goOn c x.return []) else none
    else
      match lockWorkspaceForCertOpsSideEffect (s.workspaces x.workspaceId) s.certOpsEnabled
          skipLocked with
      | .error _ => some (s.endTransaction c x)
      | .ok none => some (s.goOn c x.return [])
      | .ok (some row) =>
        some (s.goOn c { x with workspace := some row } [⟨c, .workspace x.workspaceId, .share⟩])
  | .lockWorkspaceForUpdate, .done _ _ =>
    if s.isLocked c (.workspace x.workspaceId) .update then none
    else
      match s.workspaces x.workspaceId with
      | none => some (s.endTransaction c x)
      | some row =>
        some (s.goOn c { x with workspace := some row } [⟨c, .workspace x.workspaceId, .update⟩])
  | .updateWorkspace certOpsPaused requireApprovalAlways, .done _ _ =>
    match x.workspace with
    | none => none
    | some previous =>
      let next : Workspace :=
        ⟨certOpsPaused.getD previous.certopsPaused,
          requireApprovalAlways.getD previous.certopsRequireApprovalAlways⟩
      if next = previous then some (s.goOn c x [])
      else
        some (s.goOn c { x with
          setting := some next
          audits := x.audits ++ transitionAudits x.workspaceId previous next } [])
  | .others, .done _ _ => some (s.goOn c x [])
  | .others, .returns => some (s.goOn c x.return [])
  -- The foreign key locks the workspace row, and throws if there is none.
  | .insertEnrollment, .done _ _ =>
    if s.isLocked c (.workspace x.workspaceId) .keyShare then none
    else if (s.workspaces x.workspaceId).isNone then some (s.endTransaction c x)
    else some (s.goOn c x [⟨c, .workspace x.workspaceId, .keyShare⟩])
  | .createCertificateJob audit, .done id status =>
    if s.isLocked c (.workspace x.workspaceId) .keyShare then none
    else if (s.workspaces x.workspaceId).isNone then some (s.endTransaction c x)
    else
      some (s.goOn c { x with
        inserted := x.inserted ++ [(id, ⟨x.workspaceId, status, 0⟩)]
        audits := x.audits ++ (audit.map fun a => ⟨x.workspaceId, .job a⟩).toList }
        [⟨c, .workspace x.workspaceId, .keyShare⟩])
  | .createCertificateJob _, .replayed => some (s.goOn c x [])
  | .claimRows, .selected rows =>
    if rows.all fun r => s.isClaimable c x.workspaceId r.1 then
      some (s.goOn c { x with verdicts := rows } (rows.map fun r => ⟨c, .job r.1, .update⟩))
    else none
  | _, _ => none

/-! ## §6. The system. -/

/-- What may happen next. -/
inductive Action
  | begin (c : Nat) (call : Call) (candidates : List Nat)
  | run (c : Nat) (answer : Answer)
  | commit (c : Nat)
  /-- The deployment's rollout flag. -/
  | setCertOpsEnabled (enabled : Bool)
  | createWorkspace (id : Nat) (requireApprovalAlways : Bool)
  /-- A statement on a job by any other writer: the results, the lease reaper, a
      decision on an approval. -/
  | writeJob (id : Nat) (status : JobStatus)

/-- One step, where it is possible. -/
def next (s : State) : Action → Option State
  | .begin c call candidates =>
    match s.sessions c, call.transaction with
    | none, .ok program =>
      some { s with
        sessions := Function.update s.sessions c
          (Session.begin call program (call.workspaces candidates)) }
    | _, _ => none
  | .run c answer =>
    match s.sessions c with
    | none => none
    | some x =>
      match x.rest with
      | [] => none
      | stmt :: rest => runStmt s c { x with rest } stmt answer
  | .commit c =>
    match s.sessions c with
    | none => none
    | some x =>
      -- The primary key of the rows it has inserted.
      if x.rest = [] ∧ x.inserted.all (fun r => (s.jobs r.1).isNone) then some (s.commit c x) else none
  | .setCertOpsEnabled enabled => some { s with certOpsEnabled := enabled }
  | .createWorkspace id requireApprovalAlways =>
    if (s.workspaces id).isNone then
      some { s with workspaces := Function.update s.workspaces id (some ⟨false, requireApprovalAlways⟩) }
    else none
  | .writeJob id status =>
    match s.jobs id with
    | none => none
    | some j =>
      if status = .claimed ∨ s.locks.any (fun l => l.row = .job id) then none
      else some { s with jobs := Function.update s.jobs id (some { j with status }) }

/-- The calls on the workspaces and jobs of a deployment. -/
def killSwitch : System State Action where
  init := State.Initial
  step s a t := next s a = some t

/-! ## §7. The property, and the condition. -/

/-- A pause of the workspace has committed, and no resume since. -/
def PauseStands (s : State) (workspaceId : Nat) : Prop :=
  lastTransition workspaceId s.audits = some true

/-- Between `s` and `t` a job of the workspace is inserted, or moved to `claimed`. -/
def StartsWork (s t : State) (workspaceId : Nat) : Prop :=
  ∃ id j, t.jobs id = some j ∧ j.workspaceId = workspaceId ∧
    (s.jobs id = none ∨ ∃ i, s.jobs id = some i ∧ j.status = .claimed ∧ i ≠ j)

/-- The workspace of the INSERT of a job that `c` is at, if its call takes no lock of
    the workspace. -/
def State.unlockedInsert (s : State) (c : Nat) : Option Nat :=
  match s.sessions c with
  | none => none
  | some x =>
    match x.rest with
    | .createCertificateJob _ :: _ => if x.call.isUnlocked then some x.workspaceId else none
    | _ => none

/-- **THE CONDITION**: `scheduleDueEnrollments`, and `createEnrollment` for a source
    other than `automation`, make their INSERT of a job in no workspace whose pause
    stands. -/
def heedsPause (s : State) : Action → Bool
  | .run c (.done _ _) => (s.unlockedInsert c).all fun w => lastTransition w s.audits ≠ some true
  | _ => true

/-- The steps in the condition. -/
def HeedsPause (s : State) (a : Action) : Prop := heedsPause s a = true

end TokenTimer.CertOps.KillSwitch
