/-
  TokenTimer.Agent.DeployTail — deploy, reload and verify over the targets of a
  job, and the rollbacks (`packages/agent/src/index.js`).

  One target rolls itself back.  Several targets keep their backups until all of
  them are verified; when one fails, those that were written are taken back in
  reverse order.
-/

import TokenTimer.Agent.Deploy
import TokenTimer.Agent.Journal

namespace TokenTimer.Agent

open Lib.Faulty TokenTimer.Json

/-- The status of a job's result. -/
inductive Status
  | succeeded
  | failed
  | rejected
  | blocked
  | dryRunComplete
  | orphanedUnknownEffect
deriving DecidableEq

/-- `reloadCommandRefs` with both references. -/
structure ReloadCommandRefs where
  validate : JsString
  reload : JsString
deriving DecidableEq

/-- The members of a job that its targets share, and its own target's
    reference. -/
structure TailJob where
  reference : JsString
  reloadCommandRefs : Option ReloadCommandRefs
  verifyHost : Option JsString
deriving DecidableEq

/-- A target as `resolveJobDeployTargets` gives it. -/
structure DeployTarget where
  type : JsString
  reference : JsString
  certPath : Path
  keyPath : Option Path
  chainPath : Option Path
  reloadService : Option JsString
  optionsValid : Bool
  backupDir : Option Path
  backupRetentionCount : Option Nat
deriving DecidableEq

/-- What a step returns for the result of the job. -/
structure StepOutcome where
  status : Status
  deployResult : Option DeployResult
deriving DecidableEq

section Tail

variable (env : Environment) (mode : Restoring)

/-! ## §1. Reloading. -/

/-- `reloadService`: the service is touched; whether it reloaded. -/
def reloadService : OnHost Bool := do
  mutation
  answer (·.reloads) (fun answers rest => { answers with reloads := rest }) true

def leaseGate (leaseOpts : Bool) : OnHost Bool :=
  if leaseOpts then renewJobLeaseOrAbort else pure true

/-- `null` is no reload step. -/
def maybeReloadForJob (job : TailJob) (service : Option JsString) (leaseOpts : Bool) :
    OnHost (Option Status) :=
  match service, job.reloadCommandRefs with
  | none, _ => pure none
  | some _, none => pure (some .failed)
  | some _, some refs =>
    if !env.checkCommandRef refs.validate then pure (some .rejected)
    else if !env.checkCommandRef refs.reload then pure (some .rejected)
    else do
      if !(← leaseGate leaseOpts) then pure (some .blocked)
      else do
        let reloaded ← reloadService
        reportStepEvidence
        pure (some (if reloaded then .succeeded else .failed))

/-! ## §2. The rollback of one target. -/

inductive Rollback
  | rolledBack
  | notRolledBack
  | orphanedFirstDeploy
deriving DecidableEq

def DeployTarget.restoreTarget (target : DeployTarget) (destination : Path) (keyPath : Option Path) :
    Target where
  type := target.type
  reference := target.reference
  certPath := destination
  keyPath := keyPath
  chainPath := none
  backupDir := none
  optionsValid := true
  backupRetentionCount := none

/-- `copyFileSync`. -/
def copyFile (source destination : Path) : OnHost Unit := do
  let content ← readFile source
  overwriteFile destination content

def Path.restoreStagingOf (backup : Path) : Path := .restoreStaging backup

/-- The restoring deploy: the pair, or the certificate alone. -/
def restoreDeployment (target : DeployTarget) (deployment : Deployment) (previousPem : JsString) :
    OnHost DeployResult :=
  match deployment.keyBackup, deployment.keyDestination with
  | some keyBackup, some liveKeyPath =>
    ensure
      (do
        copyFile keyBackup (.restoreStaging keyBackup)
        deployCertificateAndKey env mode (target.restoreTarget deployment.destination (some liveKeyPath))
          liveKeyPath previousPem (.restoreStaging keyBackup) none false)
      (removeFileForce (.restoreStaging keyBackup))
  | _, _ =>
    deployCertificate env mode (target.restoreTarget deployment.destination none) previousPem none

def DeployResult.inPlace : DeployResult → Bool
  | .failed _ _ => false
  | _ => true

/-- The custody key follows the restored pair.  What comes of it is only
    logged. -/
def restoreCustody (deployment : Deployment) (previousPem : JsString) : OnHost Unit :=
  match deployment.keyBackup, deployment.keyDestination, deployment.custodyKeyPath with
  | some _, some liveKeyPath, some custodyKeyPath => do
    let _ ← restoreCustodyKey env custodyKeyPath liveKeyPath previousPem
    pure ()
  | _, _, _ => pure ()

def reloadAfterRestore (job : TailJob) (service : Option JsString) : OnHost Unit :=
  match service, job.reloadCommandRefs with
  | some _, some refs =>
    if env.checkCommandRef refs.validate && env.checkCommandRef refs.reload then do
      let _ ← attempt reloadService
      pure ()
    else pure ()
  | _, _ => pure ()

def rollbackAfterFailedTail (job : TailJob) (target : DeployTarget) :
    Option DeployResult → OnHost Rollback
  | some (.deployed deployment) =>
    match deployment.certBackup with
    | none => do
      -- First-ever deploy: nothing to restore.
      reportStepEvidence
      pure .orphanedFirstDeploy
    | some certBackup => do
      match ← attempt (readFile certBackup) with
      | .error _ => pure .notRolledBack
      | .ok previous => do
        let previousPem := env.decode previous
        let restore ← restoreDeployment env mode target deployment previousPem
        if restore.inPlace then do
          restoreCustody env deployment previousPem
          reloadAfterRestore env job target.reloadService
          reportStepEvidence
          pure .rolledBack
        else do
          reportStepEvidence
          pure .notRolledBack
  | _ => pure .notRolledBack

def withRollbackNote (outcome : Status) : Rollback → Status
  | .orphanedFirstDeploy => .orphanedUnknownEffect
  | _ => outcome

/-! ## §3. One target. -/

def usePairedDeploy (keyPath stagedKeyPath : Option Path) (keyRotated : Bool) :
    Option (Path × Path) :=
  match keyPath, stagedKeyPath with
  | some key, some staged => if keyRotated || decide (key ≠ staged) then some (key, staged) else none
  | _, _ => none

/-- A failed step after the deploy: the coordinator of several targets rolls back
    later, a single target now. -/
def failAfterDeploy (job : TailJob) (target : DeployTarget) (retainBackups : Bool) (status : Status)
    (deployResult : DeployResult) : OnHost StepOutcome :=
  if retainBackups then pure ⟨status, some deployResult⟩
  else do
    let rollback ← restoring mode (rollbackAfterFailedTail env mode job target (some deployResult))
    pure ⟨withRollbackNote status rollback, some deployResult⟩

/-- The probe of the live endpoint: the status it fails with. -/
def verifyEndpoint (target : DeployTarget) : Option JsString → OnHost (Option Status)
  | none => pure none
  | some host =>
    if !env.checkVerifyHost host target.reference then do
      reportStepEvidence
      pure (some .rejected)
    else do
      if ← answer (·.probes) (fun answers rest => { answers with probes := rest }) true then pure none
      else do
        reportStepEvidence
        pure (some .failed)

/-- The verify step and what follows it. -/
def verifyDeployed (job : TailJob) (target : DeployTarget) (retainBackups : Bool)
    (deployResult : DeployResult) : OnHost StepOutcome := do
  let deployed ← readFile target.certPath
  if !env.hasFingerprint (env.decode deployed) then raise (.other (js "fingerprint"))
  else do
    match ← verifyEndpoint env target job.verifyHost with
    | some status => failAfterDeploy env mode job target retainBackups status deployResult
    | none => do
      reportStepEvidence
      if retainBackups then pure ⟨.succeeded, some deployResult⟩
      else do
        let _ ← attempt (discardDeployBackups deployResult)
        pure ⟨.succeeded, some deployResult⟩

def DeployTarget.target (target : DeployTarget) (keyPath : Option Path) : Target where
  type := target.type
  reference := target.reference
  certPath := target.certPath
  keyPath := keyPath
  chainPath := target.chainPath
  backupDir := target.backupDir
  optionsValid := target.optionsValid
  backupRetentionCount := target.backupRetentionCount

/-- The certificate and the chain a target gets; `none` where the target has a
    chain and the certificate has no chain blocks. -/
def deployPems (target : DeployTarget) (certificatePem : JsString) :
    Option (JsString × Option JsString) :=
  match target.chainPath with
  | none => some (certificatePem, none)
  | some _ =>
    match env.splitLeafAndChainPem certificatePem with
    | (_, none) => none
    | (leafPem, some chainPem) => some (leafPem, some chainPem)

/-- What a job wants deployed, and with which key. -/
structure Delivery where
  certificatePem : JsString
  keyPath : Option Path
  stagedKeyPath : Option Path
  keyRotated : Bool
  requestedSans : List JsString
deriving DecidableEq

/-- The subject names to validate against: those requested, else the reference. -/
def sansFor (requestedSans : List JsString) (reference : JsString) : List JsString :=
  if requestedSans ≠ [] then requestedSans
  else if reference ≠ [] then [reference]
  else []

def readKeyForValidation : Option Path → OnHost (Option JsString)
  | none => pure none
  | some path => do
    let content ← readFile path
    pure (some (env.decode content))

/-- The validation of the certificate against the key the delivery has; `false`
    where the key cannot be read or the certificate is not valid. -/
def validateDelivery (delivery : Delivery) (reference : JsString) : OnHost Bool := do
  match ← attempt (readKeyForValidation env (delivery.stagedKeyPath.orElse fun _ => delivery.keyPath)) with
  | .error _ => pure false
  | .ok privateKeyPem =>
    if env.validateCertificateForDeploy delivery.certificatePem privateKeyPem
        (sansFor delivery.requestedSans reference) then
      pure true
    else do
      reportStepEvidence
      pure false

def deployTo (target : DeployTarget) (delivery : Delivery) (pems : JsString × Option JsString)
    (retainPrivateKeyStaging : Bool) : OnHost DeployResult :=
  match usePairedDeploy delivery.keyPath delivery.stagedKeyPath delivery.keyRotated with
  | some (keyPath, stagedKeyPath) =>
    deployCertificateAndKey env mode (target.target (some keyPath)) keyPath pems.1 stagedKeyPath
      pems.2 retainPrivateKeyStaging
  | none => deployCertificate env mode (target.target none) pems.1 pems.2

def runDeployReloadVerify (job : TailJob) (target : DeployTarget) (delivery : Delivery)
    (leaseOpts retainBackups retainPrivateKeyStaging : Bool) : OnHost StepOutcome := do
  if !(← validateDelivery env delivery target.reference) then pure ⟨.failed, none⟩
  else do
    if !(← leaseGate leaseOpts) then pure ⟨.blocked, none⟩
    else do
      markMutation (js "deploy")
      match deployPems env target delivery.certificatePem with
      | none => pure ⟨.failed, none⟩
      | some pems => do
        let deployResult ← deployTo env mode target delivery pems retainPrivateKeyStaging
        reportStepEvidence
        if !deployResult.inPlace then pure ⟨.failed, some deployResult⟩
        else do
          let reload ← maybeReloadForJob env job target.reloadService leaseOpts
          match reload with
          | none => verifyDeployed env mode job target retainBackups deployResult
          | some .succeeded => verifyDeployed env mode job target retainBackups deployResult
          | some status => failAfterDeploy env mode job target retainBackups status deployResult

/-! ## §4. Several targets. -/

/-- A target that was written. -/
structure Applied where
  index : Nat
  target : DeployTarget
  deployment : Deployment
deriving DecidableEq

def Deployment.destinations (deployment : Deployment) : List Path :=
  deployment.destination ::
    (deployment.keyDestination.toList ++ deployment.chainDestination.toList)

def Deployment.isFirstDeploy (deployment : Deployment) : Bool :=
  deployment.firstDeploy || deployment.certBackup.isNone

/-- One turn of `rollbackAppliedTargets`: whether the target is certainly back. -/
def rollbackAppliedTarget (job : TailJob) (entry : Applied) : OnHost Bool :=
  if entry.deployment.isFirstDeploy then do
    let removed ← removeDeployedArtifacts env entry.deployment.destinations
    let _ ← attempt (maybeReloadForJob env job entry.target.reloadService false)
    pure removed
  else do
    let rollback ← rollbackAfterFailedTail env mode job entry.target (some (.deployed entry.deployment))
    pure (decide (rollback = .rolledBack))

/-- The loop, the last target first: whether every target is certainly back. -/
def rollbackAll (job : TailJob) : List Applied → OnHost Bool
  | [] => pure true
  | entry :: applied => do
    let certain ← rollbackAppliedTarget env mode job entry
    let rest ← rollbackAll job applied
    pure (certain && rest)

def rollbackAppliedTargets (job : TailJob) (applied : List Applied) (failedStatus : Status) :
    OnHost Status := do
  let certain ← rollbackAll env mode job applied.reverse
  if !certain then pure .orphanedUnknownEffect
  else if applied = [] then pure failedStatus
  else pure .failed

structure TargetOutcome where
  index : Nat
  reference : JsString
  certPath : Path
  status : Status
deriving DecidableEq

structure TailOutcome where
  status : Status
  targetOutcomes : List TargetOutcome
deriving DecidableEq

/-- The key path of a target: its own, or the one of the job. -/
def targetDelivery (target : DeployTarget) (delivery : Delivery) : Delivery :=
  let targetKeyPath := target.keyPath.orElse fun _ => delivery.keyPath
  { delivery with
    keyPath := targetKeyPath
    keyRotated := delivery.keyRotated ||
      (targetKeyPath.isSome && delivery.stagedKeyPath.isSome &&
        decide (targetKeyPath ≠ delivery.stagedKeyPath)) }

def preflightTarget (job : TailJob) (target : DeployTarget) : Bool :=
  env.checkPath target.certPath && target.keyPath.all env.checkPath &&
    target.chainPath.all env.checkPath &&
    (match target.reloadService, job.reloadCommandRefs with
      | some _, some refs => env.checkCommandRef refs.validate && env.checkCommandRef refs.reload
      | _, _ => true)

/-- The discarding of one target's backups when all targets are verified. -/
def discardApplied (entry : Applied) : OnHost Unit := do
  let _ ← attempt (discardDeployBackups (.deployed entry.deployment))
  pure ()

/-- The targets that were written, with the one whose deploy just ended. -/
def Applied.after (applied : List Applied) (index : Nat) (target : DeployTarget) :
    Option DeployResult → List Applied
  | some (.deployed deployment) => applied ++ [⟨index, target, deployment⟩]
  | _ => applied

/-- The apply loop from target `index` on. -/
def applyTargets (job : TailJob) (delivery : Delivery) (leaseOpts : Bool) :
    Nat → List DeployTarget → List Applied → List TargetOutcome → OnHost TailOutcome
  | _, [], applied, outcomes => do
    forEach discardApplied applied
    pure ⟨.succeeded, outcomes⟩
  | index, target :: targets, applied, outcomes => do
    let result ← runDeployReloadVerify env mode job target (targetDelivery target delivery)
      leaseOpts true (!targets.isEmpty)
    let outcomes' := outcomes ++ [⟨index, target.reference, target.certPath, result.status⟩]
    let applied' := Applied.after applied index target result.deployResult
    reportStepEvidence
    if result.status = .succeeded then
      applyTargets job delivery leaseOpts (index + 1) targets applied' outcomes'
    else do
      let status ← restoring mode (rollbackAppliedTargets env mode job applied' result.status)
      pure ⟨status, outcomes'⟩

def runDeployReloadVerifyForTargets (job : TailJob) (targets : List DeployTarget)
    (delivery : Delivery) (leaseOpts : Bool) : OnHost TailOutcome :=
  match targets with
  | [] => raise (.other (js "no target"))
  | [target] => do
    let result ← runDeployReloadVerify env mode job target (targetDelivery target delivery)
      leaseOpts false false
    pure ⟨result.status, []⟩
  | targets => do
    if !(← leaseGate leaseOpts) then pure ⟨.blocked, []⟩
    else if (targets.any (·.keyPath.isSome) || delivery.keyRotated) &&
        delivery.stagedKeyPath.isNone && delivery.keyPath.isNone then pure ⟨.failed, []⟩
    else do
      if !(← validateDelivery env delivery job.reference) then pure ⟨.failed, []⟩
      else if !targets.all (preflightTarget env job) then pure ⟨.rejected, []⟩
      else
        let delivery' :=
          { delivery with requestedSans := sansFor delivery.requestedSans job.reference }
        applyTargets env mode job delivery' leaseOpts 0 targets [] []

end Tail

end TokenTimer.Agent
