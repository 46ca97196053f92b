/-
  TokenTimer.Agent.Renew — the executors of renew, deploy, reload and trust jobs
  (`packages/agent/src/index.js`, `packages/agent/src/keys/index.js`).

  The jobs are the file based ones with an ACME issuer, without publication and
  without material deployment.  A renewal reuses the agent's custody key or
  stages a new one beside it, has a certificate issued for it, and runs the
  deploy tail; what it staged goes when anything fails.
-/

import TokenTimer.Agent.DeployTail

namespace TokenTimer.Agent

open Lib.Faulty TokenTimer.Json

/-! ## §1. Jobs. -/

inductive Action
  | noop
  | renew
  | deploy
  | reload
  | distributeTrust
  | revokeTrust
  | revoke
  | unsupported
deriving DecidableEq

/-- A verified job.  `sans` is what `resolveJobSans` gives (`none` for an error,
    `[]` where the job has none), `targets` what `resolveJobDeployTargets` gives;
    `planRefusal` is the status of a dry-run plan that does not complete. -/
structure Job where
  jobId : JsString
  attemptId : JsString
  action : Action
  dryRun : Bool
  planRefusal : Option Status
  commonName : JsString
  certificateId : JsString
  sans : Option (List JsString)
  targets : Option (List DeployTarget)
  tail : TailJob
  reloadService : Option JsString
  dnsProvider : Option JsString
  dnsZone : Option JsString
  commandRef : Option JsString
  caEndpoint : Option JsString
  keyAlgorithmMapped : Bool
  eabCredentialsAvailable : Bool
  keyRotation : Bool
  certificatePem : Option JsString
  trustPayloadValid : Bool
deriving DecidableEq

def isValidCertificateId (candidate : JsString) : Bool :=
  decide (candidate ≠ []) && decide (candidate.length ≤ 128) && candidate.all isIdUnit

section Executors

variable (env : Environment) (mode : Restoring)

/-- `path.join(keysDir, certificateId + ".key.pem")`. -/
def custodyKeyPath (certificateId : JsString) : Path :=
  .named (env.keysDir ++ js "/" ++ certificateId ++ js ".key.pem")

/-! ## §2. Keys. -/

structure GeneratedKey where
  keyPath : Path
  stagedKeyPath : Path

/-- A key over an existing one is staged beside it. -/
def generateKeyPairToFile (keyPath : Path) (overwrite : Bool) : OnHost GeneratedKey := do
  -- `classifyExistingKeyPath`.
  let existing ← existsFile keyPath
  if !overwrite && existing then raise (.other (js "refusing to overwrite existing key file"))
  else do
    let (suffix, privatePem) ← answer (·.keys) (fun answers rest => { answers with keys := rest })
      ([], [])
    let writePath := if existing then .rotationStaging keyPath suffix else keyPath
    writeNewFile writePath privatePem
    -- `applyRestrictivePermissions`.
    tick
    pure ⟨keyPath, writePath⟩

/-- `discardStagedKeyReportingResidue`. -/
def discardStagedKey (keyPath stagedKeyPath : Path) : OnHost Unit :=
  if stagedKeyPath = keyPath then pure ()
  else do
    let _ ← attempt (unlinkFile stagedKeyPath)
    pure ()

/-! ## §3. `executeRenewJob`. -/

def pathsAllowed (targets : List DeployTarget) : Bool := targets.all fun target => env.checkPath target.certPath

/-- The checks of a renew job before its first mutation: the status of the first
    one that fails. -/
def renewRefusal (job : Job) : Option Status :=
  if job.commonName = [] then some .failed
  else if !isValidCertificateId job.certificateId then some .failed
  else if job.sans = none then some .failed
  else
    match job.targets with
    | none => some .failed
    | some targets =>
      if !pathsAllowed env targets then some .rejected
      else if !job.dnsProvider.all env.checkDnsProvider then some .rejected
      else if !job.dnsZone.all env.checkDnsZone then some .rejected
      else
        match job.commandRef with
        | none => some .failed
        | some commandRef =>
          if !env.checkCommandRef commandRef then some .rejected
          else if job.caEndpoint = none then some .failed
          else if !job.keyAlgorithmMapped then some .failed
          else if !job.eabCredentialsAvailable then some .failed
          else none

/-- The subject names of the certificate. -/
def Job.domains (job : Job) : List JsString :=
  match job.sans with
  | some (san :: sans) => san :: sans
  | _ => [job.commonName]

/-- `readDeployedCertificatePem`: the first target that holds a certificate, or
    that one cannot be read. -/
def readDeployedCertificatePem : List DeployTarget → OnHost (Except Unit (Option JsString))
  | [] => pure (.ok none)
  | target :: targets => do
    match ← attempt (readFile target.certPath) with
    | .ok content =>
      if js "BEGIN CERTIFICATE" <:+: env.decode content then pure (.ok (some (env.decode content)))
      else readDeployedCertificatePem targets
    | .error .enoent => readDeployedCertificatePem targets
    | .error _ => pure (.error ())

/-- The key a renewal goes on with. -/
structure KeyChoice where
  stagedKeyPath : Path
  keyRotated : Bool
deriving DecidableEq

/-- Step 1: the custody key is reused, or a staging sibling of a quarantined one,
    or a key is generated.  `none` where the custody key is not available. -/
def chooseKey (job : Job) (targets : List DeployTarget) : OnHost (Option KeyChoice) := do
  let keyPath := custodyKeyPath env job.certificateId
  match ← readDeployedCertificatePem env targets with
  | .error _ => pure none
  | .ok deployedCertificatePem => do
    let choice ← resolveAgentCustodyKey env keyPath deployedCertificatePem
    match choice.quarantined, choice.path with
    | true, none => pure none
    | true, some sibling => pure (some ⟨sibling, true⟩)
    | false, _ => do
      let keyExisted ← existsFile keyPath
      if job.keyRotation || !keyExisted then do
        let generated ← generateKeyPairToFile keyPath job.keyRotation
        pure (some ⟨generated.stagedKeyPath, true⟩)
      else pure (some ⟨keyPath, false⟩)

/-- `issuer.submit`. -/
def submitOrder : OnHost Issuance := do
  let (operations, issuance) ← answer (·.issuances)
    (fun answers rest => { answers with issuances := rest }) (0, .unissued)
  effects operations
  pure issuance

/-- Step 3: the certificate, or the status of the job without one. -/
def issueCertificate (leaseOpts : Bool) (keyPath stagedKeyPath : Path) :
    OnHost (Except Status JsString) := do
  if !(← leaseGate leaseOpts) then do
    discardStagedKey keyPath stagedKeyPath
    pure (.error .blocked)
  else do
    markMutation (js "acme")
    let issuance ← submitOrder
    reportStepEvidence
    match issuance with
    | .issued certificatePem => pure (.ok certificatePem)
    | .refused => do
      discardStagedKey keyPath stagedKeyPath
      pure (.error .rejected)
    | .unissued => do
      discardStagedKey keyPath stagedKeyPath
      pure (.error .failed)

/-- `try … catch (err) { discard; throw err }`. -/
def discardingOnThrow {α : Type} (keyPath stagedKeyPath : Path) (m : OnHost α) : OnHost α := do
  match ← attempt m with
  | .ok a => pure a
  | .error error => do
    discardStagedKey keyPath stagedKeyPath
    raise error

def renewWithKey (job : Job) (targets : List DeployTarget) (leaseOpts : Bool) (key : KeyChoice) :
    OnHost Status := do
  let keyPath := custodyKeyPath env job.certificateId
  -- `generateCsr`.
  let _ ← readFile key.stagedKeyPath
  tick
  match ← discardingOnThrow keyPath key.stagedKeyPath
      (issueCertificate leaseOpts keyPath key.stagedKeyPath) with
  | .error status => pure status
  | .ok certificatePem => do
    let tail ← discardingOnThrow keyPath key.stagedKeyPath
      (runDeployReloadVerifyForTargets env mode job.tail targets
        ⟨certificatePem, some keyPath, some key.stagedKeyPath, key.keyRotated, job.domains⟩ leaseOpts)
    if tail.status ≠ .succeeded then do
      discardStagedKey keyPath key.stagedKeyPath
      pure tail.status
    else pure tail.status

def executeRenewJob (job : Job) (leaseOpts : Bool) : OnHost Status :=
  match renewRefusal env job with
  | some status => pure status
  | none => do
    let targets := job.targets.getD []
    if !(← leaseGate leaseOpts) then pure .blocked
    else do
      markMutation (js "keygen")
      -- `mkdirSync(keysDir)`.
      effects 1
      match ← chooseKey env job targets with
      | none => pure .failed
      | some key => renewWithKey env mode job targets leaseOpts key

/-! ## §4. The other executors. -/

/-- A target of type `windows-iis`. -/
def DeployTarget.isWindowsIis (target : DeployTarget) : Bool := decide (target.type = js "windows-iis")

/-- The key of a standalone deploy, from the custody of its certificate; `none`
    where custody is quarantined for it. -/
def deployKey (job : Job) (certificatePem : JsString) : OnHost (Option (Option Path)) :=
  if env.keysDir ≠ [] ∧ isValidCertificateId job.certificateId then do
    let choice ← resolveAgentCustodyKey env (custodyKeyPath env job.certificateId) (some certificatePem)
    match choice.quarantined, choice.path with
    | true, none => pure none
    | _, path => pure (some path)
  else pure (some none)

def executeDeployJob (job : Job) (certificatePem : JsString) (leaseOpts : Bool) : OnHost Status :=
  match job.targets with
  | none => pure .failed
  | some targets =>
    if targets.any DeployTarget.isWindowsIis then pure .failed
    else do
      match ← deployKey env job certificatePem with
      | none => pure .failed
      | some keyPath =>
        if targets.any (·.keyPath.isSome) && keyPath.isNone then pure .failed
        else do
          let tail ← runDeployReloadVerifyForTargets env mode job.tail targets
            ⟨certificatePem, keyPath, keyPath, false, (job.sans.getD [])⟩ leaseOpts
          pure tail.status

def executeReloadJob (job : Job) (leaseOpts : Bool) : OnHost Status := do
  markMutation (js "reload")
  match ← maybeReloadForJob env job.tail job.reloadService leaseOpts with
  | none => pure .failed
  | some status => pure status

/-- `distributeTrust` and `revokeTrust`: whether they report a failure. -/
def changeTrust : OnHost Bool := do
  let (operations, succeeded) ← answer (·.trustResults)
    (fun answers rest => { answers with trustResults := rest }) (0, true)
  effects operations
  pure succeeded

def executeTrustJob (job : Job) (leaseOpts : Bool) : OnHost Status :=
  if !job.trustPayloadValid then pure .failed
  else if !env.trustStoreAvailable then pure .blocked
  else if !env.checkCommandRef env.trustStoreCommandRef then pure .rejected
  else if job.dryRun then pure .dryRunComplete
  else do
    if !(← leaseGate leaseOpts) then pure .blocked
    else do
      markMutation (if job.action = .distributeTrust then js "trust-install" else js "trust-remove")
      let succeeded ← changeTrust
      reportStepEvidence
      pure (if succeeded then .succeeded else .failed)

end Executors

end TokenTimer.Agent
