/-
  TokenTimer.Agent.Deploy — the deploy module of the agent
  (`packages/agent/src/deploy/index.js`): writing a certificate, with or without
  its private key and chain, over what a destination holds, and taking it back.

  Every destination is backed up before it is written; a write that fails puts
  back the destinations that had content, and only those.  The operations that
  put something back run under `restoring`, so that a theorem can assume that
  they succeed.
-/

import TokenTimer.Agent.Host

namespace TokenTimer.Agent

open Lib.Faulty TokenTimer.Json

/-- Whether the operations that restore files may fail by the script. -/
inductive Restoring
  | mayFail
  | succeeds
deriving DecidableEq

def restoring {α : Type} (mode : Restoring) (m : OnHost α) : OnHost α :=
  match mode with
  | .mayFail => m
  | .succeeds => faultless m

/-! ## §1. Targets. -/

def VALID_TARGET_TYPES : List JsString :=
  [js "domain", js "endpoint", js "kubernetes", js "appliance", js "load-balancer", js "external",
    js "windows-iis"]

/-- A deploy target as `validateTargetConfig` takes it.  `optionsValid` says
    whether its modes, owner and group pass their checks; a retention count of 0
    stands for any that is below 1. -/
structure Target where
  type : JsString
  reference : JsString
  certPath : Path
  keyPath : Option Path
  chainPath : Option Path
  backupDir : Option Path
  optionsValid : Bool
  backupRetentionCount : Option Nat
deriving DecidableEq

section Deploying

variable (env : Environment)

/-- One turn of the path loop of `validateTargetConfig`. -/
def validatePath (path : Path) : OnHost Bool :=
  if !env.isAbsolute path then pure false
  else do
    -- `isExistingDirectory`.
    match ← attempt tick with
    | .error _ => pure false
    | .ok _ => pure (env.checkPath path)

def validatePaths : List Path → OnHost Bool
  | [] => pure true
  | path :: paths => do
    if ← validatePath env path then validatePaths paths else pure false

def Target.paths (target : Target) : List Path :=
  target.certPath :: (target.keyPath.toList ++ target.chainPath.toList ++ target.backupDir.toList)

/-- The validation of a target with files; a `windows-iis` target without a store
    is not valid. -/
def validateTargetConfig (target : Target) : OnHost Bool :=
  if target.type ∉ VALID_TARGET_TYPES ∨ target.reference = [] ∨ target.type = js "windows-iis" then
    pure false
  else do
    if ← validatePaths env target.paths then
      pure (target.optionsValid &&
        target.backupRetentionCount.all fun count => decide (1 ≤ count ∧ count ≤ 64))
    else pure false

/-! ## §2. Backups. -/

def Path.nonce : Path → Nat
  | .backup _ _ _ nonce => nonce
  | _ => 0

/-- A random nonce: one that was never drawn and that no file has. -/
def freshNonce (host : Host) : Nat :=
  host.files.keys.foldr (fun path n => max (path.nonce + 1) n) host.nextNonce

def backupPathFor (host : Host) (destination : Path) (backupDir : Option Path) : Path :=
  .backup destination (backupDir.getD (.dirname destination)) host.clock (freshNonce host)

def backUp (write : Path → Bytes → OnHost Unit) (destination : Path) (backupDir : Option Path) :
    Option Bytes → OnHost (Option Path)
  | none => pure none
  | some existing => do
    let host ← look
    let path := backupPathFor host destination backupDir
    note fun host => { host with nextNonce := freshNonce host + 1 }
    write path existing
    pure (some path)

def Path.isBackupOf (destination directory : Path) : Path → Bool
  | .backup destination' directory' _ _ => destination' = destination && directory' = directory
  | _ => false

/-- The order of the names of two backups of one destination. -/
def Path.backedUpBefore : Path → Path → Bool
  | .backup _ _ stamp nonce, .backup _ _ stamp' nonce' =>
    decide (stamp < stamp') || (decide (stamp = stamp') && decide (nonce ≤ nonce'))
  | _, _ => true

/-- A removal that `ENOENT` does not stop. -/
def unlinkIfPresent (path : Path) : OnHost Unit := do
  match ← attempt (unlinkFile path) with
  | .ok _ => pure ()
  | .error .enoent => pure ()
  | .error error => raise error

def pruneDeployBackups (destination : Path) (backupDir : Option Path) (retentionCount : Nat)
    (preservePath : Path) : OnHost Unit := do
  let _ ← attempt (do
    -- `readdir`.
    tick
    let host ← look
    let candidates := host.files.keys.filter
      (Path.isBackupOf destination (backupDir.getD (.dirname destination)))
    if candidates.length ≤ retentionCount then pure ()
    else
      let sorted := candidates.insertionSort fun a b => Path.backedUpBefore a b = true
      forEach unlinkIfPresent ((sorted.filter (· ≠ preservePath)).take
        (sorted.length - retentionCount)))

def pruneAfterDeploy (target : Target) (made : List (Path × Option Path)) : OnHost Unit :=
  match target.backupRetentionCount with
  | none => pure ()
  | some count => forEach
      (fun (destination, backup) =>
        match backup with
        | none => pure ()
        | some path => pruneDeployBackups destination target.backupDir count path)
      made

/-! ## §3. What both deploys do. -/

inductive Stage
  | validate
  | realpath
  | realpathPolicy
  | readKey
  | readExisting
  | backup
  | write
deriving DecidableEq

structure Deployment where
  destination : Path
  keyDestination : Option Path
  chainDestination : Option Path
  certBackup : Option Path
  keyBackup : Option Path
  chainBackup : Option Path
  firstDeploy : Bool
  custodyPromotionFailed : Bool
  custodyKeyPath : Option Path
deriving DecidableEq

inductive DeployResult
  | deployed (deployment : Deployment)
  | skipped
  | failed (stage : Stage) (rolledBack : Option Bool)
deriving DecidableEq

/-- The two reads of the real paths and the policy on them; the stage at which
    they fail. -/
def resolveDestinations (paths : List Path) : OnHost (Option Stage) := do
  match ← attempt (forEach (fun _ => tick) paths) with
  | .error _ => pure (some .realpath)
  | .ok _ => pure (if paths.all env.checkPath then none else some .realpathPolicy)

/-- A destination with the content it is to have, what it holds, and how a
    rollback writes it. -/
structure Slot where
  destination : Path
  content : Bytes
  existing : Option Bytes
  write : Path → Bytes → OnHost Unit

def Slot.unchanged (slot : Slot) : Bool := slot.existing = some slot.content

/-- `rollbackFiles` and `rollbackPair`: what had content gets it back. -/
def rollbackSlots (slots : List Slot) : OnHost Bool := do
  let restore := forEach
    (fun (slot : Slot) =>
      match slot.existing with
      | none => pure ()
      | some existing => slot.write slot.destination existing)
    slots
  match ← attempt restore with
  | .ok _ => pure (slots.any (·.existing.isSome))
  | .error _ => pure false

/-- The write block: one slot after the other, and the rollback. -/
def writeSlots (mode : Restoring) (slots : List Slot) : OnHost (Option Bool) := do
  match ← attempt (forEach (fun (slot : Slot) => atomicWrite slot.destination slot.content) slots) with
  | .ok _ => pure none
  | .error _ => do
    let rolledBack ← restoring mode (rollbackSlots slots)
    pure (some rolledBack)

/-- The refusals of both deploys that throw. -/
def assertPublicMaterial (certificatePem : JsString) (chainPem : Option JsString) : OnHost Unit :=
  if certificatePem = [] then raise (.other (js "deploy: certificatePem must be a non-empty string"))
  else if env.hasPrivateKeyHeader certificatePem || chainPem.any env.hasPrivateKeyHeader then
    raise (.other (js "deploy: private-key PEM marker"))
  else pure ()

def chainMissing (target : Target) (chainPem : Option JsString) : Bool :=
  target.chainPath.isSome && decide (chainPem.getD [] = [])

def readChain : Option Path → OnHost (Except FileError (Option Bytes))
  | none => pure (.ok none)
  | some path => readExisting path

def backUpChain (backupDir : Option Path) : Option Slot → OnHost (Option Path)
  | none => pure none
  | some chain => backUp writeNewFile chain.destination backupDir chain.existing

/-! ## §4. `deployCertificate`. -/

def installCertificate (mode : Restoring) (target : Target) (cert : Slot) (chain : Option Slot) :
    OnHost DeployResult := do
  let backups ← attempt (do
    let certBackup ← backUp writeNewFile cert.destination target.backupDir cert.existing
    let chainBackup ← backUpChain target.backupDir chain
    pure (certBackup, chainBackup))
  match backups with
  | .error _ => pure (.failed .backup none)
  | .ok (certBackup, chainBackup) => do
    match ← writeSlots mode (cert :: chain.toList) with
    | some rolledBack => pure (.failed .write (some rolledBack))
    | none => do
      pruneAfterDeploy target ((cert.destination, certBackup) ::
        chain.toList.map fun chain => (chain.destination, chainBackup))
      pure (.deployed
        { destination := cert.destination
          keyDestination := none
          chainDestination := chain.map (·.destination)
          certBackup := certBackup
          keyBackup := none
          chainBackup := chainBackup
          firstDeploy := cert.existing.isNone && chain.all (·.existing.isNone)
          custodyPromotionFailed := false
          custodyKeyPath := none })

def deployCertificate (mode : Restoring) (target : Target) (certificatePem : JsString)
    (chainPem : Option JsString) : OnHost DeployResult := do
  assertPublicMaterial env certificatePem chainPem
  if !(← validateTargetConfig env target) then pure (.failed .validate none)
  else if chainMissing target chainPem then pure (.failed .validate none)
  else do
    match ← resolveDestinations env
        (target.certPath :: (target.backupDir.toList ++ target.chainPath.toList)) with
    | some stage => pure (.failed stage none)
    | none => do
      match ← readExisting target.certPath with
      | .error _ => pure (.failed .readExisting none)
      | .ok existingContent => do
        match ← readChain target.chainPath with
        | .error _ => pure (.failed .readExisting none)
        | .ok existingChain =>
          let cert : Slot := ⟨target.certPath, env.encode certificatePem, existingContent, overwriteFile⟩
          let chain := target.chainPath.map fun path =>
            (⟨path, env.encode (chainPem.getD []), existingChain, overwriteFile⟩ : Slot)
          if cert.unchanged && chain.all Slot.unchanged then pure .skipped
          else installCertificate mode target cert chain

/-! ## §5. `deployCertificateAndKey`. -/

/-- The fences around a live custody key whose promotion failed. -/
def quarantineCustodyKey (live : Path) : OnHost Unit := do
  let marked ← attempt (overwriteFile (.quarantineMarker live) (env.encode (js "custody promotion failed\n")))
  let moved ← attempt (do
    -- `access`.
    let _ ← readFile live
    renameFile live (.stale live))
  match marked, moved with
  | .error _, .error _ => do
    let _ ← attempt (do
      mutation
      op fun host =>
        if (host.files.lookup live).isSome then
          .ok ((), { host with files := host.files.insert live [] })
        else .error .enoent)
    pure ()
  | _, _ => pure ()

/-- The custody block of `deployCertificateAndKey`: whether the promotion failed,
    and the custody path that took the key. -/
def promoteCustodyKey (privateKeyPath keyDestination : Path) : OnHost (Bool × Option Path) :=
  match privateKeyPath with
  | .rotationStaging live _ =>
    if privateKeyPath = keyDestination then pure (false, none)
    else if live = keyDestination then do
      let _ ← attempt (unlinkFile privateKeyPath)
      pure (false, none)
    else do
      let promotion ← attempt (do
        let stagingKeyBytes ← readFile privateKeyPath
        atomicWrite live stagingKeyBytes
        let promoted ← readFile live
        if promoted = stagingKeyBytes then pure ()
        else raise (.other (js "custody key promotion verification failed")))
      match promotion with
      | .ok _ => do
        let _ ← attempt (unlinkFile (.quarantineMarker live))
        let _ ← attempt (unlinkFile privateKeyPath)
        pure (false, some live)
      | .error _ => do
        quarantineCustodyKey env live
        pure (true, none)
  | _ => pure (false, none)

def promoteUnlessRetained (retainPrivateKeyStaging : Bool) (privateKeyPath keyDestination : Path) :
    OnHost (Bool × Option Path) :=
  if retainPrivateKeyStaging then pure (false, none)
  else promoteCustodyKey env privateKeyPath keyDestination

/-- The deploy of a pair from the backups on. -/
def installCertificateAndKey (mode : Restoring) (target : Target) (privateKeyPath : Path)
    (retainPrivateKeyStaging : Bool) (cert key : Slot) (chain : Option Slot) :
    OnHost DeployResult := do
  let backups ← attempt (do
    let certBackup ← backUp writeNewFile cert.destination target.backupDir cert.existing
    let keyBackup ← backUp atomicWrite key.destination target.backupDir key.existing
    let chainBackup ← backUpChain target.backupDir chain
    pure (certBackup, keyBackup, chainBackup))
  match backups with
  | .error _ => pure (.failed .backup none)
  | .ok (certBackup, keyBackup, chainBackup) => do
    match ← writeSlots mode (cert :: key :: chain.toList) with
    | some rolledBack => pure (.failed .write (some rolledBack))
    | none => do
      let custody ← promoteUnlessRetained env retainPrivateKeyStaging privateKeyPath key.destination
      pruneAfterDeploy target ((cert.destination, certBackup) :: (key.destination, keyBackup) ::
        chain.toList.map fun chain => (chain.destination, chainBackup))
      pure (.deployed
        { destination := cert.destination
          keyDestination := some key.destination
          chainDestination := chain.map (·.destination)
          certBackup := certBackup
          keyBackup := keyBackup
          chainBackup := chainBackup
          firstDeploy :=
            cert.existing.isNone && key.existing.isNone && chain.all (·.existing.isNone)
          custodyPromotionFailed := custody.1
          custodyKeyPath := custody.2 })

/-- `target.keyPath` is `keyPath`. -/
def deployCertificateAndKey (mode : Restoring) (target : Target) (keyPath : Path)
    (certificatePem : JsString) (privateKeyPath : Path) (chainPem : Option JsString)
    (retainPrivateKeyStaging : Bool) : OnHost DeployResult := do
  assertPublicMaterial env certificatePem chainPem
  if !(← validateTargetConfig env target) then pure (.failed .validate none)
  else if chainMissing target chainPem then pure (.failed .validate none)
  else do
    match ← resolveDestinations env
        (target.certPath :: keyPath :: (target.backupDir.toList ++ target.chainPath.toList)) with
    | some stage => pure (.failed stage none)
    | none => do
      match ← attempt (readFile privateKeyPath) with
      | .error _ => pure (.failed .readKey none)
      | .ok keyContent =>
        if !env.hasPrivateKeyHeader (env.decode keyContent) then pure (.failed .readKey none)
        else do
          match ← readExisting target.certPath with
          | .error _ => pure (.failed .readExisting none)
          | .ok existingCert => do
            match ← readExisting keyPath with
            | .error _ => pure (.failed .readExisting none)
            | .ok existingKey => do
              match ← readChain target.chainPath with
              | .error _ => pure (.failed .readExisting none)
              | .ok existingChain =>
                let cert : Slot :=
                  ⟨target.certPath, env.encode certificatePem, existingCert, overwriteFile⟩
                let key : Slot := ⟨keyPath, keyContent, existingKey, atomicWrite⟩
                let chain := target.chainPath.map fun path =>
                  (⟨path, env.encode (chainPem.getD []), existingChain, overwriteFile⟩ : Slot)
                if cert.unchanged && key.unchanged && chain.all Slot.unchanged then pure .skipped
                else
                  installCertificateAndKey env mode target privateKeyPath retainPrivateKeyStaging
                    cert key chain

/-! ## §6. Taking a deploy back. -/

def privateKeyMatchesCertificate (keyPem certificatePem : JsString) : Option Bool :=
  if js "BEGIN CERTIFICATE" <:+: certificatePem then some (env.publicKeysEqual keyPem certificatePem)
  else none

def restoreCustodyKey (custodyKeyPath keyPath : Path) (certificatePem : JsString) : OnHost Bool := do
  let restored ← attempt (do
    let keyBytes ← readFile keyPath
    let keyPem := env.decode keyBytes
    if !env.hasPrivateKeyHeader keyPem then pure false
    else if privateKeyMatchesCertificate env keyPem certificatePem ≠ some true then pure false
    else do
      atomicWrite custodyKeyPath keyBytes
      let written ← readFile custodyKeyPath
      pure (decide (written = keyBytes)))
  match restored with
  | .ok restored => pure restored
  | .error _ => pure false

/-- One turn of `removeDeployedArtifacts`: whether the file is gone. -/
def removeDeployedArtifact (destination : Path) : OnHost Bool :=
  if !env.checkPath destination then pure false
  else do
    match ← attempt (unlinkFile destination) with
    | .ok _ => pure true
    | .error .enoent => pure true
    | .error _ => pure false

/-- Whether nothing failed. -/
def removeDeployedArtifacts : List Path → OnHost Bool
  | [] => pure true
  | destination :: destinations => do
    let removed ← removeDeployedArtifact env destination
    let rest ← removeDeployedArtifacts destinations
    pure (removed && rest)

def discardDeployBackups : DeployResult → OnHost Unit
  | .deployed deployment =>
    forEach unlinkIfPresent (deployment.certBackup.toList ++ deployment.keyBackup.toList ++
      deployment.chainBackup.toList ++ deployment.certBackup.toList)
  | _ => pure ()

/-! ## §7. The custody key. -/

def readPrivateKeyPem (path : Path) : OnHost (Option JsString) := do
  match ← attempt (readFile path) with
  | .error _ => pure none
  | .ok content =>
    let text := env.decode content
    pure (if js "PRIVATE KEY" <:+: text then some text else none)

def readLiveKeyPem (quarantined : Bool) (live : Path) : OnHost (Option JsString) :=
  if quarantined then pure none else readPrivateKeyPem env live

def Path.stagedSuffix (live : Path) : Path → Option JsString
  | .rotationStaging live' suffix => if live' = live then some suffix else none
  | _ => none

def rotationStagingSiblings (live : Path) : OnHost (List Path) := do
  match ← attempt tick with
  | .error _ => pure []
  | .ok _ => do
    let host ← look
    let suffixes := (host.files.keys.filterMap (Path.stagedSuffix live)).insertionSort (· ≤ ·)
    pure (suffixes.map (Path.rotationStaging live))

def lastMatchingSibling (certificatePem : JsString) : List Path → OnHost (Option Path)
  | [] => pure none
  | sibling :: siblings => do
    match ← readPrivateKeyPem env sibling with
    | none => lastMatchingSibling certificatePem siblings
    | some pem =>
      if privateKeyMatchesCertificate env pem certificatePem = some true then pure (some sibling)
      else lastMatchingSibling certificatePem siblings

structure CustodyChoice where
  path : Option Path
  quarantined : Bool
deriving DecidableEq

/-- `resolveAgentCustodyKey` for the live path of a certificate. -/
def resolveAgentCustodyKey (live : Path) (certificatePem : Option JsString) :
    OnHost CustodyChoice := do
  let marker ← attempt (readFile (.quarantineMarker live))
  -- A marker that cannot be proved absent counts.
  let quarantined := match marker with
    | .error .enoent => false
    | _ => true
  let livePem ← readLiveKeyPem env quarantined live
  let liveUsable := match livePem with
    | none => false
    | some pem =>
      match certificatePem with
      | none => true
      | some cert => (privateKeyMatchesCertificate env pem cert).getD true
  if liveUsable then pure ⟨some live, false⟩
  else do
    let siblings ← rotationStagingSiblings live
    match certificatePem with
    | some cert =>
      if js "BEGIN CERTIFICATE" <:+: cert then do
        match ← lastMatchingSibling env cert siblings.reverse with
        | some sibling => pure ⟨some sibling, true⟩
        | none => pure ⟨none, quarantined || livePem.isSome⟩
      else pure ⟨siblings.getLast?, quarantined⟩
    | none => pure ⟨siblings.getLast?, quarantined⟩

end Deploying

end TokenTimer.Agent
