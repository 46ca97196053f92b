/-
  TokenTimer.CertOps.Eligibility — the refusals of the claim loop
  (`agentJobEligibility.js`, `operator/jobAuthority.js`, `managementClaim.js`).

  `TokenTimer.CertOps.Dispatch` takes the four verdicts as inputs.  Here they are
  computed, from the facts each of them reads, and `claimReads` puts them back.
-/

import TokenTimer.CertOps.Dispatch

namespace TokenTimer.CertOps

/-! ## §1. Capabilities. -/

def EVIDENCE_CLAIM_BINDING_CAPABILITY : String := "evidence-claim-binding-v1"
def TRUST_ANCHOR_DEPLOY_CAPABILITY : String := "trust-anchor-deploy-v1"
def ADCS_ENROLL_CAPABILITY : String := "adcs-enroll-v1"
def ADCS_ENROLL_CAPABILITY_REASON : String := "adcs_enroll_capability_unavailable"

/-- The persisted facts of the polling agent. -/
structure EligibilityAgent where
  id : Nat
  retired : Bool := false
  /-- `platform === "win32"`. -/
  windows : Bool := false
  supportedOperations : List JobOperation
  targetSelectors : List String := []
  dnsProviders : List String := []
  commandProfiles : List String := []
  declaredCapabilities : List String := []
  capabilitiesUpdatedAt : Option Nat := none
  agentKind : AgentKind := .normal

/-- The clock and the settings the predicate reads. -/
structure EligibilityEnv where
  now : Nat
  certopsCapabilityFreshnessMs : Nat
  /-- `compatibilityState === "blocked"`. -/
  compatibilityBlocked : Bool := false

/-- `hasFreshCapability`: declared, and asserted within the freshness window. -/
def hasFreshCapability (env : EligibilityEnv) (agent : EligibilityAgent) (capability : String) :
    Bool :=
  (capability ∈ agent.declaredCapabilities : Bool) &&
    agent.capabilitiesUpdatedAt.any fun t => env.now ≤ t + env.certopsCapabilityFreshnessMs

def providerCapability : Option String → String
  | some "vault-kv2" => "material-store-vault-kv2-v1"
  | some "openbao-kv2" => "material-store-openbao-kv2-v1"
  | some "azure-key-vault" => "material-store-azure-key-vault-v1"
  | _ => "material-store-unsupported"

/-! ## §2. `evaluateAgentJobEligibility`. -/

/-- The facts of the job.  A claim passes the persisted routing and no payload
    but the material intents, so no routing comes from the payload. -/
structure EligibilityJob where
  operation : JobOperation
  executorKind : ExecutorKind
  assignedAgentId : Option Nat
  requiredTargetSelector : Option String
  requiredDnsProvider : Option String
  requiredCommandProfile : Option String
  subjectIsProvisioning : Bool
  publication : Bool
  /-- `providerOf` of the material intent. -/
  materialProvider : Option String
  /-- `issuerKind === "adcs"`. -/
  adcs : Bool

/-- `{ eligible, reason, determinate }`. -/
structure Eligibility where
  eligible : Bool
  reason : String
  determinate : Bool := true
deriving DecidableEq, Repr

def ineligible (reason : String) : Eligibility :=
  { eligible := false, reason := reason }

def materialCapabilities (agent : EligibilityAgent) (job : EligibilityJob) : List String :=
  if job.publication then
    [providerCapability job.materialProvider, "certificate-publication-v1",
      EVIDENCE_CLAIM_BINDING_CAPABILITY]
  else if job.operation = .deployFromStore then
    [providerCapability job.materialProvider, "deploy-from-store-v1",
        EVIDENCE_CLAIM_BINDING_CAPABILITY] ++
      if agent.windows then
        ["windows-material-iis-v1", "windows-cert-store-v1", "iis-binding-v1"]
      else []
  else []

/-- `evaluateAgentJobEligibility`, with a compatibility verdict at hand. -/
def evaluateAgentJobEligibility (env : EligibilityEnv) (agent : EligibilityAgent)
    (job : EligibilityJob) : Eligibility :=
  let fresh := hasFreshCapability env agent
  let material := materialCapabilities agent job
  if job.executorKind ≠ .agent then ineligible "executor_lane_mismatch"
  else if agent.retired then ineligible "agent_retired"
  else if env.compatibilityBlocked then ineligible "compatibility_blocked"
  else if !(job.assignedAgentId.all fun a => a = agent.id) then
    ineligible "assigned_agent_mismatch"
  else if wireActionForOperation job.operation ∉ agent.supportedOperations then
    ineligible "operation_unsupported"
  else if !material.isEmpty && (job.assignedAgentId.isNone || !material.all fresh) then
    ineligible "material_capability_unavailable"
  else if (job.operation = .issue || job.subjectIsProvisioning) &&
      !fresh EVIDENCE_CLAIM_BINDING_CAPABILITY then
    ineligible "claim_bound_evidence_unavailable"
  else if isTrustAnchorOperation job.operation && !fresh TRUST_ANCHOR_DEPLOY_CAPABILITY then
    ineligible "trust_anchor_deploy_capability_unavailable"
  else if job.adcs && !fresh ADCS_ENROLL_CAPABILITY then ineligible ADCS_ENROLL_CAPABILITY_REASON
  else if !(job.requiredTargetSelector.all fun t => t ∈ agent.targetSelectors) then
    ineligible "target_selector_unsupported"
  else if !(job.requiredDnsProvider.all fun t => t ∈ agent.dnsProviders) then
    ineligible "dns_provider_unsupported"
  else if !(job.requiredCommandProfile.all fun t => t ∈ agent.commandProfiles) then
    ineligible "command_profile_unsupported"
  else if !((job.operation = .protocolSmoke : Bool) == (agent.agentKind = .diagnostic : Bool)) then
    ineligible "agent_kind_mismatch"
  else { eligible := true, reason := "eligible" }

/-! ## §3. `lockOperatorJobAuthority`. -/

/-- What `lockConnectionAuthority` finds: whether the connection is active, whether
    its user still has a role in the workspace, and the scopes the two leave. -/
structure ConnectionAuthority where
  active : Bool
  hasRole : Bool
  workspaceId : Nat
  userId : Nat
  scopes : List String

/-- `valid` of the answer. -/
def ConnectionAuthority.valid (found : ConnectionAuthority) : Bool :=
  found.active && found.hasRole

/-- The switches a write without an approval depends on. -/
structure OperatorGates where
  /-- `MCP_OPERATOR_INTERFACE_ENABLED` and `MCP_OPERATOR_WRITES_ENABLED`. -/
  writesEnabled : Bool
  /-- `workspaces.operator_writes_enabled` and `operator_issuance_enabled`. -/
  operatorWritesEnabled : Bool
  operatorIssuanceEnabled : Bool

/-- The scope and the workspace setting of an operation. -/
def operatorPolicy (gates : OperatorGates) : JobOperation → Option (String × Bool)
  | .renew => some ("mcp:renew:request", gates.operatorWritesEnabled)
  | .issue => some ("mcp:issue:request", gates.operatorIssuanceEnabled)
  | _ => none

/-- `lockOperatorJobAuthority`, as a claim calls it: the write gates are required
    of a job nobody approved. -/
def lockOperatorJobAuthority (gates : OperatorGates) (authority : Nat → ConnectionAuthority)
    (workspaceId : Nat) (job : JobRow) : Bool :=
  match job.requestedByConnectionId with
  | none => true
  | some connectionId =>
    match operatorPolicy gates job.operation with
    | none => false
    | some (scope, setting) =>
      let found := authority connectionId
      (job.approvedAt.isSome || (gates.writesEnabled && setting)) &&
        found.valid && (found.workspaceId = workspaceId : Bool) &&
        (some found.userId = job.requestedByUserId : Bool) && (scope ∈ found.scopes : Bool)

/-! ## §4. `lockManagedJobForClaim`. -/

/-- The three `FOR SHARE SKIP LOCKED` reads of the management tables. -/
structure ManagedReads where
  /-- The state of the enrollment the job is bound to. -/
  enrollmentState : JobRow → Option String
  /-- The management period of the job is open. -/
  openPeriod : JobRow → Bool
  /-- The identity of the job or of its period, when there is one, was found. -/
  identityFound : JobRow → Bool

def lockManagedJobForClaim (reads : ManagedReads) (job : JobRow) : Bool :=
  let owned := job.managementPeriodId.isNone || (reads.openPeriod job && reads.identityFound job)
  if job.subjectType ≠ some .managedCertificate then true
  else if job.enrollmentId.isSome || job.operation = .continueEnrollment then
    match reads.enrollmentState job with
    | none => false
    | some state =>
      if state ∈ ["cancelled", "expired", "abandoned"] then job.operation = .continueEnrollment
      else owned
  else owned

/-! ## §5. The inputs of a claim, computed. -/

/-- The facts a claim reads outside the job table. -/
structure ClaimFacts where
  agent : EligibilityAgent
  settings : EligibilityEnv
  gates : OperatorGates
  authority : Nat → ConnectionAuthority
  managed : ManagedReads
  subjectIsProvisioning : JobRow → Bool := fun _ => false
  materialProvider : JobPayload → Option String := fun _ => none
  /-- `resolveDistributionJobDefaults` raises no `CERTOPS_` error. -/
  distributionResolved : JobRow → Bool := fun _ => true
  /-- The conjuncts of the WHERE over rollouts, periods and identities. -/
  rest : JobRow → Bool := fun _ => true

def eligibilityJob (facts : ClaimFacts) (job : JobRow) : EligibilityJob :=
  { operation := job.operation, executorKind := job.executorKind
    assignedAgentId := job.assignedAgentId
    requiredTargetSelector := job.requiredTargetSelector
    requiredDnsProvider := job.requiredDnsProvider
    requiredCommandProfile := job.requiredCommandProfile
    subjectIsProvisioning := facts.subjectIsProvisioning job
    publication := job.payload.publication
    materialProvider := facts.materialProvider job.payload
    adcs := job.enrollmentId.isSome }

/-- The conjuncts of the WHERE that read the facts: an assistant connection has
    not ended, and a provisioning subject needs the binding capability. -/
def factsPrefilter (facts : ClaimFacts) (job : JobRow) : Bool :=
  (job.status ≠ .pending ||
    job.requestedByConnectionId.all fun c => (facts.authority c).active) &&
  (hasFreshCapability facts.settings facts.agent EVIDENCE_CLAIM_BINDING_CAPABILITY ||
    !facts.subjectIsProvisioning job) &&
  facts.rest job

/-- The reads of `claimJobs` from the facts. -/
def claimReads (facts : ClaimFacts) (workspaceId : Nat) : ClaimReads :=
  { prefilter := factsPrefilter facts
    operatorAuthority := lockOperatorJobAuthority facts.gates facts.authority workspaceId
    managedLock := lockManagedJobForClaim facts.managed
    eligible := fun job =>
      (evaluateAgentJobEligibility facts.settings facts.agent (eligibilityJob facts job)).eligible
    distributionResolved := facts.distributionResolved }

/-- The capability columns of the claim, from the same facts. -/
def claimCaps (facts : ClaimFacts) : AgentCaps :=
  { supportedActions := facts.agent.supportedOperations
    targetSelectors := facts.agent.targetSelectors
    dnsProviders := facts.agent.dnsProviders
    commandProfiles := facts.agent.commandProfiles
    canBindEvidenceToClaim :=
      hasFreshCapability facts.settings facts.agent EVIDENCE_CLAIM_BINDING_CAPABILITY
    canBindTrustAnchorDeploy :=
      hasFreshCapability facts.settings facts.agent TRUST_ANCHOR_DEPLOY_CAPABILITY
    canEnrollAdcs := hasFreshCapability facts.settings facts.agent ADCS_ENROLL_CAPABILITY }

end TokenTimer.CertOps
