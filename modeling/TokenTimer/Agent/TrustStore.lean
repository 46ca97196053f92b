/-
  TokenTimer.Agent.TrustStore — the trust-store executor of the agent
  (`packages/agent/src/trust-store/index.js`) and its ownership receipts
  (`packages/agent/src/trust-store/receipt.js`), for one (store, fingerprint).

  The store is shared with other administrators, who may act before any
  operation of the agent.  Any operation may fail and the agent may die between
  any two of them.  What the agent knows of an anchor is what it observes of the
  store, where a failed observation reads as "not there", and its receipt: four
  states, written before and after each mutation.

  Rules:
    * `triple_writeIntentReceipt`, `triple_finalizeReceipt`, `triple_observe` —
      the triples of the operations, for conditions nobody else breaks.
-/

import TokenTimer.Lib.Faulty
import TokenTimer.Lib.Runs

namespace TokenTimer.Agent

open Lib.Faulty Lib.Runs

/-! ## §1. The host. -/

inductive Family
  | windows
  | debian
  | rhel
deriving DecidableEq

/-- Who put an entry in the store. -/
inductive Owner
  | agent
  | other
deriving DecidableEq

/-- The entry of the Windows store with the fingerprint, or the file at the
    agent's own path; a file whose write was cut short is not `intact`. -/
structure Anchor where
  intact : Bool
  owner : Owner
deriving DecidableEq

/-- `RECEIPT_STATES`. -/
inductive ReceiptState
  | pendingInstall
  | installed
  | pendingRemove
  | removed
deriving DecidableEq

structure ReceiptRow where
  jobId : String
  transitionGeneration : Nat
  state : ReceiptState
deriving DecidableEq

/-- What is at the receipt's path, and what `readReceipt` makes of it. -/
inductive Receipt
  | absent
  | corrupt
  | found (row : ReceiptRow)
deriving DecidableEq

def Receipt.inState (state : ReceiptState) : Receipt → Bool
  | .found row => row.state = state
  | _ => false

/-- The receipt says that the agent installed, or set out to install, the entry,
    and has not removed it. -/
def Receipt.live : Receipt → Bool
  | .found row => row.state ≠ .removed
  | _ => false

/-- The three places that look whether the certificate is there. -/
inductive Observer
  | distributing
  | stranded
  | revoking
deriving DecidableEq

/-- What another administrator does with the same certificate: at the place the
    agent uses, or under a file name of their own. -/
inductive OtherAction
  | put
  | remove
  | putElsewhere
  | removeElsewhere
deriving DecidableEq

/-- What the history of a host records. -/
inductive TrustEvent
  /-- `revokeTrust` removed an entry. -/
  | deleted (owner : Owner)
  /-- Another administrator's entry came to stand at the agent's place, and
      whether the agent claimed the place then. -/
  | joined (claimed : Bool)
  /-- An observation failed, and what it did not see. -/
  | overlooked (observer : Observer) (anchor : Option Anchor) (receipt : Receipt)
deriving DecidableEq

/-- The store, the receipt and what others will do before each operation.
    `refreshed` notes that the refresh command has succeeded since the file was
    last there, `observing` that a `distributeTrust` under way has seen no
    certificate; the agent reads neither of them nor the history. -/
structure TrustHost where
  anchor : Option Anchor
  elsewhere : Bool
  refreshed : Bool
  receipt : Receipt
  observing : Bool
  others : List (List OtherAction)
  history : List TrustEvent
deriving DecidableEq

/-- The agent takes what stands at its place to be its own, or is about to. -/
def TrustHost.claimed (host : TrustHost) : Bool := host.receipt.live || host.observing

def TrustHost.record (host : TrustHost) (event : TrustEvent) : TrustHost :=
  { host with history := host.history ++ [event] }

/-! ## §2. Operations, and what happens before them. -/

/-- A store of Windows keeps the entry it has; a file is written over. -/
def TrustHost.perform (family : Family) (host : TrustHost) : OtherAction → TrustHost
  | .put =>
    if family = .windows ∧ host.anchor.isSome then host
    else { host.record (.joined host.claimed) with
      anchor := some ⟨true, .other⟩
      refreshed := false }
  | .remove => { host with anchor := none, refreshed := host.refreshed && host.anchor.isNone }
  | .putElsewhere => { host with elsewhere := true }
  | .removeElsewhere => { host with elsewhere := false }

/-- What the others do before the next operation. -/
def TrustHost.interfered (family : Family) (host : TrustHost) : TrustHost :=
  match host.others with
  | [] => host
  | actions :: others => actions.foldl (TrustHost.perform family) { host with others := others }

inductive TrustError
  | failed
  | invalidGeneration
  | invalidRow
  | pendingConflict
  | receiptMissing
  | receiptCorrupt
  | generationMismatch
  | notPending
deriving DecidableEq

abbrev OnTrust := Prog TrustHost TrustError

/-- One operation of the agent. -/
def act {α : Type} (family : Family) (f : TrustHost → Except TrustError (α × TrustHost)) :
    OnTrust α := do
  note (TrustHost.interfered family)
  op f

/-- An operation that changes nothing the host shows. -/
def pause (family : Family) : OnTrust Unit := act family fun host => .ok ((), host)

/-- A check that throws. -/
def ofExcept {α : Type} : Except TrustError α → OnTrust α
  | .ok a => pure a
  | .error error => raise error

/-! ## §3. Receipts. -/

/-- `JOB_ID_PATTERN` of the receipts. -/
def isReceiptJobId (jobId : String) : Bool :=
  1 ≤ jobId.length && jobId.length ≤ 128 &&
    jobId.toList.all fun c => c.isAlphanum || c = '_' || c = '.' || c = ':' || c = '-'

def validateReceiptRow (row : ReceiptRow) : Except TrustError ReceiptRow :=
  if isReceiptJobId row.jobId = true ∧ 1 ≤ row.transitionGeneration then .ok row
  else .error .invalidRow

def readReceipt (family : Family) : OnTrust Receipt := do
  match ← attempt (act family fun host => .ok (host.receipt, host)) with
  | .ok receipt => pure receipt
  | .error _ => pure .corrupt

/-- `writeFileAtomically`: the temporary file, its rename, and what may still
    fail after it. -/
def writeRow (family : Family) (row : ReceiptRow) : OnTrust Unit := do
  pause family
  act family fun host => .ok ((), { host with receipt := .found row })
  pause family

/-- The refusal to take over the pending row of another job. -/
def checkPending (existing : Receipt) (jobId : String) (transitionGeneration : Nat)
    (reclaimStalePending : Bool) : Except TrustError Unit :=
  match existing with
  | .found row =>
    if (row.state = .pendingInstall ∨ row.state = .pendingRemove) ∧
        (row.jobId ≠ jobId ∨ row.transitionGeneration ≠ transitionGeneration) ∧
        reclaimStalePending = false then
      .error .pendingConflict
    else .ok ()
  | _ => .ok ()

def writeIntentReceipt (family : Family) (jobId : String) (transitionGeneration : Nat)
    (intentState : ReceiptState) (reclaimStalePending : Bool) : OnTrust ReceiptRow := do
  let existing ← readReceipt family
  ofExcept (checkPending existing jobId transitionGeneration reclaimStalePending)
  let row ← ofExcept (validateReceiptRow ⟨jobId, transitionGeneration, intentState⟩)
  writeRow family row
  pure row

/-- `nextState`. -/
def ReceiptState.finalized : ReceiptState → Option ReceiptState
  | .pendingInstall => some .installed
  | .pendingRemove => some .removed
  | _ => none

def finalizedRow (existing : Receipt) (jobId : String) (transitionGeneration : Nat) :
    Except TrustError ReceiptRow :=
  match existing with
  | .absent => .error .receiptMissing
  | .corrupt => .error .receiptCorrupt
  | .found row =>
    if row.jobId ≠ jobId ∨ row.transitionGeneration ≠ transitionGeneration then
      .error .generationMismatch
    else
      match row.state.finalized with
      | none => .error .notPending
      | some nextState => validateReceiptRow { row with state := nextState }

def finalizeReceipt (family : Family) (jobId : String) (transitionGeneration : Nat) :
    OnTrust ReceiptRow := do
  let existing ← readReceipt family
  let finalized ← ofExcept (finalizedRow existing jobId transitionGeneration)
  writeRow family finalized
  pure finalized

/-! ## §4. Probes. -/

/-- The certificate is found at the agent's place: by its fingerprint in a
    Windows store, by the content of the file elsewhere. -/
def TrustHost.visible (family : Family) (host : TrustHost) : Bool :=
  host.anchor.any fun anchor => family = .windows || anchor.intact

/-- `findWindowsStoreEntryByFingerprint`; of the others, distribute scans the
    whole directory and revoke probes its own file. -/
def Observer.sees (family : Family) (observer : Observer) (host : TrustHost) : Bool :=
  host.visible family ||
    (decide (family ≠ .windows) && decide (observer = .distributing) && host.elsewhere)

/-- Distribute takes the certificate to be absent. -/
def Observer.noted (observer : Observer) (found : Bool) (host : TrustHost) : TrustHost :=
  { host with observing := host.observing || (decide (observer = .distributing) && !found) }

/-- What was there and was not seen. -/
def TrustHost.overlookedBy (host : TrustHost) (observer : Observer) : TrustHost :=
  host.record (.overlooked observer host.anchor host.receipt)

/-- An enumeration or a read that fails finds nothing. -/
def observe (family : Family) (observer : Observer) : OnTrust Bool := do
  match ← attempt (act family fun host =>
      .ok (observer.sees family host, observer.noted (observer.sees family host) host)) with
  | .ok found => pure found
  | .error _ => do
    note fun host => observer.noted false (host.overlookedBy observer)
    pure false

/-! ## §5. Mutations. -/

inductive MutationOutcome
  | ok
  | writeFailed
  | commandFailed
deriving DecidableEq

def byExit : Except TrustError Unit → MutationOutcome
  | .ok _ => .ok
  | .error _ => .commandFailed

/-- `certutil -addstore`: an entry that is there stays. -/
def TrustHost.addstore (host : TrustHost) : TrustHost :=
  { host with anchor := host.anchor.or (some ⟨true, .agent⟩) }

/-- `certutil -delstore`, which fails on a thumbprint that is not there. -/
def TrustHost.delstore (host : TrustHost) : Except TrustError (Unit × TrustHost) :=
  match host.anchor with
  | none => .error .failed
  | some anchor => .ok ((), { host.record (.deleted anchor.owner) with anchor := none })

/-- The command may do its work and still exit with an error. -/
def addWindowsStoreEntry (family : Family) : OnTrust MutationOutcome := do
  -- The staging directory and file, outside of the `try`.
  pause family
  pause family
  let exit ← attempt (do
    act family fun host => .ok ((), host.addstore)
    pause family)
  let _ ← attempt (pause family)
  pure (byExit exit)

def removeWindowsStoreEntry (family : Family) : OnTrust MutationOutcome := do
  let exit ← attempt (do
    act family TrustHost.delstore
    pause family)
  pure (byExit exit)

/-- The trust-refresh command, by its success. -/
def refresh (family : Family) : OnTrust Unit :=
  act family fun host => .ok ((), { host with refreshed := host.anchor.isNone })

/-- The file as it is while it is written, and after. -/
def TrustHost.written (intact : Bool) (host : TrustHost) : TrustHost :=
  { host with anchor := some ⟨intact, .agent⟩, refreshed := false }

/-- `mkdirSync` and `writeFileSync`. -/
def writeAnchorFile (family : Family) : OnTrust Unit := do
  pause family
  act family fun host => .ok ((), host.written false)
  act family fun host => .ok ((), host.written true)

def installLinuxAnchorFile (family : Family) : OnTrust MutationOutcome := do
  match ← attempt (writeAnchorFile family) with
  | .error _ => pure .writeFailed
  | .ok _ => do
    let exit ← attempt (refresh family)
    pure (byExit exit)

/-- `unlinkSync`, with `ENOENT` tolerated. -/
def TrustHost.unlinked (host : TrustHost) : TrustHost :=
  match host.anchor with
  | none => host
  | some anchor => { host.record (.deleted anchor.owner) with anchor := none, refreshed := false }

def removeLinuxAnchorFile (family : Family) : OnTrust MutationOutcome := do
  let exit ← attempt (do
    act family fun host => .ok ((), host.unlinked)
    refresh family)
  pure (byExit exit)

def installAnchor (family : Family) : OnTrust MutationOutcome :=
  match family with
  | .windows => addWindowsStoreEntry .windows
  | .debian => installLinuxAnchorFile .debian
  | .rhel => installLinuxAnchorFile .rhel

def removeAnchor (family : Family) : OnTrust MutationOutcome :=
  match family with
  | .windows => removeWindowsStoreEntry .windows
  | .debian => removeLinuxAnchorFile .debian
  | .rhel => removeLinuxAnchorFile .rhel

/-! ## §6. Results. -/

inductive Outcome
  | preexisting
  | installed
  | removed
  | alreadyAbsent
deriving DecidableEq

inductive ReceiptWireState
  | intentWritten
  | finalized
  | missing
  | corrupt
deriving DecidableEq

inductive FailureCategory
  | invalidPayload
  | multipleCertificatesInPem
  | unparseableCertificate
  | fingerprintMismatch
  | notACaCertificate
  | receiptWriteConflict
  | receiptFinalizeConflict
  | trustStoreNotWritable
  | osMutationFailed
  | receiptMissing
  | receiptCorrupt
  | receiptPendingInstall
deriving DecidableEq

inductive MetadataName
  | postConditionOverrideApplied
  | refreshCommandExitCode
  | refreshCommandStderrExcerpt
  | debianFreshCommandRefMissing
deriving DecidableEq

/-- `buildResult`; an observed fingerprint is the job's or `null`. -/
structure TrustResult where
  observedFingerprintBefore : Bool
  observedFingerprintAfter : Bool
  outcome : Outcome
  mutationAttempted : Bool
  mutationPerformed : Bool
  receiptState : ReceiptWireState
  failureCategory : Option FailureCategory
  metadata : List MetadataName
deriving DecidableEq

/-- A signed job.  `verification` is the failure `verifyAnchorPem` finds in the
    PEM, `fingerprintValid` is `FINGERPRINT_PATTERN.test`, and `freshConfigured`
    the seam `freshUpdateCommandArgv`. -/
structure TrustJob where
  jobId : String
  transitionGeneration : Nat
  verification : Option FailureCategory
  fingerprintValid : Bool
  freshConfigured : Bool
deriving DecidableEq

def requireTransitionGeneration (job : TrustJob) : Except TrustError Unit :=
  if job.transitionGeneration < 1 then .error .invalidGeneration else .ok ()

/-- A result without a mutation, of a store that does not hold the certificate. -/
def refused (receiptState : ReceiptWireState) (failureCategory : FailureCategory) : TrustResult :=
  ⟨false, false, .alreadyAbsent, false, false, receiptState, some failureCategory, []⟩

/-! ## §7. `distributeTrust`. -/

/-- The certificate is there and the agent has no install of its own to finish. -/
def preexistingResult (existing : Receipt) : TrustResult :=
  ⟨true, true, .preexisting, false, false,
    if existing.inState .installed then .finalized else .missing, none, []⟩

def notInstalledResult (failureCategory : FailureCategory) : TrustResult :=
  ⟨false, false, .alreadyAbsent, true, false, .intentWritten, some failureCategory, []⟩

/-- The receipt is finalized after the mutation. -/
def finishInstall (family : Family) (job : TrustJob) (metadata : List MetadataName) :
    OnTrust TrustResult := do
  match ← attempt (finalizeReceipt family job.jobId job.transitionGeneration) with
  | .error _ =>
    pure ⟨false, true, .installed, true, true, .intentWritten, some .receiptFinalizeConflict, metadata⟩
  | .ok _ => pure ⟨false, true, .installed, true, true, .finalized, none, metadata⟩

/-- A refresh command that failed may have done its work: the directory it
    derives is scanned.  The scan finds the certificate where it does not fail. -/
def overrideInstall (family : Family) (job : TrustJob) : OnTrust TrustResult := do
  match ← attempt (pause family) with
  | .ok _ =>
    finishInstall family job
      [.postConditionOverrideApplied, .refreshCommandExitCode, .refreshCommandStderrExcerpt]
  | .error _ => pure (notInstalledResult .osMutationFailed)

def concludeInstall (family : Family) (job : TrustJob) (mutation : MutationOutcome) :
    OnTrust TrustResult :=
  match mutation with
  | .ok => finishInstall family job []
  | .writeFailed => pure (notInstalledResult .trustStoreNotWritable)
  | .commandFailed =>
    if family = .windows then pure (notInstalledResult .osMutationFailed)
    else overrideInstall family job

def install (family : Family) (job : TrustJob) : OnTrust TrustResult := do
  match ← attempt (writeIntentReceipt family job.jobId job.transitionGeneration .pendingInstall true) with
  | .error _ => pure (refused .missing .receiptWriteConflict)
  | .ok _ => do
    let mutation ← installAnchor family
    concludeInstall family job mutation

/-- A job whose PEM is right. -/
def distributeVerified (family : Family) (job : TrustJob) : OnTrust TrustResult := do
  let isPresent ← observe family .distributing
  let existing ← readReceipt family
  if isPresent = true ∧ existing.inState .pendingInstall = false then
    pure (preexistingResult existing)
  else install family job

def distributeTrust (family : Family) (job : TrustJob) : OnTrust TrustResult := do
  ofExcept (requireTransitionGeneration job)
  match job.verification with
  | some failureCategory => pure (refused .missing failureCategory)
  | none => distributeVerified family job

/-! ## §8. `revokeTrust`. -/

/-- `freshFallbackWarningMetadata`, for a Debian host without the profile. -/
def freshFallbackWarning (family : Family) (job : TrustJob) : List MetadataName :=
  if family = .debian ∧ job.freshConfigured = false then [.debianFreshCommandRefMissing] else []

/-- An intent whose anchor is there is finalized under the job that wrote it. -/
def unstrand (family : Family) (row : ReceiptRow) : OnTrust ReceiptRow := do
  match ← attempt (finalizeReceipt family row.jobId row.transitionGeneration) with
  | .ok finalized => pure finalized
  | .error _ => pure row

def unstrandIf (family : Family) (row : ReceiptRow) (present : Bool) : OnTrust ReceiptRow :=
  if present then unstrand family row else pure row

/-- The receipt the rest of `revokeTrust` goes by. -/
def settleStranded (family : Family) (row : ReceiptRow) : OnTrust ReceiptRow :=
  if row.state = .pendingInstall then do
    let present ← observe family .stranded
    unstrandIf family row present
  else pure row

/-- `resumingSameJob`. -/
def ReceiptRow.resumedBy (row : ReceiptRow) (job : TrustJob) : Bool :=
  row.state = .pendingRemove && row.jobId = job.jobId

/-- The row under which a certificate that is not there is removed. -/
def reclaim (family : Family) (job : TrustJob) (row : ReceiptRow) : OnTrust ReceiptRow :=
  if row.resumedBy job then pure row
  else writeIntentReceipt family job.jobId job.transitionGeneration .pendingRemove true

/-- The refresh of a removal that was cut short. -/
def retryRefresh (family : Family) (job : TrustJob) (row : ReceiptRow) : OnTrust TrustResult := do
  match ← attempt (reclaim family job row) with
  | .error _ => pure (refused .intentWritten .receiptWriteConflict)
  | .ok intent => do
    let mutation ← removeAnchor family
    if mutation ≠ .ok then
      pure ⟨false, false, .installed, true, false, .intentWritten, some .osMutationFailed,
        freshFallbackWarning family job⟩
    else
      match ← attempt (finalizeReceipt family intent.jobId intent.transitionGeneration) with
      | .error _ =>
        pure ⟨false, false, .removed, true, true, .intentWritten, some .receiptFinalizeConflict,
          freshFallbackWarning family job⟩
      | .ok _ =>
        pure ⟨false, false, .removed, true, true, .finalized, none, freshFallbackWarning family job⟩

/-- A certificate that is not there any more. -/
def finishAbsent (family : Family) (job : TrustJob) (row : ReceiptRow) : OnTrust TrustResult := do
  match ← attempt (reclaim family job row) with
  | .error _ => pure (refused .intentWritten .receiptWriteConflict)
  | .ok intent =>
    match ← attempt (finalizeReceipt family intent.jobId intent.transitionGeneration) with
    | .error _ => pure (refused .intentWritten .receiptFinalizeConflict)
    | .ok _ => pure ⟨false, false, .alreadyAbsent, false, false, .finalized, none, []⟩

/-- A certificate that is there. -/
def removePresent (family : Family) (job : TrustJob) : OnTrust TrustResult := do
  match ← attempt (writeIntentReceipt family job.jobId job.transitionGeneration .pendingRemove true) with
  | .error _ =>
    pure ⟨true, true, .installed, false, false, .intentWritten, some .receiptWriteConflict, []⟩
  | .ok _ => do
    let mutation ← removeAnchor family
    if mutation ≠ .ok then
      pure ⟨true, true, .installed, true, false, .intentWritten, some .osMutationFailed,
        freshFallbackWarning family job⟩
    else
      match ← attempt (finalizeReceipt family job.jobId job.transitionGeneration) with
      | .error _ =>
        pure ⟨true, false, .removed, true, true, .intentWritten, some .receiptFinalizeConflict,
          freshFallbackWarning family job⟩
      | .ok _ =>
        pure ⟨true, false, .removed, true, true, .finalized, none, freshFallbackWarning family job⟩

/-- The removal the receipt proves to be the agent's. -/
def removeOwned (family : Family) (job : TrustJob) (row : ReceiptRow) : OnTrust TrustResult := do
  let isPresent ← observe family .revoking
  if isPresent then removePresent family job
  else if family ≠ .windows ∧ row.state = .pendingRemove then retryRefresh family job row
  else finishAbsent family job row

def revokeByRow (family : Family) (job : TrustJob) (row : ReceiptRow) : OnTrust TrustResult :=
  match row.state with
  | .pendingInstall => pure (refused .intentWritten .receiptPendingInstall)
  | .removed => pure ⟨false, false, .alreadyAbsent, false, false, .finalized, none, []⟩
  | _ => removeOwned family job row

def revokeWith (family : Family) (job : TrustJob) : Receipt → OnTrust TrustResult
  | .absent => pure (refused .missing .receiptMissing)
  | .corrupt => pure (refused .corrupt .receiptCorrupt)
  | .found row => do
    let row ← settleStranded family row
    revokeByRow family job row

def revokeTrust (family : Family) (job : TrustJob) : OnTrust TrustResult := do
  ofExcept (requireTransitionGeneration job)
  if job.fingerprintValid = false then pure (refused .corrupt .invalidPayload)
  else do
    let existing ← readReceipt family
    revokeWith family job existing

/-! ## §9. The host over its life. -/

inductive TrustCall
  | distribute (job : TrustJob)
  | revoke (job : TrustJob)
deriving DecidableEq

def TrustCall.program (family : Family) : TrustCall → OnTrust TrustResult
  | .distribute job => distributeTrust family job
  | .revoke job => revokeTrust family job

/-- The host a call leaves: no `distributeTrust` is under way any more. -/
def TrustHost.after (family : Family) (host : TrustHost) (call : TrustCall)
    (script : List (Fault TrustError)) : TrustHost :=
  { (exec (call.program family) script host).2 with observing := false }

/-- What a call answers, where it returns. -/
def TrustHost.answer (family : Family) (host : TrustHost) (call : TrustCall)
    (script : List (Fault TrustError)) : Except (Stop TrustError) TrustResult :=
  (exec (call.program family) script host).1

/-- A host the agent has not worked on. -/
def TrustHost.Fresh (host : TrustHost) : Prop :=
  host.receipt = .absent ∧ host.observing = false ∧ host.history = [] ∧
    ∀ anchor, host.anchor = some anchor → anchor = ⟨true, .other⟩

/-- Any sequence of the two jobs, each under any faults. -/
def trustSystem (family : Family) : System TrustHost (TrustCall × List (Fault TrustError)) where
  init host := host.Fresh
  step host call host' := host' = host.after family call.1 call.2

/-! ## §10. Rules of the operations. -/

/-- Nothing the other administrators do breaks `P`. -/
def Robust (family : Family) (P : TrustHost → Prop) : Prop :=
  ∀ host, P host → P (host.interfered family)

section Rules

variable {family : Family} {α : Type} {P : TrustHost → Prop} {Q : α → TrustHost → Prop}
  {R : TrustHost → Prop} {E : Stop TrustError → TrustHost → Prop}

/-- What each action keeps, the interference keeps. -/
theorem Robust.of_perform (hothers : ∀ host others, P host → P { host with others := others })
    (hperform : ∀ host action, P host → P (host.perform family action)) : Robust family P := by
  intro host hP
  unfold TrustHost.interfered
  rcases host.others with _ | ⟨actions, others⟩
  · exact hP
  · dsimp only
    have hstart := hothers host others hP
    generalize { host with others := others } = host at hstart
    induction actions generalizing host with
    | nil => exact hstart
    | cons action actions ih => exact ih _ (hperform host action hstart)

theorem TrustHost.perform_receipt (host : TrustHost) (action : OtherAction) :
    (host.perform family action).receipt = host.receipt := by
  cases action with
  | put =>
    unfold TrustHost.perform
    dsimp only
    split <;> rfl
  | remove | putElsewhere | removeElsewhere => rfl

/-- Nobody else writes the receipt. -/
theorem robust_receipt (receipt : Receipt) : Robust family fun host => host.receipt = receipt :=
  Robust.of_perform (fun _ _ h => h) fun host action h => (host.perform_receipt action).trans h

theorem Robust.and {P' : TrustHost → Prop} (h : Robust family P) (h' : Robust family P') :
    Robust family fun host => P host ∧ P' host :=
  fun host hP => ⟨h host hP.1, h' host hP.2⟩

theorem triple_act {f : TrustHost → Except TrustError (α × TrustHost)} (hP : Robust family P)
    (hok : ∀ host a host', P host → f host = .ok (a, host') → Q a host')
    (hstop : ∀ stop host, P host → E stop host) : Triple P (act family f) Q E :=
  Triple.bind (Q := fun _ => P) (Triple.note hP) fun _ => Triple.op hok hstop

/-- An operation that always does what it does. -/
theorem triple_act_ok {f : TrustHost → α × TrustHost} (hP : Robust family P)
    (hok : ∀ host, P host → Q (f host).1 (f host).2)
    (hstop : ∀ stop host, P host → E stop host) :
    Triple P (act family fun host => .ok (f host)) Q E := by
  refine triple_act hP ?_ hstop
  intro host a host' h heq
  injection heq with heq
  have := hok host h
  rw [heq] at this
  exact this

theorem triple_pause (hP : Robust family P) (hstop : ∀ stop host, P host → E stop host) :
    Triple P (pause family) (fun _ => P) E :=
  triple_act_ok hP (fun _ h => h) hstop

theorem triple_ofExcept {check : Except TrustError α} (hok : ∀ a host, check = .ok a → P host → Q a host)
    (hstop : ∀ stop host, P host → E stop host) : Triple P (ofExcept check) Q E := by
  cases hcheck : check with
  | ok a => exact Triple.pure fun host h => hok a host hcheck h
  | error error => exact Triple.raise fun host h => hstop _ host h

theorem triple_readReceipt {Q : Receipt → TrustHost → Prop} (hP : Robust family P)
    (hread : ∀ host, P host → Q host.receipt host) (hcorrupt : ∀ host, P host → Q .corrupt host)
    (hstop : ∀ stop host, P host → E stop host) : Triple P (readReceipt family) Q E := by
  unfold readReceipt
  refine Triple.bind_attempt (triple_act_ok hP hread fun _ _ h => h) (fun receipt => ?_)
    (fun error => ?_) (hstop _)
  · exact Triple.pure fun _ h => h
  · exact Triple.pure fun host h => hcorrupt host h

theorem triple_writeRow {row : ReceiptRow} (hP : Robust family P) (hR : Robust family R)
    (hwrite : ∀ host, P host → R { host with receipt := .found row })
    (hbefore : ∀ stop host, P host → E stop host) (hafter : ∀ stop host, R host → E stop host) :
    Triple P (writeRow family row) (fun _ => R) E := by
  unfold writeRow
  refine Triple.bind (triple_pause hP hbefore) fun _ => ?_
  exact Triple.bind (triple_act_ok (Q := fun _ => R) hP hwrite hbefore) fun _ => triple_pause hR hafter

variable {transitionGeneration : Nat} {jobId : String}

theorem triple_writeIntentReceipt {intentState : ReceiptState} {reclaimStalePending : Bool}
    (hP : Robust family P) (hR : Robust family R)
    (hwrite : ∀ host, P host → R { host with receipt := .found ⟨jobId, transitionGeneration, intentState⟩ })
    (hbefore : ∀ stop host, P host → E stop host) (hafter : ∀ stop host, R host → E stop host) :
    Triple P (writeIntentReceipt family jobId transitionGeneration intentState reclaimStalePending)
      (fun row host => row = ⟨jobId, transitionGeneration, intentState⟩ ∧ R host) E := by
  unfold writeIntentReceipt
  refine Triple.bind (triple_readReceipt (Q := fun _ => P) hP (fun _ h => h) (fun _ h => h) hbefore)
    fun existing => ?_
  refine Triple.bind (triple_ofExcept (Q := fun _ => P) (fun _ _ _ h => h) hbefore) fun _ => ?_
  refine Triple.bind (Q := fun row host => row = ⟨jobId, transitionGeneration, intentState⟩ ∧ P host)
    (triple_ofExcept ?_ hbefore) fun row => Triple.of_forall fun hrow => ?_
  · intro row host hvalid h
    refine ⟨?_, h⟩
    unfold validateReceiptRow at hvalid
    split at hvalid
    · injection hvalid with hvalid
      exact hvalid.symm
    · cases hvalid
  · subst hrow
    exact Triple.bind (triple_writeRow hP hR hwrite hbefore hafter) fun _ =>
      Triple.pure fun _ h => ⟨rfl, h⟩

theorem of_finalizedRow {receipt : Receipt} {finalized : ReceiptRow}
    (h : finalizedRow receipt jobId transitionGeneration = .ok finalized) :
    ∃ row nextState, receipt = .found row ∧ row.state.finalized = some nextState ∧
      finalized = { row with state := nextState } := by
  unfold finalizedRow at h
  cases receipt with
  | absent | corrupt => cases h
  | found row =>
    dsimp only at h
    split at h
    · cases h
    · cases hstate : row.state.finalized with
      | none =>
        rw [hstate] at h
        cases h
      | some nextState =>
        rw [hstate] at h
        dsimp only at h
        unfold validateReceiptRow at h
        split at h
        · injection h with h
          exact ⟨row, nextState, rfl, hstate, h.symm⟩
        · cases h

theorem triple_finalizeReceipt {R : ReceiptRow → TrustHost → Prop} (hP : Robust family P)
    (hR : ∀ row, Robust family (R row))
    (hwrite : ∀ host row nextState, P host → host.receipt = .found row → row.state.finalized = some nextState → R { row with state := nextState } { host with receipt := .found { row with state := nextState } })
    (hbefore : ∀ stop host, P host → E stop host) (hafter : ∀ row stop host, R row host → E stop host) :
    Triple P (finalizeReceipt family jobId transitionGeneration) R E := by
  unfold finalizeReceipt
  refine Triple.bind (Q := fun existing host => (existing = .corrupt ∨ host.receipt = existing) ∧ P host)
    (triple_readReceipt hP (fun _ h => ⟨.inr rfl, h⟩) (fun _ h => ⟨.inl rfl, h⟩) hbefore)
    fun existing => ?_
  refine Triple.bind (Q := fun finalized host =>
      (∃ row nextState, row.state.finalized = some nextState ∧
        finalized = { row with state := nextState } ∧ existing = .found row) ∧
      host.receipt = existing ∧ P host) (triple_ofExcept ?_ fun stop host h => hbefore stop host h.2)
    fun finalized => Triple.of_forall fun hfinal => ?_
  · rintro finalized host hok ⟨hread, h⟩
    obtain ⟨row, nextState, hfound, hstate, hrow⟩ := of_finalizedRow hok
    refine ⟨⟨row, nextState, hstate, hrow, hfound⟩, ?_, h⟩
    rcases hread with hread | hread
    · rw [hread] at hfound
      cases hfound
    · exact hread
  · obtain ⟨row, nextState, hstate, hrow, hfound⟩ := hfinal
    subst hrow
    refine Triple.bind (triple_writeRow (P := fun host => host.receipt = existing ∧ P host)
      ((robust_receipt existing).and hP) (hR _) ?_ (fun stop host h => hbefore stop host h.2) (hafter _))
      fun _ => Triple.pure fun _ h => h
    rintro host ⟨hreceipt, h⟩
    exact hwrite host row nextState h (hreceipt.trans hfound) hstate

theorem triple_observe {observer : Observer} {Q : Bool → TrustHost → Prop} (hP : Robust family P)
    (hseen : ∀ host, P host →
      Q (observer.sees family host) (observer.noted (observer.sees family host) host))
    (hmissed : ∀ host, P host → Q false (observer.noted false (host.overlookedBy observer)))
    (hstop : ∀ stop host, P host → E stop host) : Triple P (observe family observer) Q E := by
  unfold observe
  refine Triple.bind_attempt (triple_act_ok hP hseen fun _ _ h => h) (fun found => ?_)
    (fun error => ?_) (hstop _)
  · exact Triple.pure fun _ h => h
  · exact Triple.bind (Q := fun _ => Q false) (Triple.note hmissed) fun _ => Triple.pure fun _ h => h

end Rules

end TokenTimer.Agent
