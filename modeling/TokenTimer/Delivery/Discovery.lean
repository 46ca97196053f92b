/-
  TokenTimer.Delivery.Discovery — a discovery pass of the queue manager over one
  asset (`queue-manager.js`), and the channels a delivery pass selects for the row
  it queued (`delivery-worker.js`).

  The rows of the asset are its `token_expiry` rows of `alert_queue`; the day is the
  reference day of the pass.

  Main results:
    * `reconcile_keeps_list` — on a list of the channels discovery itself computed, a
      later pass changes nothing.
    * `rowsAfter_eq` — so any number of passes on the same data leave the row
        of the first.
-/

import TokenTimer.Delivery.Groups

namespace TokenTimer.Delivery

open Lib

/-! ## §1. The asset and the settings of its workspace. -/

/-- `tokens.cert_lifecycle_status`. -/
inductive CertLifecycleStatus
  | discovered | active | renewing | expiring | expired | revoked | decommissioned
deriving DecidableEq, Repr

/-- A row of the asset joined with the settings of its workspace. -/
structure Asset where
  expiration : Option Int
  importedAt : Option Int := none
  certLifecycleStatus : Option CertLifecycleStatus := none
  contactGroups : List ContactGroup := []
  assignedIds : List String := []
  defaultContactGroupId : String := ""
  /-- `null` (or no array) is `none`. -/
  alertThresholds : Option (List ThresholdValue) := none
  /-- `String(webhook.name || "")` of each webhook. -/
  webhookUrls : List String := []
  emailAlertsEnabled : Option Bool := some true
deriving DecidableEq

/-- `shouldSkipRetiredCertificateAlert`. -/
def Asset.retired (asset : Asset) : Bool :=
  asset.certLifecycleStatus = some .revoked || asset.certLifecycleStatus = some .decommissioned

/-- `email_alerts_enabled !== false`. -/
def Asset.emailEnabled (asset : Asset) : Bool := asset.emailAlertsEnabled ≠ some false

def Asset.computeDaysLeft (asset : Asset) (referenceDay : Int) : Option Int :=
  asset.expiration.map (· - referenceDay)

def Asset.resolvedGroups (asset : Asset) : List ContactGroup :=
  resolveContactGroupsForAsset asset.contactGroups asset.assignedIds asset.defaultContactGroupId

/-- `workspaceThresholds`, with what stands for a list that is not there. -/
def Asset.workspaceThresholds (asset : Asset) (absent : List ℚ) : List ℚ :=
  (asset.alertThresholds.map finiteNumbers).getD absent

/-! ## §2. Reconciling a row. -/

/-- `sameStringList`. -/
def sameChannels (left right : List Channel) : Bool := decide (left.Perm right)

def reconciledLedger (stored : Stored) (live : List Channel) : Stored :=
  .ledger (live.filter fun channel => stillOpen (stored.outcomes.get channel)) live
    (stored.outcomes.filterKeys fun channel => channel ∈ live)

def reconciledList (storedList live : List Channel) : List Channel :=
  let next := live.filter fun channel => channel ∈ storedList
  if storedList.isEmpty then live else if next.isEmpty then storedList else next

/-- `reconcileDeliveryChannels`; `none` is `changed: false`. -/
def reconcileDeliveryChannels (stored : Stored) (configuredChannels : List Channel) :
    Option Stored :=
  let live := deliveryChannelNames configuredChannels
  match stored with
  | .legacy _ =>
    let next := reconciledList stored.retry live
    if sameChannels next stored.retry then none else some (.legacy next)
  | .unsupported => some (.legacy live)
  | .ledger _ _ _ =>
    let next := reconciledLedger stored live
    if sameChannels next.retry stored.retry && sameChannels live stored.required &&
        stored.outcomes.keys.all (· ∈ live) then none
    else some next

/-! ## §3. The queue. -/

/-- A `token_expiry` row of `alert_queue`. -/
structure Row where
  /-- `poswin` or `negwin` of `alert_key`. -/
  negativeWindow : Bool
  thresholdDays : Int
  channels : Stored
  status : QueueStatus := .pending
  attempts : Nat := 0
  nextAttemptAt : Option Nat := none
  deliveryClaimId : Option Nat := none
deriving DecidableEq

def Row.isFor (window : ThresholdWindow) (row : Row) : Bool :=
  row.negativeWindow = window.negativeWindow && (row.thresholdDays : ℚ) = window.thresholdReached

/-- The statuses a delivery pass still works on. -/
def QueueStatus.live (status : QueueStatus) : Bool :=
  status = .pending || status = .failed || status = .partially

/-- The UPDATE of a row that exists. -/
def Row.reconcile (row : Row) (channels : List Channel) : Row :=
  if row.status.live && row.deliveryClaimId.isNone then
    match reconcileDeliveryChannels row.channels channels with
    | some next => { row with channels := next }
    | none => row
  else row

/-- An `INTEGER` of the database. -/
def asInteger (n : ℚ) : Option Int :=
  if n.den = 1 ∧ -2147483648 ≤ n.num ∧ n.num ≤ 2147483647 then some n.num else none

/-! ## §4. A discovery pass. -/

/-- What discovery finds for an asset: its window and the channels of it. -/
structure Found where
  window : ThresholdWindow
  channels : List Channel
deriving DecidableEq

def discoveryThresholds (defaults : List ℚ) (asset : Asset) : List ℚ :=
  let workspaceThresholds := asset.workspaceThresholds defaults
  let unionThresholds := unionEffectiveThresholds asset.resolvedGroups workspaceThresholds
  if unionThresholds.isEmpty then workspaceThresholds else unionThresholds

/-- `eligibleGroups` of discovery. -/
def discoveryGroups (defaults : List ℚ) (asset : Asset) (thresholdReached : ℚ) :
    List ContactGroup :=
  unionGroupsForThresholdWindow asset.resolvedGroups (asset.workspaceThresholds defaults)
    thresholdReached

/-- `channels` of discovery. -/
def discoveryChannels (defaults : List ℚ) (asset : Asset) (thresholdReached : ℚ) : List Channel :=
  channelsFromGroups (discoveryGroups defaults asset thresholdReached) asset.emailEnabled
    asset.webhookUrls

/-- The turn of an asset, up to the reads of the queue. -/
def discover (defaults : List ℚ) (asset : Asset) (referenceDay : Int) : Option Found :=
  if asset.retired then none
  else
    match (asset.computeDaysLeft referenceDay).bind fun days =>
        findThresholdWindow days (discoveryThresholds defaults asset) with
    | none => none
    | some window =>
      if isStaleImportThreshold asset.importedAt asset.expiration window.thresholdReached then none
      else some { window, channels := discoveryChannels defaults asset window.thresholdReached }

/-- The rows of the asset after what was found; `none` where a threshold that is no
    `INTEGER` makes the statement throw, and the pass with it. -/
def queueFound (found : Found) (rows : List Row) : Option (List Row) :=
  match asInteger found.window.thresholdReached with
  | none => none
  | some thresholdDays =>
    if rows.any (Row.isFor found.window) then
      some <| rows.map fun row =>
        if row.isFor found.window then row.reconcile found.channels else row
    else if rows.any fun row => row.thresholdDays = thresholdDays && row.status = .sent then some rows
    else if found.channels.isEmpty then some rows
    else
      some (rows ++ [{ negativeWindow := found.window.negativeWindow, thresholdDays
                       channels := .legacy found.channels }])

def discoverPass (defaults : List ℚ) (asset : Asset) (referenceDay : Int) (rows : List Row) :
    List Row :=
  match discover defaults asset referenceDay with
  | none => rows
  | some found => (queueFound found rows).getD rows

/-! ## §5. The channels of a delivery pass. -/

/-- `liveChannels` of `deliveryJob`. -/
def liveChannels (asset : Asset) (row : Row) : List Channel :=
  deliveryChannelsFromEligibleGroups
    (unionGroupsForThresholdWindow asset.resolvedGroups (asset.workspaceThresholds [])
      row.thresholdDays)
    asset.emailEnabled .tokenExpiry

/-- `finalChannels` of `deliveryJob`. -/
def finalChannels (asset : Asset) (row : Row) : List Channel :=
  channelsForDeliveryAttempt (liveChannels asset row) row.channels (decide (0 < row.attempts))

/-! ## §6. Repeating a pass. -/

theorem asInteger_some {n : ℚ} {z : Int} (h : asInteger n = some z) : (z : ℚ) = n := by
  obtain ⟨hden, h⟩ := Option.ite_none_right_eq_some.mp h
  rw [← Option.some.inj h]
  exact Rat.coe_int_num_of_den_eq_one hden.1

@[simp] theorem safe_channelsWhere {e w a : Bool} :
    deliveryChannelNames (channelsWhere e w a) = channelsWhere e w a := by
  cases e <;> cases w <;> cases a <;> rfl

variable {asset : Asset} {day : Int} {defaults : List ℚ}

/-- The channels of discovery pass `deliveryChannelNames` as they are. -/
@[simp] theorem deliveryChannelNames_discoveryChannels {h : ℚ} :
    deliveryChannelNames (discoveryChannels defaults asset h) = discoveryChannels defaults asset h :=
  safe_channelsWhere

theorem reconcile_keeps_list {channels : List Channel}
    (hsafe : deliveryChannelNames channels = channels) :
    reconcileDeliveryChannels (.legacy channels) channels = none := by
  have hlist : reconciledList channels channels = channels := by
    unfold reconciledList
    have hself : channels.filter (fun c => c ∈ channels) = channels := by simp
    rw [hself]
    by_cases hempty : channels.isEmpty = true
    · simp [hempty]
    · simp [hempty]
  show (if sameChannels (reconciledList (deliveryChannelNames channels)
    (deliveryChannelNames channels)) (deliveryChannelNames channels) then none else _) = none
  rw [hsafe, hlist, if_pos (by simp [sameChannels])]

def queuedRow (defaults : List ℚ) (asset : Asset) (referenceDay : Int) : Option Row :=
  (discover defaults asset referenceDay).bind fun found =>
    (asInteger found.window.thresholdReached).bind fun thresholdDays =>
      if found.channels.isEmpty then none
      else some { negativeWindow := found.window.negativeWindow, thresholdDays
                  channels := .legacy found.channels }

theorem discover_channels {found : Found} (h : discover defaults asset day = some found) :
    found.channels = discoveryChannels defaults asset found.window.thresholdReached := by
  unfold discover at h
  split at h
  · cases h
  · split at h
    · cases h
    · split at h
      · cases h
      · cases h
        rfl

theorem discoverPass_nil :
    discoverPass defaults asset day [] = (queuedRow defaults asset day).toList := by
  unfold discoverPass queuedRow
  cases discover defaults asset day with
  | none => rfl
  | some found =>
    unfold queueFound
    cases hz : asInteger found.window.thresholdReached with
    | none => simp [hz]
    | some z =>
      cases hchannels : found.channels with
      | nil | cons => simp [hchannels, hz]

/-- A pass on the same data leaves the row of an earlier one as it is. -/
theorem discoverPass_again :
    discoverPass defaults asset day (queuedRow defaults asset day).toList =
      (queuedRow defaults asset day).toList := by
  cases hrow : queuedRow defaults asset day with
  | none =>
    show discoverPass defaults asset day [] = []
    rw [discoverPass_nil, hrow]
    rfl
  | some row =>
    unfold queuedRow at hrow
    obtain ⟨found, hfound, hrow⟩ := Option.bind_eq_some_iff.mp hrow
    obtain ⟨z, hz, hrow⟩ := Option.bind_eq_some_iff.mp hrow
    split at hrow
    · cases hrow
    · have hkeep : row.reconcile found.channels = row := by
        have hsafe : deliveryChannelNames found.channels = found.channels := by
          rw [discover_channels hfound]
          exact deliveryChannelNames_discoveryChannels
        cases hrow
        unfold Row.reconcile
        dsimp only
        rw [reconcile_keeps_list hsafe]
        simp
      have hfor : row.isFor found.window = true := by
        cases hrow
        simp [Row.isFor, asInteger_some hz]
      unfold discoverPass queueFound
      simp [hfound, hz, hfor, hkeep]

/-- The rows of the asset after some discovery passes over an empty queue. -/
def rowsAfter (defaults : List ℚ) (asset : Asset) (referenceDay : Int) : Nat → List Row
  | 0 => []
  | passes + 1 =>
    discoverPass defaults asset referenceDay (rowsAfter defaults asset referenceDay passes)

theorem rowsAfter_eq {passes : Nat} (h : 0 < passes) :
    rowsAfter defaults asset day passes = (queuedRow defaults asset day).toList := by
  induction passes with
  | zero => omega
  | succ passes ih =>
    show discoverPass defaults asset day (rowsAfter defaults asset day passes) = _
    by_cases hzero : passes = 0
    · rw [hzero]
      exact discoverPass_nil
    · rw [ih (by omega), discoverPass_again]

end TokenTimer.Delivery
