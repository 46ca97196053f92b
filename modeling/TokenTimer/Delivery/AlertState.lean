/-
  TokenTimer.Delivery.AlertState — the alert state the API reports
  (`services/alertEligibility.js`, `evaluateAlertEligibility`), against discovery and
  the first delivery attempt.

  The API folds the groups of an asset into one group with the union of their
  thresholds and channels; discovery takes the channels of the groups that fire for
  the window; delivery resolves them again at send time.

  Main results:
    * `buildAlertState_due` — when the API says `due`, and with which channels.
    * `alert_state_agrees_iff` — the three agree exactly on the settings for which
        the groups that fire select what the groups as a
        whole do.
-/

import TokenTimer.Delivery.Discovery

namespace TokenTimer.Delivery

open Lib

/-! ## §1. `evaluateAlertEligibility`. -/

inductive EligibilityStatus
  | outsideThreshold | due | suppressed
deriving DecidableEq, Repr

inductive EligibilityReason
  | thresholdNotReached | postExpiryThresholdNotConfigured | invalidExpiration
  | retiredCertificate | staleImportThreshold | noEligibleChannels | thresholdReached
deriving DecidableEq, Repr

inductive ThresholdKind
  | postExpiry | expiryDay | preExpiry
deriving DecidableEq, Repr

def thresholdKind (threshold : ℚ) : ThresholdKind :=
  if threshold < 0 then .postExpiry else if threshold = 0 then .expiryDay else .preExpiry

/-- `findNextThreshold`. -/
structure NextThreshold where
  threshold : ℚ
  at_ : ℚ
deriving DecidableEq

/-- The result of `evaluateAlertEligibility`. -/
structure Eligibility where
  status : EligibilityStatus
  reason : EligibilityReason
  daysUntilExpiry : Option Int
  effectiveThreshold : Option ℚ := none
  effectiveThresholds : List ℚ
  thresholdType : Option ThresholdKind := none
  thresholdDate : Option ℚ := none
  next : Option NextThreshold := none
  eligibleChannels : List Channel
  contactGroupId : Option String
  expiredAtImport : Bool
  importedAfterThreshold : Bool := false
deriving DecidableEq

/-- `resolveContactGroup`; a missing identifier is `""`. -/
def resolveContactGroup (groups : List ContactGroup) (contactGroupId defaultContactGroupId : String) :
    Option ContactGroup :=
  let pickId := if jsTrim contactGroupId ≠ "" then contactGroupId else defaultContactGroupId
  if pickId = "" then none
  else
    (groups.find? (sameId pickId)).or
      (if contactGroupId ≠ "" ∧ defaultContactGroupId ≠ "" then
        groups.find? (sameId defaultContactGroupId) else none)

/-- The thresholds of a group that `resolveEffectiveThresholds` accepts. -/
def thresholdOverride (group : ContactGroup) : List ℚ :=
  ((group.thresholds.getD []).filterMap (·.number)).filter inGroupRange

def resolveEffectiveThresholds (defaults : List ℚ) (asset : Asset)
    (resolvedGroup : Option ContactGroup) : List ℚ :=
  let thresholds := asset.workspaceThresholds defaults
  let override := (resolvedGroup.map thresholdOverride).getD []
  (distinct (if override.isEmpty then thresholds else override)).insertionSort (· ≥ ·)

def resolveEligibleChannels (asset : Asset) (resolvedGroup : Option ContactGroup) : List Channel :=
  channelsWhere (asset.emailEnabled && resolvedGroup.any hasEmailContacts)
    (resolvedGroup.any fun group =>
      hasWebhookNames group && asset.webhookUrls.any fun name => jsTrim name ∈ getWebhookNames group)
    (resolvedGroup.any hasWhatsAppContacts)

def findNextThreshold (asset : Asset) (thresholds : List ℚ) (referenceDay : Int) :
    Option NextThreshold :=
  let candidates := asset.expiration.toList.flatMap fun expirationDay =>
    (thresholds.map fun threshold =>
      { threshold, at_ := (expirationDay : ℚ) - threshold : NextThreshold }).filter
        fun candidate => (referenceDay : ℚ) < candidate.at_
  (candidates.insertionSort fun a b => a.at_ ≤ b.at_).head?

/-- `evaluateAlertEligibility`; `contactGroupId` is the asset's `contact_group_id`. -/
def evaluateAlertEligibility (defaults : List ℚ) (asset : Asset) (contactGroupId : String)
    (referenceDay : Int) : Eligibility :=
  let resolvedGroup :=
    resolveContactGroup asset.contactGroups contactGroupId asset.defaultContactGroupId
  let effectiveThresholds := resolveEffectiveThresholds defaults asset resolvedGroup
  let eligibleChannels := resolveEligibleChannels asset resolvedGroup
  let daysUntilExpiry := asset.computeDaysLeft referenceDay
  let base : Eligibility := {
    status := .outsideThreshold, reason := .thresholdNotReached
    daysUntilExpiry, effectiveThresholds, eligibleChannels
    contactGroupId := resolvedGroup.map (·.id)
    expiredAtImport := isStaleImportThreshold asset.importedAt asset.expiration 0 }
  if asset.retired then { base with status := .suppressed, reason := .retiredCertificate }
  else
    match daysUntilExpiry with
    | none => { base with reason := .invalidExpiration }
    | some days =>
      let next := findNextThreshold asset effectiveThresholds referenceDay
      match findThresholdWindow days effectiveThresholds with
      | none =>
        { base with
          reason := if days < 0 ∧ effectiveThresholds.all (0 ≤ ·) then
            .postExpiryThresholdNotConfigured else .thresholdNotReached
          next := next }
      | some window =>
        let reached : Eligibility := { base with
          effectiveThreshold := some window.thresholdReached
          thresholdType := some (thresholdKind window.thresholdReached)
          thresholdDate := asset.expiration.map fun day => (day : ℚ) - window.thresholdReached }
        if isStaleImportThreshold asset.importedAt asset.expiration window.thresholdReached then
          { reached with
            status := .suppressed, reason := .staleImportThreshold, next := next
            importedAfterThreshold := true }
        else if eligibleChannels.isEmpty then
          { reached with status := .suppressed, reason := .noEligibleChannels }
        else { reached with status := .due, reason := .thresholdReached }

/-! ## §2. `buildAlertState`. -/

/-- The synthetic group of `toUnionedEligibilityAsset`. -/
def syntheticGroup (defaults : List ℚ) (asset : Asset) (primary : ContactGroup) : ContactGroup :=
  let resolvedGroups := asset.resolvedGroups
  { id := primary.id
    thresholds := some <|
      (unionEffectiveThresholds resolvedGroups (asset.workspaceThresholds defaults)).map
        fun n => { number := some n }
    emailContactIds := unionNonEmpty (resolvedGroups.map (·.emailContactIds))
    whatsappContactIds := unionNonEmpty (resolvedGroups.map (·.whatsappContactIds))
    webhookNames := some (unionWebhookNames resolvedGroups) }

/-- `toUnionedEligibilityAsset`, with the `contact_group_id` it sets. -/
def toUnionedEligibilityAsset (defaults : List ℚ) (asset : Asset) : Asset × String :=
  match asset.resolvedGroups with
  | [] => (asset, "")
  | primary :: _ =>
    ({ asset with contactGroups := [syntheticGroup defaults asset primary] }, primary.id)

def buildAlertState (defaults : List ℚ) (asset : Asset) (referenceDay : Int) : Eligibility :=
  let unioned := toUnionedEligibilityAsset defaults asset
  evaluateAlertEligibility defaults unioned.1 unioned.2 referenceDay

/-! ## §3. The window an asset is due in. -/

/-- The window of some thresholds, for an asset that is neither retired nor imported
    after it. -/
def dueWindow (asset : Asset) (referenceDay : Int) (thresholds : List ℚ) :
    Option ThresholdWindow :=
  if asset.retired then none
  else ((asset.computeDaysLeft referenceDay).bind (findThresholdWindow · thresholds)).filter
    fun w => !isStaleImportThreshold asset.importedAt asset.expiration w.thresholdReached

theorem discover_eq {defaults : List ℚ} {asset : Asset} {day : Int} :
    discover defaults asset day =
      (dueWindow asset day (discoveryThresholds defaults asset)).map fun window =>
        { window, channels := discoveryChannels defaults asset window.thresholdReached } := by
  unfold discover dueWindow
  by_cases hretired : asset.retired = true
  · simp [hretired]
  · rw [if_neg hretired, if_neg hretired]
    cases hw : (asset.computeDaysLeft day).bind fun days =>
        findThresholdWindow days (discoveryThresholds defaults asset) with
    | none => rfl
    | some w =>
      by_cases hstale : isStaleImportThreshold asset.importedAt asset.expiration w.thresholdReached =
          true
      · simp [hstale]
      · simp [hstale]

/-- When `evaluateAlertEligibility` says `due`. -/
theorem evaluate_due (defaults : List ℚ) (asset : Asset) (id : String) (day : Int) (h : ℚ) :
    ((evaluateAlertEligibility defaults asset id day).status = .due ∧
        (evaluateAlertEligibility defaults asset id day).effectiveThreshold = some h) ↔
      ((dueWindow asset day (evaluateAlertEligibility defaults asset id day).effectiveThresholds).map
        (·.thresholdReached) = some h ∧
        (evaluateAlertEligibility defaults asset id day).eligibleChannels ≠ []) := by
  unfold evaluateAlertEligibility dueWindow
  by_cases hretired : asset.retired = true
  · simp [hretired]
  · simp only [hretired, Bool.false_eq_true, if_false]
    cases hdays : asset.computeDaysLeft day with
    | none => simp
    | some days =>
      simp only [Option.bind_some]
      generalize resolveEffectiveThresholds defaults asset
        (resolveContactGroup asset.contactGroups id asset.defaultContactGroupId) = ts
      generalize resolveEligibleChannels asset
        (resolveContactGroup asset.contactGroups id asset.defaultContactGroupId) = cs
      cases hw : findThresholdWindow days ts with
      | none => simp [hw]
      | some w =>
        by_cases hstale :
            isStaleImportThreshold asset.importedAt asset.expiration w.thresholdReached = true
        · simp [hstale, hw]
        · by_cases hcs : cs = []
          · simp [hstale, hcs]
          · simp [hstale, hcs, hw]

theorem evaluate_fields {defaults : List ℚ} {asset : Asset} {id : String} {day : Int} :
    (evaluateAlertEligibility defaults asset id day).effectiveThresholds =
        resolveEffectiveThresholds defaults asset
          (resolveContactGroup asset.contactGroups id asset.defaultContactGroupId) ∧
      (evaluateAlertEligibility defaults asset id day).eligibleChannels =
        resolveEligibleChannels asset
          (resolveContactGroup asset.contactGroups id asset.defaultContactGroupId) := by
  unfold evaluateAlertEligibility
  dsimp only
  generalize resolveEffectiveThresholds defaults asset
    (resolveContactGroup asset.contactGroups id asset.defaultContactGroupId) = ts
  generalize resolveEligibleChannels asset
    (resolveContactGroup asset.contactGroups id asset.defaultContactGroupId) = cs
  split
  · exact ⟨rfl, rfl⟩
  · split
    · exact ⟨rfl, rfl⟩
    · split
      · exact ⟨rfl, rfl⟩
      · split
        · exact ⟨rfl, rfl⟩
        · split
          · exact ⟨rfl, rfl⟩
          · exact ⟨rfl, rfl⟩

/-! ## §4. What the API folds. -/

/-- The default group, looked up by its text as it is stored. -/
def defaultAsStored (asset : Asset) : Option ContactGroup :=
  resolveContactGroup asset.contactGroups "" asset.defaultContactGroupId

/-- The channels a group can deliver on: an identifier that is one, a webhook that
    is configured. -/
def usable (asset : Asset) (group : ContactGroup) : Channel → Bool
  | .email => asset.emailEnabled && group.emailContactIds.any (· ≠ "")
  | .webhooks =>
    asset.webhookUrls.any fun name => jsTrim name ≠ "" && jsTrim name ∈ getWebhookNames group
  | .whatsapp => group.whatsappContactIds.any (· ≠ "")
  | .other _ => false

def foldedOffers (asset : Asset) (channel : Channel) : Prop :=
  match asset.resolvedGroups with
  | [] => channel ∈ resolveEligibleChannels asset (defaultAsStored asset)
  | groups => ∃ g ∈ groups, usable asset g channel = true

/-- The thresholds the API folds: the union, cut to the range of group thresholds. -/
def foldedThresholds (defaults : List ℚ) (asset : Asset) : List ℚ :=
  match asset.resolvedGroups with
  | [] => resolveEffectiveThresholds defaults asset (defaultAsStored asset)
  | groups =>
    let workspaceThresholds := asset.workspaceThresholds defaults
    let union := (unionEffectiveThresholds groups workspaceThresholds).filter inGroupRange
    if union.isEmpty then workspaceThresholds else union

theorem Asset.trimmed_of_resolved (asset : Asset) {g : ContactGroup} (h : g ∈ asset.resolvedGroups) :
    jsTrim g.id = g.id ∧ g.id ≠ "" :=
  mem_resolveContactGroupsForAsset h

theorem resolveContactGroup_synthetic {defaults : List ℚ} {asset : Asset} {primary : ContactGroup}
    {dflt : String} (h : primary ∈ asset.resolvedGroups) :
    resolveContactGroup [syntheticGroup defaults asset primary] primary.id dflt =
      some (syntheticGroup defaults asset primary) := by
  obtain ⟨htrim, hne⟩ := asset.trimmed_of_resolved h
  have hfind : [syntheticGroup defaults asset primary].find? (sameId primary.id) =
      some (syntheticGroup defaults asset primary) := by simp [sameId, syntheticGroup]
  unfold resolveContactGroup
  simp [htrim, hne, hfind]

theorem mem_synthetic_channels {defaults : List ℚ} {asset : Asset} {primary : ContactGroup}
    {c : Channel} :
    c ∈ resolveEligibleChannels asset (some (syntheticGroup defaults asset primary)) ↔
      ∃ g ∈ asset.resolvedGroups, usable asset g c = true := by
  unfold resolveEligibleChannels syntheticGroup
  cases c with
  | email =>
    simp only [email_mem_channelsWhere, Option.any_some, hasEmailContacts, usable,
      Bool.and_eq_true, Bool.not_eq_true', List.isEmpty_eq_false_iff_exists_mem, mem_unionNonEmpty,
      List.any_eq_true, decide_eq_true_eq]
    constructor
    · rintro ⟨henabled, id, ⟨l, hl, hid⟩, hne⟩
      obtain ⟨g, hg, rfl⟩ := List.mem_map.mp hl
      exact ⟨g, hg, henabled, id, hid, hne⟩
    · rintro ⟨g, hg, henabled, id, hid, hne⟩
      exact ⟨henabled, id, ⟨_, List.mem_map_of_mem hg, hid⟩, hne⟩
  | whatsapp =>
    simp only [whatsapp_mem_channelsWhere, Option.any_some, hasWhatsAppContacts, usable,
      Bool.not_eq_true', List.isEmpty_eq_false_iff_exists_mem, mem_unionNonEmpty,
      List.any_eq_true, decide_eq_true_eq]
    constructor
    · rintro ⟨id, ⟨l, hl, hid⟩, hne⟩
      obtain ⟨g, hg, rfl⟩ := List.mem_map.mp hl
      exact ⟨g, hg, id, hid, hne⟩
    · rintro ⟨g, hg, id, hid, hne⟩
      exact ⟨id, ⟨_, List.mem_map_of_mem hg, hid⟩, hne⟩
  | webhooks =>
    -- the names of the union are trimmed already
    have htrim : ∀ n ∈ unionWebhookNames asset.resolvedGroups, jsTrim n = n := by
      intro n hn
      obtain ⟨⟨l, hl, hnl⟩, -⟩ := mem_unionNonEmpty.mp hn
      obtain ⟨g, -, rfl⟩ := List.mem_map.mp hl
      unfold getWebhookNames at hnl
      cases hnames : g.webhookNames with
      | some names =>
        rw [hnames] at hnl
        obtain ⟨m, -, rfl⟩ := List.mem_map.mp hnl
        exact jsTrim_jsTrim m
      | none =>
        rw [hnames] at hnl
        dsimp only at hnl
        split at hnl
        · rw [List.mem_singleton.mp hnl]
          exact jsTrim_jsTrim _
        · cases hnl
    have hnames : ((unionWebhookNames asset.resolvedGroups).filter (· ≠ "")).map jsTrim =
        unionWebhookNames asset.resolvedGroups := by
      rw [List.filter_eq_self.mpr fun n hn => by simpa using (mem_unionNonEmpty.mp hn).2]
      exact (List.map_congr_left htrim).trans (List.map_id _)
    have hmem : ∀ n, n ∈ unionWebhookNames asset.resolvedGroups ↔
        (∃ g ∈ asset.resolvedGroups, n ∈ getWebhookNames g) ∧ n ≠ "" := by
      intro n
      unfold unionWebhookNames
      rw [mem_unionNonEmpty]
      simp
    simp only [webhooks_mem_channelsWhere, Option.any_some, usable, getWebhookNames.eq_def,
      Bool.and_eq_true, List.any_eq_true, decide_eq_true_eq]
    rw [hnames]
    simp only [← getWebhookNames.eq_def, hmem]
    constructor
    · rintro ⟨-, url, hurl, ⟨g, hg, hname⟩, hne⟩
      exact ⟨g, hg, url, hurl, hne, hname⟩
    · rintro ⟨g, hg, url, hurl, hne, hname⟩
      refine ⟨?_, url, hurl, ⟨g, hg, hname⟩, hne⟩
      have hin : jsTrim url ∈ unionWebhookNames asset.resolvedGroups := (hmem _).mpr ⟨⟨g, hg, hname⟩, hne⟩
      have hpos : unionWebhookNames asset.resolvedGroups ≠ [] := List.ne_nil_of_mem hin
      simp [hasWebhookNames, hpos]
  | other name => simp [usable]

theorem mem_synthetic_thresholds {defaults : List ℚ} {asset : Asset} {primary : ContactGroup}
    {rest : List ContactGroup} (hgroups : asset.resolvedGroups = primary :: rest) {n : ℚ} :
    n ∈ resolveEffectiveThresholds defaults asset (some (syntheticGroup defaults asset primary)) ↔
      n ∈ foldedThresholds defaults asset := by
  have hoverride : thresholdOverride (syntheticGroup defaults asset primary) =
      (unionEffectiveThresholds asset.resolvedGroups (asset.workspaceThresholds defaults)).filter
        inGroupRange := by
    unfold thresholdOverride syntheticGroup
    simp [List.filterMap_map]
  unfold resolveEffectiveThresholds foldedThresholds
  rw [hgroups]
  rw [List.mem_insertionSort, mem_distinct, Option.map_some, Option.getD_some, hoverride, hgroups]

/-! ## §5. When the API says `due`. -/

theorem buildAlertState_channels {defaults : List ℚ} {asset : Asset} {day : Int} {c : Channel} :
    c ∈ (buildAlertState defaults asset day).eligibleChannels ↔ foldedOffers asset c := by
  unfold buildAlertState toUnionedEligibilityAsset foldedOffers
  rw [evaluate_fields.2]
  cases hgroups : asset.resolvedGroups with
  | nil => rfl
  | cons primary rest =>
    dsimp only
    rw [resolveContactGroup_synthetic (by simp [hgroups]), ← hgroups]
    show c ∈ resolveEligibleChannels asset (some (syntheticGroup defaults asset primary)) ↔ _
    exact mem_synthetic_channels

theorem buildAlertState_thresholds {defaults : List ℚ} {asset : Asset} {day : Int} {n : ℚ} :
    n ∈ (buildAlertState defaults asset day).effectiveThresholds ↔
      n ∈ foldedThresholds defaults asset := by
  unfold buildAlertState toUnionedEligibilityAsset
  rw [evaluate_fields.1]
  cases hgroups : asset.resolvedGroups with
  | nil =>
    unfold foldedThresholds
    rw [hgroups]
    rfl
  | cons primary rest =>
    dsimp only
    rw [resolveContactGroup_synthetic (by simp [hgroups])]
    exact mem_synthetic_thresholds hgroups

/-- The API says `due` with a threshold exactly when it is the window of the folded
    thresholds and some folded channel is offered. -/
theorem buildAlertState_due {defaults : List ℚ} {asset : Asset} {day : Int} {h : ℚ} :
    ((buildAlertState defaults asset day).status = .due ∧
        (buildAlertState defaults asset day).effectiveThreshold = some h) ↔
      (dueWindow asset day (foldedThresholds defaults asset)).map (·.thresholdReached) = some h ∧
        ∃ c, foldedOffers asset c := by
  have hwindow : dueWindow (toUnionedEligibilityAsset defaults asset).1 day
      (buildAlertState defaults asset day).effectiveThresholds =
      dueWindow asset day (foldedThresholds defaults asset) := by
    have hcongr : ∀ d, findThresholdWindow d (buildAlertState defaults asset day).effectiveThresholds =
        findThresholdWindow d (foldedThresholds defaults asset) := fun d =>
      findThresholdWindow_congr fun n => buildAlertState_thresholds
    have hasset : ∀ ts, dueWindow (toUnionedEligibilityAsset defaults asset).1 day ts =
        dueWindow asset day ts := by
      intro ts
      unfold toUnionedEligibilityAsset
      cases asset.resolvedGroups with
      | nil | cons => rfl
    rw [hasset]
    unfold dueWindow
    simp only [hcongr]
  have hchannels : (buildAlertState defaults asset day).eligibleChannels ≠ [] ↔
      ∃ c, foldedOffers asset c := by
    constructor
    · intro hne
      obtain ⟨c, hc⟩ := List.exists_mem_of_ne_nil _ hne
      exact ⟨c, buildAlertState_channels.mp hc⟩
    · rintro ⟨c, hc⟩
      exact List.ne_nil_of_mem (buildAlertState_channels.mpr hc)
  have hdue := evaluate_due defaults (toUnionedEligibilityAsset defaults asset).1
    (toUnionedEligibilityAsset defaults asset).2 day h
  rw [show evaluateAlertEligibility defaults (toUnionedEligibilityAsset defaults asset).1
    (toUnionedEligibilityAsset defaults asset).2 day = buildAlertState defaults asset day from rfl]
    at hdue
  rw [← hwindow, ← hchannels]
  exact hdue

/-! ## §6. The groups that fire. -/

/-- The channels a group puts on the row of a window it fires for. -/
def queues (asset : Asset) (group : ContactGroup) : Channel → Bool
  | .email => asset.emailEnabled && hasEmailContacts group
  | .webhooks => usable asset group .webhooks
  | .whatsapp => hasWhatsAppContacts group
  | .other _ => false

def selects (asset : Asset) (group : ContactGroup) : Channel → Bool
  | .email => asset.emailEnabled && hasEmailContacts group
  | .webhooks => hasWebhookNames group
  | .whatsapp => hasWhatsAppContacts group
  | .other _ => false

/-- The groups a delivery pass takes to fire for a window: a list of thresholds that
    is not there counts as empty. -/
def sendGroups (asset : Asset) (thresholdReached : ℚ) : List ContactGroup :=
  unionGroupsForThresholdWindow asset.resolvedGroups (asset.workspaceThresholds []) thresholdReached

theorem hasWebhookNames_of_mem {g : ContactGroup} {n : String} (h : n ∈ getWebhookNames g) :
    hasWebhookNames g = true := by
  unfold getWebhookNames at h
  unfold hasWebhookNames
  cases hnames : g.webhookNames with
  | some names =>
    rw [hnames] at h
    obtain ⟨m, hm, -⟩ := List.mem_map.mp h
    have hne : names ≠ [] := List.ne_nil_of_mem (List.mem_of_mem_filter hm)
    simp [hne]
  | none =>
    rw [hnames] at h
    by_cases hname : g.webhookName = ""
    · simp [hname] at h
    · simp [hname]

theorem mem_discoveryChannels {defaults : List ℚ} {asset : Asset} {t : ℚ} {c : Channel} :
    c ∈ discoveryChannels defaults asset t ↔
      ∃ g ∈ discoveryGroups defaults asset t, queues asset g c = true := by
  unfold discoveryChannels channelsFromGroups
  cases c with
  | email =>
    simp only [email_mem_channelsWhere, Bool.and_eq_true, List.any_eq_true, queues]
    constructor
    · rintro ⟨henabled, g, hg, hhas⟩
      exact ⟨g, hg, henabled, hhas⟩
    · rintro ⟨g, hg, henabled, hhas⟩
      exact ⟨henabled, g, hg, hhas⟩
  | whatsapp | other => simp [queues]
  | webhooks =>
    simp only [webhooks_mem_channelsWhere, List.any_eq_true, queues, usable, List.mem_filter,
      List.mem_flatMap, decide_eq_true_eq, Bool.and_eq_true]
    constructor
    · rintro ⟨url, hurl, ⟨g, ⟨hg, -⟩, hname⟩, hne⟩
      exact ⟨g, hg, url, hurl, hne, hname⟩
    · rintro ⟨g, hg, url, hurl, hne, hname⟩
      exact ⟨url, hurl, ⟨g, ⟨hg, hasWebhookNames_of_mem hname⟩, hname⟩, hne⟩

theorem mem_liveChannels {asset : Asset} {row : Row} {c : Channel} :
    c ∈ liveChannels asset row ↔ ∃ g ∈ sendGroups asset row.thresholdDays, selects asset g c = true := by
  unfold liveChannels deliveryChannelsFromEligibleGroups sendGroups
  cases c with
  | email =>
    simp only [email_mem_channelsWhere, Bool.and_eq_true, List.any_eq_true, selects]
    constructor
    · rintro ⟨henabled, g, hg, hhas⟩
      exact ⟨g, hg, henabled, hhas⟩
    · rintro ⟨g, hg, henabled, hhas⟩
      exact ⟨henabled, g, hg, hhas⟩
  | whatsapp => simp [selects, whatsAppAllowedForAlertKey]
  | webhooks | other => simp [selects]

/-! ## §7. The two sets of thresholds. -/

variable {defaults : List ℚ} {asset : Asset} {day : Int}

theorem mem_effectiveThresholds {g : ContactGroup} {ws : List ℚ} {n : ℚ}
    (h : n ∈ effectiveThresholds g ws) : inGroupRange n = true ∨ n ∈ ws := by
  unfold effectiveThresholds at h
  dsimp only at h
  split at h
  · exact .inr h
  · exact .inl (mem_validGroupThresholds.mp h).2

/-- A group without thresholds of its own fires for those of the workspace; one with
    some has one in the range. -/
theorem effectiveThresholds_cases (g : ContactGroup) (ws : List ℚ) :
    effectiveThresholds g ws = ws ∨ ∃ n ∈ effectiveThresholds g ws, inGroupRange n = true := by
  unfold effectiveThresholds
  dsimp only
  split
  · exact .inl rfl
  · rename_i hne
    obtain ⟨n, hn⟩ := List.exists_mem_of_ne_nil (validGroupThresholds g.thresholds)
      fun e => hne (by simp [e])
    exact .inr ⟨n, hn, (mem_validGroupThresholds.mp hn).2⟩

theorem mem_discoveryThresholds {g : ContactGroup} (hg : g ∈ asset.resolvedGroups) {n : ℚ} :
    n ∈ discoveryThresholds defaults asset ↔
      ∃ g ∈ asset.resolvedGroups, n ∈ effectiveThresholds g (asset.workspaceThresholds defaults) := by
  unfold discoveryThresholds
  dsimp only
  rw [← mem_unionEffectiveThresholds]
  split
  · rename_i hempty
    rw [List.isEmpty_iff] at hempty
    have heff : effectiveThresholds g (asset.workspaceThresholds defaults) = [] := by
      apply List.eq_nil_iff_forall_not_mem.mpr
      intro m hm
      have hunion := mem_unionEffectiveThresholds.mpr ⟨g, hg, hm⟩
      rw [hempty] at hunion
      cases hunion
    have hws : asset.workspaceThresholds defaults = [] := by
      cases effectiveThresholds_cases g (asset.workspaceThresholds defaults) with
      | inl hown => rw [← hown, heff]
      | inr hsome =>
        obtain ⟨m, hm, -⟩ := hsome
        rw [heff] at hm
        cases hm
    rw [hws]
    rw [hws] at hempty
    simp [hempty]
  · exact Iff.rfl

theorem mem_foldedThresholds {g : ContactGroup} (hg : g ∈ asset.resolvedGroups) {n : ℚ} :
    n ∈ foldedThresholds defaults asset ↔
      n ∈ discoveryThresholds defaults asset ∧
        (inGroupRange n = true ∨
          ∀ t ∈ discoveryThresholds defaults asset, inGroupRange t = false) := by
  have hfold : foldedThresholds defaults asset =
      if ((unionEffectiveThresholds asset.resolvedGroups (asset.workspaceThresholds defaults)).filter
        inGroupRange).isEmpty then asset.workspaceThresholds defaults
      else (unionEffectiveThresholds asset.resolvedGroups
        (asset.workspaceThresholds defaults)).filter inGroupRange := by
    unfold foldedThresholds
    cases hgroups : asset.resolvedGroups with
    | nil => simp [hgroups] at hg
    | cons primary rest => rfl
  have hunion : ∀ t, t ∈ unionEffectiveThresholds asset.resolvedGroups
      (asset.workspaceThresholds defaults) ↔ t ∈ discoveryThresholds defaults asset := by
    intro t
    rw [mem_unionEffectiveThresholds, mem_discoveryThresholds hg]
  rw [hfold]
  split
  · -- no threshold is in the range: every group fires for those of the workspace
    rename_i hempty
    rw [List.isEmpty_iff, List.filter_eq_nil_iff] at hempty
    have hnone : ∀ t ∈ discoveryThresholds defaults asset, inGroupRange t = false := by
      intro t ht
      simpa using hempty t ((hunion t).mpr ht)
    have hws : effectiveThresholds g (asset.workspaceThresholds defaults) =
        asset.workspaceThresholds defaults := by
      cases effectiveThresholds_cases g (asset.workspaceThresholds defaults) with
      | inl hown => exact hown
      | inr hsome =>
        obtain ⟨m, hm, hrange⟩ := hsome
        rw [hnone m ((mem_discoveryThresholds hg).mpr ⟨g, hg, hm⟩)] at hrange
        cases hrange
    constructor
    · intro hn
      exact ⟨(mem_discoveryThresholds hg).mpr ⟨g, hg, by rw [hws]; exact hn⟩, .inr hnone⟩
    · rintro ⟨hn, -⟩
      obtain ⟨g', -, hn'⟩ := (mem_discoveryThresholds hg).mp hn
      cases mem_effectiveThresholds hn' with
      | inl hrange =>
        rw [hnone n hn] at hrange
        cases hrange
      | inr hmem => exact hmem
  · rename_i hsome
    rw [List.mem_filter, hunion]
    constructor
    · rintro ⟨hn, hrange⟩
      exact ⟨hn, .inl hrange⟩
    · rintro ⟨hn, hrange | hnone⟩
      · exact ⟨hn, hrange⟩
      · exfalso
        apply hsome
        rw [List.isEmpty_iff, List.filter_eq_nil_iff]
        intro t ht
        rw [hnone t ((hunion t).mp ht)]
        simp

theorem dueWindow_eq_some {thresholds : List ℚ} {w : ThresholdWindow} :
    dueWindow asset day thresholds = some w ↔
      asset.retired = false ∧
        isStaleImportThreshold asset.importedAt asset.expiration w.thresholdReached = false ∧
        ∃ days, asset.computeDaysLeft day = some days ∧
          IsLeast (reached days thresholds) w.thresholdReached ∧
          w.negativeWindow = decide (days < 0) := by
  unfold dueWindow
  by_cases hretired : asset.retired = true
  · simp [hretired]
  · simp only [hretired, Bool.false_eq_true, if_false, Option.filter_eq_some_iff,
      Option.bind_eq_some_iff, findThresholdWindow_eq_some, Bool.not_eq_true', true_and]
    exact and_comm

theorem dueWindow_folded {g : ContactGroup} (hg : g ∈ asset.resolvedGroups) {w : ThresholdWindow}
    (hw : dueWindow asset day (discoveryThresholds defaults asset) = some w)
    (hmem : w.thresholdReached ∈ foldedThresholds defaults asset) :
    dueWindow asset day (foldedThresholds defaults asset) = some w := by
  obtain ⟨hretired, hstale, days, hdays, hleast, hneg⟩ := dueWindow_eq_some.mp hw
  refine dueWindow_eq_some.mpr ⟨hretired, hstale, days, hdays, ⟨⟨hmem, hleast.1.2⟩, ?_⟩, hneg⟩
  intro t ht
  exact hleast.2 ⟨((mem_foldedThresholds hg).mp ht.1).1, ht.2⟩

/-! ## §8. Agreement. -/

/-- `eligibility.status` is `due` with this threshold. -/
def SaysDue (defaults : List ℚ) (asset : Asset) (day : Int) (h : ℚ) : Prop :=
  (buildAlertState defaults asset day).status = .due ∧
    (buildAlertState defaults asset day).effectiveThreshold = some h

/-- The API's alert state, discovery and the first delivery attempt agree: for any
    number of discovery passes over the same data. -/
structure Agrees (defaults : List ℚ) (asset : Asset) (day : Int) : Prop where
  due : ∀ passes h, 0 < passes →
    (SaysDue defaults asset day h ↔
      ∃ row ∈ rowsAfter defaults asset day passes,
        (row.thresholdDays : ℚ) = h ∧ row.channels.retry ≠ [])
  channels : ∀ passes h row, 0 < passes → SaysDue defaults asset day h →
    row ∈ rowsAfter defaults asset day passes → (row.thresholdDays : ℚ) = h →
    ∀ c, c ∈ (buildAlertState defaults asset day).eligibleChannels ↔ c ∈ row.channels.retry
  firstAttempt : ∀ passes h row, 0 < passes → SaysDue defaults asset day h →
    row ∈ rowsAfter defaults asset day passes → (row.thresholdDays : ℚ) = h →
    ∀ c, c ∈ finalChannels asset row ↔ c ∈ row.channels.retry

/-- The settings give the window a row that all three see alike. -/
structure SeenAlike (defaults : List ℚ) (asset : Asset) (day : Int) (w : ThresholdWindow) :
    Prop where
  reached : dueWindow asset day (discoveryThresholds defaults asset) = some w
  /-- The threshold is a number of days. -/
  integer : asInteger w.thresholdReached ≠ none
  /-- It is in the range of group thresholds, or no threshold is. -/
  ranged : inGroupRange w.thresholdReached = true ∨
    ∀ t ∈ discoveryThresholds defaults asset, inGroupRange t = false
  offered : ∃ c, ∃ g ∈ discoveryGroups defaults asset w.thresholdReached, queues asset g c = true
  /-- What some group of the asset can deliver on, a group that fires queues, and
      the other way round. -/
  folded : ∀ c, (∃ g ∈ asset.resolvedGroups, usable asset g c = true) ↔
    ∃ g ∈ discoveryGroups defaults asset w.thresholdReached, queues asset g c = true
  /-- So do the groups that fire at send time. -/
  sent : ∀ c, (∃ g ∈ sendGroups asset w.thresholdReached, selects asset g c = true) ↔
    ∃ g ∈ discoveryGroups defaults asset w.thresholdReached, queues asset g c = true

/-- The settings give no row, and nothing the API would report. -/
structure Quiet (defaults : List ℚ) (asset : Asset) (day : Int) : Prop where
  /-- The window discovery finds is no number of days, or its groups queue nothing. -/
  unqueued : ∀ w, dueWindow asset day (discoveryThresholds defaults asset) = some w →
    asInteger w.thresholdReached = none ∨
      ∀ c, ∀ g ∈ discoveryGroups defaults asset w.thresholdReached, queues asset g c = false
  /-- The folded thresholds reach no window, or the groups offer nothing. -/
  unreported : ∀ w, dueWindow asset day (foldedThresholds defaults asset) = some w →
    ∀ c, ¬foldedOffers asset c

theorem saysDue_iff {h : ℚ} : SaysDue defaults asset day h ↔
    ∃ w, dueWindow asset day (foldedThresholds defaults asset) = some w ∧
      w.thresholdReached = h ∧ ∃ c, foldedOffers asset c := by
  unfold SaysDue
  rw [buildAlertState_due, Option.map_eq_some_iff]
  constructor
  · rintro ⟨⟨w, hw, hh⟩, hc⟩
    exact ⟨w, hw, hh, hc⟩
  · rintro ⟨w, hw, hh, hc⟩
    exact ⟨⟨w, hw, hh⟩, hc⟩

theorem queuedRow_eq_some {row : Row} : queuedRow defaults asset day = some row ↔
    ∃ w z, dueWindow asset day (discoveryThresholds defaults asset) = some w ∧
      asInteger w.thresholdReached = some z ∧
      discoveryChannels defaults asset w.thresholdReached ≠ [] ∧
      row = { negativeWindow := w.negativeWindow, thresholdDays := z
              channels := .legacy (discoveryChannels defaults asset w.thresholdReached) } := by
  unfold queuedRow
  rw [discover_eq]
  cases hw : dueWindow asset day (discoveryThresholds defaults asset) with
  | none => simp
  | some w =>
    cases hz : asInteger w.thresholdReached with
    | none => simp [hz]
    | some z =>
      by_cases hnil : discoveryChannels defaults asset w.thresholdReached = []
      · simp [hz, hnil]
      · constructor
        · intro hrow
          simp only [Option.map_some, Option.bind_some, hz, List.isEmpty_iff, hnil, if_false,
            Option.some.injEq] at hrow
          exact ⟨w, z, rfl, hz, hnil, hrow.symm⟩
        · rintro ⟨w', z', hw', hz', -, rfl⟩
          cases hw'
          rw [hz] at hz'
          cases hz'
          simp [hz, hnil]

theorem offers_iff {w : ThresholdWindow} : discoveryChannels defaults asset w.thresholdReached ≠ [] ↔
    ∃ c, ∃ g ∈ discoveryGroups defaults asset w.thresholdReached, queues asset g c = true := by
  constructor
  · intro hne
    obtain ⟨c, hc⟩ := List.exists_mem_of_ne_nil _ hne
    exact ⟨c, mem_discoveryChannels.mp hc⟩
  · rintro ⟨c, hc⟩
    exact List.ne_nil_of_mem (mem_discoveryChannels.mpr hc)

theorem discoveryGroups_sub {t : ℚ} {g : ContactGroup} (h : g ∈ discoveryGroups defaults asset t) :
    g ∈ asset.resolvedGroups :=
  List.mem_of_mem_filter h

theorem foldedOffers_iff {g : ContactGroup} (hg : g ∈ asset.resolvedGroups) {c : Channel} :
    foldedOffers asset c ↔ ∃ g ∈ asset.resolvedGroups, usable asset g c = true := by
  unfold foldedOffers
  cases hgroups : asset.resolvedGroups with
  | nil => simp [hgroups] at hg
  | cons primary rest => rfl

theorem mem_queuedRow_retry {row : Row} {w : ThresholdWindow} {z : Int} {c : Channel}
    (hrow : row = { negativeWindow := w.negativeWindow, thresholdDays := z
                    channels := .legacy (discoveryChannels defaults asset w.thresholdReached) }) :
    c ∈ row.channels.retry ↔
      ∃ g ∈ discoveryGroups defaults asset w.thresholdReached, queues asset g c = true := by
  rw [hrow]
  show c ∈ deliveryChannelNames _ ↔ _
  rw [deliveryChannelNames_discoveryChannels, mem_discoveryChannels]

theorem mem_queuedRow_final {row : Row} {w : ThresholdWindow} {z : Int} {c : Channel}
    (hz : asInteger w.thresholdReached = some z)
    (hrow : row = { negativeWindow := w.negativeWindow, thresholdDays := z
                    channels := .legacy (discoveryChannels defaults asset w.thresholdReached) }) :
    c ∈ finalChannels asset row ↔
      ∃ g ∈ sendGroups asset w.thresholdReached, selects asset g c = true := by
  have hfirst : finalChannels asset row = liveChannels asset row := by
    rw [hrow]
    rfl
  have hdays : (row.thresholdDays : ℚ) = w.thresholdReached := by
    rw [hrow]
    exact asInteger_some hz
  rw [hfirst, mem_liveChannels, hdays]

theorem SeenAlike.agrees {w : ThresholdWindow} (h : SeenAlike defaults asset day w) :
    Agrees defaults asset day := by
  obtain ⟨z, hz⟩ := Option.ne_none_iff_exists'.mp h.integer
  obtain ⟨c₀, g, hg, hc₀⟩ := h.offered
  have hgroup : g ∈ asset.resolvedGroups := discoveryGroups_sub hg
  have hrow : queuedRow defaults asset day = some _ :=
    queuedRow_eq_some.mpr ⟨w, z, h.reached, hz, offers_iff.mpr h.offered, rfl⟩
  have hin : w.thresholdReached ∈ discoveryThresholds defaults asset := by
    obtain ⟨-, -, days, -, hleast, -⟩ := dueWindow_eq_some.mp h.reached
    exact hleast.1.1
  have hfolded : dueWindow asset day (foldedThresholds defaults asset) = some w :=
    dueWindow_folded hgroup h.reached ((mem_foldedThresholds hgroup).mpr ⟨hin, h.ranged⟩)
  have hoffer : ∀ c, foldedOffers asset c ↔
      ∃ g ∈ discoveryGroups defaults asset w.thresholdReached, queues asset g c = true := by
    intro c
    rw [foldedOffers_iff hgroup, h.folded]
  have hdue : ∀ t, SaysDue defaults asset day t ↔ w.thresholdReached = t := by
    intro t
    rw [saysDue_iff, hfolded]
    constructor
    · rintro ⟨w', hw', ht, -⟩
      cases hw'
      exact ht
    · intro ht
      exact ⟨w, rfl, ht, c₀, (hoffer c₀).mpr ⟨g, hg, hc₀⟩⟩
  have hmem : ∀ passes row, 0 < passes → row ∈ rowsAfter defaults asset day passes →
      row = { negativeWindow := w.negativeWindow, thresholdDays := z
              channels := .legacy (discoveryChannels defaults asset w.thresholdReached) } := by
    intro passes row hpos hrowmem
    rw [rowsAfter_eq hpos, hrow] at hrowmem
    exact List.mem_singleton.mp hrowmem
  refine ⟨fun passes t hpos => ?_, fun passes t row hpos _ hrowmem _ c => ?_,
    fun passes t row hpos _ hrowmem _ c => ?_⟩
  · rw [hdue, rowsAfter_eq hpos, hrow]
    constructor
    · intro ht
      refine ⟨_, List.mem_singleton.mpr rfl, (asInteger_some hz).trans ht, ?_⟩
      exact List.ne_nil_of_mem ((mem_queuedRow_retry rfl).mpr ⟨g, hg, hc₀⟩)
    · rintro ⟨row, hrowmem, hdays, -⟩
      rw [List.mem_singleton.mp hrowmem] at hdays
      exact (asInteger_some hz).symm.trans hdays
  · rw [buildAlertState_channels, hoffer, mem_queuedRow_retry (hmem passes row hpos hrowmem)]
  · rw [mem_queuedRow_final hz (hmem passes row hpos hrowmem), h.sent,
      mem_queuedRow_retry (hmem passes row hpos hrowmem)]

/-- The settings that make no row, and report none. -/
theorem Quiet.agrees (h : Quiet defaults asset day) : Agrees defaults asset day := by
  have hrow : queuedRow defaults asset day = none := by
    cases hqueued : queuedRow defaults asset day with
    | none => rfl
    | some row =>
      obtain ⟨w, z, hw, hz, hne, -⟩ := queuedRow_eq_some.mp hqueued
      cases h.unqueued w hw with
      | inl hnone =>
        rw [hz] at hnone
        cases hnone
      | inr hnone =>
        obtain ⟨c, g, hg, hc⟩ := offers_iff.mp hne
        rw [hnone c g hg] at hc
        cases hc
  have hdue : ∀ t, ¬SaysDue defaults asset day t := by
    intro t ht
    obtain ⟨w, hw, -, c, hc⟩ := saysDue_iff.mp ht
    exact h.unreported w hw c hc
  refine ⟨fun passes t hpos => ?_, fun _ t _ _ hsaid => absurd hsaid (hdue t),
    fun _ t _ _ hsaid => absurd hsaid (hdue t)⟩
  rw [rowsAfter_eq hpos, hrow]
  constructor
  · intro hsaid
    exact absurd hsaid (hdue t)
  · rintro ⟨row, hmem, -⟩
    cases hmem

theorem Agrees.seenAlike (h : Agrees defaults asset day) {row : Row}
    (hrow : queuedRow defaults asset day = some row) :
    ∃ w, SeenAlike defaults asset day w := by
  obtain ⟨w, z, hw, hz, hne, hshape⟩ := queuedRow_eq_some.mp hrow
  have hmem : row ∈ rowsAfter defaults asset day 1 := by
    rw [rowsAfter_eq (by omega), hrow]
    exact List.mem_singleton.mpr rfl
  have hdays : (row.thresholdDays : ℚ) = w.thresholdReached := by
    rw [hshape]
    exact asInteger_some hz
  obtain ⟨c₀, g, hg, hc₀⟩ := offers_iff.mp hne
  have hgroup : g ∈ asset.resolvedGroups := discoveryGroups_sub hg
  have hretry : row.channels.retry ≠ [] :=
    List.ne_nil_of_mem ((mem_queuedRow_retry hshape).mpr ⟨g, hg, hc₀⟩)
  have hsaid : SaysDue defaults asset day w.thresholdReached :=
    (h.due 1 _ (by omega)).mpr ⟨row, hmem, hdays, hretry⟩
  obtain ⟨w', hw', ht, -⟩ := saysDue_iff.mp hsaid
  have hin : w.thresholdReached ∈ foldedThresholds defaults asset := by
    obtain ⟨-, -, days, -, hleast, -⟩ := dueWindow_eq_some.mp hw'
    rw [← ht]
    exact hleast.1.1
  refine ⟨w, hw, by simp [hz], ((mem_foldedThresholds hgroup).mp hin).2, ⟨c₀, g, hg, hc₀⟩,
    fun c => ?_, fun c => ?_⟩
  · rw [← mem_queuedRow_retry hshape, ← h.channels 1 _ row (by omega) hsaid hmem hdays c,
      buildAlertState_channels, foldedOffers_iff hgroup]
  · rw [← mem_queuedRow_final hz hshape, ← mem_queuedRow_retry hshape]
    exact h.firstAttempt 1 _ row (by omega) hsaid hmem hdays c

theorem Agrees.quiet (h : Agrees defaults asset day) (hrow : queuedRow defaults asset day = none) :
    Quiet defaults asset day := by
  refine ⟨fun w hw => ?_, fun w hw c hc => ?_⟩
  · cases hz : asInteger w.thresholdReached with
    | none => exact .inl rfl
    | some z =>
      refine .inr fun c g hg => ?_
      by_contra hqueues
      have hne : discoveryChannels defaults asset w.thresholdReached ≠ [] :=
        offers_iff.mpr ⟨c, g, hg, by simpa using hqueues⟩
      rw [queuedRow_eq_some.mpr ⟨w, z, hw, hz, hne, rfl⟩] at hrow
      cases hrow
  · have hsaid : SaysDue defaults asset day w.thresholdReached := saysDue_iff.mpr ⟨w, hw, rfl, c, hc⟩
    obtain ⟨row, hmem, -⟩ := (h.due 1 _ (by omega)).mp hsaid
    rw [rowsAfter_eq (by omega), hrow] at hmem
    cases hmem

/-- The three agree exactly where the settings give a row they see alike, or give no
    row and nothing to report. -/
theorem alert_state_agrees_iff : Agrees defaults asset day ↔
    (∃ w, SeenAlike defaults asset day w) ∨ Quiet defaults asset day := by
  constructor
  · intro h
    cases hrow : queuedRow defaults asset day with
    | none => exact .inr (h.quiet hrow)
    | some row => exact .inl (h.seenAlike hrow)
  · rintro (⟨w, hw⟩ | hquiet)
    · exact hw.agrees
    · exact hquiet.agrees

/-- Two groups are assigned: one mails thirty days before, the other calls a webhook
    a week before.  Five days before, the row has the webhook only; the API reports
    both channels. -/
def splitThresholds : Asset where
  expiration := some 20005
  contactGroups := [
    { id := "mail", thresholds := some [{ number := some 30 }], emailContactIds := ["c1"] },
    { id := "hook", thresholds := some [{ number := some 7 }], webhookNames := some ["ops"] }]
  assignedIds := ["mail", "hook"]
  alertThresholds := some [{ number := some 30 }, { number := some 7 }]
  webhookUrls := ["ops"]

theorem alert_state_disagrees : ¬Agrees [30, 14, 7, 1, 0] splitThresholds 20000 := by
  intro h
  have hsaid : SaysDue [30, 14, 7, 1, 0] splitThresholds 20000 7 := by
    unfold SaysDue
    decide +kernel
  have hmem : { negativeWindow := false, thresholdDays := 7, channels := .legacy [.webhooks] } ∈
      rowsAfter [30, 14, 7, 1, 0] splitThresholds 20000 1 := by
    decide +kernel
  have hemail := h.channels 1 7 _ (by omega) hsaid hmem rfl .email
  have hreported : Channel.email ∈
      (buildAlertState [30, 14, 7, 1, 0] splitThresholds 20000).eligibleChannels := by
    decide +kernel
  exact absurd (hemail.mp hreported) (by decide +kernel)

end TokenTimer.Delivery
