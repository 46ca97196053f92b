/-
  TokenTimer.Delivery.Groups — the contact groups of an asset, the threshold windows
  they fire for, and the channels they select (`shared/contactGroups.js`,
  `packages/alert-eligibility`).

  Thresholds are numbers as JSON has them, so they are rationals here; days are
  counted from one origin.  The copy of `contactGroups.js` in the API computes the
  same functions.

  Main results:
    * `findThresholdWindow_eq_some` — the window is the least threshold reached.
    * `mem_collectDistinct` — what the loops with a `seen` set collect.
-/

import TokenTimer.Delivery.Ledger
import Mathlib.Data.List.DropRight
import Mathlib.Data.List.Sort
import Mathlib.Order.Bounds.Basic
import Mathlib.Algebra.Order.Ring.Rat

namespace TokenTimer.Delivery

open Lib

/-! ## §1. Groups. -/

/-- An element of a thresholds array. -/
structure ThresholdValue where
  /-- `Number(value)`, where it is finite. -/
  number : Option ℚ
  /-- `typeof value === "number"`. -/
  isNumber : Bool := true
deriving DecidableEq

/-- An element of `contact_groups`; an identifier or name that is falsy is `""`. -/
structure ContactGroup where
  id : String
  thresholds : Option (List ThresholdValue) := none
  emailContactIds : List String := []
  whatsappContactIds : List String := []
  webhookNames : Option (List String) := none
  webhookName : String := ""
deriving DecidableEq

/-- `String(id)` of a group. -/
def sameId (pickId : String) (group : ContactGroup) : Bool := group.id = pickId

/-- A loop that keeps a set of what it has seen; `skip` is what it passes over. -/
def collectDistinct {α : Type} [DecidableEq α] (values : List α) (skip : α → Bool) : List α :=
  values.foldl (fun seen x => if skip x || x ∈ seen then seen else seen ++ [x]) []

/-- `compareContactGroupIdsUtf8Bytes(a, b) <= 0`. -/
def idLe (a b : String) : Bool := a.toUTF8.data.toList ≤ b.toUTF8.data.toList

def normalizeAssignedGroupIds (ids : List String) : List String :=
  (collectDistinct (ids.map jsTrim) (· = "")).insertionSort fun a b => idLe a b

/-- `findGroup` of `resolveContactGroupsForAsset`. -/
def findGroup (groups : List ContactGroup) (id : String) : Option ContactGroup :=
  let pickId := jsTrim id
  if pickId = "" then none else groups.find? (sameId pickId)

def resolveContactGroupsForAsset (contactGroups : List ContactGroup) (assignedIds : List String)
    (defaultContactGroupId : String) : List ContactGroup :=
  let resolveDefault := (findGroup contactGroups defaultContactGroupId).toList
  let resolved := (normalizeAssignedGroupIds assignedIds).filterMap (findGroup contactGroups)
  if resolved.isEmpty then resolveDefault
  else resolved.insertionSort fun a b => idLe a.id b.id

/-! ## §2. Thresholds. -/

def MIN_GROUP_THRESHOLD_DAYS : ℚ := -365
def MAX_GROUP_THRESHOLD_DAYS : ℚ := 730

/-- `n >= MIN_GROUP_THRESHOLD_DAYS && n <= MAX_GROUP_THRESHOLD_DAYS`. -/
def inGroupRange (n : ℚ) : Bool := MIN_GROUP_THRESHOLD_DAYS ≤ n && n ≤ MAX_GROUP_THRESHOLD_DAYS

/-- `new Set(values)`, in the order of insertion. -/
def distinct (values : List ℚ) : List ℚ := collectDistinct values fun _ => false

def validGroupThresholds (values : Option (List ThresholdValue)) : List ℚ :=
  distinct (((values.getD []).filterMap (·.number)).filter inGroupRange)

def effectiveThresholds (group : ContactGroup) (workspaceThresholds : List ℚ) : List ℚ :=
  let fromGroup := validGroupThresholds group.thresholds
  if fromGroup.isEmpty then workspaceThresholds else fromGroup

def groupFiresForWindow (group : ContactGroup) (workspaceThresholds : List ℚ)
    (thresholdDays : ℚ) : Bool :=
  (effectiveThresholds group workspaceThresholds).any (· = thresholdDays)

def unionGroupsForThresholdWindow (groups : List ContactGroup) (workspaceThresholds : List ℚ)
    (thresholdDays : ℚ) : List ContactGroup :=
  groups.filter fun group => groupFiresForWindow group workspaceThresholds thresholdDays

def unionEffectiveThresholds (groups : List ContactGroup) (workspaceThresholds : List ℚ) :
    List ℚ :=
  distinct (groups.flatMap fun group => effectiveThresholds group workspaceThresholds)

/-- `alert_thresholds.filter((n) => Number.isFinite(n))`. -/
def finiteNumbers (values : List ThresholdValue) : List ℚ :=
  values.filterMap fun v => if v.isNumber then v.number else none

/-! ## §3. Windows. -/

/-- `findThresholdWindow`. -/
structure ThresholdWindow where
  thresholdReached : ℚ
  negativeWindow : Bool
deriving DecidableEq

/-- The thresholds a day count can be in the window of. -/
def reaches (daysUntil : Int) (threshold : ℚ) : Bool :=
  (0 ≤ daysUntil || threshold < 0) && (daysUntil : ℚ) ≤ threshold

def findThresholdWindow (daysUntil : Int) (thresholds : List ℚ) : Option ThresholdWindow :=
  let thresholdsAsc := (distinct thresholds).insertionSort (· ≤ ·)
  (thresholdsAsc.find? (reaches daysUntil)).map fun threshold =>
    { thresholdReached := threshold, negativeWindow := decide (daysUntil < 0) }

def isStaleImportThreshold (importedAt : Option Int) (expiration : Option Int)
    (thresholdReached : ℚ) : Bool :=
  match importedAt, expiration with
  | some importedDay, some expirationDay =>
    decide ((expirationDay : ℚ) - thresholdReached < importedDay)
  | _, _ => false

/-! ## §4. Channels. -/

def hasEmailContacts (group : ContactGroup) : Bool := !group.emailContactIds.isEmpty

def hasWhatsAppContacts (group : ContactGroup) : Bool := !group.whatsappContactIds.isEmpty

def hasWebhookNames (group : ContactGroup) : Bool :=
  group.webhookName ≠ "" || !(group.webhookNames.getD []).isEmpty

def getWebhookNames (group : ContactGroup) : List String :=
  match group.webhookNames with
  | some names => (names.filter (· ≠ "")).map jsTrim
  | none => if group.webhookName ≠ "" then [jsTrim group.webhookName] else []

/-- `unionContactIds`, and the union of names. -/
def unionNonEmpty (lists : List (List String)) : List String :=
  collectDistinct lists.flatten (· = "")

def unionWebhookNames (groups : List ContactGroup) : List String :=
  unionNonEmpty (groups.map getWebhookNames)

/-- The channels of a list of groups, from what each channel asks of it. -/
def channelsWhere (email webhooks whatsapp : Bool) : List Channel :=
  (if email then [.email] else []) ++ (if webhooks then [.webhooks] else []) ++
    (if whatsapp then [.whatsapp] else [])

/-- `channelsFromGroups` of the queue manager. -/
def channelsFromGroups (groups : List ContactGroup) (emailEnabled : Bool)
    (webhookUrls : List String) : List Channel :=
  let names := ((groups.filter hasWebhookNames).flatMap getWebhookNames).filter (· ≠ "")
  channelsWhere (emailEnabled && groups.any hasEmailContacts)
    (webhookUrls.any fun name => jsTrim name ∈ names) (groups.any hasWhatsAppContacts)

/-- `whatsAppAllowedForAlertKey`. -/
inductive AlertKind
  | tokenExpiry | endpointHealth | certRenewalFailed | agentHealth
deriving DecidableEq, Repr

def whatsAppAllowedForAlertKey (kind : AlertKind) : Bool :=
  !(kind = .certRenewalFailed || kind = .agentHealth)

def deliveryChannelsFromEligibleGroups (eligibleGroups : List ContactGroup)
    (emailAlertsEnabled : Bool) (kind : AlertKind) : List Channel :=
  channelsWhere (emailAlertsEnabled && eligibleGroups.any hasEmailContacts)
    (eligibleGroups.any hasWebhookNames)
    (whatsAppAllowedForAlertKey kind && eligibleGroups.any hasWhatsAppContacts)

/-! ## §5. What the loops collect. -/

theorem mem_foldl_collect {α : Type} [DecidableEq α] {skip : α → Bool} {x : α} (values : List α)
    (seen : List α) :
    x ∈ values.foldl (fun seen x => if skip x || x ∈ seen then seen else seen ++ [x]) seen ↔
      x ∈ seen ∨ (x ∈ values ∧ skip x = false) := by
  induction values generalizing seen with
  | nil => simp
  | cons y values ih =>
    rw [List.foldl_cons, ih]
    by_cases hskip : skip y = true
    · rw [if_pos (by simp [hskip])]
      constructor
      · rintro (h | ⟨h, hx⟩)
        · exact .inl h
        · exact .inr ⟨List.mem_cons_of_mem _ h, hx⟩
      · rintro (h | ⟨h, hx⟩)
        · exact .inl h
        · have hne : x ≠ y := fun e => by simp [e, hskip] at hx
          exact .inr ⟨(List.mem_cons.mp h).resolve_left hne, hx⟩
    · by_cases hseen : y ∈ seen
      · rw [if_pos (by simp [hseen])]
        constructor
        · rintro (h | ⟨h, hx⟩)
          · exact .inl h
          · exact .inr ⟨List.mem_cons_of_mem _ h, hx⟩
        · rintro (h | ⟨h, hx⟩)
          · exact .inl h
          · cases List.mem_cons.mp h with
            | inl heq => exact .inl (heq ▸ hseen)
            | inr hmem => exact .inr ⟨hmem, hx⟩
      · rw [if_neg (by simp [hskip, hseen])]
        constructor
        · rintro (h | ⟨h, hx⟩)
          · cases List.mem_append.mp h with
            | inl hold => exact .inl hold
            | inr hnew =>
              have hxy : x = y := by simpa using hnew
              exact .inr ⟨by simp [hxy], by simp [hxy, hskip]⟩
          · exact .inr ⟨List.mem_cons_of_mem _ h, hx⟩
        · rintro (h | ⟨h, hx⟩)
          · exact .inl (List.mem_append_left _ h)
          · cases List.mem_cons.mp h with
            | inl heq => exact .inl (by simp [heq])
            | inr hmem => exact .inr ⟨hmem, hx⟩

theorem mem_collectDistinct {α : Type} [DecidableEq α] {skip : α → Bool} {x : α}
    {values : List α} : x ∈ collectDistinct values skip ↔ x ∈ values ∧ skip x = false := by
  unfold collectDistinct
  rw [mem_foldl_collect]
  simp

variable {a e w : Bool} {g : ContactGroup} {groups : List ContactGroup} {n : ℚ}

@[simp] theorem mem_distinct {values : List ℚ} : n ∈ distinct values ↔ n ∈ values := by
  unfold distinct
  simp [mem_collectDistinct]

theorem mem_unionNonEmpty {id : String} {lists : List (List String)} :
    id ∈ unionNonEmpty lists ↔ (∃ l ∈ lists, id ∈ l) ∧ id ≠ "" := by
  unfold unionNonEmpty
  rw [mem_collectDistinct, List.mem_flatten]
  simp

theorem mem_validGroupThresholds {values : Option (List ThresholdValue)} :
    n ∈ validGroupThresholds values ↔
      n ∈ (values.getD []).filterMap (·.number) ∧ inGroupRange n = true := by
  unfold validGroupThresholds
  rw [mem_distinct, List.mem_filter]

theorem mem_unionEffectiveThresholds {ws : List ℚ} :
    n ∈ unionEffectiveThresholds groups ws ↔ ∃ g ∈ groups, n ∈ effectiveThresholds g ws := by
  unfold unionEffectiveThresholds
  rw [mem_distinct, List.mem_flatMap]

theorem groupFiresForWindow_iff {ws : List ℚ} {h : ℚ} :
    groupFiresForWindow g ws h = true ↔ h ∈ effectiveThresholds g ws := by
  unfold groupFiresForWindow
  simp

theorem dropWhile_of_prefix_dropWhile {α : Type} {p : α → Bool} {l m : List α}
    (h : m <+: l.dropWhile p) : m.dropWhile p = m := by
  cases m with
  | nil => rfl
  | cons x m =>
    obtain ⟨rest, hrest⟩ := h
    have hx : p x = false := by
      have hhead := List.head?_dropWhile_not p l
      rw [← hrest] at hhead
      simpa using hhead
    rw [List.dropWhile_cons_of_neg (by simp [hx])]

@[simp] theorem jsTrim_jsTrim (s : String) : jsTrim (jsTrim s) = jsTrim s := by
  have hleft : ((s.toList.dropWhile isJsSpace).reverse.dropWhile isJsSpace).reverse.dropWhile
      isJsSpace = ((s.toList.dropWhile isJsSpace).reverse.dropWhile isJsSpace).reverse := by
    apply dropWhile_of_prefix_dropWhile (l := s.toList)
    rw [← List.reverse_suffix, List.reverse_reverse]
    exact List.dropWhile_suffix _
  unfold jsTrim
  rw [String.toList_ofList, hleft, List.reverse_reverse,
    dropWhile_of_prefix_dropWhile (List.prefix_refl _)]

/-- What is found by a trimmed identifier has that identifier. -/
theorem findGroup_some {id : String} (h : findGroup groups id = some g) :
    jsTrim g.id = g.id ∧ g.id ≠ "" := by
  obtain ⟨hne, h⟩ := Option.ite_none_left_eq_some.mp h
  have hid : g.id = jsTrim id := by simpa [sameId] using List.find?_some h
  rw [hid, jsTrim_jsTrim]
  exact ⟨rfl, hne⟩

theorem mem_resolveContactGroupsForAsset {ids : List String} {dflt : String}
    (h : g ∈ resolveContactGroupsForAsset groups ids dflt) :
    jsTrim g.id = g.id ∧ g.id ≠ "" := by
  unfold resolveContactGroupsForAsset at h
  dsimp only at h
  split at h
  · exact findGroup_some (Option.mem_toList.mp h)
  · obtain ⟨id, -, hid⟩ := List.mem_filterMap.mp ((List.mem_insertionSort _).mp h)
    exact findGroup_some hid

/-! ## §6. The window. -/

theorem find?_sorted_eq_some {α : Type} [LinearOrder α] {p : α → Bool} {l : List α} {a : α}
    (hsorted : l.Pairwise (· ≤ ·)) :
    l.find? p = some a ↔ IsLeast {x | x ∈ l ∧ p x = true} a := by
  induction hsorted with
  | nil => simp [IsLeast]
  | @cons x l hx _ ih =>
    by_cases hp : p x = true
    · rw [List.find?_cons_of_pos hp, Option.some.injEq]
      constructor
      · rintro rfl
        refine ⟨⟨List.mem_cons_self, hp⟩, fun y hy => ?_⟩
        cases List.mem_cons.mp hy.1 with
        | inl heq => exact heq ▸ le_refl _
        | inr hmem => exact hx y hmem
      · intro h
        apply le_antisymm _ (h.2 ⟨List.mem_cons_self, hp⟩)
        cases List.mem_cons.mp h.1.1 with
        | inl heq => exact heq ▸ le_refl _
        | inr hmem => exact hx a hmem
    · rw [List.find?_cons_of_neg hp, ih]
      have hset : {y | y ∈ x :: l ∧ p y = true} = {y | y ∈ l ∧ p y = true} := by
        ext y
        constructor
        · rintro ⟨hmem, hy⟩
          exact ⟨(List.mem_cons.mp hmem).resolve_left fun e => hp (e ▸ hy), hy⟩
        · rintro ⟨hmem, hy⟩
          exact ⟨List.mem_cons_of_mem _ hmem, hy⟩
      rw [hset]

/-- The thresholds a day count is in the window of. -/
def reached (daysUntil : Int) (thresholds : List ℚ) : Set ℚ :=
  {t | t ∈ thresholds ∧ reaches daysUntil t = true}

theorem findThresholdWindow_eq_some {days : Int} {thresholds : List ℚ} {w : ThresholdWindow} :
    findThresholdWindow days thresholds = some w ↔
      IsLeast (reached days thresholds) w.thresholdReached ∧
        w.negativeWindow = decide (days < 0) := by
  have hfind : ∀ t, ((distinct thresholds).insertionSort (· ≤ ·)).find? (reaches days) = some t ↔
      IsLeast (reached days thresholds) t := by
    intro t
    rw [find?_sorted_eq_some (List.pairwise_insertionSort _ _)]
    unfold reached
    simp only [List.mem_insertionSort, mem_distinct]
  unfold findThresholdWindow
  rw [Option.map_eq_some_iff]
  constructor
  · rintro ⟨t, ht, rfl⟩
    exact ⟨(hfind t).mp ht, rfl⟩
  · rintro ⟨hleast, hneg⟩
    exact ⟨w.thresholdReached, (hfind _).mpr hleast, by rw [← hneg]⟩

theorem findThresholdWindow_congr {days : Int} {ts us : List ℚ} (h : ∀ n, n ∈ ts ↔ n ∈ us) :
    findThresholdWindow days ts = findThresholdWindow days us := by
  have hreached : reached days ts = reached days us := by
    unfold reached
    simp only [h]
  apply Option.ext
  intro w
  rw [findThresholdWindow_eq_some, findThresholdWindow_eq_some, hreached]

/-! ## §7. Membership in the channel lists. -/

@[simp] theorem email_mem_channelsWhere :
    .email ∈ channelsWhere e w a ↔ e = true := by
  cases e <;> cases w <;> cases a <;> simp [channelsWhere]

@[simp] theorem webhooks_mem_channelsWhere :
    .webhooks ∈ channelsWhere e w a ↔ w = true := by
  cases e <;> cases w <;> cases a <;> simp [channelsWhere]

@[simp] theorem whatsapp_mem_channelsWhere :
    .whatsapp ∈ channelsWhere e w a ↔ a = true := by
  cases e <;> cases w <;> cases a <;> simp [channelsWhere]

@[simp] theorem other_mem_channelsWhere {name : String} :
    .other name ∉ channelsWhere e w a := by
  cases e <;> cases w <;> cases a <;> simp [channelsWhere]

end TokenTimer.Delivery
