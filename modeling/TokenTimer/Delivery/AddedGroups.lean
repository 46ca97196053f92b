/-
  TokenTimer.Delivery.AddedGroups — what assigning further contact groups does to the
  alerts of a group (`queue-manager.js`, `shared/contactGroups.js`).

  A pass takes one window for the asset, the least threshold reached of all the groups
  assigned, and only the groups that have that very threshold fire.  In daily passes
  the window of a threshold of `g` comes up unless the first pass comes so late that it
  has already reached an earlier one of another group.

  Main results:
    * `History.queued_iff` — when a pass of a history queues a row.
    * `History.exists_queued` — a row that was not there was queued by some pass.
    * `added_groups_keep_alert` — when the group is alerted with the others assigned.
-/

import TokenTimer.Delivery.AlertState
import Mathlib.Algebra.Order.Ring.Cast
import Mathlib.Data.Int.CharZero

namespace TokenTimer.Delivery

open Lib

/-! ## §1. The groups that are assigned. -/

/-- The asset with the rows of `token_contact_groups` that it has. -/
def Asset.assign (asset : Asset) (ids : List String) : Asset := { asset with assignedIds := ids }

variable {g : ContactGroup} {z : Int} {groups : List ContactGroup} {id : String}

theorem jsTrim_ne_of_findGroup (h : findGroup groups id = some g) : jsTrim id ≠ "" := by
  intro hempty
  unfold findGroup at h
  rw [if_pos hempty] at h
  cases h

theorem findGroup_jsTrim :
    findGroup groups (jsTrim id) = findGroup groups id := by
  unfold findGroup
  rw [jsTrim_jsTrim]

variable {ids : List String} {dflt : String} {w : ThresholdWindow} {rows' : List Row}

theorem mem_normalizeAssignedGroupIds :
    id ∈ normalizeAssignedGroupIds ids ↔ (∃ raw ∈ ids, jsTrim raw = id) ∧ id ≠ "" := by
  unfold normalizeAssignedGroupIds
  rw [List.mem_insertionSort, mem_collectDistinct, List.mem_map]
  simp

theorem mem_resolved_of_assigned (hid : id ∈ ids) (h : findGroup groups id = some g) :
    g ∈ resolveContactGroupsForAsset groups ids dflt := by
  have hmem : g ∈ (normalizeAssignedGroupIds ids).filterMap (findGroup groups) := by
    rw [List.mem_filterMap]
    refine ⟨jsTrim id, mem_normalizeAssignedGroupIds.mpr ⟨⟨id, hid, rfl⟩, ?_⟩, ?_⟩
    · exact jsTrim_ne_of_findGroup h
    · rw [findGroup_jsTrim, h]
  unfold resolveContactGroupsForAsset
  dsimp only
  rw [if_neg (by simpa using List.ne_nil_of_mem hmem)]
  exact (List.mem_insertionSort _).mpr hmem

theorem resolved_of_single (h : findGroup groups id = some g) :
    resolveContactGroupsForAsset groups [id] dflt = [g] := by
  have hids : normalizeAssignedGroupIds [id] = [jsTrim id] := by
    unfold normalizeAssignedGroupIds collectDistinct
    simp [jsTrim_ne_of_findGroup h]
  unfold resolveContactGroupsForAsset
  rw [hids]
  simp [findGroup_jsTrim, h]

/-! ## §2. Daily passes. -/

/-- `alert_key` of a row, but for the asset. -/
def Row.alertKey (row : Row) : Bool × Int := (row.negativeWindow, row.thresholdDays)

/-- `negwin` stands in the keys of the thresholds after the expiration. -/
def Signed (rows : List Row) : Prop :=
  ∀ row ∈ rows, row.negativeWindow = decide (row.thresholdDays < 0)

/-- The rows of the asset in its present expiration cycle, before the pass of each day.
    Between two passes the rows are delivered, so that all of a row may change but its
    key. -/
structure History (defaults : List ℚ) (asset : Asset) (start : Int) where
  rows : Nat → List Row
  signed : Signed (rows 0)
  next : ∀ k, (rows (k + 1)).map Row.alertKey =
    (discoverPass defaults asset (start + k) (rows k)).map Row.alertKey

/-- The pass of a day queues a row. -/
def History.Queued {defaults : List ℚ} {asset : Asset} {start : Int}
    (history : History defaults asset start) (k : Nat) (row : Row) : Prop :=
  discoverPass defaults asset (start + k) (history.rows k) = history.rows k ++ [row]

def Delivers (asset : Asset) (group : ContactGroup) (row : Row) : Prop :=
  group ∈ sendGroups asset row.thresholdDays ∧
    ∃ channel ∈ finalChannels asset row, selects asset group channel = true

/-- The first pass has reached a threshold of the asset that comes after the window. -/
def Overtaken (defaults : List ℚ) (asset : Asset) (start : Int) (window : ℚ) : Prop :=
  ∃ g ∈ asset.resolvedGroups,
    ∃ threshold ∈ effectiveThresholds g (asset.workspaceThresholds defaults),
      ∃ days, asset.computeDaysLeft start = some days ∧ (days : ℚ) ≤ threshold ∧ threshold < window

/-! ## §3. What a pass queues. -/

variable {defaults : List ℚ} {asset : Asset} {day start : Int} {rows : List Row} {row : Row}

theorem window_signed (h : dueWindow asset day (discoveryThresholds defaults asset) = some w) :
    w.negativeWindow = decide (w.thresholdReached < 0) := by
  obtain ⟨-, -, days, -, ⟨⟨-, hreach⟩, -⟩, hneg⟩ := dueWindow_eq_some.mp h
  rw [hneg]
  simp only [reaches, Bool.and_eq_true, Bool.or_eq_true, decide_eq_true_eq] at hreach
  have hiff : days < 0 ↔ w.thresholdReached < 0 := by
    constructor
    · intro hdays
      exact hreach.1.resolve_left (by omega)
    · intro hlt
      exact_mod_cast lt_of_le_of_lt hreach.2 hlt
  simp [hiff]

theorem queuedRow_signed (h : queuedRow defaults asset day = some row) :
    row.negativeWindow = decide (row.thresholdDays < 0) := by
  obtain ⟨w, z, hw, hz, -, rfl⟩ := queuedRow_eq_some.mp h
  rw [show (w.negativeWindow = _) from window_signed hw, ← asInteger_some hz]
  simp

theorem isFor_iff (hsigned : Signed rows) (hmem : row ∈ rows)
    (hw : dueWindow asset day (discoveryThresholds defaults asset) = some w)
    (hz : asInteger w.thresholdReached = some z) : row.isFor w = true ↔ row.thresholdDays = z := by
  have hsign : w.negativeWindow = decide (z < 0) := by
    rw [window_signed hw, ← asInteger_some hz]
    simp
  unfold Row.isFor
  rw [← asInteger_some hz, hsigned row hmem, hsign]
  simp only [Bool.and_eq_true, decide_eq_true_eq, Int.cast_inj]
  constructor
  · exact fun h => h.2
  · intro h
    exact ⟨by rw [h], h⟩

@[simp] theorem alertKey_reconcile {channels : List Channel} :
    (row.reconcile channels).alertKey = row.alertKey := by
  unfold Row.reconcile
  split
  · split
    · rfl
    · rfl
  · rfl

theorem signed_of_keys (hsigned : Signed rows) (h : rows'.map Row.alertKey = rows.map Row.alertKey) :
    Signed rows' := by
  intro row hrow
  have hkey : row.alertKey ∈ rows.map Row.alertKey := h ▸ List.mem_map_of_mem hrow
  obtain ⟨old, hold, heq⟩ := List.mem_map.mp hkey
  have hsign := hsigned old hold
  have hneg : old.negativeWindow = row.negativeWindow := congrArg Prod.fst heq
  have hdays : old.thresholdDays = row.thresholdDays := congrArg Prod.snd heq
  rwa [hneg, hdays] at hsign

def windows (rows : List Row) : List Int := rows.map (·.thresholdDays)

theorem windows_of_keys (h : rows'.map Row.alertKey = rows.map Row.alertKey) :
    windows rows' = windows rows := by
  have hmap : ∀ l : List Row, windows l = (l.map Row.alertKey).map Prod.snd := by
    intro l
    rw [List.map_map]
    rfl
  rw [hmap, hmap, h]

theorem mem_windows : z ∈ windows rows ↔ ∃ row ∈ rows, row.thresholdDays = z :=
  List.mem_map

/-- A pass appends the row it has for the day, where its threshold has none. -/
theorem discoverPass_new (hsigned : Signed rows) (hrow : queuedRow defaults asset day = some row)
    (hnew : row.thresholdDays ∉ windows rows) :
    discoverPass defaults asset day rows = rows ++ [row] := by
  obtain ⟨w, z, hw, hz, hchannels, rfl⟩ := queuedRow_eq_some.mp hrow
  have hnone : rows.any (Row.isFor w) = false := by
    rw [List.any_eq_false]
    intro old hold hfor
    exact hnew (mem_windows.mpr ⟨old, hold, (isFor_iff hsigned hold hw hz).mp hfor⟩)
  have hsent : (rows.any fun row => row.thresholdDays = z && row.status = .sent) = false := by
    rw [List.any_eq_false]
    intro old hold hfor
    simp only [Bool.and_eq_true, decide_eq_true_eq] at hfor
    exact hnew (mem_windows.mpr ⟨old, hold, hfor.1⟩)
  unfold discoverPass
  rw [discover_eq, hw]
  unfold queueFound
  simp only [Option.map_some, hz, hnone, hsent, List.isEmpty_iff, hchannels, Bool.false_eq_true,
    if_false, Option.getD_some]

/-- Else it leaves the keys as they are. -/
theorem discoverPass_old (hsigned : Signed rows)
    (hold : ∀ row, queuedRow defaults asset day = some row → row.thresholdDays ∈ windows rows) :
    (discoverPass defaults asset day rows).map Row.alertKey = rows.map Row.alertKey := by
  unfold discoverPass
  rw [discover_eq]
  cases hw : dueWindow asset day (discoveryThresholds defaults asset) with
  | none => rfl
  | some w =>
    unfold queueFound
    dsimp only [Option.map_some]
    cases hz : asInteger w.thresholdReached with
    | none => rfl
    | some z =>
      dsimp only
      by_cases hfor : rows.any (Row.isFor w) = true
      · rw [if_pos hfor, Option.getD_some, List.map_map]
        apply List.map_congr_left
        intro row _
        show (if row.isFor w then row.reconcile _ else row).alertKey = row.alertKey
        split
        · exact alertKey_reconcile
        · rfl
      · rw [if_neg hfor]
        split
        · rfl
        · split
          · rfl
          · rename_i hchannels
            have hrow := queuedRow_eq_some.mpr ⟨w, z, hw, hz, by simpa using hchannels, rfl⟩
            obtain ⟨old, hmem, hdays⟩ := mem_windows.mp (hold _ hrow)
            have hthere : rows.any (Row.isFor w) = true :=
              List.any_eq_true.mpr ⟨old, hmem, (isFor_iff hsigned hmem hw hz).mpr hdays⟩
            exact absurd hthere hfor

/-! ## §4. What a history queues. -/

variable {history : History defaults asset start} {k : Nat}

theorem append_signed (hsigned : Signed rows) (hrow : queuedRow defaults asset day = some row) :
    Signed (rows ++ [row]) := by
  intro r hr
  cases List.mem_append.mp hr with
  | inl hold => exact hsigned r hold
  | inr hnew =>
    rw [List.mem_singleton.mp hnew]
    exact queuedRow_signed hrow

theorem History.signed_all (history : History defaults asset start) (k : Nat) :
    Signed (history.rows k) := by
  induction k with
  | zero => exact history.signed
  | succ k ih =>
    apply signed_of_keys _ (history.next k)
    by_cases hnew : ∃ row, queuedRow defaults asset (start + k) = some row ∧
        row.thresholdDays ∉ windows (history.rows k)
    · obtain ⟨row, hrow, hwindow⟩ := hnew
      rw [discoverPass_new ih hrow hwindow]
      exact append_signed ih hrow
    · push Not at hnew
      exact signed_of_keys ih (discoverPass_old ih hnew)

theorem History.queued_iff : history.Queued k row ↔
    queuedRow defaults asset (start + k) = some row ∧
      row.thresholdDays ∉ windows (history.rows k) := by
  constructor
  · intro h
    by_cases hnew : ∃ row, queuedRow defaults asset (start + k) = some row ∧
        row.thresholdDays ∉ windows (history.rows k)
    · obtain ⟨row', hrow, hwindow⟩ := hnew
      have hpass := discoverPass_new (history.signed_all k) hrow hwindow
      have heq : history.rows k ++ [row'] = history.rows k ++ [row] := hpass.symm.trans h
      cases List.append_cancel_left heq
      exact ⟨hrow, hwindow⟩
    · push Not at hnew
      have hkeys := discoverPass_old (history.signed_all k) hnew
      have hlength := congrArg List.length hkeys
      rw [show discoverPass _ _ _ _ = _ from h] at hlength
      simp at hlength
  · rintro ⟨hrow, hwindow⟩
    exact discoverPass_new (history.signed_all k) hrow hwindow

theorem History.windows_next (k : Nat) :
    windows (history.rows (k + 1)) = windows (history.rows k) ∨
      ∃ row, history.Queued k row ∧
        windows (history.rows (k + 1)) = windows (history.rows k) ++ [row.thresholdDays] := by
  by_cases hnew : ∃ row, queuedRow defaults asset (start + k) = some row ∧
      row.thresholdDays ∉ windows (history.rows k)
  · obtain ⟨row, hrow⟩ := hnew
    have hqueued : history.Queued k row := History.queued_iff.mpr hrow
    refine .inr ⟨row, hqueued, ?_⟩
    rw [windows_of_keys (history.next k), show discoverPass _ _ _ _ = _ from hqueued]
    unfold windows
    rw [List.map_append]
    rfl
  · push Not at hnew
    left
    rw [windows_of_keys (history.next k)]
    exact windows_of_keys (discoverPass_old (history.signed_all k) hnew)

theorem History.windows_mono {j : Nat} (hjk : j ≤ k) :
    windows (history.rows j) ⊆ windows (history.rows k) := by
  induction hjk with
  | refl => exact List.Subset.refl _
  | @step k _ ih =>
    cases history.windows_next k with
    | inl hsame => exact hsame ▸ ih
    | inr hrow =>
      obtain ⟨row, -, happend⟩ := hrow
      rw [happend]
      exact List.subset_append_of_subset_left _ ih

theorem History.exists_queued (hfirst : z ∉ windows (history.rows 0))
    (hlater : z ∈ windows (history.rows (k + 1))) :
    ∃ j ≤ k, ∃ row, history.Queued j row ∧ row.thresholdDays = z := by
  induction k with
  | zero =>
    cases history.windows_next 0 with
    | inl hsame => exact absurd (hsame ▸ hlater) hfirst
    | inr hrow =>
      obtain ⟨row, hqueued, happend⟩ := hrow
      rw [happend] at hlater
      have hz : z = row.thresholdDays := by simpa [hfirst] using hlater
      exact ⟨0, Nat.le_refl 0, row, hqueued, hz.symm⟩
  | succ k ih =>
    by_cases hthere : z ∈ windows (history.rows (k + 1))
    · obtain ⟨j, hj, hrow⟩ := ih hthere
      exact ⟨j, by omega, hrow⟩
    · cases history.windows_next (k + 1) with
      | inl hsame => exact absurd (hsame ▸ hlater) hthere
      | inr hrow =>
        obtain ⟨row, hqueued, happend⟩ := hrow
        rw [happend] at hlater
        have hz : z = row.thresholdDays := by simpa [hthere] using hlater
        exact ⟨k + 1, Nat.le_refl _, row, hqueued, hz.symm⟩

/-! ## §5. A row of the group. -/

section Assigned

variable {g : ContactGroup} {id : String} {ids : List String}

/-- What a row that the group is alerted by, when it is assigned alone, says of it. -/
structure AlertedAlone (defaults : List ℚ) (asset : Asset) (g : ContactGroup) (day : Int)
    (window : Int) : Prop where
  kept : asset.retired = false
  fresh : isStaleImportThreshold asset.importedAt asset.expiration window = false
  integer : asInteger (window : ℚ) = some window
  own : (window : ℚ) ∈ effectiveThresholds g (asset.workspaceThresholds defaults)
  sent : (window : ℚ) ∈ effectiveThresholds g (asset.workspaceThresholds [])
  queues : ∃ c, queues asset g c = true
  selects : ∃ c, selects asset g c = true
  least : ∃ days, asset.computeDaysLeft day = some days ∧
    IsLeast (reached days (effectiveThresholds g (asset.workspaceThresholds defaults))) window

theorem asInteger_self {n : ℚ} {z : Int} (h : asInteger n = some z) :
    asInteger (z : ℚ) = some z := by
  rw [asInteger_some h]
  exact h

variable {days window : Int} {t : ℚ}

theorem mem_sendGroups : g ∈ sendGroups asset t ↔
    g ∈ asset.resolvedGroups ∧ t ∈ effectiveThresholds g (asset.workspaceThresholds []) := by
  unfold sendGroups unionGroupsForThresholdWindow
  rw [List.mem_filter, groupFiresForWindow_iff]

theorem mem_discoveryGroups : g ∈ discoveryGroups defaults asset t ↔
    g ∈ asset.resolvedGroups ∧ t ∈ effectiveThresholds g (asset.workspaceThresholds defaults) := by
  unfold discoveryGroups unionGroupsForThresholdWindow
  rw [List.mem_filter, groupFiresForWindow_iff]

theorem delivers_queuedRow (hrow : queuedRow defaults asset day = some row) :
    Delivers asset g row ↔
      g ∈ sendGroups asset row.thresholdDays ∧ ∃ c, selects asset g c = true := by
  obtain ⟨w, z, -, hz, -, hshape⟩ := queuedRow_eq_some.mp hrow
  have hdays : (row.thresholdDays : ℚ) = w.thresholdReached := by
    rw [hshape]
    exact asInteger_some hz
  unfold Delivers
  rw [hdays]
  constructor
  · rintro ⟨hg, c, -, hc⟩
    exact ⟨hg, c, hc⟩
  · rintro ⟨hg, c, hc⟩
    exact ⟨hg, c, (mem_queuedRow_final hz hshape).mpr ⟨g, hg, hc⟩, hc⟩

theorem alertedAlone (hid : findGroup asset.contactGroups id = some g)
    (hrow : queuedRow defaults (asset.assign [id]) day = some row)
    (hdelivers : Delivers (asset.assign [id]) g row) :
    AlertedAlone defaults asset g day row.thresholdDays := by
  have hgroups : (asset.assign [id]).resolvedGroups = [g] := resolved_of_single hid
  obtain ⟨hsend, c, hc⟩ := (delivers_queuedRow hrow).mp hdelivers
  obtain ⟨w, z, hw, hz, hchannels, rfl⟩ := queuedRow_eq_some.mp hrow
  obtain ⟨hkept, hfresh, days, hdays, hleast, -⟩ := dueWindow_eq_some.mp hw
  obtain ⟨c', g', hg', hqueues⟩ := offers_iff.mp hchannels
  rw [mem_discoveryGroups, hgroups, List.mem_singleton] at hg'
  obtain ⟨rfl, hown⟩ := hg'
  have hin : g' ∈ (asset.assign [id]).resolvedGroups := by
    rw [hgroups]
    exact List.mem_singleton_self g'
  have hreached : reached days (discoveryThresholds defaults (asset.assign [id])) =
      reached days (effectiveThresholds g' (asset.workspaceThresholds defaults)) := by
    unfold reached
    ext t
    rw [Set.mem_ofPred_eq, Set.mem_ofPred_eq, mem_discoveryThresholds hin, hgroups]
    simp [Asset.workspaceThresholds, Asset.assign]
  have hz' := asInteger_some hz
  exact {
    kept := hkept
    fresh := by
      dsimp only
      rw [hz']
      exact hfresh
    integer := asInteger_self hz
    own := by
      dsimp only
      rw [hz']
      exact hown
    sent := (mem_sendGroups.mp hsend).2
    queues := ⟨c', hqueues⟩
    selects := ⟨c, hc⟩
    least := ⟨days, hdays, by
      dsimp only
      rw [hz', ← hreached]
      exact hleast⟩ }

/-! ## §6. The same row among the rows of all groups. -/

theorem AlertedAlone.delivers {day' : Int} (h : AlertedAlone defaults asset g day window)
    (hg : g ∈ (asset.assign ids).resolvedGroups)
    (hrow : queuedRow defaults (asset.assign ids) day' = some row) (hdays : row.thresholdDays = window) :
    Delivers (asset.assign ids) g row := by
  rw [delivers_queuedRow hrow, hdays]
  exact ⟨mem_sendGroups.mpr ⟨hg, h.sent⟩, h.selects⟩

theorem AlertedAlone.queued_on {day' : Int} (h : AlertedAlone defaults asset g day window)
    (hg : g ∈ (asset.assign ids).resolvedGroups) (hdays : asset.computeDaysLeft day' = some days)
    (hreaches : reaches days window = true)
    (hfree : ∀ g ∈ (asset.assign ids).resolvedGroups, ∀ s ∈ effectiveThresholds g (asset.workspaceThresholds defaults), reaches days s = true → (window : ℚ) ≤ s) :
    ∃ row, queuedRow defaults (asset.assign ids) day' = some row ∧ row.thresholdDays = window := by
  have hleast : IsLeast (reached days (discoveryThresholds defaults (asset.assign ids))) window := by
    refine ⟨⟨(mem_discoveryThresholds hg).mpr ⟨g, hg, h.own⟩, hreaches⟩, ?_⟩
    rintro s ⟨hs, hsreach⟩
    obtain ⟨g', hg', hs'⟩ := (mem_discoveryThresholds hg).mp hs
    exact hfree g' hg' s hs' hsreach
  have hw : dueWindow (asset.assign ids) day' (discoveryThresholds defaults (asset.assign ids)) =
      some { thresholdReached := window, negativeWindow := decide (days < 0) } :=
    dueWindow_eq_some.mpr ⟨h.kept, h.fresh, days, hdays, hleast, rfl⟩
  obtain ⟨c, hc⟩ := h.queues
  have hoffers : discoveryChannels defaults (asset.assign ids) window ≠ [] :=
    offers_iff (w := { thresholdReached := window, negativeWindow := decide (days < 0) }).mpr
      ⟨c, g, mem_discoveryGroups.mpr ⟨hg, h.own⟩, hc⟩
  exact ⟨_, queuedRow_eq_some.mpr ⟨_, window, hw, h.integer, hoffers, rfl⟩, rfl⟩

/-- The day count of a pass. -/
theorem computeDaysLeft_add (h : asset.computeDaysLeft start = some days) (k : Nat) :
    asset.computeDaysLeft (start + k) = some (days - k) := by
  unfold Asset.computeDaysLeft at h ⊢
  obtain ⟨expiration, hexp, rfl⟩ := Option.map_eq_some_iff.mp h
  rw [hexp, Option.map_some]
  congr 1
  omega

theorem computeDaysLeft_start (h : asset.computeDaysLeft (start + k) = some days) :
    asset.computeDaysLeft start = some (days + k) := by
  unfold Asset.computeDaysLeft at h ⊢
  obtain ⟨expiration, hexp, rfl⟩ := Option.map_eq_some_iff.mp h
  rw [hexp, Option.map_some]
  congr 1
  omega

theorem reaches_iff :
    reaches days t = true ↔ (0 ≤ days ∨ t < 0) ∧ (days : ℚ) ≤ t := by
  simp [reaches]

theorem AlertedAlone.comes_up (h : AlertedAlone defaults asset g (start + k) window)
    (hg : g ∈ (asset.assign ids).resolvedGroups)
    (hfree : ¬Overtaken defaults (asset.assign ids) start window) :
    ∃ j ≤ k, ∃ row, queuedRow defaults (asset.assign ids) (start + j) = some row ∧
      row.thresholdDays = window := by
  obtain ⟨days, hdays, ⟨-, hreach⟩, -⟩ := h.least
  have hfirst := computeDaysLeft_start hdays
  rw [reaches_iff] at hreach
  have hle : days ≤ window := by exact_mod_cast hreach.2
  obtain ⟨j, hj⟩ : ∃ j : Nat, j = (days + k - window).toNat := ⟨_, rfl⟩
  refine ⟨j, by omega, h.queued_on hg (computeDaysLeft_add hfirst j) ?_ ?_⟩
  · rw [reaches_iff]
    have hnow : days + k - j ≤ window := by omega
    refine ⟨?_, by exact_mod_cast hnow⟩
    cases hreach.1 with
    | inl hpos => exact .inl (by omega)
    | inr hneg => exact .inr hneg
  · intro g' hg' s hs hsreach
    by_contra hlt
    have hearly : (days + k - j : Int) ≤ s := (reaches_iff.mp hsreach).2
    by_cases hlate : days + k ≤ window
    · have hzero : j = 0 := by omega
      apply hfree
      refine ⟨g', hg', s, hs, days + k, hfirst, ?_, not_le.mp hlt⟩
      rw [hzero] at hearly
      simpa using hearly
    · have hwindow : days + k - j = window := by omega
      rw [hwindow] at hearly
      exact hlt hearly

theorem AlertedAlone.overtaken (h : AlertedAlone defaults asset g (start + k) window)
    (hg : g ∈ (asset.assign ids).resolvedGroups)
    (hover : Overtaken defaults (asset.assign ids) start window) {j : Nat} (hjk : j ≤ k)
    (hrow : queuedRow defaults (asset.assign ids) (start + j) = some row) :
    row.thresholdDays < window := by
  obtain ⟨days, hdays, ⟨-, hreach⟩, -⟩ := h.least
  have hfirst := computeDaysLeft_start hdays
  rw [reaches_iff] at hreach
  obtain ⟨g', hg', s, hs, days₀, hdays₀, hle, hlt⟩ := hover
  have heq : days₀ = days + k := Option.some.inj (hdays₀.symm.trans hfirst)
  obtain ⟨w, z, hw, hz, -, rfl⟩ := queuedRow_eq_some.mp hrow
  obtain ⟨-, -, days', hdays', hleast, -⟩ := dueWindow_eq_some.mp hw
  have heq' : days' = days + k - j :=
    Option.some.inj (hdays'.symm.trans (computeDaysLeft_add hfirst j))
  have hin : s ∈ reached days' (discoveryThresholds defaults (asset.assign ids)) := by
    refine ⟨(mem_discoveryThresholds hg).mpr ⟨g', hg', hs⟩, reaches_iff.mpr ⟨?_, ?_⟩⟩
    · cases hreach.1 with
      | inl hpos => exact .inl (by omega)
      | inr hneg => exact .inr (lt_trans hlt hneg)
    · have hstep : ((days' : Int) : ℚ) ≤ (days₀ : Int) := by
        rw [heq, heq']
        exact_mod_cast (by omega : days + k - j ≤ days + k)
      exact le_trans hstep hle
  have hbound : (z : ℚ) < window := by
    rw [asInteger_some hz]
    exact lt_of_le_of_lt (hleast.2 hin) hlt
  exact_mod_cast hbound

/-- A group that is alerted when it is assigned alone is alerted, with others assigned,
    on the same or an earlier day and for a threshold as early, exactly where the first
    pass has not reached a later threshold of one of the groups. -/
theorem added_groups_keep_alert (alone : History defaults (asset.assign [id]) start)
    (all : History defaults (asset.assign ids) start) (hfirst : all.rows 0 = alone.rows 0)
    (hin : id ∈ ids) (hid : findGroup asset.contactGroups id = some g)
    (hqueued : alone.Queued k row) (hdelivers : Delivers (asset.assign [id]) g row) :
    (∃ j ≤ k, ∃ row', all.Queued j row' ∧ row.thresholdDays ≤ row'.thresholdDays ∧
        Delivers (asset.assign ids) g row') ↔
      ¬Overtaken defaults (asset.assign ids) start row.thresholdDays := by
  obtain ⟨hrow, hnew⟩ := History.queued_iff.mp hqueued
  have halone := alertedAlone hid hrow hdelivers
  have hg : g ∈ (asset.assign ids).resolvedGroups := mem_resolved_of_assigned hin hid
  constructor
  · rintro ⟨j, hj, row', hqueued', hle, -⟩ hover
    have hlt := halone.overtaken hg hover hj (History.queued_iff.mp hqueued').1
    omega
  · intro hfree
    obtain ⟨j, hj, rowj, hrowj, hdaysj⟩ := halone.comes_up hg hfree
    have hfirst' : row.thresholdDays ∉ windows (all.rows 0) := by
      rw [hfirst]
      exact fun hmem => hnew (History.windows_mono (Nat.zero_le k) hmem)
    have hlater : row.thresholdDays ∈ windows (all.rows (j + 1)) := by
      by_cases hthere : rowj.thresholdDays ∈ windows (all.rows j)
      · rw [← hdaysj]
        exact History.windows_mono (Nat.le_succ j) hthere
      · have hqueuedj : all.Queued j rowj := History.queued_iff.mpr ⟨hrowj, hthere⟩
        rw [windows_of_keys (all.next j), show discoverPass _ _ _ _ = _ from hqueuedj, ← hdaysj]
        exact mem_windows.mpr ⟨rowj, by simp, rfl⟩
    obtain ⟨i, hi, row', hqueued', hdays'⟩ := History.exists_queued hfirst' hlater
    refine ⟨i, by omega, row', hqueued', by omega, ?_⟩
    exact halone.delivers hg (History.queued_iff.mp hqueued').1 hdays'

end Assigned

/-! ## §7. A group that is overtaken. -/

instance {asset : Asset} {group : ContactGroup} {row : Row} : Decidable (Delivers asset group row) :=
  inferInstanceAs (Decidable (_ ∧ _))

instance {history : History defaults asset start} {k : Nat} : Decidable (history.Queued k row) :=
  inferInstanceAs (Decidable (_ = _))

/-- Passes between which nothing is delivered, from an empty queue. -/
def passes (defaults : List ℚ) (asset : Asset) (start : Int) : Nat → List Row
  | 0 => []
  | k + 1 => discoverPass defaults asset (start + k) (passes defaults asset start k)

def History.undelivered (defaults : List ℚ) (asset : Asset) (start : Int) :
    History defaults asset start where
  rows := passes defaults asset start
  signed := fun _ h => by cases h
  next _ := rfl

def mailGroup : ContactGroup :=
  { id := "mail", thresholds := some [{ number := some 30 }], emailContactIds := ["c1"] }

def mailRow : Row := { negativeWindow := false, thresholdDays := 30, channels := .legacy [.email] }

/-- The first pass is thirty-five days before the expiration. -/
theorem added_groups_keep_mail :
    ∃ j ≤ 5, ∃ row, (History.undelivered [] (splitThresholds.assign ["mail", "hook"]) 19970).Queued j row ∧
      mailRow.thresholdDays ≤ row.thresholdDays ∧
      Delivers (splitThresholds.assign ["mail", "hook"]) mailGroup row := by
  have hfree : ¬Overtaken [] (splitThresholds.assign ["mail", "hook"]) 19970 mailRow.thresholdDays := by
    rintro ⟨g, -, s, -, days, hdays, hle, hlt⟩
    cases hdays
    exact absurd (lt_of_le_of_lt hle hlt) (by decide +kernel)
  exact (added_groups_keep_alert (.undelivered [] (splitThresholds.assign ["mail"]) 19970)
    (.undelivered [] (splitThresholds.assign ["mail", "hook"]) 19970) rfl (by simp)
    (by decide +kernel) (by decide +kernel) (by decide +kernel)).mpr hfree

/-- Five days before the expiration the window of thirty days is the one of the asset as
    long as the mail group is alone; with the other group, no day has it any more. -/
theorem added_group_silences :
    (History.undelivered [] (splitThresholds.assign ["mail"]) 20000).Queued 0 mailRow ∧
      Delivers (splitThresholds.assign ["mail"]) mailGroup mailRow ∧
      ∀ (all : History [] (splitThresholds.assign ["mail", "hook"]) 20000) (j : Nat) (row : Row),
        all.Queued j row → ¬Delivers (splitThresholds.assign ["mail", "hook"]) mailGroup row := by
  refine ⟨by decide +kernel, by decide +kernel, ?_⟩
  intro all j row hqueued hdelivers
  obtain ⟨w, z, hw, hz, -, rfl⟩ := queuedRow_eq_some.mp (History.queued_iff.mp hqueued).1
  obtain ⟨-, -, days, hdays, hleast, -⟩ := dueWindow_eq_some.mp hw
  have hthirty : w.thresholdReached = 30 := by
    have hown := (mem_sendGroups.mp hdelivers.1).2
    rw [asInteger_some hz, show effectiveThresholds mailGroup _ = [30] by decide +kernel] at hown
    exact List.mem_singleton.mp hown
  have hreach : (0 ≤ days ∨ (30 : ℚ) < 0) ∧ (days : ℚ) ≤ 30 := by
    rw [← reaches_iff, ← hthirty]
    exact hleast.1.2
  have hpos : 0 ≤ days := hreach.1.resolve_right (by decide +kernel)
  have hlate : days ≤ 7 := by
    have heq : 20005 - (20000 + (j : Int)) = days := Option.some.inj hdays
    omega
  have hseven : (7 : ℚ) ∈ reached days
      (discoveryThresholds [] (splitThresholds.assign ["mail", "hook"])) :=
    ⟨by decide +kernel, reaches_iff.mpr ⟨.inl hpos, by exact_mod_cast hlate⟩⟩
  have hle := hleast.2 hseven
  rw [hthirty] at hle
  exact absurd hle (by decide +kernel)

end TokenTimer.Delivery
