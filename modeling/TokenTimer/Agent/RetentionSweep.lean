/-
  TokenTimer.Agent.RetentionSweep — one pass over the retention ledger as it is on disk
  (`sweepLedger` of `packages/agent/src/windows-retention/index.js`).

  "Sweep-wide failures are reported per row in the returned summary, never thrown, so one
  bad row cannot abort the rest of the sweep", says the contract.  Only a failing
  `performCleanup` is caught.  What throws before it (reading the row, taking its lock,
  gathering its facts) leaves the loop, and the rows listed after it are not visited.

  THE MODEL: the ledger directory lists its files in any order.  What a file parses to,
  the lock, the facts and the native deletion of each row are parameters; the sweep
  keeps its locks, and its own writes succeed.

  Main results:
    * `sweepRow_ok_iff` — a turn throws exactly for a bad row.
    * `sweep_isolates_iff` — the contract holds exactly when no listed row is bad.
-/

import TokenTimer.Agent.Retention
import TokenTimer.Basic
import TokenTimer.Lib.Dict

namespace TokenTimer.WindowsRetention.Sweep

open Lib

/-! ## §1. The ledger directory. -/

def MAX_LEDGER_ROW_BYTES : Nat := 16 * 1024

def buildError (message : String) : String := "tokentimer-agent windows-retention: " ++ message

/-- A file of the directory: what `lstatSync` says, and what reading it, `JSON.parse` and
    `validateLedgerRow` give. -/
structure File where
  isFile : Bool
  size : Nat
  content : Except String Row

/-- What the sweep is given beside the directory. -/
structure Env where
  cfg : Config
  ledgerRowPath : Nat → String
  rowBytes : Row → Nat
  withRowLock : Row → Except String Unit
  /-- The three facts, in the order of `evaluateEligibility`. -/
  gatherContext : Row → Except String (Bool × Bool × Bool)
  performCleanup : Row → Except String Unit
  now : Row → Nat

/-- `listLedgerThumbprints`: the thumbprints the files are named by, as listed. -/
def listLedgerThumbprints (dir : Dict Nat File) : List Nat := dir.keys

def readLedgerRow (env : Env) (dir : Dict Nat File) (oldThumbprint : Nat) :
    Except String (Option Row) :=
  match dir.get oldThumbprint with
  | none => .ok none
  | some file =>
    if !file.isFile then
      .error (buildError ("ledger row at " ++ env.ledgerRowPath oldThumbprint ++
        " is not a regular file"))
    else if MAX_LEDGER_ROW_BYTES < file.size then
      .error (buildError ("ledger row at " ++ env.ledgerRowPath oldThumbprint ++ " exceeds " ++
        toString MAX_LEDGER_ROW_BYTES ++ " bytes"))
    else
      match file.content with
      | .error message => .error message
      | .ok row =>
        if row.oldThumbprint ≠ oldThumbprint then
          .error (buildError "ledger row thumbprint does not match its filename")
        else .ok (some row)

def writeLedgerRow (env : Env) (dir : Dict Nat File) (row : Row) : Dict Nat File :=
  dir.set row.oldThumbprint ⟨true, env.rowBytes row, .ok row⟩

/-! ## §2. The sweep. -/

/-- The state of a sweep: the directory, the summary, and the rows evaluated and given to
    `performCleanup`.  A deferral without a reason is `cleanup_failed`. -/
structure Pass where
  dir : Dict Nat File
  removed : List Nat := []
  deferred : List (Nat × Option DeferralReason) := []
  deferredCountByReason : DeferralReason → Nat := fun _ => 0
  evaluated : List Nat := []
  cleaned : List Nat := []

/-- `processRow`, once the lock is taken and the facts are gathered. -/
def decideRow (env : Env) (row : Row) (context : Bool × Bool × Bool) (s : Pass) : Pass :=
  let s := { s with evaluated := s.evaluated ++ [row.oldThumbprint] }
  match evaluateEligibility env.cfg (env.now row) ⟨row, context.1, context.2.1, context.2.2⟩ with
  | none =>
    let s := { s with cleaned := s.cleaned ++ [row.oldThumbprint] }
    match env.performCleanup row with
    | .error _ =>
      { s with
        dir := writeLedgerRow env s.dir { row with lifecycleState := .eligible, deferralReason := none }
        deferred := s.deferred ++ [(row.oldThumbprint, none)] }
    | .ok () =>
      { s with
        dir := writeLedgerRow env s.dir { row with lifecycleState := .removed, deferralReason := none }
        removed := s.removed ++ [row.oldThumbprint] }
  | some reason =>
    { s with
      dir := writeLedgerRow env s.dir
        { row with lifecycleState := .deferred, deferralReason := some reason }
      deferred := s.deferred ++ [(row.oldThumbprint, some reason)]
      deferredCountByReason := fun r => s.deferredCountByReason r + if r = reason then 1 else 0 }

/-- One round of the loop. -/
def sweepRow (env : Env) (s : Pass) (oldThumbprint : Nat) : Except String Pass := do
  match ← readLedgerRow env s.dir oldThumbprint with
  | none => .ok s
  | some initialRow =>
    if initialRow.lifecycleState = .removed then .ok s
    else do
      env.withRowLock initialRow
      match ← readLedgerRow env s.dir oldThumbprint with
      | none => .ok s
      | some row =>
        if row.lifecycleState = .removed then .ok s
        else if row.storeName ≠ initialRow.storeName then
          .error (buildError "retention row store changed while acquiring its lock")
        else do
          let context ← env.gatherContext row
          .ok (decideRow env row context s)

def sweepLedger (env : Env) (dir : Dict Nat File) : Except String Pass :=
  (listLedgerThumbprints dir).foldlM (sweepRow env) { dir }

/-! ## §3. One turn. -/

def failed {α : Type} : Except String α → Bool
  | .error _ => true
  | .ok _ => false

/-- The row cannot be read; or it is not removed, and its lock or its facts fail. -/
def isBad (env : Env) (dir : Dict Nat File) (oldThumbprint : Nat) : Bool :=
  match readLedgerRow env dir oldThumbprint with
  | .error _ => true
  | .ok none => false
  | .ok (some row) =>
    decide (row.lifecycleState ≠ .removed) &&
      (failed (env.withRowLock row) || failed (env.gatherContext row))

def Standing (env : Env) (dir : Dict Nat File) (oldThumbprint : Nat) : Prop :=
  ∃ row, readLedgerRow env dir oldThumbprint = .ok (some row) ∧ row.lifecycleState ≠ .removed

variable {env : Env} {s s' : Pass} {dir : Dict Nat File} {tp : Nat}

theorem thumbprint_of_read {row : Row} (h : readLedgerRow env dir tp = .ok (some row)) :
    row.oldThumbprint = tp := by
  unfold readLedgerRow at h
  split at h
  · cases h
  · split_ifs at h
    split at h
    · cases h
    · split_ifs at h with hname
      injection h with h
      injection h with h
      rw [← h]
      exact not_not.mp hname

/-- A turn writes the file of its row, evaluates it, and forgets nothing. -/
theorem decideRow_spec (row : Row) (context : Bool × Bool × Bool) :
    (∀ other, other ≠ row.oldThumbprint →
      readLedgerRow env (decideRow env row context s).dir other = readLedgerRow env s.dir other) ∧
    (decideRow env row context s).evaluated = s.evaluated ++ [row.oldThumbprint] := by
  unfold decideRow writeLedgerRow
  simp only
  split
  · split
    all_goals
      refine ⟨fun other hne => ?_, rfl⟩
      unfold readLedgerRow
      rw [Dict.get_set_of_ne hne]
  · refine ⟨fun other hne => ?_, rfl⟩
    unfold readLedgerRow
    rw [Dict.get_set_of_ne hne]

theorem sweepRow_of_read {row : Row} (h : readLedgerRow env s.dir tp = .ok (some row))
    (hstanding : row.lifecycleState ≠ .removed) : sweepRow env s tp = (do
      env.withRowLock row
      let context ← env.gatherContext row
      .ok (decideRow env row context s)) := by
  unfold sweepRow
  rw [h]
  simp only [bind, Except.bind]
  rw [if_neg hstanding]
  cases env.withRowLock row with
  | error e => rfl
  | ok u =>
    simp only
    rw [if_neg hstanding, if_neg (by simp)]

/-- **A BAD ROW** ends the sweep. -/
theorem sweepRow_bad (h : isBad env s.dir tp = true) : failed (sweepRow env s tp) = true := by
  unfold isBad at h
  cases hread : readLedgerRow env s.dir tp with
  | error e =>
    unfold sweepRow
    rw [hread]
    rfl
  | ok found =>
    rw [hread] at h
    cases found with
    | none => cases h
    | some row =>
      obtain ⟨hstanding, hfails⟩ := Bool.and_eq_true_iff.mp h
      rw [sweepRow_of_read hread (of_decide_eq_true hstanding)]
      cases hlock : env.withRowLock row with
      | error e => rfl
      | ok u =>
        cases hfacts : env.gatherContext row with
        | error e => rfl
        | ok context =>
          rw [hlock, hfacts] at hfails
          cases hfails

/-- **A ROW THAT IS NOT BAD** is evaluated if it stands, whatever the native deletion does;
    the other rows are left as they are. -/
theorem sweepRow_good (h : isBad env s.dir tp = false) : ∃ s', sweepRow env s tp = .ok s' ∧
    (∀ other, other ≠ tp → readLedgerRow env s'.dir other = readLedgerRow env s.dir other) ∧
    s.evaluated ⊆ s'.evaluated ∧ (Standing env s.dir tp → tp ∈ s'.evaluated) := by
  unfold isBad at h
  cases hread : readLedgerRow env s.dir tp with
  | error e =>
    rw [hread] at h
    cases h
  | ok found =>
    rw [hread] at h
    cases found with
    | none =>
      refine ⟨s, ?_, fun _ _ => rfl, List.Subset.refl _, ?_⟩
      · unfold sweepRow
        rw [hread]
        rfl
      · rintro ⟨row, hrow, -⟩
        rw [hread] at hrow
        cases hrow
    | some row =>
      by_cases hremoved : row.lifecycleState = .removed
      · refine ⟨s, ?_, fun _ _ => rfl, List.Subset.refl _, ?_⟩
        · unfold sweepRow
          rw [hread]
          simp only [bind, Except.bind]
          rw [if_pos hremoved]
        · rintro ⟨row', hrow', hstanding⟩
          rw [hread] at hrow'
          injection hrow' with hrow'
          injection hrow' with hrow'
          exact absurd (hrow' ▸ hremoved) hstanding
      · rw [sweepRow_of_read hread hremoved]
        simp only [hremoved, ne_eq, not_false_eq_true, decide_true, Bool.true_and,
          Bool.or_eq_false_iff] at h
        cases hlock : env.withRowLock row with
        | error e =>
          rw [hlock] at h
          cases h.1
        | ok u =>
          cases hfacts : env.gatherContext row with
          | error e =>
            rw [hfacts] at h
            cases h.2
          | ok context =>
            obtain ⟨hothers, hevaluated⟩ := @decideRow_spec env s row context
            rw [thumbprint_of_read hread] at hothers hevaluated
            refine ⟨_, rfl, hothers, ?_, fun _ => ?_⟩
            · rw [hevaluated]
              exact List.subset_append_left _ _
            · rw [hevaluated]
              exact List.mem_append_right _ (List.mem_singleton_self _)

/-! ## §4. The sweep. -/

theorem isBad_congr {dir' : Dict Nat File} (h : readLedgerRow env dir' tp = readLedgerRow env dir tp) :
    isBad env dir' tp = isBad env dir tp := by
  unfold isBad
  rw [h]

theorem sweep_good : ∀ (rows : List Nat) (s : Pass), rows.Nodup →
    (∀ tp ∈ rows, readLedgerRow env s.dir tp = readLedgerRow env dir tp ∧ isBad env dir tp = false) →
      ∃ s', rows.foldlM (sweepRow env) s = .ok s' ∧ s.evaluated ⊆ s'.evaluated ∧
        ∀ tp ∈ rows, Standing env dir tp → tp ∈ s'.evaluated := by
  intro rows
  induction rows with
  | nil => exact fun s _ _ => ⟨s, rfl, List.Subset.refl _, fun _ h => nomatch h⟩
  | cons tp rows ih =>
    intro s hnodup hrows
    obtain ⟨hnot, hnodup⟩ := List.nodup_cons.mp hnodup
    obtain ⟨⟨hsame, hgood⟩, hrest⟩ := List.forall_mem_cons.mp hrows
    obtain ⟨s₁, hturn, hothers, hkept, hmine⟩ := sweepRow_good ((isBad_congr hsame).trans hgood)
    obtain ⟨s', hrun, hmore, hall⟩ := ih s₁ hnodup fun other hother =>
      ⟨(hothers other fun h => hnot (h ▸ hother)).trans (hrest other hother).1, (hrest other hother).2⟩
    refine ⟨s', ?_, List.Subset.trans hkept hmore, List.forall_mem_cons.mpr ⟨fun hstanding => ?_, hall⟩⟩
    · rw [List.foldlM_cons, hturn]
      exact hrun
    · obtain ⟨row, hrow, hstands⟩ := hstanding
      exact hmore (hmine ⟨row, hsame.trans hrow, hstands⟩)

theorem sweep_ok : ∀ (rows : List Nat) (s : Pass), rows.Nodup →
    (∀ tp ∈ rows, readLedgerRow env s.dir tp = readLedgerRow env dir tp) →
      ∀ {s'}, rows.foldlM (sweepRow env) s = .ok s' → ∀ tp ∈ rows, isBad env dir tp = false := by
  intro rows
  induction rows with
  | nil => exact fun _ _ _ _ _ _ h => nomatch h
  | cons tp rows ih =>
    intro s hnodup hrows s' h
    obtain ⟨hnot, hnodup⟩ := List.nodup_cons.mp hnodup
    obtain ⟨hsame, hrest⟩ := List.forall_mem_cons.mp hrows
    rw [List.foldlM_cons] at h
    obtain ⟨s₁, hturn, hrun⟩ := bind_ok.mp h
    cases hbad : isBad env s.dir tp with
    | true =>
      have hfails := sweepRow_bad hbad
      rw [hturn] at hfails
      cases hfails
    | false =>
      obtain ⟨s₂, hturn₂, hothers, -⟩ := sweepRow_good hbad
      obtain rfl : s₁ = s₂ := Except.ok.inj (hturn.symm.trans hturn₂)
      refine List.forall_mem_cons.mpr ⟨(isBad_congr hsame).symm.trans hbad, ?_⟩
      exact ih s₁ hnodup (fun other hother =>
        (hothers other fun h => hnot (h ▸ hother)).trans (hrest other hother)) hrun

def withoutBad (env : Env) (dir : Dict Nat File) : Dict Nat File :=
  dir.filterKeys fun tp => !isBad env dir tp

/-- **THE CONTRACT**: a summary is returned, every row that stands and is not bad is
    evaluated, and the rows cleaned up are those of a directory without bad rows. -/
def Isolates (env : Env) (dir : Dict Nat File) : Prop :=
  ∃ s, sweepLedger env dir = .ok s ∧
    (∀ tp ∈ listLedgerThumbprints dir, Standing env dir tp → tp ∈ s.evaluated) ∧
    ∃ s', sweepLedger env (withoutBad env dir) = .ok s' ∧ s.cleaned = s'.cleaned

/-- **WHEN ONE ROW CANNOT STOP THE SWEEP**: exactly when no row is bad, whatever the native
    deletions do. -/
theorem sweep_isolates_iff (env : Env) (dir : Dict Nat File) :
    Isolates env dir ↔ ∀ tp ∈ listLedgerThumbprints dir, isBad env dir tp = false := by
  constructor
  · rintro ⟨s, hs, -⟩
    exact sweep_ok _ { dir } dir.nodup (fun _ _ => rfl) hs
  · intro hgood
    obtain ⟨s, hs, -, hevaluated⟩ := @sweep_good env dir (listLedgerThumbprints dir)
      { dir } dir.nodup fun tp htp => ⟨rfl, hgood tp htp⟩
    have hsame : withoutBad env dir = dir := by
      obtain ⟨entries, hnodup⟩ := dir
      unfold withoutBad Dict.filterKeys
      congr 1
      refine List.filter_eq_self.mpr fun e he => ?_
      simp only
      rw [hgood e.1 (List.mem_map_of_mem he)]
      rfl
    exact ⟨s, hs, hevaluated, s, by rw [hsame]; exact hs, rfl⟩

/-- A corrupted row, then one whose retention is over. -/
def demoLedger : Dict Nat File where
  entries := [(1, ⟨true, 12, .error "ledger row is not valid JSON"⟩),
    (2, ⟨true, 480, .ok
      { oldThumbprint := 2, replacementThumbprint := 3, cngKeyContainerId := "tokentimer-2"
        verifiedCutoverAt := 0, oldNotAfter := 0, ownershipProvenance := .tokentimerInstalled
        store := none, jobOrRollbackJournalRefs := [] }⟩)]
  nodup := by decide

def demoEnv : Env where
  cfg := ⟨24, by decide, fun _ => 0⟩
  ledgerRowPath tp := toString tp ++ ".json"
  rowBytes _ := 480
  withRowLock _ := .ok ()
  gatherContext _ := .ok (false, false, true)
  performCleanup _ := .ok ()
  now _ := 100000000000

/-- The second row is cleaned up if the first is absent; with it, the sweep throws. -/
theorem bad_row_stops_sweep : ¬ Isolates demoEnv demoLedger ∧
    (sweepLedger demoEnv (withoutBad demoEnv demoLedger)).map Pass.cleaned = .ok [2] := by
  refine ⟨?_, by decide +kernel⟩
  rintro ⟨s, hs, -⟩
  have hfails : failed (sweepLedger demoEnv demoLedger) = true := by decide +kernel
  rw [hs] at hfails
  cases hfails

end TokenTimer.WindowsRetention.Sweep
