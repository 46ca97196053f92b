/-
  TokenTimer.CertOps.KillSwitchSafety — which runs start certificate work in a
  workspace whose pause stands.

  A transaction that has written a job holds a lock on its workspace row, and the
  row is not paused: a lock that the pause would have to wait for.  Every call
  gets there by locking the row FOR SHARE and reading the column under the lock,
  except the two that never look at it; their lock is the one of the foreign key,
  taken by the INSERT itself.
-/

import TokenTimer.CertOps.KillSwitch

namespace TokenTimer.CertOps.KillSwitch

open Lib.Runs

variable {s t : State} {c d : Nat} {x y : Session} {stmt : Stmt} {rest : List Stmt}
  {locks : List RowLock}

/-! ## §1. The audit log and the row. -/

theorem lastTransition_append (w : Nat) (audits more : List Audit) :
    lastTransition w (audits ++ more) = (lastTransition w more).or (lastTransition w audits) := by
  rw [lastTransition, List.filterMap_append, List.getLast?_append]
  rfl

variable {call : Call} {program : List Stmt} {id w : Nat} {row : Workspace}

/-- Rows that say nothing of a pause. -/
theorem lastTransition_quiet {audits : List Audit} (h : ∀ a ∈ audits, a.transition w = none) :
    lastTransition w audits = none := by
  rw [lastTransition, List.filterMap_eq_nil_iff.mpr h]
  rfl

/-- The audits of a change say what the row says after it. -/
theorem lastTransition_transitionAudits (w id : Nat) (previous next : Workspace) :
    lastTransition w (transitionAudits id previous next) =
      if w = id ∧ previous.certopsPaused ≠ next.certopsPaused then some next.certopsPaused
      else none := by
  obtain ⟨p, a⟩ := previous
  obtain ⟨p', a'⟩ := next
  by_cases hw : w = id
  · subst hw
    cases p <;> cases p' <;> cases a <;> cases a' <;>
      simp [transitionAudits, lastTransition, Audit.transition]
  · have hid : id ≠ w := fun h => hw h.symm
    rw [if_neg fun h => hw h.1]
    apply lastTransition_quiet
    intro audit haudit
    have hrow : audit.workspaceId = id := by
      simp only [transitionAudits, List.mem_append] at haudit
      obtain h | h := haudit <;> split at h <;> simp_all
    rw [Audit.transition, hrow, if_neg hid]

theorem lockWorkspaceForCertOpsSideEffect_ok {row : Option Workspace} {enabled skipLocked : Bool}
    {workspace : Workspace}
    (h : lockWorkspaceForCertOpsSideEffect row enabled skipLocked = .ok (some workspace)) :
    row = some workspace ∧ workspace.certopsPaused = false := by
  cases row with
  | none => cases skipLocked <;> cases h
  | some found =>
    obtain ⟨paused, always⟩ := found
    cases enabled <;> cases paused <;> cases h
    exact ⟨rfl, rfl⟩

/-! ## §2. What a transaction holds. -/

/-- The transaction has a lock on its workspace row, and the row is not paused. -/
def Cleared (s : State) (c : Nat) (x : Session) : Prop :=
  ∃ mode row, ⟨c, .workspace x.workspaceId, mode⟩ ∈ s.locks ∧
    s.workspaces x.workspaceId = some row ∧ row.certopsPaused = false

/-- The transaction has its workspace row FOR UPDATE, as it has read it. -/
def Owned (s : State) (c : Nat) (x : Session) : Prop :=
  ⟨c, .workspace x.workspaceId, .update⟩ ∈ s.locks ∧
    ∃ row, x.workspace = some row ∧ s.workspaces x.workspaceId = some row

def Stmt.isUpdate : Stmt → Bool
  | .updateWorkspace _ _ => true
  | _ => false

/-- Every statement that writes a job comes after a lock of the workspace row. -/
def covers : List Stmt → Bool
  | [] => true
  | .lockWorkspace _ :: _ => true
  | .createCertificateJob _ :: _ | .claimRows :: _ => false
  | _ :: rest => covers rest

/-- Where a transaction is with the UPDATE of its workspace row: it has none left,
    or is before the lock, or between the lock and the UPDATE. -/
def Settling (s : State) (c : Nat) (x : Session) : Prop :=
  (∀ stmt ∈ x.rest, stmt.isUpdate = false) ∨
    (x.setting = none ∧ ∃ p a, x.rest = [.lockWorkspaceForUpdate, .updateWorkspace p a] ∨
      (x.rest = [.updateWorkspace p a] ∧ Owned s c x))

/-- **THE INVARIANT OF A TRANSACTION**. -/
structure Sound (s : State) (c : Nat) (x : Session) : Prop where
  program : x.call.transaction = .ok x.program
  covered : (x.call.isUnlocked = true ∧ .claimRows ∉ x.rest) ∨ covers x.rest = true ∨ Cleared s c x
  inserted : ∀ r ∈ x.inserted, r.2.workspaceId = x.workspaceId ∧ Cleared s c x
  verdicts : ∀ r ∈ x.verdicts, Cleared s c x ∧
    ∃ j, s.jobs r.1 = some j ∧ j.workspaceId = x.workspaceId
  settling : Settling s c x
  quiet : x.setting = none → ∀ w, lastTransition w x.audits = none
  settled : ∀ row, x.setting = some row → Owned s c x ∧
    ∀ previous, x.workspace = some previous → ∀ w, lastTransition w x.audits =
      if w = x.workspaceId ∧ previous.certopsPaused ≠ row.certopsPaused then some row.certopsPaused
      else none

/-- The locks of two calls on one row do not conflict. -/
def Compatible (locks : List RowLock) : Prop :=
  ∀ l ∈ locks, ∀ m ∈ locks, l.row = m.row → l.holder ≠ m.holder → l.mode.conflicts m.mode = false

/-- **THE INVARIANT**. -/
structure Inv (s : State) : Prop where
  compatible : Compatible s.locks
  sound : ∀ c x, s.sessions c = some x → Sound s c x
  agrees : ∀ w row, s.workspaces w = some row → (row.certopsPaused = true ↔ PauseStands s w)
  absent : ∀ w, s.workspaces w = none → lastTransition w s.audits = none

theorem conflicts_comm (m n : LockMode) : m.conflicts n = n.conflicts m := by
  cases m <;> cases n <;> rfl

theorem conflicts_update (m : LockMode) : m.conflicts .update = true := by
  cases m <;> rfl

/-! ## §3. The rest of the world goes on. -/

/-- What a step leaves alone for the call `c`: its locks, the rows it has locked,
    and which workspace a job is of. -/
structure Spares (s t : State) (c : Nat) : Prop where
  locks : ∀ l ∈ s.locks, l.holder = c → l ∈ t.locks
  rows : ∀ w mode row, ⟨c, .workspace w, mode⟩ ∈ s.locks → s.workspaces w = some row →
    t.workspaces w = some row
  jobs : ∀ id j, s.jobs id = some j → ∃ i, t.jobs id = some i ∧ i.workspaceId = j.workspaceId

theorem Cleared.spared (h : Cleared s c x) (hst : Spares s t c) : Cleared t c x := by
  obtain ⟨mode, row, hlock, hrow, hpaused⟩ := h
  exact ⟨mode, row, hst.locks _ hlock rfl, hst.rows _ mode row hlock hrow, hpaused⟩

theorem Owned.spared (h : Owned s c x) (hst : Spares s t c) : Owned t c x := by
  obtain ⟨hlock, row, hread, hrow⟩ := h
  exact ⟨hst.locks _ hlock rfl, row, hread, hst.rows _ _ row hlock hrow⟩

/-- **THE FRAME RULE** of a transaction. -/
theorem Sound.spared (h : Sound s c x) (hst : Spares s t c) : Sound t c x where
  program := h.program
  covered := h.covered.imp_right fun h => h.imp_right fun h => h.spared hst
  inserted r hr := ⟨(h.inserted r hr).1, (h.inserted r hr).2.spared hst⟩
  verdicts r hr := by
    obtain ⟨hcleared, j, hj, hw⟩ := h.verdicts r hr
    obtain ⟨i, hi, hij⟩ := hst.jobs _ j hj
    exact ⟨hcleared.spared hst, i, hi, hij.trans hw⟩
  settling := by
    obtain hnone | ⟨hset, p, a, hbefore | ⟨hbetween, howned⟩⟩ := h.settling
    · exact .inl hnone
    · exact .inr ⟨hset, p, a, .inl hbefore⟩
    · exact .inr ⟨hset, p, a, .inr ⟨hbetween, howned.spared hst⟩⟩
  quiet := h.quiet
  settled row hrow := ⟨(h.settled row hrow).1.spared hst, (h.settled row hrow).2⟩

@[simp] theorem goOn_sessions_self : (s.goOn c y locks).sessions c = some y :=
  Function.update_self (β := fun _ => Option Session) c (some y) s.sessions

theorem goOn_sessions_of_ne (h : d ≠ c) : (s.goOn c y locks).sessions d = s.sessions d :=
  Function.update_of_ne (β := fun _ => Option Session) h (some y) s.sessions

@[simp] theorem endTransaction_sessions_self :
    (s.endTransaction c x).sessions c = Session.begin x.call x.program x.later :=
  Function.update_self (β := fun _ => Option Session) c _ s.sessions

theorem endTransaction_sessions_of_ne (h : d ≠ c) :
    (s.endTransaction c x).sessions d = s.sessions d :=
  Function.update_of_ne (β := fun _ => Option Session) h _ s.sessions

theorem spares_goOn : Spares s (s.goOn c y locks) d where
  locks _ hl _ := List.mem_append_right _ hl
  rows _ _ _ _ hrow := hrow
  jobs _ j hj := ⟨j, hj, rfl⟩

theorem spares_endTransaction (h : d ≠ c) : Spares s (s.endTransaction c x) d where
  locks l hl hholder := List.mem_filter.mpr ⟨hl, by simpa [hholder] using h⟩
  rows _ _ _ _ hrow := hrow
  jobs _ j hj := ⟨j, hj, rfl⟩

/-! ## §4. How a transaction begins and ends. -/

theorem settling_program (h : call.transaction = .ok program) :
    (∀ stmt ∈ program, stmt.isUpdate = false) ∨
      ∃ p a, program = [.lockWorkspaceForUpdate, .updateWorkspace p a] := by
  cases call <;> simp only [Call.transaction, enrollmentTransaction] at h
  case setWorkspaceCertOpsPauseState =>
    obtain ⟨p, -, h⟩ := bind_ok.mp h
    obtain ⟨-, -, h⟩ := bind_ok.mp h
    cases h
    exact .inr ⟨_, _, rfl⟩
  case setWorkspaceCertOpsRequireApprovalAlways =>
    obtain ⟨a, -, h⟩ := bind_ok.mp h
    cases h
    exact .inr ⟨_, _, rfl⟩
  case setWorkspaceCertOpsSettings =>
    obtain ⟨p, -, h⟩ := bind_ok.mp h
    obtain ⟨a, -, h⟩ := bind_ok.mp h
    obtain ⟨-, -, h⟩ := bind_ok.mp h
    cases h
    exact .inr ⟨_, _, rfl⟩
  case advanceRollout deployments =>
    cases h
    left
    intro stmt hstmt
    simp only [List.mem_append, List.mem_flatten, List.mem_replicate] at hstmt
    obtain (h | ⟨_, ⟨-, rfl⟩, h⟩) | h := hstmt <;> simp at h <;> rcases h with rfl | rfl <;> rfl
  case createRenewalJobForCertificate adcs =>
    cases h
    left
    cases adcs <;> simp [Stmt.isUpdate]
  case createEnrollment source =>
    cases h
    left
    by_cases hsource : source = .automation <;> simp [hsource, Stmt.isUpdate]
  all_goals
    cases h
    left
    simp [Stmt.isUpdate]

theorem covers_program (h : call.transaction = .ok program) :
    (call.isUnlocked = true ∧ .claimRows ∉ program) ∨ covers program = true := by
  cases call <;> simp only [Call.transaction, enrollmentTransaction] at h
  case setWorkspaceCertOpsPauseState =>
    obtain ⟨p, -, h⟩ := bind_ok.mp h
    obtain ⟨-, -, h⟩ := bind_ok.mp h
    cases h
    exact .inr rfl
  case setWorkspaceCertOpsRequireApprovalAlways =>
    obtain ⟨a, -, h⟩ := bind_ok.mp h
    cases h
    exact .inr rfl
  case setWorkspaceCertOpsSettings =>
    obtain ⟨p, -, h⟩ := bind_ok.mp h
    obtain ⟨a, -, h⟩ := bind_ok.mp h
    obtain ⟨-, -, h⟩ := bind_ok.mp h
    cases h
    exact .inr rfl
  case createRenewalJobForCertificate adcs =>
    cases h
    right
    split <;> rfl
  case createEnrollment source =>
    cases h
    by_cases hsource : source = .automation
    · subst hsource
      exact .inr rfl
    · exact .inl ⟨by simpa [Call.isUnlocked] using hsource, by simp [hsource]⟩
  case scheduleDueEnrollments =>
    cases h
    exact .inl ⟨rfl, by simp⟩
  all_goals
    cases h
    exact .inr rfl

theorem Sound.begin {workspaces : List Nat} (hprogram : call.transaction = .ok program)
    (h : Session.begin call program workspaces = some x) : Sound s c x := by
  cases workspaces with
  | nil => cases h
  | cons w later =>
    cases h
    exact
      { program := hprogram
        covered := (covers_program hprogram).imp_right .inl
        inserted := nofun
        verdicts := nofun
        settling := (settling_program hprogram).imp_right fun ⟨p, a, h⟩ => ⟨rfl, p, a, .inl h⟩
        quiet := fun _ _ => rfl
        settled := nofun }

theorem Compatible.filter (h : Compatible locks) (p : RowLock → Bool) :
    Compatible (locks.filter p) := by
  intro l hl m hm
  exact h l (List.mem_of_mem_filter hl) m (List.mem_of_mem_filter hm)

theorem Inv.compatible_goOn (h : Inv s)
    (hlocks : ∀ l ∈ locks, l.holder = c ∧ s.isLocked c l.row l.mode = false) :
    Compatible (locks ++ s.locks) := by
  have hnew : ∀ l ∈ locks, ∀ m ∈ s.locks, l.row = m.row → l.holder ≠ m.holder →
      l.mode.conflicts m.mode = false := by
    intro l hl m hm hrow hholder
    obtain ⟨rfl, hfree⟩ := hlocks l hl
    rw [State.isLocked, List.any_eq_false] at hfree
    have := hfree m hm
    rw [conflicts_comm]
    simpa [hrow, Ne.symm hholder] using this
  intro l hl m hm hrow hholder
  obtain hl | hl := List.mem_append.mp hl <;> obtain hm | hm := List.mem_append.mp hm
  · exact absurd ((hlocks l hl).1.trans (hlocks m hm).1.symm) hholder
  · exact hnew l hl m hm hrow hholder
  · rw [conflicts_comm]
    exact hnew m hm l hl hrow.symm hholder.symm
  · exact h.compatible l hl m hm hrow hholder

/-- A call goes on. -/
theorem Inv.goOn (h : Inv s)
    (hlocks : ∀ l ∈ locks, l.holder = c ∧ s.isLocked c l.row l.mode = false)
    (hy : Sound (s.goOn c y locks) c y) : Inv (s.goOn c y locks) where
  compatible := h.compatible_goOn hlocks
  sound d z hz := by
    by_cases hd : d = c
    · subst hd
      rw [goOn_sessions_self] at hz
      cases hz
      exact hy
    · rw [goOn_sessions_of_ne hd] at hz
      exact (h.sound d z hz).spared spares_goOn
  agrees := h.agrees
  absent := h.absent

/-- A transaction ends, in a state that spares the others. -/
theorem Inv.endTransaction (hcompatible : Compatible s.locks)
    (hothers : ∀ d z, d ≠ c → s.sessions d = some z → Sound s d z)
    (hprogram : x.call.transaction = .ok x.program)
    (hagrees : ∀ w row, s.workspaces w = some row → (row.certopsPaused = true ↔ PauseStands s w))
    (habsent : ∀ w, s.workspaces w = none → lastTransition w s.audits = none) :
    Inv (s.endTransaction c x) where
  compatible := hcompatible.filter _
  sound d z hz := by
    by_cases hd : d = c
    · subst hd
      rw [endTransaction_sessions_self] at hz
      exact .begin hprogram hz
    · rw [endTransaction_sessions_of_ne hd] at hz
      exact (hothers d z hd hz).spared (spares_endTransaction hd)
  agrees := hagrees
  absent := habsent

theorem Inv.rollback (h : Inv s) (hx : Sound s c x) : Inv (s.endTransaction c x) :=
  .endTransaction h.compatible (fun d z _ hz => h.sound d z hz) hx.program h.agrees h.absent

/-! ## §5. What a statement keeps. -/

/-- A transaction whose next statement is neither the lock FOR UPDATE nor the UPDATE
    goes past it. -/
theorem Sound.past (h : Sound s c { x with rest := stmt :: x.rest }) (hupdate : stmt.isUpdate = false)
    (hlock : stmt ≠ .lockWorkspaceForUpdate)
    (hcovers : covers (stmt :: x.rest) = true → covers x.rest = true ∨ Cleared s c x) :
    Sound s c x :=
  { h with
    covered := by
      obtain ⟨hunlocked, hclaim⟩ | hcovered | hcleared := h.covered
      · exact .inl ⟨hunlocked, fun hmem => hclaim (List.mem_cons_of_mem stmt hmem)⟩
      · exact .inr (hcovers hcovered)
      · exact .inr (.inr hcleared)
    settling := by
      obtain hnone | ⟨-, p, a, hrest | ⟨hrest, -⟩⟩ := h.settling
      · exact .inl (List.forall_mem_cons.mp hnone).2
      · exact absurd (List.cons.inj hrest).1 hlock
      · rw [(List.cons.inj hrest).1] at hupdate
        cases hupdate }

theorem Sound.return (h : Sound s c { x with rest := rest }) : Sound s c x.return :=
  { h with
    covered := .inr (.inl rfl)
    settling := .inl (List.forall_mem_nil _) }

theorem Sound.read (h : Sound s c x) (hrow : s.workspaces x.workspaceId = some row) :
    Sound s c { x with workspace := some row } := by
  have howned : Owned s c x → x.workspace = some row := by
    rintro ⟨-, row', hread, hrow'⟩
    rw [hrow] at hrow'
    cases hrow'
    exact hread
  exact
    { h with
      settling := by
        obtain hnone | ⟨hset, p, a, hbefore | ⟨hbetween, hlock, -⟩⟩ := h.settling
        · exact .inl hnone
        · exact .inr ⟨hset, p, a, .inl hbefore⟩
        · exact .inr ⟨hset, p, a, .inr ⟨hbetween, hlock, row, rfl, hrow⟩⟩
      settled := fun next hnext => by
        obtain ⟨hown, haudits⟩ := h.settled next hnext
        refine ⟨⟨hown.1, row, rfl, hrow⟩, fun previous hprevious => haudits previous ?_⟩
        rw [howned hown, ← hprevious] }

theorem Sound.lockWorkspace {skipLocked : Bool}
    (h : Sound s c { x with rest := .lockWorkspace skipLocked :: x.rest })
    (hrow : s.workspaces x.workspaceId = some row) (hpaused : row.certopsPaused = false) :
    Sound (s.goOn c { x with workspace := some row } [⟨c, .workspace x.workspaceId, .share⟩]) c
      { x with workspace := some row } := by
  refine Sound.read (x := x) (Sound.past (h.spared spares_goOn)
    (rfl : Stmt.isUpdate (.lockWorkspace skipLocked) = false) nofun fun _ => ?_) hrow
  exact .inr ⟨.share, row, List.mem_cons_self, hrow, hpaused⟩

theorem Sound.lockWorkspaceForUpdate
    (h : Sound s c { x with rest := .lockWorkspaceForUpdate :: x.rest })
    (hrow : s.workspaces x.workspaceId = some row) :
    Sound (s.goOn c { x with workspace := some row } [⟨c, .workspace x.workspaceId, .update⟩]) c
      { x with workspace := some row } := by
  have hread := Sound.read (x := { x with rest := .lockWorkspaceForUpdate :: x.rest }) h hrow
  have ht := hread.spared (t := s.goOn c { x with workspace := some row }
    [⟨c, .workspace x.workspaceId, .update⟩]) spares_goOn
  exact
    { ht with
      covered := ht.covered.imp_left fun h => ⟨h.1, fun hmem => h.2 (List.mem_cons_of_mem _ hmem)⟩
      settling := by
        obtain hnone | ⟨hset, p, a, hrest | ⟨hrest, -⟩⟩ := ht.settling
        · exact .inl (List.forall_mem_cons.mp hnone).2
        · refine .inr ⟨hset, p, a, .inr ⟨(List.cons.inj hrest).2, List.mem_cons_self, row, rfl, hrow⟩⟩
        · cases (List.cons.inj hrest).1 }

/-- What the UPDATE of the workspace row finds. -/
theorem Sound.at_update {p a : Option Bool}
    (h : Sound s c { x with rest := .updateWorkspace p a :: x.rest }) :
    x.rest = [] ∧ x.setting = none ∧ Owned s c x := by
  obtain hnone | ⟨hset, p', a', hrest | ⟨hrest, howned⟩⟩ := h.settling
  · cases (List.forall_mem_cons.mp hnone).1
  · cases (List.cons.inj hrest).1
  · exact ⟨(List.cons.inj hrest).2, hset, howned⟩

theorem Sound.updateWorkspace {p a : Option Bool} {previous next : Workspace}
    (h : Sound s c { x with rest := .updateWorkspace p a :: x.rest })
    (hread : x.workspace = some previous) :
    Sound s c { x with setting := some next
                       audits := x.audits ++ transitionAudits x.workspaceId previous next } := by
  obtain ⟨hrest, hset, howned⟩ := h.at_update
  exact
    { h with
      covered := .inr (.inl (by simp only [hrest]; rfl))
      settling := .inl (by simp [hrest])
      quiet := nofun
      settled := fun row hrow => by
        cases hrow
        refine ⟨howned, fun found hfound w => ?_⟩
        have hsame : found = previous := by
          rw [hread] at hfound
          exact (Option.some.inj hfound).symm
        rw [lastTransition_append, h.quiet hset w, Option.or_none, hsame]
        exact lastTransition_transitionAudits w x.workspaceId previous next }

/-- The INSERT of a job in a transaction that is cleared once the foreign key is
    locked. -/
theorem Sound.createCertificateJob {audit : Option JobAudit} {job : Job}
    (h : Sound s c { x with rest := .createCertificateJob audit :: x.rest })
    (hjob : job.workspaceId = x.workspaceId) (hcleared : Cleared s c x) :
    Sound s c { x with
      inserted := x.inserted ++ [(id, job)]
      audits := x.audits ++ (audit.map fun a => ⟨x.workspaceId, .job a⟩).toList } := by
  have hpast : Sound s c x := h.past rfl nofun fun _ => .inr hcleared
  have haudits : ∀ w, lastTransition w (x.audits ++
      (audit.map fun a => ⟨x.workspaceId, .job a⟩).toList) = lastTransition w x.audits := by
    intro w
    rw [lastTransition_append, lastTransition_quiet, Option.none_or]
    intro row hrow
    cases audit with
    | none => cases hrow
    | some a =>
      simp only [Option.map_some, Option.toList_some, List.mem_singleton] at hrow
      subst hrow
      simp [Audit.transition]
  exact
    { hpast with
      covered := .inr (.inr hcleared)
      inserted := by
        rw [List.forall_mem_append, List.forall_mem_singleton]
        exact ⟨hpast.inserted, hjob, hcleared⟩
      quiet := fun hset w => (haudits w).trans (hpast.quiet hset w)
      settled := fun row hrow => by
        obtain ⟨howned, hlast⟩ := hpast.settled row hrow
        exact ⟨howned, fun previous hprevious w => (haudits w).trans (hlast previous hprevious w)⟩ }

theorem Sound.claimRows {rows : List (Nat × Verdict)}
    (h : Sound s c { x with rest := .claimRows :: x.rest })
    (hrows : ∀ r ∈ rows, ∃ j, s.jobs r.1 = some j ∧ j.workspaceId = x.workspaceId) :
    Sound s c { x with verdicts := rows } := by
  have hcleared : Cleared s c x := by
    obtain ⟨-, hclaim⟩ | hcovered | hcleared := h.covered
    · exact absurd List.mem_cons_self hclaim
    · cases hcovered
    · exact hcleared
  have hpast : Sound s c x := h.past rfl nofun fun _ => .inr hcleared
  exact { hpast with verdicts := fun r hr => ⟨hcleared, hrows r hr⟩ }

/-! ## §6. What a step keeps. -/

theorem isClaimable_iff : s.isClaimable c w id = true ↔
    ∃ j, s.jobs id = some j ∧ j.workspaceId = w ∧ (j.status = .pending ∨ j.status = .claimed) ∧
      s.isLocked c (.job id) .update = false := by
  unfold State.isClaimable
  cases s.jobs id <;> simp [and_assoc]

theorem Inv.unpaused (h : Inv s) (hrow : s.workspaces w = some row) (hpause : ¬ PauseStands s w) :
    row.certopsPaused = false := by
  cases hpaused : row.certopsPaused with
  | false => rfl
  | true => exact absurd ((h.agrees w row hrow).mp hpaused) hpause

/-- One statement. -/
theorem Inv.runStmt {answer : Answer} (h : Inv s)
    (hx : Sound s c { x with rest := stmt :: x.rest })
    (hheeds : ∀ audit id status, x.call.isUnlocked = true → stmt = .createCertificateJob audit →
      answer = .done id status → ¬ PauseStands s x.workspaceId)
    (hrun : runStmt s c x stmt answer = some t) : Inv t := by
  have hrollback : Inv (s.endTransaction c x) :=
    h.rollback (x := { x with rest := stmt :: x.rest }) hx
  have hreturn : Inv (s.goOn c x.return []) :=
    h.goOn (List.forall_mem_nil _) (hx.return.spared spares_goOn)
  cases answer with
  | throws =>
    cases stmt <;> cases hrun <;> exact hrollback
  | returns =>
    cases stmt <;> cases hrun
    exact hreturn
  | replayed =>
    cases stmt <;> cases hrun
    refine h.goOn (List.forall_mem_nil _) (Sound.spared ?_ spares_goOn)
    -- The stored job is another transaction's: nothing is written.
    exact
      { hx with
        covered := by
          obtain ⟨hunlocked, hclaim⟩ | hcovered | hcleared := hx.covered
          · exact .inl ⟨hunlocked, fun hmem => hclaim (List.mem_cons_of_mem _ hmem)⟩
          · cases hcovered
          · exact .inr (.inr hcleared)
        settling := by
          obtain hnone | ⟨-, p, a, hrest | ⟨hrest, -⟩⟩ := hx.settling
          · exact .inl (List.forall_mem_cons.mp hnone).2
          · cases (List.cons.inj hrest).1
          · cases (List.cons.inj hrest).1 }
  | selected rows =>
    cases stmt <;> simp only [KillSwitch.runStmt, reduceCtorEq] at hrun
    obtain ⟨hall, rfl⟩ := of_guard hrun
    rw [List.all_eq_true] at hall
    refine h.goOn ?_ (Sound.spared (hx.claimRows fun r hr => ?_) spares_goOn)
    · simp only [List.mem_map, forall_exists_index, and_imp, forall_apply_eq_imp_iff₂]
      intro r hr
      obtain ⟨-, -, -, -, hfree⟩ := isClaimable_iff.mp (hall r hr)
      exact ⟨trivial, hfree⟩
    · obtain ⟨j, hj, hw, -⟩ := isClaimable_iff.mp (hall r hr)
      exact ⟨j, hj, hw⟩
  | done id status =>
    cases stmt with
    | lockWorkspace skipLocked =>
      simp only [KillSwitch.runStmt] at hrun
      split at hrun
      · split at hrun <;> cases hrun
        exact hreturn
      · rename_i hfree
        split at hrun
        · cases hrun
          exact hrollback
        · cases hrun
          exact hreturn
        · rename_i row hlock
          cases hrun
          obtain ⟨hrow, hpaused⟩ := lockWorkspaceForCertOpsSideEffect_ok hlock
          refine h.goOn ?_ (hx.lockWorkspace hrow hpaused)
          rw [List.forall_mem_singleton]
          exact ⟨rfl, by simpa using hfree⟩
    | lockWorkspaceForUpdate =>
      obtain ⟨hfree, hrun⟩ := Option.ite_none_left_eq_some.mp hrun
      split at hrun
      · cases hrun
        exact hrollback
      · rename_i row hrow
        cases hrun
        refine h.goOn ?_ (hx.lockWorkspaceForUpdate hrow)
        rw [List.forall_mem_singleton]
        exact ⟨rfl, by simpa using hfree⟩
    | updateWorkspace p a =>
      simp only [KillSwitch.runStmt] at hrun
      split at hrun
      · cases hrun
      · rename_i previous hread
        obtain ⟨hrest, -, -⟩ := hx.at_update
        split at hrun <;> cases hrun
        · have hreturned : x.return = x := by simp [Session.return, ← hrest]
          rw [hreturned] at hreturn
          exact hreturn
        · exact h.goOn (List.forall_mem_nil _) ((hx.updateWorkspace hread).spared spares_goOn)
    | others =>
      cases hrun
      exact h.goOn (List.forall_mem_nil _) ((hx.past rfl nofun .inl).spared spares_goOn)
    | insertEnrollment =>
      obtain ⟨hfree, hrun⟩ := Option.ite_none_left_eq_some.mp hrun
      split at hrun <;> cases hrun
      · exact hrollback
      · refine h.goOn ?_ ((hx.past rfl nofun .inl).spared spares_goOn)
        rw [List.forall_mem_singleton]
        exact ⟨rfl, by simpa using hfree⟩
    | createCertificateJob audit =>
      obtain ⟨hfree, hrun⟩ := Option.ite_none_left_eq_some.mp hrun
      split at hrun <;> cases hrun
      · exact hrollback
      · rename_i hrow
        obtain ⟨row, hrow⟩ := Option.ne_none_iff_exists'.mp (by simpa using hrow)
        refine h.goOn ?_ (Sound.createCertificateJob (hx.spared spares_goOn) rfl ?_)
        · rw [List.forall_mem_singleton]
          exact ⟨rfl, by simpa using hfree⟩
        · -- Either the row was locked and read before, or the condition says what it is.
          obtain ⟨hunlocked, -⟩ | hcovered | hcleared := hx.covered
          · have hpause := hheeds audit id status hunlocked rfl rfl
            exact ⟨.keyShare, row, List.mem_cons_self, hrow, h.unpaused hrow hpause⟩
          · cases hcovered
          · exact Cleared.spared (x := x) hcleared spares_goOn
    | claimRows => cases hrun

/-- A statement makes no job visible. -/
theorem runStmt_jobs {answer : Answer} (h : runStmt s c x stmt answer = some t) : t.jobs = s.jobs := by
  cases answer <;> cases stmt <;> simp only [KillSwitch.runStmt, reduceCtorEq] at h
  all_goals
    repeat' split at h
    all_goals cases h <;> rfl

/-- Two calls hold no conflicting locks on one row. -/
theorem Inv.alone {mode : LockMode} (h : Inv s) (howned : Owned s c x) (hw : w = x.workspaceId)
    (hlock : ⟨d, .workspace w, mode⟩ ∈ s.locks) : d = c := by
  by_contra hd
  have := h.compatible _ hlock _ howned.1 (by rw [hw]) hd
  rw [conflicts_update] at this
  cases this

/-- A row that another call has locked stays as it is at a commit. -/
theorem Inv.workspacesAfter {mode : LockMode} (h : Inv s) (hx : Sound s c x) (hd : d ≠ c)
    (hlock : ⟨d, .workspace w, mode⟩ ∈ s.locks) :
    x.workspacesAfter s.workspaces w = s.workspaces w := by
  unfold Session.workspacesAfter
  cases hset : x.setting with
  | none => rfl
  | some row =>
    have hw : w ≠ x.workspaceId := fun hw => hd (h.alone (hx.settled row hset).1 hw hlock)
    exact Function.update_of_ne (β := fun _ => Option Workspace) hw _ s.workspaces

theorem judged_workspaceId (j : Job) (v : Verdict) : (j.judged v).workspaceId = j.workspaceId := by
  cases v <;> rfl

theorem jobsAfter_of_some {jobs : Nat → Option Job} {j : Job} (h : jobs id = some j) :
    x.jobsAfter jobs id = some (((x.verdicts.lookup id).map j.judged).getD j) := by
  rw [Session.jobsAfter, h]

theorem jobsAfter_workspaceId {jobs : Nat → Option Job} {j : Job} (h : jobs id = some j) :
    ∃ i, x.jobsAfter jobs id = some i ∧ i.workspaceId = j.workspaceId := by
  refine ⟨_, jobsAfter_of_some h, ?_⟩
  cases x.verdicts.lookup id with
  | none => rfl
  | some v => exact judged_workspaceId j v

theorem Inv.agrees_commit (h : Inv s) (hx : Sound s c x) (w : Nat) :
    (∀ row, x.workspacesAfter s.workspaces w = some row →
      (row.certopsPaused = true ↔ lastTransition w (s.audits ++ x.audits) = some true)) ∧
    (x.workspacesAfter s.workspaces w = none → lastTransition w (s.audits ++ x.audits) = none) := by
  rw [lastTransition_append]
  cases hset : x.setting with
  | none =>
    rw [hx.quiet hset w, Option.none_or, Session.workspacesAfter, hset]
    exact ⟨h.agrees w, h.absent w⟩
  | some next =>
    obtain ⟨⟨-, previous, hread, hrow⟩, hlast⟩ := hx.settled next hset
    rw [hlast previous hread w, Session.workspacesAfter, hset]
    by_cases hw : w = x.workspaceId
    · subst hw
      have hupdate : Function.update s.workspaces x.workspaceId (some next) x.workspaceId = some next :=
        Function.update_self (β := fun _ => Option Workspace) _ _ _
      have hagree := h.agrees _ previous hrow
      simp only [hupdate]
      refine ⟨?_, nofun⟩
      rintro row ⟨⟩
      unfold PauseStands at hagree
      by_cases hsame : previous.certopsPaused = next.certopsPaused
      · rw [if_neg fun hne => hne.2 hsame, Option.none_or, ← hsame]
        exact hagree
      · rw [if_pos ⟨trivial, hsame⟩]
        simp
    · have hupdate : Function.update s.workspaces x.workspaceId (some next) w = s.workspaces w :=
        Function.update_of_ne (β := fun _ => Option Workspace) hw _ s.workspaces
      simp only [hupdate, hw, false_and, if_false, Option.none_or]
      exact ⟨h.agrees w, h.absent w⟩

theorem Inv.commit (h : Inv s) (hx : Sound s c x) : Inv (s.commit c x) := by
  refine Inv.endTransaction h.compatible (fun d z hd hz => ?_) hx.program
    (fun w => (h.agrees_commit hx w).1) fun w => (h.agrees_commit hx w).2
  refine (h.sound d z hz).spared ⟨fun _ hl _ => hl, fun w mode row hlock hrow => ?_, fun id j hj => ?_⟩
  · exact (h.workspacesAfter hx hd hlock).trans hrow
  · exact jobsAfter_workspaceId hj

theorem Inv.begin {workspaces : List Nat} (h : Inv s) (hprogram : call.transaction = .ok program) :
    Inv { s with sessions := Function.update s.sessions c (Session.begin call program workspaces) } :=
  { h with
    sound d z hz := by
      by_cases hd : d = c
      · subst hd
        simp only [Function.update_self] at hz
        exact .begin hprogram hz
      · have hz : s.sessions d = some z := by simpa [hd] using hz
        exact (h.sound d z hz).spared ⟨fun _ hl _ => hl, fun _ _ _ _ hrow => hrow, fun _ j hj => ⟨j, hj, rfl⟩⟩ }

/-- **THE STEP LEMMA**: every step that meets the condition keeps the invariant. -/
theorem Inv.next {a : Action} (h : Inv s) (hheeds : HeedsPause s a) (hstep : next s a = some t) :
    Inv t := by
  cases a with
  | begin c call candidates =>
    simp only [KillSwitch.next] at hstep
    split at hstep
    · rename_i program _ hprogram
      cases hstep
      exact h.begin hprogram
    · cases hstep
  | run c answer =>
    simp only [KillSwitch.next] at hstep
    split at hstep
    · cases hstep
    · rename_i x hx
      split at hstep
      · cases hstep
      · rename_i stmt rest hrest
        refine Inv.runStmt (x := { x with rest }) h ?_ ?_ hstep
        · rw [← hrest]
          exact h.sound c x hx
        · rintro audit id status hunlocked rfl rfl
          have hinsert : s.unlockedInsert c = some x.workspaceId := by
            simp only [State.unlockedInsert, hx, hrest]
            exact if_pos hunlocked
          simpa [HeedsPause, heedsPause, hinsert, PauseStands] using hheeds
  | commit c =>
    simp only [KillSwitch.next] at hstep
    split at hstep
    · cases hstep
    · rename_i x hx
      split at hstep <;> cases hstep
      exact h.commit (h.sound c x hx)
  | setCertOpsEnabled enabled =>
    cases hstep
    exact
      { h with
        sound := fun d z hz => (h.sound d z hz).spared
          ⟨fun _ hl _ => hl, fun _ _ _ _ hrow => hrow, fun _ j hj => ⟨j, hj, rfl⟩⟩ }
  | createWorkspace id requireApprovalAlways =>
    obtain ⟨hnone, rfl⟩ := of_guard hstep
    rw [Option.isNone_iff_eq_none] at hnone
    have hother : ∀ w, w ≠ id → Function.update s.workspaces id (some ⟨false, requireApprovalAlways⟩) w =
        s.workspaces w :=
      fun w hw => Function.update_of_ne (β := fun _ => Option Workspace) hw _ s.workspaces
    refine ⟨h.compatible, fun d z hz => (h.sound d z hz).spared
      ⟨fun _ hl _ => hl, fun w _ row _ hrow => ?_, fun _ j hj => ⟨j, hj, rfl⟩⟩, fun w row hrow => ?_,
      fun w hw => ?_⟩
    · rw [← hrow]
      exact hother w fun hw => by simp [hw, hnone] at hrow
    · by_cases hw : w = id
      · subst hw
        simp only [Function.update_self, Option.some.injEq] at hrow
        subst hrow
        simp [PauseStands, h.absent w hnone]
      · exact h.agrees w row ((hother w hw).symm.trans hrow)
    · by_cases hwid : w = id
      · subst hwid
        simp at hw
      · exact h.absent w ((hother w hwid).symm.trans hw)
  | writeJob id status =>
    simp only [KillSwitch.next] at hstep
    split at hstep
    · cases hstep
    · rename_i j hj
      split at hstep <;> cases hstep
      refine ⟨h.compatible, fun d z hz => (h.sound d z hz).spared
        ⟨fun _ hl _ => hl, fun _ _ _ _ hrow => hrow, fun k i hi => ?_⟩, h.agrees, h.absent⟩
      by_cases hk : k = id
      · subst hk
        rw [hj] at hi
        cases hi
        exact ⟨_, Function.update_self (β := fun _ => Option Job) .., rfl⟩
      · exact ⟨i, (Function.update_of_ne (β := fun _ => Option Job) hk _ _).trans hi, rfl⟩

theorem Inv.of_initial (h : s.Initial) : Inv s where
  compatible := by
    rw [h.locks]
    exact nofun
  sound c x hx := by
    rw [h.sessions] at hx
    cases hx
  agrees w row hrow := by
    rw [h.workspaces w row hrow, PauseStands, h.audits]
    exact ⟨nofun, nofun⟩
  absent w _ := by
    rw [h.audits]
    rfl

theorem Inv.of_reachable (h : Reachable killSwitch HeedsPause s) : Inv s :=
  h.invariant (fun _ => Inv.of_initial) fun _ _ _ hI hok hstep => hI.next hok hstep

/-! ## §7. The claim. -/

theorem mem_of_lookup_eq_some {β : Type} {rows : List (Nat × β)} {b : β} (h : rows.lookup id = some b) :
    (id, b) ∈ rows := by
  obtain ⟨before, after, rfl, -⟩ := List.lookup_eq_some_iff.mp h
  exact List.mem_append_right before List.mem_cons_self

theorem Inv.cleared_of_startsWork (hx : Sound s c x) (h : StartsWork s (s.commit c x) w) :
    x.workspaceId = w ∧ Cleared s c x := by
  obtain ⟨id, j, hj, rfl, hnew | ⟨i, hi, hclaimed, hne⟩⟩ := h
  · have hmem : (id, j) ∈ x.inserted := by
      simp only [State.commit, State.endTransaction, Session.jobsAfter, hnew] at hj
      exact mem_of_lookup_eq_some hj
    exact ⟨(hx.inserted _ hmem).1.symm, (hx.inserted _ hmem).2⟩
  · simp only [State.commit, State.endTransaction, jobsAfter_of_some hi, Option.some.injEq] at hj
    cases hverdict : x.verdicts.lookup id with
    | none =>
      rw [hverdict] at hj
      exact absurd hj hne
    | some v =>
      obtain ⟨hcleared, k, hk, hw⟩ := hx.verdicts (id, v) (mem_of_lookup_eq_some hverdict)
      rw [hi] at hk
      cases hk
      rw [hverdict] at hj
      have hj : i.judged v = j := hj
      refine ⟨?_, hcleared⟩
      rw [← hw, ← hj, judged_workspaceId]

theorem startsWork_commit {a : Action} (hstep : next s a = some t) (h : StartsWork s t w) :
    ∃ c x, s.sessions c = some x ∧ t = s.commit c x := by
  have hsame : t.jobs ≠ s.jobs := by
    intro hjobs
    obtain ⟨id, j, hj, -, hnew | ⟨i, hi, -, hne⟩⟩ := h
    · rw [hjobs, hnew] at hj
      cases hj
    · rw [hjobs, hi] at hj
      exact hne (Option.some.inj hj)
  cases a with
  | begin | createWorkspace =>
    simp only [KillSwitch.next] at hstep
    split at hstep <;> cases hstep
    exact absurd rfl hsame
  | run c answer =>
    simp only [KillSwitch.next] at hstep
    split at hstep
    · cases hstep
    · split at hstep
      · cases hstep
      · exact absurd (runStmt_jobs hstep) hsame
  | commit c =>
    simp only [KillSwitch.next] at hstep
    split at hstep
    · cases hstep
    · rename_i x hx
      split at hstep <;> cases hstep
      exact ⟨c, x, hx, rfl⟩
  | setCertOpsEnabled enabled =>
    cases hstep
    exact absurd rfl hsame
  | writeJob id status =>
    simp only [KillSwitch.next] at hstep
    split at hstep
    · cases hstep
    · rename_i j hj
      split at hstep <;> cases hstep
      rename_i hguard
      have hself : Function.update s.jobs id (some { j with status }) id = some { j with status } :=
        Function.update_self (β := fun _ => Option Job) _ _ _
      have hother : ∀ k, k ≠ id → Function.update s.jobs id (some { j with status }) k = s.jobs k :=
        fun k hk => Function.update_of_ne (β := fun _ => Option Job) hk _ _
      obtain ⟨k, i, hi, -, hwork⟩ := h
      by_cases hk : k = id
      · subst hk
        cases hself.symm.trans hi
        obtain hnew | ⟨l, -, hclaimed, -⟩ := hwork
        · cases hj.symm.trans hnew
        · exact absurd (.inl hclaimed) hguard
      · have hi : s.jobs k = some i := (hother k hk).symm.trans hi
        obtain hnew | ⟨l, hl, -, hne⟩ := hwork
        · cases hi.symm.trans hnew
        · exact absurd (Option.some.inj (hl.symm.trans hi)) hne

/-- **THE KILL SWITCH**: in a run whose INSERTs without the lock heed the pause, no
    step inserts a job of a workspace whose pause stands, or moves one to `claimed`. -/
theorem no_work_while_paused {s₀ : State} {steps : List (Stepped State Action)}
    (h : Trace killSwitch s₀ steps t) (hinit : s₀.Initial)
    (hheeds : ∀ e ∈ steps, HeedsPause e.before e.label) :
    ∀ e ∈ steps, ∀ w, PauseStands e.before w → ¬ StartsWork e.before e.after w := by
  refine h.forall_step_within hinit hheeds fun e hreach _ hstep w hpause hwork => ?_
  have hI : Inv e.before := .of_reachable hreach
  obtain ⟨c, x, hx, hafter⟩ := startsWork_commit hstep hwork
  rw [hafter] at hwork
  obtain ⟨rfl, mode, row, -, hrow, hunpaused⟩ := Inv.cleared_of_startsWork (hI.sound c x hx) hwork
  rw [(hI.agrees _ row hrow).mpr hpause] at hunpaused
  cases hunpaused

def sample : State where
  certOpsEnabled := true
  workspaces id := if id < 2 then some ⟨false, false⟩ else none
  jobs _ := none
  audits := []
  locks := []
  sessions _ := none

theorem sample_initial : sample.Initial where
  sessions _ := rfl
  locks := rfl
  audits := rfl
  workspaces id row h := by
    simp only [sample, Option.ite_none_right_eq_some] at h
    rw [← Option.some.inj h.2]

def goesOn (c : Nat) : Action := .run c (.done 0 .pending)

def pauseBy (c : Nat) : List Action :=
  [.begin c (.setWorkspaceCertOpsPauseState 0 (.bool true) .null) [], goesOn c, goesOn c, .commit c]

/-- A job is made while the pause waits for it; then the pause, a refused job, a
    refused claim, and a due enrollment of the other workspace. -/
def pausedInTime : List Action :=
  [.begin 1 (.createManualCertificateJob 0) [], goesOn 1, .run 1 (.done 7 .pending), goesOn 1,
      .commit 1] ++
    pauseBy 2 ++
    [.begin 3 (.createManualCertificateJob 0) [], goesOn 3,
      .begin 4 (.claimJobs 0) [], goesOn 4, goesOn 4,
      .begin 5 .scheduleDueEnrollments [1], goesOn 5, .run 5 (.done 8 .pending), goesOn 5, .commit 5]

theorem no_work_while_paused_demo :
    ∃ steps t, Trace killSwitch sample steps t ∧ PauseStands t 0 ∧ (t.jobs 7).isSome = true ∧
      (t.jobs 8).isSome = true ∧
      ∀ e ∈ steps, ∀ w, PauseStands e.before w → ¬ StartsWork e.before e.after w := by
  have hplay : ((traceOf next pausedInTime ([], sample)).any fun r =>
      r.1.all (fun e => heedsPause e.before e.label) && lastTransition 0 r.2.audits = some true &&
        (r.2.jobs 7).isSome && (r.2.jobs 8).isSome) = true := by decide +kernel
  rw [Option.any_eq_true] at hplay
  obtain ⟨⟨steps, t⟩, hsteps, hcheck⟩ := hplay
  simp only [Bool.and_eq_true, decide_eq_true_eq, List.all_eq_true] at hcheck
  obtain ⟨⟨⟨hheeds, hpause⟩, h7⟩, h8⟩ := hcheck
  have htrace : Trace killSwitch sample steps t := .of_traceOf (fun _ _ _ h => h) .nil hsteps
  exact ⟨steps, t, htrace, hpause, h7, h8, no_work_while_paused htrace sample_initial hheeds⟩

/-- The pause commits, and then an enrollment that is due gets its job. -/
def pausedThenDue : List Action :=
  pauseBy 1 ++ [.begin 2 .scheduleDueEnrollments [0], goesOn 2, .run 2 (.done 7 .pending), goesOn 2,
    .commit 2]

theorem due_enrollment_starts_work :
    ¬ ∀ s₀ steps t, Trace killSwitch s₀ steps t → s₀.Initial →
      ∀ e ∈ steps, ∀ w, PauseStands e.before w → ¬ StartsWork e.before e.after w := by
  intro hclaim
  have hplay : ((traceOf next pausedThenDue ([], sample)).any fun r =>
      r.1.any fun e => decide (lastTransition 0 e.before.audits = some true) &&
        (e.before.jobs 7).isNone && (e.after.jobs 7).any fun j => j.workspaceId = 0) = true := by
    decide +kernel
  rw [Option.any_eq_true] at hplay
  obtain ⟨⟨steps, t⟩, hsteps, hcheck⟩ := hplay
  obtain ⟨e, he, hcheck⟩ := List.any_eq_true.mp hcheck
  simp only [Bool.and_eq_true, decide_eq_true_eq, Option.isNone_iff_eq_none, Option.any_eq_true] at hcheck
  obtain ⟨⟨hpause, hnew⟩, j, hj, hw⟩ := hcheck
  exact hclaim sample steps t (.of_traceOf (fun _ _ _ h => h) .nil hsteps) sample_initial e he 0 hpause
    ⟨7, j, hj, hw, .inl hnew⟩

end TokenTimer.CertOps.KillSwitch
