/-
  TokenTimer.CertOps.Moves — what ONE statement group of a transaction can do.

  Every transaction of the control plane is a sequence of MOVES: a job row steps
  forward together with its nonces, a trust job is created together with the
  advance of its reference, a reference is released, settled or unwound, and so
  on.  A move says everything an invariant needs about the change, guards
  included; which SQL statement made it no longer matters.

  A move that a run condition may forbid carries the permission of its `Regime`:
  the invariant proofs pick the regime, the refinement of each transaction shows
  it.

  Main results:
    * `WellFormed` and `Move.wellFormed` — the keys of the tables stay keys.
    * `Move.job_forward`, `Move.job_origin` — a job steps forward or stays; a row
      that was not there before is a new job.
-/

import Mathlib.Logic.Relation
import TokenTimer.CertOps.System

namespace TokenTimer.CertOps

open Lib.Table

/-! ## §1. A job steps forward. -/

/-- What a run allows beyond the code's own guards, and the window a dispatch
    nonce must outlive its lease by. -/
structure Regime where
  windowMs : Nat
  /-- A dry-run job may reach `awaiting_issuer`. -/
  dryAwait : Prop
  /-- The reference may be settled as installed, given the jobs and references. -/
  install : List JobRow → List InstallationRow → InstallationRow → Prop
  /-- The nonce may be swept, given the jobs. -/
  sweep : List JobRow → NonceRow → Prop

/-- No condition. -/
def Regime.any (windowMs : Nat) : Regime :=
  { windowMs := windowMs, dryAwait := True, install := fun _ _ _ => True
    sweep := fun _ _ => True }

/-- The statuses from which a claim can still hand a job out. -/
def JobStatus.dispatchable (status : JobStatus) : Bool :=
  !isTerminalJobStatus status && (status ≠ .running : Bool)

/-- The status a mode may carry. -/
structure ModeAllows (R : Regime) (mode : JobMode) (status : JobStatus) : Prop where
  dryRun : mode = .dryRun → status ≠ .succeeded
  real : mode = .real → status ≠ .dryRunComplete
  await : mode = .dryRun → status = .awaitingIssuer → R.dryAwait

/-- ONE STEP OF A JOB: the INSERT columns stay, a terminal row never steps, a
    running row only runs on or ends. -/
structure JobStep (R : Regime) (j j' : JobRow) : Prop where
  spec : j'.toJobSpec = j.toJobSpec
  live : isTerminalJobStatus j.status = false
  forward : j.status = .running → j'.status = .running ∨ isTerminalJobStatus j'.status = true
  allowed : ModeAllows R j.mode j'.status

/-- A row the INSERT may write. -/
structure NewJob (R : Regime) (job : JobRow) : Prop where
  unclaimed : job.claimId = none
  allowed : ModeAllows R job.mode job.status

def replaceJob (new : JobRow) (jobs : List JobRow) : List JobRow :=
  replaceByKey (fun j : JobRow => j.id) new jobs

def JobRow.claim (j : JobRow) : Option Nat × Option Nat × Option Nat :=
  (j.claimId, j.claimedByAgentId, j.leaseExpiresAt)

/-- What the step from `j` to `j'` does to the nonce ledger: the counter and the
    ledger it leaves. -/
inductive NonceMove (R : Regime) (db : Db) (j j' : JobRow) : Nat → List NonceRow → Prop
  /-- The claim is kept, or given up, or the job ends with it. -/
  | keep (id : Nat) (hid : db.nextId ≤ id)
      (hclaim : j'.claim = j.claim ∨ j'.claimId = none ∨
        (isTerminalJobStatus j'.status = true ∧ j'.claimId = j.claimId)) :
      NonceMove R db j j' id db.nonces
  /-- A dispatch: a fresh claim and its nonce. -/
  | claim (agent lease expiry : Nat)
      (hfrom : j.status = .pending ∨ j.status = .claimed)
      (hstatus : j'.status = .claimed)
      (hclaim : j'.claim = (some db.nextId, some agent, some lease))
      (hwindow : lease + R.windowMs ≤ expiry) :
      NonceMove R db j j' (db.nextId + 2)
        (db.nonces ++ [dispatchNonce ⟨agent, j.workspaceId⟩ j.id db.nextId (db.nextId + 1) expiry])
  /-- A renewal: the lease and every open nonce of the claim move on. -/
  | extend (agent lease expiry : Nat)
      (howner : j.claimedByAgentId = some agent)
      (hstatus : j'.status = .running)
      (hclaim : j'.claim = (j.claimId, some agent, some lease))
      (hwindow : lease + R.windowMs ≤ expiry) :
      NonceMove R db j j' db.nextId
        (extendJobNonceExpiry j.id j.workspaceId agent expiry db).nonces
  /-- A result: open nonces of the job are consumed and the job ends. -/
  | consume (p : NonceRow → Bool)
      (hopen : ∀ n, p n = true → n.consumedAt = none ∧ n.jobId = j.id)
      (hend : isTerminalJobStatus j'.status = true) (hclaim : j'.claimId = j.claimId) :
      NonceMove R db j j' db.nextId
        (updateWhere p (fun n => { n with consumedAt := some db.now }) db.nonces)

/-! ## §2. A reference changes. -/

/-- The columns that say WHICH reference a row is. -/
structure SameReference (row row' : InstallationRow) : Prop where
  id : row'.id = row.id
  key : row'.key = row.key
  anchor : row'.trustAnchorId = row.trustAnchorId

def replaceRow (new : InstallationRow) (rows : List InstallationRow) : List InstallationRow :=
  replaceByKey InstallationRow.id new rows

/-- Another owner's reference of the tuple is confirmed present. -/
def OtherLive (db : Db) (row : InstallationRow) : Prop :=
  ∃ r ∈ db.installations, r.tuple = row.tuple ∧ r.id ≠ row.id ∧
    confirmedLive r.transitionState = true

/-- Some reference of the tuple records a mutation by TokenTimer. -/
def Genuine (db : Db) (tuple : TrustTuple) : Prop :=
  ∃ r ∈ db.installations, r.tuple = tuple ∧ r.provenance = .tokentimerInstalled

/-- The reference after the creation of its job. -/
structure Advanced (row row' : InstallationRow) (job : JobRow) : Prop where
  same : SameReference row row'
  state : row'.transitionState = nextTransitionState job.operation
  provenance : row'.provenance = row.provenance
  lastJob : row'.lastJobId = some job.id

structure TrustJobFor (row : InstallationRow) (job : JobRow) : Prop where
  trust : isTrustAnchorOperation job.operation = true
  workspace : job.workspaceId = row.workspaceId
  agent : job.assignedAgentId = some row.agentId

/-- A reference that keeps its last job and provenance and moves to `state`. -/
structure Restated (row row' : InstallationRow) (state : TransitionState) : Prop where
  same : SameReference row row'
  state : row'.transitionState = state
  provenance : row'.provenance = row.provenance
  lastJob : row'.lastJobId = row.lastJobId

/-- The reference after a result of its job. -/
structure Settled (row row' : InstallationRow) (job : JobRow) : Prop where
  same : SameReference row row'
  lastJob : row'.lastJobId = row.lastJobId
  install : job.operation = .distributeTrust → row'.transitionState = .installed
  remove : job.operation = .revokeTrust →
    row'.transitionState = .removed ∧ row'.provenance = row.provenance

/-! ## §3. Moves. -/

/-- **ONE MOVE OF THE CONTROL PLANE.** -/
inductive Move (R : Regime) (db : Db) : Db → Prop
  /-- Clock, agents, workspaces, anchors; the release ledger only grows. -/
  | frame {db' : Db} (hnow : db.now ≤ db'.now) (hid : db.nextId ≤ db'.nextId)
      (hjobs : db'.jobs = db.jobs) (hnonces : db'.nonces = db.nonces)
      (hrows : db'.installations = db.installations)
      (hledger : ∀ x ∈ db.releases, x ∈ db'.releases) : Move R db db'
  /-- A job that is no trust job is created. -/
  | create (job : JobRow) (hid : job.id = db.nextId) (hnew : NewJob R job)
      (hother : isTrustAnchorOperation job.operation = false) :
      Move R db { db with nextId := db.nextId + 1, jobs := db.jobs ++ [job] }
  /-- A job steps, its nonces with it. -/
  | job {j j' : JobRow} {id : Nat} {nonces : List NonceRow} (hj : j ∈ db.jobs)
      (hstep : JobStep R j j') (hnonce : NonceMove R db j j' id nonces) :
      Move R db { db with nextId := id, jobs := replaceJob j' db.jobs, nonces := nonces }
  /-- Nonces are swept. -/
  | sweep (p : NonceRow → Bool) (hp : ∀ n ∈ db.nonces, p n = true → R.sweep db.jobs n) :
      Move R db { db with nonces := deleteWhere p db.nonces }
  /-- A reference is inserted. -/
  | addRow (row : InstallationRow) (hid : row.id = db.nextId)
      (hkey : ∀ r ∈ db.installations, r.key ≠ row.key)
      (hstate : row.transitionState = .pendingInstall) (hprov : row.provenance = .preexisting)
      (hlast : row.lastJobId = none) :
      Move R db
        { db with nextId := db.nextId + 1, installations := db.installations ++ [row] }
  /-- A trust job is created and its reference advanced.  A revoke needs the last
      confirmed reference of material that TokenTimer installed. -/
  | trustJob (row row' : InstallationRow) (job : JobRow) (hrow : row ∈ db.installations)
      (hid : job.id = db.nextId) (hnew : NewJob R job) (hfor : TrustJobFor row job)
      (hadv : Advanced row row' job)
      (hrevoke : job.operation = .revokeTrust →
        row.transitionState ≠ .removed ∧ ¬ OtherLive db row ∧ Genuine db row.tuple) :
      Move R db
        { db with
          nextId := db.nextId + 1
          jobs := db.jobs ++ [job]
          installations := replaceRow row' db.installations }
  /-- A reference is released without a job. -/
  | release (row row' : InstallationRow) (hrow : row ∈ db.installations)
      (hrel : Restated row row' .removed)
      (hwhy : OtherLive db row ∨ ¬ Genuine db row.tuple) :
      Move R db { db with installations := replaceRow row' db.installations }
  /-- A result ends the job and settles its reference. -/
  | settle {j j' : JobRow} {id : Nat} {nonces : List NonceRow} (row row' : InstallationRow)
      (hj : j ∈ db.jobs) (hflight : j.status.inFlight = true) (hstep : JobStep R j j')
      (hend : isTerminalJobStatus j'.status = true)
      (hnonce : NonceMove R db j j' id nonces)
      (hrow : row ∈ db.installations) (hlast : row.lastJobId = some j.id)
      (hset : Settled row row' j)
      (htrust : isTrustAnchorOperation j.operation = true)
      (hinstall : j.operation = .distributeTrust → R.install db.jobs db.installations row) :
      Move R db
        { db with
          nextId := id
          jobs := replaceJob j' db.jobs
          nonces := nonces
          installations := replaceRow row' db.installations }
  /-- The pending install of an ended job is deleted. -/
  | unwindDelete (row : InstallationRow) (j : JobRow) (hrow : row ∈ db.installations)
      (hj : j ∈ db.jobs) (hend : isTerminalJobStatus j.status = true)
      (hlast : row.lastJobId = some j.id) (hstate : row.transitionState = .pendingInstall) :
      Move R db { db with installations := deleteWhere (fun r => r.id = row.id) db.installations }
  /-- The pending removal of an ended job is reverted. -/
  | unwindRevert (row row' : InstallationRow) (j : JobRow) (hrow : row ∈ db.installations)
      (hj : j ∈ db.jobs) (hend : isTerminalJobStatus j.status = true)
      (hlast : row.lastJobId = some j.id) (hstate : row.transitionState = .pendingRemove)
      (hrev : Restated row row' .installed) :
      Move R db { db with installations := replaceRow row' db.installations }
  /-- A reference is annotated: attempt, error and reconcile columns only. -/
  | note (row row' : InstallationRow) (hrow : row ∈ db.installations)
      (hnote : Restated row row' row.transitionState) :
      Move R db { db with installations := replaceRow row' db.installations }

/-- A finite sequence of moves. -/
def Moves (R : Regime) : Db → Db → Prop :=
  Relation.ReflTransGen (Move R)

variable {db db' : Db} {j j' : JobRow} {rows : List InstallationRow} {jobs : List JobRow}
  {nonces : List NonceRow} {m n : Nat} {R : Regime}

theorem Moves.refl (db : Db) : Moves R db db :=
  Relation.ReflTransGen.refl

theorem Moves.single (h : Move R db db') : Moves R db db' :=
  Relation.ReflTransGen.single h

theorem Moves.trans {a b c : Db} (h₁ : Moves R a b) (h₂ : Moves R b c) :
    Moves R a c :=
  Relation.ReflTransGen.trans h₁ h₂

/-- **THE INVARIANT RULE OF MOVES**: what each move keeps, a transaction keeps. -/
theorem Moves.invariant {I : Db → Prop} (h : Moves R db db') (hmove : ∀ a b, I a → Move R a b → I b)
    (hI : I db) : I db' := by
  induction h with
  | refl => exact hI
  | tail _ hm ih => exact hmove _ _ ih hm

/-! ## §4. The keys of the tables. -/

/-- Job ids are a key, and every identifier in the table has been drawn. -/
structure JobsKeyed (jobs : List JobRow) (nextId : Nat) : Prop where
  key : KeyNodup (fun j : JobRow => j.id) jobs
  fresh : ∀ j ∈ jobs, j.id < nextId
  claimFresh : ∀ j ∈ jobs, ∀ c, j.claimId = some c → c < nextId

/-- Nonces are a key, and every nonce was issued to an agent. -/
structure NoncesKeyed (nonces : List NonceRow) (nextId : Nat) : Prop where
  key : KeyNodup NonceRow.nonce nonces
  fresh : ∀ n ∈ nonces, n.nonce < nextId ∧ n.claimId < nextId
  issued : ∀ n ∈ nonces, n.issuedToAgentId.isSome = true

/-- Ids, unique index and last jobs of the references are keys. -/
structure RowsKeyed (rows : List InstallationRow) (nextId : Nat) : Prop where
  key : KeyNodup InstallationRow.id rows
  unique : KeyNodup InstallationRow.key rows
  fresh : ∀ r ∈ rows, r.id < nextId
  lastFresh : ∀ r ∈ rows, ∀ i, r.lastJobId = some i → i < nextId
  lastUnique : ∀ r ∈ rows, ∀ r' ∈ rows, ∀ i, r.lastJobId = some i → r'.lastJobId = some i → r = r'

/-- The keys of all tables. -/
structure WellFormed (db : Db) : Prop where
  jobs : JobsKeyed db.jobs db.nextId
  nonces : NoncesKeyed db.nonces db.nextId
  rows : RowsKeyed db.installations db.nextId

theorem JobsKeyed.mono (h : JobsKeyed jobs n) (hnm : n ≤ m) :
    JobsKeyed jobs m :=
  ⟨h.key, fun j hj => (h.fresh j hj).trans_le hnm,
    fun j hj c hc => (h.claimFresh j hj c hc).trans_le hnm⟩

theorem JobsKeyed.append (h : JobsKeyed jobs n) {job : JobRow} (hid : job.id = n)
    (hclaim : job.claimId = none) : JobsKeyed (jobs ++ [job]) (n + 1) := by
  refine ⟨keyNodup_append_singleton h.key ?_, ?_, ?_⟩
  · intro x hx
    have := h.fresh x hx
    omega
  · intro j hj
    rw [List.mem_append, List.mem_singleton] at hj
    obtain hj | rfl := hj
    · have := h.fresh j hj
      omega
    · omega
  · intro j hj c hc
    rw [List.mem_append, List.mem_singleton] at hj
    obtain hj | rfl := hj
    · have := h.claimFresh j hj c hc
      omega
    · rw [hclaim] at hc
      cases hc

theorem JobsKeyed.replace (h : JobsKeyed jobs n) (hnm : n ≤ m) (hj : j ∈ jobs) (hid : j'.id = j.id)
    (hclaim : ∀ c, j'.claimId = some c → c < m) : JobsKeyed (replaceJob j' jobs) m := by
  refine ⟨keyNodup_replaceByKey h.key, ?_, ?_⟩
  · intro x hx
    obtain ⟨hx, -⟩ | ⟨rfl, -⟩ := mem_replaceByKey.mp hx
    · exact (h.fresh x hx).trans_le hnm
    · rw [hid]
      exact (h.fresh j hj).trans_le hnm
  · intro x hx c hc
    obtain ⟨hx, -⟩ | ⟨rfl, -⟩ := mem_replaceByKey.mp hx
    · exact (h.claimFresh x hx c hc).trans_le hnm
    · exact hclaim c hc

/-- An update of the ledger that keeps nonce, claim and agent keeps its key. -/
theorem NoncesKeyed.update (h : NoncesKeyed nonces n) {p : NonceRow → Bool} {f : NonceRow → NonceRow}
    (hf : ∀ x, (f x).nonce = x.nonce ∧ (f x).claimId = x.claimId ∧ (f x).issuedToAgentId = x.issuedToAgentId) :
    NoncesKeyed (updateWhere p f nonces) n := by
  have horig : ∀ x ∈ updateWhere p f nonces, ∃ y ∈ nonces, x.nonce = y.nonce ∧
      x.claimId = y.claimId ∧ x.issuedToAgentId = y.issuedToAgentId := by
    intro x hx
    obtain ⟨y, hy, rfl⟩ := mem_updateWhere.mp hx
    by_cases hp : p y
    · exact ⟨y, hy, by simpa [hp] using hf y⟩
    · exact ⟨y, hy, by simp [hp]⟩
  refine ⟨keyNodup_updateWhere (fun x => (hf x).1) h.key, ?_, ?_⟩
  · intro x hx
    obtain ⟨y, hy, h₁, h₂, -⟩ := horig x hx
    rw [h₁, h₂]
    exact h.fresh y hy
  · intro x hx
    obtain ⟨y, hy, -, -, h₃⟩ := horig x hx
    rw [h₃]
    exact h.issued y hy

theorem NoncesKeyed.mono (h : NoncesKeyed nonces n) (hnm : n ≤ m) : NoncesKeyed nonces m :=
  ⟨h.key, fun x hx => ⟨(h.fresh x hx).1.trans_le hnm, (h.fresh x hx).2.trans_le hnm⟩, h.issued⟩

theorem RowsKeyed.mono (h : RowsKeyed rows n) (hnm : n ≤ m) : RowsKeyed rows m :=
  ⟨h.key, h.unique, fun r hr => (h.fresh r hr).trans_le hnm,
    fun r hr i hi => (h.lastFresh r hr i hi).trans_le hnm, h.lastUnique⟩

theorem RowsKeyed.append (h : RowsKeyed rows n) {row : InstallationRow} (hid : row.id = n)
    (hkey : ∀ r ∈ rows, r.key ≠ row.key) (hlast : row.lastJobId = none) :
    RowsKeyed (rows ++ [row]) (n + 1) := by
  have hmem : ∀ r ∈ rows ++ [row], r ∈ rows ∨ r = row := by
    intro r hr
    simpa [List.mem_append] using hr
  refine ⟨keyNodup_append_singleton h.key ?_, keyNodup_append_singleton h.unique hkey, ?_, ?_, ?_⟩
  · intro x hx
    have := h.fresh x hx
    omega
  · intro r hr
    obtain hr | rfl := hmem r hr
    · have := h.fresh r hr
      omega
    · omega
  · intro r hr i hi
    obtain hr | rfl := hmem r hr
    · have := h.lastFresh r hr i hi
      omega
    · rw [hlast] at hi
      cases hi
  · intro r hr r' hr' i hi hi'
    -- The inserted row has no last job, so it shares none.
    obtain hr | rfl := hmem r hr
    · obtain hr' | rfl := hmem r' hr'
      · exact h.lastUnique r hr r' hr' i hi hi'
      · rw [hlast] at hi'
        cases hi'
    · rw [hlast] at hi
      cases hi

theorem RowsKeyed.replace (h : RowsKeyed rows n) (hnm : n ≤ m) {row row' : InstallationRow}
    (hrow : row ∈ rows) (hsame : SameReference row row')
    (hlast : row'.lastJobId = row.lastJobId ∨ (row'.lastJobId = some n ∧ n < m)) :
    RowsKeyed (replaceRow row' rows) m := by
  have hmem : ∀ r ∈ replaceRow row' rows, (r ∈ rows ∧ r.id ≠ row.id) ∨ r = row' := by
    intro r hr
    obtain ⟨hr, hne⟩ | ⟨rfl, -⟩ := mem_replaceByKey.mp hr
    · exact .inl ⟨hr, by rwa [hsame.id] at hne⟩
    · exact .inr rfl
  -- A row other than `row` never shares the last job of `row'`.
  have hother : ∀ r ∈ rows, r.id ≠ row.id → ∀ i, r.lastJobId = some i → row'.lastJobId ≠ some i := by
    intro r hr hne i hi hi'
    obtain hl | ⟨hl, -⟩ := hlast
    · rw [hl] at hi'
      exact hne (congrArg _ (h.lastUnique r hr row hrow i hi hi'))
    · rw [hl] at hi'
      have := h.lastFresh r hr i hi
      cases hi'
      omega
  refine ⟨keyNodup_replaceByKey h.key,
    keyNodup_replaceByKey_of_eq h.key h.unique hrow hsame.id hsame.key, ?_, ?_, ?_⟩
  · intro r hr
    obtain ⟨hr, -⟩ | rfl := hmem r hr
    · exact (h.fresh r hr).trans_le hnm
    · rw [hsame.id]
      exact (h.fresh row hrow).trans_le hnm
  · intro r hr i hi
    obtain ⟨hr, -⟩ | rfl := hmem r hr
    · exact (h.lastFresh r hr i hi).trans_le hnm
    · obtain hl | ⟨hl, hlt⟩ := hlast
      · rw [hl] at hi
        exact (h.lastFresh row hrow i hi).trans_le hnm
      · rw [hl] at hi
        cases hi
        exact hlt
  · intro r hr r' hr' i hi hi'
    obtain ⟨hold, hne⟩ | heq := hmem r hr
    · obtain ⟨hold', -⟩ | heq' := hmem r' hr'
      · exact h.lastUnique r hold r' hold' i hi hi'
      · exact absurd (heq' ▸ hi') (hother r hold hne i hi)
    · obtain ⟨hold', hne'⟩ | heq' := hmem r' hr'
      · exact absurd (heq ▸ hi) (hother r' hold' hne' i hi')
      · exact heq.trans heq'.symm

theorem RowsKeyed.delete (h : RowsKeyed rows n) (p : InstallationRow → Bool) :
    RowsKeyed (deleteWhere p rows) n :=
  ⟨keyNodup_deleteWhere h.key, keyNodup_deleteWhere h.unique,
    fun r hr => h.fresh r (mem_deleteWhere.mp hr).1,
    fun r hr => h.lastFresh r (mem_deleteWhere.mp hr).1,
    fun r hr r' hr' => h.lastUnique r (mem_deleteWhere.mp hr).1 r' (mem_deleteWhere.mp hr').1⟩

/-- The ledger, the counter and the claim after a step of a job. -/
theorem NonceMove.keyed {id : Nat} (h : NonceMove R db j j' id nonces) (hj : j ∈ db.jobs)
    (hwf : WellFormed db) :
    db.nextId ≤ id ∧ NoncesKeyed nonces id ∧ ∀ c, j'.claimId = some c → c < id := by
  have hold : ∀ c, j.claimId = some c → c < db.nextId := hwf.jobs.claimFresh j hj
  cases h with
  | keep id hid hclaim =>
    refine ⟨hid, hwf.nonces.mono hid, ?_⟩
    intro c hc
    have hsame : j'.claimId = j.claimId := by
      obtain hcl | hcl | ⟨-, hcl⟩ := hclaim
      · exact congrArg Prod.fst hcl
      · rw [hcl] at hc
        cases hc
      · exact hcl
    exact (hold c (hsame ▸ hc)).trans_le hid
  | claim agent lease expiry hfrom hstatus hclaim hwindow =>
    refine ⟨by omega, ⟨keyNodup_append_singleton hwf.nonces.key ?_, ?_, ?_⟩, ?_⟩
    · intro x hx
      have hlt : x.nonce < db.nextId := (hwf.nonces.fresh x hx).1
      show x.nonce ≠ db.nextId + 1
      omega
    · intro x hx
      rw [List.mem_append, List.mem_singleton] at hx
      obtain hx | rfl := hx
      · have hlt := hwf.nonces.fresh x hx
        omega
      · show db.nextId + 1 < db.nextId + 2 ∧ db.nextId < db.nextId + 2
        omega
    · intro x hx
      rw [List.mem_append, List.mem_singleton] at hx
      obtain hx | rfl := hx
      · exact hwf.nonces.issued x hx
      · rfl
    · intro c hc
      have hid : j'.claimId = some db.nextId := congrArg Prod.fst hclaim
      rw [hid] at hc
      cases hc
      omega
  | extend agent lease expiry howner hstatus hclaim hwindow =>
    refine ⟨le_rfl, hwf.nonces.update fun x => ⟨rfl, rfl, rfl⟩, ?_⟩
    intro c hc
    have hid : j'.claimId = j.claimId := congrArg Prod.fst hclaim
    exact hold c (hid ▸ hc)
  | consume p hopen hend hclaim =>
    exact ⟨le_rfl, hwf.nonces.update fun x => ⟨rfl, rfl, rfl⟩, fun c hc => hold c (hclaim ▸ hc)⟩

/-- **EVERY MOVE KEEPS THE KEYS.** -/
theorem Move.wellFormed (h : Move R db db') (hwf : WellFormed db) :
    WellFormed db' := by
  cases h with
  | frame hnow hid hjobs hnonces hrows hledger =>
    refine ⟨?_, ?_, ?_⟩
    · rw [hjobs]
      exact hwf.jobs.mono hid
    · rw [hnonces]
      exact hwf.nonces.mono hid
    · rw [hrows]
      exact hwf.rows.mono hid
  | create job hid hnew hother =>
    exact ⟨hwf.jobs.append hid hnew.unclaimed, hwf.nonces.mono (Nat.le_succ _),
      hwf.rows.mono (Nat.le_succ _)⟩
  | job hj hstep hnonce =>
    obtain ⟨hid, hn, hclaim⟩ := hnonce.keyed hj hwf
    exact ⟨hwf.jobs.replace hid hj (congrArg JobSpec.id hstep.spec) hclaim, hn, hwf.rows.mono hid⟩
  | sweep p hp =>
    exact ⟨hwf.jobs, ⟨keyNodup_deleteWhere hwf.nonces.key,
      fun n hn => hwf.nonces.fresh n (mem_deleteWhere.mp hn).1,
      fun n hn => hwf.nonces.issued n (mem_deleteWhere.mp hn).1⟩, hwf.rows⟩
  | addRow row hid hkey hstate hprov hlast =>
    exact ⟨hwf.jobs.mono (Nat.le_succ _), hwf.nonces.mono (Nat.le_succ _),
      hwf.rows.append hid hkey hlast⟩
  | trustJob row row' job hrow hid hnew hfor hadv hrevoke =>
    refine ⟨hwf.jobs.append hid hnew.unclaimed, hwf.nonces.mono (Nat.le_succ _),
      hwf.rows.replace (Nat.le_succ _) hrow hadv.same (.inr ⟨?_, Nat.lt_succ_self _⟩)⟩
    rw [hadv.lastJob, hid]
  | release _ _ hrow hrel | unwindRevert _ _ _ hrow _ _ _ _ hrel | note _ _ hrow hrel =>
    exact ⟨hwf.jobs, hwf.nonces, hwf.rows.replace le_rfl hrow hrel.same (.inl hrel.lastJob)⟩
  | settle row row' hj hflight hstep hend hnonce hrow hlast hset htrust hinstall =>
    obtain ⟨hid, hn, hclaim⟩ := hnonce.keyed hj hwf
    exact ⟨hwf.jobs.replace hid hj (congrArg JobSpec.id hstep.spec) hclaim, hn,
      hwf.rows.replace hid hrow hset.same (.inl hset.lastJob)⟩
  | unwindDelete row j hrow hj hend hlast hstate =>
    exact ⟨hwf.jobs, hwf.nonces, hwf.rows.delete _⟩

theorem Moves.wellFormed (h : Moves R db db') (hwf : WellFormed db) :
    WellFormed db' :=
  h.invariant (fun _ _ hwf hm => hm.wellFormed hwf) hwf

theorem WellFormed.empty : WellFormed Db.empty := by
  refine ⟨⟨?_, ?_, ?_⟩, ⟨?_, ?_, ?_⟩, ⟨?_, ?_, ?_, ?_, ?_⟩⟩ <;> simp [Db.empty, KeyNodup]

/-! ## §5. A job across a move. -/

theorem Move.jobs_cases (h : Move R db db') :
    db'.jobs = db.jobs ∨
      (∃ j ∈ db.jobs, ∃ j', JobStep R j j' ∧ db'.jobs = replaceJob j' db.jobs) ∨
      (∃ job, job.id = db.nextId ∧ NewJob R job ∧ db'.jobs = db.jobs ++ [job]) := by
  cases h with
  | frame _ _ hjobs _ _ _ => exact .inl hjobs
  | create job hid hnew _ => exact .inr (.inr ⟨job, hid, hnew, rfl⟩)
  | job hj hstep _ => exact .inr (.inl ⟨_, hj, _, hstep, rfl⟩)
  | trustJob row row' job _ hid hnew _ _ _ => exact .inr (.inr ⟨job, hid, hnew, rfl⟩)
  | settle row row' hj _ hstep _ _ _ _ _ _ _ => exact .inr (.inl ⟨_, hj, _, hstep, rfl⟩)
  | sweep | addRow | release | unwindDelete | unwindRevert | note => exact .inl rfl

theorem Move.job_forward (h : Move R db db') (hwf : WellFormed db) (hj : j ∈ db.jobs) :
    ∃ j' ∈ db'.jobs, j' = j ∨ JobStep R j j' := by
  obtain heq | ⟨x, hx, x', hstep, heq⟩ | ⟨job, _, _, heq⟩ := h.jobs_cases
  · exact ⟨j, heq ▸ hj, .inl rfl⟩
  · rw [heq]
    by_cases hid : j.id = x'.id
    · have hxid : x'.id = x.id := congrArg JobSpec.id hstep.spec
      obtain rfl : j = x := hwf.jobs.key.eq_of_mem hj hx (hid.trans hxid)
      exact ⟨x', mem_replaceByKey.mpr (.inr ⟨rfl, j, hj, hid⟩), .inr hstep⟩
    · exact ⟨j, mem_replaceByKey.mpr (.inl ⟨hj, hid⟩), .inl rfl⟩
  · exact ⟨j, by simp [heq, hj], .inl rfl⟩

theorem Move.job_origin (h : Move R db db') (hj' : j' ∈ db'.jobs) :
    (∃ j ∈ db.jobs, j' = j ∨ JobStep R j j') ∨ (j'.id = db.nextId ∧ NewJob R j') := by
  obtain heq | ⟨x, hx, x', hstep, heq⟩ | ⟨job, hid, hnew, heq⟩ := h.jobs_cases
  · exact .inl ⟨j', heq ▸ hj', .inl rfl⟩
  · rw [heq] at hj'
    obtain ⟨hold, -⟩ | ⟨rfl, -⟩ := mem_replaceByKey.mp hj'
    · exact .inl ⟨j', hold, .inl rfl⟩
    · exact .inl ⟨x, hx, .inr hstep⟩
  · rw [heq, List.mem_append, List.mem_singleton] at hj'
    obtain hold | rfl := hj'
    · exact .inl ⟨j', hold, .inl rfl⟩
    · exact .inr ⟨hid, hnew⟩

theorem Move.nonces_cases (h : Move R db db') :
    db'.nonces = db.nonces ∨ (∃ j j' id, NonceMove R db j j' id db'.nonces) ∨
      (∃ p, db'.nonces = deleteWhere p db.nonces) := by
  cases h with
  | frame _ _ _ hnonces _ _ => exact .inl hnonces
  | job _ _ hnonce => exact .inr (.inl ⟨_, _, _, hnonce⟩)
  | settle row row' _ _ _ _ hnonce _ _ _ _ _ => exact .inr (.inl ⟨_, _, _, hnonce⟩)
  | sweep p _ => exact .inr (.inr ⟨p, rfl⟩)
  | create | addRow | trustJob | release | unwindDelete | unwindRevert | note => exact .inl rfl

theorem Move.grows (h : Move R db db') (hwf : WellFormed db) :
    db.nextId ≤ db'.nextId ∧ db.now ≤ db'.now := by
  cases h with
  | frame hnow hid _ _ _ _ => exact ⟨hid, hnow⟩
  | job hj _ hnonce => exact ⟨(hnonce.keyed hj hwf).1, le_rfl⟩
  | settle row row' hj _ _ _ hnonce _ _ _ _ _ => exact ⟨(hnonce.keyed hj hwf).1, le_rfl⟩
  | create | addRow | trustJob => exact ⟨Nat.le_succ _, le_rfl⟩
  | sweep | release | unwindDelete | unwindRevert | note => exact ⟨le_rfl, le_rfl⟩

/-- The counter only grows. -/
theorem Moves.nextId_le (h : Moves R db db') (hwf : WellFormed db) :
    db.nextId ≤ db'.nextId := by
  have hkept := h.invariant (I := fun x => WellFormed x ∧ db.nextId ≤ x.nextId) ?_ ⟨hwf, le_rfl⟩
  · exact hkept.2
  · intro a b ha hm
    exact ⟨hm.wellFormed ha.1, ha.2.trans (hm.grows ha.1).1⟩

end TokenTimer.CertOps
