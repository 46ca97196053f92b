/-
  TokenTimer.Signing.RotationSafety — what the completion gate and the rotation
  notice guarantee along every run of the rotation.

  The gate of `completeSigningKeyRotation` compares TWO COUNTS over different
  populations: the fleet (active, not diagnostic) and every agent that ever
  acknowledged the active key.  Counting implies coverage exactly when the
  acknowledgements from OUTSIDE the fleet are fewer than the fleet agents that
  have not acknowledged.

  The notice reads `supersedes_signing_key_id` of a row whose query does not
  select that column, so it rests on the retiring row alone.

  Main results:
    * `completion_covers_fleet_iff` — when a non-forced completion implies that
      the whole fleet acknowledged.
    * `notice_names_active_key_iff` — when an agent pinned to another key is
      told the active one.
-/

import TokenTimer.Signing.Rotation

namespace TokenTimer.Signing

open Lib.Table Lib.Runs

/-! ## §1. Identities of agents, and whom an acknowledgement refers to. -/

/-- The primary keys of `certops_agents`. -/
def SigningDb.agentIds (db : SigningDb) : List Nat := db.agents.map (·.id)

def SigningDb.ackAgentIds (db : SigningDb) : List Nat := db.acks.map (·.agentId)

/-- THE REFERENTIAL INVARIANT: agent ids are a key, and every acknowledgement
    names an agent. -/
structure SigningInv (db : SigningDb) : Prop where
  agentIds_nodup : db.agentIds.Nodup
  acks_ref : ∀ i ∈ db.ackAgentIds, i ∈ db.agentIds

/-- What a call can do to the identities: at most one FRESH agent appears, and
    acknowledgements only ever come to name agents that exist. -/
structure IdentityStep (db db' : SigningDb) : Prop where
  agents : db'.agentIds = db.agentIds ∨
    ∃ i, i ∉ db.agentIds ∧ db'.agentIds = db.agentIds ++ [i]
  acks : ∀ i ∈ db'.ackAgentIds, i ∈ db.ackAgentIds ∨ i ∈ db.agentIds

variable {a ws : Nat} {pinned : Option String} {db db' : SigningDb} {key : SigningKeyRow}

theorem IdentityStep.inv (h : IdentityStep db db') (hi : SigningInv db) :
    SigningInv db' := by
  have hsub : ∀ i ∈ db.agentIds, i ∈ db'.agentIds := by
    intro i hm
    rcases h.agents with heq | ⟨j, -, heq⟩ <;> rw [heq]
    · exact hm
    · exact List.mem_append_left _ hm
  refine ⟨?_, ?_⟩
  · rcases h.agents with heq | ⟨j, hj, heq⟩ <;> rw [heq]
    · exact hi.agentIds_nodup
    · exact hi.agentIds_nodup.append (by simp) (by simpa using hj)
  · intro i hm
    rcases h.acks i hm with hack | hag
    · exact hsub i (hi.acks_ref i hack)
    · exact hsub i hag

/-- A call that leaves both tables' identities alone. -/
theorem IdentityStep.of_eq (ha : db'.agentIds = db.agentIds) (hk : db'.ackAgentIds = db.ackAgentIds) :
    IdentityStep db db' :=
  ⟨.inl ha, fun _ hm => .inl (hk ▸ hm)⟩

theorem acknowledgeSigningKey_identity (ws a : Nat) (key : String) (db : SigningDb) :
    IdentityStep db (acknowledgeSigningKey ws a key db).2 := by
  unfold acknowledgeSigningKey
  simp only
  split_ifs with hpat hfk hdup
  · exact .of_eq rfl rfl
  · exact .of_eq rfl rfl
  · exact .of_eq rfl (map_key_updateWhere fun _ => rfl)
  · -- A NEW acknowledgement: the foreign key says its agent exists.
    refine ⟨.inl rfl, ?_⟩
    intro i hm
    simp only [SigningDb.ackAgentIds, List.map_append, List.mem_append, List.map_cons,
      List.map_nil, List.mem_singleton] at hm
    rcases hm with hm | rfl
    · exact .inl hm
    · right
      simpa [SigningDb.agentIds] using hfk

theorem ensureActiveSigningKey_frame (ok : Bool) (gen : GeneratedKey) (db : SigningDb) :
    (ensureActiveSigningKey ok gen db).2.agents = db.agents ∧
      (ensureActiveSigningKey ok gen db).2.acks = db.acks := by
  unfold ensureActiveSigningKey
  repeat' split
  all_goals exact ⟨rfl, rfl⟩

theorem beginSigningKeyRotation_frame (ok : Bool) (gen : GeneratedKey) (db : SigningDb) :
    (beginSigningKeyRotation ok gen db).2.agents = db.agents ∧
      (beginSigningKeyRotation ok gen db).2.acks = db.acks := by
  unfold beginSigningKeyRotation
  split
  · exact ⟨rfl, rfl⟩
  split
  · exact ensureActiveSigningKey_frame ok gen db
  split
  · exact ⟨rfl, rfl⟩
  simp only
  split <;> exact ⟨rfl, rfl⟩

theorem completeSigningKeyRotation_frame (force : Bool) (reason : Option String)
    (db : SigningDb) :
    (completeSigningKeyRotation force reason db).2.agents = db.agents ∧
      (completeSigningKeyRotation force reason db).2.acks = db.acks := by
  unfold completeSigningKeyRotation
  split
  · exact ⟨rfl, rfl⟩
  split
  · exact ⟨rfl, rfl⟩
  simp only
  split <;> exact ⟨rfl, rfl⟩

theorem IdentityStep.of_frame (h : db'.agents = db.agents ∧ db'.acks = db.acks) :
    IdentityStep db db' := by
  obtain ⟨ha, hk⟩ := h
  exact .of_eq (by simp [SigningDb.agentIds, ha]) (by simp [SigningDb.ackAgentIds, hk])

theorem registerAgent_identity (ok : Bool) (gen : GeneratedKey) (id ws : Nat) (kind : AgentKind)
    (seq : Option Nat) (db : SigningDb) :
    IdentityStep db (registerAgent ok gen id ws kind seq db) := by
  have hframe := ensureActiveSigningKey_frame ok gen db
  unfold registerAgent
  split
  · exact .of_eq rfl rfl
  next _ db' heq =>
    rw [heq] at hframe
    split
    · exact .of_eq rfl rfl
    next hfresh =>
      refine ⟨.inr ⟨id, ?_, ?_⟩, ?_⟩
      · simpa [SigningDb.agentIds] using hfresh
      · simp [SigningDb.agentIds]
      · intro i hm
        left
        have hacks : db'.acks = db.acks := hframe.2
        simpa [SigningDb.ackAgentIds, hacks] using hm

theorem enforceAgentSequence_ids {agents agents' : List AgentRow} {i : Nat} {q : Option Nat}
    (h : enforceAgentSequence agents i q = .ok agents') :
    agents'.map (·.id) = agents.map (·.id) := by
  rcases enforceAgentSequence_ok h with rfl | ⟨n, rfl⟩
  · rfl
  · exact map_key_updateWhere fun _ => rfl

theorem ackPinned_identity (h : ackPinned ws a pinned db = .ok db') : IdentityStep db db' := by
  unfold ackPinned at h
  split at h
  · injection h with h
    subst h
    exact .of_eq rfl rfl
  next key =>
    have hstep := acknowledgeSigningKey_identity ws a key db
    split at h
    · cases h
    next heq =>
      injection h with h
      subst h
      rw [heq] at hstep
      exact hstep

theorem recordHeartbeat_identity {seq : Option Nat} {notice : Option RotationNotice}
    (h : recordHeartbeat a ws seq pinned db = .ok (notice, db')) : IdentityStep db db' := by
  unfold recordHeartbeat at h
  simp only [bind_ok, Except.ok.injEq, Prod.mk.injEq] at h
  obtain ⟨agents, hseq, row, -, acked, hack, -, rfl⟩ := h
  obtain ⟨hagents, hacks⟩ := ackPinned_identity hack
  -- The touch keeps the ids, so the acknowledgement's step is a step from `db`.
  have hids : (touchAgent a (if truthy pinned then pinned else none) agents db).agentIds
      = db.agentIds := by
    unfold SigningDb.agentIds
    rw [← enforceAgentSequence_ids hseq]
    exact map_key_updateWhere fun _ => rfl
  rw [hids] at hagents hacks
  exact ⟨hagents, hacks⟩

/-- **ONE STEP**: every call makes an identity step. -/
theorem runCall_identity (call : SigningCall) (db : SigningDb) :
    IdentityStep db (runCall call db) := by
  cases call with
  | registerAgent ok gen id ws kind seq => exact registerAgent_identity ok gen id ws kind seq db
  | recordHeartbeat a ws seq pinned =>
    simp only [runCall]
    split
    · exact .of_eq rfl rfl
    next h => exact recordHeartbeat_identity h
  | acknowledgeSigningKey ws a key => exact acknowledgeSigningKey_identity ws a key db
  | markAgentOffline | retireAgent => exact .of_eq (map_key_updateWhere fun _ => rfl) rfl
  | ensureActiveSigningKey ok gen => exact .of_frame (ensureActiveSigningKey_frame ok gen db)
  | beginSigningKeyRotation ok gen => exact .of_frame (beginSigningKeyRotation_frame ok gen db)
  | completeSigningKeyRotation force reason =>
    exact .of_frame (completeSigningKeyRotation_frame force reason db)
  | tick ms => exact .of_eq rfl rfl

/-- **EVERY RUN** keeps the referential invariant. -/
theorem signingInv_of_reachable (h : Reachable rotationSystem anyStep db) :
    SigningInv db := by
  refine h.invariant ?_ ?_
  · rintro _ rfl
    exact ⟨by simp [SigningDb.agentIds, SigningDb.empty],
      by simp [SigningDb.ackAgentIds, SigningDb.empty]⟩
  · rintro db call _ hi - rfl
    exact (runCall_identity call db).inv hi

/-! ## §2. The two counts of the completion gate. -/

def acknowledged (signingKeyId : String) (db : SigningDb) (a : AgentRow) : Bool :=
  db.acks.any fun x => x.agentId = a.id ∧ x.signingKeyId = signingKeyId

def unackedFleet (signingKeyId : String) (db : SigningDb) : Nat :=
  (db.agents.filter fun a => inFleet a && !acknowledged signingKeyId db a).length

/-- Agents OUTSIDE the fleet (retired, offline or diagnostic) that have. -/
def strayAcks (signingKeyId : String) (db : SigningDb) : Nat :=
  (db.agents.filter fun a => !inFleet a && acknowledged signingKeyId db a).length

/-- `COUNT(DISTINCT agent_id)` counts the agents that acknowledged. -/
theorem ackCount_eq (hi : SigningInv db) (key : String) :
    ackCount key db = (db.agents.filter (acknowledged key db)).length := by
  have hnodup : ((db.agents.filter (acknowledged key db)).map (·.id)).Nodup :=
    hi.agentIds_nodup.sublist (List.filter_sublist.map _)
  rw [ackCount, ← List.length_map (fun a : AgentRow => a.id)]
  refine List.Perm.length_eq ((List.perm_ext_iff_of_nodup (List.nodup_dedup _) hnodup).mpr ?_)
  intro i
  simp only [List.mem_dedup, List.mem_map, List.mem_filter, acknowledged, List.any_eq_true,
    decide_eq_true_eq]
  constructor
  · rintro ⟨x, ⟨hx, hk⟩, rfl⟩
    -- The foreign key gives the agent of this acknowledgement.
    have hm : x.agentId ∈ db.agentIds := hi.acks_ref _ (List.mem_map.mpr ⟨x, hx, rfl⟩)
    obtain ⟨a, ha, hid⟩ := List.mem_map.mp hm
    exact ⟨a, ⟨ha, x, hx, hid.symm, hk⟩, hid⟩
  · rintro ⟨a, ⟨-, x, hx, hid, hk⟩, rfl⟩
    exact ⟨x, ⟨hx, hk⟩, hid⟩

/-- Splitting a count by a second predicate. -/
theorem length_filter_split (p q : AgentRow → Bool) (l : List AgentRow) :
    (l.filter p).length =
      (l.filter fun a => p a && q a).length + (l.filter fun a => p a && !q a).length := by
  induction l with
  | nil => rfl
  | cons a t ih =>
    cases hp : p a <;> cases hq : q a <;> simp [hp, hq, ih] <;> omega

/-- **THE GATE IS A COMPARISON OF STRAYS**: the counts pass exactly when the
    strays make up for the fleet agents that have not acknowledged. -/
theorem gate_iff (hi : SigningInv db) (key : String) :
    activeAgents db ≤ ackCount key db ↔ unackedFleet key db ≤ strayAcks key db := by
  have hfleet := length_filter_split inFleet (acknowledged key db) db.agents
  have hacks := length_filter_split (acknowledged key db) inFleet db.agents
  have hcomm : (db.agents.filter fun a => acknowledged key db a && inFleet a).length =
      (db.agents.filter fun a => inFleet a && acknowledged key db a).length := by
    simp only [Bool.and_comm]
  have hstray : (db.agents.filter fun a => acknowledged key db a && !inFleet a).length =
      strayAcks key db := by
    simp only [strayAcks, Bool.and_comm]
  rw [ackCount_eq hi, hacks, hcomm, hstray, activeAgents, hfleet]
  unfold unackedFleet
  omega

/-! ## §3. Completion and coverage. -/

/-- Every active, non-diagnostic agent has acknowledged the currently active
    key. -/
def FleetAcked (db : SigningDb) : Prop :=
  ∀ key, activeKey db.keys = some key → ∀ a ∈ db.agents, a.status = .active →
    a.agentKind ≠ .diagnostic →
    ∃ x ∈ db.acks, x.agentId = a.id ∧ x.signingKeyId = key.signingKeyId

theorem fleetAcked_iff (hkey : activeKey db.keys = some key) :
    FleetAcked db ↔ unackedFleet key.signingKeyId db = 0 := by
  simp only [FleetAcked, hkey, Option.some.injEq, forall_eq', unackedFleet,
    List.length_eq_zero_iff, List.filter_eq_nil_iff, inFleet, acknowledged]
  constructor
  · intro h a ha hc
    simp only [Bool.and_eq_true, decide_eq_true_eq, Bool.not_eq_true', List.any_eq_false] at hc
    obtain ⟨x, hx, hid, hk⟩ := h a ha hc.1.1 hc.1.2
    exact hc.2 x hx ⟨hid, hk⟩
  · intro h a ha hs hd
    have hc := h a ha
    simp only [hs, hd, ne_eq, not_false_eq_true, and_self, decide_true, Bool.true_and,
      Bool.not_eq_true', Bool.not_eq_false, List.any_eq_true, decide_eq_true_eq] at hc
    exact hc

theorem selectActiveKeyRow_eq {keys : List SigningKeyRow} {row : KeyResultRow}
    (h : selectActiveKeyRow keys = some row) :
    ∃ key, activeKey keys = some key ∧ row.signingKeyId = key.signingKeyId ∧
      row.id = key.id ∧ row.publicKeyPem = key.publicKeyPem ∧
      row.supersedesSigningKeyId = none := by
  unfold selectActiveKeyRow at h
  obtain ⟨key, hkey, rfl⟩ := Option.map_eq_some_iff.mp h
  exact ⟨key, hkey, rfl, rfl, rfl, rfl⟩

theorem activeKey_retireKey (now id : Nat) (force : Bool) (reason : Option String)
    (keys : List SigningKeyRow) :
    activeKey (retireKey now id force reason keys) = activeKey keys := by
  refine selectOne_updateWhere ?_ ?_
  · intro k hk
    simp only [decide_eq_true_eq] at hk
    simp [hk.2]
  · intro k _
    rfl

/-- A completion without force: both keys exist and the gate passed. -/
theorem completeSigningKeyRotation_completed {reason : Option String} {r : CompleteResult}
    (h : completeSigningKeyRotation false reason db = (.ok r, db')) (hr : r.isCompleted = true) :
    ∃ key, activeKey db.keys = some key ∧ retiringKey db.keys ≠ none ∧
      (activeAgents db = 0 ∨ activeAgents db ≤ ackCount key.signingKeyId db) ∧
      activeKey db'.keys = some key ∧ db'.agents = db.agents ∧ db'.acks = db.acks := by
  unfold completeSigningKeyRotation at h
  split at h
  · cases h
    cases hr
  next retiring hret =>
    split at h
    · cases h
    next row hrow =>
      obtain ⟨key, hkey, hid, -⟩ := selectActiveKeyRow_eq hrow
      simp only [hid, Bool.not_false, Bool.and_true, Bool.not_eq_true',
        decide_eq_false_iff_not] at h
      split at h
      · cases h
        cases hr
      next hgate =>
        cases h
        refine ⟨key, hkey, ?_, ?_, ?_, rfl, rfl⟩
        · intro hnone
          simp [selectRetiringKeyRow, hnone] at hret
        · simpa only [not_not, ge_iff_le] using hgate
        · rw [← hkey]
          exact activeKey_retireKey _ _ _ _ _

theorem completeSigningKeyRotation_of_gate (reason : Option String)
    (hkey : activeKey db.keys = some key) (hret : retiringKey db.keys ≠ none)
    (hgate : activeAgents db ≤ ackCount key.signingKeyId db) :
    ∃ r db', completeSigningKeyRotation false reason db = (.ok r, db') ∧
      r.isCompleted = true := by
  obtain ⟨old, hold⟩ := Option.ne_none_iff_exists'.mp hret
  have hpass : (!decide (activeAgents db = 0 ∨ ackCount key.signingKeyId db ≥ activeAgents db)
      && !false) = false := by
    simp [hgate]
  simp only [completeSigningKeyRotation, selectRetiringKeyRow, selectActiveKeyRow, hold, hkey,
    Option.map_some, SigningKeyRow.project, hpass]
  exact ⟨_, _, rfl, rfl⟩

/-- **COVERAGE, EXACTLY**: in every state a run can reach, a completion without
    force implies that the whole fleet acknowledged the active key if and only
    if there is nothing to complete, or nobody in the fleet is missing, or the
    agents outside the fleet that acknowledged are FEWER than the missing
    ones. -/
theorem completion_covers_fleet_iff {db : SigningDb}
    (h : Reachable rotationSystem anyStep db) (reason : Option String) :
    (∀ r db', completeSigningKeyRotation false reason db = (.ok r, db') →
        r.isCompleted = true → FleetAcked db') ↔
      ∀ key, activeKey db.keys = some key → retiringKey db.keys ≠ none →
        unackedFleet key.signingKeyId db = 0 ∨
          strayAcks key.signingKeyId db < unackedFleet key.signingKeyId db := by
  have hi := signingInv_of_reachable h
  constructor
  · intro hcov key hkey hret
    by_contra hbad
    push Not at hbad
    obtain ⟨hmissing, hstray⟩ := hbad
    -- The strays let the gate through although somebody is missing.
    obtain ⟨r, db', hrun, hr⟩ := completeSigningKeyRotation_of_gate reason hkey hret
      ((gate_iff hi _).mpr hstray)
    obtain ⟨key', hkey', -, -, hact, hag, hak⟩ := completeSigningKeyRotation_completed hrun hr
    obtain rfl : key' = key := Option.some.inj (hkey'.symm.trans hkey)
    have hzero := (fleetAcked_iff hact).mp (hcov r db' hrun hr)
    simp only [unackedFleet, acknowledged, hag, hak] at hzero
    exact hmissing hzero
  · intro hcond r db' hrun hr
    obtain ⟨key, hkey, hret, hgate, hact, hag, hak⟩ := completeSigningKeyRotation_completed hrun hr
    rw [fleetAcked_iff hact]
    simp only [unackedFleet, acknowledged, hag, hak]
    rcases hcond key hkey hret with hzero | hlt
    · exact hzero
    · rcases hgate with hempty | hle
      · have hsplit := length_filter_split inFleet (acknowledged key.signingKeyId db) db.agents
        unfold activeAgents at hempty
        rw [hempty] at hsplit
        exact (Nat.add_eq_zero_iff.mp hsplit.symm).2
      · exact absurd ((gate_iff hi _).mp hle) (by omega)

def traceKey (id : Nat) (signingKeyId : String) : GeneratedKey :=
  { id := id, signingKeyId := signingKeyId, publicKeyPem := "pem", privateKeyEncrypted := "env" }

/-- Two agents register; the key rotates; agent 2 acknowledges and retires. -/
def retiredAckCalls : List SigningCall :=
  [ .registerAgent true (traceKey 1 "ttsk_old") 1 1 .normal none,
    .registerAgent true (traceKey 1 "ttsk_old") 2 1 .normal none,
    .beginSigningKeyRotation true (traceKey 2 "ttsk_new"),
    .recordHeartbeat 2 1 none (some "ttsk_new"),
    .retireAgent 1 2 ]

theorem reachable_foldl (calls : List SigningCall) :
    Reachable rotationSystem anyStep (calls.foldl (fun db c => runCall c db) SigningDb.empty) :=
  ⟨SigningDb.empty, rfl, Run.of_foldl (fun _ _ => rfl) calls _⟩

theorem completion_covers_fleet_iff_trace :
    let db := retiredAckCalls.foldl (fun db c => runCall c db) SigningDb.empty
    (∀ r db', completeSigningKeyRotation false none db = (.ok r, db') →
        r.isCompleted = true → FleetAcked db') ↔
      ∀ key, activeKey db.keys = some key → retiringKey db.keys ≠ none →
        unackedFleet key.signingKeyId db = 0 ∨
          strayAcks key.signingKeyId db < unackedFleet key.signingKeyId db :=
  completion_covers_fleet_iff (reachable_foldl retiredAckCalls) none

/-- The retired agent's acknowledgement stands in for agent 1, which never
    acknowledged: the rotation completes without force. -/
theorem completion_misses_agent :
    ¬ ∀ db, Reachable rotationSystem anyStep db → ∀ reason r db',
      completeSigningKeyRotation false reason db = (.ok r, db') → r.isCompleted = true →
      FleetAcked db' := by
  intro hall
  let db := retiredAckCalls.foldl (fun db c => runCall c db) SigningDb.empty
  have hkey : activeKey (completeSigningKeyRotation false none db).2.keys =
      some (newKeyRow 0 (traceKey 2 "ttsk_new") (some "ttsk_old") (some 0)) := by decide
  have hacked := hall db (reachable_foldl _) none
    (.completed false "ttsk_old" "ttsk_new" 1 1) (completeSigningKeyRotation false none db).2
    (by decide) rfl
  have hzero := (fleetAcked_iff hkey).mp hacked
  revert hzero
  decide

/-! ## §4. What a call can do to the keys. -/

theorem acknowledgeSigningKey_keys (ws a : Nat) (key : String) (db : SigningDb) :
    (acknowledgeSigningKey ws a key db).2.keys = db.keys := by
  unfold acknowledgeSigningKey
  simp only
  split_ifs <;> rfl

theorem ackPinned_keys (h : ackPinned ws a pinned db = .ok db') : db'.keys = db.keys := by
  unfold ackPinned at h
  split at h
  · injection h with h
    rw [h]
  next key =>
    have hkeys := acknowledgeSigningKey_keys ws a key db
    split at h
    · cases h
    next db'' heq =>
      rw [heq] at hkeys
      rw [← Except.ok.inj h]
      exact hkeys

theorem recordHeartbeat_keys {seq : Option Nat} {notice : Option RotationNotice}
    (h : recordHeartbeat a ws seq pinned db = .ok (notice, db')) : db'.keys = db.keys := by
  unfold recordHeartbeat at h
  simp only [bind_ok, Except.ok.injEq, Prod.mk.injEq] at h
  obtain ⟨agents, -, row, -, acked, hack, -, rfl⟩ := h
  rw [ackPinned_keys hack]
  rfl

/-- The state lets `completeSigningKeyRotation` retire the retiring key. -/
def completionPasses (force : Bool) (db : SigningDb) : Bool :=
  (retiringKey db.keys).isSome &&
    match activeKey db.keys with
    | none => false
    | some key => force || activeAgents db = 0 || activeAgents db ≤ ackCount key.signingKeyId db

/-- What a call can do to `certops_signing_keys`: nothing, a first key, the
    active key turned retiring (with its replacement or, when the insert fails,
    without), or a passed completion. -/
inductive KeyStep (db : SigningDb) (call : SigningCall) : List SigningKeyRow → Prop
  | same : KeyStep db call db.keys
  | first (gen : GeneratedKey) : KeyStep db call (db.keys ++ [newKeyRow db.now gen none none])
  | retiring (current : SigningKeyRow) (new : List SigningKeyRow)
      (hcur : activeKey db.keys = some current) :
      KeyStep db call (startRetiring db.now current.id db.keys ++ new)
  | retired (force : Bool) (reason : Option String) (id : Nat)
      (hcall : call = .completeSigningKeyRotation force reason)
      (hpass : completionPasses force db = true) :
      KeyStep db call (retireKey db.now id force reason db.keys)

theorem ensureActiveSigningKey_keys (ok : Bool) (gen : GeneratedKey) (db : SigningDb)
    (call : SigningCall) : KeyStep db call (ensureActiveSigningKey ok gen db).2.keys := by
  unfold ensureActiveSigningKey
  split
  · exact .same
  split
  · exact .same
  split
  · split <;> exact .same
  · exact .first gen

theorem beginSigningKeyRotation_keys (ok : Bool) (gen : GeneratedKey) (db : SigningDb)
    (call : SigningCall) : KeyStep db call (beginSigningKeyRotation ok gen db).2.keys := by
  unfold beginSigningKeyRotation
  split
  · exact .same
  split
  · exact ensureActiveSigningKey_keys ok gen db call
  next row hrow =>
    obtain ⟨current, hcur, -, hid, -⟩ := selectActiveKeyRow_eq hrow
    split
    · exact .same
    simp only [hid]
    split
    · have hstep : KeyStep db call (startRetiring db.now current.id db.keys ++ []) :=
        .retiring current [] hcur
      rwa [List.append_nil] at hstep
    · exact .retiring current _ hcur

theorem completeSigningKeyRotation_keys (force : Bool) (reason : Option String) (db : SigningDb) :
    KeyStep db (.completeSigningKeyRotation force reason)
      (completeSigningKeyRotation force reason db).2.keys := by
  unfold completeSigningKeyRotation
  split
  · exact .same
  next retiring hret =>
    split
    · exact .same
    next row hrow =>
      obtain ⟨key, hkey, hid, -⟩ := selectActiveKeyRow_eq hrow
      obtain ⟨old, hold, -⟩ := Option.map_eq_some_iff.mp hret
      simp only [hid]
      split
      · exact .same
      next hgate =>
        refine .retired force reason _ rfl ?_
        simp only [Bool.and_eq_true, Bool.not_eq_true', decide_eq_false_iff_not,
          not_and] at hgate
        cases force
        · have hor : activeAgents db = 0 ∨ activeAgents db ≤ ackCount key.signingKeyId db := by
            by_contra hno
            exact absurd rfl (hgate hno)
          simpa [completionPasses, hold, hkey] using hor
        · simp [completionPasses, hold, hkey]

/-- **ONE STEP** on the keys. -/
theorem runCall_keys (call : SigningCall) (db : SigningDb) :
    KeyStep db call (runCall call db).keys := by
  cases call with
  | registerAgent ok gen id ws kind seq =>
    have hkeys := ensureActiveSigningKey_keys ok gen db (.registerAgent ok gen id ws kind seq)
    simp only [runCall, registerAgent]
    split
    · exact .same
    next heq =>
      rw [heq] at hkeys
      split
      · exact .same
      · exact hkeys
  | recordHeartbeat a ws seq pinned =>
    simp only [runCall]
    split
    · exact .same
    next h =>
      rw [recordHeartbeat_keys h]
      exact .same
  | acknowledgeSigningKey ws a key =>
    simp only [runCall, acknowledgeSigningKey_keys]
    exact .same
  | markAgentOffline | retireAgent | tick => exact .same
  | ensureActiveSigningKey ok gen => exact ensureActiveSigningKey_keys ok gen db _
  | beginSigningKeyRotation ok gen => exact beginSigningKeyRotation_keys ok gen db _
  | completeSigningKeyRotation force reason => exact completeSigningKeyRotation_keys force reason db

/-! ## §5. Who is told about the active key. -/

/-- No call of the run retires a key: no completion is made where it passes. -/
def noRetirement (db : SigningDb) (call : SigningCall) : Prop :=
  ∀ force reason, call = .completeSigningKeyRotation force reason →
    completionPasses force db = false

/-- An active REPLACEMENT key has its predecessor still retiring. -/
def ReplacementOverlaps (db : SigningDb) : Prop :=
  (∃ k ∈ db.keys, k.status = .active ∧ k.supersedesSigningKeyId ≠ none) →
    ∃ k ∈ db.keys, k.status = .retiring

theorem exists_retiring_startRetiring {current : SigningKeyRow}
    (hcur : activeKey db.keys = some current) (new : List SigningKeyRow) :
    ∃ k ∈ startRetiring db.now current.id db.keys ++ new, k.status = .retiring := by
  obtain ⟨hm, hact⟩ := selectOne_some hcur
  refine ⟨_, List.mem_append_left _ (mem_updateWhere.mpr ⟨current, hm, rfl⟩), ?_⟩
  simp only [decide_eq_true_eq] at hact
  simp [hact]

theorem KeyStep.overlaps {call : SigningCall} (h : KeyStep db call db'.keys)
    (hok : noRetirement db call) (hi : ReplacementOverlaps db) :
    ReplacementOverlaps db' := by
  unfold ReplacementOverlaps at hi ⊢
  generalize db'.keys = keys at h ⊢
  cases h with
  | same => exact hi
  | first gen =>
    rintro ⟨k, hk, hact, hsup⟩
    rcases List.mem_append.mp hk with hold | hnew
    · obtain ⟨r, hr, hst⟩ := hi ⟨k, hold, hact, hsup⟩
      exact ⟨r, List.mem_append_left _ hr, hst⟩
    · -- A first key replaces nothing.
      rw [List.mem_singleton.mp hnew] at hsup
      exact absurd rfl hsup
  | retiring current new hcur => exact fun _ => exists_retiring_startRetiring hcur new
  | retired force reason id hcall hpass =>
    rw [hok force reason hcall] at hpass
    cases hpass

theorem overlaps_of_reachable (h : Reachable rotationSystem noRetirement db) :
    ReplacementOverlaps db := by
  refine h.invariant ?_ ?_
  · rintro _ rfl ⟨k, hk, -⟩
    cases hk
  · rintro db call _ hi hok rfl
    exact (runCall_keys call db).overlaps hok hi

theorem retiringKey_eq_none_iff (keys : List SigningKeyRow) :
    retiringKey keys = none ↔ ¬ ∃ k ∈ keys, k.status = .retiring := by
  unfold retiringKey
  rw [List.head?_eq_none_iff, ← List.length_eq_zero_iff, List.length_insertionSort,
    List.length_eq_zero_iff, List.filter_eq_nil_iff]
  simp

def NoticeNames (pinned : Option String) (key : SigningKeyRow) (db : SigningDb) : Prop :=
  ∃ n, getSigningKeyRotationNotice pinned db = some n ∧
    n.pendingSigningKeyId = key.signingKeyId ∧ n.pendingPublicKeyPem = key.publicKeyPem

/-- The column that would keep the notice alive is not in the row: the notice
    rests on the retiring row alone. -/
theorem noticeNames_iff (hkey : activeKey db.keys = some key) (hpin : pinned ≠ some key.signingKeyId) :
    NoticeNames pinned key db ↔ ∃ k ∈ db.keys, k.status = .retiring := by
  have hnone := retiringKey_eq_none_iff db.keys
  have hsel : selectActiveKeyRow db.keys =
      some (key.project activeKeyColumns) := by simp [selectActiveKeyRow, hkey]
  have hsup : truthy (key.project activeKeyColumns).supersedesSigningKeyId = false := rfl
  have hid : (key.project activeKeyColumns).signingKeyId = key.signingKeyId := rfl
  unfold NoticeNames getSigningKeyRotationNotice
  simp only [hsel, hid, hpin, and_false, if_false, hsup, Bool.not_false, and_true]
  cases hr : retiringKey db.keys with
  | none =>
    simp [selectRetiringKeyRow, hr, hnone.mp hr]
  | some old =>
    have hex : ∃ k ∈ db.keys, k.status = .retiring := by
      by_contra hno
      rw [hnone.mpr hno] at hr
      cases hr
    simp only [selectRetiringKeyRow, hr, Option.map_some, Option.isNone_some, hex, iff_true]
    exact ⟨_, rfl, rfl, rfl⟩

/-- **WHO IS STRANDED, EXACTLY**: in every state a run can reach, an agent that
    has pinned another key than the active replacement is told about it if and
    only if SOME key row is still retiring; so every run in which no completion
    retires a key keeps every agent informed. -/
theorem notice_names_active_key_iff (db : SigningDb) (key : SigningKeyRow)
    (pinned : Option String) (hkey : activeKey db.keys = some key)
    (hsup : key.supersedesSigningKeyId ≠ none) (hpin : pinned ≠ some key.signingKeyId) :
    (Reachable rotationSystem anyStep db →
      (NoticeNames pinned key db ↔ ∃ k ∈ db.keys, k.status = .retiring)) ∧
    (Reachable rotationSystem noRetirement db → NoticeNames pinned key db) := by
  refine ⟨fun _ => noticeNames_iff hkey hpin, ?_⟩
  intro hreach
  obtain ⟨hm, hact⟩ := selectOne_some hkey
  exact (noticeNames_iff hkey hpin).mpr
    (overlaps_of_reachable hreach ⟨key, hm, by simpa using hact, hsup⟩)

/-- Agent 1 registers and pins the first key; the key rotates. -/
def overlapCalls : List SigningCall :=
  [ .registerAgent true (traceKey 1 "ttsk_old") 1 1 .normal none,
    .recordHeartbeat 1 1 none (some "ttsk_old"),
    .beginSigningKeyRotation true (traceKey 2 "ttsk_new") ]

/-- During the overlap agent 1 is told about the new key. -/
theorem notice_names_active_key_overlap :
    let db := overlapCalls.foldl (fun db c => runCall c db) SigningDb.empty
    let key := newKeyRow 0 (traceKey 2 "ttsk_new") (some "ttsk_old") (some 0)
    activeKey db.keys = some key ∧
      (NoticeNames (some "ttsk_old") key db ↔ ∃ k ∈ db.keys, k.status = .retiring) :=
  ⟨by decide, (notice_names_active_key_iff _ _ _ (by decide) (by decide) (by decide)).1
    (reachable_foldl overlapCalls)⟩

/-- The same run, and the operator forces the completion. -/
def strandedDb : SigningDb :=
  runCall (.completeSigningKeyRotation true (some "lost host"))
    (overlapCalls.foldl (fun db c => runCall c db) SigningDb.empty)

/-- A forced completion strands agent 1: the old key is retired, the active key
    still supersedes it, and its heartbeat gets no notice. -/
theorem forced_completion_strands_agent :
    ¬ ∀ db, Reachable rotationSystem anyStep db → ∀ key pinned,
      activeKey db.keys = some key → key.supersedesSigningKeyId ≠ none →
      pinned ≠ some key.signingKeyId → NoticeNames pinned key db := by
  intro hall
  have hreach : Reachable rotationSystem anyStep strandedDb :=
    (reachable_foldl overlapCalls).step trivial rfl
  obtain ⟨n, hn, -⟩ := hall strandedDb hreach
    (newKeyRow 0 (traceKey 2 "ttsk_new") (some "ttsk_old") (some 0))
    (some "ttsk_old") (by decide) (by decide) (by decide)
  have hnone : getSigningKeyRotationNotice (some "ttsk_old") strandedDb = none := by decide
  rw [hnone] at hn
  cases hn

/-! ## §6. The life of a key. -/

/-- What is drawn with a key. -/
def SigningKeyRow.material (k : SigningKeyRow) : Nat × String × String × String :=
  (k.id, k.signingKeyId, k.publicKeyPem, k.privateKeyEncrypted)

def KeyStatus.age : KeyStatus → Nat
  | .active => 0
  | .retiring => 1
  | .retired => 2

/-- What one statement does to `certops_signing_keys`. -/
inductive KeyMove (keys : List SigningKeyRow) : List SigningKeyRow → Prop
  | insert (now : Nat) (gen : GeneratedKey) (supersedes : Option String) (startedAt : Option Nat)
      (hfree : keyConflict keys gen = false) :
      KeyMove keys (keys ++ [newKeyRow now gen supersedes startedAt])
  | change (id : Nat) {old new : KeyStatus} {f : SigningKeyRow → SigningKeyRow}
      (hf : ∀ k, (f k).material = k.material ∧ (f k).status = new) (hage : old.age < new.age)
      (hnew : ∀ k ∈ keys, k.status = new → new = .retired) :
      KeyMove keys (updateWhere (fun k => k.id = id ∧ k.status = old) f keys)

/-- A call makes its statements one after the other. -/
abbrev KeyMoves : List SigningKeyRow → List SigningKeyRow → Prop := Relation.ReflTransGen KeyMove

/-- A key as it may be later: no younger, and once retired the same row. -/
structure Aged (k k' : SigningKeyRow) : Prop where
  material : k'.material = k.material
  age : k.status.age ≤ k'.status.age
  frozen : k.status = .retired → k' = k

/-- No key is lost. -/
def KeysKept (keys keys' : List SigningKeyRow) : Prop := ∀ k ∈ keys, ∃ k' ∈ keys', Aged k k'

/-- Ids and key ids name one key, and one key at most is active and one retiring. -/
structure KeysOk (keys : List SigningKeyRow) : Prop where
  ids : KeyNodup (·.id) keys
  names : KeyNodup (·.signingKeyId) keys
  alone : ∀ k ∈ keys, ∀ l ∈ keys, k.status = l.status → k.status ≠ .retired → k = l

variable {keys keys' : List SigningKeyRow}

theorem KeyMove.kept (h : KeyMove keys keys') : KeysKept keys keys' := by
  intro k hk
  cases h with
  | insert => exact ⟨k, List.mem_append_left _ hk, rfl, Nat.le_refl _, fun _ => rfl⟩
  | @change id old new f hf hage =>
    refine ⟨_, mem_updateWhere.mpr ⟨k, hk, rfl⟩, ?_⟩
    split
    case isFalse => exact ⟨rfl, Nat.le_refl _, fun _ => rfl⟩
    case isTrue hset =>
      obtain ⟨-, rfl⟩ := of_decide_eq_true hset
      refine ⟨(hf k).1, (hf k).2 ▸ hage.le, fun hret => ?_⟩
      -- nothing is older than retired
      rw [hret] at hage
      cases new <;> exact absurd hage (by decide)

theorem KeyMove.ok (h : KeyMove keys keys') (hk : KeysOk keys) : KeysOk keys' := by
  cases h with
  | insert now gen supersedes startedAt hfree =>
    simp only [keyConflict, List.any_eq_false, decide_eq_true_eq, not_or] at hfree
    refine ⟨keyNodup_append_singleton hk.ids fun x hx => (hfree x hx).2.2,
      keyNodup_append_singleton hk.names fun x hx => (hfree x hx).2.1, ?_⟩
    simp only [List.forall_mem_append, List.forall_mem_singleton]
    exact ⟨fun k hkm => ⟨hk.alone k hkm, fun hstatus => absurd hstatus (hfree k hkm).1⟩,
      fun l hlm hstatus => absurd hstatus.symm (hfree l hlm).1, fun _ _ => trivial⟩
  | @change id old new f hf hage hnew =>
    refine ⟨keyNodup_updateWhere (fun k => congrArg (·.1) (hf k).1) hk.ids,
      keyNodup_updateWhere (fun k => congrArg (·.2.1) (hf k).1) hk.names, ?_⟩
    intro k' hk' l' hl' hstatus hlive
    obtain ⟨k, hkm, rfl⟩ := mem_updateWhere.mp hk'
    obtain ⟨l, hlm, rfl⟩ := mem_updateWhere.mp hl'
    by_cases hset : decide (k.id = id ∧ k.status = old) = true <;>
      by_cases hset' : decide (l.id = id ∧ l.status = old) = true <;>
      simp only [hset, hset', if_true, (hf _).2] at hstatus hlive ⊢
    · rw [hk.ids.eq_of_mem hkm hlm
        ((of_decide_eq_true hset).1.trans (of_decide_eq_true hset').1.symm)]
    · exact absurd (hnew l hlm hstatus.symm) hlive
    · exact absurd (hstatus.trans (hnew k hkm hstatus)) hlive
    · exact hk.alone k hkm l hlm hstatus hlive

theorem ensureActiveSigningKey_moves (ok : Bool) (gen : GeneratedKey) (db : SigningDb) :
    KeyMoves db.keys (ensureActiveSigningKey ok gen db).2.keys := by
  unfold ensureActiveSigningKey
  split
  · exact .refl
  split
  · exact .refl
  split
  · split <;> exact .refl
  next hfree => exact .single (.insert _ gen _ _ (Bool.eq_false_iff.mpr hfree))

theorem beginSigningKeyRotation_moves (ok : Bool) (gen : GeneratedKey) (db : SigningDb) :
    KeyMoves db.keys (beginSigningKeyRotation ok gen db).2.keys := by
  unfold beginSigningKeyRotation
  split
  · exact .refl
  split
  · exact ensureActiveSigningKey_moves ok gen db
  next current _ =>
    split
    · exact .refl
    next hret =>
      have hnone := (retiringKey_eq_none_iff db.keys).mp (Option.map_eq_none_iff.mp hret)
      have hstart : KeyMoves db.keys (startRetiring db.now current.id db.keys) :=
        .single (.change _ (fun _ => ⟨rfl, rfl⟩) Nat.zero_lt_one
          fun k hk hstatus => absurd ⟨k, hk, hstatus⟩ hnone)
      dsimp only
      split
      · exact hstart
      next hfree => exact hstart.tail (.insert _ gen _ _ (Bool.eq_false_iff.mpr hfree))

/-- **ONE CALL**, statement by statement. -/
theorem runCall_moves (call : SigningCall) (db : SigningDb) :
    KeyMoves db.keys (runCall call db).keys := by
  cases call with
  | registerAgent ok gen id ws kind seq =>
    have hkeys := ensureActiveSigningKey_moves ok gen db
    simp only [runCall, registerAgent]
    split
    · exact .refl
    next heq =>
      rw [heq] at hkeys
      split
      · exact .refl
      · exact hkeys
  | recordHeartbeat a ws seq pinned =>
    simp only [runCall]
    split
    · exact .refl
    next h =>
      rw [recordHeartbeat_keys h]
  | acknowledgeSigningKey ws a key => rw [runCall, acknowledgeSigningKey_keys]
  | markAgentOffline | retireAgent | tick => exact .refl
  | ensureActiveSigningKey ok gen => exact ensureActiveSigningKey_moves ok gen db
  | beginSigningKeyRotation ok gen => exact beginSigningKeyRotation_moves ok gen db
  | completeSigningKeyRotation force reason =>
    simp only [runCall, completeSigningKeyRotation]
    split
    · exact .refl
    split
    · exact .refl
    split
    · exact .refl
    · exact .single (.change _ (fun _ => ⟨rfl, rfl⟩) Nat.one_lt_two fun _ _ _ => rfl)

theorem KeysKept.trans {keys'' : List SigningKeyRow} (h : KeysKept keys keys')
    (h' : KeysKept keys' keys'') : KeysKept keys keys'' := by
  intro k hk
  obtain ⟨k', hk', haged⟩ := h k hk
  obtain ⟨k'', hk'', haged'⟩ := h' k' hk'
  refine ⟨k'', hk'', haged'.material.trans haged.material, haged.age.trans haged'.age, fun hret => ?_⟩
  obtain rfl := haged.frozen hret
  exact haged'.frozen hret

theorem KeyMoves.sound (h : KeyMoves keys keys') :
    (KeysOk keys → KeysOk keys') ∧ KeysKept keys keys' := by
  induction h with
  | refl => exact ⟨id, fun k hk => ⟨k, hk, rfl, Nat.le_refl _, fun _ => rfl⟩⟩
  | tail _ hmove ih => exact ⟨fun hk => hmove.ok (ih.1 hk), ih.2.trans hmove.kept⟩

/-- **THE LIFE OF A KEY**: in every state that a run reaches one key at most is active and one
    retiring; whatever comes after, every key is still there with its material, has not gone
    back, and is the same row if it was retired. -/
theorem signing_key_lifecycle (db db' : SigningDb) (hreach : Reachable rotationSystem anyStep db)
    (hrun : Run rotationSystem anyStep db db') : KeysOk db'.keys ∧ KeysKept db.keys db'.keys := by
  have hmoves : ∀ {db db'}, Run rotationSystem anyStep db db' → KeyMoves db.keys db'.keys := by
    intro db db' hrun
    induction hrun with
    | refl => exact .refl
    | tail _ _ hstep ih => exact ih.trans (hstep ▸ runCall_moves _ _)
  obtain ⟨_, rfl, hfirst⟩ := hreach.run hrun
  exact ⟨(hmoves hfirst).sound.1 ⟨List.nodup_nil, List.nodup_nil, fun k hk => nomatch hk⟩,
    (hmoves hrun).sound.2⟩

/-- The run that forces the completion. -/
theorem signing_key_lifecycle_stranded : KeysOk strandedDb.keys ∧
    KeysKept (overlapCalls.foldl (fun db c => runCall c db) SigningDb.empty).keys strandedDb.keys :=
  signing_key_lifecycle _ _ (reachable_foldl overlapCalls) (.single trivial rfl)

end TokenTimer.Signing
