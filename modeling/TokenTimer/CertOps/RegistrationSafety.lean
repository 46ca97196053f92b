/-
  TokenTimer.CertOps.RegistrationSafety — one agent and one credential for a
  bootstrap token.

  The row lock of the token makes its registrations one after the other, and the
  consumption lets one of them commit.  Every later answer under the token is
  read off the replay row of that one, so it carries its registration id and its
  credential.  The unique indexes of `certops_agents` make the credential the
  agent's own.

  Main results:
    * `registerStep_cases` — what one statement of a call does.
    * `Inv.step` — the invariant of the tables and the open calls.
    * `registers_once` — at most one agent for each token, one answer for all
        calls of its registration id and none for another,
        and no trace of a call that fails.
-/

import TokenTimer.CertOps.Registration

namespace TokenTimer.CertOps.Registration

open Lib.Runs Lib.Table

variable {cfg : Config} {s t : State} {p q : Nat} {env : Env} {tx : Tx} {minted : Minted}
  {agent : AgentRow}

/-! ## §1. What a statement does. -/

/-- The statements of a call, with what each has checked. -/
inductive Statement (cfg : Config) (p : Nat) (s : State) : State → Prop
  | begin (token : TokenRow) (h : s.phase p = .authenticated token) :
    Statement cfg p s (s.setPhase p (.begun ⟨token, s.now⟩))
  | rollback (tokenId : Nat) (code : String) : Statement cfg p s (s.finish p tokenId (.error code))
  | lock (tx : Tx) (row : TokenRow) (h : s.phase p = .begun tx) (hfree : s.lockedBy tx.token.id = none)
    (hrow : selectOne (·.id = tx.token.id) s.tokens = some row) :
    Statement cfg p s ((s.lock p tx.token.id).setPhase p (.locked tx row.status))
  | replay (tx : Tx) (status : TokenStatus) (row : ReplayRow) (response : Response)
    (h : s.phase p = .locked tx status)
    (hrow : findRegistrationReplay s.replays tx.token.id (cfg.request p).registrationId tx.now = some row)
    (hresponse : registrationReplayResponse cfg row = some response) :
    Statement cfg p s (s.finish p tx.token.id (.ok response))
  | miss (tx : Tx) (status : TokenStatus) (h : s.phase p = .locked tx status) :
    Statement cfg p s (s.setPhase p (.missed tx status))
  | generate (tx : Tx) (status : TokenStatus) (minted : Minted) (h : s.phase p = .missed tx status)
    (hminted : cfg.decrypt ENCRYPTION_VERSION minted.ciphertext = some minted.credential) :
    Statement cfg p s (s.setPhase p (.generated tx minted))
  | insert (tx : Tx) (minted : Minted) (h : s.phase p = .generated tx minted)
    (hpending : ∀ x ∈ s.inserting,
      x.2.clashes (newAgent cfg (cfg.request p) tx minted s.nextAgentId) = false)
    (hagents : ∀ a ∈ s.agents, a.clashes (newAgent cfg (cfg.request p) tx minted s.nextAgentId) = false) :
    Statement cfg p s
      ((s.insert p (newAgent cfg (cfg.request p) tx minted s.nextAgentId)).setPhase p
        (.inserted tx minted (newAgent cfg (cfg.request p) tx minted s.nextAgentId)))
  | consume (tx : Tx) (minted : Minted) (agent : AgentRow) (row : TokenRow)
    (h : s.phase p = .inserted tx minted agent) (hrow : row ∈ s.tokens)
    (hconsumable : row.consumable tx.token.id tx.now = true) :
    Statement cfg p s (s.setPhase p (.consumed tx minted agent))
  | record (tx : Tx) (minted : Minted) (agent : AgentRow) (replay : Option ReplayRow)
    (h : s.phase p = .consumed tx minted agent)
    (hreplay : ∀ row, replay = some row → row = newReplay cfg (cfg.request p) tx minted agent) :
    Statement cfg p s (s.setPhase p (.recorded tx minted agent replay))
  | commit (tx : Tx) (minted : Minted) (agent : AgentRow) (replay : Option ReplayRow)
    (h : s.phase p = .recorded tx minted agent replay) :
    Statement cfg p s ((commitRegistration (cfg.request p) tx minted agent replay s).finish p tx.token.id
      (.ok (newResponse agent minted)))

theorem registerStep_cases (h : registerStep cfg p env s = some t) : Statement cfg p s t := by
  unfold registerStep at h
  dsimp only at h
  cases hp : s.phase p with
  | idle | done => rw [hp] at h; cases h
  | authenticated token =>
    rw [hp] at h
    injection h with h
    exact h ▸ .begin token hp
  | begun tx =>
    rw [hp] at h
    dsimp only at h
    split at h
    · injection h with h
      exact h ▸ .rollback _ _
    · split at h
      · cases h
      · rename_i hfree
        split at h
        · injection h with h
          exact h ▸ .rollback _ _
        · rename_i row hrow
          injection h with h
          exact h ▸ .lock tx row hp (by simpa using hfree) hrow
  | locked tx status =>
    rw [hp] at h
    dsimp only at h
    split at h
    · injection h with h
      exact h ▸ .rollback _ _
    · split at h
      · rename_i response hfound
        injection h with h
        obtain ⟨row, hrow, hresponse⟩ := Option.bind_eq_some_iff.mp hfound
        exact h ▸ .replay tx status row response hp hrow hresponse
      · injection h with h
        exact h ▸ .miss tx status hp
  | missed tx status =>
    rw [hp] at h
    dsimp only at h
    split at h
    · injection h with h
      exact h ▸ .rollback _ _
    · split at h
      · injection h with h
        exact h ▸ .rollback _ _
      · split at h
        · injection h with h
          exact h ▸ .rollback _ _
        · rename_i ciphertext hciphertext
          injection h with h
          exact h ▸ .generate tx status _ hp (cfg.decrypt_encrypt _ _ _ hciphertext)
  | generated tx minted =>
    rw [hp] at h
    dsimp only at h
    split at h
    · injection h with h
      exact h ▸ .rollback _ _
    · split at h
      · cases h
      · rename_i hpending
        split at h
        · injection h with h
          exact h ▸ .rollback _ _
        · rename_i hagents
          injection h with h
          exact h ▸ .insert tx minted hp (by simpa using hpending) (by simpa using hagents)
  | inserted tx minted agent =>
    rw [hp] at h
    dsimp only at h
    split at h
    · injection h with h
      exact h ▸ .rollback _ _
    · split at h
      · rename_i hany
        injection h with h
        obtain ⟨row, hrow, hconsumable⟩ := List.any_eq_true.mp hany
        exact h ▸ .consume tx minted agent row hp hrow hconsumable
      · injection h with h
        exact h ▸ .rollback _ _
  | consumed tx minted agent =>
    rw [hp] at h
    dsimp only at h
    split at h
    · injection h with h
      exact h ▸ .rollback _ _
    · injection h with h
      refine h ▸ .record tx minted agent _ hp fun row hrow => ?_
      split at hrow
      · cases hrow
      · injection hrow with hrow
        exact hrow.symm
  | recorded tx minted agent replay =>
    rw [hp] at h
    dsimp only at h
    split at h
    · injection h with h
      exact h ▸ .rollback _ _
    · injection h with h
      exact h ▸ .commit tx minted agent replay hp

/-! ## §2. The invariant. -/

/-- A registration consumed an active, unexpired token, and its agent is the one
    of its credential. -/
structure Creation.Sound (cfg : Config) (c : Creation) : Prop where
  active : c.token.status = .active
  unexpired : c.now < c.token.expiresAt
  token : c.agent.bootstrapTokenId = c.token.id
  agentId : c.response.agentId = c.agent.agentId
  credentialPrefix : c.agent.credentialPrefix = c.response.credential.idPart
  credentialHash : c.agent.credentialHash = cfg.sha256Hex c.response.credential

def Creation.Replays (cfg : Config) (c : Creation) (row : ReplayRow) : Prop :=
  row.bootstrapTokenId = c.token.id ∧ row.registrationId = c.registrationId ∧
    registrationReplayResponse cfg row = some c.response

/-- The tables beside the registrations that wrote them. -/
structure Books (cfg : Config) (s : State) : Prop where
  keys : KeyNodup TokenRow.id s.tokens
  agents : s.agents = s.created.map (·.agent)
  created : ∀ c ∈ s.created, c.Sound cfg
  once : KeyNodup (·.token.id) s.created
  spent : ∀ c ∈ s.created, ∃ row ∈ s.tokens, row.id = c.token.id ∧ row.status = .used
  replays : ∀ row ∈ s.replays, ∃ c ∈ s.created, c.Replays cfg row
  prefixes : KeyNodup AgentRow.credentialPrefix s.agents

structure Pending (cfg : Config) (p : Nat) (inserting : List (Nat × AgentRow)) (tx : Tx) (minted : Minted)
    (agent : AgentRow) : Prop where
  mem : (p, agent) ∈ inserting
  agent : agent = newAgent cfg (cfg.request p) tx minted agent.id
  minted : cfg.decrypt ENCRYPTION_VERSION minted.ciphertext = some minted.credential

/-- What a call has seen to, by what it does next. -/
def PhaseOk (cfg : Config) (p : Nat) (tokens : List TokenRow) (inserting : List (Nat × AgentRow)) :
    Phase → Prop
  | .generated _ minted => cfg.decrypt ENCRYPTION_VERSION minted.ciphertext = some minted.credential
  | .inserted tx minted agent => Pending cfg p inserting tx minted agent
  | .consumed tx minted agent =>
    Pending cfg p inserting tx minted agent ∧ ∃ row ∈ tokens, row.consumable tx.token.id tx.now = true
  | .recorded tx minted agent replay =>
    Pending cfg p inserting tx minted agent ∧
      (∃ row ∈ tokens, row.consumable tx.token.id tx.now = true) ∧
      ∀ row, replay = some row → row = newReplay cfg (cfg.request p) tx minted agent
  | _ => True

/-- The open calls beside the tables. -/
structure Calls (cfg : Config) (s : State) : Prop where
  results : ∀ p tokenId response, s.phase p = .done (some tokenId) (.ok response) →
    ∃ c ∈ s.created, c.token.id = tokenId ∧ c.registrationId = (cfg.request p).registrationId ∧
      c.response = response
  locks : ∀ p tx, (s.phase p).tx = some tx → s.lockedBy tx.token.id = some p
  phases : ∀ p, PhaseOk cfg p s.tokens s.inserting (s.phase p)
  pending : ∀ x ∈ s.inserting, ∀ a ∈ s.agents, x.2.credentialPrefix ≠ a.credentialPrefix
  apart : ∀ x ∈ s.inserting, ∀ y ∈ s.inserting, x.2.credentialPrefix = y.2.credentialPrefix → x.1 = y.1

structure Inv (cfg : Config) (s : State) : Prop where
  books : Books cfg s
  calls : Calls cfg s

theorem Inv.initial : Inv cfg .initial where
  books := ⟨by simp [KeyNodup, State.initial], rfl, nofun, by simp [KeyNodup, State.initial], nofun, nofun,
    by simp [KeyNodup, State.initial]⟩
  calls := ⟨nofun, nofun, fun _ => trivial, nofun, nofun⟩

@[simp] theorem setPhase_self (s : State) (p : Nat) (x : Phase) : (s.setPhase p x).phase p = x :=
  Function.update_self (β := fun _ => Phase) p x s.phase

theorem setPhase_of_ne (s : State) (x : Phase) (h : q ≠ p) : (s.setPhase p x).phase q = s.phase q :=
  Function.update_of_ne (β := fun _ => Phase) h x s.phase

variable {result : Except String Response} {a : Label} {tokenId : Nat} {replay : Option ReplayRow}
  {x : Phase}

theorem finish_lockedBy {T : Nat} (hqp : q ≠ p) (h : s.lockedBy T = some q) :
    (s.finish p tokenId result).lockedBy T = some q := by
  show (if s.lockedBy T = some p then none else s.lockedBy T) = some q
  rw [h, if_neg]
  intro hsame
  injection hsame with hsame
  exact hqp hsame

theorem mem_finish_inserting {x : Nat × AgentRow} :
    x ∈ (s.finish p tokenId result).inserting ↔ x ∈ s.inserting ∧ x.1 ≠ p := by
  show x ∈ s.inserting.filter (·.1 ≠ p) ↔ _
  simp

/-- A phase outlives what leaves its token and its pending row alone. -/
theorem PhaseOk.mono {tokens tokens' : List TokenRow} {inserting inserting' : List (Nat × AgentRow)}
    (h : PhaseOk cfg p tokens inserting x)
    (htokens : ∀ tx, x.tx = some tx → ∀ row ∈ tokens, row.id = tx.token.id → row ∈ tokens')
    (hinserting : ∀ a, (p, a) ∈ inserting → (p, a) ∈ inserting') : PhaseOk cfg p tokens' inserting' x := by
  have hrow : ∀ tx, x.tx = some tx → (∃ row ∈ tokens, row.consumable tx.token.id tx.now = true) →
      ∃ row ∈ tokens', row.consumable tx.token.id tx.now = true := by
    rintro tx htx ⟨row, hmem, hconsumable⟩
    refine ⟨row, htokens tx htx row hmem ?_, hconsumable⟩
    simp only [TokenRow.consumable, decide_eq_true_eq] at hconsumable
    exact hconsumable.1
  cases x with
  | inserted tx minted agent => exact ⟨hinserting _ h.mem, h.agent, h.minted⟩
  | consumed tx minted agent =>
    obtain ⟨hpending, hconsumable⟩ := h
    exact ⟨⟨hinserting _ hpending.mem, hpending.agent, hpending.minted⟩, hrow tx rfl hconsumable⟩
  | recorded tx minted agent replay =>
    obtain ⟨hpending, hconsumable, hreplay⟩ := h
    exact ⟨⟨hinserting _ hpending.mem, hpending.agent, hpending.minted⟩, hrow tx rfl hconsumable, hreplay⟩
  | generated tx minted => exact h
  | idle | authenticated | begun | locked | missed | done => trivial

/-! ## §3. What the statements keep. -/

/-- A call goes on and writes nothing. -/
theorem Calls.move (h : Calls cfg s) (hlock : ∀ tx, x.tx = some tx → s.lockedBy tx.token.id = some p)
    (hx : PhaseOk cfg p s.tokens s.inserting x) (hdone : ∀ tokenId r, x ≠ .done (some tokenId) (.ok r)) :
    Calls cfg (s.setPhase p x) where
  results q tokenId response hq := by
    by_cases hqp : q = p
    · subst hqp
      rw [setPhase_self] at hq
      exact absurd hq (hdone tokenId response)
    · rw [setPhase_of_ne s x hqp] at hq
      exact h.results q tokenId response hq
  locks q tx hq := by
    by_cases hqp : q = p
    · subst hqp
      rw [setPhase_self] at hq
      exact hlock tx hq
    · rw [setPhase_of_ne s x hqp] at hq
      exact h.locks q tx hq
  phases q := by
    by_cases hqp : q = p
    · subst hqp
      rw [setPhase_self]
      exact hx
    · rw [setPhase_of_ne s x hqp]
      exact h.phases q
  pending := h.pending
  apart := h.apart

theorem Calls.finish (h : Calls cfg s)
    (hresult : ∀ response, result = .ok response → ∃ c ∈ s.created, c.token.id = tokenId ∧ c.registrationId = (cfg.request p).registrationId ∧ c.response = response) :
    Calls cfg (s.finish p tokenId result) where
  results q T response hq := by
    by_cases hqp : q = p
    · subst hqp
      rw [State.finish, setPhase_self] at hq
      injection hq with hT hr
      injection hT with hT
      subst hT
      exact hresult response hr
    · rw [State.finish, setPhase_of_ne _ _ hqp] at hq
      exact h.results q T response hq
  locks q tx hq := by
    by_cases hqp : q = p
    · subst hqp
      rw [State.finish, setPhase_self] at hq
      cases hq
    · rw [State.finish, setPhase_of_ne _ _ hqp] at hq
      exact finish_lockedBy hqp (h.locks q tx hq)
  phases q := by
    by_cases hqp : q = p
    · subst hqp
      rw [State.finish, setPhase_self]
      trivial
    · rw [State.finish, setPhase_of_ne _ _ hqp]
      exact (h.phases q).mono (fun _ _ row hrow _ => hrow) fun a ha =>
        mem_finish_inserting.mpr ⟨ha, hqp⟩
  pending x hx a ha := h.pending x (mem_finish_inserting.mp hx).1 a ha
  apart x hx y hy := h.apart x (mem_finish_inserting.mp hx).1 y (mem_finish_inserting.mp hy).1

theorem Calls.lock (h : Calls cfg s) (hfree : s.lockedBy tx.token.id = none) (hx : x.tx = some tx)
    (hok : PhaseOk cfg p s.tokens s.inserting x) (hdone : ∀ tokenId r, x ≠ .done (some tokenId) (.ok r)) :
    Calls cfg ((s.lock p tx.token.id).setPhase p x) := by
  have hlock : Calls cfg (s.lock p tx.token.id) :=
    { h with
      locks := fun q tx' hq => by
        have hheld := h.locks q tx' hq
        show Function.update s.lockedBy tx.token.id (some p) tx'.token.id = some q
        rw [Function.update_of_ne]
        · exact hheld
        · intro hsame
          rw [hsame, hfree] at hheld
          cases hheld }
  refine hlock.move (fun tx' htx' => ?_) hok hdone
  rw [hx] at htx'
  injection htx' with htx'
  subst htx'
  exact Function.update_self _ _ _

theorem Calls.insert (h : Calls cfg s) (hp : s.phase p = .generated tx minted)
    (hpending : ∀ x ∈ s.inserting, x.2.clashes agent = false)
    (hagents : ∀ a ∈ s.agents, a.clashes agent = false)
    (hagent : agent = newAgent cfg (cfg.request p) tx minted agent.id) :
    Calls cfg ((s.insert p agent).setPhase p (.inserted tx minted agent)) := by
  have hdiffer : ∀ a : AgentRow, a.clashes agent = false → a.credentialPrefix ≠ agent.credentialPrefix := by
    intro a hclash hsame
    simp [AgentRow.clashes, hsame] at hclash
  have hminted : cfg.decrypt ENCRYPTION_VERSION minted.ciphertext = some minted.credential := by
    have := h.phases p
    rw [hp] at this
    exact this
  have hinsert : Calls cfg (s.insert p agent) :=
    { h with
      phases := fun q => (h.phases q).mono (fun _ _ row hrow _ => hrow) fun a ha =>
        List.mem_append_left _ ha
      pending := fun x hx a ha => by
        rcases List.mem_append.mp hx with hx | hx
        · exact h.pending x hx a ha
        · rw [List.mem_singleton.mp hx]
          exact (hdiffer a (hagents a ha)).symm
      apart := fun x hx y hy hsame => by
        rcases List.mem_append.mp hx with hx | hx
        · rcases List.mem_append.mp hy with hy | hy
          · exact h.apart x hx y hy hsame
          · rw [List.mem_singleton.mp hy] at hsame
            exact absurd hsame (hdiffer x.2 (hpending x hx))
        · rw [List.mem_singleton.mp hx] at hsame ⊢
          rcases List.mem_append.mp hy with hy | hy
          · exact absurd hsame.symm (hdiffer y.2 (hpending y hy))
          · rw [List.mem_singleton.mp hy] }
  refine hinsert.move (fun tx' htx' => ?_) ⟨List.mem_append_right _ (List.mem_singleton_self _), hagent,
    hminted⟩ nofun
  injection htx' with htx'
  subst htx'
  exact h.locks p tx (by rw [hp]; rfl)

theorem Books.consumable {row : TokenRow} (h : Books cfg s) (hrow : row ∈ s.tokens)
    (hconsumable : row.consumable tx.token.id tx.now = true) :
    selectOne (·.id = tx.token.id) s.tokens = some row ∧ ∀ c ∈ s.created, c.token.id ≠ tx.token.id := by
  simp only [TokenRow.consumable, decide_eq_true_eq] at hconsumable
  obtain ⟨hid, hactive, -⟩ := hconsumable
  refine ⟨by rw [← hid]; exact h.keys.selectOne_eq hrow, fun c hc hsame => ?_⟩
  obtain ⟨row', hrow', hid', hused⟩ := h.spent c hc
  rw [h.keys.eq_of_mem hrow' hrow (by rw [hid', hsame, hid]), hactive] at hused
  cases hused

theorem replays_newReplay {c : Creation} (hminted : cfg.decrypt ENCRYPTION_VERSION minted.ciphertext =
      some minted.credential) (hc : c = s.creation (cfg.request p) tx minted agent)
    (htoken : c.token.id = tx.token.id) :
    c.Replays cfg (newReplay cfg (cfg.request p) tx minted agent) := by
  refine ⟨htoken.symm, by rw [hc]; rfl, ?_⟩
  rw [hc]
  unfold registrationReplayResponse newReplay
  rw [hminted]
  rfl

theorem Calls.recorded (h : Calls cfg s) (hp : s.phase p = .recorded tx minted agent replay) :
    Pending cfg p s.inserting tx minted agent ∧
      (∃ row ∈ s.tokens, row.consumable tx.token.id tx.now = true) ∧
      ∀ row, replay = some row → row = newReplay cfg (cfg.request p) tx minted agent := by
  have hok := h.phases p
  rw [hp] at hok
  exact hok

theorem Books.commit (h : Books cfg s) (hcalls : Calls cfg s)
    (hp : s.phase p = .recorded tx minted agent replay) :
    Books cfg (commitRegistration (cfg.request p) tx minted agent replay s) := by
  obtain ⟨hpending, ⟨row, hrow, hconsumable⟩, hreplay⟩ := hcalls.recorded hp
  obtain ⟨hselect, hnew⟩ := h.consumable hrow hconsumable
  have hc : (s.creation (cfg.request p) tx minted agent).token = row := by
    show (selectOne _ s.tokens).getD tx.token = row
    rw [hselect]
    rfl
  have hrowId := hconsumable
  simp only [TokenRow.consumable, decide_eq_true_eq] at hrowId
  have htoken : (s.creation (cfg.request p) tx minted agent).token.id = tx.token.id := by rw [hc, hrowId.1]
  have hkept : ∀ c ∈ s.created, ∀ x ∈ s.tokens, x.id = c.token.id →
      x ∈ updateWhere (TokenRow.consumable tx.token.id tx.now) (TokenRow.consume agent.id) s.tokens := by
    intro c hcmem x hx hid
    refine mem_updateWhere.mpr ⟨x, hx, if_neg fun hx' => ?_⟩
    simp only [TokenRow.consumable, decide_eq_true_eq] at hx'
    exact hnew c hcmem (by rw [← hid, hx'.1])
  refine
    { keys := keyNodup_updateWhere (fun _ => rfl) h.keys
      agents := by
        show s.agents ++ [agent] = (s.created ++ [_]).map _
        rw [List.map_append, h.agents]
        rfl
      created := ?_
      once := keyNodup_append_singleton h.once fun c hcmem => by rw [htoken]; exact hnew c hcmem
      spent := ?_
      replays := ?_
      prefixes := keyNodup_append_singleton h.prefixes fun a ha =>
        (hcalls.pending _ hpending.mem a ha).symm }
  · intro c hcmem
    rcases List.mem_append.mp hcmem with hcmem | hcmem
    · exact h.created c hcmem
    · rw [List.mem_singleton.mp hcmem]
      exact
        { active := by rw [hc]; exact hrowId.2.1
          unexpired := by rw [hc]; exact hrowId.2.2
          token := by rw [htoken]; show agent.bootstrapTokenId = _; rw [hpending.agent]; rfl
          agentId := rfl
          credentialPrefix := by show agent.credentialPrefix = _; rw [hpending.agent]; rfl
          credentialHash := by show agent.credentialHash = _; rw [hpending.agent]; rfl }
  · intro c hcmem
    rcases List.mem_append.mp hcmem with hcmem | hcmem
    · obtain ⟨x, hx, hid, hused⟩ := h.spent c hcmem
      exact ⟨x, hkept c hcmem x hx hid, hid, hused⟩
    · rw [List.mem_singleton.mp hcmem, htoken]
      exact ⟨row.consume agent.id, mem_updateWhere.mpr ⟨row, hrow, if_pos hconsumable⟩, hrowId.1, rfl⟩
  · intro x hx
    rcases List.mem_append.mp hx with hx | hx
    · obtain ⟨c, hcmem, hreplays⟩ := h.replays x hx
      exact ⟨c, List.mem_append_left _ hcmem, hreplays⟩
    · rw [hreplay x (Option.mem_toList.mp hx)]
      exact ⟨_, List.mem_append_right _ (List.mem_singleton_self _),
        replays_newReplay hpending.minted rfl htoken⟩

theorem Calls.commit (h : Calls cfg s) (hbooks : Books cfg s)
    (hp : s.phase p = .recorded tx minted agent replay) :
    Calls cfg ((commitRegistration (cfg.request p) tx minted agent replay s).finish p tx.token.id
      (.ok (newResponse agent minted))) := by
  obtain ⟨hpending, ⟨row, hrow, hconsumable⟩, -⟩ := h.recorded hp
  have hheld : s.lockedBy tx.token.id = some p := h.locks p tx (by rw [hp]; rfl)
  refine
    { results := fun q T response hq => ?_
      locks := fun q tx' hq => ?_
      phases := fun q => ?_
      pending := fun x hx a ha => ?_
      apart := fun x hx y hy =>
        h.apart x (mem_finish_inserting.mp hx).1 y (mem_finish_inserting.mp hy).1 }
  · by_cases hqp : q = p
    · subst hqp
      rw [State.finish, setPhase_self] at hq
      injection hq with hT hr
      injection hT with hT
      injection hr with hr
      refine ⟨_, List.mem_append_right _ (List.mem_singleton_self _), ?_, rfl, hr⟩
      show ((selectOne _ s.tokens).getD tx.token).id = T
      rw [(hbooks.consumable hrow hconsumable).1, ← hT]
      simp only [TokenRow.consumable, decide_eq_true_eq] at hconsumable
      exact hconsumable.1
    · rw [State.finish, setPhase_of_ne _ _ hqp] at hq
      obtain ⟨c, hc, hrest⟩ := h.results q T response hq
      exact ⟨c, List.mem_append_left _ hc, hrest⟩
  · by_cases hqp : q = p
    · subst hqp
      rw [State.finish, setPhase_self] at hq
      cases hq
    · rw [State.finish, setPhase_of_ne _ _ hqp] at hq
      exact finish_lockedBy hqp (h.locks q tx' hq)
  · by_cases hqp : q = p
    · subst hqp
      rw [State.finish, setPhase_self]
      trivial
    · rw [State.finish, setPhase_of_ne _ _ hqp]
      refine (h.phases q).mono (fun tx' htx' x hx hid => mem_updateWhere.mpr ⟨x, hx, if_neg fun hx' => ?_⟩)
        fun a ha => mem_finish_inserting.mpr ⟨ha, hqp⟩
      -- The row of another call's token is not the one consumed: its lock is not `p`'s.
      have hother := h.locks q tx' htx'
      simp only [TokenRow.consumable, decide_eq_true_eq] at hx'
      rw [← hid, hx'.1, hheld] at hother
      injection hother with hother
      exact hqp hother.symm
  · obtain ⟨hx, hxp⟩ := mem_finish_inserting.mp hx
    rcases List.mem_append.mp ha with ha | ha
    · exact h.pending x hx a ha
    · rw [List.mem_singleton.mp ha]
      exact fun hsame => hxp (h.apart x hx _ hpending.mem hsame)

theorem Inv.statement (h : Inv cfg s) (hst : Statement cfg p s t) : Inv cfg t := by
  have hkeep : ∀ x : Phase, Books cfg (s.setPhase p x) := fun _ => ⟨h.books.keys, h.books.agents,
    h.books.created, h.books.once, h.books.spent, h.books.replays, h.books.prefixes⟩
  have hfinish : ∀ T result, Books cfg (s.finish p T result) := fun _ _ => ⟨h.books.keys, h.books.agents,
    h.books.created, h.books.once, h.books.spent, h.books.replays, h.books.prefixes⟩
  have hphase := h.calls.phases p
  have hlocked : ∀ {x : Phase} {tx : Tx}, s.phase p = x → x.tx = some tx →
      s.lockedBy tx.token.id = some p := fun hp hx => h.calls.locks p _ (by rw [hp]; exact hx)
  cases hst with
  | begin token hp => exact ⟨hkeep _, h.calls.move nofun trivial nofun⟩
  | rollback tokenId code => exact ⟨hfinish _ _, h.calls.finish nofun⟩
  | lock tx row hp hfree hrow =>
    exact ⟨⟨h.books.keys, h.books.agents, h.books.created, h.books.once, h.books.spent, h.books.replays,
      h.books.prefixes⟩, h.calls.lock hfree rfl trivial nofun⟩
  | replay tx status row response hp hrow hresponse =>
    refine ⟨hfinish _ _, h.calls.finish fun response' heq => ?_⟩
    injection heq with heq
    obtain ⟨hmem, hmatch⟩ := selectOne_some hrow
    simp only [decide_eq_true_eq] at hmatch
    obtain ⟨c, hc, htoken, hregistration, hanswer⟩ := h.books.replays row hmem
    refine ⟨c, hc, by rw [← htoken, hmatch.1], by rw [← hregistration, hmatch.2.1], ?_⟩
    rw [hresponse] at hanswer
    injection hanswer with hanswer
    rw [← hanswer, heq]
  | miss tx status hp =>
    exact ⟨hkeep _, h.calls.move (fun tx' htx' => hlocked hp htx') trivial nofun⟩
  | generate tx status minted hp hminted =>
    exact ⟨hkeep _, h.calls.move (fun tx' htx' => hlocked hp htx') hminted nofun⟩
  | insert tx minted hp hpending hagents =>
    exact ⟨⟨h.books.keys, h.books.agents, h.books.created, h.books.once, h.books.spent, h.books.replays,
      h.books.prefixes⟩, h.calls.insert hp hpending hagents rfl⟩
  | consume tx minted agent row hp hrow hconsumable =>
    rw [hp] at hphase
    exact ⟨hkeep _, h.calls.move (fun tx' htx' => hlocked hp htx') ⟨hphase, row, hrow, hconsumable⟩ nofun⟩
  | record tx minted agent replay hp hreplay =>
    rw [hp] at hphase
    exact ⟨hkeep _, h.calls.move (fun tx' htx' => hlocked hp htx') ⟨hphase.1, hphase.2, hreplay⟩ nofun⟩
  | commit tx minted agent replay hp =>
    have hbooks := h.books.commit h.calls hp
    exact ⟨⟨hbooks.keys, hbooks.agents, hbooks.created, hbooks.once, hbooks.spent, hbooks.replays,
      hbooks.prefixes⟩, h.calls.commit h.books hp⟩

/-- A change of the tokens that keeps the used ones and those of open calls. -/
theorem Inv.retoken {tokens : List TokenRow} (h : Inv cfg s) (hkeys : KeyNodup TokenRow.id tokens)
    (hused : ∀ row ∈ s.tokens, row.status = .used → row ∈ tokens)
    (hopen : ∀ p tx, (s.phase p).tx = some tx → ∀ row ∈ s.tokens, row.id = tx.token.id → row ∈ tokens) :
    Inv cfg { s with tokens } where
  books :=
    { h.books with
      keys := hkeys
      spent := fun c hc => by
        obtain ⟨row, hrow, hid, hstatus⟩ := h.books.spent c hc
        exact ⟨row, hused row hrow hstatus, hid, hstatus⟩ }
  calls :=
    { h.calls with phases := fun p => (h.calls.phases p).mono (hopen p) fun _ ha => ha }

theorem Inv.step (h : Inv cfg s) (hst : next cfg s a = some t) : Inv cfg t := by
  cases a with
  | tick ms =>
    injection hst with hst
    subst hst
    exact ⟨⟨h.books.keys, h.books.agents, h.books.created, h.books.once, h.books.spent, h.books.replays,
      h.books.prefixes⟩, ⟨h.calls.results, h.calls.locks, h.calls.phases, h.calls.pending, h.calls.apart⟩⟩
  | createBootstrapToken id workspaceId raw expiresAt =>
    obtain ⟨hnew, rfl⟩ := of_not_guard hst
    refine h.retoken (keyNodup_append_singleton h.books.keys fun row hrow hsame => hnew ?_)
      (fun row hrow _ => List.mem_append_left _ hrow) fun _ _ _ row hrow _ => List.mem_append_left _ hrow
    exact List.any_eq_true.mpr ⟨row, hrow, by simp [hsame]⟩
  | revokeBootstrapToken workspaceId tokenId =>
    obtain ⟨hfree, rfl⟩ := of_not_guard hst
    refine h.retoken (keyNodup_updateWhere (fun _ => rfl) h.books.keys) (fun row hrow hused => ?_)
      fun p tx htx row hrow hid => ?_
    · refine mem_updateWhere.mpr ⟨row, hrow, if_neg fun hrevocable => ?_⟩
      simp [TokenRow.revocable, hused] at hrevocable
    · refine mem_updateWhere.mpr ⟨row, hrow, if_neg fun hrevocable => hfree ?_⟩
      simp only [TokenRow.revocable, decide_eq_true_eq] at hrevocable
      rw [← hrevocable.2.1, hid, h.calls.locks p tx htx]
      rfl
  | sweepExpiredRegistrationReplays rows =>
    injection hst with hst
    subst hst
    exact ⟨⟨h.books.keys, h.books.agents, h.books.created, h.books.once, h.books.spent,
      fun row hrow => h.books.replays row (mem_deleteWhere.mp hrow).1, h.books.prefixes⟩,
      ⟨h.calls.results, h.calls.locks, h.calls.phases, h.calls.pending, h.calls.apart⟩⟩
  | call p =>
    unfold next at hst
    dsimp only at hst
    split at hst
    · split at hst <;>
      · injection hst with hst
        subst hst
        exact ⟨⟨h.books.keys, h.books.agents, h.books.created, h.books.once, h.books.spent, h.books.replays,
          h.books.prefixes⟩, h.calls.move nofun trivial nofun⟩
    · cases hst
  | step p env => exact h.statement (registerStep_cases hst)

/-! ## §4. Calls that fail. -/

def State.tables (s : State) : List TokenRow × List AgentRow × List ReplayRow :=
  (s.tokens, s.agents, s.replays)

/-- The call has answered with an agent. -/
def Phase.succeeded : Phase → Bool
  | .done _ (.ok _) => true
  | _ => false

def Label.caller : Label → Option Nat
  | .call p | .step p _ => some p
  | _ => none

/-- A statement writes to the tables only where it commits a registration. -/
theorem Statement.tables_eq (h : Statement cfg p s t) (ht : (t.phase p).succeeded = false) :
    t.tables = s.tables := by
  cases h with
  | commit tx minted agent replay hp =>
    rw [State.finish, setPhase_self] at ht
    cases ht
  | begin | rollback | lock | replay | miss | generate | insert | consume | record => rfl

theorem tables_eq_of_caller (ha : a.caller = some p) (h : next cfg s a = some t)
    (ht : (t.phase p).succeeded = false) : t.tables = s.tables := by
  cases a with
  | step q env =>
    injection ha with ha
    subst ha
    exact (registerStep_cases h).tables_eq ht
  | call q =>
    unfold next at h
    dsimp only at h
    split at h
    · split at h <;>
      · injection h with h
        subst h
        rfl
    · cases h
  | tick | createBootstrapToken | revokeBootstrapToken | sweepExpiredRegistrationReplays => cases ha

theorem Statement.phase_of_ne (h : Statement cfg p s t) (hqp : q ≠ p) : t.phase q = s.phase q := by
  cases h <;> exact setPhase_of_ne _ _ hqp

theorem done_final {tokenId : Option Nat} (h : next cfg s a = some t)
    (hq : s.phase q = .done tokenId result) :
    t.phase q = .done tokenId result := by
  cases a with
  | tick | sweepExpiredRegistrationReplays =>
    injection h with h
    subst h
    exact hq
  | createBootstrapToken | revokeBootstrapToken =>
    obtain ⟨-, rfl⟩ := of_not_guard h
    exact hq
  | call p =>
    unfold next at h
    dsimp only at h
    split at h
    · rename_i hidle
      have hqp : q ≠ p := by
        rintro rfl
        rw [hidle] at hq
        cases hq
      split at h <;>
      · injection h with h
        subst h
        rw [setPhase_of_ne _ _ hqp, hq]
    · cases h
  | step p env =>
    by_cases hqp : q = p
    · subst hqp
      unfold next registerStep at h
      dsimp only at h
      rw [hq] at h
      cases h
    · rw [(registerStep_cases h).phase_of_ne hqp, hq]

theorem Trace.unsuccessful {steps : List (Stepped State Label)}
    (h : Trace (registrationSystem cfg) .initial steps s) (hp : (s.phase p).succeeded = false) :
    ∀ x ∈ steps, x.label.caller = some p → x.after.tables = x.before.tables := by
  induction h with
  | nil => exact List.forall_mem_nil _
  | @snoc steps t u a hpre hst ih =>
    rw [List.forall_mem_append, List.forall_mem_singleton]
    refine ⟨ih ?_, fun ha => tables_eq_of_caller ha hst hp⟩
    cases ht : t.phase p with
    | done tokenId result =>
      rw [done_final hst ht] at hp
      exact hp
    | _ => rfl

/-! ## §5. One registration for a token. -/

/-- What a bootstrap token leads to. -/
structure RegistersOnce (cfg : Config) (s : State) : Prop where
  /-- At most one agent is created from a token. -/
  once : ∀ tokenId, (s.agents.filter (·.bootstrapTokenId = tokenId)).length ≤ 1
  /-- The transaction that created it found the token active and unexpired. -/
  consumed : ∀ a ∈ s.agents, ∃ c ∈ s.created, c.agent = a ∧ c.token.id = a.bootstrapTokenId ∧
    c.token.status = .active ∧ c.now < c.token.expiresAt
  /-- Calls with the token and the registration id answer the same. -/
  same : ∀ p q tokenId r r', s.phase p = .done (some tokenId) (.ok r) →
    s.phase q = .done (some tokenId) (.ok r') →
    (cfg.request p).registrationId = (cfg.request q).registrationId →
    r.agentId = r'.agentId ∧ r.credential = r'.credential
  /-- The credential is that of the agent. -/
  validates : ∀ p tokenId r, s.phase p = .done (some tokenId) (.ok r) →
    ∃ a, validateAgentCredential cfg s.agents r.credential = .ok a ∧ a.agentId = r.agentId ∧
      a.bootstrapTokenId = tokenId
  /-- Beside a success every call with another registration id fails. -/
  others : ∀ p q tokenId r result, s.phase p = .done (some tokenId) (.ok r) →
    s.phase q = .done (some tokenId) result →
    (cfg.request q).registrationId ≠ (cfg.request p).registrationId → ∃ code, result = .error code

theorem length_filter_le_one {α β : Type} [DecidableEq β] {key : α → β} {rows : List α}
    (h : KeyNodup key rows) (k : β) : (rows.filter (key · = k)).length ≤ 1 := by
  have hnodup : ((rows.filter (key · = k)).map key).Nodup := h.sublist (List.filter_sublist.map key)
  have hconst : ∀ x ∈ (rows.filter (key · = k)).map key, x = k := by
    intro x hx
    obtain ⟨a, ha, rfl⟩ := List.mem_map.mp hx
    simpa using (List.mem_filter.mp ha).2
  rw [← List.length_map (f := key)]
  match hl : (rows.filter (key · = k)).map key, hnodup, hconst with
  | [], _, _ => exact Nat.zero_le 1
  | [_], _, _ => exact Nat.le_refl 1
  | x :: y :: rest, hnodup, hconst =>
    rw [List.nodup_cons] at hnodup
    refine absurd ?_ hnodup.1
    rw [hconst x (by simp), hconst y (by simp)]
    exact List.mem_cons_self

theorem Books.tokenNodup (h : Books cfg s) : KeyNodup AgentRow.bootstrapTokenId s.agents := by
  have heq : (s.created.map (·.agent)).map AgentRow.bootstrapTokenId = s.created.map (·.token.id) := by
    rw [List.map_map]
    exact List.map_congr_left fun c hc => (h.created c hc).token
  unfold KeyNodup
  rw [h.agents, heq]
  exact h.once

/-- Two answers under one token are of one registration. -/
theorem Inv.one_registration (h : Inv cfg s) {r r' : Response}
    (hp : s.phase p = .done (some tokenId) (.ok r)) (hq : s.phase q = .done (some tokenId) (.ok r')) :
    (cfg.request p).registrationId = (cfg.request q).registrationId ∧ r = r' := by
  obtain ⟨c, hc, htoken, hregistration, hanswer⟩ := h.calls.results p tokenId r hp
  obtain ⟨c', hc', htoken', hregistration', hanswer'⟩ := h.calls.results q tokenId r' hq
  have hsame : c = c' := h.books.once.eq_of_mem hc hc' (htoken.trans htoken'.symm)
  rw [← hregistration, ← hregistration', ← hanswer, ← hanswer', hsame]
  exact ⟨rfl, rfl⟩

theorem Books.validates (h : Books cfg s) {c : Creation} (hc : c ∈ s.created) :
    validateAgentCredential cfg s.agents c.response.credential = .ok c.agent := by
  have hmem : c.agent ∈ s.agents := by
    rw [h.agents]
    exact List.mem_map_of_mem hc
  have hsound := h.created c hc
  unfold validateAgentCredential
  rw [← hsound.credentialPrefix, h.prefixes.selectOne_eq hmem]
  dsimp only
  rw [if_neg (by rw [hsound.credentialHash]; exact fun hne => hne rfl)]

theorem Inv.registersOnce (h : Inv cfg s) : RegistersOnce cfg s where
  once := length_filter_le_one h.books.tokenNodup
  consumed a ha := by
    rw [h.books.agents] at ha
    obtain ⟨c, hc, rfl⟩ := List.mem_map.mp ha
    have hsound := h.books.created c hc
    exact ⟨c, hc, rfl, hsound.token.symm, hsound.active, hsound.unexpired⟩
  same p q tokenId r r' hp hq _ := by
    rw [(h.one_registration hp hq).2]
    exact ⟨rfl, rfl⟩
  validates p tokenId r hp := by
    obtain ⟨c, hc, htoken, -, rfl⟩ := h.calls.results p tokenId r hp
    have hsound := h.books.created c hc
    exact ⟨c.agent, h.books.validates hc, hsound.agentId.symm, hsound.token.trans htoken⟩
  others p q tokenId r result hp hq hne := by
    cases result with
    | error code => exact ⟨code, rfl⟩
    | ok r' => exact absurd (h.one_registration hp hq).1.symm hne

/-- **ONE REGISTRATION PER BOOTSTRAP TOKEN**, over every run; and a call that
    fails changes no token, no agent and no replay row in any of its steps. -/
theorem registers_once (cfg : Config) {steps : List (Stepped State Label)} {s : State}
    (h : Trace (registrationSystem cfg) .initial steps s) :
    RegistersOnce cfg s ∧
      ∀ p tokenId code, s.phase p = .done tokenId (.error code) →
        ∀ x ∈ steps, x.label.caller = some p → x.after.tables = x.before.tables := by
  constructor
  · have hreach : Reachable (registrationSystem cfg) anyStep s :=
      ⟨.initial, rfl, h.run fun _ _ => trivial⟩
    have hinit : ∀ s : State, s = .initial → Inv cfg s := by
      rintro s rfl
      exact Inv.initial
    have hinv : Inv cfg s := hreach.invariant hinit fun t a u ht _ hst => ht.step hst
    exact hinv.registersOnce
  · intro p tokenId code hp
    exact Trace.unsuccessful h (by rw [hp]; rfl)

/-- Two calls retry one registration, a third comes with another id. -/
def demoConfig : Config where
  request p := ⟨some ⟨7, 70⟩, if p = 2 then "second" else "first", "prod-web-01", "1.0.0"⟩
  sha256Hex raw := raw.secretPart
  encrypt iv credential := some [iv, credential.idPart, credential.secretPart]
  decrypt version envelope :=
    match envelope with
    | [_, idPart, secretPart] => if version = ENCRYPTION_VERSION then some ⟨idPart, secretPart⟩ else none
    | _ => none
  decrypt_encrypt iv credential ciphertext h := by
    injection h with h
    subst h
    rfl

/-- The first call registers, its response is lost, and two more calls follow. -/
def demoRun : List Label :=
  [.createBootstrapToken 0 1 ⟨7, 70⟩ 1000, .call 0, .call 1, .call 2] ++
    List.replicate 8 (.step 0 { credential := ⟨9, 90⟩ }) ++ List.replicate 3 (.step 1 {}) ++
    List.replicate 4 (.step 2 {})

theorem registers_once_demo :
    ∃ steps s, Trace (registrationSystem demoConfig) .initial steps s ∧ RegistersOnce demoConfig s ∧
      s.phase 1 = .done (some 0) (.ok ⟨"prod-web-01", ⟨9, 90⟩, "1.0.0", none, none⟩) ∧
      s.phase 2 = .done (some 0) (.error CERTOPS_AGENT_REGISTRATION_UNAUTHORIZED) := by
  have hrun : (traceOf (next demoConfig) demoRun ([], .initial)).map (fun r => (r.2.phase 1, r.2.phase 2)) =
      some (.done (some 0) (.ok ⟨"prod-web-01", ⟨9, 90⟩, "1.0.0", none, none⟩),
        .done (some 0) (.error CERTOPS_AGENT_REGISTRATION_UNAUTHORIZED)) := by
    rfl
  obtain ⟨⟨steps, s⟩, hplay, hphases⟩ := Option.map_eq_some_iff.mp hrun
  have htrace : Trace (registrationSystem demoConfig) .initial steps s :=
    Trace.of_traceOf (fun _ _ _ h => h) .nil hplay
  injection hphases with h1 h2
  exact ⟨steps, s, htrace, (registers_once demoConfig htrace).1, h1, h2⟩

end TokenTimer.CertOps.Registration
