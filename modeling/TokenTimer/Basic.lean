/-
  TokenTimer.Basic — what every service of the control plane shares.

    * `ServiceError` — the `serviceError(message, code)` a service throws.
    * `AgentRow` — the columns of `certops_agents` that dispatch, the lease
      reaper and the signing-key rotation read or write, and the statements on
      them (`enforceAgentSequence`, the heartbeat and claim touch, the stale
      sweep, retirement).
    * `jsTrim` — `String.prototype.trim`.

  Row identifiers (`UUID`s) are `Nat`s; times are milliseconds on ONE clock.
-/

import TokenTimer.Lib.Table

namespace TokenTimer

open Lib.Table

/-! ## §1. Errors. -/

structure ServiceError where
  message : String
  code : String
deriving DecidableEq, Repr

/-- A guard of the source: `if (!cond) throw error`. -/
def require (cond : Bool) (error : ServiceError) : Except ServiceError Unit :=
  if cond then .ok () else .error error

@[simp] theorem require_ok {c : Bool} {e : ServiceError} {u : Unit} :
    require c e = .ok u ↔ c = true := by
  unfold require
  by_cases hc : c <;> simp [hc]

/-- THE PEELING RULE of a fallible computation: a bind that succeeds is two
    computations that succeed. -/
theorem bind_ok {ε α β : Type} {x : Except ε α} {f : α → Except ε β} {b : β} :
    (x >>= f) = .ok b ↔ ∃ a, x = .ok a ∧ f a = .ok b := by
  cases x <;> simp [bind, Except.bind]

/-- A computed reply that is there. -/
theorem ok_of_map {ε α β : Type} {x : Except ε α} {f : α → β} {b : β}
    (h : x.toOption.map f = some b) : ∃ a, x = .ok a ∧ f a = b := by
  cases x with
  | ok a => exact ⟨a, rfl, Option.some.inj h⟩
  | error e => cases h

theorem mem_of_mapM_ok {ε α β : Type} {f : α → Except ε β} {l : List α} {r : List β}
    (h : l.mapM f = .ok r) : ∀ b ∈ r, ∃ a ∈ l, f a = .ok b := by
  induction l generalizing r with
  | nil =>
    rw [List.mapM_nil] at h
    cases h
    exact List.forall_mem_nil _
  | cons a l ih =>
    rw [List.mapM_cons] at h
    obtain ⟨b, hb, h⟩ := bind_ok.mp h
    obtain ⟨bs, hbs, h⟩ := bind_ok.mp h
    cases h
    rw [List.forall_mem_cons]
    refine ⟨⟨a, List.mem_cons_self, hb⟩, fun c hc => ?_⟩
    obtain ⟨x, hx, hfx⟩ := ih hbs c hc
    exact ⟨x, List.mem_cons_of_mem _ hx, hfx⟩

/-! ## §2. JavaScript strings. -/

/-- WhiteSpace and LineTerminator of ECMAScript, what `trim` removes. -/
def isJsSpace (c : Char) : Bool :=
  c.toNat ∈ [0x9, 0xA, 0xB, 0xC, 0xD, 0x20, 0xA0, 0x1680, 0x2000, 0x2001, 0x2002, 0x2003,
    0x2004, 0x2005, 0x2006, 0x2007, 0x2008, 0x2009, 0x200A, 0x2028, 0x2029, 0x202F, 0x205F,
    0x3000, 0xFEFF]

/-- `String.prototype.trim`. -/
def jsTrim (s : String) : String :=
  String.ofList ((s.toList.dropWhile isJsSpace).reverse.dropWhile isJsSpace).reverse

/-! ## §3. The table `certops_agents`. -/

/-- `certops_agents.status`. -/
inductive AgentStatus
  | active | offline | retired
deriving DecidableEq, Repr

/-- `certops_agents.agent_kind`, assigned once at row creation. -/
inductive AgentKind
  | normal | diagnostic
deriving DecidableEq, Repr

/-- A row of `certops_agents`. -/
structure AgentRow where
  id : Nat
  workspaceId : Nat
  agentKind : AgentKind
  status : AgentStatus
  lastSeenAt : Option Nat
  createdAt : Nat
  pinnedSigningKeyId : Option String
  lastSequence : Nat
  retiredAt : Option Nat
deriving DecidableEq, Repr

def CERTOPS_AGENT_SEQUENCE_REGRESSION : String := "CERTOPS_AGENT_SEQUENCE_REGRESSION"
def CERTOPS_AGENT_RETIRED : String := "CERTOPS_AGENT_RETIRED"

/-- `enforceAgentSequence`.  The compare-and-swap on `last_sequence`; a message
    with no sequence passes only while the agent has never sent one. -/
def enforceAgentSequence (agents : List AgentRow) (agentRowId : Nat) (sequence : Option Nat) :
    Except ServiceError (List AgentRow) :=
  match sequence with
  | none =>
    let lastSequence :=
      ((selectOne (fun a => a.id = agentRowId) agents).map (·.lastSequence)).getD 0
    if lastSequence > 0 then
      .error
        { message := "Message carries no sequence but this agent already sends sequenced messages"
          code := CERTOPS_AGENT_SEQUENCE_REGRESSION }
    else .ok agents
  | some n =>
    if agents.any fun a => a.id = agentRowId ∧ a.lastSequence < n then
      .ok (updateWhere (fun a => a.id = agentRowId ∧ a.lastSequence < n)
        (fun a => { a with lastSequence := n }) agents)
    else
      .error
        { message :=
            "Message sequence is not greater than the last accepted sequence for this agent"
          code := CERTOPS_AGENT_SEQUENCE_REGRESSION }

/-- What an authenticated call does to its own row: the agent is seen, and an
    offline agent is active again. -/
def AgentRow.touch (now : Nat) (a : AgentRow) : AgentRow :=
  { a with
    lastSeenAt := some now
    status := if a.status = .offline then .active else a.status }

/-- The stale-agent sweep of the worker: `active` and not seen for
    `offlineAfterMs` goes `offline`. -/
def AgentRow.isStale (now offlineAfterMs : Nat) (a : AgentRow) : Bool :=
  a.status = .active ∧ (a.lastSeenAt.getD a.createdAt) + offlineAfterMs < now

/-- `retireAgent`'s UPDATE. -/
def retireAgentRow (now workspaceId agentRowId : Nat) (agents : List AgentRow) : List AgentRow :=
  updateWhere (fun a => a.workspaceId = workspaceId ∧ a.id = agentRowId ∧ a.status ≠ .retired)
    (fun a => { a with status := .retired, retiredAt := some now }) agents

/-- A sequence check that passes writes at most `last_sequence`. -/
theorem enforceAgentSequence_ok {agents agents' : List AgentRow} {i : Nat} {q : Option Nat}
    (h : enforceAgentSequence agents i q = .ok agents') :
    agents' = agents ∨ ∃ n, agents' = updateWhere (fun a => a.id = i ∧ a.lastSequence < n)
      (fun a => { a with lastSequence := n }) agents := by
  unfold enforceAgentSequence at h
  cases q with
  | none =>
    simp only at h
    split at h
    · cases h
    · left
      injection h with h
      exact h.symm
  | some n =>
    simp only at h
    split at h
    · right
      injection h with h
      exact ⟨n, h.symm⟩
    · cases h

end TokenTimer
