/-
  TokenTimer.Agent.OutboxDrain — one pass of `drainOutbox` over the entries it
  lists (`packages/agent/src/outbox/index.js`).

  A pass tries to send each entry that is due, in order.  What the client makes
  of an entry, what the rest of the process does to the directory meanwhile and
  which file operations fail are inputs.  A failed transmission is caught, and so
  is a failed acknowledgement; what fails inside the catch block is not, and ends
  the pass for all entries after it.

  Main results:
    * `turn_returns_iff` — when the turn of one entry ends.
    * `drainOutbox_unblocked_iff` — a pass is unblocked exactly if each of its
        catch blocks ends.
-/

import TokenTimer.Agent.OutboxSafety

namespace TokenTimer.Agent.OutboxDrain

open Lib.Faulty TokenTimer.Json

/-! ## §1. The pass. -/

/-- What comes of sending one entry: the last answer to its bodies, and what the
    rest of the process does while it is waited for. -/
structure Outcome where
  reply : Reply
  meanwhile : Disk → Disk

/-- The disk, the entries that were listed and those that were tried. -/
structure Pass where
  disk : Disk
  listed : List Entry
  attempted : List Entry

def onDisk {α : Type} (m : Outbox α) : Prog Pass FileError α :=
  onPart Pass.disk (fun disk pass => { pass with disk }) m

section Passes

variable (bytes : Content → Nat) (isPermanent : Failure → Entry → Option Bool) (client : Nat → Outcome)

/-- The bodies of the entry before the last one have been taken. -/
def begun (drain : Drain) (entry : Entry) : Drain := { drain with accepted := entry.evidence.length }

def turn (drain : Drain) (entry : Entry) (outcome : Outcome) : Prog Pass FileError Drain := do
  note fun pass =>
    { pass with disk := outcome.meanwhile pass.disk, attempted := pass.attempted ++ [entry] }
  onDisk (handleReply bytes isPermanent (begun drain entry) entry outcome.reply)

/-- The loop.  The head of `pending` is the next entry that is due; the client's
    outcomes are told apart by the number of entries left. -/
def drainTurns : Nat → Drain → Prog Pass FileError Drain
  | 0, drain => pure drain
  | n + 1, drain =>
    match drain.pending with
    | [] => pure drain
    | entry :: rest => do
      let drain' ← turn bytes isPermanent drain entry (client rest.length)
      drainTurns n drain'

def firstDrain (tag : Nat) (nowMs : Int) (pending : List Entry) : Drain :=
  Drain.skip ⟨tag, false, nowMs, pending, 0, 0, 0, 0, pending.length⟩

def drainOutbox (tag : Nat) (nowMs : Int) : Prog Pass FileError Drain := do
  let pending ← onDisk listOutboxEntries
  note fun pass => { pass with listed := pending }
  drainTurns bytes isPermanent client pending.length (firstDrain tag nowMs pending)

end Passes

/-- The pass returned, tried every listed entry that is due, and its counters add
    up to the entries listed. -/
def Unblocked (nowMs : Int) (run : Except (Stop FileError) Drain × World Pass FileError) : Prop :=
  ∃ drain, run.1 = .ok drain ∧
    run.2.state.attempted = run.2.state.listed.filter (isDueForRetry · nowMs) ∧
    drain.transmitted + drain.quarantined + drain.remaining = run.2.state.listed.length

/-! ## §2. The turn of one entry. -/

section Turns

variable {bytes : Content → Nat} {isPermanent : Failure → Entry → Option Bool} {client : Nat → Outcome}
  {drain drain' : Drain} {entry : Entry} {reply : Reply} {failure : Failure} {w w' : World Disk FileError}
  {nowMs : Int} {id : JsString} {cause : QuarantineCause}

/-- The `try` block: what it throws. -/
def transmit (drain : Drain) (entry : Entry) (reply : Reply) : Outbox (Option Failure) :=
  match reply.failure with
  | some failure => pure (some failure)
  | none => do
    let acknowledged ← attempt (acknowledgeOutboxEntry drain.tag entry.id)
    match acknowledged with
    | .ok _ => pure none
    | .error error => pure (some (.file error))

/-- The entry with its failure on record is given up. -/
def givenUp (isPermanent : Failure → Entry → Option Bool) (failure : Failure) (updated : Entry)
    (nowMs : Int) : Bool :=
  (isPermanent failure updated).getD false || hasExceededTransientRetryWindow updated nowMs

/-- The catch block of an entry ends: the failure can be put on record, `onError`
    does not throw, and an entry that is given up is moved without an error other
    than that it is gone. -/
def Handled (bytes : Content → Nat) (isPermanent : Failure → Entry → Option Bool) (drain : Drain)
    (entry : Entry) (reply : Reply) (failure : Failure) (w : World Disk FileError) : Prop :=
  reply.onErrorThrows = false ∧
  ∃ updated w', recordTransmissionFailure bytes entry failure drain.nowMs reply.retryInMs
      ⟨{ w.state with history := w.state.history ++ [.failed entry.id] }, w.script⟩ = (.ok updated, w') ∧
    (givenUp isPermanent failure updated drain.nowMs = true →
      ∃ moved w'', quarantineOutboxEntry bytes entry.id drain.nowMs
        ⟨(isPermanent failure updated).getD false, 0⟩ w' = (.ok moved, w''))

def TurnEnds (bytes : Content → Nat) (isPermanent : Failure → Entry → Option Bool) (drain : Drain)
    (entry : Entry) (reply : Reply) (w : World Disk FileError) : Prop :=
  ∀ failure w', transmit drain entry reply w = (.ok (some failure), w') →
    Handled bytes isPermanent drain entry reply failure w'

/-- A turn is the `try` block and the catch block. -/
theorem handleReply_eq (hsingle : drain.single = false) (haccepted : drain.accepted = entry.evidence.length) :
    handleReply bytes isPermanent drain entry reply = (do
      let thrown ← transmit drain entry reply
      match thrown with
      | none => pure (drain.next 1 0)
      | some failure => failEntry bytes isPermanent drain entry failure reply) := by
  unfold handleReply transmit transmissionFailed
  rw [haccepted, hsingle]
  cases reply.failure with
  | some failure => rfl
  | none =>
    rw [if_neg (Nat.lt_irrefl _)]
    dsimp only
    rw [bind_assoc]
    refine congrArg (bind _) (funext fun result => ?_)
    cases result <;> rfl

/-! ### No operation but a crash stops what is caught. -/

theorem survives_removal {unlink : Outbox Unit} (h : Survives unlink) : Survives (removal unlink) := by
  refine Survives.bind (Survives.attempt (Survives.bind h fun _ => Survives.tick)) fun result => ?_
  cases result with
  | ok _ => exact Survives.pure
  | error error =>
    cases error with
    | enoent => exact Survives.pure
    | other => exact Survives.raise

theorem survives_writeFileAtomically {name : JsString} {content : Content} {events : List Event} :
    Survives (writeFileAtomically bytes name content events) :=
  Survives.bind Survives.tick fun _ => Survives.bind Survives.op fun _ =>
    Survives.bind Survives.tick fun _ => Survives.tick

theorem survives_recordTransmissionFailure {retryInMs : Int} :
    Survives (recordTransmissionFailure bytes entry failure nowMs retryInMs) := by
  refine Survives.bind Survives.tick fun _ => Survives.ite Survives.pure ?_
  exact Survives.bind (Survives.attempt survives_writeFileAtomically) fun _ => Survives.pure

theorem survives_stampEntry : Survives (stampEntry bytes id nowMs) := by
  refine Survives.bind Survives.op fun parsed => ?_
  cases parsed.stamped nowMs with
  | none => exact Survives.pure
  | some content =>
    exact Survives.bind Survives.tick fun _ => Survives.ite survives_writeFileAtomically Survives.pure

theorem survives_moveEntry : Survives (moveEntry id cause) := by
  refine Survives.bind (Survives.attempt Survives.op) fun result => ?_
  cases result with
  | ok _ => exact Survives.bind Survives.tick fun _ => Survives.bind Survives.tick fun _ =>
      Survives.bind Survives.tick fun _ => Survives.pure
  | error error =>
    cases error with
    | enoent => exact Survives.pure
    | other => exact Survives.raise

theorem survives_quarantineOutboxEntry : Survives (quarantineOutboxEntry bytes id nowMs cause) := by
  refine Survives.bind Survives.tick fun _ => Survives.bind (Survives.attempt survives_stampEntry) fun result => ?_
  cases result with
  | ok _ => exact survives_moveEntry
  | error error =>
    cases error with
    | enoent => exact Survives.pure
    | other => exact survives_moveEntry

theorem survives_failEntry : Survives (failEntry bytes isPermanent drain entry failure reply) := by
  refine Survives.bind Survives.note fun _ => Survives.bind survives_recordTransmissionFailure fun updated => ?_
  refine Survives.ite Survives.raise (Survives.ite ?_ Survives.pure)
  exact Survives.bind survives_quarantineOutboxEntry fun _ => Survives.pure

theorem survives_transmit : Survives (transmit drain entry reply) := by
  unfold transmit
  cases reply.failure with
  | some failure => exact Survives.pure
  | none =>
    refine Survives.bind (Survives.attempt (survives_removal Survives.op)) fun result => ?_
    cases result <;> exact Survives.pure

theorem survives_readEntriesFromDir {dir : Disk → List File} : Survives (readEntriesFromDir dir) := by
  refine Survives.bind (Survives.bind (Survives.attempt Survives.op) fun result => ?_) fun files =>
    Survives.collect fun file => ?_
  · cases result <;> exact Survives.pure
  · unfold readEntryFile
    refine Survives.ite (Survives.bind (Survives.attempt Survives.tick) fun result => ?_) Survives.pure
    cases result <;> exact Survives.pure

/-- The `try` block always ends. -/
theorem transmit_returns (hw : NoCrash w.script) :
    ∃ thrown w', transmit drain entry reply w = (.ok thrown, w') ∧ NoCrash w'.script := by
  unfold transmit
  cases reply.failure with
  | some failure => exact ⟨some failure, w, rfl, hw⟩
  | none =>
    obtain ⟨result, w', hrun, hw'⟩ := (survives_removal
      (Survives.op : Survives (unlinkOutbox (entryName entry.id) (.acknowledged drain.tag entry.id)))).attempt_returns hw
    have hrun : attempt (acknowledgeOutboxEntry drain.tag entry.id) w = (.ok result, w') := hrun
    dsimp only
    rw [bind_of_ok hrun]
    cases result with
    | ok _ => exact ⟨none, w', rfl, hw'⟩
    | error error => exact ⟨some (.file error), w', rfl, hw'⟩

theorem failEntry_returns_iff :
    (∃ drain' w', failEntry bytes isPermanent drain entry failure reply w = (.ok drain', w')) ↔
      Handled bytes isPermanent drain entry reply failure w := by
  unfold failEntry Handled
  rw [bind_of_ok (a := ()) (rfl : note _ w = (.ok (), _))]
  rcases hrecord : recordTransmissionFailure bytes entry failure drain.nowMs reply.retryInMs
      ⟨{ w.state with history := w.state.history ++ [.failed entry.id] }, w.script⟩ with ⟨stop | updated, w₁⟩
  · constructor
    · rintro ⟨drain', w', heq⟩
      rw [bind_of_error hrecord] at heq
      cases heq
    · rintro ⟨-, updated, w', heq, -⟩
      cases heq
  rw [bind_of_ok hrecord]
  cases hthrows : reply.onErrorThrows with
  | true =>
    rw [if_pos rfl]
    constructor
    · rintro ⟨drain', w', heq⟩
      cases heq
    · rintro ⟨hfalse, -⟩
      cases hfalse
  | false =>
    rw [if_neg Bool.noConfusion]
    cases hgiven : givenUp isPermanent failure updated drain.nowMs with
    | false =>
      refine iff_of_true ?_ ⟨rfl, updated, w₁, rfl, fun h => nomatch h.symm.trans hgiven⟩
      unfold givenUp at hgiven
      rw [hgiven, if_neg Bool.noConfusion]
      exact ⟨_, _, rfl⟩
    | true =>
      unfold givenUp at hgiven
      rw [hgiven, if_pos rfl]
      rcases hmove : quarantineOutboxEntry bytes entry.id drain.nowMs
          ⟨(isPermanent failure updated).getD false, 0⟩ w₁ with ⟨stop | moved, w₂⟩
      · constructor
        · rintro ⟨drain', w', heq⟩
          rw [bind_of_error hmove] at heq
          cases heq
        · rintro ⟨-, updated', w', heq, hmoved⟩
          cases heq
          obtain ⟨moved, w'', heq⟩ := hmoved hgiven
          rw [hmove] at heq
          cases heq
      · rw [bind_of_ok hmove]
        refine iff_of_true ⟨_, _, rfl⟩ ⟨rfl, updated, w₁, rfl, fun _ => ⟨moved, w₂, hmove⟩⟩

/-- **WHEN THE TURN OF AN ENTRY ENDS**: exactly if what its `try` block throws is
    handled. -/
theorem turn_returns_iff (hsingle : drain.single = false) (haccepted : drain.accepted = entry.evidence.length)
    (hw : NoCrash w.script) :
    (∃ drain' w', handleReply bytes isPermanent drain entry reply w = (.ok drain', w')) ↔
      TurnEnds bytes isPermanent drain entry reply w := by
  rw [handleReply_eq hsingle haccepted]
  obtain ⟨thrown, w₁, htransmit, -⟩ := transmit_returns hw
  rw [bind_of_ok htransmit]
  unfold TurnEnds
  cases thrown with
  | none =>
    refine iff_of_true ⟨_, _, rfl⟩ fun failure w' heq => ?_
    rw [htransmit] at heq
    cases heq
  | some failure =>
    dsimp only
    rw [failEntry_returns_iff]
    constructor
    · intro h failure' w' heq
      rw [htransmit] at heq
      cases heq
      exact h
    · exact fun h => h failure w₁ htransmit

theorem turn_next (hsingle : drain.single = false) (haccepted : drain.accepted = entry.evidence.length)
    (h : handleReply bytes isPermanent drain entry reply w = (.ok drain', w')) :
    ∃ transmitted quarantined, transmitted + quarantined ≤ 1 ∧ drain' = drain.next transmitted quarantined := by
  have htriple : Triple (fun _ => True) (handleReply bytes isPermanent drain entry reply)
      (fun drain' _ => ∃ transmitted quarantined, transmitted + quarantined ≤ 1 ∧
        drain' = drain.next transmitted quarantined) (fun _ _ => True) := by
    rw [handleReply_eq hsingle haccepted]
    refine Triple.bind (Q := fun _ _ => True) Triple.top fun thrown => ?_
    cases thrown with
    | none => exact Triple.pure fun _ _ => ⟨1, 0, Nat.le_refl 1, rfl⟩
    | some failure =>
      refine Triple.bind (Q := fun _ _ => True) Triple.top fun _ => ?_
      refine Triple.bind (Q := fun _ _ => True) Triple.top fun updated => ?_
      refine Triple.ite (fun _ => Triple.raise fun _ _ => trivial) fun _ => Triple.ite (fun _ => ?_) fun _ => ?_
      · refine Triple.bind (Q := fun _ _ => True) Triple.top fun moved => Triple.pure fun _ _ => ?_
        refine ⟨0, moved.toNat, ?_, rfl⟩
        cases moved <;> decide
      · exact Triple.pure fun _ _ => ⟨0, 0, Nat.zero_le 1, rfl⟩
  have hpost := htriple w trivial
  rw [h] at hpost
  exact hpost

theorem survives_handleReply (hsingle : drain.single = false)
    (haccepted : drain.accepted = entry.evidence.length) :
    Survives (handleReply bytes isPermanent drain entry reply) := by
  rw [handleReply_eq hsingle haccepted]
  refine Survives.bind survives_transmit fun thrown => ?_
  cases thrown with
  | none => exact Survives.pure
  | some failure => exact survives_failEntry

end Turns

/-! ## §3. The pass. -/

section Turns

variable {bytes : Content → Nat} {isPermanent : Failure → Entry → Option Bool} {client : Nat → Outcome}
  {drain drain' : Drain} {entry : Entry} {entries listed : List Entry} {nowMs : Int} {tag : Nat}
  {pass : Pass} {w w' : World Pass FileError} {script : List (Fault FileError)}

/-- The world of the disk as the client's answer for `entry` finds it. -/
def answered (outcome : Outcome) (w : World Pass FileError) : World Disk FileError :=
  ⟨outcome.meanwhile w.state.disk, w.script⟩

def afterTurn (entry : Entry) (w : World Pass FileError) (w' : World Disk FileError) :
    World Pass FileError :=
  ⟨{ disk := w'.state, listed := w.state.listed, attempted := w.state.attempted ++ [entry] }, w'.script⟩

def TurnsEnd (bytes : Content → Nat) (isPermanent : Failure → Entry → Option Bool) (client : Nat → Outcome) :
    Nat → Drain → World Pass FileError → Prop
  | 0, _, _ => True
  | n + 1, drain, w =>
    match drain.pending with
    | [] => True
    | entry :: rest =>
      let outcome := client rest.length
      TurnEnds bytes isPermanent (begun drain entry) entry outcome.reply (answered outcome w) ∧
        ∀ drain' w', handleReply bytes isPermanent (begun drain entry) entry outcome.reply
            (answered outcome w) = (.ok drain', w') →
          TurnsEnd bytes isPermanent client n drain' (afterTurn entry w w')

theorem turn_eq {outcome : Outcome} {result : Except (Stop FileError) Drain} {w' : World Disk FileError}
    (h : handleReply bytes isPermanent (begun drain entry) entry outcome.reply (answered outcome w) =
      (result, w')) : turn bytes isPermanent drain entry outcome w = (result, afterTurn entry w w') := by
  unfold turn
  rw [bind_of_ok (a := ()) (rfl : note _ w = (.ok (), _))]
  unfold onDisk onPart
  unfold answered at h
  dsimp only
  rw [h]
  rfl

structure Going (drain : Drain) (nowMs : Int) (pass : Pass) : Prop where
  single : drain.single = false
  clock : drain.nowMs = nowMs
  due : ∀ entry rest, drain.pending = entry :: rest → isDueForRetry entry nowMs = true
  tried : pass.attempted ++ drain.pending.filter (isDueForRetry · nowMs) =
    pass.listed.filter (isDueForRetry · nowMs)
  left : drain.pending.length ≤ drain.remaining
  counted : drain.transmitted + drain.quarantined + drain.remaining = pass.listed.length

variable {p : Entry → Bool} {rest : List Entry} {transmitted quarantined : Nat}

theorem filter_dropWhile_not (entries : List Entry) :
    (entries.dropWhile fun e => !p e).filter p = entries.filter p := by
  induction entries with
  | nil => rfl
  | cons e rest ih =>
    rw [List.dropWhile_cons]
    cases hp : p e with
    | true => rfl
    | false =>
      rw [List.filter_cons_of_neg (by rw [hp]; exact Bool.noConfusion)]
      exact ih

theorem head_dropWhile {entries : List Entry}
    (h : (entries.dropWhile fun e => !p e) = entry :: rest) : p entry = true := by
  have hhead := List.head?_dropWhile_not (fun e => !p e) entries
  rw [h] at hhead
  simpa using hhead

theorem Going.skip {attempted : List Entry} (hsingle : drain.single = false) (hclock : drain.nowMs = nowMs)
    (htried : attempted ++ drain.pending.filter (isDueForRetry · nowMs) =
      listed.filter (isDueForRetry · nowMs))
    (hleft : drain.pending.length ≤ drain.remaining)
    (hcounted : drain.transmitted + drain.quarantined + drain.remaining = listed.length) (disk : Disk) :
    Going drain.skip nowMs ⟨disk, listed, attempted⟩ := by
  refine ⟨hsingle, hclock, fun entry rest h => ?_, ?_, ?_, hcounted⟩
  · subst hclock
    exact head_dropWhile (p := fun e => isDueForRetry e drain.nowMs) h
  · subst hclock
    unfold Drain.skip
    dsimp only
    rw [filter_dropWhile_not]
    exact htried
  · exact (List.dropWhile_sublist _).length_le.trans hleft

theorem Going.next {entry : Entry} (h : Going drain nowMs pass)
    (hpending : drain.pending = entry :: rest) (hcount : transmitted + quarantined ≤ 1)
    (disk : Disk) :
    Going ((begun drain entry).next transmitted quarantined) nowMs
      ⟨disk, pass.listed, pass.attempted ++ [entry]⟩ := by
  have hleft := h.left
  have hcounted := h.counted
  have htried := h.tried
  rw [hpending, List.length_cons] at hleft
  rw [hpending, List.filter_cons_of_pos (p := fun e => isDueForRetry e nowMs)
    (h.due entry rest hpending)] at htried
  unfold Drain.next begun
  dsimp only
  rw [h.single, if_neg Bool.noConfusion]
  apply Going.skip
  case hsingle => rfl
  case hclock => exact h.clock
  case htried =>
    dsimp only
    rw [hpending, List.tail_cons, List.append_assoc]
    exact htried
  case hleft =>
    dsimp only
    rw [hpending, List.tail_cons]
    omega
  case hcounted =>
    dsimp only
    omega

theorem next_pending_length (hpending : drain.pending = entry :: rest) :
    ((begun drain entry).next transmitted quarantined).pending.length ≤ rest.length := by
  unfold Drain.next Drain.skip begun
  dsimp only
  split
  · rw [hpending]
    exact Nat.le_refl _
  · rw [hpending]
    exact (List.dropWhile_sublist _).length_le

/-- A pass with nothing left to send. -/
theorem Going.done (h : Going drain nowMs w.state) (hnil : drain.pending = []) :
    Unblocked nowMs (.ok drain, w) := by
  refine ⟨drain, rfl, ?_, h.counted⟩
  have htried := h.tried
  rw [hnil, List.filter_nil, List.append_nil] at htried
  exact htried

/-- **A PASS IS UNBLOCKED** from where it stands exactly if its turns end. -/
theorem drainTurns_unblocked_iff (n : Nat) (drain : Drain) (w : World Pass FileError)
    (h : Going drain nowMs w.state) (hn : drain.pending.length ≤ n) (hw : NoCrash w.script) :
    Unblocked nowMs (drainTurns bytes isPermanent client n drain w) ↔
      TurnsEnd bytes isPermanent client n drain w := by
  induction n generalizing drain w with
  | zero =>
    exact iff_of_true (h.done (List.length_eq_zero_iff.mp (Nat.le_zero.mp hn))) trivial
  | succ n ih =>
    unfold drainTurns TurnsEnd
    cases hpending : drain.pending with
    | nil => exact iff_of_true (h.done hpending) trivial
    | cons entry rest =>
      dsimp only
      rw [hpending, List.length_cons] at hn
      have hturn : (∃ drain' w', handleReply bytes isPermanent (begun drain entry) entry
            (client rest.length).reply (answered (client rest.length) w) = (.ok drain', w')) ↔
          TurnEnds bytes isPermanent (begun drain entry) entry (client rest.length).reply
            (answered (client rest.length) w) := turn_returns_iff h.single rfl hw
      have hsurvives : Survives (handleReply bytes isPermanent (begun drain entry) entry
          (client rest.length).reply) := survives_handleReply h.single rfl
      have hscript := hsurvives (answered (client rest.length) w) hw
      rcases hrun : handleReply bytes isPermanent (begun drain entry) entry (client rest.length).reply
          (answered (client rest.length) w) with ⟨stop | drain', w'⟩
      · rw [bind_of_error (turn_eq hrun)]
        rw [hrun] at hturn
        refine iff_of_false ?_ fun hends => ?_
        · rintro ⟨drain', heq, -⟩
          cases heq
        · obtain ⟨drain', w', heq⟩ := hturn.mpr hends.1
          cases heq
      · rw [bind_of_ok (turn_eq hrun)]
        obtain ⟨transmitted, quarantined, hcount, rfl⟩ :=
          turn_next (show (begun drain entry).single = false from h.single) rfl hrun
        rw [hrun] at hscript hturn
        have hgoing := h.next hpending hcount w'.state
        have hlength : ((begun drain entry).next transmitted quarantined).pending.length ≤ n :=
          (next_pending_length hpending).trans (Nat.le_of_succ_le_succ hn)
        rw [ih _ (afterTurn entry w w') hgoing hlength hscript.1]
        constructor
        · intro hends
          refine ⟨hturn.mp ⟨_, _, rfl⟩, fun drain' w'' heq => ?_⟩
          cases heq
          exact hends
        · exact fun hends => hends.2 _ _ rfl

theorem listOutboxEntries_returns (hw : NoCrash w.script) :
    ∃ pending w', onDisk listOutboxEntries w = (.ok pending, w') ∧ NoCrash w'.script ∧
      w'.state.attempted = w.state.attempted := by
  have htriple : Triple (fun _ => True) listOutboxEntries (fun _ _ => True)
      (fun stop _ => stop = .crashed) := by
    refine Triple.bind (Q := fun _ _ => True) (Triple.bind (Q := fun _ _ => True) ?_ fun files =>
      Triple.collect fun file => ?_) fun _ => Triple.pure fun _ _ => trivial
    · refine Triple.bind (Q := fun _ _ => True) (Triple.attempt (Triple.op (fun _ _ _ _ _ => trivial) ?_))
        fun result => ?_
      · rintro (error | -) _ _
        · trivial
        · rfl
      · cases result <;> exact Triple.pure fun _ _ => trivial
    · unfold readEntryFile
      refine Triple.ite (fun _ => ?_) fun _ => Triple.pure fun _ _ => trivial
      refine Triple.bind (Q := fun _ _ => True) (Triple.attempt (Triple.tick (fun _ _ => trivial) ?_))
        fun result => ?_
      · rintro (error | -) _ _
        · trivial
        · rfl
      · cases result <;> exact Triple.pure fun _ _ => trivial
  have hsurvives : Survives listOutboxEntries :=
    Survives.bind survives_readEntriesFromDir fun _ => Survives.pure
  obtain ⟨hscript, hcrash⟩ := hsurvives ⟨w.state.disk, w.script⟩ hw
  have hpost := htriple ⟨w.state.disk, w.script⟩ trivial
  unfold onDisk onPart
  revert hscript hcrash hpost
  rcases listOutboxEntries ⟨w.state.disk, w.script⟩ with ⟨stop | pending, w'⟩
  · intro _ hcrash hstop
    exact absurd (congrArg Except.error hstop) hcrash
  · exact fun hscript _ _ => ⟨pending, _, rfl, hscript, rfl⟩

def PassEnds (bytes : Content → Nat) (isPermanent : Failure → Entry → Option Bool) (client : Nat → Outcome)
    (tag : Nat) (nowMs : Int) (w : World Pass FileError) : Prop :=
  ∀ pending w', onDisk listOutboxEntries w = (.ok pending, w') →
    TurnsEnd bytes isPermanent client pending.length (firstDrain tag nowMs pending)
      ⟨{ w'.state with listed := pending }, w'.script⟩

/-- **A STUCK ENTRY BLOCKS THE OTHERS EXACTLY WHERE ITS CATCH BLOCK THROWS**: where
    the process survives, a pass tries every listed entry that is due, and its
    counters add up, exactly if the turn of each entry ends. -/
theorem drainOutbox_unblocked_iff (bytes : Content → Nat) (isPermanent : Failure → Entry → Option Bool)
    (client : Nat → Outcome) (tag : Nat) (nowMs : Int) (disk : Disk) (script : List (Fault FileError))
    (hscript : NoCrash script) :
    Unblocked nowMs (drainOutbox bytes isPermanent client tag nowMs ⟨⟨disk, [], []⟩, script⟩) ↔
      PassEnds bytes isPermanent client tag nowMs ⟨⟨disk, [], []⟩, script⟩ := by
  obtain ⟨pending, w, hlist, hw, hattempted⟩ :=
    listOutboxEntries_returns (w := ⟨⟨disk, [], []⟩, script⟩) hscript
  unfold drainOutbox PassEnds
  rw [bind_of_ok hlist, bind_of_ok (a := ()) (rfl : note _ w = (.ok (), _))]
  have hgoing : Going (firstDrain tag nowMs pending) nowMs { w.state with listed := pending } := by
    refine Going.skip rfl rfl ?_ (Nat.le_refl _) (Nat.zero_add _) w.state.disk
    rw [hattempted]
    rfl
  have hlength : (firstDrain tag nowMs pending).pending.length ≤ pending.length :=
    (List.dropWhile_sublist _).length_le
  refine (drainTurns_unblocked_iff pending.length (firstDrain tag nowMs pending)
    ⟨{ w.state with listed := pending }, w.script⟩ hgoing hlength hw).trans ?_
  constructor
  · intro hends pending' w' heq
    rw [hlist] at heq
    cases heq
    exact hends
  · exact fun hends => hends pending w hlist

/-- An entry that was never tried. -/
def freshEntry (id : String) : Entry where
  id := js id
  createdAt := ⟨js id, some 0⟩
  result := .null
  evidence := []
  attempts := none
  firstAttemptAt := none
  lastAttemptAt := none
  lastErrorMessage := none
  nextRetryAt := none
  quarantinedAt := none

def twoEntries : Disk :=
  ⟨[⟨js "a.json", .regular, 1, 0, .entry (freshEntry "a")⟩, ⟨js "b.json", .regular, 1, 0, .entry (freshEntry "b")⟩],
    [], 0, []⟩

def refusesFirst (left : Nat) : Outcome where
  reply := ⟨if left = 1 then some (.client (some 400) none) else none, 1000, false⟩
  meanwhile := id

def passOverTwo (script : List (Fault FileError)) : Except (Stop FileError) Drain × World Pass FileError :=
  drainOutbox (fun _ => 1) (fun failure _ => some (defaultIsPermanentFailure failure)) refusesFirst 0 0
    ⟨⟨twoEntries, [], []⟩, script⟩

/-- What the counters of a pass add up to. -/
def countedEntries (run : Except (Stop FileError) Drain × World Pass FileError) : Option Nat :=
  run.1.toOption.map fun drain => drain.transmitted + drain.quarantined + drain.remaining

/-- The first fifteen calls pass and the rename to `dead-letter` fails. -/
def failedRename : List (Fault FileError) := List.replicate 15 .pass ++ [.throws (.other (js "EIO"))]

/-- The second of two entries is tried although the first is given up. -/
theorem drainOutbox_twoEntries :
    countedEntries (passOverTwo [.pass]) = some 2 ∧
      (passOverTwo [.pass]).2.state.attempted.map Entry.id = [js "a", js "b"] ∧
      (Unblocked 0 (passOverTwo [.pass]) ↔
        PassEnds (fun _ => 1) (fun failure _ => some (defaultIsPermanentFailure failure)) refusesFirst 0 0
          ⟨⟨twoEntries, [], []⟩, [.pass]⟩) := by
  refine ⟨by decide +kernel, by decide +kernel, ?_⟩
  exact drainOutbox_unblocked_iff (fun _ => 1) (fun failure _ => some (defaultIsPermanentFailure failure))
    refusesFirst 0 0 twoEntries [.pass] (by unfold NoCrash; decide)

/-- A rename to dead-letter that fails keeps the second entry from being tried. -/
theorem drainOutbox_blocked : NoCrash failedRename ∧ ¬ Unblocked 0 (passOverTwo failedRename) := by
  refine ⟨by unfold NoCrash; decide, ?_⟩
  have hcounted : countedEntries (passOverTwo failedRename) = none := by decide +kernel
  rintro ⟨drain, hresult, -⟩
  unfold countedEntries at hcounted
  rw [hresult] at hcounted
  cases hcounted

end Turns

end TokenTimer.Agent.OutboxDrain
