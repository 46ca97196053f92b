/-
  TokenTimer.Agent.TrustRemoval — a revocation that succeeds has removed the
  anchor.

  What a receipt says has to be so: an installed anchor is there to be seen, a
  removed one is gone, and on Linux its removal has reached the derived bundle.
  Every operation of the agent keeps this, but for the one conclusion drawn from
  seeing nothing: a revocation whose probe fails takes the anchor to be gone.  On
  Linux, a removal already begun is done again and needs no probe.

  Main results:
    * `Truthful.distributeTrust`, `Truthful.revokeTrust` — the invariant, and the
        answer of a revocation, for each job.
    * `revoke_removes` — without a failure category the anchor is gone; a
        probe that fails over an anchor says so of one
        that is there.
-/

import TokenTimer.Agent.TrustOwnership

namespace TokenTimer.Agent

open Lib.Faulty Lib.Runs

/-! ## §1. The invariant. -/

/-- The anchor is out of the store; of a file, the refresh command has succeeded
    since it was there. -/
def TrustHost.Gone (family : Family) (host : TrustHost) : Prop :=
  host.anchor = none ∧ (family ≠ .windows → host.refreshed = true)

/-- A probe that failed before a deletion failed over nothing, or in a removal
    that is done again. -/
def TrustEvent.Sighted (family : Family) : TrustEvent → Prop
  | .overlooked .revoking anchor receipt =>
    anchor = none ∨ (family ≠ .windows ∧ receipt.inState .pendingRemove = true)
  | _ => True

/-- A history of such events. -/
def TrustHost.Sighted (family : Family) (host : TrustHost) : Prop :=
  ∀ event ∈ host.history, event.Sighted family

/-- The receipt is right about the store. -/
structure TrustHost.Accounted (family : Family) (host : TrustHost) : Prop where
  installed : host.receipt.inState .installed = true → host.visible family = true
  removed : host.receipt.inState .removed = true → host.Gone family

/-- Nobody else is at work, and the receipt is right where no probe failed. -/
def Truthful (family : Family) (host : TrustHost) : Prop :=
  host.others = [] ∧ (host.Sighted family → host.Accounted family)

def UnderWay (row : ReceiptRow) (host : TrustHost) : Prop :=
  host.others = [] ∧ host.receipt = .found row ∧
    (row.state = .pendingInstall ∨ row.state = .pendingRemove)

/-- A removal under way of an anchor that is gone. -/
def GoneUnder (family : Family) (row : ReceiptRow) (host : TrustHost) : Prop :=
  host.others = [] ∧ host.receipt = .found row ∧ row.state = .pendingRemove ∧
    (host.Sighted family → host.Gone family)

variable {family : Family} {host : TrustHost} {row : ReceiptRow} {job : TrustJob}

/-- What implies that nobody else is at work, they do not break. -/
theorem robust_of_alone {P : TrustHost → Prop} (h : ∀ host, P host → host.others = []) :
    Robust family P := by
  intro host hP
  unfold TrustHost.interfered
  rw [h host hP]
  exact hP

theorem robust_truthful : Robust family (Truthful family) := robust_of_alone fun _ h => h.1

theorem robust_underWay : Robust family (UnderWay row) := robust_of_alone fun _ h => h.1

theorem robust_goneUnder : Robust family (GoneUnder family row) := robust_of_alone fun _ h => h.1

theorem UnderWay.truthful (h : UnderWay row host) : Truthful family host := by
  obtain ⟨halone, hreceipt, hstate⟩ := h
  refine ⟨halone, fun _ => ⟨fun hinstalled => ?_, fun hremoved => ?_⟩⟩
  · rw [hreceipt] at hinstalled
    have hrow : row.state = .installed := of_decide_eq_true hinstalled
    rw [hrow] at hstate
    simp at hstate
  · rw [hreceipt] at hremoved
    have hrow : row.state = .removed := of_decide_eq_true hremoved
    rw [hrow] at hstate
    simp at hstate

theorem GoneUnder.underWay (h : GoneUnder family row host) : UnderWay row host :=
  ⟨h.1, h.2.1, .inr h.2.2.1⟩

theorem TrustHost.Sighted.of_record (host : TrustHost) (event : TrustEvent)
    (h : (host.record event).Sighted family) : host.Sighted family ∧ event.Sighted family :=
  ⟨fun e he => h e (List.mem_append_left _ he), h event (List.mem_append_right _ List.mem_cons_self)⟩

variable {failureCategory : FailureCategory} {observer : Observer}

theorem Truthful.noted {found : Bool} (h : Truthful family host) :
    Truthful family (observer.noted found host) :=
  ⟨h.1, fun hsighted => ⟨(h.2 hsighted).installed, (h.2 hsighted).removed⟩⟩

theorem Truthful.overlooked (h : Truthful family host) :
    Truthful family (host.overlookedBy observer) := by
  refine ⟨h.1, fun hsighted => ?_⟩
  have haccounted := h.2 (TrustHost.Sighted.of_record host _ hsighted).1
  exact ⟨haccounted.installed, haccounted.removed⟩

theorem keeps_observe_truthful :
    Keeps (Truthful family) (observe family observer) :=
  triple_observe robust_truthful (fun _ h => h.noted) (fun _ h => h.overlooked.noted) fun _ _ h => h

theorem keeps_readReceipt_truthful : Keeps (Truthful family) (readReceipt family) :=
  triple_readReceipt robust_truthful (fun _ h => h) (fun _ h => h) fun _ _ h => h

/-! ## §2. Mutations. -/

section Mutations

variable {G : TrustHost → Prop} {m : OnTrust Unit}

theorem triple_act_underWay {f : TrustHost → TrustHost}
    (h : ∀ host, UnderWay row host → UnderWay row (f host) ∧ G (f host)) :
    Triple (UnderWay row) (act family fun host => .ok ((), f host))
      (fun _ host => UnderWay row host ∧ G host) (fun _ => UnderWay row) :=
  triple_act_ok robust_underWay h fun _ _ h => h

theorem keeps_pause_underWay : Keeps (UnderWay row) (pause family) :=
  triple_pause robust_underWay fun _ _ h => h

/-- What a command that exits well has done stays done. -/
theorem triple_pause_underWay : Triple (fun host => UnderWay row host ∧ G host) (pause family)
    (fun _ host => UnderWay row host ∧ G host) (fun _ => UnderWay row) :=
  triple_pause (robust_of_alone fun _ h => h.1.1) fun _ _ h => h.1

theorem triple_command (hm : Triple (UnderWay row) m (fun _ host => UnderWay row host ∧ G host)
      (fun _ => UnderWay row)) :
    Triple (UnderWay row) (attempt m)
      (fun exit host => UnderWay row host ∧ (byExit exit = .ok → G host)) (fun _ => UnderWay row) := by
  refine Triple.attempt (hm.conseq (fun _ h => h) (fun _ _ h => ⟨h.1, fun _ => h.2⟩) ?_)
  intro stop host h
  cases stop with
  | thrown error => exact ⟨h, nofun⟩
  | crashed => exact h

end Mutations

theorem triple_addWindowsStoreEntry :
    Triple (UnderWay row) (addWindowsStoreEntry .windows)
      (fun mutation host => UnderWay row host ∧ (mutation = .ok → host.visible .windows = true))
      (fun _ => UnderWay row) := by
  have hadd : Triple (UnderWay row) (do
        act .windows fun host => .ok ((), host.addstore)
        pause .windows)
      (fun _ host => UnderWay row host ∧ host.visible .windows = true) (fun _ => UnderWay row) := by
    refine Triple.bind (triple_act_underWay fun host h => ⟨h, ?_⟩) fun _ => triple_pause_underWay
    unfold TrustHost.visible TrustHost.addstore
    cases host.anchor <;> rfl
  unfold addWindowsStoreEntry
  refine Triple.bind keeps_pause_underWay fun _ => Triple.bind keeps_pause_underWay fun _ => ?_
  refine Triple.bind (triple_command hadd) fun exit => ?_
  refine Triple.bind (Q := fun _ host =>
    UnderWay row host ∧ (byExit exit = .ok → host.visible .windows = true))
    (Triple.attempt (triple_pause (robust_of_alone fun _ h => h.1.1) ?_)) fun _ =>
      Triple.pure fun _ h => h
  intro stop host h
  cases stop with
  | thrown error => exact h
  | crashed => exact h.1

theorem UnderWay.written (h : UnderWay row host) (intact : Bool) : UnderWay row (host.written intact) := h

theorem triple_installLinuxAnchorFile :
    Triple (UnderWay row) (installLinuxAnchorFile family)
      (fun mutation host => UnderWay row host ∧ (mutation ≠ .writeFailed → host.visible family = true))
      (fun _ => UnderWay row) := by
  have hwrite : Triple (UnderWay row) (writeAnchorFile family)
      (fun _ host => UnderWay row host ∧ host.visible family = true) (fun _ => UnderWay row) := by
    unfold writeAnchorFile
    refine Triple.bind keeps_pause_underWay fun _ => ?_
    refine Triple.bind (Q := fun _ => UnderWay row)
      (triple_act_ok robust_underWay (fun _ h => h.written false) fun _ _ h => h) fun _ => ?_
    refine triple_act_underWay fun host h => ⟨h.written true, ?_⟩
    unfold TrustHost.visible TrustHost.written
    exact Bool.or_true _
  unfold installLinuxAnchorFile
  refine Triple.bind (triple_command hwrite) fun written => ?_
  cases written with
  | error error => exact Triple.pure fun _ h => ⟨h.1, fun hwritten => absurd rfl hwritten⟩
  | ok _ =>
    -- The file is there whether the refresh succeeds or not.
    have hrefresh : ∀ (E : Stop TrustError → TrustHost → Prop),
        (∀ stop host, UnderWay row host → host.visible family = true → E stop host) →
        Triple (fun host => UnderWay row host ∧ host.visible family = true) (refresh family)
          (fun _ host => UnderWay row host ∧ host.visible family = true) E := fun E hE =>
      triple_act_ok (robust_of_alone fun _ h => h.1.1) (fun _ h => h) fun stop host h =>
        hE stop host h.1 h.2
    refine Triple.bind (Q := fun _ host => UnderWay row host ∧ host.visible family = true)
      (Triple.attempt ((hrefresh _ ?_).conseq (fun _ h => ⟨h.1, h.2 rfl⟩) (fun _ _ h => h)
        fun _ _ h => h)) fun _ => Triple.pure fun _ h => ⟨h.1, fun _ => h.2⟩
    intro stop host h hvisible
    cases stop with
    | thrown error => exact ⟨h, hvisible⟩
    | crashed => exact h

theorem triple_installAnchor :
    Triple (UnderWay row) (installAnchor family)
      (fun mutation host => UnderWay row host ∧
        (mutation = .ok ∨ (mutation = .commandFailed ∧ family ≠ .windows) →
          host.visible family = true))
      (fun _ => UnderWay row) := by
  have hlinux : ∀ family, Triple (UnderWay row) (installLinuxAnchorFile family)
      (fun mutation host => UnderWay row host ∧
        (mutation = .ok ∨ (mutation = .commandFailed ∧ family ≠ .windows) →
          host.visible family = true))
      (fun _ => UnderWay row) := fun family =>
    triple_installLinuxAnchorFile.conseq (fun _ h => h)
      (fun mutation _ h => ⟨h.1, fun hdone => h.2 (by
        rintro rfl
        rcases hdone with hdone | hdone
        · cases hdone
        · cases hdone.1)⟩) fun _ _ h => h
  cases family with
  | windows =>
    refine triple_addWindowsStoreEntry.conseq (fun _ h => h) (fun mutation _ h => ⟨h.1, ?_⟩)
      fun _ _ h => h
    rintro (hok | hfailed)
    · exact h.2 hok
    · exact absurd rfl hfailed.2
  | debian => exact hlinux .debian
  | rhel => exact hlinux .rhel

theorem triple_removeWindowsStoreEntry :
    Triple (UnderWay row) (removeWindowsStoreEntry .windows)
      (fun mutation host => UnderWay row host ∧ (mutation = .ok → host.Gone .windows))
      (fun _ => UnderWay row) := by
  have hremove : Triple (UnderWay row) (do
        act .windows TrustHost.delstore
        pause .windows)
      (fun _ host => UnderWay row host ∧ host.Gone .windows) (fun _ => UnderWay row) := by
    refine Triple.bind (Q := fun _ host => UnderWay row host ∧ host.Gone .windows)
      (triple_act robust_underWay ?_ fun _ _ h => h) fun _ => triple_pause_underWay
    intro host _ host' h heq
    unfold TrustHost.delstore at heq
    cases hanchor : host.anchor with
    | none =>
      rw [hanchor] at heq
      cases heq
    | some anchor =>
      rw [hanchor] at heq
      injection heq with heq
      injection heq with _ heq
      subst heq
      exact ⟨h, rfl, fun hwindows => absurd rfl hwindows⟩
  unfold removeWindowsStoreEntry
  exact Triple.bind (triple_command hremove) fun exit => Triple.pure fun _ h => h

theorem UnderWay.unlinked (h : UnderWay row host) : UnderWay row host.unlinked := by
  unfold TrustHost.unlinked
  cases host.anchor with
  | none | some => exact h

theorem TrustHost.unlinked_anchor (host : TrustHost) : host.unlinked.anchor = none := by
  unfold TrustHost.unlinked
  cases hanchor : host.anchor with
  | none => exact hanchor
  | some anchor => rfl

theorem triple_removeLinuxAnchorFile :
    Triple (UnderWay row) (removeLinuxAnchorFile family)
      (fun mutation host => UnderWay row host ∧ (mutation = .ok → host.Gone family))
      (fun _ => UnderWay row) := by
  have hremove : Triple (UnderWay row) (do
        act family fun host => .ok ((), host.unlinked)
        refresh family)
      (fun _ host => UnderWay row host ∧ host.Gone family) (fun _ => UnderWay row) := by
    refine Triple.bind (triple_act_underWay (G := fun host => host.anchor = none) fun host h =>
      ⟨h.unlinked, host.unlinked_anchor⟩) fun _ => ?_
    refine triple_act_ok (robust_of_alone fun _ h => h.1.1) ?_ fun _ _ h => h.1
    rintro host ⟨h, hnone⟩
    refine ⟨h, hnone, fun _ => ?_⟩
    show host.anchor.isNone = true
    rw [hnone]
    rfl
  unfold removeLinuxAnchorFile
  exact Triple.bind (triple_command hremove) fun exit => Triple.pure fun _ h => h

theorem triple_removeAnchor :
    Triple (UnderWay row) (removeAnchor family)
      (fun mutation host => UnderWay row host ∧ (mutation = .ok → host.Gone family))
      (fun _ => UnderWay row) := by
  cases family with
  | windows => exact triple_removeWindowsStoreEntry
  | debian | rhel => exact triple_removeLinuxAnchorFile

/-! ## §3. `distributeTrust`. -/

theorem triple_intent {intentState : ReceiptState} {reclaimStalePending : Bool}
    (hpending : intentState = .pendingInstall ∨ intentState = .pendingRemove) :
    Triple (Truthful family)
      (writeIntentReceipt family job.jobId job.transitionGeneration intentState reclaimStalePending)
      (fun intent host => intent.state = intentState ∧ UnderWay intent host) (fun _ => Truthful family) := by
  refine (triple_writeIntentReceipt (R := UnderWay ⟨job.jobId, job.transitionGeneration, intentState⟩)
    robust_truthful robust_underWay (fun host h => ⟨h.1, rfl, hpending⟩) (fun _ _ h => h)
    fun _ _ h => h.truthful).conseq (fun _ h => h) ?_ fun _ _ h => h
  rintro intent host ⟨hintent, h⟩
  subst hintent
  exact ⟨rfl, h⟩

/-- A mutation that is finalized as an install is there to be seen. -/
theorem keeps_finishInstall {metadata : List MetadataName} :
    Triple (fun host => (UnderWay row host ∧ row.state = .pendingInstall) ∧ host.visible family = true)
      (finishInstall family job metadata) (fun _ => Truthful family) (fun _ => Truthful family) := by
  have hfinal : Triple
      (fun host => (UnderWay row host ∧ row.state = .pendingInstall) ∧ host.visible family = true)
      (finalizeReceipt family job.jobId job.transitionGeneration) (fun _ => Truthful family)
      (fun _ => Truthful family) := by
    refine triple_finalizeReceipt (robust_of_alone fun _ h => h.1.1.1) (fun _ => robust_truthful) ?_
      (fun _ _ h => h.1.1.truthful) fun _ _ _ h => h
    rintro host found nextState ⟨⟨h, hstate⟩, hvisible⟩ hfound hnext
    injection h.2.1.symm.trans hfound with hrow
    rw [← hrow, hstate] at hnext
    injection hnext with hnext
    subst hnext
    exact ⟨h.1, fun _ => ⟨fun _ => hvisible, nofun⟩⟩
  unfold finishInstall
  refine Triple.bind (Q := fun _ => Truthful family)
    (Triple.attempt (hfinal.conseq (fun _ h => h) (fun _ _ h => h) ?_)) fun finalized => ?_
  · intro stop host h
    cases stop <;> exact h
  · cases finalized with
    | error | ok _ => exact Triple.pure fun _ h => h

theorem triple_concludeInstall {mutation : MutationOutcome} (hstate : row.state = .pendingInstall) :
    Triple (fun host => UnderWay row host ∧
        (mutation = .ok ∨ (mutation = .commandFailed ∧ family ≠ .windows) → host.visible family = true))
      (concludeInstall family job mutation) (fun _ => Truthful family) (fun _ => Truthful family) := by
  cases mutation with
  | ok =>
    exact keeps_finishInstall.conseq (fun _ h => ⟨⟨h.1, hstate⟩, h.2 (.inl rfl)⟩) (fun _ _ h => h)
      fun _ _ h => h
  | writeFailed => exact Triple.pure fun _ h => h.1.truthful
  | commandFailed =>
    unfold concludeInstall
    dsimp only
    refine Triple.ite (fun _ => Triple.pure fun _ h => h.1.truthful) fun hwindows => ?_
    unfold overrideInstall
    refine Triple.bind (Q := fun _ host => (UnderWay row host ∧ row.state = .pendingInstall) ∧
        host.visible family = true)
      (Triple.attempt ((triple_pause (robust_of_alone fun _ h => h.1.1.1) ?_).conseq
        (fun _ h => ⟨⟨h.1, hstate⟩, h.2 (.inr ⟨rfl, hwindows⟩)⟩) (fun _ _ h => h) fun _ _ h => h))
      fun scan => ?_
    · intro stop host h
      cases stop with
      | thrown error => exact h
      | crashed => exact h.1.1.truthful
    · cases scan with
      | ok _ => exact keeps_finishInstall
      | error error => exact Triple.pure fun _ h => h.1.1.truthful

theorem keeps_install : Keeps (Truthful family) (install family job) := by
  unfold install
  refine Triple.bind_attempt (triple_intent (.inl rfl)) (fun intent => ?_) (fun error => ?_)
    fun _ h => h
  · refine Triple.of_forall fun hstate => ?_
    exact Triple.bind (triple_installAnchor.conseq (fun _ h => h) (fun _ _ h => h)
      fun _ _ h => h.truthful) fun mutation => triple_concludeInstall hstate
  · exact Triple.pure fun _ h => h

theorem Truthful.distributeTrust : Keeps (Truthful family) (distributeTrust family job) := by
  unfold TokenTimer.Agent.distributeTrust
  refine Keeps.bind keeps_ofExcept fun _ => ?_
  cases job.verification with
  | some failureCategory => exact Keeps.pure
  | none =>
    refine Keeps.bind keeps_observe_truthful fun isPresent => ?_
    refine Keeps.bind keeps_readReceipt_truthful fun existing => ?_
    exact Keeps.ite Keeps.pure keeps_install

/-! ## §4. `revokeTrust`. -/

/-- The invariant, and the anchor is gone where the answer has no failure
    category. -/
def Answered (family : Family) (result : TrustResult) (host : TrustHost) : Prop :=
  Truthful family host ∧ (result.failureCategory = none → host.Sighted family → host.Gone family)

theorem Truthful.answered {result : TrustResult} (h : Truthful family host)
    (hfailed : result.failureCategory = some failureCategory) :
    Answered family result host := by
  refine ⟨h, fun hnone => ?_⟩
  rw [hfailed] at hnone
  cases hnone

theorem triple_finishRemoval {jobId : String} {transitionGeneration : Nat} {failed done : TrustResult}
    (hfailed : failed.failureCategory = some failureCategory) :
    Triple (GoneUnder family row)
      (do
        match ← attempt (finalizeReceipt family jobId transitionGeneration) with
        | .error _ => pure failed
        | .ok _ => pure done)
      (Answered family) (fun _ => Truthful family) := by
  have hfinal : Triple (GoneUnder family row) (finalizeReceipt family jobId transitionGeneration)
      (fun _ host => Truthful family host ∧ (host.Sighted family → host.Gone family))
      (fun _ => Truthful family) := by
    refine triple_finalizeReceipt robust_goneUnder (fun _ => robust_of_alone fun _ h => h.1.1) ?_
      (fun _ _ h => h.underWay.truthful) fun _ _ _ h => h.1
    rintro host found nextState ⟨halone, hreceipt, hstate, hgone⟩ hfound hnext
    injection hreceipt.symm.trans hfound with hrow
    rw [← hrow, hstate] at hnext
    injection hnext with hnext
    subst hnext
    exact ⟨⟨halone, fun hsighted => ⟨nofun, fun _ => hgone hsighted⟩⟩, hgone⟩
  refine Triple.bind_attempt hfinal (fun finalized => ?_) (fun error => ?_) fun _ h => h
  · exact Triple.pure fun _ h => ⟨h.1, fun _ => h.2⟩
  · exact Triple.pure fun _ h => Truthful.answered h hfailed

theorem triple_removal (hstate : row.state = .pendingRemove) {failed : TrustResult}
    (hfailed : failed.failureCategory = some failureCategory) {k : OnTrust TrustResult}
    (hk : Triple (GoneUnder family row) k (Answered family) (fun _ => Truthful family)) :
    Triple (UnderWay row) (removeAnchor family >>= fun mutation =>
        if mutation ≠ .ok then pure failed else k)
      (Answered family) (fun _ => Truthful family) := by
  refine Triple.bind (triple_removeAnchor.conseq (fun _ h => h) (fun _ _ h => h)
    fun _ _ h => h.truthful) fun mutation => ?_
  refine Triple.ite (fun _ => Triple.pure fun _ h => Truthful.answered h.1.truthful hfailed)
    fun hok => ?_
  refine hk.conseq (fun host h => ?_) (fun _ _ h => h) fun _ _ h => h
  exact ⟨h.1.1, h.1.2.1, hstate, fun _ => h.2 (not_not.mp hok)⟩

theorem triple_withIntent {P : TrustHost → Prop} {m : OnTrust ReceiptRow} {refusal : TrustResult}
    {k : ReceiptRow → OnTrust TrustResult} {Q : ReceiptRow → TrustHost → Prop}
    (hrefusal : refusal.failureCategory = some failureCategory)
    (hm : Triple P m Q (fun _ => Truthful family))
    (hk : ∀ intent, Triple (Q intent) (k intent) (Answered family) (fun _ => Truthful family)) :
    Triple P
      (do
        match ← attempt m with
        | .error _ => pure refusal
        | .ok intent => k intent)
      (Answered family) (fun _ => Truthful family) := by
  exact Triple.bind_attempt hm hk
    (fun _ => Triple.pure fun _ h => Truthful.answered h hrefusal) fun _ h => h

theorem triple_removePresent : Triple (Truthful family) (removePresent family job) (Answered family)
    (fun _ => Truthful family) :=
  triple_withIntent rfl (triple_intent (.inr rfl)) fun _ => Triple.of_forall fun hstate =>
    triple_removal hstate rfl (triple_finishRemoval rfl)

theorem triple_reclaim :
    Triple (fun host => UnderWay row host ∧ row.state = .pendingRemove) (reclaim family job row)
      (fun intent host => intent.state = .pendingRemove ∧ UnderWay intent host)
      (fun _ => Truthful family) := by
  unfold reclaim
  refine Triple.ite (fun _ => Triple.pure fun _ h => ⟨h.2, h.1⟩) fun _ => ?_
  exact (triple_intent (.inr rfl)).conseq (fun _ h => h.1.truthful) (fun _ _ h => h) fun _ _ h => h

theorem triple_retryRefresh (hstate : row.state = .pendingRemove) :
    Triple (UnderWay row) (retryRefresh family job row) (Answered family) (fun _ => Truthful family) :=
  triple_withIntent rfl (triple_reclaim.conseq (fun _ h => ⟨h, hstate⟩) (fun _ _ h => h) fun _ _ h => h)
    fun _ => Triple.of_forall fun hintent => triple_removal hintent rfl (triple_finishRemoval rfl)

/-- The receipt the revocation goes by, with nothing seen. -/
def Unseen (family : Family) (row : ReceiptRow) (host : TrustHost) : Prop :=
  Truthful family host ∧ host.receipt = .found row ∧
    (host.Sighted family → row.state = .pendingRemove ∧ (family = .windows → host.anchor = none))

theorem triple_finishAbsent (hbranch : ¬ (family ≠ .windows ∧ row.state = .pendingRemove)) :
    Triple (Unseen family row) (finishAbsent family job row) (Answered family)
      (fun _ => Truthful family) := by
  have hgone : ∀ host, Unseen family row host → host.Sighted family → host.Gone family := by
    rintro host ⟨-, -, hunseen⟩ hsighted
    obtain ⟨hstate, hnone⟩ := hunseen hsighted
    have hwindows : family = .windows := by
      by_contra hlinux
      exact hbranch ⟨hlinux, hstate⟩
    exact ⟨hnone hwindows, fun hlinux => absurd hwindows hlinux⟩
  have hreclaim : Triple (Unseen family row) (reclaim family job row) (GoneUnder family)
      (fun _ => Truthful family) := by
    unfold reclaim
    refine Triple.ite (fun hresumed => Triple.pure fun host h => ?_) fun _ => ?_
    · have hstate : row.state = .pendingRemove := of_decide_eq_true (Bool.and_eq_true_iff.mp hresumed).1
      exact ⟨h.1.1, h.2.1, hstate, hgone host h⟩
    · refine (triple_writeIntentReceipt
        (R := GoneUnder family ⟨job.jobId, job.transitionGeneration, .pendingRemove⟩)
        (robust_of_alone fun _ h => h.1.1) robust_goneUnder
        (fun host h => ⟨h.1.1, rfl, rfl, hgone host h⟩) (fun _ _ h => h.1)
        fun _ _ h => h.underWay.truthful).conseq (fun _ h => h) ?_ fun _ _ h => h
      rintro intent host ⟨hintent, h⟩
      subst hintent
      exact h
  exact triple_withIntent rfl hreclaim fun _ => triple_finishRemoval rfl

/-- A probe before a deletion, of a receipt that proves ownership. -/
theorem triple_observe_revoking (hstate : row.state = .installed ∨ row.state = .pendingRemove) :
    Triple (fun host => host.receipt = .found row ∧ Truthful family host) (observe family .revoking)
      (fun isPresent host => Truthful family host ∧ host.receipt = .found row ∧
        (isPresent = false → Unseen family row host)) (fun _ => Truthful family) := by
  have hinstalled : ∀ host : TrustHost, host.receipt = .found row → host.Accounted family →
      host.visible family = false → row.state = .pendingRemove := by
    intro host hreceipt haccounted hvisible
    refine hstate.resolve_left fun hrow => ?_
    have hseen := haccounted.installed (by rw [hreceipt]; exact decide_eq_true hrow)
    rw [hvisible] at hseen
    cases hseen
  refine triple_observe (robust_of_alone fun _ h => h.2.1) ?_ ?_ fun _ _ h => h.2
  · rintro host ⟨hreceipt, h⟩
    refine ⟨h.noted, hreceipt, fun hsees => ⟨h.noted, hreceipt, fun hsighted => ?_⟩⟩
    have hvisible : host.visible family = false := (Bool.or_eq_false_iff.mp hsees).1
    refine ⟨hinstalled host hreceipt (h.2 hsighted) hvisible, fun hwindows => ?_⟩
    subst hwindows
    show host.anchor = none
    unfold TrustHost.visible at hvisible
    cases hanchor : host.anchor with
    | none => rfl
    | some anchor =>
      rw [hanchor] at hvisible
      cases hvisible
  · rintro host ⟨hreceipt, h⟩
    refine ⟨h.overlooked.noted, hreceipt, fun _ => ⟨h.overlooked.noted, hreceipt, fun hsighted => ?_⟩⟩
    obtain ⟨hbefore, hprobe⟩ := TrustHost.Sighted.of_record host
      (.overlooked .revoking host.anchor host.receipt) hsighted
    rcases hprobe with hnone | ⟨hlinux, hpending⟩
    · have hvisible : host.visible family = false := by
        unfold TrustHost.visible
        rw [hnone]
        rfl
      exact ⟨hinstalled host hreceipt (h.2 hbefore) hvisible, fun _ => hnone⟩
    · rw [hreceipt] at hpending
      exact ⟨of_decide_eq_true hpending, fun hwindows => absurd hwindows hlinux⟩

theorem triple_removeOwned (hstate : row.state = .installed ∨ row.state = .pendingRemove) :
    Triple (fun host => host.receipt = .found row ∧ Truthful family host) (removeOwned family job row)
      (Answered family) (fun _ => Truthful family) := by
  unfold removeOwned
  refine Triple.bind (triple_observe_revoking hstate) fun isPresent => ?_
  refine Triple.ite (fun _ => ?_) fun hseen => ?_
  · exact triple_removePresent.conseq (fun _ h => h.1) (fun _ _ h => h) fun _ _ h => h
  · refine Triple.ite (fun hretry => ?_) fun hretry => ?_
    · exact (triple_retryRefresh hretry.2).conseq (fun _ h => ⟨h.1.1, h.2.1, .inr hretry.2⟩)
        (fun _ _ h => h) fun _ _ h => h
    · exact (triple_finishAbsent hretry).conseq (fun _ h => h.2.2 (Bool.not_eq_true _ ▸ hseen))
        (fun _ _ h => h) fun _ _ h => h

/-- What a finalized intent says of the receipt. -/
theorem triple_settleStranded :
    Triple (fun host => host.receipt = .found row ∧ Truthful family host) (settleStranded family row)
      (fun settled host => (settled.state ≠ .pendingInstall → host.receipt = .found settled) ∧
        Truthful family host) (fun _ => Truthful family) := by
  have hstay : Triple (fun host => host.receipt = .found row ∧ Truthful family host) (pure row : OnTrust _)
      (fun settled host => (settled.state ≠ .pendingInstall → host.receipt = .found settled) ∧
        Truthful family host) (fun _ => Truthful family) := Triple.pure fun _ h => ⟨fun _ => h.1, h.2⟩
  unfold settleStranded
  refine Triple.ite (fun hstate => ?_) fun _ => hstay
  refine Triple.bind (Q := fun present host => (host.receipt = .found row ∧ Truthful family host) ∧
      (present = true → host.visible family = true))
    (triple_observe (robust_of_alone fun _ h => h.2.1) ?_ ?_ fun _ _ h => h.2) fun present => ?_
  · rintro host ⟨hreceipt, h⟩
    refine ⟨⟨hreceipt, h.noted⟩, fun hsees => ?_⟩
    unfold Observer.sees at hsees
    rw [decide_eq_false (show Observer.stranded ≠ .distributing by nofun), Bool.and_false, Bool.false_and,
      Bool.or_false] at hsees
    exact hsees
  · rintro host ⟨hreceipt, h⟩
    exact ⟨⟨hreceipt, h.overlooked.noted⟩, nofun⟩
  · unfold unstrandIf
    refine Triple.ite (fun hpresent => ?_) fun _ => hstay.conseq (fun _ h => h.1) (fun _ _ h => h)
      fun _ _ h => h
    have hfinal : Triple (fun host => (host.receipt = .found row ∧ Truthful family host) ∧
        (present = true → host.visible family = true))
        (finalizeReceipt family row.jobId row.transitionGeneration)
        (fun settled host => host.receipt = .found settled ∧ Truthful family host)
        (fun _ => Truthful family) := by
      refine triple_finalizeReceipt (robust_of_alone fun _ h => h.1.2.1)
        (fun _ => robust_of_alone fun _ h => h.2.1) ?_ (fun _ _ h => h.1.2) fun _ _ _ h => h.2
      rintro host found nextState ⟨⟨hreceipt, h⟩, hvisible⟩ hfound hnext
      injection hreceipt.symm.trans hfound with hrow
      rw [← hrow, hstate] at hnext
      injection hnext with hnext
      subst hnext
      exact ⟨rfl, h.1, fun _ => ⟨fun _ => hvisible hpresent, nofun⟩⟩
    unfold unstrand
    refine Triple.bind_attempt hfinal (fun settled => ?_) (fun error => ?_) fun _ h => h
    · exact Triple.pure fun _ h => ⟨fun _ => h.1, h.2⟩
    · exact Triple.pure fun _ h => ⟨fun hne => absurd hstate hne, h⟩

theorem triple_revokeWith {existing : Receipt} :
    Triple (fun host => (existing = .corrupt ∨ host.receipt = existing) ∧ Truthful family host)
      (revokeWith family job existing) (Answered family) (fun _ => Truthful family) := by
  cases existing with
  | absent | corrupt => exact Triple.pure fun _ h => Truthful.answered h.2 rfl
  | found row =>
    refine Triple.bind (triple_settleStranded.conseq (fun _ h => ⟨h.1.resolve_left nofun, h.2⟩)
      (fun _ _ h => h) fun _ _ h => h) fun settled => ?_
    have howned : settled.state = .installed ∨ settled.state = .pendingRemove → Triple
        (fun host => (settled.state ≠ .pendingInstall → host.receipt = .found settled) ∧
          Truthful family host) (removeOwned family job settled) (Answered family)
        (fun _ => Truthful family) := by
      intro hstate
      refine (triple_removeOwned hstate).conseq (fun _ h => ⟨h.1 ?_, h.2⟩) (fun _ _ h => h) fun _ _ h => h
      rcases hstate with hstate | hstate
      · rw [hstate]
        nofun
      · rw [hstate]
        nofun
    unfold revokeByRow
    cases hstate : settled.state with
    | pendingInstall => exact Triple.pure fun _ h => Truthful.answered h.2 rfl
    | removed =>
      refine Triple.pure fun host h => ⟨h.2, fun _ hsighted => (h.2.2 hsighted).removed ?_⟩
      rw [h.1 nofun]
      exact decide_eq_true hstate
    | installed =>
      rw [hstate] at howned
      exact howned (.inl rfl)
    | pendingRemove =>
      rw [hstate] at howned
      exact howned (.inr rfl)

theorem Truthful.revokeTrust : Triple (Truthful family) (revokeTrust family job) (Answered family)
    (fun _ => Truthful family) := by
  unfold TokenTimer.Agent.revokeTrust
  refine Triple.bind keeps_ofExcept fun _ => ?_
  refine Triple.ite (fun _ => Triple.pure fun _ h => Truthful.answered h rfl) fun _ => ?_
  exact Triple.bind (triple_readReceipt robust_truthful (fun _ h => ⟨.inr rfl, h⟩)
    (fun _ h => ⟨.inl rfl, h⟩) fun _ _ h => h) fun existing => triple_revokeWith

/-! ## §5. The host over its life. -/

theorem Truthful.of_fresh (h : host.Fresh) (halone : host.others = []) : Truthful family host := by
  refine ⟨halone, fun _ => ⟨fun hinstalled => ?_, fun hremoved => ?_⟩⟩
  · rw [h.1] at hinstalled
    cases hinstalled
  · rw [h.1] at hremoved
    cases hremoved

/-- The end of a call changes a note. -/
theorem Truthful.ended (h : Truthful family host) : Truthful family { host with observing := false } :=
  ⟨h.1, fun hsighted => ⟨(h.2 hsighted).installed, (h.2 hsighted).removed⟩⟩

theorem Truthful.after {call : TrustCall} {script : List (Fault TrustError)} (h : Truthful family host) :
    Truthful family (host.after family call script) := by
  have hrun : Keeps (Truthful family) (call.program family) := by
    cases call with
    | distribute job => exact Truthful.distributeTrust
    | revoke job => exact Truthful.revokeTrust.conseq (fun _ h => h) (fun _ _ h => h.1) fun _ _ h => h
  exact (hrun.exec h).ended

theorem truthful_of_run {host₀ : TrustHost} (hfresh : host₀.Fresh) (halone : host₀.others = [])
    (hrun : Run (trustSystem family) anyStep host₀ host) : Truthful family host := by
  refine hrun.invariant ?_ (Truthful.of_fresh hfresh halone)
  rintro host call host' hsettled - rfl
  exact hsettled.after

/-! ## §6. A probe that fails over an anchor. -/

/-- A removal that saw nothing ends well. -/
theorem returns_finishAbsent (family : Family) (host : TrustHost) (hothers : host.others = [])
    (hreceipt : host.receipt = .found row)
    (hrow : validateReceiptRow row = .ok row) (hid : isReceiptJobId job.jobId = true)
    (hgeneration : 1 ≤ job.transitionGeneration) :
    ∃ result host', Returns (finishAbsent family job row) host result host' ∧
      result.failureCategory = none ∧ host'.anchor = host.anchor := by
  have hreclaim : ∃ intent, Returns (reclaim family job row) host intent
      { host with receipt := .found intent } ∧ isReceiptJobId intent.jobId = true ∧
      1 ≤ intent.transitionGeneration ∧ intent.state = .pendingRemove := by
    unfold reclaim
    by_cases hresumed : row.resumedBy job = true
    · rw [if_pos hresumed]
      unfold validateReceiptRow at hrow
      split at hrow
      · rename_i hparts
        refine ⟨row, ?_, hparts.1, hparts.2, of_decide_eq_true (Bool.and_eq_true_iff.mp hresumed).1⟩
        rw [← hreceipt]
        exact Returns.pure
      · cases hrow
    · rw [if_neg hresumed]
      exact ⟨_, returns_writeIntentReceipt hothers hid hgeneration, hid, hgeneration, rfl⟩
  obtain ⟨intent, hintent, hvalid, hlater, hstate⟩ := hreclaim
  have hothers' : { host with receipt := .found intent }.others = [] := hothers
  have hfinal := returns_finalizeReceipt family intent hothers' rfl hvalid hlater
    (show intent.state.finalized = some .removed by rw [hstate]; rfl)
  refine ⟨⟨false, false, .alreadyAbsent, false, false, .finalized, none, []⟩,
    { host with receipt := .found { intent with state := .removed } }, ?_, rfl, rfl⟩
  unfold finishAbsent
  refine Returns.bind (Returns.attempt hintent) ?_
  dsimp only
  refine Returns.bind (Returns.attempt hfinal) ?_
  exact Returns.pure

/-- The receipt is read and the probe of the store fails. -/
def blindProbe : List (Fault TrustError) := [.pass, .throws .failed]

theorem revokeTrust_blind (hothers : host.others = []) (hreceipt : host.receipt = .found row)
    (hstate : row.state = .installed ∨ (row.state = .pendingRemove ∧ family = .windows))
    (hvalid : job.fingerprintValid = true) (hgeneration : 1 ≤ job.transitionGeneration) :
    revokeTrust family job ⟨host, blindProbe⟩ =
      finishAbsent family job row ⟨Observer.noted .revoking false (host.overlookedBy .revoking), []⟩ := by
  have hinterfered : host.interfered family = host := by
    unfold TrustHost.interfered
    rw [hothers]
  have hread : readReceipt family ⟨host, blindProbe⟩ = (.ok (.found row), ⟨host, [.throws .failed]⟩) := by
    show (Except.ok (host.interfered family).receipt,
      World.mk (host.interfered family) [Fault.throws TrustError.failed]) = _
    rw [hinterfered, hreceipt]
  have hprobe : observe family .revoking ⟨host, [.throws .failed]⟩ =
      (.ok false, ⟨Observer.noted .revoking false (host.overlookedBy .revoking), []⟩) := by
    show (_, World.mk (Observer.noted .revoking false ((host.interfered family).overlookedBy .revoking)) _) = _
    rw [hinterfered]
  have hchecked : requireTransitionGeneration job = .ok () := if_neg (Nat.not_lt.mpr hgeneration)
  have hsettle : settleStranded family row = pure row := by
    refine if_neg fun hpending => ?_
    rw [hpending] at hstate
    simp at hstate
  have hwith : revokeWith family job (.found row) = removeOwned family job row := by
    show (settleStranded family row >>= revokeByRow family job) = _
    rw [hsettle]
    show revokeByRow family job row = _
    unfold revokeByRow
    rcases hstate with hstate | hstate
    · rw [hstate]
    · rw [hstate.1]
  unfold revokeTrust
  rw [hchecked, hvalid]
  refine (bind_of_ok rfl).trans ?_
  rw [if_neg nofun]
  refine (bind_of_ok hread).trans ?_
  rw [hwith]
  refine (bind_of_ok hprobe).trans ?_
  rw [if_neg nofun, if_neg]
  rintro ⟨hlinux, hpending⟩
  rcases hstate with hstate | hstate
  · rw [hpending] at hstate
    cases hstate
  · exact hlinux hstate.2

/-! ## §7. Successful revocations. -/

/-- **A SUCCESSFUL REVOCATION REMOVED THE ANCHOR**: in runs whose probes before a
    deletion do not fail over an anchor, an answer without a failure category is
    of an anchor that is gone; such a failure, over the receipt of an installation,
    gives that answer with the anchor there. -/
theorem revoke_removes (family : Family) :
    (∀ (host₀ host : TrustHost) (job : TrustJob) (script : List (Fault TrustError)) (result : TrustResult),
      host₀.Fresh → host₀.others = [] → Run (trustSystem family) anyStep host₀ host →
      host.answer family (.revoke job) script = .ok result → result.failureCategory = none →
      (host.after family (.revoke job) script).Sighted family →
      (host.after family (.revoke job) script).Gone family) ∧
    ∀ (host : TrustHost) (row : ReceiptRow) (job : TrustJob) (anchor : Anchor),
      host.anchor = some anchor → host.others = [] → host.receipt = .found row →
      row.state = .installed ∨ (row.state = .pendingRemove ∧ family = .windows) →
      validateReceiptRow row = .ok row → job.fingerprintValid = true →
      isReceiptJobId job.jobId = true → 1 ≤ job.transitionGeneration →
      ∃ result, host.answer family (.revoke job) blindProbe = .ok result ∧
        result.failureCategory = none ∧ ¬ (host.after family (.revoke job) blindProbe).Gone family := by
  constructor
  · intro host₀ host job script result hfresh halone hrun hanswer hsuccess hsighted
    have hanswered : Answered family result (exec (revokeTrust family job) script host).2 :=
      Truthful.revokeTrust.exec_ok (truthful_of_run hfresh halone hrun) hanswer
    exact hanswered.2 hsuccess hsighted
  · intro host row job anchor hanchor hothers hreceipt hstate hrow hvalid hid hgeneration
    obtain ⟨result, host', hrun, hsuccess, hkept⟩ := returns_finishAbsent family
      (Observer.noted .revoking false (host.overlookedBy .revoking)) hothers hreceipt hrow hid hgeneration
    have hexec : exec (TrustCall.program family (.revoke job)) blindProbe host = (.ok result, host') := by
      unfold exec
      rw [show TrustCall.program family (.revoke job) ⟨host, blindProbe⟩ = _ from
        (revokeTrust_blind hothers hreceipt hstate hvalid hgeneration).trans hrun]
    refine ⟨result, ?_, hsuccess, fun hgone => ?_⟩
    · unfold TrustHost.answer
      rw [hexec]
    · have hthere : (host.after family (.revoke job) blindProbe).anchor = some anchor := by
        unfold TrustHost.after
        rw [hexec]
        exact hkept.trans hanchor
      rw [hgone.1] at hthere
      cases hthere

def demoInstalled (family : Family) : TrustHost :=
  (demoTrustHost []).after family (.distribute (demoTrustJob 1)) []

theorem run_demoInstalled (family : Family) :
    Run (trustSystem family) anyStep (demoTrustHost []) (demoInstalled family) :=
  Run.single (a := (.distribute (demoTrustJob 1), [])) trivial rfl

/-- The refresh after the file is deleted fails. -/
def failedRefresh : List (Fault TrustError) :=
  [.pass, .pass, .pass, .pass, .pass, .pass, .pass, .throws .failed]

/-- A revocation of it whose refresh fails. -/
def demoInterrupted : TrustHost :=
  (demoInstalled .debian).after .debian (.revoke (demoTrustJob 2)) failedRefresh

/-- The next revocation does the removal again; and the same anchor with a probe
    that fails. -/
theorem revoke_removes_demo :
    (demoInterrupted.after .debian (.revoke (demoTrustJob 3)) []).Gone .debian ∧
      ∃ result,
        (demoInstalled .windows).answer .windows (.revoke (demoTrustJob 2)) blindProbe = .ok result ∧
        result.failureCategory = none ∧
        ¬ ((demoInstalled .windows).after .windows (.revoke (demoTrustJob 2)) blindProbe).Gone .windows := by
  have hinterrupted : Run (trustSystem .debian) anyStep (demoTrustHost []) demoInterrupted :=
    (run_demoInstalled .debian).tail (a := (.revoke (demoTrustJob 2), failedRefresh)) trivial rfl
  constructor
  · refine (revoke_removes .debian).1 (demoTrustHost []) _ (demoTrustJob 3) []
      ⟨false, false, .removed, true, true, .finalized, none, []⟩ ⟨rfl, rfl, rfl, nofun⟩ rfl hinterrupted
      (by decide +kernel) rfl ?_
    intro event hevent
    have hhistory : (demoInterrupted.after .debian (.revoke (demoTrustJob 3)) []).history =
        [.deleted .agent] := by decide +kernel
    rw [hhistory, List.mem_singleton] at hevent
    subst hevent
    trivial
  · exact (revoke_removes .windows).2 (demoInstalled .windows) ⟨"job-1", 1, .installed⟩ (demoTrustJob 2)
      ⟨true, .agent⟩ (by decide +kernel) rfl (by decide +kernel) (.inl rfl) (by decide +kernel) rfl
      (by decide +kernel) (by decide)

/-- **AN ANCHOR THAT STAYS**: PowerShell fails as the store is enumerated, and the
    revocation of an installed anchor answers that it is absent. -/
theorem failed_probe_reports_removal :
    ¬ ∀ (host₀ host : TrustHost) (job : TrustJob) (script : List (Fault TrustError)) (result : TrustResult),
      host₀.Fresh → host₀.others = [] → Run (trustSystem .windows) anyStep host₀ host →
      host.answer .windows (.revoke job) script = .ok result → result.failureCategory = none →
      (host.after .windows (.revoke job) script).Gone .windows := by
  intro hremoves
  have hanchor : ((demoInstalled .windows).after .windows (.revoke (demoTrustJob 2)) blindProbe).anchor =
      some ⟨true, .agent⟩ := by decide +kernel
  have hgone := hremoves (demoTrustHost []) (demoInstalled .windows) (demoTrustJob 2) blindProbe
    ⟨false, false, .alreadyAbsent, false, false, .finalized, none, []⟩ ⟨rfl, rfl, rfl, nofun⟩ rfl
    (run_demoInstalled .windows) (by decide +kernel) rfl
  rw [hgone.1] at hanchor
  cases hanchor

end TokenTimer.Agent
