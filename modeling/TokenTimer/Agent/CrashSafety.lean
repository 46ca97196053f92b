/-
  TokenTimer.Agent.CrashSafety — an attempt that touched the host is never
  forgotten by a crash.

  The identifiers of a dispatch are UUIDs, so every attempt has a marker of its
  own.  The invariant: an attempt that touched the host after its outcome was
  last recorded has its marker.  The marker is removed only when the outcome is
  in the outbox, so at any stop one of the two is there, or the control plane has
  acknowledged the outcome.

  The journal gate of `handleSignedJob` takes a directory or a marker it cannot
  read for one that is not there.  Then, and only then, a job is started again
  over an attempt whose outcome nobody knows.

  Main results:
    * `Accounted.call` — the invariant, for every call of the agent.
    * `gate_holds` — the gate sees a marker it can read.
    * `execution_crash_safe` — crash safety in every reachable state, and no
        restart of a job in runs that read their journal.
-/

import TokenTimer.Agent.Effects
import TokenTimer.Agent.OutboxSafety

namespace TokenTimer.Agent

open Lib.Faulty Lib.Runs TokenTimer.Json

/-! ## §1. Identifiers and markers. -/

def isUuidUnit (c : CodeUnit) : Bool :=
  (0x30 ≤ c.val && c.val ≤ 0x39) || (0x61 ≤ c.val && c.val ≤ 0x66) || c = unit '-'

/-- The column `certificate_jobs.id`, and the claim id an attempt is named after,
    are of the type `uuid`. -/
def isUuid (id : JsString) : Bool := id.length = 36 && id.all isUuidUnit

theorem isIdUnit_of_isUuidUnit {c : CodeUnit} (h : isUuidUnit c = true) : isIdUnit c = true := by
  unfold isUuidUnit at h
  unfold isIdUnit
  simp only [Bool.or_eq_true, Bool.and_eq_true, decide_eq_true_eq] at h ⊢
  rcases h with (hdigit | hletter) | hdash
  · omega
  · omega
  · exact .inr hdash

section Identifiers

variable {id jobId attemptId jobId' attemptId' : JsString}

theorem length_of_isUuid (h : isUuid id = true) : id.length = 36 := by
  unfold isUuid at h
  rw [Bool.and_eq_true, decide_eq_true_eq] at h
  exact h.1

theorem ne_nil_of_isUuid (h : isUuid id = true) : id ≠ [] := by
  intro hnil
  have := length_of_isUuid h
  rw [hnil] at this
  cases this

theorem sanitizeId_uuid (h : isUuid id = true) : sanitizeId id = id := by
  unfold isUuid at h
  rw [Bool.and_eq_true, List.all_eq_true] at h
  unfold sanitizeId
  refine (List.map_congr_left fun c hc => ?_).trans (List.map_id _)
  rw [if_pos (isIdUnit_of_isUuidUnit (h.2 c hc))]
  rfl

/-- Attempts have markers of their own. -/
theorem journalName_inj (hj : isUuid jobId = true) (ha : isUuid attemptId = true)
    (hj' : isUuid jobId' = true) (ha' : isUuid attemptId' = true)
    (heq : journalName jobId attemptId = journalName jobId' attemptId') :
    jobId = jobId' ∧ attemptId = attemptId' := by
  unfold journalName at heq
  rw [sanitizeId_uuid hj, sanitizeId_uuid ha, sanitizeId_uuid hj', sanitizeId_uuid ha'] at heq
  have hids := List.append_cancel_right heq
  have hlength : (jobId ++ js "-").length = (jobId' ++ js "-").length := by
    rw [List.length_append, List.length_append, length_of_isUuid hj, length_of_isUuid hj']
  obtain ⟨hjobs, hattempts⟩ := List.append_inj hids hlength
  exact ⟨List.append_cancel_right hjobs, hattempts⟩

end Identifiers

def markerOf (jobId attemptId : JsString) : JournalFile :=
  ⟨journalName jobId attemptId, some ⟨jobId, attemptId, false⟩⟩

def Marked (journal : List JournalFile) (jobId attemptId : JsString) : Prop :=
  markerOf jobId attemptId ∈ journal

def OnlyMarkers (journal : List JournalFile) : Prop :=
  ∀ file ∈ journal, ∃ jobId attemptId, isUuid jobId = true ∧ isUuid attemptId = true ∧
    file = markerOf jobId attemptId

section Markers

variable {journal : List JournalFile} {jobId attemptId jobId' attemptId' : JsString}

theorem mem_removeMarker {name : JsString} {file : JournalFile} :
    file ∈ removeMarker name journal ↔ file ∈ journal ∧ file.name ≠ name := by
  unfold removeMarker
  rw [List.mem_filter, decide_eq_true_eq]

theorem Marked.removeMarker (hm : Marked journal jobId' attemptId') (hall : OnlyMarkers journal)
    (hj : isUuid jobId = true) (ha : isUuid attemptId = true)
    (hne : ¬ (jobId' = jobId ∧ attemptId' = attemptId)) :
    Marked (removeMarker (journalName jobId attemptId) journal) jobId' attemptId' := by
  refine mem_removeMarker.mpr ⟨hm, fun hname => hne ?_⟩
  obtain ⟨j, a, hj', ha', heq⟩ := hall _ hm
  have hentry : (some ⟨jobId', attemptId', false⟩ : Option JournalEntry) = some ⟨j, a, false⟩ :=
    congrArg JournalFile.content heq
  injection hentry with hentry
  injection hentry with hjob hattempt
  rw [← hjob] at hj'
  rw [← hattempt] at ha'
  exact journalName_inj hj' ha' hj ha hname

theorem OnlyMarkers.removeMarker {name : JsString} (hall : OnlyMarkers journal) :
    OnlyMarkers (removeMarker name journal) :=
  fun file hfile => hall file (mem_removeMarker.mp hfile).1

theorem OnlyMarkers.marked (hall : OnlyMarkers journal) (hj : isUuid jobId = true)
    (ha : isUuid attemptId = true)
    (hfound : (findMarker (journalName jobId attemptId) journal).isSome = true) :
    Marked journal jobId attemptId := by
  obtain ⟨file, hfile⟩ := Option.isSome_iff_exists.mp hfound
  have hfind : journal.find? (·.name = journalName jobId attemptId) = some file := hfile
  have hname : file.name = journalName jobId attemptId := by
    have := List.find?_some hfind
    exact of_decide_eq_true this
  have hmem : file ∈ journal := List.mem_of_find?_eq_some hfile
  obtain ⟨j, a, hj', ha', heq⟩ := hall file hmem
  have hids := journalName_inj hj' ha' hj ha (by rw [← hname, heq]; rfl)
  rw [heq, hids.1, hids.2] at hmem
  exact hmem

end Markers

/-! ## §2. The history of an attempt. -/

/-- The attempt touched the host after its outcome was last recorded. -/
def outstanding (history : List HostEvent) (jobId attemptId : JsString) : Bool :=
  history.foldl (fun open' event =>
    if event = .mutated jobId attemptId then true
    else if event = .recorded jobId attemptId then false
    else open') false

/-- A job is started only if no attempt of it is outstanding. -/
def StartsClean (history : List HostEvent) : Prop :=
  ∀ before jobId attemptId, before ++ [.started jobId attemptId] <+: history →
    ∀ earlier, outstanding before jobId earlier = false

section History

variable {history : List HostEvent} {event : HostEvent} {jobId attemptId jobId' attemptId' : JsString}

theorem outstanding_append_singleton :
    outstanding (history ++ [event]) jobId attemptId =
      if event = .mutated jobId attemptId then true
      else if event = .recorded jobId attemptId then false
      else outstanding history jobId attemptId := by
  unfold outstanding
  rw [List.foldl_append]
  rfl

theorem outstanding_mutated
    (h : outstanding (history ++ [.mutated jobId attemptId]) jobId' attemptId' = true) :
    (jobId' = jobId ∧ attemptId' = attemptId) ∨ outstanding history jobId' attemptId' = true := by
  rw [outstanding_append_singleton] at h
  by_cases heq : HostEvent.mutated jobId attemptId = .mutated jobId' attemptId'
  · injection heq with hjob hattempt
    exact .inl ⟨hjob.symm, hattempt.symm⟩
  · rw [if_neg heq, if_neg (by simp)] at h
    exact .inr h

/-- The events of which nothing becomes outstanding. -/
theorem outstanding_other (hm : ∀ j a, event ≠ .mutated j a) (hr : ∀ j a, event ≠ .recorded j a) :
    outstanding (history ++ [event]) jobId attemptId = outstanding history jobId attemptId := by
  rw [outstanding_append_singleton, if_neg (hm _ _), if_neg (hr _ _)]

theorem StartsClean.append (h : StartsClean history)
    (hevent : ∀ j a, event = .started j a → ∀ earlier, outstanding history j earlier = false) :
    StartsClean (history ++ [event]) := by
  intro before j a hprefix
  rcases List.prefix_concat_iff.mp hprefix with heq | hprefix
  · obtain ⟨hbefore, hstart⟩ := List.append_inj' heq rfl
    rw [hbefore]
    injection hstart with hstart
    exact hevent j a hstart.symm
  · exact h before j a hprefix

end History

/-! ## §3. The invariant. -/

/-- Every outstanding attempt has its marker; with `clean`, no job was ever
    started over one. -/
structure Accounted (clean : Prop) (host : Host) : Prop where
  markers : OnlyMarkers host.journal
  marked : ∀ j a, outstanding host.history j a = true → Marked host.journal j a
  starts : clean → StartsClean host.history

/-- The attempt has touched the host since `since` only behind its marker. -/
structure Ready (clean : Prop) (since : List HostEvent) (jobId attemptId : JsString) (host : Host) :
    Prop where
  accounted : Accounted clean host
  touched : ∃ events, host.history = since ++ events ∧
    (.mutated jobId attemptId ∈ events → Marked host.journal jobId attemptId)

/-- The attempt is the one being executed. -/
structure Attempting (clean : Prop) (since : List HostEvent) (jobId attemptId : JsString)
    (host : Host) : Prop where
  ready : Ready clean since jobId attemptId host
  attempt : host.attempt = (jobId, attemptId)

/-- And it is marked. -/
structure Touching (clean : Prop) (since : List HostEvent) (jobId attemptId : JsString)
    (host : Host) : Prop where
  attempting : Attempting clean since jobId attemptId host
  marked : Marked host.journal jobId attemptId

section Marks

variable {clean : Prop} {since : List HostEvent} {jobId attemptId : JsString} {host : Host}

/-- An event that is neither a mutation nor a start. -/
theorem Accounted.event (h : Accounted clean host) {event : HostEvent}
    (hm : ∀ j a, event ≠ .mutated j a) (hs : ∀ j a, event ≠ .started j a) :
    Accounted clean { host with history := host.history ++ [event] } := by
  refine ⟨h.markers, fun j a hout => h.marked j a ?_, fun hc => (h.starts hc).append
    fun j a heq => absurd heq (hs j a)⟩
  rw [outstanding_append_singleton, if_neg (hm j a)] at hout
  by_cases hr : event = .recorded j a
  · rw [if_pos hr] at hout
    cases hout
  · rw [if_neg hr] at hout
    exact hout

theorem Accounted.started (h : Accounted clean host)
    (hgate : clean → ∀ earlier, outstanding host.history jobId earlier = false) :
    Accounted clean { host with
      attempt := (jobId, attemptId)
      history := host.history ++ [.started jobId attemptId] } := by
  refine ⟨h.markers, fun j a hout => h.marked j a ?_, fun hc => (h.starts hc).append
    fun j a heq => ?_⟩
  · rw [outstanding_other (by simp) (by simp)] at hout
    exact hout
  · injection heq with hjob _
    rw [← hjob]
    exact hgate hc

theorem Touching.mutated (h : Touching clean since jobId attemptId host) :
    Touching clean since jobId attemptId
      { host with history := host.history ++ [.mutated host.attempt.1 host.attempt.2] } := by
  have hready := h.attempting.ready
  refine ⟨⟨⟨⟨hready.accounted.markers, fun j a hout => ?_, fun hc =>
    (hready.accounted.starts hc).append (by simp)⟩, ?_⟩, h.attempting.attempt⟩, h.marked⟩
  · rw [h.attempting.attempt] at hout
    rcases outstanding_mutated hout with ⟨hj, ha⟩ | hout
    · rw [hj, ha]
      exact h.marked
    · exact hready.accounted.marked j a hout
  · obtain ⟨events, heq, -⟩ := hready.touched
    exact ⟨events ++ [_], by rw [heq, List.append_assoc], fun _ => h.marked⟩

theorem Touching.undisturbed : Undisturbed (Touching clean since jobId attemptId) where
  mutated _ h := h.mutated
  insert _ _ _ _ h := ⟨⟨⟨⟨h.1.1.1.1, h.1.1.1.2, h.1.1.1.3⟩, h.1.1.2⟩, h.1.2⟩, h.2⟩
  erase _ _ _ h := ⟨⟨⟨⟨h.1.1.1.1, h.1.1.1.2, h.1.1.1.3⟩, h.1.1.2⟩, h.1.2⟩, h.2⟩
  answers _ _ h := ⟨⟨⟨⟨h.1.1.1.1, h.1.1.1.2, h.1.1.1.3⟩, h.1.1.2⟩, h.1.2⟩, h.2⟩
  nonce _ _ _ h := ⟨⟨⟨⟨h.1.1.1.1, h.1.1.1.2, h.1.1.1.3⟩, h.1.1.2⟩, h.1.2⟩, h.2⟩
  fresh _ _ _ _ := trivial

variable (hj : isUuid jobId = true) (ha : isUuid attemptId = true)

include hj ha

theorem Attempting.marks (h : Attempting clean since jobId attemptId host) :
    Touching clean since jobId attemptId { host with
      journal := removeMarker (journalName jobId attemptId) host.journal ++
        [markerOf jobId attemptId] } := by
  have hmarked : Marked (removeMarker (journalName jobId attemptId) host.journal ++
      [markerOf jobId attemptId]) jobId attemptId :=
    List.mem_append_right _ (List.mem_singleton.mpr rfl)
  refine ⟨⟨⟨⟨fun file hfile => ?_, fun j a hout => ?_, h.ready.accounted.starts⟩, ?_⟩,
    h.attempt⟩, hmarked⟩
  · rcases List.mem_append.mp hfile with hold | hnew
    · exact h.ready.accounted.markers.removeMarker file hold
    · exact ⟨jobId, attemptId, hj, ha, List.mem_singleton.mp hnew⟩
  · by_cases hsame : j = jobId ∧ a = attemptId
    · rw [hsame.1, hsame.2]
      exact hmarked
    · exact List.mem_append_left _
        ((h.ready.accounted.marked j a hout).removeMarker h.ready.accounted.markers hj ha hsame)
  · obtain ⟨events, heq, -⟩ := h.ready.touched
    exact ⟨events, heq, fun _ => hmarked⟩

theorem marked_markSideEffectReached {stage : JsString} {I : Host → Prop}
    (hI : ∀ s, I s → Attempting clean since jobId attemptId s) :
    Triple I (markSideEffectReached jobId attemptId stage)
      (fun _ => Touching clean since jobId attemptId) (fun _ => I) := by
  unfold markSideEffectReached journalPathFor
  rw [if_neg (ne_nil_of_isUuid hj), if_neg (ne_nil_of_isUuid ha)]
  refine Triple.ite (fun _ => Triple.raise fun _ h => h) fun _ =>
    Triple.bind Keeps.tick fun _ => Triple.bind Keeps.tick fun _ => ?_
  refine Triple.bind (Q := fun name s => name = journalName jobId attemptId ∧ I s)
    (Triple.pure fun s h => ⟨rfl, h⟩) fun name => Triple.of_forall fun hname => ?_
  subst hname
  refine Triple.bind (Q := fun read s => s = read ∧ I s) (Triple.look fun s h => ⟨rfl, h⟩)
    fun read => Triple.ite (fun hfound => Triple.pure ?_) fun _ =>
      Triple.conseq (P := I) ?_ (fun s h => h.2) (fun _ _ h => h) fun _ _ h => h
  · rintro s ⟨rfl, h⟩
    exact ⟨hI s h, (hI s h).ready.accounted.markers.marked hj ha hfound⟩
  · refine Triple.bind Keeps.tick fun _ => Triple.bind Keeps.tick fun _ => Triple.op ?_ fun _ _ h => h
    intro s a s' h heq
    injection heq with heq
    injection heq with _ heq
    rw [← heq]
    exact (hI s h).marks hj ha

theorem marking : Marking (Attempting clean since jobId attemptId)
    (Touching clean since jobId attemptId) := by
  have hmark : ∀ stage, ∀ I : Host → Prop, (∀ s, I s → Attempting clean since jobId attemptId s) →
      Triple I (markMutation stage) (fun _ => Touching clean since jobId attemptId) (fun _ => I) := by
    intro stage I hI
    refine Triple.bind (Q := fun read s => read.attempt = (jobId, attemptId) ∧ I s)
      (Triple.look fun s h => ⟨(hI s h).attempt, h⟩) fun read => Triple.of_forall fun hread => ?_
    rw [hread, if_neg (ne_nil_of_isUuid ha)]
    exact marked_markSideEffectReached hj ha hI
  exact
    { stable := Touching.undisturbed
      again := fun stage => hmark stage _ fun _ h => h.attempting
      answers := fun _ _ h => ⟨⟨⟨h.1.1.1, h.1.1.2, h.1.1.3⟩, h.1.2⟩, h.2⟩
      mark := fun stage _ => hmark stage _ fun _ h => h
      weaken := fun _ h => h.attempting }

end Marks

/-! ## §4. The outcome. -/

/-- An entry of the attempt's result is in the outbox. -/
def InOutbox (dispatch : Dispatch) (disk : Disk) : Prop :=
  ∃ file ∈ disk.outbox, ∃ entry status, file.name = entryName entry.id ∧ file.kind = .regular ∧
    file.content = .entry entry ∧ entry.result = dispatch.result status

/-- The outcome is recorded, and since `since` it is in the outbox or was
    acknowledged. -/
structure Settled (clean : Prop) (since : List HostEvent) (dispatch : Dispatch) (host : Host) :
    Prop where
  accounted : Accounted clean host
  recorded : outstanding host.history dispatch.job.jobId dispatch.job.attemptId = false
  kept : ∃ events, host.history = since ++ events ∧ (InOutbox dispatch host.outbox ∨
    .acknowledged dispatch.job.jobId dispatch.job.attemptId ∈ events)

/-- What a restart finds of an attempt handled since `since`. -/
structure Covered (clean : Prop) (since : List HostEvent) (dispatch : Dispatch) (host : Host) :
    Prop where
  accounted : Accounted clean host
  traced : ∃ events, host.history = since ++ events ∧
    (.mutated dispatch.job.jobId dispatch.job.attemptId ∈ events →
      Marked host.journal dispatch.job.jobId dispatch.job.attemptId ∨
        InOutbox dispatch host.outbox ∨
          .acknowledged dispatch.job.jobId dispatch.job.attemptId ∈ events)

section Outcomes

variable {clean : Prop} {since : List HostEvent} {dispatch : Dispatch} {host : Host}
  {bytes : Content → Nat}

theorem Ready.covered (h : Ready clean since dispatch.job.jobId dispatch.job.attemptId host) :
    Covered clean since dispatch host := by
  obtain ⟨events, heq, hmarked⟩ := h.touched
  exact ⟨h.accounted, events, heq, fun hmem => .inl (hmarked hmem)⟩

theorem Settled.covered (h : Settled clean since dispatch host) :
    Covered clean since dispatch host := by
  obtain ⟨events, heq, hkept⟩ := h.kept
  exact ⟨h.accounted, events, heq, fun _ => .inr hkept⟩

theorem keeps_onOutbox {α : Type} {I : Host → Prop} {m : Outbox α}
    (h : ∀ host disk, I host → I { host with outbox := disk }) : Keeps I (onOutbox m) :=
  Triple.onPart fun host hi => Triple.top.conseq (fun _ _ => trivial) (fun _ disk _ => h host disk hi)
    fun _ disk _ => h host disk hi

theorem enqueueOutboxEntry_holds {draft : Draft} :
    Triple (fun _ => True) (enqueueOutboxEntry bytes draft)
      (fun entry disk => entry.result = draft.result ∧ ∃ file ∈ disk.outbox,
        file.name = entryName entry.id ∧ file.kind = .regular ∧ file.content = .entry entry)
      (fun _ _ => True) := by
  refine Triple.bind Keeps.tick fun _ => ?_
  refine Triple.bind (Q := fun entry _ => entry = draft.entry) ?_ fun entry => ?_
  · unfold validateEntry
    exact Triple.ite (fun _ => Triple.raise fun _ h => h) fun _ => Triple.ite
      (fun _ => Triple.raise fun _ h => h) fun _ => Triple.ite (fun _ => Triple.raise fun _ h => h)
      fun _ => Triple.ite (fun _ => Triple.raise fun _ h => h) fun _ => Triple.pure fun _ _ => rfl
  · refine Triple.pin fun disk hentry => ?_
    refine Triple.ite (fun _ => Triple.raise fun _ _ => trivial) fun _ => ?_
    subst hentry
    refine Triple.bind (Q := fun _ disk => ∃ file ∈ disk.outbox,
      file.name = entryName draft.entry.id ∧ file.kind = .regular ∧
        file.content = .entry draft.entry) ?_ fun _ => Triple.pure fun _ h => ⟨rfl, h⟩
    refine Triple.bind (Triple.tick (Q := fun _ _ => True) (fun _ _ => trivial) fun _ _ _ => trivial)
      fun _ => Triple.bind (Triple.op (Q := fun _ disk => ∃ file ∈ disk.outbox,
        file.name = entryName draft.entry.id ∧ file.kind = .regular ∧
          file.content = .entry draft.entry) ?_ fun _ _ _ => trivial) fun _ =>
        Triple.bind (Triple.tick (fun _ h => h) fun _ _ _ => trivial) fun _ =>
          Triple.tick (fun _ h => h) fun _ _ _ => trivial
    intro s a s' _ heq
    injection heq with heq
    injection heq with _ heq
    rw [← heq]
    exact ⟨_, List.mem_append_right _ (List.mem_singleton.mpr rfl), rfl, rfl, rfl⟩

variable {status : Status} {evidence : List JsValue}

theorem triple_persistOutcome :
    Triple (Ready clean since dispatch.job.jobId dispatch.job.attemptId)
      (persistOutcome bytes dispatch status evidence)
      (fun _ => Settled clean since dispatch) (fun _ => Covered clean since dispatch) := by
  refine Triple.bind (Q := fun _ host =>
    Ready clean since dispatch.job.jobId dispatch.job.attemptId host ∧
      InOutbox dispatch host.outbox) ?_ fun entry => ?_
  · refine Triple.onPart fun host h => enqueueOutboxEntry_holds.conseq (fun _ _ => trivial) ?_ ?_
    · rintro entry disk ⟨hresult, file, hfile, hname, hkind, hcontent⟩
      exact ⟨⟨⟨h.1.1, h.1.2, h.1.3⟩, h.2⟩,
        file, hfile, entry, status, hname, hkind, hcontent, hresult⟩
    · intro _ disk _
      exact Ready.covered ⟨⟨h.1.1, h.1.2, h.1.3⟩, h.2⟩
  · refine Triple.bind (Q := fun _ => Settled clean since dispatch) (Triple.note fun host h => ?_)
      fun _ => Triple.pure fun _ hs => hs
    refine ⟨h.1.accounted.event (by simp) (by simp), ?_, ?_⟩
    · rw [outstanding_append_singleton, if_neg (by simp), if_pos rfl]
    · obtain ⟨events, heq, -⟩ := h.1.touched
      exact ⟨events ++ [_], by rw [heq, List.append_assoc], .inl h.2⟩

/-- An acknowledged outcome, whatever becomes of its entry. -/
structure Acknowledged (clean : Prop) (since : List HostEvent) (dispatch : Dispatch)
    (host : Host) : Prop where
  accounted : Accounted clean host
  recorded : outstanding host.history dispatch.job.jobId dispatch.job.attemptId = false
  taken : ∃ events, host.history = since ++ events ∧
    .acknowledged dispatch.job.jobId dispatch.job.attemptId ∈ events

theorem Acknowledged.settled (h : Acknowledged clean since dispatch host) :
    Settled clean since dispatch host := by
  obtain ⟨events, heq, hmem⟩ := h.taken
  exact ⟨h.accounted, h.recorded, events, heq, .inr hmem⟩

theorem triple_transmitOutboxEntry {entry : Entry} :
    Triple (Settled clean since dispatch) (transmitOutboxEntry dispatch entry)
      (fun _ => Acknowledged clean since dispatch) (fun _ => Settled clean since dispatch) := by
  refine Triple.bind (Keeps.forEach fun _ _ => Keeps.tick) fun _ => Triple.op ?_ fun _ _ h => h
  intro host a host' h heq
  injection heq with heq
  injection heq with _ heq
  rw [← heq]
  refine ⟨h.accounted.event (by simp) (by simp), ?_, ?_⟩
  · rw [outstanding_other (by simp) (by simp)]
    exact h.recorded
  · obtain ⟨events, heq, -⟩ := h.kept
    exact ⟨events ++ [_], by rw [heq, List.append_assoc],
      List.mem_append_right _ (List.mem_singleton.mpr rfl)⟩

/-- The outbox first, then the network. -/
theorem triple_persistAndTransmitOutcome :
    Triple (Ready clean since dispatch.job.jobId dispatch.job.attemptId)
      (persistAndTransmitOutcome bytes dispatch status evidence)
      (fun _ => Settled clean since dispatch) (fun _ => Covered clean since dispatch) := by
  refine Triple.bind triple_persistOutcome fun entry => ?_
  have hsend : Triple (Settled clean since dispatch) (do
      transmitOutboxEntry dispatch entry
      onOutbox (acknowledgeOutboxEntry 0 entry.id))
      (fun _ => Settled clean since dispatch) (fun _ => Settled clean since dispatch) := by
    refine Triple.bind triple_transmitOutboxEntry fun _ => Triple.conseq
      (keeps_onOutbox (I := Acknowledged clean since dispatch) fun _ _ h =>
        ⟨⟨h.1.1, h.1.2, h.1.3⟩, h.2, h.3⟩) (fun _ h => h) (fun _ _ h => h.settled)
      fun _ _ h => h.settled
  refine Triple.bind (Q := fun _ => Settled clean since dispatch)
    (Triple.attempt (hsend.conseq (fun _ h => h) (fun _ _ h => h) ?_)) fun _ =>
    Triple.pure fun _ h => h
  intro stop host h
  cases stop with
  | thrown _ => exact h
  | crashed => exact h.covered

section Cleared

variable (hj : isUuid dispatch.job.jobId = true) (ha : isUuid dispatch.job.attemptId = true)

include hj ha

/-- The marker of a recorded attempt may go. -/
theorem Settled.cleared (h : Settled clean since dispatch host) :
    Settled clean since dispatch { host with
      journal := removeMarker (journalName dispatch.job.jobId dispatch.job.attemptId)
        host.journal } := by
  refine ⟨⟨h.accounted.markers.removeMarker, fun j a hout => ?_, h.accounted.starts⟩, h.recorded,
    h.kept⟩
  refine (h.accounted.marked j a hout).removeMarker h.accounted.markers hj ha fun hsame => ?_
  rw [hsame.1, hsame.2] at hout
  exact Bool.false_ne_true (h.recorded.symm.trans hout)

theorem keeps_clearJournalOnTerminal :
    Keeps (Settled clean since dispatch)
      (clearJournalOnTerminal dispatch.job.jobId dispatch.job.attemptId) := by
  unfold clearJournalOnTerminal journalPathFor
  rw [if_neg (ne_nil_of_isUuid hj), if_neg (ne_nil_of_isUuid ha)]
  refine Triple.bind (Q := fun name host =>
    name = journalName dispatch.job.jobId dispatch.job.attemptId ∧ Settled clean since dispatch host)
    (Triple.pure fun _ h => ⟨rfl, h⟩) fun name => Triple.of_forall fun hname => ?_
  subst hname
  refine Keeps.bind (Keeps.attempt (Keeps.op fun host _ host' h heq => ?_)) fun removed => ?_
  · cases hfind : findMarker (journalName dispatch.job.jobId dispatch.job.attemptId) host.journal with
    | none =>
      rw [hfind] at heq
      cases heq
    | some _ =>
      rw [hfind] at heq
      injection heq with heq
      injection heq with _ heq
      rw [← heq]
      exact h.cleared hj ha
  · rcases removed with (_ | _) | _
    · exact Keeps.pure
    · exact keeps_raise
    · exact Keeps.pure

/-! ## §5. The life of an attempt. -/

variable {env : Environment}

/-- What the gate has shown when the job is started. -/
def Cleared (clean : Prop) (since : List HostEvent) (dispatch : Dispatch) (host : Host) : Prop :=
  Ready clean since dispatch.job.jobId dispatch.job.attemptId host ∧
    (clean → ∀ earlier, outstanding host.history dispatch.job.jobId earlier = false)

theorem triple_executeAttempt :
    Triple (Cleared clean since dispatch) (executeAttempt env dispatch)
      (fun _ => Ready clean since dispatch.job.jobId dispatch.job.attemptId)
      (fun _ => Covered clean since dispatch) := by
  refine Triple.bind (Q := fun _ =>
    Attempting clean since dispatch.job.jobId dispatch.job.attemptId) (Triple.note ?_) fun _ => ?_
  · rintro host ⟨h, hgate⟩
    refine ⟨⟨h.accounted.started hgate, ?_⟩, rfl⟩
    obtain ⟨events, heq, hmarked⟩ := h.touched
    refine ⟨events ++ [.started dispatch.job.jobId dispatch.job.attemptId],
      by rw [heq, List.append_assoc], fun hmem => hmarked ?_⟩
    rcases List.mem_append.mp hmem with hmem | hmem
    · exact hmem
    · cases List.mem_singleton.mp hmem
  · refine Triple.bind (Q := fun _ =>
      Attempting clean since dispatch.job.jobId dispatch.job.attemptId) ?_ fun result => ?_
    · exact (Keeps.attempt (marking hj ha).executeJob).conseq (fun _ h => h) (fun _ _ h => h)
        fun _ _ h => h.ready.covered
    · cases result with
      | ok status => exact Triple.ite (fun _ => Triple.pure fun _ h => h.ready) fun _ =>
          Triple.pure fun _ h => h.ready
      | error _ => exact Triple.pure fun _ h => h.ready

theorem triple_runAttempt :
    Triple (Cleared clean since dispatch) (runAttempt env bytes dispatch)
      (fun _ => Covered clean since dispatch) (fun _ => Covered clean since dispatch) := by
  have hlook : Keeps (Ready clean since dispatch.job.jobId dispatch.job.attemptId)
      (forEach (fun _ => tick) dispatch.evidence : OnHost Unit) := Keeps.forEach fun _ _ => Keeps.tick
  refine Triple.bind (triple_executeAttempt hj ha) fun status => Triple.bind
    (hlook.conseq (fun _ h => h) (fun _ _ h => h) fun _ _ h => h.covered) fun _ =>
    Triple.bind triple_persistAndTransmitOutcome fun transmitted => ?_
  exact ((Keeps.attempt (keeps_clearJournalOnTerminal hj ha)).bind fun _ => Keeps.pure).conseq
    (fun _ h => h) (fun _ _ h => h.covered) fun _ _ h => h.covered

end Cleared

end Outcomes

/-! ## §6. The gate. -/

section Gate

variable {jobId attemptId : JsString} {host : Host} {n : Nat}

theorem suffix_markerOf : ENTRY_FILE_SUFFIX.isSuffixOf (markerOf jobId attemptId).name = true :=
  List.isSuffixOf_iff_suffix.mpr (List.suffix_append _ _)

theorem OnlyMarkers.json {journal : List JournalFile} (h : OnlyMarkers journal) :
    ∀ file ∈ journal, ENTRY_FILE_SUFFIX.isSuffixOf file.name = true := by
  intro file hfile
  obtain ⟨j, a, -, -, heq⟩ := h file hfile
  rw [heq]
  exact suffix_markerOf

variable {file : JournalFile} {I : Host → Prop} {files : List JournalFile} {entry : JournalEntry}

/-- A turn of the scan takes one operation. -/
theorem readJournalFile_reads (hjson : ENTRY_FILE_SUFFIX.isSuffixOf file.name = true) :
    ScriptTriple (fun w => w.state = host ∧ PassesAt w.script (n + 1)) (readJournalFile file)
      (fun _ w => w.state = host ∧ PassesAt w.script n) (fun _ w => w.state = host) := by
  unfold readJournalFile
  rw [if_pos hjson]
  refine ScriptTriple.bind (Q := fun _ w => w.state = host ∧ PassesAt w.script n)
    (ScriptTriple.attempt (ScriptTriple.op ?_ ?_ ?_)) fun result => ?_
  · exact fun w hw => ⟨(), w.state, rfl, hw.1, hw.2.tail⟩
  · exact fun w _ hw _ => ⟨hw.1, hw.2.tail⟩
  · exact fun w hw => hw.1
  · cases result <;> exact ScriptTriple.pure fun _ h => h

theorem readJournalFile_finds (hjson : ENTRY_FILE_SUFFIX.isSuffixOf file.name = true) :
    ScriptTriple (fun w => w.state = host ∧ PassesAt w.script 0) (readJournalFile file)
      (fun entry w => w.state = host ∧ entry = file.unresolved) (fun _ w => w.state = host) := by
  unfold readJournalFile
  rw [if_pos hjson]
  refine ScriptTriple.bind (Q := fun result w => w.state = host ∧ result = .ok ())
    (ScriptTriple.attempt (ScriptTriple.op ?_ ?_ ?_)) fun result => ?_
  · exact fun w hw => ⟨(), w.state, rfl, hw.1, rfl⟩
  · exact fun w _ hw hfails => absurd hw.2 hfails
  · exact fun w hw => hw.1
  · cases result with
    | ok _ => exact ScriptTriple.pure fun _ h => ⟨h.1, rfl⟩
    | error _ => exact fun w hw => nomatch hw.2

theorem keeps_collect :
    Keeps I (collect readJournalFile files) := by
  induction files with
  | nil => exact Keeps.pure
  | cons file files ih =>
    refine Keeps.bind ?_ fun _ => Keeps.bind ih fun _ => Keeps.pure
    unfold readJournalFile
    refine Keeps.ite (Keeps.bind (Keeps.attempt Keeps.tick) fun result => ?_) Keeps.pure
    cases result <;> exact Keeps.pure

theorem collect_readJournalFile_finds
    (hjson : ∀ f ∈ files, ENTRY_FILE_SUFFIX.isSuffixOf f.name = true)
    (hfile : files[n]? = some file) (hentry : file.unresolved = some entry) :
    ScriptTriple (fun w => w.state = host ∧ PassesAt w.script n) (collect readJournalFile files)
      (fun entries w => w.state = host ∧ entry ∈ entries) (fun _ w => w.state = host) := by
  induction files generalizing n with
  | nil => exact nomatch hfile
  | cons first files ih =>
    rw [List.forall_mem_cons] at hjson
    cases n with
    | zero =>
      injection hfile with hfile
      subst hfile
      refine ScriptTriple.bind (readJournalFile_finds hjson.1) fun found => ScriptTriple.bind
        (Q := fun _ w => w.state = host ∧ found = first.unresolved) ?_ fun rest =>
          ScriptTriple.pure fun w hw => ⟨hw.1, ?_⟩
      · have hrest : Keeps (fun s => s = host ∧ found = first.unresolved)
            (collect readJournalFile files) := keeps_collect
        exact hrest.script.conseq (fun _ h => h) (fun _ _ h => h) fun _ _ h => h.1
      · rw [hw.2, hentry]
        exact List.mem_append_left _ (List.mem_singleton.mpr rfl)
    | succ n =>
      refine ScriptTriple.bind (readJournalFile_reads hjson.1) fun found => ScriptTriple.bind
        (ih hjson.2 hfile) fun rest => ScriptTriple.pure fun w hw => ⟨hw.1, ?_⟩
      exact List.mem_append_right _ hw.2

/-- **THE GATE HOLDS**: an unresolved marker of the job that can be read is
    seen. -/
theorem gate_holds (hid : jobId ≠ []) (hmarkers : OnlyMarkers host.journal)
    (hfile : host.journal[n]? = some file) (hentry : file.unresolved = some entry)
    (hjob : entry.jobId = jobId) :
    ScriptTriple (fun w => w.state = host ∧
        PassesAt w.script 0 ∧ PassesAt w.script 1 ∧ PassesAt w.script (n + 2))
      (hasUnresolvedJournalForJob jobId) (fun found w => w.state = host ∧ found = true)
      (fun _ w => w.state = host) := by
  unfold hasUnresolvedJournalForJob scanUnresolvedJournalEntries
  rw [if_neg hid]
  refine ScriptTriple.bind (Q := fun entries w => w.state = host ∧ entry ∈ entries) ?_ fun entries =>
    ScriptTriple.pure fun w hw => ⟨hw.1, List.any_eq_true.mpr ⟨entry, hw.2, decide_eq_true hjob⟩⟩
  refine ScriptTriple.bind (Q := fun files w => files = host.journal ∧ w.state = host ∧
    PassesAt w.script n) ?_ fun files w hw => ?_
  · refine ScriptTriple.bind (Q := fun result w => result = .ok () ∧ w.state = host ∧
      PassesAt w.script 0 ∧ PassesAt w.script (n + 1))
      (ScriptTriple.attempt (ScriptTriple.op ?_ ?_ ?_)) fun result => ?_
    · exact fun w hw => ⟨(), w.state, rfl, rfl, hw.1, hw.2.2.1.tail, hw.2.2.2.tail⟩
    · exact fun w _ hw hfails => absurd hw.2.1 hfails
    · exact fun w hw => hw.1
    · cases result with
      | error _ => exact fun w hw => nomatch hw.1
      | ok _ =>
        refine ScriptTriple.bind (Q := fun result w => result = .ok host.journal ∧ w.state = host ∧
          PassesAt w.script n) (ScriptTriple.attempt (ScriptTriple.op ?_ ?_ ?_)) fun result => ?_
        · rintro w ⟨-, hstate, -, hpass⟩
          exact ⟨w.state.journal, w.state, rfl, by rw [hstate], hstate, hpass.tail⟩
        · exact fun w _ hw hfails => absurd hw.2.2.1 hfails
        · exact fun w hw => hw.2.1
        · cases result with
          | error _ => exact fun w hw => nomatch hw.1
          | ok files =>
            refine ScriptTriple.pure fun w hw => ⟨?_, hw.2⟩
            injection hw.1
  · obtain ⟨hfiles, hstate, hpass⟩ := hw
    subst hfiles
    exact collect_readJournalFile_finds hmarkers.json hfile hentry w ⟨hstate, hpass⟩

/-- The gate only looks. -/
theorem keeps_hasUnresolvedJournalForJob :
    Keeps I (hasUnresolvedJournalForJob jobId) := by
  have hlist : Keeps I listJournal := by
    refine Keeps.bind (Keeps.attempt Keeps.tick) fun result => ?_
    cases result with
    | error _ => exact Keeps.pure
    | ok _ =>
      refine Keeps.bind (Keeps.attempt (Keeps.op fun s a s' hs heq => ?_)) fun result => ?_
      · injection heq with heq
        injection heq with _ heq
        rw [← heq]
        exact hs
      · cases result <;> exact Keeps.pure
  exact Keeps.ite Keeps.pure (Keeps.bind (Keeps.bind hlist fun _ => keeps_collect) fun _ => Keeps.pure)

end Gate

/-! ## §7. The agent. -/

/-- The identifiers of a dispatch are UUIDs. -/
def AgentCall.identified : AgentCall → Prop
  | .handle dispatch _ _ _ =>
    isUuid dispatch.job.jobId = true ∧ isUuid dispatch.job.attemptId = true
  | _ => True

/-- No read of the gate that concerns a marker of the job fails: not
    `existsSync`, not `readdirSync`, and not the read of that marker. -/
def AgentCall.readsJournal (agent : AgentState) : AgentCall → Prop
  | .handle dispatch _ _ script =>
    dispatch.refused = false → ∀ n file entry, agent.host.journal[n]? = some file →
      file.unresolved = some entry → entry.jobId = dispatch.job.jobId →
        PassesAt script 1 ∧ PassesAt script 2 ∧ PassesAt script (n + 3)
  | _ => True

/-- What crash safety promises of an attempt handled since `since`: it did not
    touch the host, or the journal stops its job, or its result is in the outbox,
    or its result was acknowledged. -/
def Recoverable (since : List HostEvent) (dispatch : Dispatch) (host : Host) : Prop :=
  ∃ events, host.history = since ++ events ∧
    (.mutated dispatch.job.jobId dispatch.job.attemptId ∉ events ∨
      Returns (hasUnresolvedJournalForJob dispatch.job.jobId) host true host ∨
      InOutbox dispatch host.outbox ∨
      .acknowledged dispatch.job.jobId dispatch.job.attemptId ∈ events)

section Agents

variable {clean : Prop} {env : Environment} {bytes : Content → Nat}
  {isPermanent : Failure → Entry → Option Bool} {agent : AgentState} {dispatch : Dispatch}
  {host : Host} {script : List (Fault FileError)}

/-- A marked attempt stops its job. -/
theorem hasUnresolved_of_marked {jobId attemptId : JsString} (hid : jobId ≠ [])
    (hmarkers : OnlyMarkers host.journal) (hmarked : Marked host.journal jobId attemptId) :
    Returns (hasUnresolvedJournalForJob jobId) host true host := by
  have hread : ∀ file ∈ host.journal, Returns (readJournalFile file) host file.unresolved host := by
    intro file hfile
    unfold readJournalFile
    rw [if_pos (hmarkers.json file hfile)]
    exact Returns.bind Returns.tick.attempt Returns.pure
  have hlist : Returns listJournal host host.journal host :=
    Returns.bind Returns.tick.attempt (Returns.bind (Returns.op rfl).attempt Returns.pure)
  have hany : (host.journal.filterMap JournalFile.unresolved).any (·.jobId = jobId) = true :=
    List.any_eq_true.mpr ⟨⟨jobId, attemptId, false⟩, List.mem_filterMap.mpr ⟨_, hmarked, rfl⟩,
      decide_eq_true rfl⟩
  unfold hasUnresolvedJournalForJob
  rw [if_neg hid]
  refine Returns.bind (Returns.bind hlist (Returns.collect host.journal hread)) ?_
  rw [hany]
  exact Returns.pure

theorem Covered.recoverable {since : List HostEvent} (h : Covered clean since dispatch host)
    (hj : isUuid dispatch.job.jobId = true) : Recoverable since dispatch host := by
  obtain ⟨events, heq, htraced⟩ := h.traced
  refine ⟨events, heq, ?_⟩
  by_cases hmem : .mutated dispatch.job.jobId dispatch.job.attemptId ∈ events
  · rcases htraced hmem with hmarked | hkept
    · exact .inr (.inl (hasUnresolved_of_marked (ne_nil_of_isUuid hj) h.accounted.markers hmarked))
    · exact .inr (.inr hkept)
  · exact .inl hmem

/-- **ONE ATTEMPT**: handled from an accounted host, it leaves a covered one. -/
theorem covered_handleSignedJob (h : Accounted clean host)
    (hj : isUuid dispatch.job.jobId = true) (ha : isUuid dispatch.job.attemptId = true)
    (hreads : clean → dispatch.refused = false → ∀ n file entry, host.journal[n]? = some file →
      file.unresolved = some entry → entry.jobId = dispatch.job.jobId →
        PassesAt script 1 ∧ PassesAt script 2 ∧ PassesAt script (n + 3)) :
    Covered clean host.history dispatch
      (exec (handleSignedJob env bytes dispatch) script host).2 := by
  have hready : Ready clean host.history dispatch.job.jobId dispatch.job.attemptId host :=
    ⟨h, [], (List.append_nil _).symm, fun hmem => nomatch hmem⟩
  have hreport : ∀ status evidence,
      Triple (Ready clean host.history dispatch.job.jobId dispatch.job.attemptId)
        (persistAndTransmitOutcome bytes dispatch status evidence)
        (fun _ => Covered clean host.history dispatch)
        (fun _ => Covered clean host.history dispatch) := fun status evidence =>
    triple_persistAndTransmitOutcome.conseq (fun _ h => h) (fun _ _ h => h.covered) fun _ _ h => h
  have hrun : ScriptTriple (fun w => w.state = host ∧ w.script = script)
      (handleSignedJob env bytes dispatch)
      (fun _ w => Covered clean host.history dispatch w.state)
      (fun _ w => Covered clean host.history dispatch w.state) := by
    unfold handleSignedJob
    by_cases hrefused : dispatch.refused = true
    · rw [if_pos hrefused]
      have hlook : Keeps (Ready clean host.history dispatch.job.jobId dispatch.job.attemptId)
          (forEach (fun _ => tick) dispatch.evidence : OnHost Unit) :=
        Keeps.forEach fun _ _ => Keeps.tick
      exact (Triple.bind (hlook.conseq (fun _ h => h) (fun _ _ h => h) fun _ _ h => h.covered)
        fun _ => hreport _ _).script.conseq (fun w hw => hw.1 ▸ hready) (fun _ _ h => h) fun _ _ h => h
    · rw [if_neg hrefused]
      have hclear : ∀ w : World Host FileError, w.state = host → Covered clean host.history dispatch w.state :=
        fun w hw => hw ▸ hready.covered
      refine ScriptTriple.bind (Q := fun _ w => w.state = host ∧ w.script = script.tail)
        (ScriptTriple.op (fun w hw => ⟨(), w.state, rfl, hw.1, by rw [hw.2]⟩)
          (fun w _ hw _ => hclear _ hw.1) fun w hw => hclear _ hw.1) fun _ => ?_
      refine ScriptTriple.bind (Q := fun found w => w.state = host ∧ (found = false → clean →
        ∀ earlier, outstanding host.history dispatch.job.jobId earlier = false)) ?_ fun found => ?_
      · by_cases hmarked : clean ∧ ∃ earlier, outstanding host.history dispatch.job.jobId earlier = true
        · obtain ⟨hc, earlier, hout⟩ := hmarked
          obtain ⟨n, hfile⟩ := List.mem_iff_getElem?.mp (h.marked _ _ hout)
          have hpass := hreads hc (Bool.eq_false_iff.mpr hrefused) n _ _ hfile rfl rfl
          refine (gate_holds (ne_nil_of_isUuid hj) h.markers hfile rfl rfl).conseq ?_ ?_
            fun _ w hw => hclear w hw
          · rintro w ⟨hstate, hscript⟩
            rw [hscript]
            exact ⟨hstate, hpass.1.tail, hpass.2.1.tail, hpass.2.2.tail⟩
          · rintro found w ⟨hstate, hfound⟩
            exact ⟨hstate, fun hnot => absurd (hfound.symm.trans hnot) (by decide)⟩
        · have hnone : clean → ∀ earlier, outstanding host.history dispatch.job.jobId earlier = false :=
            fun hc earlier => Bool.eq_false_iff.mpr fun hout => hmarked ⟨hc, earlier, hout⟩
          have hlook : Keeps (fun s => s = host)
            (hasUnresolvedJournalForJob dispatch.job.jobId) := keeps_hasUnresolvedJournalForJob
          exact hlook.script.conseq (fun w hw => hw.1) (fun _ _ hw => ⟨hw, fun _ => hnone⟩)
            fun _ w hw => hclear w hw
      · cases found with
        | true =>
          exact (hreport _ _).script.conseq (fun w hw => hw.1 ▸ hready) (fun _ _ h => h) fun _ _ h => h
        | false =>
          have hcleared : Triple (Cleared clean host.history dispatch) (do
              if !(← renewJobLeaseOrAbort) then
                persistAndTransmitOutcome bytes dispatch .blocked []
              else runAttempt env bytes dispatch)
              (fun _ => Covered clean host.history dispatch)
              (fun _ => Covered clean host.history dispatch) := by
            have hlease : Keeps (Cleared clean host.history dispatch) renewJobLeaseOrAbort := by
              refine Keeps.bind (Keeps.attempt (keeps_answer fun _ _ h => ?_)) fun held => ?_
              · exact ⟨⟨⟨h.1.1.1, h.1.1.2, h.1.1.3⟩, h.1.2⟩, h.2⟩
              · cases held <;> exact Keeps.pure
            refine Triple.bind (hlease.conseq (fun _ h => h) (fun _ _ h => h)
              fun _ _ h => h.1.covered) fun held => Triple.ite (fun _ => ?_) fun _ => ?_
            · exact (hreport _ _).conseq (fun _ h => h.1) (fun _ _ h => h) fun _ _ h => h
            · exact triple_runAttempt hj ha
          refine hcleared.script.conseq (fun w hw => ?_) (fun _ _ h => h) fun _ _ h => h
          rw [hw.1]
          exact ⟨hready, hw.2 rfl⟩
  have := hrun ⟨host, script⟩ ⟨rfl, rfl⟩
  unfold exec
  revert this
  rcases handleSignedJob env bytes dispatch ⟨host, script⟩ with ⟨_ | _, w⟩
  · exact fun h => h
  · exact fun h => h

theorem Accounted.call (h : Accounted clean agent.host) {call : AgentCall}
    (hids : call.identified) (hreads : clean → call.readsJournal agent) :
    Accounted clean (agent.call env bytes isPermanent call).host := by
  cases call with
  | handle dispatch clock answers script =>
    have hat : Accounted clean (agent.host.at clock answers) := ⟨h.markers, h.marked, h.starts⟩
    have hcovered : Covered clean agent.host.history dispatch
        (exec (handleSignedJob env bytes dispatch) script (agent.host.at clock answers)).2 :=
      covered_handleSignedJob hat hids.1 hids.2 hreads
    unfold AgentState.call
    dsimp only
    revert hcovered
    rcases exec (handleSignedJob env bytes dispatch) script (agent.host.at clock answers) with
      ⟨stop | status, host⟩
    · cases stop <;> exact fun hcovered => hcovered.accounted
    · exact fun hcovered => hcovered.accounted
  | outbox | filesChange => exact ⟨h.markers, h.marked, h.starts⟩

theorem Accounted.reachable {ok : AgentState → AgentCall → Prop}
    (hok : ∀ agent call, ok agent call → call.identified ∧ (clean → call.readsJournal agent))
    (h : Reachable (agentSystem env bytes isPermanent) ok agent) : Accounted clean agent.host := by
  refine h.invariant (I := fun agent => Accounted clean agent.host) ?_ ?_
  · rintro _ rfl
    refine ⟨?_, ?_, fun _ before j a hprefix => ?_⟩
    · exact fun file hfile => nomatch hfile
    · exact fun j a hout => nomatch hout
    · have := List.prefix_nil.mp hprefix
      simp at this
  · rintro agent call _ hagent hcall rfl
    exact hagent.call (hok agent call hcall).1 (hok agent call hcall).2

end Agents

/-- **CRASH SAFETY OF JOB EXECUTION**: however and wherever the handling of a job
    stops, from any reachable state, the attempt is recoverable; and while the
    journal's reads at the gate do not fail, no job is ever started over an
    attempt that touched the host and left no outcome. -/
theorem execution_crash_safe (env : Environment) (bytes : Content → Nat)
    (isPermanent : Failure → Entry → Option Bool) (agent : AgentState) :
    (Reachable (agentSystem env bytes isPermanent) (fun _ call => call.identified) agent →
      ∀ dispatch clock answers script,
        (AgentCall.handle dispatch clock answers script).identified →
          Recoverable agent.host.history dispatch
            (agent.call env bytes isPermanent (.handle dispatch clock answers script)).host) ∧
    (Reachable (agentSystem env bytes isPermanent)
      (fun agent call => call.identified ∧ call.readsJournal agent) agent →
        StartsClean agent.host.history) := by
  refine ⟨fun hreach dispatch clock answers script hids => ?_, fun hreach => ?_⟩
  · have haccounted : Accounted False agent.host :=
      Accounted.reachable (fun _ _ hcall => ⟨hcall, False.elim⟩) hreach
    have hat : Accounted False (agent.host.at clock answers) :=
      ⟨haccounted.markers, haccounted.marked, haccounted.starts⟩
    have hcovered : Covered False agent.host.history dispatch
        (exec (handleSignedJob env bytes dispatch) script (agent.host.at clock answers)).2 :=
      covered_handleSignedJob hat hids.1 hids.2 False.elim
    have hrecoverable := hcovered.recoverable hids.1
    unfold AgentState.call
    dsimp only
    revert hrecoverable
    rcases exec (handleSignedJob env bytes dispatch) script (agent.host.at clock answers) with
      ⟨stop | status, host⟩
    · cases stop <;> exact fun h => h
    · exact fun h => h
  · have haccounted : Accounted True agent.host :=
      Accounted.reachable (fun _ _ hcall => ⟨hcall.1, fun _ => hcall.2⟩) hreach
    exact haccounted.starts trivial

/-! ## §8. A job that is started again. -/

/-- Everything is permitted, nothing is PEM. -/
def demoEnvironment : Environment where
  encode text := text.map fun c => UInt8.ofNat c.val
  decode bytes := bytes.map fun b => Fin.ofNat 65536 b.toNat
  hasPrivateKeyHeader _ := false
  publicKeysEqual _ _ := false
  splitLeafAndChainPem pem := (pem, none)
  validateCertificateForDeploy _ _ _ := true
  hasFingerprint _ := true
  isAbsolute _ := true
  checkPath _ := true
  checkCommandRef _ := true
  checkVerifyHost _ _ := true
  checkDnsProvider _ := true
  checkDnsZone _ := true
  keysDir := js "/var/lib/agent/keys"
  localDryRun := false
  trustStoreAvailable := true
  trustStoreCommandRef := js "update-ca-certificates"

def demoDispatch (attemptId : JsString) : Dispatch where
  job :=
    { jobId := js "11111111-1111-1111-1111-111111111111"
      attemptId := attemptId
      action := .reload
      dryRun := false
      planRefusal := none
      commonName := []
      certificateId := []
      sans := none
      targets := none
      tail := ⟨js "web", some ⟨js "nginx-test", js "nginx-reload"⟩, none⟩
      reloadService := some (js "nginx")
      dnsProvider := none
      dnsZone := none
      commandRef := none
      caEndpoint := none
      keyAlgorithmMapped := false
      eabCredentialsAvailable := false
      keyRotation := false
      certificatePem := none
      trustPayloadValid := false }
  claimId := attemptId
  nonce := attemptId
  refused := false
  heartbeatLost := false
  randomId := js "outbox-" ++ attemptId
  createdNow := ⟨js "2026-01-01T00:00:00.000Z", some 1767225600000⟩
  evidence := []

def demoFirst : JsString := js "22222222-2222-2222-2222-222222222222"
def demoSecond : JsString := js "33333333-3333-3333-3333-333333333333"

/-- The first attempt crashes in the reload command. -/
def demoCrash : AgentCall :=
  .handle (demoDispatch demoFirst) 1767225600000 ⟨[], [], [], [], [], []⟩
    (List.replicate 10 .pass ++ [.crash])

/-- The second attempt, of which these operations fail. -/
def demoRetry (script : List (Fault FileError)) : AgentCall :=
  .handle (demoDispatch demoSecond) 1767225700000 ⟨[], [], [], [], [], []⟩ script

def demoCall : AgentState → AgentCall → AgentState :=
  AgentState.call demoEnvironment (fun _ => 1) fun failure _ => some (defaultIsPermanentFailure failure)

abbrev demoSystem : Lib.Runs.System AgentState AgentCall :=
  agentSystem demoEnvironment (fun _ => 1) fun failure _ => some (defaultIsPermanentFailure failure)

theorem identified_demoRetry (script : List (Fault FileError)) : (demoRetry script).identified := by
  constructor <;> decide +kernel

theorem reachable_demoRetry {ok : AgentState → AgentCall → Prop} {script : List (Fault FileError)}
    (hcrash : ok .fresh demoCrash) (hretry : ok (demoCall .fresh demoCrash) (demoRetry script)) :
    Reachable demoSystem ok (demoCall (demoCall .fresh demoCrash) (demoRetry script)) :=
  ((Reachable.of_init rfl).step hcrash rfl).step hretry rfl

/-- The crashed attempt is recoverable, and the second one is not started. -/
theorem execution_crash_safe_demo :
    Recoverable [] (demoDispatch demoFirst) (demoCall .fresh demoCrash).host ∧
      StartsClean (demoCall (demoCall .fresh demoCrash) (demoRetry [])).host.history := by
  have hids : demoCrash.identified := by constructor <;> decide +kernel
  refine ⟨(execution_crash_safe demoEnvironment (fun _ => 1) _ .fresh).1 (Reachable.of_init rfl) _ _ _
    _ hids, (execution_crash_safe demoEnvironment (fun _ => 1) _ _).2
      (reachable_demoRetry ⟨hids, fun _ n file entry hfile => nomatch hfile⟩
        ⟨identified_demoRetry [], fun _ n file entry _ _ _ => ?_⟩)⟩
  exact ⟨fun error h => (nomatch h), fun error h => (nomatch h), fun error h => nomatch h⟩

/-- **A JOB STARTED OVER AN UNKNOWN OUTCOME**: the first attempt reloads the
    service and crashes.  At the second, `readdirSync` of the journal fails, the
    gate sees no marker, and the job is executed again. -/
theorem unreadable_journal_reexecutes :
    ¬ ∀ agent, Reachable demoSystem (fun _ call => call.identified) agent →
      StartsClean agent.host.history := by
  intro hsafe
  have hids : demoCrash.identified := by constructor <;> decide +kernel
  have hclean := hsafe _ (reachable_demoRetry hids
    (identified_demoRetry [.pass, .pass, .throws (.other (js "EMFILE"))]))
  have hjob := hclean [.started (demoDispatch demoFirst).job.jobId demoFirst,
    .mutated (demoDispatch demoFirst).job.jobId demoFirst] (demoDispatch demoSecond).job.jobId demoSecond
    (List.isPrefixOf_iff_prefix.mp (by decide +kernel)) demoFirst
  exact absurd hjob (by decide +kernel)

end TokenTimer.Agent
