/-
  TokenTimer.Recipients.ConsentTables — what the operations of recipient verification
  do to each of the three tables.

    * `ChallengesOk`, `Closes` — a pending challenge is closed once.
    * `DeclinesOk` — a destination whose last answer in a workspace was a decline has a
      suppression there.
    * `VerifiedOk` — a verified row stands on an acceptance that nothing has ended
      (`Standing`), and has the destination of its contact.
-/

import TokenTimer.Recipients.Consent

namespace TokenTimer.Recipients

open Lib.Table Lib.Runs

/-! ## §1. What the log says. -/

def Event.token : Event → Option Nat
  | .accepted token .. | .declined token .. => some token
  | .revoked .. | .departed .. => none

def Event.ends (workspaceId contactId : Nat) (channel : Channel) (destination : String)
    (e : Event) : Prop :=
  e = .revoked workspaceId contactId channel ∨
    e = .departed workspaceId contactId channel destination

/-- The contact has accepted the destination, and since then neither was its channel
    revoked nor was it moved away from the destination. -/
def Standing (log : List Event) (workspaceId contactId : Nat) (channel : Channel)
    (destination : String) : Prop :=
  ∃ later token earlier,
    log = later ++ .accepted token workspaceId contactId channel destination :: earlier ∧
      ∀ e ∈ later, ¬ e.ends workspaceId contactId channel destination

/-- The last answer about the destination in the workspace was a decline. -/
def lastIsDecline (workspaceId : Nat) (channel : Channel) (destination : String) :
    List Event → Bool
  | [] => false
  | .accepted _ ws _ ch d :: rest =>
    if ws = workspaceId ∧ ch = channel ∧ d = destination then false
    else lastIsDecline workspaceId channel destination rest
  | .declined _ ws _ ch d :: rest =>
    if ws = workspaceId ∧ ch = channel ∧ d = destination then true
    else lastIsDecline workspaceId channel destination rest
  | .revoked .. :: rest | .departed .. :: rest => lastIsDecline workspaceId channel destination rest

variable {log : List Event} {ws contact : Nat} {ch : Channel} {d : String}

variable {c : ChallengeRow} {p : ChallengeRow → Bool} {f : ChallengeRow → ChallengeRow}
  {op : Consume} {before : ContactRow} {u : ContactUpdate} {db db' : Db} {new : List Event}
  {v : VerificationRow}

theorem Standing.append (h : Standing log ws contact ch d) (hnew : ∀ e ∈ new, ¬ e.ends ws contact ch d) :
    Standing (new ++ log) ws contact ch d := by
  obtain ⟨later, token, earlier, hlog, hlater⟩ := h
  refine ⟨new ++ later, token, earlier, by rw [hlog, List.append_assoc], ?_⟩
  intro e he
  rcases List.mem_append.mp he with he | he
  · exact hnew e he
  · exact hlater e he

theorem Standing.cons {e : Event} (h : Standing log ws contact ch d)
    (he : ¬ e.ends ws contact ch d) : Standing (e :: log) ws contact ch d := by
  show Standing ([e] ++ log) ws contact ch d
  apply h.append
  intro e' he'
  rw [List.mem_singleton] at he'
  exact he' ▸ he

theorem lastIsDecline_append (hnew : ∀ e ∈ new, e.token = none) :
    lastIsDecline ws ch d (new ++ log) = lastIsDecline ws ch d log := by
  induction new with
  | nil => rfl
  | cons e new ih =>
    rw [List.forall_mem_cons] at hnew
    have hrest := ih hnew.2
    cases e with
    | accepted | declined => simp [Event.token] at hnew
    | revoked | departed => exact hrest

/-! ## §2. Challenges. -/

/-- The columns of a challenge that are never written. -/
def ChallengeRow.identity (c : ChallengeRow) : ChallengeRow :=
  { c with status := .pending, attemptCount := 0 }

/-- The operation is about this challenge, whatever its status. -/
def Consume.names (op : Consume) (c : ChallengeRow) : Prop :=
  c.channel = op.channel ∧
    match op with
    | .consumeEmailChallenge tokenHash _ | .declineWhatsAppChallenge tokenHash =>
      c.tokenHash = tokenHash
    | .confirmWhatsAppInbound codeHash sender => c.codeHash = some codeHash ∧ c.destination = sender

theorem Consume.names_identity (op : Consume) (c : ChallengeRow) :
    op.names c.identity ↔ op.names c := by
  cases op <;> exact Iff.rfl

theorem Consume.finds_iff {now : Nat} :
    op.finds now c = true ↔ op.names c ∧ c.status = .pending ∧ now < c.expiresAt := by
  cases op <;> simp [Consume.finds, Consume.names] <;> tauto

def ChallengeRow.previewed (c : ChallengeRow) : Preview :=
  { workspaceId := c.workspaceId, contactId := c.contactId, destination := c.destination }

/-- The challenge table: fingerprints and identifiers are as they were inserted, and only
    a pending challenge can still be consumed. -/
structure ChallengesOk (env : Env) (nextId : Nat) (rows : List ChallengeRow) : Prop where
  fingerprint : ∀ c ∈ rows, c.fingerprint = env.hmac c.channel c.destination
  key : KeyNodup ChallengeRow.tokenHash rows
  fresh : ∀ c ∈ rows, c.tokenHash < nextId
  code : ∀ c ∈ rows, ∀ k, c.codeHash = some k → c.tokenHash = k
  pending : ∀ c ∈ rows, c.status = .pending → c.attemptCount = 0
  once : ∀ c ∈ rows, c.attemptCount ≤ 1

/-- Every operation in flight has read one of the challenges. -/
def PreviewsOk (inFlight : List (Consume × Preview)) (rows : List ChallengeRow) : Prop :=
  ∀ x ∈ inFlight, ∃ c ∈ rows, x.1.names c ∧ c.previewed = x.2

variable {env : Env} {nextId : Nat} {rows : List ChallengeRow}

/-- An update that closes challenges, and touches nothing else. -/
structure Closes (p : ChallengeRow → Bool) (f : ChallengeRow → ChallengeRow) : Prop where
  identity : ∀ c, (f c).identity = c.identity
  pending : ∀ c, p c = true → c.status = .pending
  closed : ∀ c, (f c).status ≠ .pending
  attempts : ∀ c, (f c).attemptCount ≤ c.attemptCount + 1

theorem Closes.row (h : Closes p f) (hc : c ∈ updateWhere p f rows) :
    ∃ x ∈ rows, c.identity = x.identity ∧ (c = x ∨ p x = true ∧ c = f x) := by
  obtain ⟨x, hx, hcx⟩ := mem_updateWhere.mp hc
  by_cases hp : p x = true
  · rw [if_pos hp] at hcx
    exact ⟨x, hx, by rw [← hcx, h.identity], .inr ⟨hp, hcx.symm⟩⟩
  · rw [if_neg hp] at hcx
    exact ⟨x, hx, by rw [← hcx], .inl hcx.symm⟩

theorem ChallengesOk.close (hs : ChallengesOk env nextId rows) (h : Closes p f) :
    ChallengesOk env nextId (updateWhere p f rows) where
  fingerprint c hc := by
    obtain ⟨x, hx, hid, _⟩ := h.row hc
    show c.identity.fingerprint = env.hmac c.identity.channel c.identity.destination
    rw [hid]
    exact hs.fingerprint x hx
  key := by
    apply keyNodup_updateWhere _ hs.key
    intro c
    show (f c).identity.tokenHash = c.identity.tokenHash
    rw [h.identity]
  fresh c hc := by
    obtain ⟨x, hx, hid, _⟩ := h.row hc
    show c.identity.tokenHash < nextId
    rw [hid]
    exact hs.fresh x hx
  code c hc k hk := by
    obtain ⟨x, hx, hid, _⟩ := h.row hc
    show c.identity.tokenHash = k
    rw [hid]
    apply hs.code x hx k
    show x.identity.codeHash = some k
    rw [← hid]
    exact hk
  pending c hc hpending := by
    obtain ⟨x, hx, _, hcase⟩ := h.row hc
    rcases hcase with rfl | ⟨_, rfl⟩
    · exact hs.pending c hx hpending
    · exact absurd hpending (h.closed x)
  once c hc := by
    obtain ⟨x, hx, _, hcase⟩ := h.row hc
    rcases hcase with rfl | ⟨hp, rfl⟩
    · exact hs.once c hx
    · have hzero := hs.pending x hx (h.pending x hp)
      have hle := h.attempts x
      omega

theorem PreviewsOk.close {inFlight : List (Consume × Preview)} (hs : PreviewsOk inFlight rows)
    (h : Closes p f) :
    PreviewsOk inFlight (updateWhere p f rows) := by
  intro x hx
  obtain ⟨c, hc, hnames, hprev⟩ := hs x hx
  have hid : (if p c then f c else c).identity = c.identity := by
    split
    · exact h.identity c
    · rfl
  refine ⟨if p c then f c else c, mem_updateWhere.mpr ⟨c, hc, rfl⟩, ?_, ?_⟩
  · rw [← Consume.names_identity, hid, Consume.names_identity]
    exact hnames
  · rw [← hprev]
    show (if p c then f c else c).identity.previewed = c.identity.previewed
    rw [hid]

theorem ChallengesOk.append (hs : ChallengesOk env nextId rows)
    (hfp : c.fingerprint = env.hmac c.channel c.destination) (htoken : c.tokenHash = nextId)
    (hcode : ∀ k, c.codeHash = some k → c.tokenHash = k) (hattempts : c.attemptCount = 0) :
    ChallengesOk env (nextId + 1) (rows ++ [c]) where
  fingerprint x hx := by
    rcases List.mem_append.mp hx with hx | hx
    · exact hs.fingerprint x hx
    · rw [List.mem_singleton] at hx
      exact hx ▸ hfp
  key := by
    apply keyNodup_append_singleton hs.key
    intro x hx
    have hlt := hs.fresh x hx
    omega
  fresh x hx := by
    rcases List.mem_append.mp hx with hx | hx
    · have hlt := hs.fresh x hx
      omega
    · rw [List.mem_singleton] at hx
      subst hx
      omega
  code x hx := by
    rcases List.mem_append.mp hx with hx | hx
    · exact hs.code x hx
    · rw [List.mem_singleton] at hx
      exact hx ▸ hcode
  pending x hx := by
    rcases List.mem_append.mp hx with hx | hx
    · exact hs.pending x hx
    · rw [List.mem_singleton] at hx
      exact fun _ => hx ▸ hattempts
  once x hx := by
    rcases List.mem_append.mp hx with hx | hx
    · exact hs.once x hx
    · rw [List.mem_singleton] at hx
      subst hx
      omega

theorem closes_supersede (workspaceId contactId : Nat) (channel : Channel) :
    Closes (fun c => c.workspaceId = workspaceId ∧ c.contactId = contactId ∧ c.channel = channel ∧
      c.status = .pending) (fun c => { c with status := .superseded }) where
  identity _ := rfl
  pending c hc := by
    simp only [decide_eq_true_eq] at hc
    exact hc.2.2.2
  closed _ := by simp
  attempts c := Nat.le_succ _

theorem Consume.consumes_iff {now : Nat} {current : String} (h : op.consumes now current c = true) :
    op.finds now c = true := by
  simp only [Consume.consumes, Bool.and_eq_true] at h
  exact h.1

theorem closes_close (op : Consume) (now : Nat) (current : String) :
    Closes (op.consumes now current) op.close where
  identity _ := rfl
  pending _ hc := (Consume.finds_iff.mp (Consume.consumes_iff hc)).2.1
  closed c := by
    show (if op.accepts then ChallengeStatus.consumed else .declined) ≠ .pending
    split <;> simp
  attempts _ := Nat.le_refl _

theorem ChallengesOk.names_inj (hs : ChallengesOk env nextId rows) {c' : ChallengeRow} (hc : c ∈ rows)
    (hc' : c' ∈ rows) (h : op.names c) (h' : op.names c') :
    c = c' := by
  apply hs.key.eq_of_mem hc hc'
  cases op with
  | consumeEmailChallenge | declineWhatsAppChallenge => exact h.2.trans h'.2.symm
  | confirmWhatsAppInbound k _ => rw [hs.code c hc k h.2.1, hs.code c' hc' k h'.2.1]

/-! ## §3. Suppressions. -/

def IsDecline (s : SuppressionRow) (channel : Channel) (fingerprint workspaceId : Nat) : Prop :=
  s.channel = channel ∧ s.fingerprint = fingerprint ∧ s.scope = .workspace workspaceId ∧
    s.reason = .recipientDeclined

/-- A destination whose last answer in a workspace was a decline is suppressed there, and
    the suppression of a decline does not expire. -/
structure DeclinesOk (env : Env) (rows : List SuppressionRow) (log : List Event) : Prop where
  forever : ∀ s ∈ rows, s.reason = .recipientDeclined → s.expiresAt = none
  present : ∀ workspaceId channel destination,
    lastIsDecline workspaceId channel destination log = true →
      ∃ s ∈ rows, IsDecline s channel (env.hmac channel destination) workspaceId

variable {sups : List SuppressionRow}

theorem DeclinesOk.quiet (h : DeclinesOk env sups log) (hnew : ∀ e ∈ new, e.token = none) :
    DeclinesOk env sups (new ++ log) where
  forever := h.forever
  present w c e hlast := by
    rw [lastIsDecline_append hnew] at hlast
    exact h.present w c e hlast

/-- An acceptance clears exactly the decline that it answers. -/
theorem DeclinesOk.accept (h : DeclinesOk env sups log)
    (hfp : c.fingerprint = env.hmac c.channel c.destination) :
    DeclinesOk env (clearDecline c sups)
      (.accepted c.tokenHash c.workspaceId c.contactId c.channel c.destination :: log) where
  forever s hs := h.forever s (mem_deleteWhere.mp hs).1
  present w channel destination hlast := by
    unfold lastIsDecline at hlast
    split at hlast
    · simp at hlast
    · rename_i hother
      obtain ⟨s, hs, hdecline⟩ := h.present w channel destination hlast
      refine ⟨s, mem_deleteWhere.mpr ⟨hs, ?_⟩, hdecline⟩
      -- a cleared row has the fingerprint, so the destination, of the challenge
      rw [decide_eq_false_iff_not]
      intro hclear
      apply hother
      obtain ⟨hch, hd⟩ : channel = c.channel ∧ destination = c.destination :=
        env.hmac_inj (hdecline.2.1.symm.trans (hclear.2.1.trans hfp))
      have hscope := hdecline.2.2.1.symm.trans hclear.2.2.1
      simp only [SuppressionScope.workspace.injEq] at hscope
      exact ⟨hscope.symm, hch.symm, hd.symm⟩

theorem DeclinesOk.decline (h : DeclinesOk env sups log)
    (hfp : c.fingerprint = env.hmac c.channel c.destination) :
    DeclinesOk env (insertDecline c sups)
      (.declined c.tokenHash c.workspaceId c.contactId c.channel c.destination :: log) := by
  have hkept : ∀ s ∈ sups, s ∈ insertDecline c sups := by
    intro s hs
    unfold insertDecline
    split
    · exact hs
    · exact List.mem_append_left _ hs
  constructor
  · intro s hs
    unfold insertDecline at hs
    split at hs
    · exact h.forever s hs
    · rcases List.mem_append.mp hs with hs | hs
      · exact h.forever s hs
      · rw [List.mem_singleton] at hs
        exact fun _ => hs ▸ rfl
  · intro w channel destination hlast
    unfold lastIsDecline at hlast
    split at hlast
    · rename_i hsame
      obtain ⟨rfl, rfl, rfl⟩ := hsame
      unfold insertDecline
      split
      · rename_i hany
        obtain ⟨s, hs, hp⟩ := List.any_eq_true.mp hany
        exact ⟨s, hs, by simpa [IsDecline, ← hfp] using hp⟩
      · exact ⟨_, List.mem_append_right _ (List.mem_singleton_self _), rfl, hfp, rfl, rfl⟩
    · obtain ⟨s, hs, hdecline⟩ := h.present w channel destination hlast
      exact ⟨s, hkept s hs, hdecline⟩

theorem DeclinesOk.abuse (h : DeclinesOk env db.suppressions log) (channel : Channel)
    (fingerprint : Nat) :
    DeclinesOk env (recordAbuseSuppression channel fingerprint db).suppressions log := by
  unfold recordAbuseSuppression
  dsimp only
  split
  · -- the update of an abuse row changes no decline
    constructor
    · intro s hs hreason
      obtain ⟨x, hx, hsx⟩ := mem_updateWhere.mp hs
      split at hsx
      · rename_i habuse
        simp only [decide_eq_true_eq] at habuse
        rw [← hsx] at hreason
        simp [habuse.2.2.2] at hreason
      · exact hsx ▸ h.forever x hx (hsx ▸ hreason)
    · intro w c e hlast
      obtain ⟨s, hs, hdecline⟩ := h.present w c e hlast
      refine ⟨s, mem_updateWhere.mpr ⟨s, hs, if_neg ?_⟩, hdecline⟩
      simp [hdecline.2.2.2]
  · constructor
    · intro s hs hreason
      rcases List.mem_append.mp hs with hs | hs
      · exact h.forever s hs hreason
      · rw [List.mem_singleton] at hs
        rw [hs] at hreason
        simp at hreason
    · intro w c e hlast
      obtain ⟨s, hs, hdecline⟩ := h.present w c e hlast
      exact ⟨s, List.mem_append_left _ hs, hdecline⟩

/-! ## §4. Verifications. -/

/-- A verified row stands on an acceptance, and has the destination of its contact. -/
def VerifiedOk (env : Env) (db : Db) (log : List Event) : Prop :=
  ∀ v ∈ db.verifications, v.status = .verified →
    (∃ c, db.contact v.workspaceId v.contactId = some c ∧
      normalizeDestination env v.channel (c.raw v.channel) = some v.destination) ∧
    Standing log v.workspaceId v.contactId v.channel v.destination

theorem mem_upsertRow {x : VerificationRow} {rows : List VerificationRow} (h : x ∈ upsertRow v rows) :
    x = v ∨ x ∈ rows ∧ x.hasKey v.workspaceId v.contactId v.channel = false := by
  unfold upsertRow at h
  split at h
  · obtain ⟨y, hy, hxy⟩ := mem_updateWhere.mp h
    split at hxy
    · exact .inl hxy.symm
    · rename_i hkey
      exact .inr ⟨hxy ▸ hy, by simpa [hxy] using hkey⟩
  · rename_i hnone
    rcases List.mem_append.mp h with hx | hx
    · right
      refine ⟨hx, ?_⟩
      by_contra hkey
      exact hnone (List.any_eq_true.mpr ⟨x, hx, by simpa using hkey⟩)
    · exact .inl (List.mem_singleton.mp hx)

theorem hasKey_iff :
    v.hasKey ws contact ch = true ↔ v.workspaceId = ws ∧ v.contactId = contact ∧ v.channel = ch := by
  simp [VerificationRow.hasKey]

theorem VerifiedOk.answer (h : VerifiedOk env db log) {r : ContactRow}
    (hcontact : db.contact c.workspaceId c.contactId = some r)
    (hdest : normalizeDestination env c.channel (r.raw c.channel) = some c.destination)
    (challenges : List ChallengeRow) :
    VerifiedOk env (upsertVerification c op.accepts { db with challenges := challenges })
      (consumedEvent op c :: log) := by
  intro v hv hverified
  have hquiet : ∀ {w k e f}, ¬ (consumedEvent op c).ends w k e f := by
    intro w k e f hends
    unfold consumedEvent at hends
    split at hends <;> simp [Event.ends] at hends
  rcases mem_upsertRow hv with rfl | hold
  · have haccepts : op.accepts = true := by
      by_contra hno
      simp [hno] at hverified
    refine ⟨⟨r, hcontact, hdest⟩, [], c.tokenHash, log, ?_, by simp⟩
    simp [consumedEvent, haccepts]
  · obtain ⟨hcon, hstand⟩ := h v hold.1 hverified
    exact ⟨hcon, hstand.cons hquiet⟩

theorem VerifiedOk.revoke (h : VerifiedOk env db log) (hv : v.status = .revoked)
    (challenges : List ChallengeRow) :
    VerifiedOk env
      { db with challenges := challenges, verifications := upsertRow v db.verifications }
      (.revoked v.workspaceId v.contactId v.channel :: log) := by
  intro x hx hverified
  rcases mem_upsertRow hx with rfl | hold
  · rw [hv] at hverified
    simp at hverified
  · obtain ⟨hcon, hstand⟩ := h x hold.1 hverified
    refine ⟨hcon, hstand.cons ?_⟩
    intro hends
    simp only [Event.ends, Event.revoked.injEq, reduceCtorEq, or_false] at hends
    have hkey := hold.2
    rw [Bool.eq_false_iff, ne_eq, hasKey_iff] at hkey
    exact hkey ⟨hends.1.symm, hends.2.1.symm, hends.2.2.symm⟩

/-! ## §5. The update of a contact. -/

theorem invalidate_spec {previous next : String}
    (h : invalidateChangedDestination env ws contact ch previous next db = some db') :
    db'.contacts = db.contacts ∧ db'.suppressions = db.suppressions ∧ db'.nextId = db.nextId ∧
      db'.now = db.now ∧
      (db'.challenges = db.challenges ∨
        db'.challenges = supersede ws contact ch db.challenges) ∧
      ∀ v ∈ db'.verifications, v.status = .verified → v ∈ db.verifications ∧
        (v.hasKey ws contact ch = true → some v.destination = normalizeDestination env ch next ∨
          (normalizeDestination env ch previous).isSome = true ∧
            normalizeDestination env ch previous = normalizeDestination env ch next) := by
  unfold invalidateChangedDestination at h
  dsimp only at h
  split at h
  · rename_i hsame
    obtain rfl := Option.some.inj h
    exact ⟨rfl, rfl, rfl, rfl, .inl rfl, fun v hv _ => ⟨hv, fun _ => .inr hsame⟩⟩
  · split at h
    · rename_i hnext
      obtain rfl := Option.some.inj h
      refine ⟨rfl, rfl, rfl, rfl, .inr rfl, ?_⟩
      intro v hv _
      obtain ⟨hmem, hkey⟩ := mem_deleteWhere.mp hv
      refine ⟨hmem, fun hk => ?_⟩
      rw [hkey] at hk
      simp at hk
    · rename_i value hnext
      cases hfp : destinationFingerprint env ch value with
      | none => simp [hfp] at h
      | some fp =>
        simp only [hfp, Option.bind_eq_bind, Option.bind_some, Option.pure_def,
          Option.some.injEq] at h
        subst h
        refine ⟨rfl, rfl, rfl, rfl, .inr rfl, ?_⟩
        intro v hv hverified
        obtain ⟨x, hx, hvx⟩ := mem_updateWhere.mp hv
        split at hvx
        · rw [← hvx] at hverified
          simp at hverified
        · rename_i hp
          subst hvx
          refine ⟨hx, fun hk => .inl ?_⟩
          simp only [decide_eq_true_eq, not_and, ne_eq, Decidable.not_not] at hp
          rw [hp hk, hnext]

theorem normalizeEmail_storedEmail (env : Env) (email : String) :
    normalizeEmail env (storedEmail env email) =
      normalizeEmail env (env.toLowerCase (jsTrim email)) := by
  unfold storedEmail
  by_cases hempty : env.toLowerCase (jsTrim email) = ""
  · have hnone : normalizeEmail env email = none := by
      have hinvalid : isValidEmail "" = false := by decide
      simp [normalizeEmail, hempty, hinvalid]
    have hnone' : normalizeEmail env "" = none := by
      have htrim : jsTrim "" = "" := by decide
      have hinvalid : isValidEmail "" = false := by decide
      simp [normalizeEmail, htrim, env.toLowerCase_empty, hinvalid]
    simp [hempty, hnone, hnone']
  · simp [hempty]

theorem contact_update (hbefore : db.contact ws contact = some before) (contacts : List ContactRow)
    (hcontacts : contacts = updateWhere (fun c => c.workspaceId = ws ∧ c.id = contact) (u.apply env) db.contacts)
    (w k : Nat) :
    selectOne (fun c => c.workspaceId = w ∧ c.id = k) contacts =
      if w = ws ∧ k = contact then some (u.apply env before) else db.contact w k := by
  rw [hcontacts]
  by_cases hsame : w = ws ∧ k = contact
  · obtain ⟨rfl, rfl⟩ := hsame
    rw [if_pos ⟨rfl, rfl⟩, selectOne_updateWhere_self]
    · show (db.contact w k).map (u.apply env) = some (u.apply env before)
      rw [hbefore]
      rfl
    · intro r hr
      exact hr
  · rw [if_neg hsame]
    apply selectOne_updateWhere
    · intro r hr
      simp only [decide_eq_true_eq] at hr
      rw [decide_eq_false_iff_not, hr.1, hr.2]
      exact fun h => hsame ⟨h.1.symm, h.2.symm⟩
    · intro r hr
      simp only [decide_eq_true_eq] at hr
      rw [decide_eq_false_iff_not]
      show ¬ (r.workspaceId = w ∧ r.id = k)
      rw [hr.1, hr.2]
      exact fun h => hsame ⟨h.1.symm, h.2.symm⟩

theorem challenges_update {P : List ChallengeRow → Prop} (hrows : P rows)
    (hclose : ∀ rows channel, P rows → P (supersede ws contact channel rows))
    (h₀ : db.challenges = rows) (h : updateContactWithVerification env ws contact u db = some db') :
    P db'.challenges := by
  have hstep : ∀ {channel previous next db₁ db₂}, P db₁.challenges →
      invalidateChangedDestination env ws contact channel previous next db₁ = some db₂ →
      P db₂.challenges := by
    intro channel previous next db₁ db₂ hP hinv
    rcases (invalidate_spec hinv).2.2.2.2.1 with hsame | hsup
    · rw [hsame]
      exact hP
    · rw [hsup]
      exact hclose _ _ hP
  unfold updateContactWithVerification at h
  simp only [Option.bind_eq_bind, Option.bind_eq_some_iff] at h
  obtain ⟨previous, _, db₂, hemail, hphone⟩ := h
  have h₂ : P db₂.challenges := hstep (by rw [h₀]; exact hrows) hemail
  cases hu : u.phoneE164 with
  | none =>
    simp only [hu, Option.some.injEq] at hphone
    exact hphone ▸ h₂
  | some phone =>
    simp only [hu] at hphone
    exact hstep h₂ hphone

theorem update_spec (hbefore : db.contact ws contact = some before)
    (h : updateContactWithVerification env ws contact u db = some db') :
    (∀ w k, db'.contact w k =
      if w = ws ∧ k = contact then some (u.apply env before) else db.contact w k) ∧
    db'.suppressions = db.suppressions ∧ db'.nextId = db.nextId ∧
    ∀ v ∈ db'.verifications, v.status = .verified → v ∈ db.verifications ∧
      (v.workspaceId = ws → v.contactId = contact →
        normalizeDestination env v.channel (before.raw v.channel) = some v.destination →
        normalizeDestination env v.channel ((u.apply env before).raw v.channel) =
          some v.destination) := by
  unfold updateContactWithVerification at h
  simp only [Option.bind_eq_bind, Option.bind_eq_some_iff, hbefore, Option.some.injEq,
    exists_eq_left'] at h
  obtain ⟨db₂, hemail, hphone⟩ := h
  obtain ⟨hcontacts, hsups, hnext, _, _, hrows⟩ := invalidate_spec hemail
  -- the email, whether or not the request has one
  have hmail : normalizeEmail env ((u.apply env before).raw .email) =
      normalizeEmail env ((u.email.map fun e => env.toLowerCase (jsTrim e)).getD
        (before.email.getD "")) := by
    cases hu : u.email with
    | none => simp [ContactUpdate.apply, ContactRow.raw, hu]
    | some e =>
      simp only [ContactUpdate.apply, ContactRow.raw, hu, Option.map_some, Option.some_or,
        Option.getD_some]
      exact normalizeEmail_storedEmail env e
  have hkept : ∀ v ∈ db₂.verifications, v.status = .verified → v.workspaceId = ws →
      v.contactId = contact → v.channel = .email →
      normalizeDestination env v.channel (before.raw v.channel) = some v.destination →
      normalizeDestination env v.channel ((u.apply env before).raw v.channel) =
        some v.destination := by
    intro v hv hverified hws hcontact hchannel hdest
    have hkey : v.hasKey ws contact .email = true := hasKey_iff.mpr ⟨hws, hcontact, hchannel⟩
    rw [hchannel] at hdest ⊢
    show normalizeEmail env ((u.apply env before).raw .email) = some v.destination
    rw [hmail]
    rcases (hrows v hv hverified).2 hkey with hsame | ⟨_, hsame⟩
    · exact hsame.symm
    · exact hsame.symm.trans hdest
  cases hu : u.phoneE164 with
  | none =>
    simp only [hu, Option.some.injEq] at hphone
    subst hphone
    refine ⟨contact_update hbefore _ hcontacts, hsups, hnext, ?_⟩
    intro v hv hverified
    refine ⟨(hrows v hv hverified).1, fun hws hcontact hdest => ?_⟩
    cases hchannel : v.channel with
    | email =>
      rw [← hchannel]
      exact hkept v hv hverified hws hcontact hchannel hdest
    | whatsapp =>
      rw [hchannel] at hdest
      rw [← hdest]
      simp [ContactUpdate.apply, ContactRow.raw, hu]
  | some phone =>
    simp only [hu] at hphone
    obtain ⟨hcontacts', hsups', hnext', _, _, hrows'⟩ := invalidate_spec hphone
    refine ⟨contact_update hbefore _ (hcontacts'.trans hcontacts), hsups'.trans hsups,
      hnext'.trans hnext, ?_⟩
    intro v hv hverified
    obtain ⟨hv₂, hwhats⟩ := hrows' v hv hverified
    refine ⟨(hrows v hv₂ hverified).1, fun hws hcontact hdest => ?_⟩
    cases hchannel : v.channel with
    | email =>
      rw [← hchannel]
      exact hkept v hv₂ hverified hws hcontact hchannel hdest
    | whatsapp =>
      have hkey : v.hasKey ws contact .whatsapp = true :=
        hasKey_iff.mpr ⟨hws, hcontact, hchannel⟩
      have hafter : (u.apply env before).raw .whatsapp = phone.getD "" := by
        simp [ContactUpdate.apply, ContactRow.raw, hu]
      rw [hchannel] at hdest
      rw [hafter]
      rcases hwhats hkey with hsame | ⟨_, hsame⟩
      · exact hsame.symm
      · exact hsame.symm.trans hdest

theorem mem_departures {after : ContactRow} {e : Event} (h : e ∈ departures env before after) :
    ∃ channel d, e = .departed before.workspaceId before.id channel d ∧
      normalizeDestination env channel (before.raw channel) = some d ∧
      normalizeDestination env channel (after.raw channel) ≠ some d := by
  unfold departures at h
  obtain ⟨channel, _, hchannel⟩ := List.mem_filterMap.mp h
  rw [Option.bind_eq_some_iff] at hchannel
  obtain ⟨d, hd, hif⟩ := hchannel
  split at hif
  · simp at hif
  · rename_i hne
    exact ⟨channel, d, (Option.some.inj hif).symm, hd, hne⟩

theorem VerifiedOk.update (hs : VerifiedOk env db log) (hbefore : db.contact ws contact = some before)
    (h : updateContactWithVerification env ws contact u db = some db') :
    VerifiedOk env db' (departures env before (u.apply env before) ++ log) := by
  obtain ⟨hcontact, _, _, hrows⟩ := update_spec hbefore h
  have hid : before.workspaceId = ws ∧ before.id = contact := by
    have hp := (selectOne_some hbefore).2
    simpa using hp
  intro v hv hverified
  obtain ⟨hold, hdest⟩ := hrows v hv hverified
  obtain ⟨⟨c, hc, hcur⟩, hstand⟩ := hs v hold hverified
  by_cases hmine : v.workspaceId = ws ∧ v.contactId = contact
  · have hbeforeDest : normalizeDestination env v.channel (before.raw v.channel) =
        some v.destination := by
      rw [hmine.1, hmine.2, hbefore, Option.some.injEq] at hc
      exact hc ▸ hcur
    have hafter := hdest hmine.1 hmine.2 hbeforeDest
    refine ⟨⟨u.apply env before, by rw [hcontact, if_pos hmine], hafter⟩, hstand.append ?_⟩
    intro e he hends
    obtain ⟨channel, d, rfl, hd, hne⟩ := mem_departures he
    simp only [Event.ends, reduceCtorEq, Event.departed.injEq, false_or] at hends
    obtain ⟨_, _, rfl, rfl⟩ := hends
    exact hne hafter
  · refine ⟨⟨c, by rw [hcontact, if_neg hmine]; exact hc, hcur⟩, hstand.append ?_⟩
    intro e he hends
    obtain ⟨channel, d, rfl, _, _⟩ := mem_departures he
    simp only [Event.ends, reduceCtorEq, Event.departed.injEq, false_or] at hends
    exact hmine ⟨hends.1.symm.trans hid.1, hends.2.1.symm.trans hid.2⟩

end TokenTimer.Recipients
