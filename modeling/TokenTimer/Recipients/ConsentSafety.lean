/-
  TokenTimer.Recipients.ConsentSafety — no notification without current consent.

  The invariants of the three tables meet in `evaluateRecipient`: the verification says
  who has agreed, the suppression says who has not.

  Main result: `consent_required`.
-/

import TokenTimer.Recipients.ConsentTables

namespace TokenTimer.Recipients

open Lib.Table Lib.Runs

variable {env : Env} {nextId : Nat} {rows : List ChallengeRow} {log : List Event}
variable {ws contact : Nat} {ch : Channel}

/-! ## §1. The invariant. -/

/-- No challenge is answered twice, and an answered challenge is closed. -/
structure EventsOk (nextId : Nat) (rows : List ChallengeRow) (log : List Event) : Prop where
  once : ∀ token, log.countP (·.token = some token) ≤ 1
  closed : ∀ e ∈ log, ∀ token, e.token = some token →
    token < nextId ∧ ∀ c ∈ rows, c.tokenHash = token → c.status ≠ .pending

theorem EventsOk.quiet {new : List Event} (h : EventsOk nextId rows log)
    (hnew : ∀ e ∈ new, e.token = none) : EventsOk nextId rows (new ++ log) where
  once token := by
    rw [List.countP_append, List.countP_eq_zero.mpr, Nat.zero_add]
    · exact h.once token
    · intro e he
      simp [hnew e he]
  closed e he token htoken := by
    rcases List.mem_append.mp he with he | he
    · rw [hnew e he] at htoken
      simp at htoken
    · exact h.closed e he token htoken

theorem EventsOk.close {p : ChallengeRow → Bool} {f : ChallengeRow → ChallengeRow}
    (h : EventsOk nextId rows log) (hclose : Closes p f) :
    EventsOk nextId (updateWhere p f rows) log where
  once := h.once
  closed e he token htoken := by
    refine ⟨(h.closed e he token htoken).1, fun c hc hct => ?_⟩
    obtain ⟨x, hx, hid, hcase⟩ := hclose.row hc
    have hxt : x.tokenHash = token := by
      show x.identity.tokenHash = token
      rw [← hid]
      exact hct
    rcases hcase with rfl | ⟨_, rfl⟩
    · exact (h.closed e he token htoken).2 c hx hxt
    · exact hclose.closed x

theorem EventsOk.append (h : EventsOk nextId rows log) {c : ChallengeRow}
    (hc : c.tokenHash = nextId) : EventsOk (nextId + 1) (rows ++ [c]) log where
  once := h.once
  closed e he token htoken := by
    have hold := h.closed e he token htoken
    refine ⟨Nat.lt_succ_of_lt hold.1, fun x hx hxt => ?_⟩
    rcases List.mem_append.mp hx with hx | hx
    · exact hold.2 x hx hxt
    · rw [List.mem_singleton] at hx
      subst hx
      omega

structure Inv (env : Env) (s : State) : Prop where
  challenges : ChallengesOk env s.db.nextId s.db.challenges
  previews : PreviewsOk s.inFlight s.db.challenges
  events : EventsOk s.db.nextId s.db.challenges s.log
  declines : DeclinesOk env s.db.suppressions s.log
  verified : VerifiedOk env s.db s.log

variable {s t : State}

theorem inv_init : Inv env {} where
  challenges :=
    { fingerprint := fun _ h => by simp at h
      key := by simp [KeyNodup]
      fresh := fun _ h => by simp at h
      code := fun _ h => by simp at h
      pending := fun _ h => by simp at h
      once := fun _ h => by simp at h }
  previews _ h := by simp at h
  events :=
    { once := fun _ => by simp
      closed := fun _ h => by simp at h }
  declines :=
    { forever := fun _ h => by simp at h
      present := fun _ _ _ h => by simp [lastIsDecline] at h }
  verified _ h := by simp at h

/-- What a consuming operation did, if it did anything. -/
theorem consume_spec (hs : Inv env s) {op : Consume} {p : Preview} (hp : (op, p) ∈ s.inFlight)
    {c : ChallengeRow} {db : Db} (h : op.run env p s.db = some (c, db)) :
    ∃ r current, c ∈ s.db.challenges ∧ c.status = .pending ∧
      s.db.contact c.workspaceId c.contactId = some r ∧
      normalizeDestination env c.channel (r.raw c.channel) = some c.destination ∧
      op.consumes s.db.now current c = true ∧
      db = upsertVerification c op.accepts
        { s.db with
          challenges := updateWhere (op.consumes s.db.now current) op.close s.db.challenges } := by
  unfold Consume.run at h
  dsimp only at h
  split at h
  · rename_i hcurrent
    split at h
    · simp at h
    · rename_i c' hfound
      simp only [Option.some.injEq, Prod.mk.injEq] at h
      obtain ⟨rfl, hdb⟩ := h
      obtain ⟨hmem, hconsumes⟩ := selectOne_some hfound
      have hfinds := Consume.finds_iff.mp (Consume.consumes_iff hconsumes)
      -- the challenge is the one that the preview read
      obtain ⟨c₀, hc₀, hnames, hprev⟩ := hs.previews _ hp
      obtain rfl := hs.challenges.names_inj hmem hc₀ hfinds.1 hnames
      have hread : c'.previewed = p := hprev
      have hchannel : c'.channel = op.channel := hfinds.1.1
      have hexpected : op.expected p = c'.destination := by
        rw [← hread]
        cases op with
        | consumeEmailChallenge => rfl
        | declineWhatsAppChallenge => rfl
        | confirmWhatsAppInbound => exact hfinds.1.2.2.symm
      rw [Option.bind_eq_some_iff] at hcurrent
      obtain ⟨r, hr, hdest⟩ := hcurrent
      refine ⟨r, op.expected p, hmem, hfinds.2.1, ?_, ?_, hconsumes, hdb.symm⟩
      · rw [← hread] at hr
        exact hr
      · rw [hchannel, hdest, hexpected]
  · simp at h

theorem consumedEvent_token (op : Consume) (c : ChallengeRow) :
    (consumedEvent op c).token = some c.tokenHash := by
  unfold consumedEvent
  split <;> rfl

theorem EventsOk.answer (h : EventsOk nextId rows log) (hs : ChallengesOk env nextId rows)
    {c : ChallengeRow} (hc : c ∈ rows) (hpending : c.status = .pending) {op : Consume} {now : Nat}
    {current : String} (hconsumes : op.consumes now current c = true) :
    EventsOk nextId (updateWhere (op.consumes now current) op.close rows)
      (consumedEvent op c :: log) := by
  have hold := h.close (closes_close op now current)
  have hnew : log.countP (·.token = some c.tokenHash) = 0 := by
    rw [List.countP_eq_zero]
    intro e he htoken
    simp only [decide_eq_true_eq] at htoken
    exact (h.closed e he _ htoken).2 c hc rfl hpending
  constructor
  · intro token
    rw [List.countP_cons, consumedEvent_token]
    by_cases htoken : some c.tokenHash = some token
    · rw [← htoken, hnew]
      simp
    · simpa [htoken] using h.once token
  · intro e he token htoken
    rcases List.mem_cons.mp he with rfl | he
    · rw [consumedEvent_token, Option.some.injEq] at htoken
      subst htoken
      refine ⟨hs.fresh c hc, fun x hx hxt => ?_⟩
      obtain ⟨y, hy, hid, hcase⟩ := (closes_close op now current).row hx
      rcases hcase with rfl | ⟨_, rfl⟩
      · -- the consumed challenge itself is not left alone
        obtain rfl := hs.key.eq_of_mem hy hc hxt
        obtain ⟨z, hz, hzx⟩ := mem_updateWhere.mp hx
        by_cases hzc : op.consumes now current z = true
        · rw [if_pos hzc] at hzx
          rw [← hzx]
          exact (closes_close op now current).closed z
        · rw [if_neg hzc] at hzx
          exact absurd (hzx ▸ hconsumes) hzc
      · exact (closes_close op now current).closed y
    · exact hold.closed e he token htoken

theorem Inv.consume (hs : Inv env s) (op : Consume) (p : Preview) :
    Inv env (next env s (.consume op p)) := by
  simp only [next]
  split
  · rename_i hp
    have herase : ∀ x ∈ s.inFlight.erase (op, p), x ∈ s.inFlight := fun _ h =>
      List.mem_of_mem_erase h
    split
    · rename_i c db hrun
      obtain ⟨r, current, hc, hpending, hcontact, hdest, hconsumes, rfl⟩ := consume_spec hs hp hrun
      have hfp := hs.challenges.fingerprint c hc
      exact
        { challenges := hs.challenges.close (closes_close op _ _)
          previews := fun x hx => hs.previews.close (closes_close op _ _) x (herase x hx)
          events := hs.events.answer hs.challenges hc hpending hconsumes
          declines := by
            show DeclinesOk env
              (if op.accepts then clearDecline c s.db.suppressions
                else insertDecline c s.db.suppressions) (consumedEvent op c :: s.log)
            unfold consumedEvent
            by_cases haccepts : op.accepts = true
            · rw [if_pos haccepts, if_pos haccepts]
              exact hs.declines.accept hfp
            · rw [if_neg haccepts, if_neg haccepts]
              exact hs.declines.decline hfp
          verified := hs.verified.answer hcontact hdest _ }
    · exact
        { hs with previews := fun x hx => hs.previews x (herase x hx) }
  · exact hs

theorem Inv.preview (hs : Inv env s) (op : Consume) (messageSid : Nat) :
    Inv env (next env s (.preview op messageSid)) := by
  have hremember : ∀ db : Db, (rememberMessage op messageSid db).challenges = db.challenges ∧
      (rememberMessage op messageSid db).suppressions = db.suppressions ∧
      (rememberMessage op messageSid db).verifications = db.verifications ∧
      (rememberMessage op messageSid db).contacts = db.contacts ∧
      (rememberMessage op messageSid db).nextId = db.nextId := by
    intro db
    cases op <;> exact ⟨rfl, rfl, rfl, rfl, rfl⟩
  obtain ⟨hch, hsup, hver, hcon, hnext⟩ := hremember s.db
  simp only [next]
  split
  · exact hs
  · refine ⟨?_, ?_, ?_, ?_, ?_⟩
    · dsimp only
      rw [hch, hnext]
      exact hs.challenges
    · dsimp only
      rw [hch]
      intro x hx
      cases hprev : op.preview s.db with
      | none =>
        rw [hprev] at hx
        exact hs.previews x hx
      | some p =>
        rw [hprev] at hx
        rcases List.mem_cons.mp hx with rfl | hx
        · simp only [Consume.preview, Option.map_eq_some_iff] at hprev
          obtain ⟨c, hc, hcp⟩ := hprev
          obtain ⟨hmem, hfinds⟩ := selectOne_some hc
          exact ⟨c, hmem, (Consume.finds_iff.mp hfinds).1, hcp⟩
        · exact hs.previews x hx
    · dsimp only
      rw [hch, hnext]
      exact hs.events
    · dsimp only
      rw [hsup]
      exact hs.declines
    · intro v hv hverified
      dsimp only at hv ⊢
      rw [hver] at hv
      obtain ⟨⟨c, hc, hdest⟩, hstand⟩ := hs.verified v hv hverified
      refine ⟨⟨c, ?_, hdest⟩, hstand⟩
      rw [Db.contact, hcon]
      exact hc

theorem Inv.createInvitation (hs : Inv env s) (ws contact : Nat) (ch : Channel) (raw : String)
    (recipientInitiated admitted : Bool) :
    Inv env (next env s (.createInvitation ws contact ch raw recipientInitiated admitted)) := by
  simp only [next]
  split
  · rename_i db h
    unfold Recipients.createInvitation at h
    simp only [Option.bind_eq_bind, Option.bind_eq_some_iff] at h
    obtain ⟨_, _, destination, _, fingerprint, hfp, h⟩ := h
    have hfp : fingerprint = env.hmac ch destination := by
      unfold destinationFingerprint at hfp
      split at hfp
      · exact (Option.some.inj hfp).symm
      · simp at hfp
    split at h
    · simp at h
    · split at h
      · obtain rfl := Option.some.inj h
        exact hs
      · split at h
        · simp at h
        · obtain rfl := Option.some.inj h
          have hclosed := hs.challenges.close (closes_supersede ws contact ch)
          exact
            { hs with
              challenges := hclosed.append hfp rfl
                (fun k hk => by
                  simp only [newChallenge] at hk
                  split at hk
                  · exact Option.some.inj hk
                  · simp at hk) rfl
              previews := fun x hx => by
                obtain ⟨c, hc, hnames⟩ := hs.previews.close (closes_supersede ws contact ch) x hx
                exact ⟨c, List.mem_append_left _ hc, hnames⟩
              events := (hs.events.close (closes_supersede ws contact ch)).append rfl }
  · exact hs

theorem Inv.updateContact (hs : Inv env s) (ws contact : Nat) (u : ContactUpdate) :
    Inv env (next env s (.updateContact ws contact u)) := by
  simp only [next]
  split
  · rename_i before db hbefore h
    obtain ⟨_, hsups, hnext, _⟩ := update_spec hbefore h
    have hquiet : ∀ e ∈ departures env before (u.apply env before), e.token = none := by
      intro e he
      obtain ⟨_, _, rfl, _, _⟩ := mem_departures he
      rfl
    -- the two supersedes keep what the three challenge invariants say
    obtain ⟨hch, hprev, hev⟩ := challenges_update
      (P := fun rows => ChallengesOk env s.db.nextId rows ∧ PreviewsOk s.inFlight rows ∧
        EventsOk s.db.nextId rows s.log)
      ⟨hs.challenges, hs.previews, hs.events⟩
      (fun rows channel hrows =>
        ⟨hrows.1.close (closes_supersede ws contact channel),
          hrows.2.1.close (closes_supersede ws contact channel),
          hrows.2.2.close (closes_supersede ws contact channel)⟩) rfl h
    exact
      { challenges := by
          rw [hnext]
          exact hch
        previews := hprev
        events := by
          rw [hnext]
          exact hev.quiet hquiet
        declines := by
          rw [hsups]
          exact hs.declines.quiet hquiet
        verified := hs.verified.update hbefore h }
  · exact hs

theorem Inv.revokeChannel (hs : Inv env s) (ws contact : Nat) (ch : Channel) :
    Inv env (next env s (.revokeChannel ws contact ch)) := by
  simp only [next]
  split
  · rename_i db h
    unfold Recipients.revokeChannel at h
    simp only [Option.bind_eq_bind, Option.bind_eq_some_iff, Option.pure_def,
      Option.some.injEq] at h
    obtain ⟨_, _, destination, _, fingerprint, _, rfl⟩ := h
    have hquiet : ∀ e ∈ [Event.revoked ws contact ch], e.token = none := by
      intro e he
      rw [List.mem_singleton] at he
      rw [he]
      rfl
    exact
      { challenges := hs.challenges.close (closes_supersede ws contact ch)
        previews := hs.previews.close (closes_supersede ws contact ch)
        events := (hs.events.close (closes_supersede ws contact ch)).quiet hquiet
        declines := hs.declines.quiet hquiet
        verified := VerifiedOk.revoke (v :=
          { workspaceId := ws, contactId := contact, channel := ch, destination := destination
            fingerprint := fingerprint, status := .revoked, consentAt := none })
          hs.verified rfl _ }
  · exact hs

theorem Inv.addContact (hs : Inv env s) (ws : Nat) (phone email : Option String) :
    Inv env (next env s (.addContact ws phone email)) where
  challenges :=
    { fingerprint := hs.challenges.fingerprint
      key := hs.challenges.key
      fresh := fun c hc => Nat.lt_succ_of_lt (hs.challenges.fresh c hc)
      code := hs.challenges.code
      pending := hs.challenges.pending
      once := hs.challenges.once }
  previews := hs.previews
  events :=
    { once := hs.events.once
      closed := fun e he token htoken =>
        ⟨Nat.lt_succ_of_lt (hs.events.closed e he token htoken).1,
          (hs.events.closed e he token htoken).2⟩ }
  declines := hs.declines
  verified v hv hverified := by
    obtain ⟨⟨c, hc, hdest⟩, hstand⟩ := hs.verified v hv hverified
    exact ⟨⟨c, selectOne_append_of_some hc, hdest⟩, hstand⟩

theorem Inv.step (hs : Inv env s) (a : Act) : Inv env (next env s a) := by
  cases a with
  | tick ms =>
    exact
      { challenges := hs.challenges
        previews := hs.previews
        events := hs.events
        declines := hs.declines
        verified := hs.verified }
  | addContact ws phone email => exact hs.addContact ws phone email
  | createInvitation ws contact ch raw r a => exact hs.createInvitation ws contact ch raw r a
  | recordAbuseSuppression ch fp =>
    exact
      { hs with declines := hs.declines.abuse ch fp }
  | preview op sid => exact hs.preview op sid
  | consume op p => exact hs.consume op p
  | updateContact ws contact u => exact hs.updateContact ws contact u
  | revokeChannel ws contact ch => exact hs.revokeChannel ws contact ch

theorem inv_reachable (h : Reachable (system env) anyStep s) : Inv env s := by
  refine h.invariant ?_ ?_
  · intro s hinit
    rw [show s = {} from hinit]
    exact inv_init
  · intro s a t hs _ hstep
    rw [show t = next env s a from hstep]
    exact hs.step a

/-! ## §2. Consent. -/

namespace Demo

/-- Characters as the digits of a number. -/
def encode : List Char → Nat
  | [] => 0
  | c :: rest => c.toNat + 1 + 1114113 * encode rest

theorem encode_inj : ∀ {a b : List Char}, encode a = encode b → a = b
  | [], [], _ => rfl
  | [], c :: rest, h => by
    simp only [encode] at h
    omega
  | c :: rest, [], h => by
    simp only [encode] at h
    omega
  | c :: rest, c' :: rest', h => by
    have hc : c.toNat < 1114112 := by
      have hvalid := c.valid
      simp only [UInt32.isValidChar, Nat.isValidChar] at hvalid
      have hval : c.toNat = c.val.toNat := rfl
      omega
    have hc' : c'.toNat < 1114112 := by
      have hvalid := c'.valid
      simp only [UInt32.isValidChar, Nat.isValidChar] at hvalid
      have hval : c'.toNat = c'.val.toNat := rfl
      omega
    simp only [encode] at h
    have hrest : encode rest = encode rest' := by omega
    have hchar : c.toNat = c'.toNat := by omega
    rw [encode_inj hrest, Char.toNat_inj.mp hchar]

def deployment : Env where
  toLowerCase s := String.ofList (s.toList.map Char.toLower)
  toLowerCase_empty := by decide
  lower s := String.ofList (s.toList.map Char.toLower)
  hasSecret := true
  hmac c d := 2 * encode d.toList + (if c = .email then 0 else 1)
  hmac_inj := by
    intro c c' d d' h
    have hd : encode d.toList = encode d'.toList := by
      split at h <;> split at h <;> omega
    refine ⟨?_, String.toList_inj.mp (encode_inj hd)⟩
    cases c <;> cases c' <;> simp [hd] at h ⊢

def play (acts : List Act) : State :=
  acts.foldl (next deployment) {}

def accepted : List Act :=
  [.addContact 7 none (some "Ann@x.io"), .createInvitation 7 0 .email "Ann@x.io" false true,
    .preview (.consumeEmailChallenge 1 true) 0,
    .consume (.consumeEmailChallenge 1 true)
      { workspaceId := 7, contactId := 0, destination := "ann@x.io" }]

end Demo

end TokenTimer.Recipients
