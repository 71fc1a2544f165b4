import RealityConsole.MemberSessions.Records

/-!
# Session safety

In every run, one access token of a session is accepted at most, that of the
current generation; what ends a session ends it for good; and a repeated request
is answered with the same credentials and changes nothing.
-/

namespace RealityConsole.MemberSessions

open Framework Protocol Controller Controller.SessionStore

/-! ### Generations of tokens -/

variable {id : SessionId}

theorem deriveInitialCredentials_ok {network : NetworkId} {did : DeviceId} {opening : Opening}
    {issuedAt access refresh : Nat} {creds : SessionCredentials}
    (h : deriveInitialCredentials network id did opening issuedAt access refresh = .ok creds) :
    creds.accessToken.generation = some 0 ∧ creds.refreshCredential.generation = some 0 ∧
      refresh ≤ 253402300799 := by
  obtain ⟨_, h⟩ := rest_ok h
  obtain ⟨_, hshown, h⟩ := bind_ok.1 h
  cases h
  have hcalendar : refresh ≤ 253402300799 := by
    unfold timestamp at hshown
    split at hshown
    · assumption
    · cases hshown
  cases opening with
  | login request => exact ⟨rfl, rfl, hcalendar⟩
  | activation id request => exact ⟨rfl, rfl, hcalendar⟩

variable {key : IdempotencyKey}

theorem deriveRefreshCredentials_ok {network : NetworkId} {did : DeviceId} {src : Nat}
    {req : RefreshSessionRequest} {issuedAt access refresh : Nat} {creds : SessionCredentials}
    (h : deriveRefreshCredentials network id did src key req issuedAt access refresh = .ok creds) :
    creds.sessionId = id ∧ creds.accessToken.generation = some (src + 1) ∧
    creds.refreshCredential.generation = some (src + 1) := by
  obtain ⟨_, h⟩ := rest_ok h
  obtain ⟨_, h⟩ := rest_ok h
  cases h
  exact ⟨rfl, rfl, rfl⟩

structure Tokens (session : Session) : Prop where
  access : session.currentAccessVerifier.raw.generation = some session.generation
  current : session.currentRefreshVerifier.raw.generation = some session.generation
  previous : ∀ verifier, session.previousRefreshVerifier = some verifier →
    ∃ g, verifier.raw.generation = some g ∧ g + 1 = session.generation

/-- A presented credential belongs to the generation that a refresh finds for it. -/
theorem Tokens.generation_of_source {sess : Session} (h : Tokens sess) {raw : Bearer}
    {domain : SecretDomain} {source : Nat}
    (hsource : sourceGeneration sess ⟨domain, raw⟩ = some source) :
    raw.generation = some source := by
  rcases sourceGeneration_eq hsource with ⟨hcur, rfl⟩ | ⟨hprev, hgen⟩
  · have hraw := h.current
    rwa [hcur] at hraw
  obtain ⟨g, hraw, hg⟩ := h.previous _ hprev
  rw [hraw]
  exact congrArg some (by omega)

/-! ### The invariant -/

structure Inv (w : World) : Prop where
  tokens : ∀ id session, w.store.sessions.find id = some session → Tokens session
  /-- The foreign keys of a session. -/
  joined : ∀ id session, w.store.sessions.find id = some session →
    (∃ user, w.store.users.find session.userId = some user) ∧
      ∃ device, w.store.devices.find session.deviceId = some device ∧
        device.userId = session.userId
  /-- An open session is one of an active account and device. -/
  standing : ∀ id session, w.store.sessions.find id = some session → session.revokedAt = none →
    Standing w.store session
  calendar : ∀ id session, w.store.sessions.find id = some session →
    session.expiresAt ≤ 253402300799
  /-- A recorded refresh lies before the current generation, and it was answered. -/
  records : ∀ id source key record,
    w.store.refreshes.find (id, source, key) = some record →
    (∃ session, w.store.sessions.find id = some session ∧ source < session.generation) ∧
      ∃ response, .refresh record.request key response ∈ w.answered
  answered : ∀ e ∈ w.answered, Recorded w.store e
  authenticated : ∀ member ∈ w.authenticated, ∃ session,
    w.store.sessions.find member.sessionId = some session ∧ session.deviceId = member.deviceId

theorem Inv.blocked {w : World} (hinv : Inv w) (id : SessionId) (session : Session) (user : User)
    (hfind : w.store.sessions.find id = some session)
    (huser : w.store.users.find session.userId = some user) (hstatus : user.status ≠ .active) :
    session.revokedAt ≠ none := by
  intro hopen
  obtain ⟨other, hother, hactive, -⟩ := (hinv.standing id session hfind hopen).user
  obtain rfl := Option.mem_unique hother huser
  exact hstatus hactive

/-- A rotation records a refresh of a generation that no record is about. -/
theorem Inv.refresh_new {w : World} (hinv : Inv w) {sess : Session}
    (hfind : w.store.sessions.find id = some sess) (key : IdempotencyKey) :
    w.store.refreshes.find (id, sess.generation, key) = none := by
  rcases hrec : w.store.refreshes.find (id, sess.generation, key) with _ | record
  · rfl
  obtain ⟨⟨found, hfound, hlt⟩, _⟩ := hinv.records id _ key record hrec
  obtain rfl := Option.mem_unique hfound hfind
  exact absurd hlt (lt_irrefl _)

/-! ### Steps -/

/-- What a step of the service does to the tables and to what was answered. -/
inductive Effect (w w' : World) : Prop
  | revokes (p : SessionId → Session → Bool) (h : Revokes w.store w'.store p)
      (hanswered : w'.answered = w.answered)
      (hmembers : ∀ member ∈ w'.authenticated, member ∈ w.authenticated ∨
        ∃ session, w.store.sessions.find member.sessionId = some session ∧
          session.deviceId = member.deviceId)
  /-- A recorded answer is given again. -/
  | replays (e : Exchange) (he : Recorded w.store e)
      (h : w' = { w with answered := e :: w.answered })
  | opens (opening : Opening) (key : IdempotencyKey) (sessionId : SessionId)
      (response : CreateDeviceSessionResponse) (e : Exchange)
      (h : Opens w.store w'.store opening key sessionId response)
      (he : Recorded w'.store e) (hanswered : w'.answered = e :: w.answered)
      (hmembers : w'.authenticated = w.authenticated)
  | rotates (id : SessionId) (key : IdempotencyKey) (request : RefreshSessionRequest)
      (response : RefreshSessionResponse)
      (h : Rotates w.store w'.store id key request response)
      (hvalid : request.validate = .ok ())
      (hparse : request.refreshCredential.parsePrefixedId "rcr1" = some id)
      (hanswered : w'.answered = .refresh request key response :: w.answered)
      (hmembers : w'.authenticated = w.authenticated)

theorem effect_of_run {w : World} {α : Type} {call : Fallible SessionStore SessionError α}
    (h : ∀ t r, call w.store = (t, r) → ∃ p, Revokes w.store t p) : Effect w (w.run call) := by
  obtain ⟨p, hp⟩ := h _ _ rfl
  exact .revokes p hp rfl fun member hmem => .inl hmem

theorem effect_of_failed {w : World} : Effect w w :=
  .revokes _ (quiet_refl w.store) rfl fun _ hmem => .inl hmem

theorem effect_createMemberSession (w : World) (origin : String) (req : CreateSessionRequest)
    (key : IdempotencyKey) (did : DeviceId) (sid : SessionId) (now : Nat) :
    Effect w (w.answer (createMemberSession origin req key did sid now) (.login req key)) := by
  unfold World.answer
  rcases hcall : createMemberSession origin req key did sid now w.store with ⟨t, r⟩
  rcases Fallible.transaction_eq hcall with ⟨rfl, e, rfl⟩ | h
  · exact effect_of_failed
  obtain ⟨_, hval, h⟩ := bind_ok.1 h
  obtain ⟨uid, hparse, h⟩ := bind_ok.1 h
  rw [mapError_ok] at hval
  rw [required_ok] at hparse
  split at h
  · rename_i record hrec
    obtain ⟨_, hreq, h⟩ := bind_ok.1 h
    obtain ⟨resp, hreplay, h⟩ := bind_ok.1 h
    cases h
    rw [refuse_ok, not_not] at hreq
    exact .replays (.login req key resp) ⟨hval, ⟨uid, hparse⟩, record, hrec, hreq, hreplay⟩ rfl
  · rename_i hrec
    obtain ⟨resp, rfl, hopens⟩ := openMemberSession_ok hrec h
    exact .opens (.login req) key sid resp _ hopens (hopens.recorded_login hval hparse) rfl rfl

theorem effect_consumeDeviceActivation (w : World) (origin : String)
    (req : ConsumeDeviceActivationRequest) (did : DeviceId) (sid : SessionId)
    (now : Nat) : Effect w (w.answer (consumeDeviceActivation origin req did sid now)
      (.activation origin req)) := by
  unfold World.answer
  rcases hcall : consumeDeviceActivation origin req did sid now w.store with ⟨t, r⟩
  rcases Fallible.transaction_eq hcall with ⟨rfl, e, rfl⟩ | h
  · exact effect_of_failed
  obtain ⟨_, hval, h⟩ := bind_ok.1 h
  obtain ⟨id, hparse, h⟩ := bind_ok.1 h
  obtain ⟨activation, hfound, h⟩ := bind_ok.1 h
  obtain ⟨_, hverify, h⟩ := bind_ok.1 h
  obtain ⟨_, h⟩ := rest_ok h
  obtain ⟨expiresAt, hexp, h⟩ := bind_ok.1 h
  obtain ⟨_, hproof, h⟩ := bind_ok.1 h
  rw [mapError_ok] at hval
  rw [required_ok] at hparse hfound
  rw [refuse_ok, not_not] at hverify hproof
  have hsame : expiresAt = activation.expiresAt := by
    unfold timestamp at hexp
    split at hexp
    · exact (Except.ok.inj hexp).symm
    · cases hexp
  rw [hsame] at hexp hproof
  have hpres : Presents w.store origin req id activation :=
    ⟨hval, hparse, hfound, hverify, hexp, hproof⟩
  split at h
  · rename_i spent hspent
    obtain ⟨_, hreq, h⟩ := bind_ok.1 h
    obtain ⟨resp, hreplay, h⟩ := bind_ok.1 h
    cases h
    rw [refuse_ok, not_not] at hreq
    exact .replays (.activation origin req resp)
      ⟨id, activation, spent, hpres, hspent, hreq, hreplay⟩ rfl
  · rename_i hnew
    obtain ⟨resp, rfl, hopens⟩ := useActivation_ok "" hfound hnew h
    exact .opens (.activation id req) "" sid resp _ hopens
      (hopens.recorded_activation hpres) rfl rfl

theorem effect_refreshMemberSession {w : World} (hinv : Inv w) (req : RefreshSessionRequest)
    (key : IdempotencyKey) (now : Nat) :
    Effect w (w.answer (refreshMemberSession req key now) (.refresh req key)) := by
  unfold World.answer
  rcases hcall : refreshMemberSession req key now w.store with ⟨t, r⟩
  rcases refreshMemberSession_eq hcall with ⟨rfl, e, rfl⟩ |
    ⟨id, sess, user, dev, src, hval, hparse, hload, hsource, houtcome⟩
  · exact effect_of_failed
  have hfind := (loadSession_eq hload).1
  cases houtcome with
  | replayed record hrec h =>
    obtain ⟨rfl, hreq, creds, rfl, hder⟩ := replayRefresh_ok h
    obtain ⟨⟨found, hfound, hlt⟩, _⟩ := hinv.records id src key record hrec
    obtain rfl := Option.mem_unique hfound hfind
    refine .replays (.refresh req key ⟨record.account, creds⟩) ⟨hval, id, found, src, record,
      hparse, (hinv.tokens id found hfind).generation_of_source hsource, hfind, hlt, fun _ => ?_,
      hrec, hreq, rfl, hder⟩ rfl
    rcases sourceGeneration_eq hsource with ⟨_, hsame⟩ | ⟨hprev, _⟩
    · exact absurd hlt (by omega)
    · exact hprev
  | reused now hrec hprev ht hr =>
    subst ht hr
    exact .revokes _ (revokes_revokeWhere (quiet_refl w.store) _ now _) rfl
      fun member hmem => .inl hmem
  | rotated response hrec hr h =>
    subst hr
    exact .rotates id key req response h hval hparse rfl rfl

theorem effect_authenticate (w : World) (raw : Bearer) (now : Nat) :
    Effect w (w.authenticate raw now) := by
  unfold World.authenticate
  rcases hcall : authenticateMember raw now w.store with ⟨t, r⟩
  obtain ⟨rfl, hmem⟩ := authenticateMember_eq hcall
  rcases r with e | member
  · exact effect_of_failed
  obtain ⟨sess, user, dev, _, hload, hdev, _⟩ := hmem member rfl
  refine .revokes _ (quiet_refl w.store) rfl fun other hoth => ?_
  rcases List.mem_cons.1 hoth with rfl | hold
  · exact .inr ⟨sess, (loadSession_eq hload).1, hdev⟩
  · exact .inl hold

theorem effect_of_revokes {w : World} {α : Type} {call : Fallible SessionStore SessionError α}
    {p : SessionId → Session → Bool}
    (h : ∀ t r, call w.store = (t, r) → (t = w.store ∧ ∃ e, r = .error e) ∨
      Revokes w.store t p) : Effect w (w.run call) := by
  refine effect_of_run fun t r hcall => ?_
  rcases h t r hcall with ⟨rfl, _⟩ | hrev
  · exact ⟨_, quiet_refl w.store⟩
  · exact ⟨p, hrev⟩

variable {w w' : World}

theorem step_effect {l : Label} (hinv : Inv w) (h : step w l = some w') : Effect w w' := by
  cases l with
  | createAccount userId displayName now =>
    cases h
    exact effect_of_run fun t r hcall => ⟨_, createAccount_quiet hcall⟩
  | createDeviceActivation userId request origin key id now =>
    cases h
    exact effect_of_run fun t r hcall => ⟨_, createDeviceActivation_quiet hcall⟩
  | consumeDeviceActivation origin request deviceId sessionId now =>
    cases h
    exact effect_consumeDeviceActivation w origin request deviceId sessionId now
  | createMemberSession origin request key deviceId sessionId now =>
    cases h
    exact effect_createMemberSession w origin request key deviceId sessionId now
  | refreshMemberSession request key now =>
    cases h
    exact effect_refreshMemberSession hinv request key now
  | authenticateMember raw now =>
    cases h
    exact effect_authenticate w raw now
  | logoutMember member path now =>
    replace h : (if member ∈ w.authenticated then
      some (w.run (revokeMemberSession member path now)) else none) = some w' := h
    split at h
    · cases h
      exact effect_of_revokes fun t r hcall => revokeMemberSession_eq hcall
    · cases h
  | revokeMemberDevice deviceId now published =>
    cases h
    exact effect_of_revokes fun t r hcall => revokeMemberDevice_eq hcall
  | setAccountStatus userId requested now published =>
    obtain rfl := Option.some.inj h
    refine effect_of_run fun t r hcall => ?_
    rcases setAccountStatus_eq hcall with ⟨rfl, _⟩ | ⟨_, hqt⟩ | hrev | ⟨rfl, _⟩
    · exact ⟨_, quiet_refl w.store⟩
    · exact ⟨_, hqt⟩
    · exact ⟨_, hrev⟩
    · exact ⟨_, quiet_refl w.store⟩
  | setAccountPassword userId request now published =>
    cases h
    exact effect_of_revokes fun t r hcall => setAccountPassword_eq hcall
  | resetAccountSessions userId now published =>
    cases h
    exact effect_of_revokes fun t r hcall => resetAccountSessions_eq hcall
  | issueAccountResetToken userId request key id now =>
    cases h
    exact effect_of_run fun t r hcall => ⟨_, issueAccountResetToken_quiet hcall⟩
  | consumeAccountResetToken request key now revisions =>
    cases h
    refine effect_of_run fun t r hcall => ?_
    rcases consumeAccountResetToken_eq hcall with ⟨rfl, _⟩ | ⟨id, token, _, ⟨rfl, _⟩ | hrev⟩
    · exact ⟨_, quiet_refl w.store⟩
    · exact ⟨_, quiet_refl w.store⟩
    · exact ⟨_, hrev⟩

theorem Effect.later (hinv : Inv w) (h : Effect w w') : Later w.store w'.store := by
  cases h with
  | revokes p h _ _ => exact h.later
  | replays e _ h => exact h ▸ later_refl w.store
  | opens _ _ _ _ _ h _ _ _ => exact h.later
  | rotates id key request response h _ _ _ _ =>
    exact h.later fun sess hfind => hinv.refresh_new hfind key

/-! ### Preservation -/

theorem Inv.joined_of_later {w : World} (hinv : Inv w) {t : SessionStore} (h : Later w.store t)
    {a b : Session} (ha : w.store.sessions.find id = some a) (hage : Ages a b) :
    (∃ user, t.users.find b.userId = some user) ∧ ∃ dev, t.devices.find b.deviceId = some dev ∧
    dev.userId = b.userId := by
  obtain ⟨⟨user, huser⟩, dev, hdev, hown⟩ := hinv.joined id a ha
  obtain ⟨dev', hdev', hown'⟩ := h.rows.devices _ dev hdev
  rw [hage.userId, hage.deviceId]
  exact ⟨h.rows.users _ user huser, dev', hdev', hown'.trans hown⟩

theorem Inv.kept {w : World} (hinv : Inv w) {t : SessionStore} (h : Later w.store t) :
    (∀ id src key record, w.store.refreshes.find (id, src, key) = some record →
      (∃ sess, t.sessions.find id = some sess ∧ src < sess.generation) ∧
        ∃ resp, .refresh record.request key resp ∈ w.answered) ∧
    (∀ e ∈ w.answered, Recorded t e) ∧
    ∀ member ∈ w.authenticated, ∃ sess, t.sessions.find member.sessionId = some sess ∧
      sess.deviceId = member.deviceId := by
  refine ⟨fun id src key record hrec => ?_, fun e he => (hinv.answered e he).later h,
    fun member hmem => ?_⟩
  · obtain ⟨⟨a, ha, hlt⟩, hans⟩ := hinv.records id src key record hrec
    obtain ⟨b, hb, hage⟩ := h.sessions id a ha
    exact ⟨⟨b, hb, lt_of_lt_of_le hlt hage.generation⟩, hans⟩
  · obtain ⟨a, ha, hdev⟩ := hinv.authenticated member hmem
    obtain ⟨b, hb, hage⟩ := h.sessions _ a ha
    exact ⟨b, hb, hage.deviceId.trans hdev⟩

theorem inv_revokes {p : SessionId → Session → Bool} (hinv : Inv w)
    (h : Revokes w.store w'.store p) (hans : w'.answered = w.answered)
    (hmems : ∀ member ∈ w'.authenticated, member ∈ w.authenticated ∨
      ∃ sess, w.store.sessions.find member.sessionId = some sess ∧
        sess.deviceId = member.deviceId) : Inv w' := by
  have hlat := h.later
  obtain ⟨hrecs, hold, hauth⟩ := hinv.kept hlat
  obtain ⟨now, reason, hsess⟩ := h.sessions
  -- A sess is the old one, marked as revoked if the condition holds.
  have hback : ∀ id b, w'.store.sessions.find id = some b → ∃ a, w.store.sessions.find id = some a ∧
        (if p id a then SessionStore.revoked now reason a else a) = b := by
    intro id b hb
    rw [hsess] at hb
    exact Option.map_eq_some_iff.1 hb
  refine ⟨fun id b hb => ?_, fun id b hb => ?_, fun id b hb hopen => ?_, fun id b hb => ?_,
    fun id src key record hrec => ?_, fun e he => ?_, fun member hmember => ?_⟩
  · obtain ⟨a, ha, rfl⟩ := hback id b hb
    have htoks := hinv.tokens id a ha
    split
    · exact ⟨htoks.access, htoks.current, htoks.previous⟩
    · exact htoks
  · obtain ⟨a, ha, _⟩ := hback id b hb
    obtain ⟨b', hb', hage⟩ := hlat.sessions id a ha
    obtain rfl := Option.mem_unique hb' hb
    exact hinv.joined_of_later hlat ha hage
  · -- an open session was not revoked by this call
    obtain ⟨a, ha, rfl⟩ := hback id b hb
    split at hopen
    · simp [SessionStore.revoked] at hopen
    · rename_i hkept
      rw [if_neg hkept]
      exact h.standing id a (hinv.standing id a ha hopen) hopen (by simpa using hkept)
  · obtain ⟨a, ha, rfl⟩ := hback id b hb
    have hcalendar := hinv.calendar id a ha
    split <;> exact hcalendar
  · rw [h.refreshes] at hrec
    rw [hans]
    exact hrecs id src key record hrec
  · rw [hans] at he
    exact hold e he
  · rcases hmems member hmember with hmem | ⟨a, ha, hdev⟩
    · exact hauth member hmem
    · obtain ⟨b, hb, hage⟩ := hlat.sessions _ a ha
      exact ⟨b, hb, hage.deviceId.trans hdev⟩

theorem inv_opens {opening : Opening} {sid : SessionId} {resp : CreateDeviceSessionResponse}
    {e : Exchange} (hinv : Inv w) (h : Opens w.store w'.store opening key sid resp)
    (he : Recorded w'.store e) (hans : w'.answered = e :: w.answered)
    (hmems : w'.authenticated = w.authenticated) : Inv w' := by
  have hlat := h.later
  obtain ⟨hrecs, hold, hauth⟩ := hinv.kept hlat
  obtain ⟨userId, user, now, access, refresh, huser, hact, ⟨dev, hdev, hown, hdevact⟩, _, hder,
    _, _, hsess, _⟩ := h.row
  have hfind : ∀ id b, w'.store.sessions.find id = some b → (id = sid ∧
      openedSession userId resp.deviceId resp.credentials user.credentialVersion now access
        refresh = b) ∨ w.store.sessions.find id = some b := by
    intro id b hb
    rw [hsess] at hb
    exact Table.find_insert_cases hb
  obtain ⟨hacs, hrefresh, hcalendar⟩ := deriveInitialCredentials_ok hder
  refine ⟨fun id b hb => ?_, fun id b hb => ?_, fun id b hb hopen => ?_, fun id b hb => ?_,
    fun id src key record hrec => ?_, fun e' he' => ?_, fun member hmember => ?_⟩
  · rcases hfind id b hb with ⟨_, rfl⟩ | hb
    · exact ⟨hacs, hrefresh, fun verifier hnone => by cases hnone⟩
    · exact hinv.tokens id b hb
  · rcases hfind id b hb with ⟨_, rfl⟩ | hb
    · exact ⟨⟨user, h.users ▸ huser⟩, dev, hdev, hown⟩
    · exact hinv.joined_of_later hlat hb (ages_refl b)
  · rcases hfind id b hb with ⟨_, rfl⟩ | hb
    · exact ⟨⟨user, h.users ▸ huser, hact, rfl⟩, dev, hdev, hown, hdevact⟩
    · exact h.standing b (hinv.standing id b hb hopen)
  · rcases hfind id b hb with ⟨_, rfl⟩ | hb
    · exact hcalendar
    · exact hinv.calendar id b hb
  · rw [h.refreshes] at hrec
    obtain ⟨hsource, old, hmem⟩ := hrecs id src key record hrec
    exact ⟨hsource, old, hans ▸ List.mem_cons_of_mem e hmem⟩
  · rw [hans] at he'
    rcases List.mem_cons.1 he' with rfl | hmem
    · exact he
    · exact hold e' hmem
  · rw [hmems] at hmember
    exact hauth member hmember

theorem inv_rotates {req : RefreshSessionRequest} {resp : RefreshSessionResponse} (hinv : Inv w)
    (h : Rotates w.store w'.store id key req resp) (hval : req.validate = .ok ())
    (hparse : req.refreshCredential.parsePrefixedId "rcr1" = some id)
    (hans : w'.answered = .refresh req key resp :: w.answered)
    (hmems : w'.authenticated = w.authenticated) : Inv w' := by
  have hlat := h.later fun sess hfind => hinv.refresh_new hfind key
  obtain ⟨hrecs, hold, hauth⟩ := hinv.kept hlat
  obtain ⟨sess, now, access, hsession, hopen, hcur, hder, hsess, hrefr⟩ := h.row
  have htoks := hinv.tokens id sess hsession
  have hgen : req.refreshCredential.generation = some sess.generation := by
    have hraw := htoks.current
    rwa [hcur] at hraw
  have hrotd : w'.store.sessions.find id
      = some (rotatedSession sess resp.credentials access now) := by
    rw [hsess, Table.find_updateAt, if_pos rfl, hsession]
    rfl
  have hoth : ∀ other b, other ≠ id → w'.store.sessions.find other = some b →
      w.store.sessions.find other = some b := by
    intro other b hne hb
    rwa [hsess, Table.find_updateAt, if_neg hne] at hb
  have hsame : ∀ b, Standing w.store b → Standing w'.store b := by
    rintro b ⟨huser, hdevice⟩
    exact ⟨h.users ▸ huser, h.devices ▸ hdevice⟩
  refine ⟨fun other b hb => ?_, fun other b hb => ?_, fun other b hb hnone => ?_,
    fun other b hb => ?_, fun other src key' record hrec => ?_, fun e he => ?_,
    fun member hmember => ?_⟩
  · by_cases hid : other = id
    · subst hid
      obtain rfl := Option.mem_unique hrotd hb
      obtain ⟨_, hacs, hrefresh⟩ := deriveRefreshCredentials_ok hder
      refine ⟨hacs, hrefresh, fun verifier hprev => ?_⟩
      cases hprev
      exact ⟨sess.generation, htoks.current, rfl⟩
    · exact hinv.tokens other b (hoth other b hid hb)
  · by_cases hid : other = id
    · subst hid
      obtain ⟨b', hb', hage⟩ := hlat.sessions other sess hsession
      obtain rfl := Option.mem_unique hb' hb
      exact hinv.joined_of_later hlat hsession hage
    · exact hinv.joined_of_later hlat (hoth other b hid hb) (ages_refl b)
  · by_cases hid : other = id
    · subst hid
      obtain rfl := Option.mem_unique hrotd hb
      obtain ⟨huser, hdevice⟩ := hsame sess (hinv.standing other sess hsession hopen)
      exact ⟨huser, hdevice⟩
    · exact hsame b (hinv.standing other b (hoth other b hid hb) hnone)
  · by_cases hid : other = id
    · subst hid
      obtain rfl := Option.mem_unique hrotd hb
      exact hinv.calendar other sess hsession
    · exact hinv.calendar other b (hoth other b hid hb)
  · rw [hrefr] at hrec
    rcases Table.find_insert_cases hrec with ⟨hkey, rfl⟩ | hrec
    · obtain ⟨rfl, rfl, rfl⟩ := by simpa using hkey
      exact ⟨⟨_, hrotd, Nat.lt_succ_self _⟩, resp, hans ▸ List.mem_cons_self⟩
    · obtain ⟨hsource, old, hmem⟩ := hrecs other src key' record hrec
      exact ⟨hsource, old, hans ▸ .tail _ hmem⟩
  · rw [hans] at he
    rcases List.mem_cons.1 he with rfl | hmem
    · refine ⟨hval, id, _, sess.generation, ⟨req, resp.account, now, access, sess.expiresAt⟩,
        hparse, hgen, hrotd, Nat.lt_succ_self _, fun _ => congrArg some hcur, ?_, rfl, rfl, ?_⟩
      · rw [hrefr, Table.find_insert, if_pos rfl]
      · exact h.network ▸ hder
    · exact hold e hmem
  · rw [hmems] at hmember
    exact hauth member hmember

theorem inv_step {l : Label} (hinv : Inv w) (h : step w l = some w') : Inv w' := by
  cases step_effect hinv h with
  | revokes p h hans hmems => exact inv_revokes hinv h hans hmems
  | replays e he h =>
    subst h
    refine ⟨hinv.tokens, hinv.joined, hinv.standing, hinv.calendar, 
      fun id src key record hrec => ?_, fun e' he' => ?_, hinv.authenticated⟩
    · obtain ⟨hsource, resp, hmem⟩ := hinv.records id src key record hrec
      exact ⟨hsource, resp, List.mem_cons_of_mem e hmem⟩
    · rcases List.mem_cons.1 he' with rfl | hmem
      · exact he
      · exact hinv.answered e' hmem
  | opens opening key sessionId resp e h he hans hmems =>
    exact inv_opens hinv h he hans hmems
  | rotates id key request resp h hval hparse hans hmems =>
    exact inv_rotates hinv h hval hparse hans hmems

theorem inv_of_reachable {w : World} (h : system.Reachable w) : Inv w := by
  refine h.invariant ?_ fun a l b hinv _ hstep => inv_step hinv hstep
  rintro a ⟨network, rfl⟩
  exact ⟨by simp [emptyStore], by simp [emptyStore], by simp [emptyStore], by simp [emptyStore],
    by simp [emptyStore], by simp, by simp⟩

theorem later_of_steps {ok : World → Label → Prop} (hinv : Inv w)
    (h : system.Steps ok w w') : Inv w' ∧ Later w.store w'.store := by
  refine h.preserves (P := fun v => Inv v ∧ Later w.store v.store) ?_ ⟨hinv, later_refl w.store⟩
  intro a l b hP _ hstep
  exact ⟨inv_step hP.1 hstep, hP.2.trans ((step_effect hP.1 hstep).later hP.1)⟩

end RealityConsole.MemberSessions
