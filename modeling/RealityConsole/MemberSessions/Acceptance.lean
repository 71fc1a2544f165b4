import RealityConsole.MemberSessions.Safety

/-!
# Accepted tokens

Which tokens the service accepts, which calls end a session, and what becomes of a
repeated request. A refresh credential counts as accepted if it can rotate the
session: the answer to a repeated refresh is a copy of an earlier answer and not an
acceptance.
-/

namespace RealityConsole.MemberSessions

open Framework Protocol Controller Controller.SessionStore

/-- The text authenticates a request of the session. -/
def AcceptsAccess (store : SessionStore) (id : SessionId) (raw : Bearer) (now : Nat) : Prop :=
  ∃ member, (authenticateMember raw now store).2 = .ok member ∧ member.sessionId = id

/-- The text rotates the session under a key that was not used for the session before. -/
def AcceptsRefresh (store : SessionStore) (id : SessionId) (raw : Bearer) (now : Nat) : Prop :=
  ∃ key response, (∀ source, store.refreshes.find (id, source, key) = none) ∧
    (refreshMemberSession ⟨raw⟩ key now store).2 = .ok response ∧
    response.credentials.sessionId = id

def OwnedBy (store : SessionStore) (id : SessionId) (userId : UserId) : Prop :=
  ∃ session, store.sessions.find id = some session ∧ session.userId = userId

/-- The call ends the session: by a logout, for its device or account, or for the reuse of a refresh
credential. -/
def Closes (store : SessionStore) (id : SessionId) : Label → Prop
  | .logoutMember member path now => member.sessionId = id ∧
      (revokeMemberSession member path now store).2 = .ok ()
  | .revokeMemberDevice deviceId now published =>
      (∃ session, store.sessions.find id = some session ∧ session.deviceId = deviceId) ∧
      (revokeMemberDevice deviceId now published store).2 = .ok ()
  | .setAccountStatus userId requested now published =>
      OwnedBy store id userId ∧ requested ≠ .active ∧
      ∃ summary, (setAccountStatus userId requested now published store).2 = .ok summary
  | .setAccountPassword userId request now published => OwnedBy store id userId ∧
      (setAccountPassword userId request now published store).2 = .ok ()
  | .resetAccountSessions userId now published => OwnedBy store id userId ∧
      ∃ response, (resetAccountSessions userId now published store).2 = .ok response
  | .consumeAccountResetToken request key now revisions => ∃ tokenId token,
      store.resetTokens.find? (fun entry =>
        entry.2.secretVerifier = ⟨.accountReset, request.resetToken⟩) = some (tokenId, token) ∧
      token.consumed = none ∧ OwnedBy store id token.userId ∧
      ∃ response, (consumeAccountResetToken request key now revisions store).2 = .ok response
  | .refreshMemberSession request key _ =>
      request.refreshCredential.parsePrefixedId "rcr1" = some id ∧
      (∃ session, store.sessions.find id = some session ∧ session.previousRefreshVerifier
        = some ⟨.credential .refresh, request.refreshCredential⟩) ∧
      ∀ source, store.refreshes.find (id, source, key) = none
  | _ => False

/-- A repeated request is answered as before; a refresh is refused once a later one has replaced its
credentials. -/
def Repeats (store : SessionStore) : Exchange → Prop
  | .activation origin request response => ∀ deviceId sessionId now,
      consumeDeviceActivation origin request deviceId sessionId now store = (store, .ok response)
  | .login request key response => ∀ origin deviceId sessionId now,
      createMemberSession origin request key deviceId sessionId now store = (store, .ok response)
  | .refresh request key response => ∀ now,
      refreshMemberSession request key now store = (store, .ok response) ∨
      (refreshMemberSession request key now store = (store, .error .memberAuthenticationFailed) ∧
        ∃ session, store.sessions.find response.credentials.sessionId = some session ∧
          response.credentials.accessToken.generation ≠ some session.generation)

/-! ### One accepted token -/

variable {id : SessionId} {raw : Bearer} {w : World}
  {now : Nat}

theorem acceptsAccess_current (hinv : Inv w) (h : AcceptsAccess w.store id raw now) :
    ∃ session, w.store.sessions.find id = some session ∧
      session.currentAccessVerifier = ⟨.credential .access, raw⟩ ∧
      raw.generation = some session.generation ∧ session.revokedAt = none := by
  obtain ⟨member, hok, rfl⟩ := h
  obtain ⟨_, hmem⟩ := authenticateMember_eq (Fallible.eq_of_snd hok)
  obtain ⟨session, user, dev, _, hload, _, hverify, hopen⟩ := hmem member rfl
  have hfind := (loadSession_eq hload).1
  have hgen := (hinv.tokens _ session hfind).access
  rw [hverify] at hgen
  exact ⟨session, hfind, hverify, hgen, hopen⟩

theorem acceptsAccess_unique (hinv : Inv w) {raw raw' : Bearer}
    {now now' : Nat} (h : AcceptsAccess w.store id raw now)
    (h' : AcceptsAccess w.store id raw' now') : raw = raw' := by
  obtain ⟨session, hfind, hverify, _⟩ := acceptsAccess_current hinv h
  obtain ⟨session', hfind', hverify', _⟩ := acceptsAccess_current hinv h'
  obtain rfl := Option.mem_unique hfind hfind'
  exact congrArg Verifier.raw (hverify.symm.trans hverify')

/-! ### Closed sessions -/

def Closed (store : SessionStore) (id : SessionId) : Prop :=
  ∃ session, store.sessions.find id = some session ∧ session.revokedAt ≠ none

variable {s t : SessionStore}

theorem Closed.later (h : Later s t) (hs : Closed s id) : Closed t id := by
  obtain ⟨a, ha, hrevoked⟩ := hs
  obtain ⟨b, hb, hage⟩ := h.sessions id a ha
  exact ⟨b, hb, hage.revoked hrevoked⟩

theorem Closed.not_acceptsAccess (hinv : Inv w)
    (h : Closed w.store id) (raw : Bearer) (now : Nat) : ¬AcceptsAccess w.store id raw now := by
  intro hacc
  obtain ⟨session, hfind, hrevoked⟩ := h
  obtain ⟨found, hfound, _, _, hopen⟩ := acceptsAccess_current hinv hacc
  obtain rfl := Option.mem_unique hfound hfind
  exact hrevoked hopen

variable {key : IdempotencyKey} {request : RefreshSessionRequest}
  {response : RefreshSessionResponse}

theorem Closed.refresh_replayed (h : Closed s id)
    (hcall : refreshMemberSession request key now s = (t, .ok response))
    (hid : response.credentials.sessionId = id) : t = s ∧ ∃ session src record,
    sourceGeneration session ⟨.credential .refresh, request.refreshCredential⟩ = some src ∧
    s.sessions.find id = some session ∧ request.refreshCredential.parsePrefixedId "rcr1" = some id ∧
    s.refreshes.find (id, src, key) = some record ∧ record.request = request := by
  rcases refreshMemberSession_eq hcall with ⟨_, e, he⟩ |
    ⟨id', session, user, dev, src, hval, hparse, hload, hsource, houtcome⟩
  · cases he
  have hfind := (loadSession_eq hload).1
  cases houtcome with
  | replayed record hrec hreplay =>
    obtain ⟨ht, hreq, creds, hr, hder⟩ := replayRefresh_ok hreplay
    cases hr
    have hsame : id' = id := (deriveRefreshCredentials_ok hder).1.symm.trans hid
    subst hsame
    exact ⟨ht, session, src, record, hsource, hfind, hparse, hrec, hreq⟩
  | reused _ _ _ _ hr => cases hr
  | rotated response' _ hr hrotates =>
    -- A rotation needs an open session.
    cases hr
    obtain ⟨found, now', access, hfound, hopen, _, hder, _⟩ := hrotates.row
    have hsame : id' = id := (deriveRefreshCredentials_ok hder).1.symm.trans hid
    subst hsame
    obtain ⟨closed, hclo, hrevoked⟩ := h
    obtain rfl := Option.mem_unique hclo hfound
    exact absurd hopen hrevoked

theorem Closed.not_acceptsRefresh {s : SessionStore} (h : Closed s id)
    (raw : Bearer) (now : Nat) : ¬AcceptsRefresh s id raw now := by
  rintro ⟨key, response, hnew, hok, hid⟩
  obtain ⟨_, session, src, record, _, _, _, hrec, _⟩ :=
    h.refresh_replayed (Fallible.eq_of_snd hok) hid
  rw [hnew src] at hrec
  cases hrec

variable {session : Session}

theorem Revokes.closed {p : SessionId → Session → Bool} (h : Revokes s t p)
    (hfind : s.sessions.find id = some session)
    (hp : session.revokedAt = none → p id session) : Closed t id := by
  by_cases hopen : session.revokedAt = none
  · obtain ⟨now, reason, hsess⟩ := h.sessions
    refine ⟨SessionStore.revoked now reason session, ?_, by simp [SessionStore.revoked]⟩
    rw [hsess, hfind, Option.map_some, if_pos (hp hopen)]
  · exact Closed.later h.later ⟨session, hfind, hopen⟩

theorem Revokes.closed_of_owned {uid : UserId}
    (h : Revokes s t (openSessionOf uid)) (howd : OwnedBy s id uid) : Closed t id := by
  obtain ⟨session, hfind, huser⟩ := howd
  refine h.closed hfind fun hopen => ?_
  simp [openSessionOf, huser, hopen]

/-! ### Refreshes that find their session -/

/-- A credential of a generation is not an empty text. -/
theorem validate_of_generation {g : Nat} (h : raw.generation = some g) :
    RefreshSessionRequest.validate ⟨raw⟩ = .ok () := by
  refine refuse_ok.2 ?_
  cases raw with
  | text parts => cases h
  | activation => cases h
  | accountReset => cases h
  | login => simp [Bearer.isEmpty, Bearer.byteLength]
  | activated => simp [Bearer.isEmpty, Bearer.byteLength]
  | rotated => simp [Bearer.isEmpty, Bearer.byteLength]

theorem Inv.loadSession (hinv : Inv w) (hfind : w.store.sessions.find id = some session) :
    ∃ user dev, w.store.loadSession id = some (session, user, dev) := by
  obtain ⟨⟨user, huser⟩, dev, hdev, hown⟩ := hinv.joined id session hfind
  refine ⟨user, dev, ?_⟩
  simp only [SessionStore.loadSession, hfind, huser, hdev, hown, if_true]

theorem Tokens.sourceGeneration_previous (h : Tokens session)
    {source : Nat} (hprev : session.previousRefreshVerifier = some ⟨.credential .refresh, raw⟩)
    (hraw : raw.generation = some source) :
    sourceGeneration session ⟨.credential .refresh, raw⟩ = some source := by
  obtain ⟨g, hg, hnext⟩ := h.previous _ hprev
  have hsource : g = source := Option.mem_unique hg hraw
  unfold sourceGeneration
  rw [if_neg, if_pos ⟨hprev, by omega⟩]
  · exact congrArg some (by omega)
  · intro hcur
    have hnow := h.current
    rw [hcur] at hnow
    have hsame : g = session.generation := Option.mem_unique hg hnow
    omega

theorem refreshMemberSession_found {s : SessionStore} {user : User} {dev : Device} {src : Nat}
    {committed : SessionStore × Except SessionError RefreshSessionResponse}
    (hval : request.validate = .ok ())
    (hparse : request.refreshCredential.parsePrefixedId "rcr1" = some id)
    (hload : s.loadSession id = some (session, user, dev))
    (hsource : sourceGeneration session ⟨.credential .refresh, request.refreshCredential⟩
      = some src)
    (h : s.answerRefresh id session user dev src key request now = .ok committed) :
    refreshMemberSession request key now s = committed := by
  refine Fallible.transaction_of_ok (bind_ok.2 ⟨(), mapError_ok.2 hval, ?_⟩)
  refine bind_ok.2 ⟨id, required_ok.2 hparse, ?_⟩
  refine bind_ok.2 ⟨(session, user, dev), required_ok.2 hload, ?_⟩
  exact bind_ok.2 ⟨src, required_ok.2 hsource, h⟩

theorem closed_of_reused (hinv : Inv w) (now : Nat)
    (hparse : request.refreshCredential.parsePrefixedId "rcr1" = some id)
    (hfind : w.store.sessions.find id = some session) (hprev : session.previousRefreshVerifier
      = some ⟨.credential .refresh, request.refreshCredential⟩)
    (hnew : ∀ src, w.store.refreshes.find (id, src, key) = none) :
    Closed (refreshMemberSession request key now w.store).1 id := by
  have htoks := hinv.tokens id session hfind
  obtain ⟨g, hraw, _⟩ := htoks.previous _ hprev
  obtain ⟨user, dev, hload⟩ := hinv.loadSession hfind
  have hanw : w.store.answerRefresh id session user dev g key request now
      = .ok (w.store.revokeWhere (fun other _ => other = id) now "refresh-reuse",
        .error .refreshCredentialReused) := by
    unfold answerRefresh
    rw [hnew g]
    exact if_pos hprev
  rw [refreshMemberSession_found (validate_of_generation hraw) hparse hload
    (htoks.sourceGeneration_previous hprev hraw) hanw]
  have hrev := revokes_revokeWhere (quiet_refl w.store) (fun other _ => other = id) now
    "refresh-reuse"
  exact hrev.closed hfind fun _ => decide_eq_true rfl

theorem closed_of_closes {w w' : World} {l : Label} (hinv : Inv w)
    (hcloses : Closes w.store id l) (h : step w l = some w') : Closed w'.store id := by
  cases l with
  | createAccount => exact hcloses.elim
  | createDeviceActivation => exact hcloses.elim
  | consumeDeviceActivation => exact hcloses.elim
  | createMemberSession => exact hcloses.elim
  | authenticateMember => exact hcloses.elim
  | issueAccountResetToken => exact hcloses.elim
  | logoutMember member path now =>
    obtain ⟨rfl, hok⟩ := hcloses
    replace h : (if member ∈ w.authenticated then
      some (w.run (revokeMemberSession member path now)) else none) = some w' := h
    split at h
    · rename_i hmem
      cases h
      obtain ⟨session, hfind, hdev⟩ := hinv.authenticated member hmem
      rcases revokeMemberSession_eq (Fallible.eq_of_snd hok) with ⟨_, e, he⟩ | hrev
      · cases he
      · exact hrev.closed hfind fun _ => by simp [hdev]
    · cases h
  | revokeMemberDevice deviceId now published =>
    obtain ⟨⟨session, hfind, hdev⟩, hok⟩ := hcloses
    cases h
    rcases revokeMemberDevice_eq (Fallible.eq_of_snd hok) with ⟨_, e, he⟩ | hrev
    · cases he
    · exact hrev.closed hfind fun hopen => by simp [hdev, hopen]
  | setAccountStatus userId requested now published =>
    obtain ⟨howd, hblocked, summary, hok⟩ := hcloses
    obtain rfl := Option.some.inj h
    rw [World.store_run]
    rcases setAccountStatus_eq (Fallible.eq_of_snd hok) with ⟨_, e, he⟩ | ⟨hact, _⟩ | hrev |
      ⟨ht, user, huser, hstat⟩
    · cases he
    · exact absurd hact hblocked
    · exact hrev.closed_of_owned howd
    · -- The account had the status before, so none of its sessions was open.
      obtain ⟨session, hfind, rfl⟩ := howd
      rw [ht]
      exact ⟨session, hfind, hinv.blocked id session user hfind huser (hstat ▸ hblocked)⟩
  | setAccountPassword userId request now published =>
    obtain ⟨howd, hok⟩ := hcloses
    cases h
    rcases setAccountPassword_eq (Fallible.eq_of_snd hok) with ⟨_, e, he⟩ | hrev
    · cases he
    · exact hrev.closed_of_owned howd
  | resetAccountSessions userId now published =>
    obtain ⟨howd, response, hok⟩ := hcloses
    cases h
    rcases resetAccountSessions_eq (Fallible.eq_of_snd hok) with ⟨_, e, he⟩ | hrev
    · cases he
    · exact hrev.closed_of_owned howd
  | consumeAccountResetToken request key now revisions =>
    obtain ⟨tokenId, token, htok, hnew, howd, response, hok⟩ := hcloses
    cases h
    rcases consumeAccountResetToken_eq (Fallible.eq_of_snd hok) with ⟨_, e, he⟩ |
      ⟨id', token', htok', ⟨_, hused⟩ | hrev⟩
    · cases he
    · rw [htok] at htok'
      obtain ⟨_, rfl⟩ := Prod.mk.inj (Option.some.inj htok')
      exact absurd hnew hused
    · rw [htok] at htok'
      obtain ⟨_, rfl⟩ := Prod.mk.inj (Option.some.inj htok')
      exact hrev.closed_of_owned howd
  | refreshMemberSession request key now =>
    obtain ⟨hparse, ⟨session, hfind, hprev⟩, hnew⟩ := hcloses
    cases h
    have hclo := closed_of_reused hinv now hparse hfind hprev hnew
    unfold World.answer
    split
    · rename_i t response hcall
      rwa [hcall] at hclo
    · rename_i t e hcall
      rwa [hcall] at hclo

/-! ### Repeated requests -/

theorem Inv.repeats (hinv : Inv w) {e : Exchange} (he : Recorded w.store e) :
    Repeats w.store e := by
  cases e with
  | activation origin request response =>
    obtain ⟨id, activation, spent, hpres, hspent, hreq, hreplay⟩ := he
    intro did sid now
    refine Fallible.transaction_of_ok (bind_ok.2 ⟨(), mapError_ok.2 hpres.valid, ?_⟩)
    refine bind_ok.2 ⟨id, required_ok.2 hpres.parsed, ?_⟩
    refine bind_ok.2 ⟨activation, required_ok.2 hpres.found, ?_⟩
    refine bind_ok.2 ⟨(), refuse_ok.2 (not_not.2 hpres.verifier), ?_⟩
    refine bind_ok.2 ⟨(), refuse_ok.2 (by simp [hspent]), ?_⟩
    refine bind_ok.2 ⟨_, hpres.expiry, ?_⟩
    refine bind_ok.2 ⟨(), refuse_ok.2 (not_not.2 hpres.proof), ?_⟩
    rw [hspent]
    refine bind_ok.2 ⟨(), refuse_ok.2 (not_not.2 hreq), ?_⟩
    exact bind_ok.2 ⟨response, hreplay, rfl⟩
  | login request key response =>
    obtain ⟨hval, ⟨uid, hparse⟩, record, hfind, hreq, hreplay⟩ := he
    intro origin did sid now
    refine Fallible.transaction_of_ok (bind_ok.2 ⟨(), mapError_ok.2 hval, ?_⟩)
    refine bind_ok.2 ⟨uid, required_ok.2 hparse, ?_⟩
    rw [hfind]
    refine bind_ok.2 ⟨(), refuse_ok.2 (not_not.2 hreq), ?_⟩
    exact bind_ok.2 ⟨response, hreplay, rfl⟩
  | refresh request key response =>
    obtain ⟨hval, id, session, source, record, hparse, hraw, hfind, hlt, hprev, hrec,
      hreq, hacct, hder⟩ := he
    intro now
    have htoks := hinv.tokens id session hfind
    obtain ⟨user, dev, hload⟩ := hinv.loadSession hfind
    by_cases hnext : session.generation = source + 1
    · refine .inl (refreshMemberSession_found hval hparse hload
        (htoks.sourceGeneration_previous (hprev hnext) hraw) ?_)
      unfold answerRefresh
      rw [hrec]
      refine bind_ok.2 ⟨(), refuse_ok.2 (not_not.2 hreq), ?_⟩
      refine bind_ok.2 ⟨response.credentials, hder, ?_⟩
      rw [← hacct]
      rfl
    · -- The session has been rotated since, and no stored verifier is that of the credential.
      obtain ⟨hid, hgen, _⟩ := deriveRefreshCredentials_ok hder
      refine .inr ⟨?_, session, hid ▸ hfind, ?_⟩
      · have hunknown : sourceGeneration session
            ⟨.credential .refresh, request.refreshCredential⟩ = none := by
          rcases hsource : sourceGeneration session
              ⟨.credential .refresh, request.refreshCredential⟩ with _ | found
          · rfl
          have hsame : found = source := Option.mem_unique (htoks.generation_of_source hsource) hraw
          rcases sourceGeneration_eq hsource with ⟨_, h⟩ | ⟨_, h⟩ <;> omega
        refine Fallible.transaction_of_error ?_
        rw [hval, hparse]
        show (required (w.store.loadSession id) _ >>= _) = _
        rw [hload]
        show (required (sourceGeneration session _) _ >>= _) = _
        rw [hunknown]
        rfl
      · intro hcur
        rw [hgen] at hcur
        have hsame := Option.some.inj hcur
        omega

theorem Inv.refresh_answered (hinv : Inv w) (hclo : Closed w.store id) {store : SessionStore}
    (hcall : refreshMemberSession ⟨raw⟩ key now w.store = (store, .ok response))
    (hid : response.credentials.sessionId = id) :
    store = w.store ∧ .refresh ⟨raw⟩ key response ∈ w.answered := by
  obtain ⟨rfl, session, src, record, _, _, _, hrec, hreq⟩ := hclo.refresh_replayed hcall hid
  refine ⟨rfl, ?_⟩
  obtain ⟨_, answer, hanw⟩ := hinv.records id src key record hrec
  rw [hreq] at hanw
  -- The answer that was given before would be given now, so it is this one.
  rcases hinv.repeats (hinv.answered _ hanw) now with hsame | ⟨hfail, _⟩
  · rw [hcall] at hsame
    rwa [Except.ok.inj (Prod.mk.inj hsame).2]
  · rw [hcall] at hfail
    cases (Prod.mk.inj hfail).2

/-! ### Refreshing in time -/

/-- What a rotation by the current credential needs beyond an open session. -/
theorem rotateSession_current {user : User} {device : Device} {t : SessionStore}
    {r : Except SessionError RefreshSessionResponse}
    (h : w.store.rotateSession id session user device session.generation key request now
      = .ok (t, r)) :
    device.createdAt ≤ now ∧ now + accessTokenLifetimeSeconds < session.expiresAt := by
  obtain ⟨_, h⟩ := rest_ok h
  obtain ⟨access, haccess, h⟩ := bind_ok.1 h
  obtain ⟨_, h⟩ := rest_ok h
  obtain ⟨_, h⟩ := rest_ok h
  obtain ⟨_, hrow, -⟩ := bind_ok.1 h
  unfold checkedAdd at haccess
  split at haccess
  · cases haccess
    rw [refuse_ok, not_or, Nat.not_le, Nat.not_lt] at hrow
    exact hrow.symm
  · cases haccess

theorem refresh_rotates {user : User} {device : Device} {t : SessionStore} {source : Nat}
    {response : RefreshSessionResponse}
    (hload : w.store.loadSession id = some (session, user, device))
    (hparse : request.refreshCredential.parsePrefixedId "rcr1" = some id)
    (hsource : sourceGeneration session ⟨.credential .refresh, request.refreshCredential⟩
      = some source)
    (h : refreshMemberSession request key now w.store = (t, .ok response)) :
    w.store.answerRefresh id session user device source key request now
      = .ok (t, .ok response) := by
  rcases Fallible.transaction_eq h with ⟨-, e, herr⟩ | h
  · cases herr
  obtain ⟨_, h⟩ := rest_ok h
  obtain ⟨found, hfound, h⟩ := bind_ok.1 h
  obtain rfl := Option.mem_unique (required_ok.1 hfound) hparse
  obtain ⟨row, hrow, h⟩ := bind_ok.1 h
  obtain rfl := Option.mem_unique (required_ok.1 hrow) hload
  obtain ⟨other, hother, h⟩ := bind_ok.1 h
  obtain rfl := Option.mem_unique (required_ok.1 hother) hsource
  exact h

/-- A refresh with the current credential of a session that is not revoked succeeds exactly if the
session outlives the new access token and the clock is not behind the creation of the device. That
account and device are active and that the session has the account's version of credentials follows
from the run. -/
theorem refresh_succeeds {user : User} {device : Device} (h : system.Reachable w)
    (hload : w.store.loadSession id = some (session, user, device))
    (hparse : request.refreshCredential.parsePrefixedId "rcr1" = some id)
    (hcurrent : session.currentRefreshVerifier = ⟨.credential .refresh, request.refreshCredential⟩)
    (hopen : session.revokedAt = none) (key : IdempotencyKey) :
    (∃ response, (refreshMemberSession request key now w.store).2 = .ok response) ↔
      device.createdAt ≤ now ∧ now + accessTokenLifetimeSeconds < session.expiresAt := by
  have hinv := inv_of_reachable h
  obtain ⟨hfind, hfound, hdevices, -⟩ := loadSession_eq hload
  have htoks := hinv.tokens id session hfind
  have hsource : sourceGeneration session ⟨.credential .refresh, request.refreshCredential⟩
      = some session.generation := if_pos hcurrent
  have hgeneration := htoks.generation_of_source hsource
  have hanswer : w.store.answerRefresh id session user device session.generation key request now
      = w.store.rotateSession id session user device session.generation key request now := by
    rw [answerRefresh, hinv.refresh_new hfind key]
    -- the previous credential is of the generation before
    refine if_neg fun hprev => ?_
    obtain ⟨g, hg, hlt⟩ := htoks.previous _ hprev
    have hsame := Option.mem_unique hg hgeneration
    omega
  constructor
  · rintro ⟨response, hok⟩
    have hrotated := refresh_rotates hload hparse hsource (Fallible.eq_of_snd hok)
    rw [hanswer] at hrotated
    exact rotateSession_current hrotated
  rintro ⟨hcreated, hlives⟩
  obtain ⟨⟨owner, howner, huser, hversion⟩, own, hown, -, hdevice⟩ :=
    hinv.standing id session hfind hopen
  obtain rfl := Option.mem_unique howner hfound
  obtain rfl := Option.mem_unique hown hdevices
  have hcalendar := hinv.calendar id session hfind
  have hval : request.validate = .ok () := by
    refine refuse_ok.2 ?_
    -- only a text can be empty, and a text has no generation
    cases hraw : request.refreshCredential with
    | text parts => simp [hraw, Bearer.generation] at hgeneration
    | _ => simp [Bearer.isEmpty, Bearer.byteLength]
  obtain ⟨t, response, hrot⟩ : ∃ t response, w.store.rotateSession id session owner own
      session.generation key request now = .ok (t, .ok response) := by
    have hlim : now + accessTokenLifetimeSeconds < i64Limit :=
      hlives.trans_le (hcalendar.trans (by decide))
    have hexp : ¬session.expiresAt ≤ now := by omega
    simp [rotateSession, refuseWhen, checkedAdd, loadAccountMetadata, deriveRefreshCredentials,
      timestamp, required, hcurrent, hopen, hexp, hversion, huser, hdevice, hlim, hfound,
      (hlives.trans_le hcalendar).le, hcalendar, hlives.not_ge, hcreated.not_gt, pure, Except.pure]
  rw [refreshMemberSession_found hval hparse hload hsource (hanswer.trans hrot)]
  exact ⟨response, rfl⟩

/-! ### The service as a whole -/

/-- Session safety, from any state `w` of any run on. The access token that is accepted is the one
of the current generation of its session, and one of an earlier generation never is again. After a
call that ends a session no token of it is accepted: a later refresh fails, or it copies an answer
that was given before. Every answered activation, login and refresh is answered in the same way when
it is repeated. -/
theorem member_sessions_safe {w : World} (h : system.Reachable w) :
    (∀ id raw now, AcceptsAccess w.store id raw now →
      ∃ session, w.store.sessions.find id = some session ∧
        raw.generation = some session.generation ∧
        ∀ raw' now', AcceptsAccess w.store id raw' now' → raw' = raw) ∧
    (∀ w' id session raw g now, system.Steps (fun _ _ => True) w w' →
      w.store.sessions.find id = some session → raw.generation = some g →
      g < session.generation → ¬AcceptsAccess w'.store id raw now) ∧
    (∀ l id v w', Closes w.store id l → system.next w l = some v →
      system.Steps (fun _ _ => True) v w' → ∀ raw now,
        ¬AcceptsAccess w'.store id raw now ∧ ¬AcceptsRefresh w'.store id raw now ∧
        ∀ key store response, refreshMemberSession ⟨raw⟩ key now w'.store = (store, .ok response) →
          response.credentials.sessionId = id →
          store = w'.store ∧ .refresh ⟨raw⟩ key response ∈ w'.answered) ∧
    ∀ e ∈ w.answered, Repeats w.store e := by
  have hinv := inv_of_reachable h
  refine ⟨?_, ?_, ?_, fun e he => hinv.repeats (hinv.answered e he)⟩
  · intro id raw now hacpt
    obtain ⟨session, hfind, _, hgeneration, _⟩ := acceptsAccess_current hinv hacpt
    exact ⟨session, hfind, hgeneration, fun raw' now' h' => acceptsAccess_unique hinv h' hacpt⟩
  · intro w' id session raw g now hsteps hfind hraw hlt hacpt
    obtain ⟨hinv', hlat⟩ := later_of_steps hinv hsteps
    obtain ⟨later, hlaterFind, hages⟩ := hlat.sessions id session hfind
    obtain ⟨found, hfound, _, hgeneration, _⟩ := acceptsAccess_current hinv' hacpt
    obtain rfl := Option.mem_unique hfound hlaterFind
    -- The generation never goes back.
    have hsame : g = found.generation := Option.mem_unique hraw hgeneration
    have hle := hages.generation
    omega
  · intro l id v w' hcloses hnext hsteps raw now
    obtain ⟨hinv', hlat⟩ := later_of_steps (inv_step hinv hnext) hsteps
    have hclo : Closed w'.store id := (closed_of_closes hinv hcloses hnext).later hlat
    refine ⟨hclo.not_acceptsAccess hinv' raw now, hclo.not_acceptsRefresh raw now, ?_⟩
    intro key store response hcall hid
    exact hinv'.refresh_answered hclo hcall hid

/-! ### A run -/

def sampleDevice : DeviceEnrollment :=
  { displayName := "laptop", clientVersion := "1.0.0", platform := "macos-arm64"
    identityPublicKey := 7, encryptionPublicKey := 8, nonce := "n"
    proof := ⟨7, ⟨.activation 2 1000, "https://control", 7, 8, "n", "laptop", "1.0.0",
      "macos-arm64"⟩⟩ }

def sampleActivation : ConsumeDeviceActivationRequest :=
  ⟨.activation 9 1 2 "activate" 900, sampleDevice⟩

def sampleRefresh : RefreshSessionRequest :=
  ⟨.activated .refresh 9 4 3 2 sampleActivation.activationSecret sampleDevice 200⟩

def sampleAccess : Bearer :=
  .rotated .access 9 4 3 0 "refresh" sampleRefresh.refreshCredential 300

def sampleMember : AuthenticatedMember := ⟨9, 1, 3, 4⟩

def sampleCalls : List Label :=
  [.createAccount 1 "member" 50,
    .createDeviceActivation 1 ⟨900⟩ "https://control" "activate" 2 100,
    .consumeDeviceActivation "https://control" sampleActivation 3 4 200,
    .refreshMemberSession sampleRefresh "refresh" 300,
    .authenticateMember sampleAccess 350]

def isSampleRefresh (store : SessionStore) : Exchange → Bool
  | .refresh request key response => request = sampleRefresh ∧ key = "refresh" ∧
      (refreshMemberSession sampleRefresh "refresh" 500 store).2.toOption = some response
  | _ => false

/-- The refresh is repeated, and then the session is ended. -/
theorem sample_logout_closes : ∃ w v response, system.Reachable w ∧
    .refresh sampleRefresh "refresh" response ∈ w.answered ∧
    refreshMemberSession sampleRefresh "refresh" 500 w.store = (w.store, .ok response) ∧
    AcceptsAccess w.store 4 sampleAccess 360 ∧
    system.next w (.logoutMember sampleMember 3 400) = some v ∧
    ∀ w', system.Steps (fun _ _ => True) v w' → ∀ raw now,
      ¬AcceptsAccess w'.store 4 raw now ∧ ¬AcceptsRefresh w'.store 4 raw now := by
  obtain ⟨w, hrun, hmem, haccess, hanswered⟩ := Machine.run_of_exec (M := system) (fun _ _ => True)
    (fun w => sampleMember ∈ w.authenticated ∧
      (authenticateMember sampleAccess 360 w.store).2.toOption = some sampleMember ∧
      w.answered.any (isSampleRefresh w.store) = true)
    sampleCalls ⟨9, rfl⟩ (by decide +kernel)
  have hsafe := member_sessions_safe hrun
  obtain ⟨e, he, hrefresh⟩ := List.any_eq_true.1 hanswered
  obtain ⟨response, rfl, hcopy⟩ : ∃ response, e = .refresh sampleRefresh "refresh" response ∧
      (refreshMemberSession sampleRefresh "refresh" 500 w.store).2 = .ok response := by
    cases e with
    | refresh request key response =>
      obtain ⟨rfl, rfl, hok⟩ := of_decide_eq_true hrefresh
      exact ⟨response, rfl, toOption_some.1 hok⟩
    | activation origin request response => cases hrefresh
    | login request key response => cases hrefresh
  have hrepeated : refreshMemberSession sampleRefresh "refresh" 500 w.store
      = (w.store, .ok response) := by
    rcases hsafe.2.2.2 _ he 500 with hsame | ⟨hfail, -⟩
    · exact hsame
    · rw [hfail] at hcopy
      cases hcopy
  have hnext : system.next w (.logoutMember sampleMember 3 400)
      = some (w.run (revokeMemberSession sampleMember 3 400)) := if_pos hmem
  have hcloses : Closes w.store 4 (.logoutMember sampleMember 3 400) := ⟨rfl, rfl⟩
  refine ⟨w, _, response, hrun, he, hrepeated, ⟨sampleMember, toOption_some.1 haccess, rfl⟩,
    hnext, ?_⟩
  intro w' hsteps raw now
  obtain ⟨hno, hnone, _⟩ := hsafe.2.2.1 _ 4 _ w' hcloses hnext hsteps raw now
  exact ⟨hno, hnone⟩

/-- After a second refresh the first is not answered again. -/
theorem old_refresh_refused : ∃ w, system.Reachable w ∧
    (∃ e ∈ w.answered, ∃ response, e = .refresh sampleRefresh "refresh" response) ∧
    (refreshMemberSession sampleRefresh "refresh" 500 w.store).2
      = .error .memberAuthenticationFailed := by
  obtain ⟨w, hrun, hanswered, hrefused⟩ := Machine.run_of_exec (M := system) (fun _ _ => True)
    (fun w => w.answered.any (fun e => match e with
        | .refresh request key _ => request = sampleRefresh ∧ key = "refresh"
        | _ => false) = true ∧
      (refreshMemberSession sampleRefresh "refresh" 500 w.store).2
        = .error .memberAuthenticationFailed)
    (sampleCalls.take 4 ++ [.refreshMemberSession
      ⟨.rotated .refresh 9 4 3 0 "refresh" sampleRefresh.refreshCredential 300⟩ "next" 400])
    ⟨9, rfl⟩ (by decide +kernel)
  obtain ⟨e, he, hfirst⟩ := List.any_eq_true.1 hanswered
  refine ⟨w, hrun, ⟨e, he, ?_⟩, hrefused⟩
  cases e with
  | refresh request key response =>
    obtain ⟨rfl, rfl⟩ := of_decide_eq_true hfirst
    exact ⟨response, rfl⟩
  | activation origin request response => cases hfirst
  | login request key response => cases hfirst

/-- A refresh of a session whose access token would end one second before it. -/
theorem refresh_succeeds_early : ∃ w response, system.Reachable w ∧
    (refreshMemberSession sampleRefresh "refresh" 2591299 w.store).2 = .ok response := by
  obtain ⟨w, hrun, ⟨session, user, device⟩, hload, hcurrent, hopen, hcreated, hlives⟩ :=
    Machine.run_of_exec (M := system) (fun _ _ => True)
      (fun w => ∃ row ∈ w.store.loadSession 4,
        row.1.currentRefreshVerifier = ⟨.credential .refresh, sampleRefresh.refreshCredential⟩ ∧
        row.1.revokedAt = none ∧ row.2.2.createdAt ≤ 2591299 ∧
        2591299 + accessTokenLifetimeSeconds < row.1.expiresAt)
      (sampleCalls.take 3) ⟨9, rfl⟩ (by decide +kernel)
  obtain ⟨response, hok⟩ := (refresh_succeeds hrun hload (by decide +kernel) hcurrent hopen
    "refresh").2 ⟨hcreated, hlives⟩
  exact ⟨w, response, hrun, hok⟩

/-- In the last quarter of an hour of a session a refresh fails. -/
theorem late_refresh_fails : ∃ w, system.Reachable w ∧ ∃ row ∈ w.store.loadSession 4,
    row.1.currentRefreshVerifier = ⟨.credential .refresh, sampleRefresh.refreshCredential⟩ ∧
    row.1.revokedAt = none ∧ row.2.1.status = .active ∧ row.2.2.status = .active ∧
    2591300 < row.1.expiresAt ∧
    (refreshMemberSession sampleRefresh "late" 2591300 w.store).2 = .error .sqlite :=
  Machine.run_of_exec (M := system) (fun _ _ => True) _ (sampleCalls.take 3) ⟨9, rfl⟩
    (by decide +kernel)

/-! ### Sessions over time -/

/-- A session keeps its account, its device and its expiry, account and device exist, its generation
never decreases, and it stays revoked; while its account is blocked it is revoked. -/
theorem sessions_stay_owned {w w' : World} (h : system.Reachable w)
    (hsteps : system.Steps (fun _ _ => True) w w') {id : SessionId} {session : Session}
    (hfind : w.store.sessions.find id = some session) :
    ∃ later user device, w'.store.sessions.find id = some later ∧
      w'.store.users.find session.userId = some user ∧
      w'.store.devices.find session.deviceId = some device ∧ device.userId = session.userId ∧
      later.userId = session.userId ∧ later.deviceId = session.deviceId ∧
      later.expiresAt = session.expiresAt ∧ session.generation ≤ later.generation ∧
      (session.revokedAt ≠ none ∨ user.status ≠ .active → later.revokedAt ≠ none) := by
  obtain ⟨hinv, hlat⟩ := later_of_steps (inv_of_reachable h) hsteps
  obtain ⟨later, hlfind, hages⟩ := hlat.sessions id session hfind
  obtain ⟨⟨user, huser⟩, device, hdev, hown⟩ := hinv.joined id later hlfind
  have hblocked := hinv.blocked id later user hlfind huser
  rw [hages.userId] at huser hown
  rw [hages.deviceId] at hdev
  refine ⟨later, user, device, hlfind, huser, hdev, hown, hages.userId, hages.deviceId,
    hages.expiresAt, hages.generation, ?_⟩
  rintro (hrev | hstat)
  · exact hages.revoked hrev
  · exact hblocked hstat

/-- The session of the sample calls is refreshed and ended. -/
theorem sample_session_owned : ∃ w v session later, system.Reachable w ∧
    system.Steps (fun _ _ => True) w v ∧ w.store.sessions.find 4 = some session ∧
    v.store.sessions.find 4 = some later ∧ later.revokedAt ≠ none ∧
    later.userId = session.userId ∧ session.generation ≤ later.generation := by
  obtain ⟨w, v, hrun, hsteps, hfind, hrev⟩ := Machine.runs_of_exec (M := system) (fun _ _ => True)
    (fun w => (w.store.sessions.find 4).isSome)
    (fun v => ∀ later ∈ v.store.sessions.find 4, later.revokedAt ≠ none) (sampleCalls.take 3)
    (sampleCalls.drop 3 ++ [.logoutMember sampleMember 3 400]) ⟨9, rfl⟩ (by decide +kernel)
  obtain ⟨session, hses⟩ := Option.isSome_iff_exists.1 hfind
  obtain ⟨later, user, device, hlfind, -, -, -, hown, -, -, hgen, -⟩ :=
    sessions_stay_owned hrun hsteps hses
  exact ⟨w, v, session, later, hrun, hsteps, hses, hlfind, hrev later hlfind, hown, hgen⟩

end RealityConsole.MemberSessions
