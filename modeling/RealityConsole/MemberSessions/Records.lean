import RealityConsole.MemberSessions.Effects

/-!
# What the tables keep

Whatever happens, a session keeps its owner, its device and its dates, its
generation does not go back and its revocation is not undone, and the records of
answers stay. So an answer that can be derived from the tables once can be derived
from them ever after.
-/

namespace RealityConsole.MemberSessions

open Framework Protocol Controller Controller.SessionStore

/-! ### Later tables -/

structure Ages (a b : Session) : Prop where
  userId : b.userId = a.userId
  deviceId : b.deviceId = a.deviceId
  createdAt : b.createdAt = a.createdAt
  expiresAt : b.expiresAt = a.expiresAt
  generation : a.generation ≤ b.generation
  previous : b.generation = a.generation → b.previousRefreshVerifier = a.previousRefreshVerifier
  revoked : a.revokedAt ≠ none → b.revokedAt ≠ none

theorem ages_refl (a : Session) : Ages a a := ⟨rfl, rfl, rfl, rfl, le_rfl, fun _ => rfl, id⟩

theorem Ages.trans {a b c : Session} (h : Ages a b) (h' : Ages b c) : Ages a c where
  userId := h'.userId.trans h.userId
  deviceId := h'.deviceId.trans h.deviceId
  createdAt := h'.createdAt.trans h.createdAt
  expiresAt := h'.expiresAt.trans h.expiresAt
  generation := h.generation.trans h'.generation
  previous hsame := by
    have hab := h.generation
    have hbc := h'.generation
    rw [h'.previous (by omega), h.previous (by omega)]
  revoked := h'.revoked ∘ h.revoked

structure Later (s t : SessionStore) : Prop where
  rows : KeepsRows s t
  network : t.network = s.network
  sessions : ∀ id a, s.sessions.find id = some a → ∃ b, t.sessions.find id = some b ∧ Ages a b
  logins : ∀ key record, s.logins.find key = some record → t.logins.find key = some record
  refreshes : ∀ key record, s.refreshes.find key = some record →
    t.refreshes.find key = some record
  used : ∀ id activation spent, s.activations.find id = some activation →
    activation.consumed = some spent → t.activations.find id = some activation

theorem later_refl (s : SessionStore) : Later s s :=
  ⟨keepsRows_of_eq rfl rfl, rfl, fun _ a h => ⟨a, h, ages_refl a⟩, fun _ _ h => h,
    fun _ _ h => h, fun _ _ _ h _ => h⟩

theorem Later.trans {s t u : SessionStore} (h : Later s t) (h' : Later t u) : Later s u where
  rows := h.rows.trans h'.rows
  network := h'.network.trans h.network
  sessions id a ha := by
    obtain ⟨b, hb, hab⟩ := h.sessions id a ha
    obtain ⟨c, hc, hbc⟩ := h'.sessions id b hb
    exact ⟨c, hc, hab.trans hbc⟩
  logins key record hfind := h'.logins key record (h.logins key record hfind)
  refreshes key record hfind := h'.refreshes key record (h.refreshes key record hfind)
  used id activation spent hfind hspent :=
    h'.used id activation spent (h.used id activation spent hfind hspent) hspent

variable {s t : SessionStore}

theorem Revokes.later {p : SessionId → Session → Bool} (h : Revokes s t p) : Later s t where
  rows := h.rows
  network := h.network
  sessions id a ha := by
    obtain ⟨now, reason, hsess⟩ := h.sessions
    refine ⟨if p id a then SessionStore.revoked now reason a else a, by rw [hsess, ha]; rfl, ?_⟩
    split
    · exact ⟨rfl, rfl, rfl, rfl, le_rfl, fun _ => rfl, fun _ => by simp [SessionStore.revoked]⟩
    · exact ages_refl a
  logins _ _ hfind := h.logins ▸ hfind
  refreshes _ _ hfind := h.refreshes ▸ hfind
  used := h.used

variable {key : IdempotencyKey} {response : CreateDeviceSessionResponse} {sessionId : SessionId}
  {opening : Opening}

theorem Opens.later (h : Opens s t opening key sessionId response) : Later s t := by
  obtain ⟨userId, user, now, access, refresh, _, _, _, _, _, _, hfresh, hsess, hrec⟩ := h.row
  refine ⟨h.rows, h.network, fun id a ha => ⟨a, ?_, ages_refl a⟩, ?_, ?_, ?_⟩
  · rw [hsess]
    exact Table.find_insert_of_find hfresh ha
  · intro other record hfind
    cases opening with
    | login request =>
      rw [hrec.2.2]
      exact Table.find_insert_of_find hrec.2.1 hfind
    | activation id request => rwa [hrec.1]
  · intro other record hfind
    rwa [h.refreshes]
  · intro other activation spent hfind hspent
    cases opening with
    | login request => rwa [hrec.1]
    | activation id request =>
      obtain ⟨_, found, hfound, hnew, _, hactv⟩ := hrec
      rw [hactv, Table.find_updateAt, if_neg, hfind]
      -- The activation that opens the session had not been consumed.
      rintro rfl
      rw [Option.mem_unique hfound hfind, hspent] at hnew
      cases hnew

theorem Rotates.later {req : RefreshSessionRequest} {response : RefreshSessionResponse}
    (hnew : ∀ sess, s.sessions.find sessionId = some sess →
      s.refreshes.find (sessionId, sess.generation, key) = none)
    (h : Rotates s t sessionId key req response) : Later s t := by
  obtain ⟨sess, now, access, hfind, hopen, _, _, hsess, hrefr⟩ := h.row
  refine ⟨keepsRows_of_eq h.users h.devices, h.network, fun id a ha => ?_, ?_, ?_, ?_⟩
  · rw [hsess, Table.find_updateAt, ha]
    by_cases hid : id = sessionId
    · refine ⟨rotatedSession a response.credentials access now, by rw [if_pos hid]; rfl, ?_⟩
      exact ⟨rfl, rfl, rfl, rfl, Nat.le_succ _, fun hsame => absurd hsame (Nat.succ_ne_self _),
        fun hrevoked => hrevoked⟩
    · exact ⟨a, by rw [if_neg hid], ages_refl a⟩
  · intro other record hoth
    rwa [h.logins]
  · intro other record hoth
    rw [hrefr]
    exact Table.find_insert_of_find (hnew sess hfind) hoth
  · intro other activation spent hoth _
    rwa [h.activations]

/-! ### Recorded answers -/

structure Presents (store : SessionStore) (origin : String)
    (request : ConsumeDeviceActivationRequest) (id : DeviceActivationId)
    (activation : Activation) : Prop where
  valid : request.validate = .ok ()
  parsed : request.activationSecret.parsePrefixedId "rcd1" = some id
  found : store.activations.find id = some activation
  verifier : activation.secretVerifier = ⟨.activation, request.activationSecret⟩
  expiry : timestamp activation.expiresAt = .ok activation.expiresAt
  proof : request.device.verifyProof (DeviceEnrollment.activationProofTranscript id
    activation.expiresAt origin request.device) = true

/-- The answer of an exchange can be derived from the tables. -/
def Recorded (store : SessionStore) : Exchange → Prop
  | .activation origin request response => ∃ id activation spent,
      Presents store origin request id activation ∧ activation.consumed = some spent ∧
      spent.request = request ∧
      store.replayInitialSession activation.userId spent.deviceId spent.sessionId
        (.activation id request) spent.account = .ok response
  | .login request key response => request.validate = .ok () ∧
      (∃ userId, Uuid.parse request.account = some userId) ∧
      ∃ record, store.logins.find key = some record ∧ record.request = request ∧
        store.replayInitialSession record.userId record.deviceId record.sessionId
          (.login request) record.account = .ok response
  | .refresh request key response => request.validate = .ok () ∧
      ∃ id session source record, request.refreshCredential.parsePrefixedId "rcr1" = some id ∧
        request.refreshCredential.generation = some source ∧
        store.sessions.find id = some session ∧ source < session.generation ∧
        (session.generation = source + 1 → session.previousRefreshVerifier
          = some ⟨.credential .refresh, request.refreshCredential⟩) ∧
        store.refreshes.find (id, source, key) = some record ∧ record.request = request ∧
        response.account = record.account ∧
        deriveRefreshCredentials store.network id session.deviceId source key request
          record.issuedAt record.accessExpiresAt record.refreshExpiresAt
            = .ok response.credentials

variable {userId : UserId}

theorem replayInitialSession_later (h : Later s t) {did : DeviceId} {account : AccountMetadata}
    (hs : s.replayInitialSession userId did sessionId opening account = .ok response) :
    t.replayInitialSession userId did sessionId opening account = .ok response := by
  obtain ⟨sess, hfind, hs⟩ := bind_ok.1 hs
  obtain ⟨later, hlat, hage⟩ := h.sessions sessionId sess (required_ok.1 hfind)
  refine bind_ok.2 ⟨later, required_ok.2 hlat, ?_⟩
  rw [hage.userId, hage.deviceId, hage.createdAt, hage.expiresAt, h.network]
  exact hs

theorem Recorded.later (h : Later s t) {e : Exchange} (he : Recorded s e) : Recorded t e := by
  cases e with
  | activation origin request response =>
    obtain ⟨id, activation, spent, hpres, hspent, hreq, hreplay⟩ := he
    have hfound := h.used id activation spent hpres.found hspent
    exact ⟨id, activation, spent, { hpres with found := hfound }, hspent, hreq,
      replayInitialSession_later h hreplay⟩
  | login request key response =>
    obtain ⟨hval, hparse, record, hfind, hreq, hreplay⟩ := he
    exact ⟨hval, hparse, record, h.logins key record hfind, hreq,
      replayInitialSession_later h hreplay⟩
  | refresh request key response =>
    obtain ⟨hval, id, sess, src, record, hparse, hgen, hsess, hlt, hprev,
      hfind, hreq, hacct, hder⟩ := he
    obtain ⟨later, hlat, hage⟩ := h.sessions id sess hsess
    refine ⟨hval, id, later, src, record, hparse, hgen, hlat, lt_of_lt_of_le hlt hage.generation,
      fun hnext => ?_, h.refreshes _ record hfind, hreq, hacct, ?_⟩
    · -- The sess has not been rotated since.
      have hsame : later.generation = sess.generation := by
        have hle := hage.generation
        omega
      rw [hage.previous hsame]
      exact hprev (hsame.symm.trans hnext)
    · rw [h.network, hage.deviceId]
      exact hder

/-- The first credentials are derived again from the row of the session. -/
theorem replayInitialSession_opened {t : SessionStore} {table : Table SessionId Session}
    {version now accessExpiresAt refreshExpiresAt : Nat}
    (hsess : t.sessions = table.insert sessionId (openedSession userId response.deviceId
      response.credentials version now accessExpiresAt refreshExpiresAt))
    (hacs : checkedAdd now accessTokenLifetimeSeconds = .ok accessExpiresAt)
    (hder : deriveInitialCredentials t.network sessionId response.deviceId opening now
      accessExpiresAt refreshExpiresAt = .ok response.credentials)
    (hid : response.activationId = opening.activationId) :
    t.replayInitialSession userId response.deviceId sessionId opening response.account
      = .ok response := by
  have hfind := (congrArg (Table.find sessionId) hsess).trans (if_pos rfl)
  refine bind_ok.2 ⟨_, required_ok.2 hfind, ?_⟩
  refine bind_ok.2 ⟨(), refuse_ok.2 (by simp [openedSession]), ?_⟩
  refine bind_ok.2 ⟨accessExpiresAt, hacs, ?_⟩
  refine bind_ok.2 ⟨response.credentials, hder, ?_⟩
  rw [← hid]
  rfl

theorem Opens.recorded_login {req : CreateSessionRequest}
    (h : Opens s t (.login req) key sessionId response) (hval : req.validate = .ok ())
    (hparse : Uuid.parse req.account = some userId) : Recorded t (.login req key response) := by
  obtain ⟨owner, user, now, access, refresh, _, _, _, hacs, hder, hid, _, hsess, _, _,
    hlogins⟩ := h.row
  refine ⟨hval, ⟨userId, hparse⟩,
    ⟨req, owner, response.deviceId, sessionId, response.account⟩, ?_, rfl, ?_⟩
  · rw [hlogins, Table.find_insert, if_pos rfl]
  · exact replayInitialSession_opened hsess hacs (h.network ▸ hder) hid

theorem Opens.recorded_activation {origin : String}
    {req : ConsumeDeviceActivationRequest} {id : DeviceActivationId} {activation : Activation}
    (h : Opens s t (.activation id req) key sessionId response)
    (hpres : Presents s origin req id activation) :
    Recorded t (.activation origin req response) := by
  obtain ⟨owner, user, now, access, refresh, _, _, _, hacs, hder, hid, _, hsess, _,
    found, hfound, _, hown, hactv⟩ := h.row
  obtain rfl : found = activation := Option.mem_unique hfound hpres.found
  refine ⟨id, found.consume ⟨now, response.deviceId, req, sessionId, response.account⟩, _,
    { hpres with found := ?_ }, rfl, rfl, ?_⟩
  · rw [hactv, Table.find_updateAt, if_pos rfl, hfound]
    rfl
  · subst hown
    exact replayInitialSession_opened hsess hacs (h.network ▸ hder) hid

end RealityConsole.MemberSessions
