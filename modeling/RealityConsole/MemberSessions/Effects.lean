import RealityConsole.MemberSessions.Model

/-!
# What a call does to the sessions

There are three ways in which the tables change: some sessions are revoked (none,
for a call that leaves them alone), one session is opened, or one session is
rotated. Each operation is shown to do one of them; everything later is derived
from these three.
-/

namespace RealityConsole.MemberSessions

open Framework Protocol Controller Controller.SessionStore

/-! ### Rows that stay -/

/-- No account and no device is removed, and a device stays with its user. -/
structure KeepsRows (s t : SessionStore) : Prop where
  users : ∀ id user, s.users.find id = some user → ∃ user', t.users.find id = some user'
  devices : ∀ id device, s.devices.find id = some device →
    ∃ device', t.devices.find id = some device' ∧ device'.userId = device.userId

theorem keepsRows_of_eq {s t : SessionStore} (husr : t.users = s.users)
    (hdevices : t.devices = s.devices) : KeepsRows s t where
  users _ user h := ⟨user, husr ▸ h⟩
  devices _ device h := ⟨device, hdevices ▸ h, rfl⟩

theorem KeepsRows.trans {s t u : SessionStore} (h : KeepsRows s t) (h' : KeepsRows t u) :
    KeepsRows s u where
  users id user hfind := by
    obtain ⟨user', hfind'⟩ := h.users id user hfind
    exact h'.users id user' hfind'
  devices id device hfind := by
    obtain ⟨device', hfind', huser⟩ := h.devices id device hfind
    obtain ⟨device'', hfind'', huser'⟩ := h'.devices id device' hfind'
    exact ⟨device'', hfind'', huser'.trans huser⟩

/-- The account and the device of the session are active, and the account still has the version of
credentials that the session was opened with. -/
structure Standing (s : SessionStore) (session : Session) : Prop where
  user : ∃ user, s.users.find session.userId = some user ∧ user.status = .active ∧
    session.credentialVersion = user.credentialVersion
  device : ∃ device, s.devices.find session.deviceId = some device ∧
    device.userId = session.userId ∧ device.status = .active

/-! ### Revocation -/

/-- Sessions that meet the condition are revoked, and nothing else happens. An open session that is
not among them keeps its standing. -/
structure Revokes (s t : SessionStore) (p : SessionId → Session → Bool) : Prop where
  rows : KeepsRows s t
  network : t.network = s.network
  sessions : ∃ now reason, ∀ id, t.sessions.find id
    = (s.sessions.find id).map fun session =>
        if p id session then revoked now reason session else session
  logins : t.logins = s.logins
  refreshes : t.refreshes = s.refreshes
  used : ∀ id activation spent, s.activations.find id = some activation →
    activation.consumed = some spent → t.activations.find id = some activation
  standing : ∀ id session, Standing s session → session.revokedAt = none →
    p id session = false → Standing t session

def Quiet (s t : SessionStore) : Prop := Revokes s t fun _ _ => false

theorem quiet_of_eq {s t : SessionStore} (hrows : KeepsRows s t) (hnet : t.network = s.network)
    (hsess : t.sessions = s.sessions) (hlogins : t.logins = s.logins)
    (hrefr : t.refreshes = s.refreshes)
    (hused : ∀ id activation spent, s.activations.find id = some activation →
      activation.consumed = some spent → t.activations.find id = some activation)
    (hstanding : ∀ session, Standing s session → Standing t session) : Quiet s t where
  rows := hrows
  network := hnet
  sessions := ⟨0, "", fun id => by rw [hsess]; simp⟩
  logins := hlogins
  refreshes := hrefr
  used := hused
  standing _ session h _ _ := hstanding session h

theorem quiet_refl (s : SessionStore) : Quiet s s :=
  quiet_of_eq (keepsRows_of_eq rfl rfl) rfl rfl rfl rfl (fun _ _ _ h _ => h) fun _ h => h

/-- Revoking sessions, with changes under which all keep their standing. -/
theorem revokes_revokeWhere {s u : SessionStore} (h : Quiet s u)
    (p : SessionId → Session → Bool) (now : Nat) (reason : String) :
    Revokes s (u.revokeWhere p now reason) p := { h with
  rows := ⟨h.rows.users, h.rows.devices⟩
  sessions := by
    obtain ⟨_, _, hsess⟩ := h.sessions
    refine ⟨now, reason, fun id => ?_⟩
    rw [find_revokeWhere, hsess]
    simp
  standing id session hold hopen _ := by
    obtain ⟨huser, hdevice⟩ := h.standing id session hold hopen rfl
    exact ⟨huser, hdevice⟩ }

variable {f : User → User}

theorem keepsRows_updateUser {s t : SessionStore} {userId : UserId} {now : Nat}
    (h : s.updateUser userId now f = .ok t) : KeepsRows s t := by
  obtain ⟨_, h⟩ := rest_ok h
  cases h
  refine ⟨fun id user hfind => ?_, fun _ device hfind => ⟨device, hfind, rfl⟩⟩
  rw [Table.find_updateAt, hfind]
  by_cases hid : id = userId
  · exact ⟨f user, by rw [if_pos hid]; rfl⟩
  · exact ⟨user, by rw [if_neg hid]⟩

theorem quiet_updateUser {s t : SessionStore} {userId : UserId} {now : Nat}
    (h : s.updateUser userId now f = .ok t)
    (hf : ∀ user, user.status = .active → f user = user) : Quiet s t := by
  have hrows := keepsRows_updateUser h
  obtain ⟨_, h⟩ := rest_ok h
  cases h
  refine quiet_of_eq hrows rfl rfl rfl rfl (fun _ _ _ h _ => h) fun session hold => ?_
  obtain ⟨⟨user, hfind, hactive, hversion⟩, hdevice⟩ := hold
  refine ⟨⟨user, ?_, hactive, hversion⟩, hdevice⟩
  rw [Table.find_updateAt, hfind]
  split
  · exact congrArg some (hf user hactive)
  · rfl

theorem revokes_of_blocked {s u : SessionStore} {userId : UserId} {now : Nat}
    {reason : String} (h : s.updateUser userId now f = .ok u) :
    Revokes s (u.revokeUserSessions userId now reason).1 (openSessionOf userId) := by
  have hrows := keepsRows_updateUser h
  obtain ⟨_, h⟩ := rest_ok h
  cases h
  refine ⟨⟨hrows.users, hrows.devices⟩, rfl, ⟨now, reason, fun id => ?_⟩, rfl, rfl,
    fun _ _ _ h _ => h, ?_⟩
  · exact find_revokeWhere _ (openSessionOf userId) now reason id
  · intro id session hold hopen hkept
    obtain ⟨⟨user, hfind, hactive, hversion⟩, hdevice⟩ := hold
    have hother : session.userId ≠ userId := by simpa [openSessionOf, hopen] using hkept
    refine ⟨⟨user, ?_, hactive, hversion⟩, hdevice⟩
    exact (Table.find_updateAt ..).trans ((if_neg hother).trans hfind)

/-- Changes to devices that keep each with its user, and change none of an open session. -/
theorem Revokes.updateDevices {s u : SessionStore} {p : SessionId → Session → Bool}
    (h : Revokes s u p) {f : DeviceId → Device → Device}
    (hf : ∀ id device, (f id device).userId = device.userId)
    (hopen : ∀ id session device, session.revokedAt = none → p id session = false →
      device.userId = session.userId → f session.deviceId device = device) :
    Revokes s { u with devices := u.devices.update f } p := by
  refine { h with
    rows := ⟨h.rows.users, fun id device hfind => ?_⟩
    standing := fun id session hold hnone hkept => ?_ }
  · obtain ⟨device', hfind', huser⟩ := h.rows.devices id device hfind
    refine ⟨f id device', (Table.find_update id f u.devices).trans ?_, (hf id device').trans huser⟩
    rw [hfind']
    rfl
  · obtain ⟨huser, device, hfind, hown, hactive⟩ := h.standing id session hold hnone hkept
    refine ⟨huser, device, (Table.find_update session.deviceId f u.devices).trans ?_, hown, hactive⟩
    rw [hfind]
    exact congrArg some (hopen id session device hnone hkept hown)

/-! ### Opening and rotation -/

structure Opens (s t : SessionStore) (opening : Opening) (key : IdempotencyKey)
    (sessionId : SessionId) (response : CreateDeviceSessionResponse) : Prop where
  rows : KeepsRows s t
  standing : ∀ session, Standing s session → Standing t session
  network : t.network = s.network
  users : t.users = s.users
  refreshes : t.refreshes = s.refreshes
  /-- The session is new, and the account is not blocked. -/
  row : ∃ userId user now accessExpiresAt refreshExpiresAt,
    s.users.find userId = some user ∧ user.status = .active ∧
    (∃ device, t.devices.find response.deviceId = some device ∧ device.userId = userId ∧
      device.status = .active) ∧
    checkedAdd now accessTokenLifetimeSeconds = .ok accessExpiresAt ∧
    deriveInitialCredentials s.network sessionId response.deviceId opening now accessExpiresAt
      refreshExpiresAt = .ok response.credentials ∧
    response.activationId = opening.activationId ∧
    s.sessions.find sessionId = none ∧
    t.sessions = s.sessions.insert sessionId (openedSession userId response.deviceId
      response.credentials user.credentialVersion now accessExpiresAt refreshExpiresAt) ∧
    match opening with
    | .login request => t.activations = s.activations ∧ s.logins.find key = none ∧
        t.logins = s.logins.insert key
          ⟨request, userId, response.deviceId, sessionId, response.account⟩
    | .activation id request => t.logins = s.logins ∧ ∃ activation,
        s.activations.find id = some activation ∧ activation.consumed = none ∧
        activation.userId = userId ∧
        t.activations = s.activations.updateAt id
          (Activation.consume ⟨now, response.deviceId, request, sessionId, response.account⟩)

/-- A session moves to its next generation, and the refresh is recorded. -/
structure Rotates (s t : SessionStore) (sessionId : SessionId) (key : IdempotencyKey)
    (request : RefreshSessionRequest) (response : RefreshSessionResponse) : Prop where
  network : t.network = s.network
  users : t.users = s.users
  devices : t.devices = s.devices
  logins : t.logins = s.logins
  activations : t.activations = s.activations
  row : ∃ session now accessExpiresAt,
    s.sessions.find sessionId = some session ∧ session.revokedAt = none ∧
    session.currentRefreshVerifier = ⟨.credential .refresh, request.refreshCredential⟩ ∧
    deriveRefreshCredentials s.network sessionId session.deviceId session.generation key request
      now accessExpiresAt session.expiresAt = .ok response.credentials ∧
    t.sessions = s.sessions.updateAt sessionId (fun session =>
      rotatedSession session response.credentials accessExpiresAt now) ∧
    t.refreshes = s.refreshes.insert (sessionId, session.generation, key)
      ⟨request, response.account, now, accessExpiresAt, session.expiresAt⟩

/-! ### Login and activation -/

section Opening

variable {s t : SessionStore} {userId : UserId} {deviceId : DeviceId} {sessionId : SessionId}
  {opening : Opening} {now : Nat} {origin : String} {key : IdempotencyKey}

theorem insertDevice_ok {enrollment : DeviceEnrollment}
    (h : s.insertDevice userId deviceId enrollment now = .ok t) :
    ∃ device, device.userId = userId ∧ device.status = .active ∧
      s.devices.find deviceId = none ∧
      t = { s with devices := s.devices.insert deviceId device } := by
  obtain ⟨_, hfresh, h⟩ := bind_ok.1 h
  rw [refuse_ok, not_or] at hfresh
  exact ⟨_, rfl, rfl, by simpa using hfresh.1, (Except.ok.inj h).symm⟩

theorem keepsRows_insertDevice {device : Device} (hfresh : s.devices.find deviceId = none)
    (husr : t.users = s.users) (hdevices : t.devices = s.devices.insert deviceId device) :
    KeepsRows s t where
  users _ user h := ⟨user, husr ▸ h⟩
  devices id old h := by exact ⟨old, by rw [hdevices, Table.find_insert_of_find hfresh h], rfl⟩

theorem standing_insertDevice {device : Device} (hfresh : s.devices.find deviceId = none)
    (husers : t.users = s.users) (hdevices : t.devices = s.devices.insert deviceId device)
    (session : Session) (h : Standing s session) : Standing t session := by
  obtain ⟨⟨user, huser, hrest⟩, old, hold, hown⟩ := h
  exact ⟨⟨user, husers ▸ huser, hrest⟩, old,
    by rw [hdevices, Table.find_insert_of_find hfresh hold], hown⟩

theorem insertSession_ok {session : Session} (h : s.insertSession sessionId session = .ok t) :
    s.sessions.find sessionId = none ∧
      t = { s with sessions := s.sessions.insert sessionId session } := by
  obtain ⟨_, hfresh, h⟩ := bind_ok.1 h
  rw [refuse_ok, not_or] at hfresh
  exact ⟨by simpa using hfresh.1, (Except.ok.inj h).symm⟩

theorem issueInitialSession_ok {resp : CreateDeviceSessionResponse}
    (h : s.issueInitialSession userId deviceId sessionId opening now = .ok (t, resp)) :
    ∃ user accessExpiresAt refreshExpiresAt, s.users.find userId = some user ∧
      checkedAdd now accessTokenLifetimeSeconds = .ok accessExpiresAt ∧
      deriveInitialCredentials s.network sessionId deviceId opening now accessExpiresAt
        refreshExpiresAt = .ok resp.credentials ∧
      resp.activationId = opening.activationId ∧ resp.deviceId = deviceId ∧
      s.sessions.find sessionId = none ∧ t = { s with
        sessions := s.sessions.insert sessionId (openedSession userId deviceId
          resp.credentials user.credentialVersion now accessExpiresAt refreshExpiresAt) } := by
  obtain ⟨accessExpiresAt, hacs, h⟩ := bind_ok.1 h
  obtain ⟨refreshExpiresAt, h⟩ := rest_ok h
  obtain ⟨creds, hcreds, h⟩ := bind_ok.1 h
  obtain ⟨user, huser, h⟩ := bind_ok.1 h
  obtain ⟨u, hins, h⟩ := bind_ok.1 h
  obtain ⟨account, h⟩ := rest_ok h
  cases h
  obtain ⟨hfresh, ht⟩ := insertSession_ok hins
  exact ⟨user, accessExpiresAt, refreshExpiresAt, required_ok.1 huser, hacs, hcreds,
    rfl, rfl, hfresh, ht⟩

theorem openMemberSession_ok {request : CreateSessionRequest}
    {r : Except SessionError CreateDeviceSessionResponse} (hkey : s.logins.find key = none)
    (h : s.openMemberSession userId origin request key deviceId sessionId now = .ok (t, r)) :
    ∃ response, r = .ok response ∧ Opens s t (.login request) key sessionId response := by
  obtain ⟨user, huser, h⟩ := bind_ok.1 h
  obtain ⟨_, hact, h⟩ := bind_ok.1 h
  obtain ⟨_, h⟩ := rest_ok h
  obtain ⟨_, h⟩ := rest_ok h
  obtain ⟨u, hdevice, h⟩ := bind_ok.1 h
  obtain ⟨⟨v, response⟩, hisu, h⟩ := bind_ok.1 h
  cases h
  obtain ⟨device, howner, hactive, hdevf, rfl⟩ := insertDevice_ok hdevice
  obtain ⟨issued, accessExpiresAt, refreshExpiresAt, hiss, hacs, hcreds, hid, hdev,
    hfresh, rfl⟩ := issueInitialSession_ok hisu
  have hsame : issued = user := Option.mem_unique hiss (required_ok.1 huser)
  subst hsame hdev
  refine ⟨response, rfl, keepsRows_insertDevice hdevf rfl rfl,
    standing_insertDevice hdevf rfl rfl, rfl, rfl, rfl, userId, issued, now, accessExpiresAt,
    refreshExpiresAt, hiss, by simpa using hact, ⟨device, ?_, howner, hactive⟩,
    hacs, hcreds, hid, hfresh, rfl, rfl, hkey, rfl⟩
  exact (Table.find_insert _ _ device s.devices).trans (if_pos rfl)

theorem useActivation_ok (key : IdempotencyKey) {request : ConsumeDeviceActivationRequest}
    {id : DeviceActivationId} {activation : Activation}
    {r : Except SessionError CreateDeviceSessionResponse}
    (hfind : s.activations.find id = some activation) (hnew : activation.consumed = none)
    (h : s.useActivation id activation.userId request deviceId sessionId now = .ok (t, r)) :
    ∃ response, r = .ok response ∧ Opens s t (.activation id request) key sessionId response := by
  obtain ⟨status, hstat, h⟩ := bind_ok.1 h
  obtain ⟨_, hact, h⟩ := bind_ok.1 h
  obtain ⟨u, hdevice, h⟩ := bind_ok.1 h
  obtain ⟨⟨v, response⟩, hisu, h⟩ := bind_ok.1 h
  cases h
  obtain ⟨device, howner, hactive, hdevf, rfl⟩ := insertDevice_ok hdevice
  obtain ⟨issued, accessExpiresAt, refreshExpiresAt, hiss, hacs, hcreds, hid, hdev,
    hfresh, rfl⟩ := issueInitialSession_ok hisu
  obtain ⟨user, huser, hstat⟩ := bind_ok.1 hstat
  have hsame : issued = user := Option.mem_unique hiss (required_ok.1 huser)
  cases hstat
  subst hsame hdev
  refine ⟨response, rfl, keepsRows_insertDevice hdevf rfl rfl,
    standing_insertDevice hdevf rfl rfl, rfl, rfl, rfl, activation.userId, issued, now,
    accessExpiresAt, refreshExpiresAt, hiss, by simpa using hact, ⟨device, ?_, howner, hactive⟩,
    hacs, hcreds, hid, hfresh, rfl, rfl, activation, hfind, hnew, rfl, rfl⟩
  exact (Table.find_insert _ _ device s.devices).trans (if_pos rfl)

end Opening

/-! ### Refresh -/

section Refresh

variable {s t : SessionStore} {id : SessionId} {session : Session} {user : User} {device : Device}
  {key : IdempotencyKey} {request : RefreshSessionRequest} {source now : Nat}
  {r : Except SessionError RefreshSessionResponse}

theorem loadSession_eq (h : s.loadSession id = some (session, user, device)) :
    s.sessions.find id = some session ∧ s.users.find session.userId = some user ∧
      s.devices.find session.deviceId = some device ∧ device.userId = session.userId := by
  unfold loadSession at h
  split at h
  · cases h
  rename_i found hfound
  split at h
  · rename_i user' device' huser hdev
    split at h
    · rename_i hown
      obtain ⟨rfl, rfl, rfl⟩ := by simpa using h
      exact ⟨hfound, huser, hdev, hown⟩
    · cases h
  · cases h

theorem sourceGeneration_eq {verifier : Verifier}
    (h : sourceGeneration session verifier = some source) :
    (session.currentRefreshVerifier = verifier ∧ source = session.generation) ∨
      (session.previousRefreshVerifier = some verifier ∧ source + 1 = session.generation) := by
  unfold sourceGeneration at h
  by_cases hcur : session.currentRefreshVerifier = verifier
  · rw [if_pos hcur] at h
    exact .inl ⟨hcur, (Option.some.inj h).symm⟩
  rw [if_neg hcur] at h
  split at h
  · rename_i hprev
    have hsource := Option.some.inj h
    exact .inr ⟨hprev.1, by omega⟩
  · cases h

theorem rotateSession_ok (hfind : s.sessions.find id = some session)
    (hsource : sourceGeneration session ⟨.credential .refresh, request.refreshCredential⟩
      = some source)
    (h : s.rotateSession id session user device source key request now = .ok (t, r)) :
    ∃ response, r = .ok response ∧ Rotates s t id key request response := by
  obtain ⟨_, hcheck, h⟩ := bind_ok.1 h
  obtain ⟨accessExpiresAt, h⟩ := rest_ok h
  obtain ⟨account, h⟩ := rest_ok h
  obtain ⟨creds, hcreds, h⟩ := bind_ok.1 h
  obtain ⟨_, h⟩ := rest_ok h
  cases h
  simp only [refuse_ok, not_or, not_not] at hcheck
  obtain ⟨hcur, hopen, _⟩ := hcheck
  -- The current credential was presented, so the source is the current generation.
  have hgen : source = session.generation := by
    unfold sourceGeneration at hsource
    rw [if_pos hcur] at hsource
    exact (Option.some.inj hsource).symm
  subst hgen
  exact ⟨_, rfl, rfl, rfl, rfl, rfl, rfl, session, now, accessExpiresAt, hfind,
    by simpa using hopen, hcur, hcreds, rfl, rfl⟩

inductive RefreshOutcome (s t : SessionStore) (request : RefreshSessionRequest)
    (key : IdempotencyKey) (id : SessionId) (session : Session) (source : Nat)
    (r : Except SessionError RefreshSessionResponse) : Prop
  /-- The refresh was recorded, and its answer is given again. -/
  | replayed (record : RefreshRecord)
      (hrecord : s.refreshes.find (id, source, key) = some record)
      (h : s.replayRefresh id session source key request record = .ok (t, r))
  /-- The previous credential came with a new key. -/
  | reused (now : Nat) (hrecord : s.refreshes.find (id, source, key) = none)
      (hprevious : session.previousRefreshVerifier
        = some ⟨.credential .refresh, request.refreshCredential⟩)
      (ht : t = s.revokeWhere (fun other _ => other = id) now "refresh-reuse")
      (hr : r = .error .refreshCredentialReused)
  | rotated (response : RefreshSessionResponse)
      (hrecord : s.refreshes.find (id, source, key) = none)
      (hr : r = .ok response) (h : Rotates s t id key request response)

theorem refreshMemberSession_eq (h : refreshMemberSession request key now s = (t, r)) :
    (t = s ∧ ∃ e, r = .error e) ∨ ∃ id session user device source, request.validate = .ok () ∧
      request.refreshCredential.parsePrefixedId "rcr1" = some id ∧
      s.loadSession id = some (session, user, device) ∧
      sourceGeneration session ⟨.credential .refresh, request.refreshCredential⟩ = some source ∧
      RefreshOutcome s t request key id session source r := by
  refine (Fallible.transaction_eq h).imp_right fun h => ?_
  obtain ⟨_, hval, h⟩ := bind_ok.1 h
  obtain ⟨id, hid, h⟩ := bind_ok.1 h
  obtain ⟨⟨session, user, device⟩, hload, h⟩ := bind_ok.1 h
  obtain ⟨source, hsource, h⟩ := bind_ok.1 h
  rw [required_ok] at hid hload hsource
  rw [mapError_ok] at hval
  refine ⟨id, session, user, device, source, hval, hid, hload, hsource, ?_⟩
  unfold answerRefresh at h
  split at h
  · rename_i record hrec
    exact .replayed record hrec h
  rename_i hrec
  split at h
  · rename_i hprev
    cases h
    exact .reused now hrec hprev rfl rfl
  · obtain ⟨resp, hr, hrotates⟩ := rotateSession_ok (loadSession_eq hload).1 hsource h
    exact .rotated resp hrec hr hrotates

theorem replayRefresh_ok {record : RefreshRecord}
    (h : s.replayRefresh id session source key request record = .ok (t, r)) :
    t = s ∧ record.request = request ∧ ∃ credentials, r = .ok ⟨record.account, credentials⟩ ∧
      deriveRefreshCredentials s.network id session.deviceId source key request record.issuedAt
        record.accessExpiresAt record.refreshExpiresAt = .ok credentials := by
  obtain ⟨_, hreq, h⟩ := bind_ok.1 h
  obtain ⟨credentials, hcreds, h⟩ := bind_ok.1 h
  cases h
  exact ⟨rfl, by simpa using hreq, credentials, rfl, hcreds⟩

end Refresh

/-! ### Calls that leave the sessions alone -/

section Quiet

variable {s t : SessionStore} {userId : UserId} {now : Nat} {key : IdempotencyKey}

theorem createAccount_quiet {displayName : String} {r : Except SessionError AccountMetadata}
    (h : createAccount userId displayName now s = (t, r)) : Quiet s t := by
  rcases Fallible.transaction_eq h with ⟨rfl, _⟩ | h
  · exact quiet_refl t
  obtain ⟨_, h⟩ := rest_ok h
  obtain ⟨_, hfresh, h⟩ := bind_ok.1 h
  cases h
  rw [refuse_ok] at hfresh
  refine quiet_of_eq ⟨fun id user hfind => ?_, fun _ device hfind => ⟨device, hfind, rfl⟩⟩
    rfl rfl rfl rfl (fun _ _ _ h _ => h) fun session hold => ?_
  · exact ⟨user, Table.find_insert_of_find (by simpa using hfresh) hfind⟩
  · obtain ⟨⟨user, huser, hrest⟩, hdevice⟩ := hold
    exact ⟨⟨user, Table.find_insert_of_find (by simpa using hfresh) huser, hrest⟩, hdevice⟩

theorem createDeviceActivation_quiet {request : CreateDeviceActivationRequest} {origin : String}
    {id : DeviceActivationId} {r : Except SessionError ActivationDelivery}
    (h : createDeviceActivation userId request origin key id now s = (t, r)) : Quiet s t := by
  rcases Fallible.transaction_eq h with ⟨rfl, _⟩ | h
  · exact quiet_refl t
  obtain ⟨_, h⟩ := rest_ok h
  obtain ⟨expiresAt, h⟩ := rest_ok h
  split at h
  · obtain ⟨_, h⟩ := rest_ok h
    obtain ⟨_, h⟩ := rest_ok h
    obtain ⟨_, h⟩ := rest_ok h
    cases h
    exact quiet_refl s
  · obtain ⟨user, h⟩ := rest_ok h
    obtain ⟨_, h⟩ := rest_ok h
    obtain ⟨_, hfresh, h⟩ := bind_ok.1 h
    obtain ⟨shown, h⟩ := rest_ok h
    cases h
    rw [refuse_ok] at hfresh
    refine quiet_of_eq (keepsRows_of_eq rfl rfl) rfl rfl rfl rfl
      (fun other activation spent hfind _ => ?_) fun _ h => ⟨h.user, h.device⟩
    exact Table.find_insert_of_find (by simpa using hfresh) hfind

theorem issueAccountResetToken_quiet {request : IssueAccountResetTokenRequest} {id : Uuid}
    {r : Except SessionError (Bearer × Nat)}
    (h : issueAccountResetToken userId request key id now s = (t, r)) : Quiet s t := by
  rcases Fallible.transaction_eq h with ⟨rfl, _⟩ | h
  · exact quiet_refl t
  obtain ⟨_, h⟩ := rest_ok h
  obtain ⟨expiresAt, h⟩ := rest_ok h
  split at h
  · obtain ⟨_, h⟩ := rest_ok h
    obtain ⟨_, h⟩ := rest_ok h
    obtain ⟨_, h⟩ := rest_ok h
    cases h
    exact quiet_refl s
  · obtain ⟨status, h⟩ := rest_ok h
    obtain ⟨_, h⟩ := rest_ok h
    obtain ⟨_, h⟩ := rest_ok h
    cases h
    exact quiet_of_eq (keepsRows_of_eq rfl rfl) rfl rfl rfl rfl (fun _ _ _ h _ => h)
      fun _ h => ⟨h.user, h.device⟩

/-- An access token is accepted exactly if it is the current one of an open session, of an active
account and device, before every expiry. -/
theorem authenticateMember_eq {raw : Bearer} {r : Except SessionError AuthenticatedMember}
    (h : authenticateMember raw now s = (t, r)) : t = s ∧ ∀ member, r = .ok member →
    ∃ session user device, raw.parsePrefixedId "rca1" = some member.sessionId ∧
    s.loadSession member.sessionId = some (session, user, device) ∧ session.deviceId =
    member.deviceId ∧ session.currentAccessVerifier = ⟨.credential .access, raw⟩ ∧
    session.revokedAt = none := by
  rcases Fallible.transaction_eq h with ⟨rfl, e, rfl⟩ | h
  · exact ⟨rfl, fun member hok => by cases hok⟩
  obtain ⟨id, hid, h⟩ := bind_ok.1 h
  obtain ⟨⟨session, user, device⟩, hload, h⟩ := bind_ok.1 h
  obtain ⟨_, hcheck, h⟩ := bind_ok.1 h
  obtain ⟨_, h⟩ := rest_ok h
  cases h
  rw [required_ok] at hid hload
  simp only [refuse_ok, not_or, not_not] at hcheck
  refine ⟨rfl, fun member hok => ?_⟩
  cases hok
  exact ⟨session, user, device, hid, hload, rfl, hcheck.1, by simpa using hcheck.2.2.2.1⟩

end Quiet

/-! ### Calls that revoke sessions -/

section Revoke

variable {s t : SessionStore} {userId : UserId} {now : Nat} {published : Bool}

theorem revokeMemberSession_eq {member : AuthenticatedMember} {path : DeviceId}
    {r : Except SessionError Unit} (h : revokeMemberSession member path now s = (t, r)) :
    (t = s ∧ ∃ e, r = .error e) ∨ Revokes s t fun id session =>
      id = member.sessionId ∧ session.deviceId = member.deviceId := by
  refine (Fallible.transaction_eq h).imp_right fun h => ?_
  obtain ⟨_, h⟩ := rest_ok h
  cases h
  exact revokes_revokeWhere (quiet_refl s) _ now "logout"

theorem revokeMemberDevice_eq {deviceId : DeviceId} {r : Except SessionError Unit}
    (h : revokeMemberDevice deviceId now published s = (t, r)) : (t = s ∧ ∃ e, r = .error e) ∨
    Revokes s t fun _ session => session.deviceId = deviceId ∧ session.revokedAt = none := by
  refine (Fallible.transaction_eq h).imp_right fun h => ?_
  obtain ⟨device, h⟩ := rest_ok h
  obtain ⟨_, h⟩ := rest_ok h
  cases h
  have hrev := revokes_revokeWhere (quiet_refl s) (fun _ session =>
    session.deviceId = deviceId ∧ session.revokedAt = none) now "device-revoked"
  refine hrev.updateDevices (f := fun id device =>
    if id = deviceId then { device with status := .revoked } else device) (fun id device => ?_)
    fun id session device hopen hkept _ => if_neg (by simpa [hopen] using hkept)
  split <;> rfl

theorem replacePassword_revokes {password reason : String} {count : Nat}
    (h : s.replacePassword userId password now reason = .ok (t, count)) :
    Revokes s t (openSessionOf userId) := by
  obtain ⟨u, hupd, h⟩ := bind_ok.1 h
  obtain rfl : (u.revokeUserSessions userId now reason).1 = t := congrArg Prod.fst (Except.ok.inj h)
  exact revokes_of_blocked hupd

theorem setAccountPassword_eq {request : SetAccountPasswordRequest} {r : Except SessionError Unit}
    (h : setAccountPassword userId request now published s = (t, r)) :
    (t = s ∧ ∃ e, r = .error e) ∨ Revokes s t (openSessionOf userId) := by
  refine (Fallible.transaction_eq h).imp_right fun h => ?_
  obtain ⟨_, h⟩ := rest_ok h
  obtain ⟨status, h⟩ := rest_ok h
  obtain ⟨_, h⟩ := rest_ok h
  obtain ⟨⟨u, count⟩, hreplace, h⟩ := bind_ok.1 h
  obtain ⟨_, h⟩ := rest_ok h
  cases h
  exact replacePassword_revokes hreplace

theorem resetAccountSessions_eq {r : Except SessionError ResetAccountSessionsResponse}
    (h : resetAccountSessions userId now published s = (t, r)) :
    (t = s ∧ ∃ e, r = .error e) ∨ Revokes s t (openSessionOf userId) := by
  refine (Fallible.transaction_eq h).imp_right fun h => ?_
  obtain ⟨status, h⟩ := rest_ok h
  obtain ⟨_, h⟩ := rest_ok h
  obtain ⟨u, hupd, h⟩ := bind_ok.1 h
  obtain ⟨_, h⟩ := rest_ok h
  cases h
  refine (revokes_of_blocked hupd).updateDevices (fun id device => ?_)
    fun id session device hopen hkept hown => if_neg ?_
  · split <;> rfl
  · rw [hown]
    simpa [openSessionOf, hopen] using hkept

/-- What the change of an account's status does; a status that the account already has changes
nothing. -/
theorem setAccountStatus_eq {requested : Protocol.AccountStatus}
    {r : Except SessionError AccountMetadata}
    (h : setAccountStatus userId requested now published s = (t, r)) : (t = s ∧ ∃ e, r = .error e) ∨
    (requested = .active ∧ Quiet s t) ∨ Revokes s t (openSessionOf userId) ∨
    (t = s ∧ ∃ user, s.users.find userId = some user ∧ user.status = requested) := by
  refine (Fallible.transaction_eq h).imp_right fun h => ?_
  obtain ⟨_, h⟩ := rest_ok h
  obtain ⟨cur, hcur, h⟩ := bind_ok.1 h
  obtain ⟨_, h⟩ := rest_ok h
  obtain ⟨u, hchange, h⟩ := bind_ok.1 h
  obtain ⟨_, h⟩ := rest_ok h
  obtain ⟨_, h⟩ := rest_ok h
  cases h
  obtain ⟨user, huser, hstat⟩ := bind_ok.1 hcur
  cases hstat
  unfold changeAccountStatus at hchange
  split at hchange
  · rename_i hsame
    exact .inr (.inr ⟨(Except.ok.inj hchange).symm, user, required_ok.1 huser, hsame⟩)
  cases requested with
  | active =>
    refine .inl ⟨rfl, quiet_updateUser hchange fun user hactive => if_neg ?_⟩
    rw [hactive]
    decide
  | disabled =>
    obtain ⟨v, hupd, hchange⟩ := bind_ok.1 hchange
    cases hchange
    exact .inr (.inl (revokes_of_blocked hupd))
  | deleted =>
    obtain ⟨v, hupd, hchange⟩ := bind_ok.1 hchange
    cases hchange
    exact .inr (.inl (revokes_of_blocked hupd))

theorem consumeAccountResetToken_eq {request : ConsumeAccountResetTokenRequest}
    {key : IdempotencyKey} {revs : Option (List Nat)}
    {r : Except SessionError AccountResetResponse}
    (h : consumeAccountResetToken request key now revs s = (t, r)) :
    (t = s ∧ ∃ e, r = .error e) ∨ ∃ id token, s.resetTokens.find? (fun entry =>
        entry.2.secretVerifier = ⟨.accountReset, request.resetToken⟩) = some (id, token) ∧
      ((t = s ∧ token.consumed ≠ none) ∨ Revokes s t (openSessionOf token.userId)) := by
  refine (Fallible.transaction_eq h).imp_right fun h => ?_
  obtain ⟨_, h⟩ := rest_ok h
  obtain ⟨⟨id, token⟩, htok, h⟩ := bind_ok.1 h
  refine ⟨id, token, required_ok.1 htok, ?_⟩
  dsimp only at h
  split at h
  · rename_i used hused
    obtain ⟨_, h⟩ := rest_ok h
    cases h
    exact .inl ⟨rfl, by simp [hused]⟩
  obtain ⟨_, h⟩ := rest_ok h
  obtain ⟨status, h⟩ := rest_ok h
  obtain ⟨_, h⟩ := rest_ok h
  obtain ⟨⟨u, count⟩, hreplace, h⟩ := bind_ok.1 h
  obtain ⟨_, h⟩ := rest_ok h
  obtain ⟨_, h⟩ := rest_ok h
  cases h
  have hrev := replacePassword_revokes hreplace
  refine .inr { hrev with
    rows := ⟨hrev.rows.users, hrev.rows.devices⟩
    standing := fun id session hold hopen hkept => ?_ }
  obtain ⟨huser, hdevice⟩ := hrev.standing id session hold hopen hkept
  exact ⟨huser, hdevice⟩

end Revoke

end RealityConsole.MemberSessions
