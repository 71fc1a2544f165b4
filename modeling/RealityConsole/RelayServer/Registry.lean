import Mathlib.Data.Char
import Mathlib.Data.List.Lex
import Mathlib.Data.List.Sort
import RealityConsole.RelayServer.Config

/-!
# The managed route registry

The relay reads a directory of signed route documents, checks every document and every pair of them,
and joins the routes with its static ones. One violation refuses the whole directory. Owner,
permission and link checks are left out. The fingerprint is the list of what is hashed.
-/

namespace RealityConsole.RelayServer

open Framework Protocol

variable (codec : RouteCodec)

/-- A file of the managed route directory. -/
structure RouteFile where
  name : String
  bytes : codec.Bytes

def maxRouteFileBytes : Nat := 65536

def routeFileSuffix : String := ".relay-route.json"

/-- `validate_file_name`: the grant that the file name names. -/
def validateFileName (name : String) : RelayResult RelayGrantId :=
  let stem := String.ofList (name.toList.take (name.length - routeFileSuffix.length))
  if stem ++ routeFileSuffix = name ∧ name.utf8ByteSize ≤ 255 then
    (Uuid.parse stem).elim (.error "managed_route_filename_invalid") .ok
  else .error "managed_route_filename_invalid"

/-- The name under which a grant's document is written. -/
def routeFileName (grantId : RelayGrantId) : String := grantId.text ++ routeFileSuffix

structure FileFingerprint where
  name : String
  bytes : codec.Bytes
  active : Bool

/-- The sets and lists that the loader fills. -/
structure Snapshot where
  fingerprint : List (FileFingerprint codec)
  routes : List RouteConfig
  routeGenerations : List (RelayRouteId × Nat)
  endpointIds : List EndpointId
  publicPorts : List Nat

def Snapshot.empty : Snapshot codec := ⟨[], [], [], [], []⟩

variable {codec}

/-- The text of a digest without its `sha256:` prefix. -/
def digestHex (digest : BitVec 256) : String := String.ofList (hexDigits 64 digest.toNat)

def routeOf (config : ManagedRoutesConfig) (signed : SignedRelayRoute) : RouteConfig where
  -- the grant is the registration identity, the logical route is not
  routeId := signed.header.grantId.text
  publicListen := ⟨config.publicListenIp, signed.header.publicPort⟩
  nodeTokenSha256 := digestHex signed.routeTokenSha256
  nodeCertSha256 := digestHex signed.clientCertificateSha256
  expiresAt := signed.header.expiresAt
  enabled := true
  maxConcurrentStreams := signed.header.limits.maxConcurrentStreams
  maxBytesPerSecond := signed.header.limits.maxBytesPerSecond
  maxBytesPerConnection := signed.header.limits.maxBytesPerConnection
  monthlyByteLimit := some signed.header.limits.monthlyByteLimit

def convertRoute (config : ManagedRoutesConfig) (signed : SignedRelayRoute) :
    RelayResult RouteConfig := do
  refuseWhen (signed.header.relayId ≠ config.relayId) "managed_route_relay_mismatch"
  refuseWhen (¬(config.publicPortStart ≤ signed.header.publicPort
      ∧ signed.header.publicPort ≤ config.publicPortEnd)) "managed_route_port_out_of_range"
  refuseWhen (¬signed.header.limits.Within config.ceilings) "managed_route_ceiling_exceeded"
  return routeOf config signed

/-- Parses the contents of a file. -/
def decodeDocument (bytes : codec.Bytes) : RelayResult SignedRelayRoute :=
  match codec.decode bytes with
  | none => .error "managed_route_json_invalid"
  | some signed => .ok signed

def readDocument (config : ManagedRoutesConfig) (file : RouteFile codec) :
    RelayResult SignedRelayRoute := do
  let fileGrantId ← validateFileName file.name
  refuseWhen (codec.size file.bytes = 0 ∨ maxRouteFileBytes < codec.size file.bytes)
    "managed_route_file_size_invalid"
  let signed ← decodeDocument file.bytes
  signed.validate.mapError fun _ => "managed_route_header_invalid"
  refuseWhen (signed.header.grantId ≠ fileGrantId) "managed_route_filename_grant_mismatch"
  refuseWhen (signed.signingKeyId ≠ ed25519SigningKeyId config.controllerPublicKey)
    "managed_route_key_id_mismatch"
  refuseWhen (¬signed.verify config.controllerPublicKey) "managed_route_signature_invalid"
  return signed

/-- The document is within its lifetime. -/
def isActive (now : Nat) (signed : SignedRelayRoute) : Bool :=
  signed.header.notBefore ≤ now && now < signed.header.expiresAt

namespace Snapshot

def addFingerprint (snapshot : Snapshot codec) (file : RouteFile codec) (active : Bool) :
    Snapshot codec :=
  { snapshot with fingerprint := snapshot.fingerprint ++ [⟨file.name, file.bytes, active⟩] }

def addRoute (snapshot : Snapshot codec) (signed : SignedRelayRoute) (route : RouteConfig) :
    Snapshot codec :=
  { snapshot with
    routes := snapshot.routes ++ [route]
    routeGenerations := (signed.header.routeId, signed.header.generation)
      :: snapshot.routeGenerations
    endpointIds := signed.header.endpointId :: snapshot.endpointIds
    publicPorts := signed.header.publicPort :: snapshot.publicPorts }

/-- An active document is checked against those before it. -/
def admitRoute (config : ManagedRoutesConfig) (snapshot : Snapshot codec)
    (signed : SignedRelayRoute) : RelayResult (Snapshot codec) := do
  refuseWhen ((signed.header.routeId, signed.header.generation) ∈ snapshot.routeGenerations)
    "managed_route_duplicate_generation"
  refuseWhen (signed.header.endpointId ∈ snapshot.endpointIds) "managed_route_duplicate_endpoint"
  let route ← convertRoute config signed
  refuseWhen (route.publicListen.port ∈ snapshot.publicPorts) "managed_route_duplicate_public_port"
  return snapshot.addRoute signed route

/-- The body of the loop of `load_managed_routes`. -/
def loadFile (config : ManagedRoutesConfig) (now : Nat) (snapshot : Snapshot codec)
    (file : RouteFile codec) : RelayResult (Snapshot codec) := do
  let signed ← readDocument config file
  if isActive now signed then (snapshot.addFingerprint file true).admitRoute config signed
  else return snapshot.addFingerprint file false

end Snapshot

def fileOrder (a b : RouteFile codec) : Prop := a.name.toList ≤ b.name.toList

instance : DecidableRel (@fileOrder codec) := fun a b =>
  inferInstanceAs (Decidable (a.name.toList ≤ b.name.toList))

def loadManagedRoutes (config : ManagedRoutesConfig) (maxRoutes now : Nat)
    (directory : List (RouteFile codec)) : RelayResult (Snapshot codec) := do
  refuseWhen (maxRoutes < directory.length) "managed_routes_count_exceeded"
  (directory.insertionSort fileOrder).foldlM (Snapshot.loadFile config now) (Snapshot.empty codec)

def validateStaticManagedListenerConflicts (staticRoutes managedRoutes : List RouteConfig) :
    RelayResult Unit :=
  refuseWhen (staticRoutes.any fun s => managedRoutes.any fun m =>
      s.publicListen.port = m.publicListen.port) "managed_route_static_listener_conflict"

/-- `load_effective_routes`: the routes the relay serves from now on. -/
def loadEffectiveRoutes (config : RelayConfig) (now : Nat) (directory : List (RouteFile codec)) :
    RelayResult (List RouteConfig × Option (List (FileFingerprint codec))) :=
  match config.managedRoutes with
  | none => .ok (config.routes, none)
  | some managed => do
    let snapshot ← loadManagedRoutes managed config.server.maxRoutes now directory
    validateStaticManagedListenerConflicts config.routes snapshot.routes
    config.validateRoutes (config.routes ++ snapshot.routes)
    return (config.routes ++ snapshot.routes, some snapshot.fingerprint)

/-! ### Honest documents -/

variable (codec) in
/-- The file that the controller writes for a document. -/
def fileOf (d : SignedRelayRoute) : RouteFile codec :=
  ⟨routeFileName d.header.grantId, codec.encode d⟩

theorem length_routeFileSuffix : routeFileSuffix.length = 17 := by decide

theorem length_routeFileName (gid : RelayGrantId) : (routeFileName gid).length = 53 := by
  rw [routeFileName, String.length_append, Uuid.length_text, length_routeFileSuffix]

theorem utf8ByteSize_routeFileName (gid : RelayGrantId) :
    (routeFileName gid).utf8ByteSize = 53 := by
  rw [← length_routeFileName gid]
  apply utf8ByteSize_eq_length
  intro c hc
  rw [routeFileName, String.toList_append, List.mem_append] at hc
  rcases hc with hid | hsuf
  · rcases Uuid.mem_text hid with hdig | hhyphen
    · exact toNat_lt_of_isHexDigit hdig
    · rw [hhyphen]
      decide
  · have hall : (routeFileSuffix.toList.all fun c => c.toNat < 128) = true := by decide
    exact of_decide_eq_true (List.all_eq_true.1 hall c hsuf)

theorem stem_routeFileName (gid : RelayGrantId) :
    String.ofList ((routeFileName gid).toList.take
      ((routeFileName gid).length - routeFileSuffix.length)) = gid.text := by
  have hlen : (routeFileName gid).length - routeFileSuffix.length
      = gid.text.toList.length := by
    rw [length_routeFileName, length_routeFileSuffix, String.length_toList, Uuid.length_text]
  rw [hlen, routeFileName, String.toList_append, List.take_left, String.ofList_toList]

theorem validateFileName_routeFileName (grantId : RelayGrantId) :
    validateFileName (routeFileName grantId) = .ok grantId := by
  have hname : grantId.text ++ routeFileSuffix = routeFileName grantId := by rw [routeFileName]
  have hsize : (routeFileName grantId).utf8ByteSize ≤ 255 := by
    rw [utf8ByteSize_routeFileName]
    decide
  simp only [validateFileName, stem_routeFileName]
  rw [if_pos ⟨hname, hsize⟩, Uuid.parse_text, Option.elim_some]

/-- A document that the relay reads without complaint. -/
structure Honest (codec : RouteCodec) (managed : ManagedRoutesConfig) (d : SignedRelayRoute) :
    Prop where
  valid : d.header.validate = .ok ()
  keyId : d.signingKeyId = ed25519SigningKeyId managed.controllerPublicKey
  signature : d.verify managed.controllerPublicKey = true
  size : codec.size (codec.encode d) ≤ maxRouteFileBytes
  relay : d.header.relayId = managed.relayId
  port : managed.publicPortStart ≤ d.header.publicPort
    ∧ d.header.publicPort ≤ managed.publicPortEnd
  limits : d.header.limits.Within managed.ceilings

variable {managed : ManagedRoutesConfig} {now : Nat}
  {d : SignedRelayRoute}

theorem readDocument_fileOf (hval : d.header.validate = .ok ())
    (hkeyId : d.signingKeyId = ed25519SigningKeyId managed.controllerPublicKey)
    (hsig : d.verify managed.controllerPublicKey)
    (hsize : codec.size (codec.encode d) ≤ maxRouteFileBytes) :
    readDocument managed (fileOf codec d) = .ok d := by
  have hfits : ¬(codec.size (codec.encode d) = 0
      ∨ maxRouteFileBytes < codec.size (codec.encode d)) := by
    have hpos := codec.size_encode_pos d
    omega
  have hdec : decodeDocument (codec.encode d) = .ok d := by
    simp only [decodeDocument, codec.decode_encode]
  simp only [readDocument, fileOf, validateFileName_routeFileName, ok_bind, check_ok,
    refuse_ok, hdec, mapError_ok]
  exact ⟨refuse_ok.2 hfits, hval, by simp, by simpa using hkeyId,
    by simpa using hsig, rfl⟩

theorem Honest.readDocument (h : Honest codec managed d) :
    readDocument managed (fileOf codec d) = .ok d :=
  readDocument_fileOf h.valid h.keyId h.signature h.size

theorem Honest.convertRoute (h : Honest codec managed d) :
    convertRoute managed d = .ok (routeOf managed d) := by
  simp only [RelayServer.convertRoute, check_ok, refuse_ok, not_not]
  exact ⟨h.relay, h.port, h.limits, rfl⟩

/-- The snapshot with one more honest, active document. -/
def Snapshot.add (managed : ManagedRoutesConfig) (snapshot : Snapshot codec)
    (d : SignedRelayRoute) : Snapshot codec :=
  (snapshot.addFingerprint (fileOf codec d) true).addRoute d (routeOf managed d)

variable {snapshot snapshot' : Snapshot codec}

/-- An honest, active document is admitted unless it shares its generation, its endpoint or its port
with one before it. -/
theorem Honest.loadFile_ok (h : Honest codec managed d) (hact : isActive now d) :
    snapshot.loadFile managed now (fileOf codec d) = .ok snapshot' ↔
      (d.header.routeId, d.header.generation) ∉ snapshot.routeGenerations
        ∧ d.header.endpointId ∉ snapshot.endpointIds ∧ d.header.publicPort ∉ snapshot.publicPorts
        ∧ snapshot.add managed d = snapshot' := by
  have hread : snapshot.loadFile managed now (fileOf codec d)
      = (snapshot.addFingerprint (fileOf codec d) true).admitRoute managed d := by
    simp only [Snapshot.loadFile, h.readDocument, ok_bind, hact, if_true]
  rw [hread]
  simp only [Snapshot.admitRoute, check_ok, h.convertRoute, ok_bind, refuse_ok]
  have hpure : ∀ s : Snapshot codec, (pure s : RelayResult (Snapshot codec)) = .ok snapshot'
      ↔ s = snapshot' := fun s => ⟨Except.ok.inj, congrArg _⟩
  rw [hpure]
  rfl

theorem foldlM_loadFile_ok {docs : List SignedRelayRoute}
    (hhonest : ∀ d ∈ docs, Honest codec managed d) (hact : ∀ d ∈ docs, isActive now d) :
    (docs.map (fileOf codec)).foldlM (Snapshot.loadFile managed now) snapshot = .ok snapshot' ↔
      Unseen snapshot.routeGenerations (docs.map fun d => (d.header.routeId, d.header.generation))
        ∧ Unseen snapshot.endpointIds (docs.map (·.header.endpointId))
        ∧ Unseen snapshot.publicPorts (docs.map (·.header.publicPort))
        ∧ docs.foldl (Snapshot.add managed) snapshot = snapshot' := by
  induction docs generalizing snapshot with
  | nil => simp [pure, Except.pure]
  | cons d docs ih =>
    have htail : ∀ s, List.foldlM (Snapshot.loadFile managed now) s (docs.map (fileOf codec))
        = .ok snapshot' ↔ _ := fun s =>
      ih (fun e he => hhonest e (List.mem_cons_of_mem d he))
        fun e he => hact e (List.mem_cons_of_mem d he)
    simp only [List.map_cons, List.foldlM_cons, bind_ok, htail, unseen_cons, List.foldl_cons,
      (hhonest d List.mem_cons_self).loadFile_ok (hact d List.mem_cons_self)]
    constructor
    · rintro ⟨_, ⟨hgen, hendp, hport, rfl⟩, hgens, hends, hports, hfold⟩
      exact ⟨⟨hgen, hgens⟩, ⟨hendp, hends⟩, ⟨hport, hports⟩, hfold⟩
    · rintro ⟨⟨hgen, hgens⟩, ⟨hendp, hends⟩, ⟨hport, hports⟩, hfold⟩
      exact ⟨_, ⟨hgen, hendp, hport, rfl⟩, hgens, hends, hports, hfold⟩

/-! ### Whole directories -/

/-- The documents in the order in which their files are read. -/
def byFileName (codec : RouteCodec) (docs : List SignedRelayRoute) : List SignedRelayRoute :=
  docs.insertionSort fun a b => fileOrder (fileOf codec a) (fileOf codec b)

theorem byFileName_perm (codec : RouteCodec) (docs : List SignedRelayRoute) :
    (byFileName codec docs).Perm docs :=
  List.perm_insertionSort _ docs

theorem insertionSort_map_fileOf (docs : List SignedRelayRoute) :
    (docs.map (fileOf codec)).insertionSort fileOrder
      = (byFileName codec docs).map (fileOf codec) :=
  (List.map_insertionSort _ _ (fileOf codec) docs fun _ _ _ _ => Iff.rfl).symm

theorem routes_foldl_add (docs : List SignedRelayRoute) (snapshot : Snapshot codec) :
    (docs.foldl (Snapshot.add managed) snapshot).routes
      = snapshot.routes ++ docs.map (routeOf managed) := by
  induction docs generalizing snapshot with
  | nil => simp
  | cons d docs ih =>
    rw [List.foldl_cons, ih, List.map_cons]
    simp [Snapshot.add, Snapshot.addRoute, Snapshot.addFingerprint]

theorem loadManagedRoutes_ok {docs : List SignedRelayRoute} {snapshot : Snapshot codec}
    {maxRoutes : Nat} (hcount : docs.length ≤ maxRoutes)
    (hhonest : ∀ d ∈ docs, Honest codec managed d) (hact : ∀ d ∈ docs, isActive now d) :
    loadManagedRoutes managed maxRoutes now (docs.map (fileOf codec)) = .ok snapshot ↔
    (docs.map fun d => (d.header.routeId, d.header.generation)).Nodup ∧
    (docs.map (·.header.endpointId)).Nodup ∧ (docs.map (·.header.publicPort)).Nodup ∧
    (byFileName codec docs).foldl (Snapshot.add managed) (Snapshot.empty codec) = snapshot := by
  have hperm := byFileName_perm codec docs
  have hnotmore : ¬maxRoutes < (docs.map (fileOf codec)).length := by
    rw [List.length_map]
    omega
  rw [loadManagedRoutes, check_ok, insertionSort_map_fileOf, foldlM_loadFile_ok (fun d hd => hhonest
    d (hperm.mem_iff.1 hd)) fun d hd => hact d (hperm.mem_iff.1 hd)]
  simp only [Snapshot.empty, unseen_nil_left, (hperm.map _).nodup_iff]
  exact and_iff_right (refuse_ok.2 hnotmore)

/-- The limits of the document cover one flow-control window of the relay. -/
def CoversWindow (config : RelayConfig) (d : SignedRelayRoute) : Prop :=
  config.server.initialWindowBytes ≤ d.header.limits.maxBytesPerSecond
    ∧ config.server.initialWindowBytes ≤ d.header.limits.maxBytesPerConnection
    ∧ config.server.initialWindowBytes ≤ d.header.limits.monthlyByteLimit

instance (config : RelayConfig) (d : SignedRelayRoute) : Decidable (CoversWindow config d) :=
  inferInstanceAs (Decidable (_ ∧ _))

theorem validateDigest_digestHex (name : String) (digest : BitVec 256) :
    validateDigest name (digestHex digest) = .ok () := by
  have hhex : ∀ c ∈ (digestHex digest).toList, isHexDigit c = true := by
    intro c hc
    rw [digestHex, String.toList_ofList] at hc
    exact isHexDigit_of_mem_hexDigits hc
  have hsize : (digestHex digest).utf8ByteSize = 64 := by
    rw [utf8ByteSize_eq_length fun c hc => toNat_lt_of_isHexDigit (hhex c hc), digestHex,
      String.length_ofList, length_hexDigits]
  refine refuse_ok.2 ?_
  rintro (hwrong | hbad)
  · exact hwrong hsize
  · exact hbad (List.all_eq_true.2 hhex)

theorem validateRouteId_text (gid : RelayGrantId) : validateRouteId gid.text = .ok () := by
  have hchars : ∀ c ∈ gid.text.toList, c.toNat < 128
      ∧ (isAlphanumeric c || c = '_' || c = '-') = true := by
    intro c hc
    rcases Uuid.mem_text hc with hdig | rfl
    · exact ⟨toNat_lt_of_isHexDigit hdig, by simp [isAlphanumeric_of_isHexDigit hdig]⟩
    · decide
  have hsize : gid.text.utf8ByteSize = 36 := by
    rw [utf8ByteSize_eq_length fun c hc => (hchars c hc).1, Uuid.length_text]
  refine refuse_ok.2 ?_
  rintro (hwrong | hbad)
  · exact hwrong (by omega)
  · exact hbad (List.all_eq_true.2 fun c hc => (hchars c hc).2)

theorem accepts_routeOf {config : RelayConfig}
    (hval : config.validate = .ok ()) (hman : config.managedRoutes = some managed)
    (hport : managed.publicPortStart ≤ d.header.publicPort
      ∧ d.header.publicPort ≤ managed.publicPortEnd)
    (hstreams : 0 < d.header.limits.maxConcurrentStreams) :
    config.Accepts (routeOf managed d) ↔ CoversWindow config d := by
  have hlimits : config.validateRouteLimits (routeOf managed d) = .ok () ↔
      CoversWindow config d := by
    rw [RelayConfig.validateRouteLimits, refuse_ok]
    simp only [routeOf, Option.any_some, decide_eq_true_eq, CoversWindow]
    omega
  constructor
  · intro h
    exact hlimits.1 h.limits
  · intro hwin
    refine ⟨?_, ?_, hlimits.2 hwin⟩
    · simp only [RelayConfig.validateRoute, check_ok]
      exact ⟨validateRouteId_text _, validateDigest_digestHex _ _, validateDigest_digestHex _ _⟩
    · have hservice := RelayConfig.service_ports_of_validate hval hman
      refine refuse_ok.2 ?_
      -- a managed listener is on a managed port, where the service has none
      rintro ⟨-, hservicePort⟩
      refine hservice (routeOf managed d).publicListen ?_ ⟨rfl, hport⟩
      simpa using hservicePort

theorem Honest.accepts {config : RelayConfig} (h : Honest codec managed d)
    (hval : config.validate = .ok ()) (hman : config.managedRoutes = some managed)
    (hwin : CoversWindow config d) : config.Accepts (routeOf managed d) := by
  have hstreams := RelayLimits.streams_pos_of_validate
    (RelayAssignmentHeader.limits_of_validate h.valid)
  exact (accepts_routeOf hval hman h.port hstreams).mpr hwin

/-- What the relay and the directory must have in common, apart from endpoints. -/
structure Fits (codec : RouteCodec) (config : RelayConfig) (managed : ManagedRoutesConfig)
    (docs : List SignedRelayRoute) : Prop where
  valid : config.validate = .ok ()
  registry : config.managedRoutes = some managed
  count : config.routes.length + docs.length ≤ config.server.maxRoutes
  honest : ∀ d ∈ docs, Honest codec managed d
  window : ∀ d ∈ docs, CoversWindow config d
  grants : (docs.map (·.header.grantId)).Nodup
  generations : (docs.map fun d => (d.header.routeId, d.header.generation)).Nodup
  ports : (docs.map (·.header.publicPort)).Nodup
  staticPorts : ∀ r ∈ config.routes, ∀ d ∈ docs, r.publicListen.port ≠ d.header.publicPort
  staticIds : ∀ r ∈ config.routes, ∀ d ∈ docs, r.routeId ≠ d.header.grantId.text

variable {config : RelayConfig} {docs : List SignedRelayRoute}

/-- The static and the managed routes together pass `validate_routes`. -/
theorem Fits.validateRoutes (h : Fits codec config managed docs) :
    config.validateRoutes (config.routes ++ (byFileName codec docs).map (routeOf managed))
      = .ok () := by
  have hperm := byFileName_perm codec docs
  have hmem : ∀ {d}, d ∈ byFileName codec docs → d ∈ docs := fun hd => hperm.mem_iff.1 hd
  have hstatic := RelayConfig.validateRoutes_ok.1 (RelayConfig.validateRoutes_of_validate h.valid)
  refine RelayConfig.validateRoutes_ok.2 ⟨?_, ?_, ?_, ?_⟩
  · rw [List.length_append, List.length_map, hperm.length_eq]
    exact h.count
  · intro r hr
    rcases List.mem_append.1 hr with hold | hnew
    · exact hstatic.2.1 r hold
    · obtain ⟨d, hd, rfl⟩ := List.mem_map.1 hnew
      exact (h.honest d (hmem hd)).accepts h.valid h.registry (h.window d (hmem hd))
  · -- identities: grant texts are as distinct as the grants
    rw [List.map_append, List.map_map]
    refine List.Nodup.append hstatic.2.2.1 ?_ ?_
    · have hids : ((byFileName codec docs).map (·.header.grantId)).Nodup :=
        (hperm.map _).nodup_iff.2 h.grants
      have htexts := hids.map Uuid.text_injective
      rwa [List.map_map] at htexts
    · intro id hold hnew
      obtain ⟨r, hr, rfl⟩ := List.mem_map.1 hold
      obtain ⟨d, hd, heq⟩ := List.mem_map.1 hnew
      exact h.staticIds r hr d (hmem hd) heq.symm
  · -- listeners: the managed ones differ in the port
    rw [List.map_append, List.map_map]
    refine List.Nodup.append hstatic.2.2.2 ?_ ?_
    · have hports : ((byFileName codec docs).map (·.header.publicPort)).Nodup :=
        (hperm.map _).nodup_iff.2 h.ports
      have hinjective : Function.Injective fun port => SocketAddr.mk managed.publicListenIp port :=
        fun a b hab => congrArg SocketAddr.port hab
      have hlisten := hports.map hinjective
      rwa [List.map_map] at hlisten
    · intro address hold hnew
      obtain ⟨r, hr, rfl⟩ := List.mem_map.1 hold
      obtain ⟨d, hd, heq⟩ := List.mem_map.1 hnew
      exact h.staticPorts r hr d (hmem hd) (congrArg SocketAddr.port heq).symm

theorem Fits.loadEffectiveRoutes_ok (h : Fits codec config managed docs)
    (hact : ∀ d ∈ docs, isActive now d) (hends : (docs.map (·.header.endpointId)).Nodup) :
    ∃ fingerprint, loadEffectiveRoutes config now (docs.map (fileOf codec)) =
    .ok (config.routes ++ (byFileName codec docs).map (routeOf managed), some fingerprint) := by
  have hcount : docs.length ≤ config.server.maxRoutes := by
    have hall := h.count
    omega
  have hload := (loadManagedRoutes_ok hcount h.honest hact).mpr ⟨h.generations, hends, h.ports, rfl⟩
  generalize hsnap : (byFileName codec docs).foldl (Snapshot.add managed)
    (Snapshot.empty codec) = snapshot at hload
  have hroutes : snapshot.routes = (byFileName codec docs).map (routeOf managed) := by
    rw [← hsnap, routes_foldl_add]
    rfl
  refine ⟨snapshot.fingerprint, ?_⟩
  simp only [loadEffectiveRoutes, h.registry, hload, ok_bind, hroutes, check_ok]
  refine ⟨refuse_ok.2 ?_, h.validateRoutes, rfl⟩
  intro hconflict
  obtain ⟨r, hr, hsome⟩ := List.any_eq_true.1 hconflict
  obtain ⟨m, hm, hport⟩ := List.any_eq_true.1 hsome
  obtain ⟨d, hd, rfl⟩ := List.mem_map.1 hm
  exact h.staticPorts r hr d ((byFileName_perm codec docs).mem_iff.1 hd) (of_decide_eq_true hport)

theorem Fits.endpoints_nodup (h : Fits codec config managed docs)
    (hact : ∀ d ∈ docs, isActive now d)
    {result : List RouteConfig × Option (List (FileFingerprint codec))}
    (hload : loadEffectiveRoutes config now (docs.map (fileOf codec)) = .ok result) :
    (docs.map (·.header.endpointId)).Nodup := by
  have hcount : docs.length ≤ config.server.maxRoutes := by
    have hall := h.count
    omega
  simp only [loadEffectiveRoutes, h.registry] at hload
  obtain ⟨snapshot, hsnap, -⟩ := bind_ok.1 hload
  exact ((loadManagedRoutes_ok hcount h.honest hact).mp hsnap).2.1

/-! ### What a load accepts -/

def FileFingerprint.file (f : FileFingerprint codec) : RouteFile codec := ⟨f.name, f.bytes⟩

def Snapshot.documents (s : Snapshot codec) : List SignedRelayRoute :=
  s.fingerprint.filterMap fun f => if f.active then codec.decode f.bytes else none

/-- A set that the loop fills holds what it has seen of the documents, each once. -/
def Seen {β : Type} (key : SignedRelayRoute → β) (docs : List SignedRelayRoute) (seen : List β) :
    Prop :=
  seen = (docs.map key).reverse ∧ seen.Nodup

section

variable {β : Type} {key : SignedRelayRoute → β} {seen : List β}

theorem Seen.add (h : Seen key docs seen) (hnew : key d ∉ seen) :
    Seen key (docs ++ [d]) (key d :: seen) := by
  refine ⟨?_, List.nodup_cons.2 ⟨hnew, h.2⟩⟩
  rw [h.1, List.map_append, List.reverse_append]
  rfl

theorem Seen.nodup (h : Seen key docs seen) : (docs.map key).Nodup :=
  List.nodup_reverse.1 (h.1 ▸ h.2)

end

/-- The file holds a document under the name of its grant. -/
structure Accepted (file : RouteFile codec) (d : SignedRelayRoute) : Prop where
  decoded : codec.decode file.bytes = some d
  name : routeFileName d.header.grantId = file.name
  size : codec.size file.bytes ≤ maxRouteFileBytes

/-- What the loop has made of some files. -/
structure Scanned (managed : ManagedRoutesConfig) (files : List (RouteFile codec))
    (s : Snapshot codec) : Prop where
  read : s.fingerprint.map (·.file) = files
  accepted : ∀ file ∈ files, ∃ d, Accepted file d
  routes : s.routes = s.documents.map (routeOf managed)
  generations : Seen (fun d => (d.header.routeId, d.header.generation)) s.documents
    s.routeGenerations
  endpoints : Seen (·.header.endpointId) s.documents s.endpointIds
  ports : Seen (·.header.publicPort) s.documents s.publicPorts
  limits : ∀ d ∈ s.documents, d.header.limits.Within managed.ceilings

variable {files : List (RouteFile codec)} {file : RouteFile codec} {s s' : Snapshot codec}

theorem routeFileName_of_validate {name : String} {gid : RelayGrantId}
    (h : validateFileName name = .ok gid) : routeFileName gid = name := by
  simp only [validateFileName] at h
  generalize String.ofList (name.toList.take _) = stem at h
  split at h
  · rename_i hname
    cases hparse : Uuid.parse stem with
    | none => simp [hparse] at h
    | some id =>
      cases hparse ▸ h
      rw [routeFileName, Uuid.text_of_parse hparse, hname.1]
  · cases h

theorem accepted_of_readDocument (h : readDocument managed file = .ok d) : Accepted file d := by
  obtain ⟨gid, hname, h⟩ := bind_ok.1 h
  obtain ⟨hsize, h⟩ := check_ok.1 h
  obtain ⟨signed, hdec, h⟩ := bind_ok.1 h
  simp only [check_ok, refuse_ok, not_not] at h hsize
  obtain ⟨-, hgrant, -, -, h⟩ := h
  cases h
  refine ⟨?_, hgrant ▸ routeFileName_of_validate hname, by omega⟩
  unfold decodeDocument at hdec
  split at hdec
  · cases hdec
  · cases hdec
    assumption

theorem Scanned.loadFile (h : Scanned managed files s)
    (hload : s.loadFile managed now file = .ok s') : Scanned managed (files ++ [file]) s' := by
  obtain ⟨d, hread, hload⟩ := bind_ok.1 hload
  have hacc := accepted_of_readDocument hread
  have hall : ∀ f ∈ files ++ [file], ∃ d, Accepted f d := List.forall_mem_append.2
    ⟨h.accepted, fun f hf => List.mem_singleton.1 hf ▸ ⟨d, hacc⟩⟩
  have hfiles : ∀ active, (s.addFingerprint file active).fingerprint.map (·.file)
      = files ++ [file] := by
    intro active
    rw [Snapshot.addFingerprint, List.map_append, h.read]
    rfl
  have hdocs : ∀ active, (s.addFingerprint file active).documents =
      s.documents ++ if active then [d] else [] := by
    intro active
    cases active <;>
      simp [Snapshot.documents, Snapshot.addFingerprint, List.filterMap_append, hacc.decoded]
  split at hload
  · -- an active file adds its document, after the checks against those before it
    simp only [Snapshot.admitRoute, check_ok, refuse_ok] at hload
    obtain ⟨hgen, hend, hload⟩ := hload
    obtain ⟨route, hroute, hload⟩ := bind_ok.1 hload
    simp only [convertRoute, check_ok, refuse_ok, not_not] at hroute
    obtain ⟨-, -, hwithin, hroute⟩ := hroute
    cases hroute
    obtain ⟨hport, hload⟩ := check_ok.1 hload
    cases hload
    replace hdocs : ((s.addFingerprint file true).addRoute d (routeOf managed d)).documents
        = s.documents ++ [d] := hdocs true
    refine ⟨hfiles true, hall, ?_, ?_, ?_, ?_, ?_⟩ <;> rw [hdocs]
    · rw [List.map_append, ← h.routes]
      rfl
    · exact h.generations.add hgen
    · exact h.endpoints.add hend
    · exact h.ports.add (refuse_ok.1 hport)
    · exact List.forall_mem_append.2
        ⟨h.limits, fun e he => List.mem_singleton.1 he ▸ hwithin⟩
  · cases hload
    replace hdocs := (hdocs false).trans (List.append_nil _)
    refine ⟨hfiles false, hall, ?_, ?_, ?_, ?_, ?_⟩ <;> rw [hdocs]
    exacts [h.routes, h.generations, h.endpoints, h.ports, h.limits]

theorem Scanned.foldlM {rest : List (RouteFile codec)} (h : Scanned managed files s)
    (hload : rest.foldlM (Snapshot.loadFile managed now) s = .ok s') :
    Scanned managed (files ++ rest) s' := by
  induction rest generalizing files s with
  | nil =>
    cases hload
    rwa [List.append_nil]
  | cons file rest ih =>
    rw [List.foldlM_cons] at hload
    obtain ⟨next, hnext, hload⟩ := bind_ok.1 hload
    have hrest := ih (h.loadFile hnext) hload
    rwa [List.append_assoc] at hrest

theorem scanned_of_load {maxRoutes : Nat}
    (h : loadManagedRoutes managed maxRoutes now files = .ok s) :
    Scanned managed (files.insertionSort fileOrder) s := by
  have hempty : Scanned managed [] (Snapshot.empty codec) :=
    ⟨rfl, nofun, rfl, ⟨rfl, .nil⟩, ⟨rfl, .nil⟩, ⟨rfl, .nil⟩, nofun⟩
  exact hempty.foldlM (check_ok.1 h).2

theorem Scanned.grants (h : Scanned managed files s) (hnames : (files.map (·.name)).Nodup) :
    (s.documents.map (·.header.grantId)).Nodup := by
  rw [← h.read, List.map_map] at hnames
  refine List.pairwise_map.2 (List.pairwise_filterMap.2 ?_)
  refine (List.pairwise_map.1 hnames).imp_of_mem fun {f g} hf hg hne d hd e he heq => hne ?_
  have hname : ∀ f ∈ s.fingerprint, ∀ d, (if f.active then codec.decode f.bytes else none)
      = some d → routeFileName d.header.grantId = f.name := by
    intro f hf d hd
    obtain ⟨e, hacc⟩ := h.accepted f.file (h.read ▸ List.mem_map_of_mem hf)
    split at hd
    · cases hacc.decoded.symm.trans hd
      exact hacc.name
    · cases hd
  show f.name = g.name
  rw [← hname f hf d hd, ← hname g hg e he, heq]

end RealityConsole.RelayServer
