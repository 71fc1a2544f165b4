import RealityConsole.Controller.Desired
import RealityConsole.NodeHost.ConfigSize
import RealityConsole.NodeHost.DesiredFetch
import RealityConsole.NodeHost.Stats

/-!
# Which published documents a node can realize

A document passes five stages on its node: fetch, verification, rendering, the size limit of the
runtime and the statistics query. The size of the response and the stricter rules of the
configuration can fail; once they hold, the rest follows.
-/

namespace RealityConsole.DesiredState

open Framework Protocol Controller NodeHost

/-! ### What the controller's checks leave behind -/

variable {document : DesiredStateDocument}

theorem protocolChecked_of_validateBody {statsApiPort : Nat}
    (hbody : document.validateBody = .ok ())
    (hstats : statsApiPort ≠ 0) (hports : document.xray.listenPort.toNat ≠ statsApiPort) :
    ProtocolChecked document statsApiPort := by
  simp only [DesiredStateDocument.validateBody, DesiredXrayState.validate, check_ok] at hbody
  obtain ⟨-, hcount, husr, hlisten, -, hnames, -, -, -⟩ := hbody
  obtain ⟨hids, -, hvless⟩ := validateUsers_ok.1 husr
  obtain ⟨hsome, hmany⟩ := not_or.1 (refuse_ok.1 hnames)
  exact
    { listenPort := refuse_ok.1 hlisten
      statsPort := hstats
      ports := hports
      names := hsome
      names_count := not_lt.1 hmany
      users_count := not_lt.1 (refuse_ok.1 hcount)
      users_distinct := unseen_nil_left.1 hids
      vless := hvless }

theorem vless_of_validateBody (hbody : document.validateBody = .ok ()) :
    ∀ u ∈ document.users, (Uuid.parse u.vlessUuid).isSome := by
  simp only [DesiredStateDocument.validateBody, check_ok] at hbody
  exact (validateUsers_ok.1 hbody.2.2.1).2.2

theorem publicPort_of_validateBody (hschema : document.schemaVersion = 2)
    (hbody : document.validateBody = .ok ()) : ∃ port, document.xray.publicPort = some port := by
  simp only [DesiredStateDocument.validateBody, DesiredXrayState.validate, check_ok] at hbody
  obtain ⟨-, -, -, -, hpubl, -⟩ := hbody
  by_contra hnone
  have habs : document.xray.publicPort = none :=
    Option.eq_none_iff_forall_ne_some.2 fun port hport => hnone ⟨port, hport⟩
  rw [DesiredXrayState.validatePorts, hschema, if_neg (by decide), if_pos rfl, habs] at hpubl
  cases hpubl

/-- The rules of the configuration do not depend on the canonical order. -/
theorem renderable_canonicalize (draft : DesiredStateDraft) :
    Renderable draft.canonicalize.xray draft.canonicalize.users
      ↔ Renderable draft.xray draft.users := by
  obtain ⟨husr, hnames⟩ := draft.canonicalize_perm
  constructor
  · intro h
    exact
      { target := h.target
        names := fun name hname => h.names name (hnames.mem_iff.2 hname)
        names_distinct := (hnames.map _).nodup_iff.1 h.names_distinct
        vless_distinct := (husr.map _).nodup_iff.1 h.vless_distinct
        vless_not_nil := fun u hu => h.vless_not_nil u (husr.mem_iff.2 hu) }
  · intro h
    exact
      { target := h.target
        names := fun name hname => h.names name (hnames.mem_iff.1 hname)
        names_distinct := (hnames.map _).nodup_iff.2 h.names_distinct
        vless_distinct := (husr.map _).nodup_iff.2 h.vless_distinct
        vless_not_nil := fun u hu => h.vless_not_nil u (husr.mem_iff.1 hu) }

theorem users_le_of_responseBytes {rev : Nat} {minAgentVersion : String} {users : List DesiredUser}
    {xray : DesiredXrayState}
    (h : responseBytes rev minAgentVersion users xray ≤ maxResponseBytes) : users.length ≤ 387 := by
  have hsum : 169 * users.length ≤ (users.map DesiredUser.jsonBytes).sum := by
    have hle := List.card_nsmul_le_sum (users.map DesiredUser.jsonBytes) 169 ?_
    · rw [List.length_map, smul_eq_mul] at hle
      omega
    · intro size hsize
      obtain ⟨user, -, rfl⟩ := List.mem_map.1 hsize
      unfold DesiredUser.jsonBytes
      split <;> omega
  unfold responseBytes maxResponseBytes at h
  omega

/-! ### The stages -/

section Realizable

variable (scheme : SignatureScheme DesiredStateDocument)
  (fromSlice : List UInt8 → Option SignedDesiredState) (program : StatsProgram)
  (identity : RealityIdentity)

def statsEndpoint (statsApiPort : UInt16) : SocketAddr :=
  ⟨.v4 0x7f000001, statsApiPort.toNat⟩

structure Realizable (registration : SyncRegistration) (cursor : Nat) (statsApiPort : UInt16)
    (published : PublishedDesiredState) : Prop where
  /-- The response is read, however it arrives. -/
  fetched : ∀ contentLength chunks,
    Transports contentLength chunks (encode published.artifactJson) →
      readBoundedResponse contentLength chunks = .ok (encode published.artifactJson)
  /-- The node accepts the document. -/
  verified : verifyDesiredState scheme fromSlice registration cursor
    (encode published.artifactJson) = .ok published.envelope
  /-- The configuration is rendered within the limit of the runtime. -/
  rendered : ∃ config, renderDesiredConfig published.envelope.document identity
    statsApiPort.toNat = .ok config ∧ Json.bytes config ≤ maxConfigBytes
  /-- Whatever counters Xray keeps for the users, they are collected. -/
  metered : ∀ counters, KeptFor published.envelope.document.users counters →
    ∃ result, queryUserTraffic program (statsEndpoint statsApiPort) counters = .ok result

def registrationOf (p : Publication) : SyncRegistration :=
  ⟨p.networkId, p.nodeId, p.controllerInstanceId, p.key⟩

variable {scheme fromSlice program identity} {p : Publication} {draft : DesiredStateDraft}
  {published : PublishedDesiredState} {cursor : Nat} {statsApiPort : UInt16}

/-- The verification repeats what the controller checked. -/
theorem verified_of_published (h : Published scheme p draft published)
    (hread : fromSlice (encode published.artifactJson) = some published.envelope)
    (hcurs : cursor < p.revision) :
    verifyDesiredState scheme fromSlice (registrationOf p) cursor (encode published.artifactJson)
      = .ok published.envelope := by
  have hdoc := h.document
  have hnewer : ¬((previousRevision cursor).any fun last =>
      published.envelope.document.revision ≤ last) := by
    rw [hdoc]
    unfold previousRevision
    split
    · exact Bool.false_ne_true
    · rw [Option.any_some, decide_eq_true_eq]
      exact not_le.2 hcurs
  have haddressee : published.envelope.document.validateAddressee p.networkId p.nodeId
      p.controllerInstanceId (previousRevision cursor) supportedDesiredSchemas = .ok () := by
    simp only [DesiredStateDocument.validateAddressee, check_ok]
    refine ⟨refuse_ok.2 ?_, refuse_ok.2 ?_, refuse_ok.2 ?_, refuse_ok.2 ?_, refuse_ok.2 hnewer⟩
    · rw [hdoc]
      exact not_not.2 (List.mem_cons_of_mem 1 List.mem_cons_self)
    all_goals
      rw [hdoc]
      exact not_not.2 rfl
  have hval : published.envelope.document.validateFor p.networkId p.nodeId
      p.controllerInstanceId (previousRevision cursor) supportedDesiredSchemas = .ok () := by
    simp only [DesiredStateDocument.validateFor, check_ok]
    exact ⟨haddressee, h.body⟩
  have hsig : verifyDesiredStateSignature scheme published.envelope.document
      published.envelope.signature p.key = .ok () := by
    obtain ⟨port, hport⟩ := publicPort_of_validateBody (by rw [hdoc]; rfl) h.body
    have hschema : published.envelope.document.schemaVersion = 2 := by
      rw [hdoc]
      rfl
    simp only [verifyDesiredStateSignature, desiredStateTranscript_ok hschema hport, ok_bind]
    rw [refuse_ok, h.signature, scheme.verify_sign]
    exact not_not.2 rfl
  unfold verifyDesiredState
  rw [hread]
  simp only [verifyEnvelope, check_ok, mapError_ok]
  refine ⟨hval, refuse_ok.2 ?_, hsig, rfl⟩
  rw [hdoc]
  exact not_not.2 rfl

theorem length_encode_artifact (h : Published scheme p draft published) :
    (encode published.artifactJson).length
      = responseBytes p.revision draft.minAgentVersion draft.users draft.xray := by
  have hschema : published.envelope.document.schemaVersion = 2 := by rw [h.document]; rfl
  obtain ⟨port, hport⟩ := publicPort_of_validateBody hschema h.body
  have hvless := vless_of_validateBody h.body
  obtain ⟨husr, hnames⟩ := draft.canonicalize_perm
  rw [length_encode, h.artifact, SignedDesiredState.bytes_json hschema hport hvless, h.document]
  exact responseBytes_perm husr hnames rfl rfl rfl

/-- A document that the controller agreed to publish is realizable by its node exactly if the
response is at most 64 KiB and the draft obeys the stricter rules of the configuration. -/
theorem published_realizable_iff (hbuild : buildSignedDesiredState scheme p draft = .ok published)
    (hread : fromSlice (encode published.artifactJson) = some published.envelope)
    (hcursor : cursor < p.revision) (hstats : statsApiPort ≠ 0)
    (hreserved : draft.xray.listenPort ≠ statsApiPort) :
    Realizable scheme fromSlice program identity (registrationOf p) cursor statsApiPort published ↔
      responseBytes p.revision draft.minAgentVersion draft.users draft.xray ≤ maxResponseBytes
        ∧ Renderable draft.xray draft.users := by
  have hpub := buildSignedDesiredState_effect hbuild
  have hsize := length_encode_artifact hpub
  have hports : published.envelope.document.xray.listenPort.toNat ≠ statsApiPort.toNat := by
    rw [hpub.document]
    exact fun heq => hreserved (UInt16.toNat_inj.1 heq)
  have hnonzero : statsApiPort.toNat ≠ 0 := fun heq => hstats (UInt16.toNat_inj.1 heq)
  have hchecked := protocolChecked_of_validateBody hpub.body hnonzero hports
  have hrules : Renderable published.envelope.document.xray published.envelope.document.users
      ↔ Renderable draft.xray draft.users := by
    rw [hpub.document]
    exact renderable_canonicalize draft
  constructor
  · intro h
    obtain ⟨config, hconfig, -⟩ := h.rendered
    have hwhole : Transports none [encode published.artifactJson]
        (encode published.artifactJson) := ⟨List.flatten_singleton, .inl rfl⟩
    have hfits := (readBoundedResponse_ok hwhole).mp (h.fetched none _ hwhole)
    exact ⟨hsize ▸ hfits, hrules.1 ((renderDesiredConfig_ok hchecked).mp hconfig).1⟩
  · intro h
    obtain ⟨hfits, hrend⟩ := h
    have hcount : published.envelope.document.users.length ≤ 387 := by
      rw [hpub.document]
      exact draft.canonicalize_perm.1.length_eq ▸ users_le_of_responseBytes hfits
    refine ⟨?_, verified_of_published hpub hread hcursor, ?_, ?_⟩
    · intro contentLength chunks hchunks
      exact (readBoundedResponse_ok hchunks).mpr (hsize ▸ hfits)
    · obtain ⟨target, htarget⟩ := (hrules.2 hrend).target
      have hrendered : renderDesiredConfig _ identity _ = .ok _ := (renderDesiredConfig_ok
        hchecked).mpr ⟨hrules.2 hrend, target, htarget, rfl⟩
      have hbs := bytes_renderConfig_le (sized_builderOf identity hchecked (hrules.2 hrend) htarget)
      have husr : (builderOf published.envelope.document identity statsApiPort.toNat
          target).sorted.users.length = published.envelope.document.users.length := by
        show (List.insertionSort _ _).length = _
        rw [List.length_insertionSort]
        exact List.length_map _
      refine ⟨_, hrendered, Nat.le_trans hbs ?_⟩
      rw [husr, maxConfigBytes]
      omega
    · intro counters hcounters
      exact queryUserTraffic_ok rfl hnonzero hcounters (by omega)

end Realizable

/-! ### Concrete publications -/

def sampleSignature : Ed25519Signature where
  text := List.replicate 86 'A'
  length_text := List.length_replicate
  plain := List.all_eq_true.mp (by decide)

def sampleScheme : SignatureScheme DesiredStateDocument where
  sign := fun _ _ => sampleSignature
  verify := fun _ signature _ => signature = sampleSignature
  verify_sign := fun _ _ => by simp

/-- A counter as the query prints it. -/
def counterText (c : RuntimeCounter) : List Char :=
  Json.object [("name", Json.quote c.name), ("value", Json.quote (Json.number c.value))]

theorem bytes_counterText_le {c : RuntimeCounter} (h : c.value < 2 ^ 63) :
    Json.bytes (counterText c) ≤ 6 * Json.bytes c.name + 255 := by
  have hname := Json.bytes_quote_le c.name
  have hlength := Json.length_le_bytes c.name
  have hvalue := Json.bytes_quote_le (Json.number c.value)
  have hdigits : (Json.number c.value).length ≤ 19 :=
    Nat.toDigits_length 10 c.value 19 (by decide) (by omega)
  have hkeys : Json.bytes (Json.quote "name".toList) = 6 ∧
      Json.bytes (Json.quote "value".toList) = 7 := by decide
  rw [counterText, Json.bytes_object]
  simp only [List.map_cons, List.map_nil, List.sum_cons, List.sum_nil, List.length_cons,
    List.length_nil, hkeys.1, hkeys.2]
  omega

/-- A query program that prints the counters as JSON. -/
def sampleProgram : StatsProgram where
  Output := List RuntimeCounter
  quoted := true
  run := id
  size := fun counters => Json.bytes (Json.object [("stat", Json.array (counters.map counterText))])
  read := fun counters => some (counters.map fun c => ⟨c.name, .text (Json.number c.value)⟩)
  read_run := fun _ => rfl
  size_run := fun counters hvalues => by
    have hitems : (counters.map fun c => Json.bytes (counterText c)).sum + counters.length
        ≤ (counters.map fun c => 6 * Json.bytes c.name + 256).sum := by
      induction counters with
      | nil => exact le_rfl
      | cons c counters ih =>
        obtain ⟨hvalue, hvalues⟩ := List.forall_mem_cons.1 hvalues
        have hfirst := bytes_counterText_le hvalue
        have hrest := ih hvalues
        simp only [List.map_cons, List.sum_cons, List.length_cons]
        omega
    have hkey : Json.bytes (Json.quote "stat".toList) = 6 := by decide
    rw [id, Json.bytes_object]
    simp only [List.map_cons, List.map_nil, List.sum_cons, List.sum_nil, List.length_cons,
      List.length_nil, Json.bytes_array, List.map_map, List.length_map, hkey]
    simp only [Function.comp_def]
    omega

def sampleIdentity : RealityIdentity where
  privateKey := List.replicate 43 'k'
  length_privateKey := List.length_replicate
  plain_privateKey := List.all_eq_true.mp (by decide)
  shortId := "0123456789abcdef".toList
  length_shortId := by decide
  hex_shortId := List.all_eq_true.mp (by decide)

def samplePublication : Publication where
  key := 7
  networkId := 1
  nodeId := 2
  revision := 3
  createdAt := 1700000000
  controllerInstanceId := 4

def sampleDraft (target : String) : DesiredStateDraft where
  minAgentVersion := "0.1.0"
  users := [⟨21, 31, Uuid.text 41, true⟩, ⟨22, 32, Uuid.text 42, false⟩]
  xray :=
    { listenPort := 20443
      publicPort := some 443
      serverNames := ["www.reality-front.net", "CDN.reality-front.net"]
      target := target }

def samplePublished (target : String) : PublishedDesiredState :=
  let envelope : SignedDesiredState :=
    ⟨samplePublication.document (sampleDraft target).canonicalize, sampleSignature⟩
  ⟨envelope, envelope.json⟩

theorem build_sampleDraft (tgt : String)
    (h : (samplePublication.document (sampleDraft tgt).canonicalize).validateFor 1 2 4 none [2]
      = .ok ()) :
    buildSignedDesiredState sampleScheme samplePublication (sampleDraft tgt)
      = .ok (samplePublished tgt) := by
  show ((samplePublication.document (sampleDraft tgt).canonicalize).validateFor 1 2 4 none
    [2]).mapError _ >>= _ = _
  rw [h]
  rfl

/-- The sample draft with a public host name as its target is realized. -/
theorem two_members_realizable :
    Realizable sampleScheme (fun _ => some (samplePublished "www.reality-front.net:443").envelope)
      sampleProgram sampleIdentity (registrationOf samplePublication) 2 10085
      (samplePublished "www.reality-front.net:443") := by
  refine (published_realizable_iff (build_sampleDraft _ (by decide +kernel)) rfl (by decide)
    (by decide) (by decide)).mpr ⟨by decide, ?_⟩
  exact
    { target := ⟨⟨"www.reality-front.net".toList, 443⟩, by decide⟩
      names := by
        intro name hname
        rcases List.mem_cons.1 hname with rfl | hsec
        · exact ⟨"www.reality-front.net".toList, by decide⟩
        · rw [List.mem_singleton.1 hsec]
          exact ⟨"cdn.reality-front.net".toList, by decide⟩
      names_distinct := by decide
      vless_distinct := by decide +kernel
      vless_not_nil := by decide +kernel }

/-- The controller publishes a draft whose target is an address literal, and the node cannot render
it. -/
theorem address_target_not_realizable :
    buildSignedDesiredState sampleScheme samplePublication (sampleDraft "203.0.113.7:443")
        = .ok (samplePublished "203.0.113.7:443")
      ∧ ¬Realizable sampleScheme (fun _ => some (samplePublished "203.0.113.7:443").envelope)
        sampleProgram sampleIdentity (registrationOf samplePublication) 2 10085
        (samplePublished "203.0.113.7:443") := by
  refine ⟨build_sampleDraft _ (by decide +kernel), ?_⟩
  intro h
  obtain ⟨config, hconfig, -⟩ := h.rendered
  have hrefd : renderDesiredConfig (samplePublished "203.0.113.7:443").envelope.document
      sampleIdentity (10085 : UInt16).toNat = .error (.config .invalidServerName) := by decide
  rw [hrefd] at hconfig
  cases hconfig

end RealityConsole.DesiredState
