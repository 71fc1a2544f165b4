import Mathlib.Data.Nat.Digits.Defs
import RealityConsole.NodeHost.XrayConfig
import RealityConsole.Protocol.DesiredJson

/-!
# The size of a rendered configuration

A client takes a few hundred bytes and everything else is bounded once and for all. The bound is far
from tight; it only has to stay below the limit of the runtime for as many users as one response
can carry.
-/

namespace RealityConsole.NodeHost

open Framework Protocol

def maxConfigBytes : Nat := 2 * 1024 * 1024

/-! ### The parts that vary -/

/-- The bounds that a builder made from a checked document obeys. -/
structure Sized (builder : ConfigBuilder) : Prop where
  listenPort : builder.listenPort < 65536
  statsApiPort : builder.statsApiPort < 65536
  target : builder.target.authority.length ≤ 259
  privateKey : builder.privateKey.length = 43
  shortId : builder.shortId.length = 16
  names_count : builder.serverNames.length ≤ 16
  names : ∀ name ∈ builder.serverNames, name.length ≤ 253
  emails : ∀ user ∈ builder.users, user.email.length = 41

theorem digitCount_le_five {n : Nat} (h : n < 65536) : digitCount n ≤ 5 :=
  Nat.toDigits_length 10 n 5 (by decide) (by omega)

theorem bytes_clientWriter_le {user : VlessUser} (h : user.email.length = 41) :
    Json.bytes (clientWriter user 5) ≤ 410 := by
  have hfields : Json.bytes (clientWriter user 5) ≤ _ := Json.bytes_prettyObject_le _ 5
  have hkeys : Json.bytes (Json.quote "id".toList) = 4 ∧ Json.bytes (Json.quote "email".toList) = 7
      ∧ Json.bytes (Json.quote "level".toList) = 7
      ∧ Json.bytes (Json.quote "flow".toList) = 6
      ∧ Json.bytes (Json.quote "xtls-rprx-vision".toList) = 18
      ∧ Json.bytes (Json.number 0) = 1 := by decide
  obtain ⟨hid, hemail, hlevel, hflow, hvision, hzero⟩ := hkeys
  have hlabel := Json.bytes_quote_le user.email
  simp only [List.map_cons, List.map_nil, List.sum_cons, List.sum_nil, textValue, fixedText,
    Json.bytes_quote_uuid, hid, hemail, hlevel, hflow, hvision, hzero] at hfields
  omega

theorem bytes_clients_le {users : List VlessUser} (h : ∀ user ∈ users, user.email.length = 41) :
    Json.bytes (Json.prettyArray ((users.filter (·.enabled)).map clientWriter) 4)
      ≤ 12 + 422 * users.length := by
  have hits : ∀ w ∈ (users.filter (·.enabled)).map clientWriter,
      Json.bytes (w (4 + 1)) ≤ 410 := by
    intro w hw
    obtain ⟨user, huser, rfl⟩ := List.mem_map.1 hw
    exact bytes_clientWriter_le (h user (List.mem_of_mem_filter huser))
  have harray := Json.bytes_prettyArray_le hits
  have hcount : (users.filter (·.enabled)).length ≤ users.length := List.length_filter_le _ _
  rw [List.length_map] at harray
  omega

theorem bytes_serverNames_le {names : List (List Char)} (hcount : names.length ≤ 16)
    (h : ∀ name ∈ names, name.length ≤ 253) :
    Json.bytes (Json.prettyArray (names.map textValue) 5) ≤ 25000 := by
  have hits : ∀ w ∈ names.map textValue, Json.bytes (w (5 + 1)) ≤ 1520 := by
    intro w hw
    obtain ⟨name, hname, rfl⟩ := List.mem_map.1 hw
    have hqte := Json.bytes_quote_le name
    have hlen := h name hname
    show Json.bytes (Json.quote name) ≤ 1520
    omega
  have harray := Json.bytes_prettyArray_le hits
  rw [List.length_map] at harray
  omega

variable {builder : ConfigBuilder}

theorem bytes_realityWriter_le (h : Sized builder) :
    Json.bytes (realityWriter builder 4) ≤ 28000 := by
  have hfields : Json.bytes (realityWriter builder 4) ≤ _ := Json.bytes_prettyObject_le _ 4
  have hkeys : Json.bytes (Json.quote "show".toList) = 6
      ∧ Json.bytes (Json.quote "target".toList) = 8
      ∧ Json.bytes (Json.quote "xver".toList) = 6
      ∧ Json.bytes (Json.quote "serverNames".toList) = 13
      ∧ Json.bytes (Json.quote "privateKey".toList) = 12
      ∧ Json.bytes (Json.quote "shortIds".toList) = 10
      ∧ Json.bytes (Json.boolean false) = 5
      ∧ Json.bytes (Json.number 0) = 1 := by decide
  obtain ⟨hk₁, hk₂, hk₃, hk₄, hk₅, hk₆, hfalse, hzero⟩ := hkeys
  have htarget := Json.bytes_quote_le builder.target.authority
  have hkey := Json.bytes_quote_le builder.privateKey
  have hnames := bytes_serverNames_le h.names_count h.names
  have hshort : Json.bytes (Json.prettyArray [textValue builder.shortId] 5) ≤ 200 := by
    have hitem : ∀ w ∈ [textValue builder.shortId], Json.bytes (w (5 + 1)) ≤ 98 := by
      intro w hw
      have hqte := Json.bytes_quote_le builder.shortId
      rw [List.mem_singleton.1 hw]
      rw [h.shortId] at hqte
      exact hqte
    exact Nat.le_trans (Json.bytes_prettyArray_le hitem) (by simp)
  have hauthority := h.target
  have hlen := h.privateKey
  simp only [List.map_cons, List.map_nil, List.sum_cons, List.sum_nil, textValue, Nat.reduceAdd,
    hk₁, hk₂, hk₃, hk₄, hk₅, hk₆, hfalse, hzero] at hfields
  omega

/-! ### The whole -/

theorem bytes_inboundKeys_le : Json.bytes (Json.quote "tag".toList) ≤ 30
      ∧ Json.bytes (Json.quote "listen".toList) ≤ 30 ∧ Json.bytes (Json.quote "port".toList) ≤ 30
      ∧ Json.bytes (Json.quote "protocol".toList) ≤ 30
      ∧ Json.bytes (Json.quote "settings".toList) ≤ 30 := by decide

theorem bytes_vlessInboundWriter_le (h : Sized builder) :
    Json.bytes (vlessInboundWriter builder 2) ≤ 28900 + 422 * builder.users.length := by
  have hfields : Json.bytes (vlessInboundWriter builder 2) ≤ _ := Json.bytes_prettyObject_le _ 2
  have hsets := Json.bytes_prettyObject_le [("clients", Json.prettyArray ((builder.users.filter
    (·.enabled)).map clientWriter)), ("decryption", fixedText "none")] 3
  have hstream := Json.bytes_prettyObject_le [("network", fixedText "raw"), ("security", fixedText
    "reality"), ("realitySettings", realityWriter builder)] 3
  have hinb := bytes_inboundKeys_le
  have hkeys : Json.bytes (Json.quote "streamSettings".toList) ≤ 30
      ∧ Json.bytes (Json.quote "clients".toList) ≤ 30
      ∧ Json.bytes (Json.quote "decryption".toList) ≤ 30
      ∧ Json.bytes (Json.quote "network".toList) ≤ 30
      ∧ Json.bytes (Json.quote "security".toList) ≤ 30
      ∧ Json.bytes (Json.quote "realitySettings".toList) ≤ 30 := by decide
  have htexts : Json.bytes (Json.quote "vless-reality-in".toList) ≤ 30
      ∧ Json.bytes (Json.quote "127.0.0.1".toList) ≤ 30
      ∧ Json.bytes (Json.quote "vless".toList) ≤ 30
      ∧ Json.bytes (Json.quote "none".toList) ≤ 30
      ∧ Json.bytes (Json.quote "raw".toList) ≤ 30
      ∧ Json.bytes (Json.quote "reality".toList) ≤ 30 := by decide
  have hport := digitCount_le_five h.listenPort
  have hclients := bytes_clients_le h.emails
  have hreality := bytes_realityWriter_le h
  simp only [List.map_cons, List.map_nil, List.sum_cons, List.sum_nil, textValue, fixedText,
    bytes_number, Nat.reduceAdd] at hfields hsets hstream
  omega

theorem bytes_apiInboundWriter_le {port : Nat} (h : port < 65536) :
    Json.bytes (apiInboundWriter port 2) ≤ 1000 := by
  have hsets : Json.bytes (Json.prettyObject [("address", fixedText "127.0.0.1")] (2 + 1))
      ≤ 100 := by decide
  have hinb := bytes_inboundKeys_le
  have hkeys : Json.bytes (fixedText "stats-api" (2 + 1)) ≤ 30
      ∧ Json.bytes (fixedText "127.0.0.1" (2 + 1)) ≤ 30
      ∧ Json.bytes (fixedText "dokodemo-door" (2 + 1)) ≤ 30 := by decide
  have hport := digitCount_le_five h
  refine (Json.bytes_prettyObject_le _ 2).trans ?_
  simp only [List.map_cons, List.map_nil, List.sum_cons, List.sum_nil, bytes_number]
  omega

theorem bytes_renderConfig_le (h : Sized builder) :
    Json.bytes (renderConfig builder) ≤ 40000 + 422 * builder.users.length := by
  have hfields := Json.bytes_prettyObject_le (headFields ++ [("inbounds", Json.prettyArray
        [vlessInboundWriter builder, apiInboundWriter builder.statsApiPort]),
      ("outbounds", Json.prettyArray
        [Json.prettyObject [("tag", fixedText "direct"), ("protocol", fixedText "freedom")]])]) 0
  have hhead : (headFields.map fun f =>
      Json.bytes (Json.quote f.1.toList) + Json.bytes (f.2 1) + 2 * 0 + 6).sum ≤ 2000 := by
    decide +kernel
  have hkeys : Json.bytes (Json.quote "inbounds".toList) ≤ 30
      ∧ Json.bytes (Json.quote "outbounds".toList) ≤ 30 := by decide
  have houtbound : Json.bytes (Json.prettyArray
      [Json.prettyObject [("tag", fixedText "direct"), ("protocol", fixedText "freedom")]] 1)
        ≤ 500 := by decide
  have hvless := bytes_vlessInboundWriter_le h
  have hapi := bytes_apiInboundWriter_le h.statsApiPort
  have hinbounds := Json.bytes_lines_le '[' ']' rfl rfl
    [vlessInboundWriter builder, apiInboundWriter builder.statsApiPort] 1
  have hnewline : Json.bytes ['\n'] = 1 := by decide
  rw [List.map_append, List.sum_append] at hfields
  simp only [List.map_cons, List.map_nil, List.sum_cons, List.sum_nil,
    Nat.reduceAdd] at hfields hinbounds
  rw [renderConfig, Json.bytes_append, hnewline]
  unfold Json.prettyArray at hfields houtbound ⊢
  omega

/-! ### Builders of documents -/

/-- An accepted target has a canonical host and a port of at most five digits. -/
theorem length_authority_of_parseTarget {text : List Char} {tgt : RealityTarget}
    (h : parseTarget text = .ok tgt) : tgt.authority.length ≤ 259 := by
  unfold parseTarget at h
  split at h
  · cases h
  split at h
  · cases h
  rename_i port hport
  obtain ⟨_, -, hnew⟩ := bind_ok.1 (mapError_ok.1 h)
  obtain ⟨host, hhost, hnew⟩ := bind_ok.1 hnew
  have hlen := length_of_validateDnsName hhost
  have hdigs : (Json.number port).length ≤ 5 := digitCount_le_five (parseDigits_some hport).1
  rw [← Except.ok.inj hnew, RealityTarget.authority, List.length_append, List.length_cons]
  show host.length + ((Json.number port).length + 1) ≤ 259
  omega

theorem sized_builderOf {document : DesiredStateDocument} (ident : RealityIdentity)
    {statsApiPort : UInt16} {target : RealityTarget}
    (hchecked : ProtocolChecked document statsApiPort.toNat)
    (hrend : Renderable document.xray document.users)
    (htarget : parseTarget document.xray.target.toList = .ok target) :
    Sized (builderOf document ident statsApiPort.toNat target).sorted where
  listenPort := document.xray.listenPort.toNat_lt
  statsApiPort := statsApiPort.toNat_lt
  target := length_authority_of_parseTarget htarget
  privateKey := ident.length_privateKey
  shortId := by
    show (ident.shortId.map toLowercase).length = 16
    rw [List.length_map, ident.length_shortId]
  names_count := by
    show (List.insertionSort _ _).length ≤ 16
    rw [List.length_insertionSort]
    show (document.xray.serverNames.map _).length ≤ 16
    rw [List.length_map]
    exact hchecked.names_count
  names := by
    intro name hname
    have hmem : name ∈ document.xray.serverNames.map fun name => name.toList.map toLowercase :=
      (List.mem_insertionSort _).mp hname
    obtain ⟨src, hsource, rfl⟩ := List.mem_map.1 hmem
    obtain ⟨canonical, hcanon⟩ := hrend.names src hsource
    rw [← validateDnsName_ok hcanon]
    exact length_of_validateDnsName hcanon
  emails := by
    intro user huser
    have hmem : user ∈ document.users.map vlessUser := (List.mem_insertionSort _).mp huser
    obtain ⟨src, -, rfl⟩ := List.mem_map.1 hmem
    exact length_userLabel src.userId

end RealityConsole.NodeHost
