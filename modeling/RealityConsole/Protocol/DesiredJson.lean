import RealityConsole.Protocol.Desired

/-!
# The size of a desired-state response

The envelope as the controller serializes it, and its exact size: a fixed frame,
the literals of the free texts, and 169 or 170 bytes with a comma for each user.
-/

namespace RealityConsole.Protocol

open Framework

/-! ### The text -/

def DesiredUser.json (user : DesiredUser) : List Char :=
  Json.object
    [("userId", Json.quote user.userId.text.toList),
      ("credentialId", Json.quote user.credentialId.text.toList),
      ("vlessUuid", Json.quote user.vlessUuid.toList),
      ("enabled", Json.boolean user.enabled)]

/-- `publicPort` is left out if it is absent. -/
def DesiredXrayState.publicPortField (xray : DesiredXrayState) : List (String × List Char) :=
  match xray.publicPort with
  | none => []
  | some port => [("publicPort", Json.number port.toNat)]

def DesiredXrayState.json (xray : DesiredXrayState) : List Char :=
  Json.object (("listenPort", Json.number xray.listenPort.toNat) :: (xray.publicPortField
    ++ [("serverNames", Json.array (xray.serverNames.map fun name => Json.quote name.toList)),
      ("target", Json.quote xray.target.toList)]))

def DesiredStateDocument.json (document : DesiredStateDocument) : List Char :=
  Json.object
    [("schemaVersion", Json.number document.schemaVersion),
      ("networkId", Json.quote document.networkId.text.toList),
      ("nodeId", Json.quote document.nodeId.text.toList),
      ("revision", Json.number document.revision),
      ("createdAt", Json.quote (rfc3339 document.createdAt)),
      ("minAgentVersion", Json.quote document.minAgentVersion.toList),
      ("users", Json.array (document.users.map (·.json))),
      ("xray", document.xray.json),
      ("signingKeyId", Json.quote document.signingKeyId.uuid.text.toList),
      ("controllerInstanceId", Json.quote document.controllerInstanceId.text.toList)]

def SignedDesiredState.json (envelope : SignedDesiredState) : List Char :=
  Json.object
    [("document", envelope.document.json), ("signature", Json.quote envelope.signature.text)]

/-! ### The size -/

/-- The bytes of a text as a JSON string literal. -/
def literalBytes (text : String) : Nat := Json.bytes (Json.quote text.toList)

def digitCount (n : Nat) : Nat := (Json.number n).length

def DesiredUser.jsonBytes (user : DesiredUser) : Nat := if user.enabled then 169 else 170

def DesiredXrayState.jsonBytes (xray : DesiredXrayState) : Nat :=
  56 + digitCount xray.listenPort.toNat + (xray.publicPort.map fun p => digitCount p.toNat).getD 0
    + (xray.serverNames.map literalBytes).sum + (xray.serverNames.length - 1)
    + literalBytes xray.target

/-- The bytes of a whole response with the given variable parts. -/
def responseBytes (revision : Nat) (minAgentVersion : String) (users : List DesiredUser)
    (xray : DesiredXrayState) : Nat :=
  433 + digitCount revision + literalBytes minAgentVersion
    + ((users.map DesiredUser.jsonBytes).sum + (users.length - 1)) + xray.jsonBytes

theorem bytes_number (n : Nat) : Json.bytes (Json.number n) = digitCount n := by
  refine Json.bytes_eq_length fun c hc => ?_
  have hdig : c.isDigit = true := Nat.isDigit_of_mem_toDigits (by decide) (by decide) hc
  simp only [Char.isDigit, Bool.and_eq_true, decide_eq_true_eq] at hdig
  have hle := UInt32.le_iff_toNat_le.1 hdig.2
  exact Nat.lt_of_le_of_lt hle (by decide)

theorem DesiredUser.bytes_json {user : DesiredUser}
    (h : (Uuid.parse user.vlessUuid).isSome) : Json.bytes user.json = user.jsonBytes := by
  obtain ⟨id, hid⟩ := Option.isSome_iff_exists.1 h
  have hkeys : Json.bytes (Json.quote "userId".toList) = 8
      ∧ Json.bytes (Json.quote "credentialId".toList) = 14
      ∧ Json.bytes (Json.quote "vlessUuid".toList) = 11
      ∧ Json.bytes (Json.quote "enabled".toList) = 9 := by decide
  have hboolean : Json.bytes (Json.boolean user.enabled) = if user.enabled then 4 else 5 := by
    cases user.enabled <;> decide
  obtain ⟨huser, hcred, hvless, henab⟩ := hkeys
  rw [json, Json.bytes_object, ← Uuid.text_of_parse hid]
  simp only [List.map_cons, List.map_nil, List.sum_cons, List.sum_nil, List.length_cons,
    List.length_nil, Json.bytes_quote_uuid, huser, hcred, hvless, henab, hboolean, jsonBytes]
  split <;> rfl

theorem DesiredXrayState.bytes_json {xray : DesiredXrayState} {port : UInt16}
    (h : xray.publicPort = some port) : Json.bytes xray.json = xray.jsonBytes := by
  have hkeys : Json.bytes (Json.quote "listenPort".toList) = 12
      ∧ Json.bytes (Json.quote "publicPort".toList) = 12
      ∧ Json.bytes (Json.quote "serverNames".toList) = 13
      ∧ Json.bytes (Json.quote "target".toList) = 8 := by decide
  obtain ⟨hlisten, hpubl, hnames, htarget⟩ := hkeys
  have hliterals : (xray.serverNames.map fun name => Json.bytes (Json.quote name.toList))
      = xray.serverNames.map literalBytes := rfl
  rw [json, Json.bytes_object]
  simp only [publicPortField, h, List.singleton_append, List.map_cons, List.map_nil, List.sum_cons,
    List.sum_nil, List.length_cons, List.length_nil, Json.bytes_array, List.map_map,
    List.length_map, hlisten, hpubl, hnames, htarget, bytes_number, jsonBytes, Option.map_some,
    Option.getD_some, Function.comp_def, hliterals]
  rw [literalBytes]
  omega

/-- The exact size of a response about a schema-2 document with canonical VLESS UUIDs. -/
theorem SignedDesiredState.bytes_json {envelope : SignedDesiredState} {port : UInt16}
    (hschema : envelope.document.schemaVersion = 2)
    (hport : envelope.document.xray.publicPort = some port)
    (husr : ∀ u ∈ envelope.document.users, (Uuid.parse u.vlessUuid).isSome) :
    Json.bytes envelope.json = responseBytes envelope.document.revision
      envelope.document.minAgentVersion envelope.document.users envelope.document.xray := by
  have hkeys : Json.bytes (Json.quote "schemaVersion".toList) = 15
      ∧ Json.bytes (Json.quote "networkId".toList) = 11
      ∧ Json.bytes (Json.quote "nodeId".toList) = 8
      ∧ Json.bytes (Json.quote "revision".toList) = 10
      ∧ Json.bytes (Json.quote "createdAt".toList) = 11
      ∧ Json.bytes (Json.quote "minAgentVersion".toList) = 17
      ∧ Json.bytes (Json.quote "users".toList) = 7
      ∧ Json.bytes (Json.quote "xray".toList) = 6
      ∧ Json.bytes (Json.quote "signingKeyId".toList) = 14
      ∧ Json.bytes (Json.quote "controllerInstanceId".toList) = 22
      ∧ Json.bytes (Json.quote "document".toList) = 10
      ∧ Json.bytes (Json.quote "signature".toList) = 11 := by decide
  obtain ⟨hk₁, hk₂, hk₃, hk₄, hk₅, hk₆, hk₇, hk₈, hk₉, hk₁₀, hk₁₁, hk₁₂⟩ := hkeys
  have hcreated : Json.bytes (Json.quote (rfc3339 envelope.document.createdAt)) = 22 := by
    rw [Json.bytes_quote fun c hc => isPlain_of_mem_rfc3339 hc, length_rfc3339]
  have hsig : Json.bytes (Json.quote envelope.signature.text) = 88 := by
    rw [Json.bytes_quote envelope.signature.plain, envelope.signature.length_text]
  have hvers : digitCount 2 = 1 := by decide
  have hlist : (envelope.document.users.map fun u => Json.bytes u.json)
      = envelope.document.users.map DesiredUser.jsonBytes :=
    List.map_congr_left fun u hu => DesiredUser.bytes_json (husr u hu)
  rw [json, Json.bytes_object]
  simp only [List.map_cons, List.map_nil, List.sum_cons, List.sum_nil, List.length_cons,
    List.length_nil, DesiredStateDocument.json, Json.bytes_object, Json.bytes_quote_uuid,
    Json.bytes_array, List.map_map, List.length_map, Function.comp_def, hlist,
    hschema, bytes_number, hvers, hcreated, hsig, DesiredXrayState.bytes_json hport,
    hk₁, hk₂, hk₃, hk₄, hk₅, hk₆, hk₇, hk₈, hk₉, hk₁₀, hk₁₁, hk₁₂, responseBytes, literalBytes]
  omega

theorem responseBytes_perm {rev : Nat} {minAgentVersion : String}
    {users users' : List DesiredUser} {xray xray' : DesiredXrayState} (husr : users'.Perm users)
    (hnames : xray'.serverNames.Perm xray.serverNames)
    (hlisten : xray'.listenPort = xray.listenPort)
    (hpubl : xray'.publicPort = xray.publicPort) (htarget : xray'.target = xray.target) :
    responseBytes rev minAgentVersion users' xray'
      = responseBytes rev minAgentVersion users xray := by
  simp only [responseBytes, DesiredXrayState.jsonBytes, (husr.map _).sum_eq, husr.length_eq,
    (hnames.map _).sum_eq, hnames.length_eq, hlisten, hpubl, htarget]

end RealityConsole.Protocol
