import Mathlib.Data.Char
import Mathlib.Data.List.Lex
import Mathlib.Data.List.Sort
import RealityConsole.Framework.Net
import RealityConsole.Framework.Text
import RealityConsole.Protocol.Desired

/-!
# Rendering a desired state as an Xray configuration

The node turns a desired document and its own REALITY identity into one
deterministic configuration file. Names, target and user labels pass stricter
parsers than the protocol's; identities must be unique; disabled users count for
uniqueness but are not rendered.
-/

namespace RealityConsole.NodeHost

open Framework Protocol

inductive ConfigBuildError where
  | invalidServerName
  | invalidTargetPort
  | invalidShortId
  | invalidUserEmail
  | nilUserId
  | invalidListenPort
  | invalidStatsApiPort
  | noServerNames
  | tooManyServerNames
  | tooManyUsers
  | duplicateServerName
  | duplicateUserId
  | duplicateUserEmail
  | statsApiPortConflict
  deriving DecidableEq, Repr

abbrev BuildResult := Except ConfigBuildError

/-! ### Names -/

def isAlphabetic (c : Char) : Bool := isLowercase c || isUppercase c

/-- `char::to_ascii_lowercase` -/
def toLowercase (c : Char) : Char := if isUppercase c then Char.ofNat (c.toNat + 32) else c

/-- Last labels that name no public host. -/
def reservedLabels : List (List Char) :=
  ["example".toList, "invalid".toList, "local".toList, "localhost".toList, "onion".toList,
    "test".toList]

/-- `validate_dns_name`: the canonical form of a fully qualified DNS name. -/
def validateDnsName (value : List Char) : BuildResult (List Char) := do
  refuseWhen (value = [] ∨ 253 < Json.bytes value
      ∨ value.head?.any isWhitespace ∨ value.getLast?.any isWhitespace
      ∨ ¬value.all (·.toNat < 128) ∨ value.getLast? = some '.' ∨ '*' ∈ value
      ∨ isIpLiteral (String.ofList value))
    .invalidServerName
  let canonical := value.map toLowercase
  let labels := canonical.splitOn '.'
  refuseWhen (labels.length < 2 ∨ ¬labels.all (isLabel isAlphanumeric)
      ∨ labels.getLast?.any fun label => label ∈ reservedLabels || !label.any isAlphabetic)
    .invalidServerName
  return canonical

/-- `str::rsplit_once`: the parts before and after the last occurrence. -/
def rsplitOnce (separator : Char) (text : List Char) : Option (List Char × List Char) :=
  match text.reverse.dropWhile (· ≠ separator) with
  | [] => none
  | _ :: before => some (before.reverse, (text.reverse.takeWhile (· ≠ separator)).reverse)

/-- `u16::from_str` -/
def parseU16 : List Char → Option Nat := parseUnsigned 65536

structure RealityTarget where
  host : List Char
  port : Nat
  deriving DecidableEq, Repr

def RealityTarget.new (host : List Char) (port : Nat) : BuildResult RealityTarget := do
  refuseWhen (port = 0) .invalidTargetPort
  let host ← validateDnsName host
  return ⟨host, port⟩

def RealityTarget.authority (target : RealityTarget) : List Char :=
  target.host ++ ':' :: Json.number target.port

/-! ### Users -/

/-- Characters of a user label. -/
def isEmailCharacter (c : Char) : Bool :=
  isAlphanumeric c || c = '.' || c = '_' || c = '@' || c = '+' || c = '-'

/-- `UserEmail::parse` -/
def parseUserEmail (value : List Char) : BuildResult (List Char) := do
  refuseWhen (value = [] ∨ 128 < Json.bytes value
      ∨ value.head?.any isWhitespace ∨ value.getLast?.any isWhitespace
      ∨ ¬value.all (·.toNat < 128) ∨ ¬value.all isEmailCharacter
      ∨ ¬value.head?.any isAlphanumeric ∨ ¬value.getLast?.any isAlphanumeric)
    .invalidUserEmail
  return value

/-- The label of a member: `user-` and the member's identity. -/
def userLabel (user : UserId) : List Char := "user-".toList ++ user.text.toList

structure VlessUser where
  id : Uuid
  email : List Char
  enabled : Bool

def VlessUser.new (id : Uuid) (email : List Char) (enabled : Bool) : BuildResult VlessUser := do
  refuseWhen (id = 0) .nilUserId
  return ⟨id, email, enabled⟩

/-! ### The builder -/

/-- The node's own REALITY material, as it is stored. -/
structure RealityIdentity where
  /-- The private key: 32 bytes as unpadded base64url. -/
  privateKey : List Char
  length_privateKey : privateKey.length = 43
  plain_privateKey : ∀ c ∈ privateKey, Json.isPlain c = true
  /-- The short identity: eight bytes in hexadecimal. -/
  shortId : List Char
  length_shortId : shortId.length = 16
  hex_shortId : ∀ c ∈ shortId, isHexDigit c = true

/-- `ShortId::parse` -/
def parseShortId (value : List Char) : BuildResult (List Char) := do
  refuseWhen (Json.bytes value < 8 ∨ 16 < Json.bytes value ∨ Json.bytes value % 2 ≠ 0
    ∨ ¬value.all isHexDigit) .invalidShortId
  return value.map toLowercase

/-- `VlessRealityConfigBuilder` for an inbound on the IPv4 loopback address. -/
structure ConfigBuilder where
  listenPort : Nat
  target : RealityTarget
  privateKey : List Char
  serverNames : List (List Char)
  shortId : List Char
  users : List VlessUser
  statsApiPort : Nat

/-- Some element is followed by an equal one (`windows(2)`). -/
def hasAdjacentEqual {α : Type} [DecidableEq α] : List α → Bool
  | a :: b :: rest => a = b || hasAdjacentEqual (b :: rest)
  | _ => false

def labelOrder (a b : VlessUser) : Prop :=
  a.email.map toLowercase < b.email.map toLowercase
    ∨ (a.email.map toLowercase = b.email.map toLowercase ∧ a.id ≤ b.id)

instance : DecidableRel labelOrder := fun _ _ => instDecidableOr

/-- `validate_collection_sizes`; there is always one short identity. -/
def ConfigBuilder.validateCollectionSizes (builder : ConfigBuilder) : BuildResult Unit := do
  refuseWhen (builder.serverNames = []) .noServerNames
  refuseWhen (16 < builder.serverNames.length) .tooManyServerNames
  refuseWhen (10000 < builder.users.length) .tooManyUsers

/-- The loop of `validate_duplicates` over the users. -/
def validateUserDuplicates : List Uuid → List (List Char) → List VlessUser → BuildResult Unit
  | _, _, [] => .ok ()
  | ids, emails, user :: users => do
    refuseWhen (user.id ∈ ids) .duplicateUserId
    refuseWhen (user.email.map toLowercase ∈ emails) .duplicateUserEmail
    validateUserDuplicates (user.id :: ids) (user.email.map toLowercase :: emails) users

def ConfigBuilder.sorted (builder : ConfigBuilder) : ConfigBuilder :=
  { builder with
    serverNames := builder.serverNames.insertionSort (· ≤ ·)
    users := builder.users.insertionSort labelOrder }

/-! ### The text -/

open Json in
def textValue (text : List Char) : Writer := fun _ => quote text

open Json in
def fixedText (text : String) : Writer := textValue text.toList

open Json in
/-- One entry of `settings.clients`. -/
def clientWriter (user : VlessUser) : Writer :=
  prettyObject
    [("id", textValue user.id.text.toList), ("email", textValue user.email),
      ("level", fun _ => number 0), ("flow", fixedText "xtls-rprx-vision")]

open Json in
/-- `realitySettings` -/
def realityWriter (builder : ConfigBuilder) : Writer :=
  prettyObject
    [("show", fun _ => boolean false), ("target", textValue builder.target.authority),
      ("xver", fun _ => number 0), ("serverNames", prettyArray (builder.serverNames.map textValue)),
      ("privateKey", textValue builder.privateKey),
      ("shortIds", prettyArray [textValue builder.shortId])]

open Json in
def vlessInboundWriter (builder : ConfigBuilder) : Writer :=
  prettyObject
    [("tag", fixedText "vless-reality-in"), ("listen", fixedText "127.0.0.1"),
      ("port", fun _ => number builder.listenPort), ("protocol", fixedText "vless"),
      ("settings", prettyObject
        [("clients", prettyArray ((builder.users.filter (·.enabled)).map clientWriter)),
          ("decryption", fixedText "none")]),
      ("streamSettings", prettyObject
        [("network", fixedText "raw"), ("security", fixedText "reality"),
          ("realitySettings", realityWriter builder)])]

open Json in
def apiInboundWriter (statsApiPort : Nat) : Writer :=
  prettyObject
    [("tag", fixedText "stats-api"), ("listen", fixedText "127.0.0.1"),
      ("port", fun _ => number statsApiPort), ("protocol", fixedText "dokodemo-door"),
      ("settings", prettyObject [("address", fixedText "127.0.0.1")])]

open Json in
def headFields : List (String × Writer) :=
  [("log", prettyObject
      [("access", fixedText "none"), ("dnsLog", fun _ => boolean false),
        ("loglevel", fixedText "warning")]),
    ("api", prettyObject
      [("tag", fixedText "stats-api"), ("services", prettyArray [fixedText "StatsService"])]),
    ("routing", prettyObject
      [("rules", prettyArray [prettyObject
        [("type", fixedText "field"), ("inboundTag", prettyArray [fixedText "stats-api"]),
          ("outboundTag", fixedText "stats-api")]])]),
    ("stats", prettyObject []),
    ("policy", prettyObject
      [("levels", prettyObject [("0", prettyObject
          [("statsUserUplink", fun _ => boolean true),
            ("statsUserDownlink", fun _ => boolean true)])]),
        ("system", prettyObject [])])]

open Json in
/-- The whole configuration, with a newline at its end. -/
def renderConfig (builder : ConfigBuilder) : List Char :=
  prettyObject (headFields ++
    [("inbounds", prettyArray
        [vlessInboundWriter builder, apiInboundWriter builder.statsApiPort]),
      ("outbounds", prettyArray
        [prettyObject [("tag", fixedText "direct"), ("protocol", fixedText "freedom")]])]) 0
    ++ ['\n']

/-- `VlessRealityConfigBuilder::build` -/
def ConfigBuilder.build (builder : ConfigBuilder) : BuildResult (List Char) := do
  builder.validateCollectionSizes
  refuseWhen (hasAdjacentEqual builder.sorted.serverNames) .duplicateServerName
  validateUserDuplicates [] [] builder.sorted.users
  refuseWhen (builder.listenPort = builder.statsApiPort) .statsApiPortConflict
  return renderConfig builder.sorted

/-! ### Rendering a document -/

inductive RenderError where
  | targetInvalid
  | targetPortInvalid
  | vlessUuidInvalid
  | config (error : ConfigBuildError)
  deriving DecidableEq, Repr

def parseTarget (target : List Char) : Except RenderError RealityTarget :=
  match rsplitOnce ':' target with
  | none => .error .targetInvalid
  | some (host, port) =>
    match parseU16 port with
    | none => .error .targetPortInvalid
    | some port => (RealityTarget.new host port).mapError .config

def parseServerNames : List String → Except RenderError (List (List Char))
  | [] => .ok []
  | name :: names => do
    let name ← (validateDnsName name.toList).mapError .config
    let names ← parseServerNames names
    return name :: names

def parseVlessUuid (user : DesiredUser) : Except RenderError Uuid :=
  match Uuid.parse user.vlessUuid with
  | none => .error .vlessUuidInvalid
  | some id => .ok id

def parseUsers : List DesiredUser → Except RenderError (List VlessUser)
  | [] => .ok []
  | user :: users => do
    let id ← parseVlessUuid user
    let email ← (parseUserEmail (userLabel user.userId)).mapError .config
    let vless ← (VlessUser.new id email user.enabled).mapError .config
    let users ← parseUsers users
    return vless :: users

def renderDesiredConfig (document : DesiredStateDocument) (identity : RealityIdentity)
    (statsApiPort : Nat) : Except RenderError (List Char) := do
  let shortId ← (parseShortId identity.shortId).mapError .config
  let target ← parseTarget document.xray.target.toList
  refuseWhen (document.xray.listenPort = 0) (.config .invalidListenPort)
  refuseWhen (statsApiPort = 0) (.config .invalidStatsApiPort)
  let serverNames ← parseServerNames document.xray.serverNames
  let users ← parseUsers document.users
  (ConfigBuilder.build
    { listenPort := document.xray.listenPort.toNat
      target := target
      privateKey := identity.privateKey
      serverNames := serverNames
      shortId := shortId
      users := users
      statsApiPort := statsApiPort }).mapError .config

/-! ### What the parsers accept -/

theorem validateDnsName_ok {value canonical : List Char}
    (h : validateDnsName value = .ok canonical) : canonical = value.map toLowercase := by
  simp only [validateDnsName, check_ok] at h
  exact (Except.ok.inj h.2.2).symm

theorem length_of_validateDnsName {value canonical : List Char}
    (h : validateDnsName value = .ok canonical) : canonical.length ≤ 253 := by
  have hcanon := validateDnsName_ok h
  simp only [validateDnsName, check_ok] at h
  have hcheck := refuse_ok.1 h.1
  simp only [not_or] at hcheck
  have hbs : Json.bytes value ≤ 253 := not_lt.1 hcheck.2.1
  have hascii : ∀ c ∈ value, c.toNat < 128 := by
    have hall := not_not.1 hcheck.2.2.2.2.1
    intro c hc
    exact of_decide_eq_true (List.all_eq_true.1 hall c hc)
  rw [hcanon, List.length_map, ← Json.bytes_eq_length hascii]
  exact hbs

theorem parseServerNames_ok {names : List String} {parsed : List (List Char)} :
    parseServerNames names = .ok parsed ↔
      (∀ name ∈ names, ∃ canonical, validateDnsName name.toList = .ok canonical)
        ∧ parsed = names.map fun name => name.toList.map toLowercase := by
  induction names generalizing parsed with
  | nil => simp [parseServerNames, eq_comm]
  | cons name names ih =>
    simp only [parseServerNames, bind_ok, mapError_ok, ih, List.mem_cons, forall_eq_or_imp,
      List.map_cons]
    constructor
    · rintro ⟨canonical, hname, rest, ⟨hnames, rfl⟩, hparsed⟩
      rw [← Except.ok.inj hparsed, validateDnsName_ok hname]
      exact ⟨⟨⟨canonical, hname⟩, hnames⟩, rfl⟩
    · rintro ⟨⟨⟨canonical, hname⟩, hnames⟩, rfl⟩
      refine ⟨canonical, hname, _, ⟨hnames, rfl⟩, ?_⟩
      rw [validateDnsName_ok hname]
      rfl

theorem length_userLabel (user : UserId) : (userLabel user).length = 41 := by
  delta userLabel
  rw [List.length_append, String.length_toList, String.length_toList, Uuid.length_text]
  rfl

/-- A member's label is always a legal one. -/
theorem parseUserEmail_userLabel (user : UserId) :
    parseUserEmail (userLabel user) = .ok (userLabel user) := by
  have hfixed : ("user-".toList.all fun c => c.toNat < 128 && isEmailCharacter c) = true := by
    decide
  have hchars : ∀ c ∈ userLabel user, c.toNat < 128 ∧ isEmailCharacter c = true := by
    intro c hc
    rcases List.mem_append.1 hc with hfix | hid
    · simpa using List.all_eq_true.1 hfixed c hfix
    rcases Uuid.mem_text hid with hdig | rfl
    · exact ⟨toNat_lt_of_isHexDigit hdig,
        by simp [isEmailCharacter, isAlphanumeric_of_isHexDigit hdig]⟩
    · decide
  have hlen := length_userLabel user
  have hbs : Json.bytes (userLabel user) = 41 := by
    rw [Json.bytes_eq_length fun c hc => (hchars c hc).1, hlen]
  have hhead : (userLabel user).head? = some 'u' := rfl
  obtain ⟨last, hlast, hdig⟩ := Uuid.getLast?_text user
  have hlabel : (userLabel user).getLast? = some last := by
    delta userLabel
    rw [List.getLast?_append, hlast]
    rfl
  have halpha := isAlphanumeric_of_isHexDigit hdig
  have hspace : isWhitespace last = false := by
    simp only [isHexDigit, Bool.or_eq_true, Bool.and_eq_true, decide_eq_true_eq] at hdig
    simp only [isWhitespace, Bool.or_eq_false_iff, Bool.and_eq_false_iff, decide_eq_false_iff_not]
    omega
  simp only [parseUserEmail, check_ok]
  refine ⟨refuse_ok.2 ?_, rfl⟩
  rw [hhead, hlabel, hbs]
  simp only [Option.any_some, not_or, not_not, List.all_eq_true, decide_eq_true_eq, hspace, halpha]
  refine ⟨?_, by decide, by decide, by decide, fun c hc => (hchars c hc).1,
    fun c hc => (hchars c hc).2, by decide, trivial⟩
  intro hemp
  rw [hemp] at hlen
  exact absurd hlen (by decide)

/-- The Xray user of a document user with a canonical VLESS UUID. -/
def vlessUser (user : DesiredUser) : VlessUser :=
  ⟨(Uuid.parse user.vlessUuid).getD 0, userLabel user.userId, user.enabled⟩

theorem vlessUser_new_ok {id : Uuid} {email : List Char} {enabled : Bool} {user : VlessUser} :
    VlessUser.new id email enabled = .ok user ↔ id ≠ 0 ∧ user = ⟨id, email, enabled⟩ := by
  simp only [VlessUser.new, check_ok]
  constructor
  · rintro ⟨hnil, huser⟩
    exact ⟨refuse_ok.1 hnil, (Except.ok.inj huser).symm⟩
  · rintro ⟨hnil, rfl⟩
    exact ⟨refuse_ok.2 hnil, rfl⟩

variable {users : List DesiredUser}

theorem parseUsers_ok {parsed : List VlessUser}
    (h : ∀ u ∈ users, (Uuid.parse u.vlessUuid).isSome) : parseUsers users = .ok parsed ↔
      (∀ u ∈ users, Uuid.parse u.vlessUuid ≠ some 0) ∧ parsed = users.map vlessUser := by
  induction users generalizing parsed with
  | nil => simp [parseUsers, eq_comm]
  | cons user users ih =>
    obtain ⟨id, hid⟩ := Option.isSome_iff_exists.1 (h user List.mem_cons_self)
    have htail : ∀ p, parseUsers users = .ok p ↔ _ := fun p =>
      ih fun u hu => h u (List.mem_cons_of_mem user hu)
    have hvless : parseVlessUuid user = .ok id := by simp only [parseVlessUuid, hid]
    have huser : vlessUser user = ⟨id, userLabel user.userId, user.enabled⟩ := by
      rw [vlessUser, hid, Option.getD_some]
    simp only [parseUsers, hvless, parseUserEmail_userLabel, bind_ok, mapError_ok,
      Except.ok.injEq, exists_eq_left', vlessUser_new_ok, htail, List.mem_cons,
      forall_eq_or_imp, List.map_cons, hid, huser, ne_eq, Option.some.injEq]
    constructor
    · rintro ⟨_, ⟨hnil, rfl⟩, _, ⟨hrest, rfl⟩, hparsed⟩
      exact ⟨⟨hnil, hrest⟩, (Except.ok.inj hparsed).symm⟩
    · rintro ⟨⟨hnil, hrest⟩, rfl⟩
      exact ⟨_, ⟨hnil, rfl⟩, _, ⟨hrest, rfl⟩, rfl⟩

theorem validateUserDuplicates_ok {ids : List Uuid} {emails : List (List Char)}
    {users : List VlessUser} : validateUserDuplicates ids emails users = .ok () ↔
      Unseen ids (users.map (·.id)) ∧ Unseen emails (users.map (·.email.map toLowercase)) := by
  induction users generalizing ids emails with
  | nil => simp [validateUserDuplicates]
  | cons user users ih =>
    simp only [validateUserDuplicates, check_ok, refuse_ok, ih, List.map_cons, unseen_cons]
    tauto

/-- In a sorted list equal elements stand side by side. -/
theorem hasAdjacentEqual_eq_false {l : List (List Char)} (hsort : l.Pairwise (· ≤ ·)) :
    hasAdjacentEqual l = false ↔ l.Nodup := by
  induction l with
  | nil => simp [hasAdjacentEqual]
  | cons a l ih =>
    obtain ⟨hfirst, htail⟩ := List.pairwise_cons.1 hsort
    cases l with
    | nil => simp [hasAdjacentEqual]
    | cons b rest =>
      have hrest := ih htail
      simp only [hasAdjacentEqual, Bool.or_eq_false_iff, decide_eq_false_iff_not, hrest,
        List.nodup_cons (a := a)]
      refine and_congr_left fun hnd => ⟨?_, fun hmem heq => hmem (heq ▸ List.mem_cons_self)⟩
      -- `a` is at most `b`, and everything after `b` is at least `b`
      intro hne hmem
      rcases List.mem_cons.1 hmem with heq | hlat
      · exact hne heq
      have hle := hfirst b List.mem_cons_self
      have hge := (List.pairwise_cons.1 htail).1 a hlat
      exact hne (le_antisymm hle hge)

/-- What a document must satisfy, beyond the protocol's checks, to be rendered. -/
structure Renderable (xray : DesiredXrayState) (users : List DesiredUser) : Prop where
  /-- The target is a public DNS name with a non-zero port. -/
  target : ∃ target, parseTarget xray.target.toList = .ok target
  /-- The server names are public DNS names. -/
  names : ∀ name ∈ xray.serverNames, ∃ canonical, validateDnsName name.toList = .ok canonical
  /-- They are still distinct in lower case. -/
  names_distinct : (xray.serverNames.map fun name => name.toList.map toLowercase).Nodup
  vless_distinct : (users.map (·.vlessUuid)).Nodup
  vless_not_nil : ∀ u ∈ users, u.vlessUuid ≠ Uuid.text 0

theorem parseShortId_ok (ident : RealityIdentity) :
    parseShortId ident.shortId = .ok (ident.shortId.map toLowercase) := by
  have hbs : Json.bytes ident.shortId = 16 := by
    rw [Json.bytes_eq_length fun c hc => toNat_lt_of_isHexDigit (ident.hex_shortId c hc),
      ident.length_shortId]
  simp only [parseShortId, check_ok]
  refine ⟨refuse_ok.2 ?_, rfl⟩
  rw [hbs]
  simp only [not_or, not_not, List.all_eq_true]
  exact ⟨by decide, by decide, by decide, ident.hex_shortId⟩

def builderOf (document : DesiredStateDocument) (identity : RealityIdentity) (statsApiPort : Nat)
    (target : RealityTarget) : ConfigBuilder where
  listenPort := document.xray.listenPort.toNat
  target := target
  privateKey := identity.privateKey
  serverNames := document.xray.serverNames.map fun name => name.toList.map toLowercase
  shortId := identity.shortId.map toLowercase
  users := document.users.map vlessUser
  statsApiPort := statsApiPort

theorem build_ok (builder : ConfigBuilder) (cfg : List Char) (hnames : builder.serverNames ≠ [])
    (hnamesCount : builder.serverNames.length ≤ 16) (husersCount : builder.users.length ≤ 10000)
    (hport : builder.listenPort ≠ builder.statsApiPort) : builder.build = .ok cfg ↔
    builder.serverNames.Nodup ∧ (builder.users.map (·.id)).Nodup ∧
    (builder.users.map (·.email.map toLowercase)).Nodup ∧ cfg = renderConfig builder.sorted := by
  have hpermNames : builder.sorted.serverNames.Perm builder.serverNames :=
    List.perm_insertionSort _ _
  have hpermUsers : builder.sorted.users.Perm builder.users := List.perm_insertionSort _ _
  have hsort : builder.sorted.serverNames.Pairwise (· ≤ ·) := List.pairwise_insertionSort _ _
  have hsizes : builder.validateCollectionSizes = .ok () := by
    simp only [ConfigBuilder.validateCollectionSizes, check_ok]
    exact ⟨refuse_ok.2 hnames, refuse_ok.2 (not_lt.2 hnamesCount),
      refuse_ok.2 (not_lt.2 husersCount)⟩
  simp only [ConfigBuilder.build, check_ok, hsizes, refuse_ok, Bool.not_eq_true,
    hasAdjacentEqual_eq_false hsort, validateUserDuplicates_ok, unseen_nil_left,
    hpermNames.nodup_iff, (hpermUsers.map _).nodup_iff, true_and]
  constructor
  · rintro ⟨hdist, ⟨hids, hemails⟩, -, hconfig⟩
    exact ⟨hdist, hids, hemails, (Except.ok.inj hconfig).symm⟩
  · rintro ⟨hdist, hids, hemails, rfl⟩
    exact ⟨hdist, ⟨hids, hemails⟩, hport, rfl⟩

theorem map_toLowercase_userLabel (user : UserId) :
    (userLabel user).map toLowercase = userLabel user := by
  have hfixed : ("user-".toList.all fun c => !isUppercase c) = true := by decide
  refine (List.map_congr_left fun c hc => ?_).trans (List.map_id _)
  have hlow : isUppercase c = false := by
    rcases List.mem_append.1 hc with hfix | hid
    · simpa using List.all_eq_true.1 hfixed c hfix
    have hnot := Uuid.not_uppercase_of_mem_text hid
    simp only [isUppercase, Bool.and_eq_false_iff, decide_eq_false_iff_not]
    omega
  rw [toLowercase, hlow]
  rfl

theorem userLabel_injective : Function.Injective userLabel := by
  intro a b h
  have htext := List.append_cancel_left h
  exact Uuid.text_injective (String.toList_inj.1 htext)

theorem labels_nodup (h : (users.map (·.userId)).Nodup) :
    ((users.map vlessUser).map (·.email.map toLowercase)).Nodup := by
  have hlabels := h.map userLabel_injective
  rw [List.map_map] at hlabels ⊢
  have hsame : ((fun v : VlessUser => v.email.map toLowercase) ∘ vlessUser)
      = userLabel ∘ (·.userId) := by
    funext u
    exact map_toLowercase_userLabel u.userId
  rwa [hsame]

/-- VLESS identities are as distinct as their canonical texts. -/
theorem vless_nodup_iff (h : ∀ u ∈ users, (Uuid.parse u.vlessUuid).isSome) :
    ((users.map vlessUser).map (·.id)).Nodup ↔ (users.map (·.vlessUuid)).Nodup := by
  have htext : users.map (·.vlessUuid) = ((users.map vlessUser).map (·.id)).map Uuid.text := by
    rw [List.map_map, List.map_map]
    refine List.map_congr_left fun u hu => ?_
    obtain ⟨id, hid⟩ := Option.isSome_iff_exists.1 (h u hu)
    show u.vlessUuid = ((Uuid.parse u.vlessUuid).getD 0).text
    rw [hid, Option.getD_some, Uuid.text_of_parse hid]
  rw [htext, List.nodup_map_iff Uuid.text_injective]

theorem parse_ne_nil_iff {user : DesiredUser} (h : (Uuid.parse user.vlessUuid).isSome) :
    Uuid.parse user.vlessUuid ≠ some 0 ↔ user.vlessUuid ≠ Uuid.text 0 := by
  obtain ⟨id, hid⟩ := Option.isSome_iff_exists.1 h
  rw [← Uuid.text_of_parse hid, Uuid.parse_text]
  exact not_congr ⟨fun heq => congrArg _ (Option.some.inj heq),
    fun heq => congrArg _ (Uuid.text_injective heq)⟩

/-- The facts about a document that the protocol's checks leave behind. -/
structure ProtocolChecked (document : DesiredStateDocument) (statsApiPort : Nat) : Prop where
  listenPort : document.xray.listenPort ≠ 0
  statsPort : statsApiPort ≠ 0
  ports : document.xray.listenPort.toNat ≠ statsApiPort
  names : document.xray.serverNames ≠ []
  names_count : document.xray.serverNames.length ≤ 16
  users_count : document.users.length ≤ 10000
  users_distinct : (document.users.map (·.userId)).Nodup
  vless : ∀ u ∈ document.users, (Uuid.parse u.vlessUuid).isSome = true

/-- A checked document is rendered exactly if its names, target and VLESS identities pass the
stricter rules of the configuration. -/
theorem renderDesiredConfig_ok {document : DesiredStateDocument} {ident : RealityIdentity}
    {statsApiPort : Nat} (h : ProtocolChecked document statsApiPort) {cfg : List Char} :
    renderDesiredConfig document ident statsApiPort = .ok cfg ↔
    Renderable document.xray document.users ∧ ∃ tgt, parseTarget document.xray.target.toList =
    .ok tgt ∧ cfg = renderConfig (builderOf document ident statsApiPort tgt).sorted := by
  have hbuild := fun tgt => build_ok (builderOf document ident statsApiPort tgt) cfg
    (by simpa [builderOf] using h.names) (by simpa [builderOf] using h.names_count)
    (by simpa [builderOf] using h.users_count) h.ports
  simp only [renderDesiredConfig, parseShortId_ok, bind_ok, mapError_ok, Except.ok.injEq,
    exists_eq_left', parseServerNames_ok, parseUsers_ok h.vless]
  constructor
  · rintro ⟨tgt, htarget, _, -, _, -, _, ⟨hnames, rfl⟩, _, ⟨hnil, rfl⟩, hconfig⟩
    obtain ⟨hdist, hids, -, hrendered⟩ := (hbuild tgt).mp hconfig
    refine ⟨⟨⟨tgt, htarget⟩, hnames, hdist, (vless_nodup_iff h.vless).mp hids, ?_⟩, tgt, htarget,
      hrendered⟩
    exact fun u hu => (parse_ne_nil_iff (h.vless u hu)).mp (hnil u hu)
  · rintro ⟨hrend, tgt, htarget, hconfig⟩
    refine ⟨tgt, htarget, (), refuse_ok.2 h.listenPort, (),
      refuse_ok.2 h.statsPort, _, ⟨hrend.names, rfl⟩, _, ⟨?_, rfl⟩, ?_⟩
    · exact fun u hu => (parse_ne_nil_iff (h.vless u hu)).mpr (hrend.vless_not_nil u hu)
    · exact (hbuild tgt).mpr ⟨hrend.names_distinct, (vless_nodup_iff h.vless).mpr
        hrend.vless_distinct, labels_nodup h.users_distinct, hconfig⟩

end RealityConsole.NodeHost
