import RealityConsole.Protocol.Transcript

/-!
# Transcripts determine what they are about

Every transcript begins with the domain of its kind, and its fields can be read back one by one; so
two values with one transcript are of one kind and agree in every field. A bundle's transcript sorts
its encrypted profiles. No transcript has the length of a digest.
-/

namespace RealityConsole.Protocol.Wire

open Framework

variable {clock : TimestampText} {transcript : Bytes}

/-! ### Fields -/

@[simp] theorem text_inj {label a b : String} : text label a = text label b ↔ a = b := by
  constructor
  · intro h
    exact textBytes_inj (congrArg Field.value h)
  · rintro rfl
    rfl

variable {label : String}

theorem word_inj {width a b : Nat} (ha : a < 256 ^ width) (hb : b < 256 ^ width) :
    word label width a = word label width b ↔ a = b := by
  constructor
  · intro h
    exact bigEndian_inj ha hb (congrArg Field.value h)
  · rintro rfl
    rfl

@[simp] theorem uuidText_inj {a b : Uuid} : a.text = b.text ↔ a = b :=
  Uuid.text_injective.eq_iff

/-- A number of sixteen bits in a field that has room for it. -/
@[simp] theorem word16_inj {width : Nat} {a b : UInt16} (h : 2 ≤ width) :
    word label width a.toNat = word label width b.toNat ↔ a = b := by
  have hroom : 256 ^ 2 ≤ 256 ^ width := Nat.pow_le_pow_right (by decide) h
  rw [word_inj (lt_of_lt_of_le a.toNat_lt hroom) (lt_of_lt_of_le b.toNat_lt hroom)]
  exact UInt16.toNat_inj

@[simp] theorem word32_inj {width : Nat} {a b : UInt32} (h : 4 ≤ width) :
    word label width a.toNat = word label width b.toNat ↔ a = b := by
  have hroom : 256 ^ 4 ≤ 256 ^ width := Nat.pow_le_pow_right (by decide) h
  rw [word_inj (lt_of_lt_of_le a.toNat_lt hroom) (lt_of_lt_of_le b.toNat_lt hroom)]
  exact UInt32.toNat_inj

@[simp] theorem word64_inj {a b : UInt64} :
    word label 8 a.toNat = word label 8 b.toNat ↔ a = b := by
  rw [word_inj (lt_of_lt_of_le a.toNat_lt (by decide)) (lt_of_lt_of_le b.toNat_lt (by decide))]
  exact UInt64.toNat_inj

theorem timestampText_inj {a b : Instant} {s : String}
    (ha : timestampText clock a = .ok s) (hb : timestampText clock b = .ok s) : a = b :=
  clock.injective (required_ok.1 ha) (required_ok.1 hb)

theorem Sha256Digest.asStr_inj {a b : Sha256Digest} : a.asStr = b.asStr ↔ a = b := by
  constructor
  · intro h
    have hdigs := List.append_cancel_left (String.ofList_injective h)
    have hnum := congrArg hexNumber hdigs
    have hroom : ∀ d : BitVec 256, d.toNat < 16 ^ 64 := fun d => lt_of_lt_of_eq d.isLt (by decide)
    rw [hexNumber_hexDigits (hroom a.bits), hexNumber_hexDigits (hroom b.bits)] at hnum
    have hbits : a.bits = b.bits := BitVec.eq_of_toNat_eq hnum
    cases a
    cases b
    exact congrArg _ hbits
  · rintro rfl
    rfl

theorem Sha256Digest.raw_inj {a b : Sha256Digest} : a.raw = b.raw ↔ a = b := by
  constructor
  · intro h
    have hroom : ∀ d : BitVec 256, d.toNat < 256 ^ 32 := fun d => lt_of_lt_of_eq d.isLt (by decide)
    have hbits : a.bits = b.bits :=
      BitVec.eq_of_toNat_eq (bigEndian_inj (hroom a.bits) (hroom b.bits) h)
    cases a
    cases b
    exact congrArg _ hbits
  · rintro rfl
    rfl

theorem checkCount_ok {n : Nat} : checkCount n = .ok () ↔ n < 256 ^ 4 := by simp [checkCount]

theorem transcriptOf_inj {domain domain' : String} {fields fields' : List Field}
    (h : transcriptOf domain fields = .ok transcript)
    (h' : transcriptOf domain' fields' = .ok transcript) : domain = domain' ∧ fields = fields' := by
  have hfields := encodeFields_inj (required_ok.1 h) (required_ok.1 h')
  obtain ⟨hdom, hrest⟩ := List.cons.inj hfields
  exact ⟨text_inj.1 hdom, hrest⟩

/-! ### Desired states -/

attribute [ext] DesiredXrayState

theorem length_userFields (user : DesiredUser) : (userFields user).length = 4 := rfl

theorem userFields_injective : Function.Injective userFields := by
  rintro ⟨user, cred, vless, enabled⟩ ⟨user', cred', vless', enabled'⟩ h
  simp only [userFields, List.cons.injEq, text_inj, uuidText_inj] at h
  obtain ⟨rfl, rfl, rfl, henab, -⟩ := h
  cases enabled <;> cases enabled'
  · rfl
  · exact absurd ((word_inj (by decide) (by decide)).mp henab) (by decide)
  · exact absurd ((word_inj (by decide) (by decide)).mp henab) (by decide)
  · rfl

theorem length_portFields {schemaVersion : UInt16} {xray : DesiredXrayState} {ports : List Field}
    (h : portFields schemaVersion xray = .ok ports) :
    ports.length = if schemaVersion = 1 then 1 else 2 := by
  unfold portFields at h
  split at h
  · cases h
    rw [if_pos (by assumption)]
    rfl
  · obtain ⟨publicPort, h⟩ := rest_ok h
    cases h
    rw [if_neg (by assumption)]
    rfl

variable {domain : String}

theorem portFields_inj {a b : DesiredState} {ports : List Field}
    (hschema : a.schemaVersion = b.schemaVersion) (ha : a.domain = .ok domain)
    (hb : b.domain = .ok domain) (hports : portFields a.schemaVersion a.xray = .ok ports)
    (hports' : portFields b.schemaVersion b.xray = .ok ports) :
    a.xray.listenPort = b.xray.listenPort ∧ a.xray.publicPort = b.xray.publicPort := by
  unfold portFields at hports hports'
  rw [← hschema] at hports'
  split at hports
  · -- the first schema has no public port
    rename_i hone
    rw [if_pos hone] at hports'
    have hfields := (Except.ok.inj hports).trans (Except.ok.inj hports').symm
    have hnone : ∀ {d : DesiredState}, d.schemaVersion = 1 → d.domain = .ok domain →
        d.xray.publicPort = none := by
      intro d hvers hdom
      rw [DesiredState.domain, if_pos hvers] at hdom
      split at hdom
      · exact Option.isNone_iff_eq_none.1 (by assumption)
      · cases hdom
    simp only [List.cons.injEq, and_true] at hfields
    exact ⟨(word16_inj le_rfl).mp hfields, (hnone hone ha).trans (hnone (hschema ▸ hone) hb).symm⟩
  · rename_i htwo
    rw [if_neg htwo] at hports'
    obtain ⟨port, hport, h⟩ := bind_ok.1 hports
    obtain ⟨port', hport', h'⟩ := bind_ok.1 hports'
    have hfields := (Except.ok.inj h).trans (Except.ok.inj h').symm
    simp only [List.cons.injEq, and_true] at hfields
    refine ⟨(word16_inj le_rfl).mp hfields.1, ?_⟩
    rw [required_ok.1 hport, required_ok.1 hport', (word16_inj le_rfl).mp hfields.2]

theorem DesiredState.transcript_inj {a b : DesiredState} (ha : a.transcript clock = .ok transcript)
    (hb : b.transcript clock = .ok transcript) : a = b := by
  obtain ⟨domain, hdom, ha⟩ := bind_ok.1 ha
  obtain ⟨created, hcreated, ha⟩ := bind_ok.1 ha
  obtain ⟨_, husr, ha⟩ := bind_ok.1 ha
  obtain ⟨ports, hports, ha⟩ := bind_ok.1 ha
  obtain ⟨_, hnames, ha⟩ := bind_ok.1 ha
  obtain ⟨domain', hdom', hb⟩ := bind_ok.1 hb
  obtain ⟨created', hcreated', hb⟩ := bind_ok.1 hb
  obtain ⟨_, husr', hb⟩ := bind_ok.1 hb
  obtain ⟨ports', hports', hb⟩ := bind_ok.1 hb
  obtain ⟨_, hnames', hb⟩ := bind_ok.1 hb
  obtain ⟨rfl, hfields⟩ := transcriptOf_inj ha hb
  simp only [List.cons.injEq, text_inj, uuidText_inj, word64_inj,
    word_inj (checkCount_ok.1 husr) (checkCount_ok.1 husr')] at hfields
  obtain ⟨hschema, hnet, hnode, hrev, rfl, hvers, hkey, hinst, hcount, hrest⟩ := hfields
  have hschema := (word16_inj le_rfl).mp hschema
  obtain ⟨husersEq, hxray⟩ := flatMap_append_inj length_userFields userFields_injective hcount hrest
  have hlen : ports.length = ports'.length := by
    rw [length_portFields hports, length_portFields hports', hschema]
  obtain ⟨rfl, hnaming⟩ := List.append_inj hxray hlen
  obtain ⟨hnameCount, hnameList⟩ := List.cons.inj hnaming
  have hnameCount := (word_inj (checkCount_ok.1 hnames) (checkCount_ok.1 hnames')).mp hnameCount
  have hnameInj : Function.Injective fun name => [text "server-name" name] := by
    intro x y h
    exact text_inj.1 (List.cons.inj h).1
  have hnameLength : ∀ name, [text "server-name" name].length = 1 := fun _ => rfl
  obtain ⟨hnamesEq, htarget⟩ := flatMap_append_inj hnameLength hnameInj hnameCount hnameList
  have htarget := text_inj.1 (List.cons.inj htarget).1
  obtain ⟨hlisten, hpubl⟩ := portFields_inj hschema hdom hdom' hports hports'
  exact DesiredState.ext hschema hnet hnode hrev (timestampText_inj hcreated hcreated')
    hvers husersEq (DesiredXrayState.ext hlisten hpubl hnamesEq htarget) hkey hinst

/-! ### Relay documents -/

variable {fields : List Field}

@[simp] theorem length_headerFields {hdr : RelayHeader}
    (h : hdr.fields clock = .ok fields) : fields.length = 20 := by
  obtain ⟨_, h⟩ := rest_ok h
  obtain ⟨_, h⟩ := rest_ok h
  obtain ⟨_, h⟩ := rest_ok h
  cases h
  rfl

theorem headerFields_inj {a b : RelayHeader}
    (ha : a.fields clock = .ok fields) (hb : b.fields clock = .ok fields) : a = b := by
  obtain ⟨issued, hiss, ha⟩ := bind_ok.1 ha
  obtain ⟨start, hbeg, ha⟩ := bind_ok.1 ha
  obtain ⟨expiry, hexp, ha⟩ := bind_ok.1 ha
  obtain ⟨issued', hiss', hb⟩ := bind_ok.1 hb
  obtain ⟨start', hbeg', hb⟩ := bind_ok.1 hb
  obtain ⟨expiry', hexp', hb⟩ := bind_ok.1 hb
  have hfields := (Except.ok.inj ha).trans (Except.ok.inj hb).symm
  simp only [List.cons.injEq, text_inj, uuidText_inj, word64_inj, and_true] at hfields
  obtain ⟨hschema, hnet, hnode, hrel, hrt, hgr, hgen, hendp, hhost, hport,
    htunnel, htunp, hserver, rfl, rfl, rfl, hstreams, hrate, hconn, hmon⟩ := hfields
  have hschema := (word16_inj (by decide)).mp hschema
  have hport := (word16_inj (by decide)).mp hport
  have htunp := (word16_inj (by decide)).mp htunp
  have hstreams := (word32_inj (by decide)).mp hstreams
  exact RelayHeader.ext hschema hnet hnode hrel hrt hgr hgen hendp hhost hport htunnel htunp hserver
    (timestampText_inj hiss hiss') (timestampText_inj hbeg hbeg') (timestampText_inj hexp hexp')
    (RelayLimits.ext hstreams hrate hconn hmon)

theorem RelayAssignment.transcript_inj {a b : RelayAssignment}
    (ha : a.transcript clock = .ok transcript) (hb : b.transcript clock = .ok transcript) :
    a = b := by
  obtain ⟨_, ha⟩ := rest_ok ha
  obtain ⟨hdr, hhead, ha⟩ := bind_ok.1 ha
  obtain ⟨_, hb⟩ := rest_ok hb
  obtain ⟨hdr', hhead', hb⟩ := bind_ok.1 hb
  obtain ⟨-, hfields⟩ := transcriptOf_inj ha hb
  obtain ⟨rfl, hrest⟩ := List.append_inj hfields
    ((length_headerFields hhead).trans (length_headerFields hhead').symm)
  simp only [List.cons.injEq, text_inj, uuidText_inj, and_true, true_and] at hrest
  obtain ⟨hephemeral, hnonce, hciphertext, hkey⟩ := hrest
  exact RelayAssignment.ext (headerFields_inj hhead hhead') hephemeral hnonce hciphertext hkey

theorem RelayRoute.transcript_inj {a b : RelayRoute} (ha : a.transcript clock = .ok transcript)
    (hb : b.transcript clock = .ok transcript) : a = b := by
  obtain ⟨_, ha⟩ := rest_ok ha
  obtain ⟨hdr, hhead, ha⟩ := bind_ok.1 ha
  obtain ⟨_, hb⟩ := rest_ok hb
  obtain ⟨hdr', hhead', hb⟩ := bind_ok.1 hb
  obtain ⟨-, hfields⟩ := transcriptOf_inj ha hb
  obtain ⟨rfl, hrest⟩ := List.append_inj hfields
    ((length_headerFields hhead).trans (length_headerFields hhead').symm)
  simp only [List.cons.injEq, text_inj, uuidText_inj, Sha256Digest.asStr_inj, and_true] at hrest
  obtain ⟨htok, hcert, hkey⟩ := hrest
  exact RelayRoute.ext (headerFields_inj hhead hhead') htok hcert hkey

/-! ### Node requests and device proofs -/

theorem NodeRequestMethod.asStr_inj {a b : NodeRequestMethod} (h : a.asStr = b.asStr) : a = b := by
  cases a <;> cases b <;> first | rfl | exact absurd h (by decide)

theorem NodeRequest.transcript_inj {a b : NodeRequest} (ha : a.transcript clock = .ok transcript)
    (hb : b.transcript clock = .ok transcript) : a = b := by
  obtain ⟨time, htime, ha⟩ := bind_ok.1 ha
  obtain ⟨time', htime', hb⟩ := bind_ok.1 hb
  obtain ⟨-, hfields⟩ := transcriptOf_inj ha hb
  simp only [List.cons.injEq, text_inj, uuidText_inj, Field.mk.injEq, Sha256Digest.raw_inj,
    and_true, true_and] at hfields
  obtain ⟨hmethod, hpath, rfl, hnonce, hbody, hinst⟩ := hfields
  exact NodeRequest.ext (NodeRequestSigningInput.ext (NodeRequestMethod.asStr_inj hmethod) hpath
    hbody) (timestampText_inj htime htime') hnonce hinst

theorem enrollmentFields_injective : Function.Injective DeviceEnrollment.fields := by
  rintro ⟨_, _, _, _, _, _⟩ ⟨_, _, _, _, _, _⟩ h
  simp only [DeviceEnrollment.fields, List.cons.injEq, text_inj, and_true] at h
  obtain ⟨rfl, rfl, rfl, rfl, rfl, rfl⟩ := h
  rfl

theorem ActivationProof.transcript_inj {a b : ActivationProof}
    (ha : a.transcript clock = .ok transcript) (hb : b.transcript clock = .ok transcript) :
    a = b := by
  obtain ⟨expiry, hexp, ha⟩ := bind_ok.1 ha
  obtain ⟨expiry', hexp', hb⟩ := bind_ok.1 hb
  obtain ⟨-, hfields⟩ := transcriptOf_inj ha hb
  simp only [List.cons.injEq, text_inj, uuidText_inj] at hfields
  obtain ⟨hid, rfl, horigin, henr⟩ := hfields
  exact ActivationProof.ext hid (timestampText_inj hexp hexp') horigin
    (enrollmentFields_injective henr)

theorem LoginProof.transcript_inj {a b : LoginProof} (ha : a.transcript = .ok transcript)
    (hb : b.transcript = .ok transcript) : a = b := by
  obtain ⟨-, hfields⟩ := transcriptOf_inj ha hb
  simp only [List.cons.injEq, text_inj] at hfields
  obtain ⟨hacct, horigin, henr⟩ := hfields
  exact LoginProof.ext hacct horigin (enrollmentFields_injective henr)

/-! ### Profile bundles -/

theorem jsonBytes_inj {a b : Json.Value} : jsonBytes a = jsonBytes b ↔ a = b := by
  constructor
  · intro h
    exact Json.render_injective (String.ofList_injective (textBytes_inj h))
  · rintro rfl
    rfl

theorem encryptedProfileJson_injective : Function.Injective EncryptedProfile.json := by
  rintro ⟨_, _, _, _⟩ ⟨_, _, _, _⟩ h
  simp only [EncryptedProfile.json, Json.Value.object.injEq, List.cons.injEq, Prod.mk.injEq,
    Json.Value.text.injEq, true_and, and_true] at h
  obtain ⟨hnode, rfl, rfl, rfl⟩ := h
  obtain rfl := Uuid.text_injective hnode
  rfl

theorem optionalText_injective : Function.Injective optionalText := by
  intro a b h
  cases a <;> cases b <;> simp_all [optionalText]

theorem endpointModeName_injective : Function.Injective endpointModeName := by
  intro a b h
  cases a <;> cases b <;> first | rfl | exact absurd h (by decide)

theorem accountStatusName_injective : Function.Injective accountStatusName := by
  intro a b h
  cases a <;> cases b <;> first | rfl | exact absurd h (by decide)

theorem replacementJson_injective : Function.Injective replacementJson := by
  rintro (_ | ⟨_, _⟩) (_ | ⟨_, _⟩) h
  · rfl
  · cases h
  · cases h
  simp only [replacementJson, Json.Value.object.injEq, List.cons.injEq, Prod.mk.injEq,
    Json.Value.text.injEq, true_and, and_true] at h
  obtain ⟨hbun, rfl⟩ := h
  obtain rfl := Uuid.text_injective hbun
  rfl

theorem descriptorJson_injective : Function.Injective Descriptor.json := by
  intro a b h
  simp only [Descriptor.json, Json.Value.object.injEq, List.cons.injEq, Prod.mk.injEq,
    Json.Value.text.injEq, Json.Value.number.injEq, true_and, and_true, UInt16.toNat_inj] at h
  obtain ⟨hnode, hname, hregion, hmode, hdigest, hpriority⟩ := h
  exact Descriptor.ext (Uuid.text_injective hnode) hname (optionalText_injective hregion)
    (endpointModeName_injective hmode) (Sha256Digest.asStr_inj.1 hdigest) hpriority

theorem hintsJson_injective : Function.Injective Hints.json := by
  intro a b h
  simp only [Hints.json, Json.Value.object.injEq, List.cons.injEq, Prod.mk.injEq,
    Json.Value.number.injEq, true_and, and_true, UInt16.toNat_inj, UInt32.toNat_inj] at h
  exact Hints.ext h.1 h.2.1 h.2.2

variable {value : Json.Value}

theorem manifestJson_inj {a b : Manifest} (ha : a.json clock = .ok value)
    (hb : b.json clock = .ok value) : a = b := by
  obtain ⟨issued, hiss, ha⟩ := bind_ok.1 ha
  obtain ⟨start, hbeg, ha⟩ := bind_ok.1 ha
  obtain ⟨refresh, hrefresh, ha⟩ := bind_ok.1 ha
  obtain ⟨expiry, hexp, ha⟩ := bind_ok.1 ha
  obtain ⟨issued', hiss', hb⟩ := bind_ok.1 hb
  obtain ⟨start', hbeg', hb⟩ := bind_ok.1 hb
  obtain ⟨refresh', hrefresh', hb⟩ := bind_ok.1 hb
  obtain ⟨expiry', hexp', hb⟩ := bind_ok.1 hb
  have h := (Except.ok.inj ha).trans (Except.ok.inj hb).symm
  simp only [Json.Value.object.injEq, List.cons.injEq, Prod.mk.injEq, Json.Value.text.injEq,
    Json.Value.number.injEq, Json.Value.array.injEq, true_and, and_true, UInt16.toNat_inj,
    UInt64.toNat_inj] at h
  obtain ⟨hschema, hformat, hbun, hnet, huser, hdev, hkey, hinst, hgen, rfl,
    rfl, rfl, rfl, hvers, hstat, hprofiles, hhints, hreplacement⟩ := h
  exact Manifest.ext hschema hformat (Uuid.text_injective hbun) (Uuid.text_injective hnet)
    (Uuid.text_injective huser) (Uuid.text_injective hdev) (Uuid.text_injective hkey)
    (Uuid.text_injective hinst) hgen (timestampText_inj hiss hiss') (timestampText_inj hbeg hbeg')
    (timestampText_inj hrefresh hrefresh') (timestampText_inj hexp hexp') hvers
    (accountStatusName_injective hstat) (descriptorJson_injective.list_map hprofiles)
    (hintsJson_injective hhints) (replacementJson_injective hreplacement)

theorem profileFields_injective : Function.Injective profileFields := by
  intro a b h
  simp only [profileFields, List.cons.injEq, Field.mk.injEq, jsonBytes_inj, true_and, and_true] at h
  exact encryptedProfileJson_injective h.2

theorem perm_sortProfiles (profiles : List EncryptedProfile) :
    (sortProfiles profiles).Perm profiles :=
  List.perm_insertionSort _ _

theorem Bundle.transcript_inj {a b : Bundle} (ha : a.transcript clock = .ok transcript)
    (hb : b.transcript clock = .ok transcript) :
    a.manifest = b.manifest ∧ a.encryptedProfiles.Perm b.encryptedProfiles := by
  obtain ⟨manifest, hmani, ha⟩ := bind_ok.1 ha
  obtain ⟨_, hprofiles, ha⟩ := bind_ok.1 ha
  obtain ⟨manifest', hmani', hb⟩ := bind_ok.1 hb
  obtain ⟨_, hprofiles', hb⟩ := bind_ok.1 hb
  obtain ⟨-, hfields⟩ := transcriptOf_inj ha hb
  simp only [List.cons.injEq, Field.mk.injEq, jsonBytes_inj, true_and,
    word_inj (checkCount_ok.1 hprofiles) (checkCount_ok.1 hprofiles')] at hfields
  obtain ⟨rfl, hcount, hsort⟩ := hfields
  refine ⟨manifestJson_inj hmani hmani', ?_⟩
  have hlen : (sortProfiles a.encryptedProfiles).length =
      (sortProfiles b.encryptedProfiles).length := by
    rw [(perm_sortProfiles _).length_eq, (perm_sortProfiles _).length_eq, hcount]
  have hfieldCount : ∀ profile, (profileFields profile).length = 2 := fun _ => rfl
  have hsort' := congrArg (· ++ ([] : List Field)) hsort
  obtain ⟨hsame, -⟩ := flatMap_append_inj hfieldCount profileFields_injective hlen hsort'
  exact (perm_sortProfiles _).symm.trans (hsame ▸ perm_sortProfiles _)

/-! ### Account requests -/

theorem requestTranscript_eq (req : AccountRequest) :
    req.transcript = textBytes (req.domain ++ String.ofList req.json.render) := by
  simp [AccountRequest.transcript, jsonBytes, textBytes]

theorem requestJson_inj {a b : AccountRequest} (hdom : a.domain = b.domain)
    (h : a.json = b.json) : a = b := by
  cases a <;> cases b <;>
    first
    | exact absurd hdom (by decide)
    | (simp only [AccountRequest.json, Json.Value.object.injEq, List.cons.injEq, Prod.mk.injEq,
        Json.Value.text.injEq, Json.Value.number.injEq, true_and, and_true,
        UInt32.toNat_inj] at h
       simp_all [DeviceEnrollment.ext_iff])

def requestDomains : List String :=
  ["private-network/member-login-request/v1\x00", "private-network/member-refresh-request/v1\x00",
    "account-reset-issue/v1\x00", "account-reset-consume/v1\x00"]

theorem domain_mem_requestDomains (req : AccountRequest) : req.domain ∈ requestDomains := by
  cases req <;> simp [AccountRequest.domain, requestDomains]

theorem requestDomains_unrelated :
    ∀ a ∈ requestDomains, ∀ b ∈ requestDomains, a.toList <+: b.toList → a = b := by decide +kernel

theorem requestDomain_inj {a b : AccountRequest} {rest rest' : List Char}
    (h : a.domain.toList ++ rest = b.domain.toList ++ rest') : a.domain = b.domain := by
  have ha := domain_mem_requestDomains a
  have hb := domain_mem_requestDomains b
  rcases List.prefix_or_prefix_of_prefix (List.prefix_append _ rest)
    (h ▸ List.prefix_append _ rest') with hab | hba
  · exact requestDomains_unrelated _ ha _ hb hab
  · exact (requestDomains_unrelated _ hb _ ha hba).symm

theorem AccountRequest.transcript_injective : Function.Injective AccountRequest.transcript := by
  intro a b h
  rw [requestTranscript_eq, requestTranscript_eq] at h
  have hchars := congrArg String.toList (textBytes_inj h)
  simp only [String.toList_append, String.toList_ofList] at hchars
  have hdom := requestDomain_inj hchars
  rw [hdom] at hchars
  exact requestJson_inj hdom (Json.render_injective (List.append_cancel_left hchars))

/-! ### Telling the kinds apart -/

def Signed.kind : Signed → Fin 8
  | .desiredState _ => 0
  | .relayAssignment _ => 1
  | .relayRoute _ => 2
  | .nodeRequest _ => 3
  | .activationProof _ => 4
  | .loginProof _ => 5
  | .bundle _ => 6
  | .accountRequest _ => 7

/-- The domains of the kinds that are written as fields. -/
def fieldDomains : Fin 8 → List String
  | 0 => ["control/desired-state/v1", "control/desired-state/v2"]
  | 1 => ["control/relay/signed-assignment/v1"]
  | 2 => ["control/relay/signed-route/v1"]
  | 3 => ["control/node-request/v1"]
  | 4 => ["control/device-activation/proof/v1"]
  | 5 => ["control/device-login/proof/v1"]
  | 6 => ["control/profile-bundle/signature/v1"]
  | 7 => []

theorem fieldDomains_disjoint :
    ∀ i j : Fin 8, ∀ domain ∈ fieldDomains i, domain ∈ fieldDomains j → i = j := by decide

theorem DesiredState.domain_cases {doc : DesiredState} (h : doc.domain = .ok domain) :
    domain = "control/desired-state/v1" ∨ domain = "control/desired-state/v2" := by
  unfold DesiredState.domain at h
  split at h
  · split at h
    · exact .inl (Except.ok.inj h).symm
    · cases h
  split at h
  · split at h
    · exact .inr (Except.ok.inj h).symm
    · cases h
  · cases h

theorem Signed.transcript_cases {value : Signed} (h : value.transcript clock = .ok transcript) :
    (∃ req, value = .accountRequest req ∧ req.transcript = transcript) ∨
    ∃ domain ∈ fieldDomains value.kind, ∃ fields, transcriptOf domain fields = .ok transcript := by
  cases value with
  | desiredState document =>
    obtain ⟨domain, hdom, h⟩ := bind_ok.1 h
    obtain ⟨_, h⟩ := rest_ok h
    obtain ⟨_, h⟩ := rest_ok h
    obtain ⟨_, h⟩ := rest_ok h
    obtain ⟨_, h⟩ := rest_ok h
    refine .inr ⟨domain, ?_, _, h⟩
    rcases DesiredState.domain_cases hdom with rfl | rfl <;>
      simp [Signed.kind, fieldDomains]
  | relayAssignment assignment =>
    obtain ⟨_, h⟩ := rest_ok h
    obtain ⟨_, h⟩ := rest_ok h
    exact .inr ⟨_, List.mem_singleton_self _, _, h⟩
  | relayRoute route =>
    obtain ⟨_, h⟩ := rest_ok h
    obtain ⟨_, h⟩ := rest_ok h
    exact .inr ⟨_, List.mem_singleton_self _, _, h⟩
  | nodeRequest req =>
    obtain ⟨_, h⟩ := rest_ok h
    exact .inr ⟨_, List.mem_singleton_self _, _, h⟩
  | activationProof proof =>
    obtain ⟨_, h⟩ := rest_ok h
    exact .inr ⟨_, List.mem_singleton_self _, _, h⟩
  | loginProof proof => exact .inr ⟨_, List.mem_singleton_self _, _, h⟩
  | bundle value =>
    obtain ⟨_, h⟩ := rest_ok h
    obtain ⟨_, h⟩ := rest_ok h
    exact .inr ⟨_, List.mem_singleton_self _, _, h⟩
  | accountRequest req => exact .inl ⟨req, rfl, Except.ok.inj h⟩

/-- A list of fields starts with the length of the word "domain", whose first byte is zero. -/
theorem head_transcriptOf
    (h : transcriptOf domain fields = .ok transcript) : transcript.head? = some 0 := by
  obtain ⟨-, rest, -, rfl⟩ := encodeFields_cons.1 (required_ok.1 h)
  have hlen : bigEndian 2 (textBytes "domain").length = [0, 6] := by decide
  simp [Field.bytes, text, hlen]

theorem head_requestTranscript (req : AccountRequest) : req.transcript.head? ≠ some 0 := by
  have hletters : ∀ domain ∈ requestDomains,
      (textBytes domain).head?.isSome ∧ (textBytes domain).head? ≠ some 0 := by decide
  obtain ⟨hsome, hletter⟩ := hletters _ (domain_mem_requestDomains req)
  rwa [AccountRequest.transcript, List.head?_append, Option.or_of_isSome hsome]

theorem Signed.kind_eq_of_transcript {a b : Signed} (ha : a.transcript clock = .ok transcript)
    (hb : b.transcript clock = .ok transcript) : a.kind = b.kind := by
  rcases Signed.transcript_cases ha with ⟨req, rfl, hreq⟩ | ⟨domain, hdom, _, hfields⟩
  · rcases Signed.transcript_cases hb with ⟨req', rfl, -⟩ | ⟨_, -, _, hfields'⟩
    · rfl
    · exact absurd (hreq ▸ head_transcriptOf hfields') (head_requestTranscript req)
  · rcases Signed.transcript_cases hb with ⟨req', rfl, hreq'⟩ | ⟨_, hdom', _, hfields'⟩
    · exact absurd (hreq' ▸ head_transcriptOf hfields) (head_requestTranscript req')
    · obtain ⟨rfl, -⟩ := transcriptOf_inj hfields hfields'
      exact fieldDomains_disjoint _ _ _ hdom hdom'

theorem Signed.same_of_transcript {a b : Signed} (ha : a.transcript clock = .ok transcript)
    (hb : b.transcript clock = .ok transcript) : a.Same b := by
  have hkind := Signed.kind_eq_of_transcript ha hb
  cases a <;> cases b <;> cases hkind
  · exact congrArg _ (DesiredState.transcript_inj ha hb)
  · exact congrArg _ (RelayAssignment.transcript_inj ha hb)
  · exact congrArg _ (RelayRoute.transcript_inj ha hb)
  · exact congrArg _ (NodeRequest.transcript_inj ha hb)
  · exact congrArg _ (ActivationProof.transcript_inj ha hb)
  · exact congrArg _ (LoginProof.transcript_inj ha hb)
  · exact Bundle.transcript_inj ha hb
  · have h := (Except.ok.inj ha).trans (Except.ok.inj hb).symm
    exact congrArg _ (AccountRequest.transcript_injective h)

/-! ### Telling transcripts from digests -/

theorem textBytes_append (a b : String) : textBytes (a ++ b) = textBytes a ++ textBytes b := by
  simp [textBytes]

theorem length_requestTranscript {req : AccountRequest} (domain name : String)
    {members : List (String × Json.Value)} (hdom : req.domain = domain)
    (h : req.json = .object ((name, value) :: members)) :
    (textBytes (domain ++ String.ofList ('\x7b' :: Json.quote name.toList))).length ≤
      req.transcript.length := by
  rw [requestTranscript_eq, hdom, h, Json.Value.render, Json.renderFields, ← List.cons_append,
    String.ofList_append, ← String.append_assoc, textBytes_append (_ ++ _)]
  exact Nat.le_add_right_of_le le_rfl |>.trans_eq List.length_append.symm

theorem long_requestTranscript (req : AccountRequest) : 32 < req.transcript.length := by
  cases req with
  | login account password device proof =>
    refine lt_of_lt_of_le ?_ (length_requestTranscript
      "private-network/member-login-request/v1\x00" "account" rfl rfl)
    decide
  | refresh refreshCredential =>
    refine lt_of_lt_of_le ?_ (length_requestTranscript
      "private-network/member-refresh-request/v1\x00" "refreshCredential" rfl rfl)
    decide
  | issueReset expiresInSeconds =>
    refine lt_of_lt_of_le ?_ (length_requestTranscript
      "account-reset-issue/v1\x00" "expiresInSeconds" rfl rfl)
    decide
  | consumeReset resetToken newPassword =>
    refine lt_of_lt_of_le ?_ (length_requestTranscript
      "account-reset-consume/v1\x00" "resetToken" rfl rfl)
    decide

theorem Signed.long_transcript {value : Signed} (h : value.transcript clock = .ok transcript) :
    32 < transcript.length := by
  rcases Signed.transcript_cases h with ⟨req, rfl, rfl⟩ | ⟨domain, hdom, fields, hfields⟩
  · exact long_requestTranscript req
  have hlen := length_encodeFields (required_ok.1 hfields)
  have hlabel : (textBytes "domain").length = 6 := by decide
  have hlong : 22 < (textBytes domain).length := by
    have hall : ∀ i : Fin 8, ∀ name ∈ fieldDomains i, 22 < (textBytes name).length := by decide
    exact hall _ _ hdom
  simp only [text, hlabel] at hlen
  omega

/-- Equal transcripts have one kind and equal fields, up to the order of the encrypted profiles of a
bundle, and no transcript is a digest that the controller signs to derive a secret. -/
theorem transcript_determines_value {a : Signed} (ha : a.transcript clock = .ok transcript) :
    (∀ b : Signed, b.transcript clock = .ok transcript → a.Same b) ∧
      ∀ (sha256 : Bytes → Bytes), (∀ message, (sha256 message).length = 32) →
        ∀ domain context, transcript ≠ secretDigest sha256 domain context := by
  refine ⟨fun b hb => Signed.same_of_transcript ha hb, ?_⟩
  rintro sha256 hwidth domain context rfl
  have hlong := Signed.long_transcript ha
  rw [secretDigest, hwidth] at hlong
  exact lt_irrefl _ hlong

theorem Bundle.exists_transcript {bundle : Bundle}
    (hmani : bundle.manifest.json clock = .ok value)
    (hlen : 4 * value.render.length < 256 ^ 4)
    (hcount : bundle.encryptedProfiles.length < 256 ^ 4)
    (hprofiles : ∀ profile ∈ bundle.encryptedProfiles,
      4 * profile.nodeId.text.toList.length < 256 ^ 4 ∧ 4 * profile.json.render.length < 256 ^ 4) :
    ∃ transcript, (Signed.bundle bundle).transcript clock = .ok transcript := by
  have hjson : ∀ {v : Json.Value}, 4 * v.render.length < 256 ^ 4 →
      (jsonBytes v).length < 256 ^ 4 := by
    intro v hv
    refine lt_of_le_of_lt (length_textBytes_le _) ?_
    rwa [String.toList_ofList]
  have hlabels : ∀ label ∈ ["manifest-json", "encrypted-profile-count", "node-id",
      "encrypted-profile-json"], (textBytes label).length < 256 ^ 2 := by decide
  have hfits : ∀ f ∈ text "domain" "control/profile-bundle/signature/v1" ::
      ⟨textBytes "manifest-json", jsonBytes value⟩ ::
      word "encrypted-profile-count" 4 bundle.encryptedProfiles.length ::
      (sortProfiles bundle.encryptedProfiles).flatMap profileFields, f.Fits := by
    simp only [List.mem_cons, List.mem_flatMap, profileFields, List.not_mem_nil, or_false]
    rintro f (rfl | rfl | rfl | ⟨profile, hprof, rfl | rfl⟩)
    · decide
    · exact ⟨hlabels "manifest-json" (by simp), hjson hlen⟩
    · refine ⟨hlabels "encrypted-profile-count" (by simp), ?_⟩
      rw [word, length_bigEndian]
      decide
    · have hprof := hprofiles profile ((perm_sortProfiles _).mem_iff.1 hprof)
      exact ⟨hlabels "node-id" (by simp), lt_of_le_of_lt (length_textBytes_le _) hprof.1⟩
    · have hprof := hprofiles profile ((perm_sortProfiles _).mem_iff.1 hprof)
      exact ⟨hlabels "encrypted-profile-json" (by simp), hjson hprof.2⟩
  obtain ⟨transcript, htranscript⟩ := exists_encodeFields hfits
  refine ⟨transcript, ?_⟩
  show bundle.transcript clock = _
  unfold Bundle.transcript
  rw [hmani, ok_bind, checkCount_ok.2 hcount, ok_bind]
  exact required_ok.2 htranscript

def epochClock : TimestampText where
  format now := if now = 0 then some "1970-01-01T00:00:00Z" else none
  injective := by
    intro a b text ha hb
    split at ha
    · split at hb
      · simp_all
      · cases hb
    · cases ha

def samplePayload (nodeId : NodeId) : EncryptedProfile :=
  { nodeId
    ephemeralPublicKey := "AAECAwQFBgcICQoLDA0ODxAREhMUFRYXGBkaGxwdHh8"
    nonce := "AAECAwQFBgcICQoLDA0ODxAREhMUFRYX"
    ciphertext := "cHJvZmlsZQ" }

/-- A bundle with the payloads of the first two nodes in some order. -/
def sampleBundle (encryptedProfiles : List EncryptedProfile) : Bundle where
  manifest :=
    { schemaVersion := 1, formatVersion := 1, bundleId := 1#128, networkId := 2#128
      userId := 3#128, deviceId := 4#128, signingKeyId := 5#128, controllerInstanceId := 6#128
      generation := 1, issuedAt := 0, notBefore := 0, refreshAfter := 0, offlineExpiresAt := 0
      minClientVersion := "0.1.0", accountStatus := .active
      profiles := [1#128, 2#128].map fun nodeId =>
        { nodeId, displayName := "Home", region := none, endpointMode := .direct
          encryptedPayloadDigest := ⟨7#256⟩, priority := 0 }
      selectionHints :=
        { minimumHoldSeconds := 60, latencyToleranceMilliseconds := 20, failureThreshold := 3 }
      replacement := none }
  encryptedProfiles := encryptedProfiles

/-- The order of the payloads does not matter to the transcript. -/
theorem transcript_eq_of_sorted {manifest : Manifest} {profiles profiles' : List EncryptedProfile}
    (h : sortProfiles profiles = sortProfiles profiles') :
    Bundle.transcript clock ⟨manifest, profiles⟩ =
      Bundle.transcript clock ⟨manifest, profiles'⟩ := by
  have hlen : profiles.length = profiles'.length := by
    rw [← (perm_sortProfiles profiles).length_eq, h, (perm_sortProfiles profiles').length_eq]
  simp only [Bundle.transcript, h, hlen]

theorem sampleBundle_order :
    (Signed.bundle (sampleBundle [samplePayload 2#128, samplePayload 1#128])).transcript
        epochClock =
      (Signed.bundle (sampleBundle [samplePayload 1#128, samplePayload 2#128])).transcript
        epochClock := by
  apply transcript_eq_of_sorted
  decide

theorem sampleBundle_encodes (encryptedProfiles : List EncryptedProfile)
    (hsome : encryptedProfiles.length ≤ 2) (hprofiles : ∀ profile ∈ encryptedProfiles,
      profile = samplePayload 1#128 ∨ profile = samplePayload 2#128) :
    ∃ transcript, (Signed.bundle (sampleBundle encryptedProfiles)).transcript epochClock
      = .ok transcript := by
  have hmani : ((sampleBundle []).manifest.json epochClock).toOption.any
      (fun value => decide (4 * value.render.length < 256 ^ 4)) = true := by decide +kernel
  obtain ⟨value, hvl, hlen⟩ := (Option.any_eq_true _ _).mp hmani
  refine Bundle.exists_transcript (toOption_some.1 hvl) (of_decide_eq_true hlen)
    (lt_of_le_of_lt hsome (by decide)) ?_
  intro profile hprof
  rcases hprofiles profile hprof with rfl | rfl
  · decide +kernel
  · decide +kernel

/-- Two bundles whose payloads stand in another order are signed with one transcript. -/
theorem payload_order_unsigned : ¬ ∀ (clock : TimestampText) (a b : Signed) (transcript : Bytes),
      a.transcript clock = .ok transcript → b.transcript clock = .ok transcript → a = b := by
  intro h
  obtain ⟨transcript, ha⟩ := sampleBundle_encodes
    [samplePayload 1#128, samplePayload 2#128] le_rfl (by simp)
  have heq := h _ _ _ _ ha (sampleBundle_order.trans ha)
  have hprofiles := congrArg Bundle.encryptedProfiles (Signed.bundle.inj heq)
  exact absurd hprofiles (by decide)

/-- A signed bundle. -/
theorem sampleBundle_transcript_determines : ∃ transcript,
      (Signed.bundle (sampleBundle [samplePayload 1#128])).transcript epochClock = .ok transcript ∧
      (∀ b : Signed, b.transcript epochClock = .ok transcript →
        (Signed.bundle (sampleBundle [samplePayload 1#128])).Same b) ∧
      transcript ≠ secretDigest (fun _ => List.replicate 32 0) [1] [2] := by
  have hok := sampleBundle_encodes [samplePayload 1#128] (by decide) (by simp)
  obtain ⟨transcript, ha⟩ := hok
  have hunique := transcript_determines_value ha
  exact ⟨transcript, ha, hunique.1, hunique.2 _ (fun _ => rfl) _ _⟩

end RealityConsole.Protocol.Wire
