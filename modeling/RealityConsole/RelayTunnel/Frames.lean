import RealityConsole.Framework.Outcome
import RealityConsole.Framework.Transcript

/-!
# Tunnel frames

The relay and the node exchange frames over one connection: a kind, the number of a logical stream
and a payload. A connection is a queue of frames. On the wire a frame comes after its length, and
what is written is what is read.
-/

namespace RealityConsole.RelayTunnel

open Framework

inductive ErrorCode where
  | protocolInvalid | frameTooLarge | authFailed | routeUnknown | grantExpired | routeUnavailable
  | limitReached | openTimeout | idleTimeout | tunnelLost | routeRevoked | internal
  deriving DecidableEq, Repr

def ErrorCode.asStr : ErrorCode → String
  | .protocolInvalid => "relay_protocol_invalid"
  | .frameTooLarge => "relay_frame_too_large"
  | .authFailed => "relay_auth_failed"
  | .routeUnknown => "relay_route_unknown"
  | .grantExpired => "relay_grant_expired"
  | .routeUnavailable => "relay_route_unavailable"
  | .limitReached => "relay_limit_reached"
  | .openTimeout => "relay_open_timeout"
  | .idleTimeout => "relay_idle_timeout"
  | .tunnelLost => "relay_tunnel_lost"
  | .routeRevoked => "relay_route_revoked"
  | .internal => "relay_internal"

def ErrorCode.fromWire (value : Bytes) : Option ErrorCode :=
  [.protocolInvalid, .frameTooLarge, .authFailed, .routeUnknown, .grantExpired, .routeUnavailable,
    .limitReached, .openTimeout, .idleTimeout, .tunnelLost, .routeRevoked, .internal].find?
      fun code => textBytes code.asStr = value

structure TunnelError where
  code : ErrorCode
  message : String
  deriving DecidableEq, Repr

def invalid (message : String) : TunnelError := ⟨.protocolInvalid, message⟩

inductive FrameKind where
  | register | registerOk | error | «open» | openOk | openError | data | fin | close | windowUpdate
  | ping | pong
  deriving DecidableEq, Repr

structure Frame where
  kind : FrameKind
  streamId : Nat
  payload : Bytes
  deriving DecidableEq, Repr

namespace Frame

def u32 (kind : FrameKind) (streamId value : Nat) : Frame := ⟨kind, streamId, bigEndian 4 value⟩

def code (kind : FrameKind) (streamId : Nat) (code : ErrorCode) : Frame :=
  ⟨kind, streamId, textBytes code.asStr⟩

def parseU32 (f : Frame) : Except TunnelError Nat :=
  if f.payload.length = 4 then .ok (ofBigEndian f.payload)
  else .error (invalid "frame requires one unsigned 32-bit value")

theorem parseU32_u32 {kind : FrameKind} {streamId value : Nat} (h : value < 2 ^ 32) :
    (u32 kind streamId value).parseU32 = .ok value := by
  unfold parseU32 u32
  rw [if_pos (length_bigEndian 4 value), ofBigEndian_bigEndian (by omega)]

end Frame

/-! ### Bytes on the wire -/

def protocolVersion : UInt8 := 1

def headerBytes : Nat := 10

def FrameKind.byte : FrameKind → UInt8
  | .register => 1
  | .registerOk => 2
  | .error => 3
  | .open => 10
  | .openOk => 11
  | .openError => 12
  | .data => 13
  | .fin => 14
  | .close => 15
  | .windowUpdate => 16
  | .ping => 20
  | .pong => 21

def FrameKind.tryFrom (value : UInt8) : Except TunnelError FrameKind :=
  required ([.register, .registerOk, .error, .open, .openOk, .openError, .data, .fin, .close,
    .windowUpdate, .ping, .pong].find? fun kind => kind.byte = value) (invalid "unknown frame kind")

theorem FrameKind.tryFrom_ok {value : UInt8} {kind : FrameKind} :
    tryFrom value = .ok kind ↔ kind.byte = value := by
  rw [tryFrom, required_ok]
  constructor
  · intro h
    have hbyte := List.find?_some h
    exact of_decide_eq_true hbyte
  · rintro rfl
    cases kind <;> rfl

namespace Frame

def register (routeId : String) (token : Bytes) : Except TunnelError Frame := do
  refuseWhen (2 ^ 16 ≤ (textBytes routeId).length) (invalid "route identifier is too long")
  refuseWhen (2 ^ 16 ≤ token.length) (invalid "route token is too long")
  return ⟨.register, 0, bigEndian 2 (textBytes routeId).length ++ textBytes routeId
    ++ (bigEndian 2 token.length ++ token)⟩

def parseRegister (f : Frame) : Except TunnelError (String × Bytes) := do
  refuseWhen (f.kind ≠ .register ∨ f.streamId ≠ 0 ∨ f.payload.length < 4)
    (invalid "first frame must register one route")
  let routeLen := ofBigEndian (f.payload.take 2)
  let tokenLenOffset := 2 + routeLen
  refuseWhen (f.payload.length < tokenLenOffset + 2) (invalid "invalid register route length")
  let tokenLen := ofBigEndian ((f.payload.drop tokenLenOffset).take 2)
  let tokenOffset := tokenLenOffset + 2
  refuseWhen (tokenOffset + tokenLen ≠ f.payload.length) (invalid "invalid register token length")
  let routeId ← required (fromUtf8 ((f.payload.take tokenLenOffset).drop 2))
    (invalid "route identifier is not UTF-8")
  return (routeId, f.payload.drop tokenOffset)

def body (f : Frame) : Bytes :=
  protocolVersion :: f.kind.byte :: bigEndian 8 f.streamId ++ f.payload

/-- `Frame::write_to`: the bytes written. -/
def writeTo (f : Frame) (maxFrameBytes : Nat) : Except TunnelError Bytes := do
  refuseWhen (maxFrameBytes < f.payload.length)
    ⟨.frameTooLarge, "frame exceeds configured maximum"⟩
  let length := headerBytes + f.payload.length
  refuseWhen (2 ^ 64 ≤ length) ⟨.frameTooLarge, "frame length overflow"⟩
  refuseWhen (2 ^ 32 ≤ length) ⟨.frameTooLarge, "frame length is unsupported"⟩
  return bigEndian 4 length ++ f.body

/-- What `read_from` makes of the bytes after the length. -/
def ofBody (body : Bytes) : Except TunnelError Frame := do
  refuseWhen (body.getD 0 0 ≠ protocolVersion) (invalid "protocol version is unsupported")
  let kind ← FrameKind.tryFrom (body.getD 1 0)
  return ⟨kind, ofBigEndian ((body.drop 2).take 8), body.drop headerBytes⟩

/-- `Frame::read_from` on a connection that delivers these bytes and ends: the frame and what is
left, or nothing. -/
def readFrom (maxFrameBytes : Nat) (input : Bytes) :
    Except TunnelError (Option (Frame × Bytes)) := do
  if input.length < 4 then return none
  let length := ofBigEndian (input.take 4)
  refuseWhen (length < headerBytes) (invalid "frame is shorter than its header")
  refuseWhen (maxFrameBytes + headerBytes < length)
    ⟨.frameTooLarge, "frame exceeds configured maximum"⟩
  refuseWhen (input.length < 4 + length) ⟨.internal, "relay_io"⟩
  let frame ← ofBody ((input.drop 4).take length)
  return some (frame, input.drop (4 + length))

/-- Calls of `read_from` one after the other, as long as there is a frame. -/
def readFrames (maxFrameBytes : Nat) : Nat → Bytes → Except TunnelError (List Frame × Bytes)
  | 0, input => .ok ([], input)
  | count + 1, input => do
    match ← readFrom maxFrameBytes input with
    | none => return ([], [])
    | some (frame, rest) =>
      let (frames, rest) ← readFrames maxFrameBytes count rest
      return (frame :: frames, rest)

variable {f : Frame} {max : Nat} {bytes input rest : Bytes}

theorem length_body (f : Frame) : f.body.length = headerBytes + f.payload.length := by
  simp only [body, headerBytes, List.length_append, List.length_cons, length_bigEndian]

theorem writeTo_ok : f.writeTo max = .ok bytes ↔ f.payload.length ≤ max ∧
    f.body.length < 2 ^ 32 ∧ bigEndian 4 f.body.length ++ f.body = bytes := by
  simp only [writeTo, check_ok, refuse_ok, not_lt, not_le, ← length_body]
  constructor
  · rintro ⟨hmax, -, hlen, h⟩
    exact ⟨hmax, hlen, Except.ok.inj h⟩
  · rintro ⟨hmax, hlen, rfl⟩
    exact ⟨hmax, by omega, hlen, rfl⟩

theorem ofBody_ok (h : headerBytes ≤ bytes.length) :
    ofBody bytes = .ok f ↔ f.streamId < 2 ^ 64 ∧ f.body = bytes := by
  obtain ⟨version, kind, rest, rfl⟩ : ∃ version kind rest, bytes = version :: kind :: rest := by
    match bytes, h with
    | version :: kind :: rest, _ => exact ⟨version, kind, rest, rfl⟩
  rw [ofBody, check_ok, refuse_ok, not_not, bind_ok]
  constructor
  · rintro ⟨hvers, kind', hkind, hframe⟩
    cases hframe
    obtain ⟨hword, hlt⟩ := take_word 8 (Nat.le_of_succ_le_succ (Nat.le_of_succ_le_succ h))
    refine ⟨hlt, ?_⟩
    show protocolVersion :: kind'.byte :: bigEndian 8 (ofBigEndian (rest.take 8)) ++ rest.drop 8 = _
    rw [hword, ← hvers, FrameKind.tryFrom_ok.1 hkind, List.cons_append, List.cons_append,
      List.take_append_drop]
    rfl
  · rintro ⟨hid, hbody⟩
    obtain ⟨rfl, rfl, rfl⟩ : protocolVersion = version ∧ f.kind.byte = kind
      ∧ bigEndian 8 f.streamId ++ f.payload = rest := by simpa [body] using hbody
    refine ⟨rfl, f.kind, FrameKind.tryFrom_ok.2 rfl, ?_⟩
    have hword : ofBigEndian ((bigEndian 8 f.streamId ++ f.payload).take 8) = f.streamId := by
      rw [List.take_left' (length_bigEndian 8 _), ofBigEndian_bigEndian (by omega)]
    have hrest : (bigEndian 8 f.streamId ++ f.payload).drop 8 = f.payload :=
      List.drop_left' (length_bigEndian 8 _)
    exact congrArg Except.ok (Frame.mk.injEq .. ▸ ⟨rfl, hword, hrest⟩)

theorem readFrom_some : readFrom max input = .ok (some (f, rest)) ↔
    f.streamId < 2 ^ 64 ∧ ∃ bytes, f.writeTo max = .ok bytes ∧ bytes ++ rest = input := by
  constructor
  · intro h
    unfold readFrom at h
    split at h
    · cases h
    rename_i hfour
    obtain ⟨hword, hlt⟩ := take_word 4 (not_lt.1 hfour)
    generalize ofBigEndian (input.take 4) = n at *
    obtain ⟨hmin, h⟩ := check_ok.1 h
    obtain ⟨hmax, h⟩ := check_ok.1 h
    obtain ⟨hall, h⟩ := check_ok.1 h
    obtain ⟨frame, hframe, h⟩ := bind_ok.1 h
    cases h
    rw [refuse_ok] at hmin hmax hall
    have hlen : ((input.drop 4).take n).length = n := by
      rw [List.length_take, List.length_drop]
      omega
    obtain ⟨hid, hbody⟩ := (ofBody_ok (by omega)).1 hframe
    rw [← hbody] at hlen
    have hpay := length_body f
    refine ⟨hid, _, writeTo_ok.2 ⟨by omega, by omega, rfl⟩, ?_⟩
    rw [hlen, hword, hbody, List.append_assoc, ← List.drop_drop, List.take_append_drop,
      List.take_append_drop]
  · rintro ⟨hid, bytes, hwrite, rfl⟩
    obtain ⟨hmax, hlen, rfl⟩ := writeTo_ok.1 hwrite
    have hpay := length_body f
    have hall : (bigEndian 4 f.body.length ++ (f.body ++ rest)).length
        = 4 + f.body.length + rest.length := by
      rw [List.length_append, List.length_append, length_bigEndian, Nat.add_assoc]
    have hnum : ofBigEndian (bigEndian 4 f.body.length) = f.body.length :=
      ofBigEndian_bigEndian (by omega)
    have hread : ofBody f.body = .ok f := (ofBody_ok (by omega)).2 ⟨hid, rfl⟩
    unfold readFrom
    rw [List.append_assoc, if_neg (by omega)]
    simp only [List.take_left' (length_bigEndian 4 _), List.drop_left' (length_bigEndian 4 _), hnum,
      hall, ← List.drop_drop (i := f.body.length), List.take_left, List.drop_left, hread, check_ok,
      refuse_ok]
    exact ⟨by omega, by omega, by omega, rfl⟩

theorem readFrames_writeTo {frames : List Frame} {encodings : List Bytes}
    (hids : ∀ f ∈ frames, f.streamId < 2 ^ 64) (h : frames.mapM (writeTo · max) = .ok encodings) :
    readFrames max frames.length (encodings.flatten ++ rest) = .ok (frames, rest) := by
  induction frames generalizing encodings with
  | nil =>
    cases h
    rfl
  | cons f frames ih =>
    rw [List.mapM_cons] at h
    obtain ⟨bytes, hwrite, h⟩ := bind_ok.1 h
    obtain ⟨others, hoth, h⟩ := bind_ok.1 h
    cases h
    have hfirst : readFrom max (bytes ++ (others.flatten ++ rest)) = .ok (some (f, _)) :=
      readFrom_some.2 ⟨hids f (.head _), bytes, hwrite, rfl⟩
    have hlat := ih (fun g hg => hids g (.tail _ hg)) hoth
    rw [List.flatten_cons, List.append_assoc, List.length_cons, readFrames, hfirst, ok_bind]
    dsimp only
    rw [hlat]
    rfl

variable {routeId : String} {token : Bytes}

theorem register_ok : register routeId token = .ok f ↔
    (textBytes routeId).length < 2 ^ 16 ∧ token.length < 2 ^ 16 ∧
      ⟨.register, 0, bigEndian 2 (textBytes routeId).length ++ textBytes routeId
        ++ (bigEndian 2 token.length ++ token)⟩ = f := by
  simp only [register, check_ok, refuse_ok, not_le]
  exact and_congr_right fun _ => and_congr_right fun _ => ⟨Except.ok.inj, congrArg _⟩

theorem parseRegister_ok :
    f.parseRegister = .ok (routeId, token) ↔ register routeId token = .ok f := by
  constructor
  · intro h
    obtain ⟨kind, streamId, p⟩ := f
    obtain ⟨hshape, h⟩ := check_ok.1 h
    obtain ⟨hroom, h⟩ := check_ok.1 h
    obtain ⟨hend, h⟩ := check_ok.1 h
    obtain ⟨text, htext, h⟩ := bind_ok.1 h
    cases h
    simp only [refuse_ok, not_or, not_not, required_ok, fromUtf8_some] at hshape hroom hend htext
    obtain ⟨rfl, rfl, hfour⟩ := hshape
    obtain ⟨hfirst, hlt⟩ := take_word 2 (le_trans (by decide) (not_lt.1 hfour))
    generalize ofBigEndian (p.take 2) = n at *
    have htwo : 2 ≤ (p.drop (2 + n)).length := by
      rw [List.length_drop]
      omega
    obtain ⟨hsecond, hlt'⟩ := take_word 2 htwo
    generalize ofBigEndian ((p.drop (2 + n)).take 2) = m at *
    have hroute : (textBytes routeId).length = n := by
      rw [htext, List.length_drop, List.length_take]
      omega
    have htok : (p.drop (2 + n + 2)).length = m := by
      rw [List.length_drop]
      omega
    show register routeId (p.drop (2 + n + 2)) = .ok ⟨.register, 0, p⟩
    refine register_ok.2 ⟨by omega, by omega, congrArg (Frame.mk _ _) ?_⟩
    have hhead : p.take 2 ++ (p.take (2 + n)).drop 2 = p.take (2 + n) := by
      have hcut := List.take_append_drop 2 (p.take (2 + n))
      rwa [List.take_take, Nat.min_eq_left (Nat.le_add_right _ _)] at hcut
    rw [hroute, hfirst, htext, hhead, htok, hsecond, ← List.drop_drop (i := 2) (j := 2 + n),
      List.take_append_drop, List.take_append_drop]
  · intro h
    obtain ⟨hroute, htok, rfl⟩ := register_ok.1 h
    have hhead : (bigEndian 2 (textBytes routeId).length ++ textBytes routeId).length
        = 2 + (textBytes routeId).length := by
      rw [List.length_append, length_bigEndian]
    have hall : (bigEndian 2 (textBytes routeId).length ++ textBytes routeId
        ++ (bigEndian 2 token.length ++ token)).length
        = 2 + (textBytes routeId).length + 2 + token.length := by
      rw [List.length_append, hhead, List.length_append, length_bigEndian, ← Nat.add_assoc]
    have hnum : ofBigEndian ((bigEndian 2 (textBytes routeId).length ++ textBytes routeId
        ++ (bigEndian 2 token.length ++ token)).take 2) = (textBytes routeId).length := by
      rw [List.append_assoc, List.take_left' (length_bigEndian 2 _), ofBigEndian_bigEndian hroute]
    have htext := fromUtf8_some.2 (rfl : textBytes routeId = _)
    rw [parseRegister]
    simp only [hnum, hall, ← List.drop_drop (i := 2) (j := _ + _), List.take_left' hhead,
      List.drop_left' hhead, List.drop_left' (length_bigEndian 2 _),
      List.take_left' (length_bigEndian 2 _), htext, check_ok, refuse_ok]
    refine ⟨?_, by omega, not_not.2 (by rw [ofBigEndian_bigEndian htok]), rfl⟩
    rintro (hkind | hid | hshort)
    · exact hkind rfl
    · exact hid rfl
    · omega

/-- Written frames are read back and nothing else is read: encodings one after the other are read as
their frames; a frame that is read was written as exactly the bytes taken; and `parse_register`
undoes `register`. -/
theorem frames_round_trip (maxFrameBytes : Nat) :
    (∀ (frames : List Frame) (encodings : List Bytes) (rest : Bytes),
      (∀ f ∈ frames, f.streamId < 2 ^ 64) →
        frames.mapM (writeTo · maxFrameBytes) = .ok encodings →
          readFrames maxFrameBytes frames.length (encodings.flatten ++ rest) = .ok (frames, rest)) ∧
    (∀ (input rest : Bytes) (f : Frame), readFrom maxFrameBytes input = .ok (some (f, rest)) →
      ∃ bytes, f.writeTo maxFrameBytes = .ok bytes ∧ bytes ++ rest = input) ∧
    ∀ (f : Frame) (routeId : String) (token : Bytes),
      f.parseRegister = .ok (routeId, token) ↔ register routeId token = .ok f :=
  ⟨fun _ _ _ => readFrames_writeTo, fun _ _ _ h => (readFrom_some.1 h).2, fun _ _ _ =>
    parseRegister_ok⟩

def sampleFrames : List Frame :=
  [⟨.register, 0, [0, 2, 97, 98, 0, 3, 7, 8, 9]⟩, ⟨.data, 5, [104, 105]⟩, ⟨.ping, 0, []⟩]

def sampleEncodings : List Bytes :=
  [[0, 0, 0, 19, 1, 1, 0, 0, 0, 0, 0, 0, 0, 0, 0, 2, 97, 98, 0, 3, 7, 8, 9],
    [0, 0, 0, 12, 1, 13, 0, 0, 0, 0, 0, 0, 0, 5, 104, 105],
    [0, 0, 0, 10, 1, 20, 0, 0, 0, 0, 0, 0, 0, 0]]

/-- They are read back with the beginning of the next length behind them, and the registration is
parsed. -/
theorem three_frames_round_trip :
    readFrames 64 3 (sampleEncodings.flatten ++ [0, 0]) = .ok (sampleFrames, [0, 0]) ∧
    ∀ f ∈ sampleFrames.head?, f.parseRegister = .ok ("ab", [7, 8, 9]) := by
  constructor
  · exact (frames_round_trip 64).1 sampleFrames sampleEncodings _ (by decide) (by decide)
  · rintro _ ⟨⟩
    exact ((frames_round_trip 64).2.2 _ _ _).2 (by decide +kernel)

end Frame

end RealityConsole.RelayTunnel
