import RealityConsole.Framework.Machine
import RealityConsole.Framework.SortedMap
import RealityConsole.RelayTunnel.Frames

/-!
# Logical streams over one tunnel

Both sides keep an entry for a logical stream, two pumps that copy between the tunnel and a local
socket, and counters for flow control. One reader on each side hands frames to the entries; its
error tears the tunnel down. What one side does is written once, with the side as an argument.
-/

namespace RealityConsole.RelayTunnel

open Framework

/-! ### Configuration -/

/-- The part of a configuration that concerns streams, as `RelayConfig::validate` and
`NodeConnectorConfig::validate` admit it. -/
structure SideConfig where
  maxFrameBytes : Nat
  /-- `initial_window_bytes`, a `u32` -/
  initialWindowBytes : Nat
  streamBufferFrames : Nat
  frame_min : 1024 ≤ maxFrameBytes
  frame_max : maxFrameBytes ≤ 1048576
  window_fits : maxFrameBytes ≤ initialWindowBytes
  window_lt : initialWindowBytes < 2 ^ 32
  buffer_pos : 0 < streamBufferFrames

inductive Side where
  | relay | node
  deriving DecidableEq, Repr

def Side.other : Side → Side
  | .relay => .node
  | .node => .relay

structure TunnelConfig where
  relay : SideConfig
  node : SideConfig
  /-- `max_streams` of the node -/
  maxStreams : Nat

def TunnelConfig.side (config : TunnelConfig) : Side → SideConfig
  | .relay => config.relay
  | .node => config.node

/-! ### Entries and tasks -/

/-- `Inbound` and `NodeInbound` -/
inductive Inbound where
  | data (bytes : Bytes)
  | fin
  | close
  deriving DecidableEq, Repr

/-- The pump from the local socket to the tunnel. -/
inductive Sender where
  | reading
  /-- The credit is debited, the frame is on its way to the writer of the tunnel. -/
  | holding (bytes : Bytes)
  | done
  deriving DecidableEq, Repr

/-- The pump from the tunnel to the local socket. -/
inductive Receiver where
  | idle
  | writing (bytes : Bytes)
  /-- The window is credited, the update is on its way to the writer of the tunnel. The rest has
      not been written: the monthly quota has no room for it. -/
  | acknowledging (granted rest : Nat)
  | done
  deriving DecidableEq, Repr

/-- Where the task of a stream stands. -/
inductive Phase where
  /-- `open_stream` waits for the answer of the node. -/
  | opening (answer : Option (Except ErrorCode Nat))
  /-- `run_local_stream` connects to its target. -/
  | connecting
  | serving (sender : Sender) (receiver : Receiver)
  /-- The stream has been removed, `Close` is still to be sent. -/
  | closing
  | finished
  deriving DecidableEq, Repr

/-- A stream on one side: `StreamDispatch` or `NodeStream`, its task, and its local socket. -/
structure Endpoint where
  /-- It is in the map of streams. -/
  mapped : Bool
  /-- `open_result` still holds its sender. -/
  openResult : Bool
  phase : Phase
  /-- The queue between the reader and the receiving pump. -/
  inbound : List Inbound
  receiveRemaining : Nat
  sendCredit : Nat
  /-- The bytes taken from the local socket so far. -/
  taken : Bytes
  /-- The bytes written to the local socket so far. -/
  delivered : Bytes
  deriving DecidableEq, Repr

namespace Endpoint

/-- The entry that `open_stream` makes. -/
def opened (config : SideConfig) : Endpoint :=
  ⟨true, true, .opening none, [], config.initialWindowBytes, 0, [], []⟩

/-- The entry that the node makes for an `Open` frame. -/
def admitted (config : SideConfig) (peerWindow : Nat) : Endpoint :=
  ⟨true, false, .connecting, [], config.initialWindowBytes, peerWindow, [], []⟩

/-- `remove_stream` -/
def remove (e : Endpoint) : Endpoint := { e with mapped := false }

/-- The task ends and removes its stream; the queue goes with its receiver. -/
def retire (e : Endpoint) (phase : Phase) : Endpoint :=
  { e with mapped := false, phase := phase, inbound := [] }

/-- The receiving end of the queue still exists. -/
def listening (e : Endpoint) : Bool :=
  match e.phase with
  | .opening _ | .connecting => true
  | .serving _ receiver => receiver ≠ .done
  | .closing | .finished => false

/-- `try_send` to the bounded queue. -/
def enqueue (e : Endpoint) (config : SideConfig) (item : Inbound) : Option Endpoint :=
  if e.listening ∧ e.inbound.length < config.streamBufferFrames then
    some { e with inbound := e.inbound ++ [item] }
  else none

end Endpoint

inductive Act where
  /-- `open_stream` has its answer, or gives up. -/
  | accept | refused | timeOut
  /-- `run_local_stream` has its target, or has not. -/
  | connected | refuse | abandon
  /-- The sending pump has read some bytes and has the credit for them. -/
  | consume (bytes : Bytes)
  | sendData
  | sendFin
  /-- The receiving pump takes the next item of the queue. -/
  | take
  /-- It has written so many bytes. -/
  | write (granted : Nat)
  | acknowledge
  /-- The task ends: both pumps are done, one has failed, a deadline has passed, or the stream was
      cancelled. -/
  | finish
  | sendClose (code : ErrorCode)

/-- One step of a task and the frames it sends. -/
def Endpoint.act (side : Side) (config : SideConfig) (streamId : Nat) (e : Endpoint) :
    Act → Option (Endpoint × List Frame)
  | .accept => match e.phase with
    | .opening (some (.ok window)) =>
      if window = 0 then some (e.retire .finished, [])
      else some ({ e with
        phase := .serving .reading .idle, sendCredit := e.sendCredit + window }, [])
    | _ => none
  | .refused => match e.phase with
    | .opening (some (.error _)) => some (e.retire .finished, [])
    | _ => none
  | .timeOut => match e.phase with
    | .opening _ => some (e.retire .finished, [])
    | _ => none
  | .connected => match e.phase with
    | .connecting => some ({ e with phase := .serving .reading .idle },
        [Frame.u32 .openOk streamId config.initialWindowBytes])
    | _ => none
  | .refuse => match e.phase with
    | .connecting => some (e.retire .finished, [Frame.code .openError streamId .routeUnavailable])
    | _ => none
  -- `set_nodelay` fails
  | .abandon => match e.phase with
    | .connecting => some (e.retire .finished, [])
    | _ => none
  | .consume bytes => match e.phase with
    | .serving .reading receiver =>
      if bytes ≠ [] ∧ bytes.length ≤ config.maxFrameBytes ∧ bytes.length ≤ e.sendCredit then
        some ({ e with
          phase := .serving (.holding bytes) receiver
          sendCredit := e.sendCredit - bytes.length
          taken := e.taken ++ bytes }, [])
      else none
    | _ => none
  | .sendData => match e.phase with
    | .serving (.holding bytes) receiver =>
      some ({ e with phase := .serving .reading receiver }, [⟨.data, streamId, bytes⟩])
    | _ => none
  | .sendFin => match e.phase with
    | .serving .reading receiver =>
      some ({ e with phase := .serving .done receiver }, [⟨.fin, streamId, []⟩])
    | _ => none
  | .take => match e.phase, e.inbound with
    | .serving sender .idle, .data bytes :: rest =>
      some ({ e with phase := .serving sender (.writing bytes), inbound := rest }, [])
    | .serving sender .idle, .fin :: _ =>
      some ({ e with phase := .serving sender .done, inbound := [] }, [])
    | .serving sender .idle, .close :: _ => match side with
      | .relay => some (e.retire .closing, [])
      | .node => some ({ e with phase := .serving sender .done, inbound := [] }, [])
    | _, _ => none
  | .write granted => match e.phase with
    | .serving sender (.writing bytes) =>
      -- only the relay counts against a quota
      if 0 < granted ∧ granted ≤ bytes.length ∧ (side = .node → granted = bytes.length) then
        some ({ e with
          phase := .serving sender (.acknowledging granted (bytes.length - granted))
          receiveRemaining := e.receiveRemaining + granted
          delivered := e.delivered ++ bytes.take granted }, [])
      else none
    | _ => none
  | .acknowledge => match e.phase with
    | .serving sender (.acknowledging granted rest) =>
      some (if rest = 0 then { e with phase := .serving sender .idle } else e.retire .closing,
        [Frame.u32 .windowUpdate streamId granted])
    | _ => none
  | .finish => match e.phase with
    | .serving _ _ => some (e.retire .closing, [])
    | _ => none
  | .sendClose code => match e.phase with
    | .closing => some ({ e with phase := .finished }, [Frame.code .close streamId code])
    | _ => none

/-! ### Reading frames -/

/-- The error texts in which the sides differ. -/
def Side.invalidIdentifier : Side → TunnelError
  | .relay => invalid "node used an invalid stream identifier"
  | .node => invalid "relay used an invalid stream identifier"

def Side.windowExceeded : Side → TunnelError
  | .relay => invalid "node exceeded the stream receive window"
  | .node => invalid "relay exceeded the stream receive window"

def Side.invalidHeartbeat : Side → TunnelError
  | .relay => invalid "invalid heartbeat frame"
  | .node => invalid "relay heartbeat is invalid"

def notOpen : TunnelError := invalid "stream is not open"

/-- `stream_dispatch` and `NodeTunnel::stream` -/
def dispatch (side : Side) (e : Option Endpoint) (streamId : Nat) : Except TunnelError Endpoint :=
  if streamId = 0 ∨ streamId % 2 = 0 then .error side.invalidIdentifier
  else match e with
    | none => .error notOpen
    | some e => if e.mapped then .ok e else .error notOpen

/-- The answer of the node reaches `open_stream`, if that still waits. -/
def Phase.answered (result : Except ErrorCode Nat) : Phase → Phase
  | .opening none => .opening (some result)
  | phase => phase

/-- A `Data` frame: the window is debited, a full queue closes the stream. -/
def receiveData (side : Side) (config : SideConfig) (e : Option Endpoint) (f : Frame) :
    Except TunnelError (Option Endpoint × List Frame) := do
  let e ← dispatch side e f.streamId
  if e.receiveRemaining < f.payload.length then .error side.windowExceeded
  else
    let e := { e with receiveRemaining := e.receiveRemaining - f.payload.length }
    match e.enqueue config (.data f.payload) with
    | some e => .ok (some e, [])
    | none => .ok (some e.remove, [Frame.code .close f.streamId .limitReached])

/-- A `Fin` frame -/
def receiveFin (side : Side) (config : SideConfig) (e : Option Endpoint) (f : Frame) :
    Except TunnelError (Option Endpoint × List Frame) := do
  let e ← dispatch side e f.streamId
  .ok (some ((e.enqueue config .fin).getD e.remove), [])

/-- A `Close` frame: no error if the stream is unknown. -/
def receiveClose (side : Side) (config : SideConfig) (e : Option Endpoint) (f : Frame) :
    Option Endpoint × List Frame :=
  match dispatch side e f.streamId with
  | .ok e => (some ((e.enqueue config .close).getD e).remove, [])
  | .error _ => (e, [])

/-- A `WindowUpdate` frame: `Credit::add` -/
def receiveWindow (side : Side) (e : Option Endpoint) (f : Frame) :
    Except TunnelError (Option Endpoint × List Frame) := do
  let e ← dispatch side e f.streamId
  let amount ← f.parseU32
  if amount = 0 then .error (invalid "flow-control update cannot be zero")
  else if 2 ^ 64 ≤ e.sendCredit + amount then .error (invalid "flow-control credit overflow")
  else .ok (some { e with sendCredit := e.sendCredit + amount }, [])

/-- A `Ping` or `Pong` frame -/
def receiveHeartbeat (side : Side) (e : Option Endpoint) (f : Frame) (reply : List Frame) :
    Except TunnelError (Option Endpoint × List Frame) :=
  if f.streamId ≠ 0 ∨ f.payload.length ≠ 8 then .error side.invalidHeartbeat
  else .ok (e, reply)

/-- `read_tunnel_frames`: one frame, with the entry of its stream. -/
def relayReceive (config : SideConfig) (e : Option Endpoint) (f : Frame) :
    Except TunnelError (Option Endpoint × List Frame) :=
  match f.kind with
  | .openOk => do
    let window ← f.parseU32
    let e ← dispatch .relay e f.streamId
    if e.openResult then
      .ok (some { e with openResult := false, phase := e.phase.answered (.ok window) }, [])
    else .error (invalid "duplicate stream open result")
  | .openError => do
    let e ← dispatch .relay e f.streamId
    if e.openResult then
      .ok (some { e with
        openResult := false
        phase := e.phase.answered (.error .routeUnavailable) }, [])
    else .ok (some e, [])
  | .data => receiveData .relay config e f
  | .fin => receiveFin .relay config e f
  | .close => .ok (receiveClose .relay config e f)
  | .windowUpdate => receiveWindow .relay e f
  | .ping => receiveHeartbeat .relay e f [⟨.pong, 0, f.payload⟩]
  | .pong => receiveHeartbeat .relay e f []
  | .register | .registerOk | .error | .open =>
    .error (invalid "frame kind is invalid in this direction")

/-- An `Open` frame at the node; `free` says whether a stream slot is left. -/
def receiveOpen (config : SideConfig) (free : Bool) (e : Option Endpoint) (f : Frame) :
    Except TunnelError (Option Endpoint × List Frame) := do
  let peerWindow ← f.parseU32
  if peerWindow = 0 ∨ f.streamId = 0 ∨ f.streamId % 2 = 0 then
    .error (invalid "relay sent an invalid stream open")
  else if !free then .ok (e, [Frame.code .openError f.streamId .limitReached])
  else if e.any (·.mapped) then .error (invalid "relay reused an open stream identifier")
  else .ok (some (Endpoint.admitted config peerWindow), [])

/-- `read_relay_frames`: one frame, with the entry of its stream. -/
def nodeReceive (config : SideConfig) (free : Bool) (e : Option Endpoint) (f : Frame) :
    Except TunnelError (Option Endpoint × List Frame) :=
  match f.kind with
  | .open => receiveOpen config free e f
  | .data => receiveData .node config e f
  | .fin => receiveFin .node config e f
  | .close => .ok (receiveClose .node config e f)
  | .windowUpdate => receiveWindow .node e f
  | .ping => receiveHeartbeat .node e f [⟨.pong, 0, f.payload⟩]
  | .pong => receiveHeartbeat .node e f []
  | .error => .error ⟨(ErrorCode.fromWire f.payload).getD .internal, "relay closed the tunnel"⟩
  | .register | .registerOk | .openOk | .openError =>
    .error (invalid "frame kind is invalid in this direction")

/-- One frame as either side reads it. -/
def receive (config : TunnelConfig) (side : Side) (free : Bool) (e : Option Endpoint) (f : Frame) :
    Except TunnelError (Option Endpoint × List Frame) :=
  if (config.side side).maxFrameBytes < f.payload.length then
    .error ⟨.frameTooLarge, "frame exceeds configured maximum"⟩
  else match side with
    | .relay => relayReceive config.relay e f
    | .node => nodeReceive config.node free e f

/-! ### The tunnel -/

structure Station where
  streams : SortedMap Nat Endpoint
  /-- The frames on their way to this side. -/
  incoming : List Frame
  /-- How its reader has ended. -/
  error : Option TunnelError

structure Tunnel where
  /-- `next_stream_id` of the route. Its 64 bits are not used up. -/
  nextStreamId : Nat
  relay : Station
  node : Station

namespace Tunnel

def station (w : Tunnel) : Side → Station
  | .relay => w.relay
  | .node => w.node

def setStation (w : Tunnel) (station : Station) : Side → Tunnel
  | .relay => { w with relay := station }
  | .node => { w with node := station }

def send (w : Tunnel) (target : Side) (frames : List Frame) : Tunnel :=
  w.setStation { w.station target with incoming := (w.station target).incoming ++ frames } target

def setStream (w : Tunnel) (side : Side) (streamId : Nat) : Option Endpoint → Tunnel
  | none => w
  | some e =>
    w.setStation { w.station side with streams := (w.station side).streams.store streamId e } side

def slotFree (w : Tunnel) (config : TunnelConfig) : Bool :=
  w.node.streams.countP (fun entry => entry.2.phase ≠ .finished) < config.maxStreams

/-- The reader of a side fails: `cancel_all_streams`. -/
def fail (w : Tunnel) (side : Side) (e : TunnelError) : Tunnel :=
  w.setStation { w.station side with
    streams := (w.station side).streams.mapValues fun _ => Endpoint.remove
    error := some e } side

end Tunnel

inductive TunnelLabel where
  /-- A member connects: `open_stream`. -/
  | openStream
  /-- A stream of the route is opened on another tunnel. -/
  | openElsewhere
  | act (side : Side) (streamId : Nat) (act : Act)
  /-- A reader takes the next frame. -/
  | read (side : Side)
  | ping (side : Side) (sequence : Nat)

def Tunnel.step (config : TunnelConfig) (w : Tunnel) : TunnelLabel → Option Tunnel
  | .openStream =>
    let streamId := w.nextStreamId
    let w := { w with nextStreamId := streamId + 2 }
    -- the exhausted identifier space
    if streamId = 0 ∨ streamId % 2 = 0 then some w
    else some ((w.setStream .relay streamId (some (.opened config.relay))).send .node
      [Frame.u32 .open streamId config.relay.initialWindowBytes])
  | .openElsewhere => some { w with nextStreamId := w.nextStreamId + 2 }
  | .act side streamId act => do
    let e ← (w.station side).streams.lookup streamId
    let (e, frames) ← e.act side (config.side side) streamId act
    return (w.setStream side streamId (some e)).send side.other frames
  | .read side =>
    if (w.station side).error.isSome then none
    else match (w.station side).incoming with
      | [] => none
      | f :: rest =>
        let taken := w.setStation { w.station side with incoming := rest } side
        match receive config side (w.slotFree config)
            ((w.station side).streams.lookup f.streamId) f with
        | .ok (e, reply) => some ((taken.setStream side f.streamId e).send side.other reply)
        | .error e => some (taken.fail side e)
  | .ping side sequence => some (w.send side.other [⟨.ping, 0, bigEndian 8 sequence⟩])

/-- A tunnel starts without streams; the route may have numbered some on earlier tunnels. -/
def tunnelSystem (config : TunnelConfig) : Machine Tunnel TunnelLabel where
  init w := ∃ opened, w = ⟨1 + 2 * opened, ⟨[], [], none⟩, ⟨[], [], none⟩⟩
  next := Tunnel.step config

end RealityConsole.RelayTunnel
