import RealityConsole.RelayTunnel.Model

/-!
# One stream of a tunnel

What concerns one stream is its entry on each side and its frames on the way; the link of the
stream. A step of the tunnel is a step of one link and leaves the others alone, except that the
failure of a reader removes the streams of its side from every link.
-/

namespace RealityConsole.RelayTunnel

open Framework

/-- The entry of a stream on each side, and its frames on the way to each side. -/
structure Link where
  own : Side → Option Endpoint
  inc : Side → List Frame

def framesOf (streamId : Nat) (frames : List Frame) : List Frame :=
  frames.filter fun f => f.streamId = streamId

theorem framesOf_single {streamId : Nat} {f : Frame} (h : f.streamId = streamId) :
    framesOf streamId [f] = [f] :=
  List.filter_cons_of_pos (decide_eq_true h)

def Tunnel.link (w : Tunnel) (streamId : Nat) : Link :=
  ⟨fun side => (w.station side).streams.lookup streamId,
    fun side => framesOf streamId (w.station side).incoming⟩

theorem Side.eq_or_other (side other : Side) : other = side ∨ other = side.other := by
  cases side <;> cases other <;> decide

namespace Link

def setOwn (l : Link) (side : Side) : Option Endpoint → Link
  | none => l
  | some e => { l with own := Function.update l.own side (some e) }

def setInc (l : Link) (side : Side) (frames : List Frame) : Link :=
  { l with inc := Function.update l.inc side frames }

def push (l : Link) (side : Side) (frames : List Frame) : Link :=
  l.setInc side (l.inc side ++ frames)

variable (l : Link) (side : Side)

@[simp] theorem own_setOwn (e : Endpoint) : (l.setOwn side (some e)).own side = some e :=
  Function.update_self ..

@[simp] theorem own_setOwn_other (e : Option Endpoint) :
    (l.setOwn side e).own side.other = l.own side.other := by
  cases e with
  | none => rfl
  | some e => exact Function.update_of_ne (by cases side <;> decide) ..

@[simp] theorem inc_setOwn (e : Option Endpoint) : (l.setOwn side e).inc = l.inc := by
  cases e <;> rfl

@[simp] theorem own_setInc (frames : List Frame) : (l.setInc side frames).own = l.own := rfl

@[simp] theorem inc_setInc (frames : List Frame) : (l.setInc side frames).inc side = frames :=
  Function.update_self ..

@[simp] theorem inc_setInc_other (frames : List Frame) :
    (l.setInc side frames).inc side.other = l.inc side.other :=
  Function.update_of_ne (by cases side <;> decide) ..

@[simp] theorem own_push (frames : List Frame) : (l.push side frames).own = l.own := rfl

@[simp] theorem inc_push (frames : List Frame) :
    (l.push side.other frames).inc side.other = l.inc side.other ++ frames :=
  Function.update_self ..

@[simp] theorem inc_push_other (frames : List Frame) :
    (l.push side.other frames).inc side = l.inc side :=
  Function.update_of_ne (by cases side <;> decide) ..

end Link

inductive LinkLabel where
  | opened
  | act (side : Side) (act : Act)
  | read (side : Side)
  | fail (side : Side)

inductive LinkStep (config : TunnelConfig) (streamId : Nat) : Link → LinkLabel → Link → Prop where
  | opened {l : Link} : LinkStep config streamId l .opened
      ((l.setOwn .relay (some (.opened config.relay))).push .node
        [Frame.u32 .open streamId config.relay.initialWindowBytes])
  | act {l : Link} {side : Side} {act : Act} {e e' : Endpoint} {frames : List Frame}
      (hown : l.own side = some e)
      (hact : e.act side (config.side side) streamId act = some (e', frames)) :
      LinkStep config streamId l (.act side act) ((l.setOwn side (some e')).push side.other frames)
  | read {l : Link} {side : Side} {free : Bool} {f : Frame} {rest reply : List Frame}
      {e : Option Endpoint} (hinc : l.inc side = f :: rest) (hid : f.streamId = streamId)
      (hread : receive config side free (l.own side) f = .ok (e, reply)) :
      LinkStep config streamId l (.read side) (((l.setInc side rest).setOwn side e).push
        side.other reply)
  | fail {l : Link} {side : Side} {rest : List Frame} (hrest : rest <:+ l.inc side) :
      LinkStep config streamId l (.fail side)
        { own := Function.update l.own side ((l.own side).map Endpoint.remove)
          inc := Function.update l.inc side rest }

/-! ### Reading a changed tunnel -/

namespace Tunnel

variable (w : Tunnel)

theorem station_setStation (station : Station) (side other : Side) :
    (w.setStation station side).station other
      = if other = side then station else w.station other := by cases side <;> cases other <;> rfl

theorem link_setStation (station : Station) (side : Side) (streamId : Nat) :
    (w.setStation station side).link streamId =
      { own := Function.update (w.link streamId).own side (station.streams.lookup streamId)
        inc := Function.update (w.link streamId).inc side
          (framesOf streamId station.incoming) } := by
  unfold link
  congr 1 <;>
  · funext other
    rw [station_setStation, Function.update_apply]
    by_cases hside : other = side
    · rw [if_pos hside, if_pos hside]
    · rw [if_neg hside, if_neg hside]

theorem link_send (side : Side) (frames : List Frame) (streamId : Nat) :
    (w.send side frames).link streamId
      = (w.link streamId).push side (framesOf streamId frames) := by
  have hframes : framesOf streamId ((w.station side).incoming ++ frames)
      = (w.link streamId).inc side ++ framesOf streamId frames := List.filter_append ..
  unfold send Link.push Link.setInc
  rw [link_setStation, hframes]
  congr 1
  exact Function.update_eq_self side _

theorem link_setStream (side : Side) (e : Option Endpoint) (changed streamId : Nat) :
    (w.setStream side changed e).link streamId
      = if streamId = changed then (w.link streamId).setOwn side e else w.link streamId := by
  cases e with
  | none => exact (ite_self _).symm
  | some e =>
    have hstream : ((w.station side).streams.store changed e).lookup streamId
        = if streamId = changed then some e else (w.link streamId).own side :=
      SortedMap.lookup_store ..
    have hinc : Function.update (w.link streamId).inc side (framesOf streamId (w.station
      side).incoming) = (w.link streamId).inc := Function.update_eq_self side _
    unfold setStream Link.setOwn
    rw [link_setStation, hstream, hinc]
    by_cases hid : streamId = changed
    · rw [if_pos hid, if_pos hid]
    · rw [if_neg hid, if_neg hid, Function.update_eq_self]

theorem link_taken {side : Side} {f : Frame} {rest : List Frame}
    (hinc : (w.station side).incoming = f :: rest) (streamId : Nat) :
    (w.setStation { w.station side with incoming := rest } side).link streamId
        = (w.link streamId).setInc side (framesOf streamId rest) ∧ (w.link streamId).inc side
        = if f.streamId = streamId then f :: framesOf streamId rest
          else framesOf streamId rest := by
  constructor
  · rw [link_setStation]
    congr 1
    exact Function.update_eq_self side _
  · show framesOf streamId (w.station side).incoming = _
    rw [hinc, framesOf, List.filter_cons]
    simp only [decide_eq_true_eq]
    rfl

theorem link_fail (side : Side) (e : TunnelError) (streamId : Nat) : (w.fail side e).link streamId =
      { own := Function.update (w.link streamId).own side
          (((w.link streamId).own side).map Endpoint.remove)
        inc := (w.link streamId).inc } := by
  have hstreams : ((w.station side).streams.mapValues fun _ => Endpoint.remove).lookup streamId
      = ((w.link streamId).own side).map Endpoint.remove := SortedMap.lookup_mapValues ..
  unfold fail
  rw [link_setStation, hstreams]
  congr 1
  exact Function.update_eq_self side _

end Tunnel

/-! ### What a task does -/

/-- The steps of a task, one by one. -/
inductive Acts (side : Side) (config : SideConfig) (streamId : Nat) (e : Endpoint) :
    Act → Endpoint → List Frame → Prop where
  | accept {window : Nat} (hphase : e.phase = .opening (some (.ok window))) (hpos : window ≠ 0) :
      Acts side config streamId e .accept
        { e with phase := .serving .reading .idle, sendCredit := e.sendCredit + window } []
  | acceptEmpty (hphase : e.phase = .opening (some (.ok 0))) :
      Acts side config streamId e .accept (e.retire .finished) []
  | refused {code : ErrorCode} (hphase : e.phase = .opening (some (.error code))) :
      Acts side config streamId e .refused (e.retire .finished) []
  | timeOut {answer : Option (Except ErrorCode Nat)} (hphase : e.phase = .opening answer) :
      Acts side config streamId e .timeOut (e.retire .finished) []
  | connected (hphase : e.phase = .connecting) :
      Acts side config streamId e .connected { e with phase := .serving .reading .idle }
        [Frame.u32 .openOk streamId config.initialWindowBytes]
  | refuse (hphase : e.phase = .connecting) :
      Acts side config streamId e .refuse (e.retire .finished)
        [Frame.code .openError streamId .routeUnavailable]
  | abandon (hphase : e.phase = .connecting) :
      Acts side config streamId e .abandon (e.retire .finished) []
  | consume {bytes : Bytes} {receiver : Receiver} (hphase : e.phase = .serving .reading receiver)
      (hne : bytes ≠ []) (hmax : bytes.length ≤ config.maxFrameBytes)
      (hcredit : bytes.length ≤ e.sendCredit) :
      Acts side config streamId e (.consume bytes)
        { e with
          phase := .serving (.holding bytes) receiver
          sendCredit := e.sendCredit - bytes.length
          taken := e.taken ++ bytes } []
  | sendData {bytes : Bytes} {receiver : Receiver}
      (hphase : e.phase = .serving (.holding bytes) receiver) :
      Acts side config streamId e .sendData { e with phase := .serving .reading receiver }
        [⟨.data, streamId, bytes⟩]
  | sendFin {receiver : Receiver} (hphase : e.phase = .serving .reading receiver) :
      Acts side config streamId e .sendFin { e with phase := .serving .done receiver }
        [⟨.fin, streamId, []⟩]
  | takeData {sender : Sender} {bytes : Bytes} {rest : List Inbound}
      (hphase : e.phase = .serving sender .idle) (hqueue : e.inbound = .data bytes :: rest) :
      Acts side config streamId e .take
        { e with phase := .serving sender (.writing bytes), inbound := rest } []
  | takeFin {sender : Sender} {rest : List Inbound}
      (hphase : e.phase = .serving sender .idle) (hqueue : e.inbound = .fin :: rest) :
      Acts side config streamId e .take { e with phase := .serving sender .done, inbound := [] } []
  | takeCloseRelay {sender : Sender} {rest : List Inbound} (hside : side = .relay)
      (hphase : e.phase = .serving sender .idle) (hqueue : e.inbound = .close :: rest) :
      Acts side config streamId e .take (e.retire .closing) []
  | takeCloseNode {sender : Sender} {rest : List Inbound} (hside : side = .node)
      (hphase : e.phase = .serving sender .idle) (hqueue : e.inbound = .close :: rest) :
      Acts side config streamId e .take { e with phase := .serving sender .done, inbound := [] } []
  | write {sender : Sender} {bytes : Bytes} {granted : Nat}
      (hphase : e.phase = .serving sender (.writing bytes)) (hpos : 0 < granted)
      (hle : granted ≤ bytes.length) (hnode : side = .node → granted = bytes.length) :
      Acts side config streamId e (.write granted)
        { e with
          phase := .serving sender (.acknowledging granted (bytes.length - granted))
          receiveRemaining := e.receiveRemaining + granted
          delivered := e.delivered ++ bytes.take granted } []
  | acknowledge {sender : Sender} {granted : Nat}
      (hphase : e.phase = .serving sender (.acknowledging granted 0)) :
      Acts side config streamId e .acknowledge { e with phase := .serving sender .idle }
        [Frame.u32 .windowUpdate streamId granted]
  | acknowledgePart {sender : Sender} {granted rest : Nat} (hrest : rest ≠ 0)
      (hphase : e.phase = .serving sender (.acknowledging granted rest)) :
      Acts side config streamId e .acknowledge (e.retire .closing)
        [Frame.u32 .windowUpdate streamId granted]
  | finish {sender : Sender} {receiver : Receiver} (hphase : e.phase = .serving sender receiver) :
      Acts side config streamId e .finish (e.retire .closing) []
  | sendClose {code : ErrorCode} (hphase : e.phase = .closing) :
      Acts side config streamId e (.sendClose code) { e with phase := .finished }
        [Frame.code .close streamId code]

variable {frames : List Frame}

theorem acts_of_act {side : Side} {config : SideConfig} {streamId : Nat} {e e' : Endpoint}
    {act : Act} (h : e.act side config streamId act = some (e', frames)) :
    Acts side config streamId e act e' frames := by
  cases act <;> simp only [Endpoint.act] at h <;> grind [Acts]

theorem Acts.streamId {side : Side} {config : SideConfig} {streamId : Nat} {e e' : Endpoint}
    {act : Act} (h : Acts side config streamId e act e' frames) :
    framesOf streamId frames = frames := by cases h <;> first | rfl | exact framesOf_single rfl

/-! ### What a reader does -/

theorem dispatch_ok {side : Side} {e : Option Endpoint} {streamId : Nat} {found : Endpoint} :
    dispatch side e streamId = .ok found ↔
      streamId % 2 = 1 ∧ e = some found ∧ found.mapped := by
  unfold dispatch
  by_cases hid : streamId = 0 ∨ streamId % 2 = 0
  · rw [if_pos hid]
    exact ⟨nofun, by omega⟩
  have hodd : streamId % 2 = 1 := by omega
  rw [if_neg hid]
  cases e with
  | none => exact ⟨nofun, by simp⟩
  | some e =>
    by_cases hmap : e.mapped = true
    · simp only [hmap, hodd, if_true, Except.ok.injEq, Option.some.injEq, true_and]
      exact ⟨fun h => ⟨h, h ▸ hmap⟩, And.left⟩
    simp only [hmap, if_false, Option.some.injEq, reduceCtorEq, false_iff, not_and]
    rintro - rfl
    exact hmap

/-- The steps of a reader that do not fail, one by one. -/
inductive Receives (config : TunnelConfig) (side : Side) (f : Frame) :
    Option Endpoint → Option Endpoint → List Frame → Prop where
  | openOk {e : Endpoint} {window : Nat} (hside : side = .relay) (hkind : f.kind = .openOk)
      (hparse : f.parseU32 = .ok window) (hmapped : e.mapped = true)
      (hresult : e.openResult = true) :
      Receives config side f (some e)
        (some { e with openResult := false, phase := e.phase.answered (.ok window) }) []
  | openError {e : Endpoint} (hside : side = .relay) (hkind : f.kind = .openError)
      (hmapped : e.mapped = true) (hresult : e.openResult = true) :
      Receives config side f (some e)
        (some { e with
          openResult := false
          phase := e.phase.answered (.error .routeUnavailable) }) []
  | openErrorLate {e : Endpoint} (hside : side = .relay) (hkind : f.kind = .openError)
      (hmapped : e.mapped = true) (hresult : e.openResult = false) :
      Receives config side f (some e) (some e) []
  | data {e : Endpoint} (hkind : f.kind = .data) (hmapped : e.mapped = true)
      (hwindow : f.payload.length ≤ e.receiveRemaining) (hlistening : e.listening = true)
      (hroom : e.inbound.length < (config.side side).streamBufferFrames) :
      Receives config side f (some e)
        (some { e with
          receiveRemaining := e.receiveRemaining - f.payload.length
          inbound := e.inbound ++ [.data f.payload] }) []
  | dataFull {e : Endpoint} (hkind : f.kind = .data) (hmapped : e.mapped = true)
      (hwindow : f.payload.length ≤ e.receiveRemaining)
      (hfull : e.listening = true →
        (config.side side).streamBufferFrames ≤ e.inbound.length) :
      Receives config side f (some e)
        (some { e with
          receiveRemaining := e.receiveRemaining - f.payload.length
          mapped := false })
        [Frame.code .close f.streamId .limitReached]
  | fin {e : Endpoint} (hkind : f.kind = .fin) (hmapped : e.mapped = true)
      (hlistening : e.listening = true)
      (hroom : e.inbound.length < (config.side side).streamBufferFrames) :
      Receives config side f (some e) (some { e with inbound := e.inbound ++ [.fin] }) []
  | finFull {e : Endpoint} (hkind : f.kind = .fin) (hmapped : e.mapped = true)
      (hfull : e.listening = true →
        (config.side side).streamBufferFrames ≤ e.inbound.length) :
      Receives config side f (some e) (some e.remove) []
  | close {e : Endpoint} {inbound : List Inbound} (hkind : f.kind = .close)
      (hmapped : e.mapped = true)
      (hinbound : inbound = e.inbound ++ [.close] ∨ inbound = e.inbound) :
      Receives config side f (some e) (some { e with mapped := false, inbound := inbound }) []
  | closeUnknown {e : Option Endpoint} (hkind : f.kind = .close)
      (hunknown : ∀ found, dispatch side e f.streamId ≠ .ok found) :
      Receives config side f e e []
  | windowUpdate {e : Endpoint} {amount : Nat} (hkind : f.kind = .windowUpdate)
      (hmapped : e.mapped = true) (hparse : f.parseU32 = .ok amount) (hpos : amount ≠ 0) :
      Receives config side f (some e) (some { e with sendCredit := e.sendCredit + amount }) []
  | ping {e : Option Endpoint} (hkind : f.kind = .ping) (hid : f.streamId = 0) :
      Receives config side f e e [⟨.pong, 0, f.payload⟩]
  | pong {e : Option Endpoint} (hkind : f.kind = .pong) (hid : f.streamId = 0) :
      Receives config side f e e []
  | admitted {e : Option Endpoint} {window : Nat} (hside : side = .node) (hkind : f.kind = .open)
      (hodd : f.streamId % 2 = 1) (hparse : f.parseU32 = .ok window)
      (hfree : e.any (·.mapped) = false) :
      Receives config side f e (some (.admitted config.node window)) []
  | noSlot {e : Option Endpoint} (hside : side = .node) (hkind : f.kind = .open) :
      Receives config side f e e [Frame.code .openError f.streamId .limitReached]

section Receive

variable {config : TunnelConfig} {side : Side} {e e' : Option Endpoint} {f : Frame}
  {reply : List Frame}

theorem receives_of_receive {free : Bool} (h : receive config side free e f = .ok (e', reply)) :
    Receives config side f e e' reply := by
  unfold receive at h
  split at h
  · cases h
  -- one kind of frame after the other, on either side
  cases side <;> simp only [relayReceive, nodeReceive] at h <;> cases hkind : f.kind <;>
    simp only [hkind, receiveData, receiveFin, receiveWindow, receiveHeartbeat, receiveOpen,
      bind_ok, dispatch_ok, reduceCtorEq] at h <;>
    grind [Receives, receiveClose, Endpoint.enqueue, Endpoint.remove, Endpoint.listening,
      TunnelConfig.side, dispatch_ok]

theorem Receives.streamId (h : Receives config side f e e' reply) :
    framesOf f.streamId reply = reply := by
  cases h with
  | ping _ hid => exact framesOf_single hid.symm
  | _ => first | rfl | exact framesOf_single rfl

end Receive

/-! ### A step of the tunnel -/

inductive TunnelStep (config : TunnelConfig) (w : Tunnel) : TunnelLabel → Tunnel → Prop where
  | exhausted : TunnelStep config w .openStream { w with nextStreamId := w.nextStreamId + 2 }
  | opened (hodd : w.nextStreamId % 2 = 1) :
      TunnelStep config w .openStream
        (({ w with nextStreamId := w.nextStreamId + 2 }.setStream .relay w.nextStreamId
          (some (.opened config.relay))).send .node
            [Frame.u32 .open w.nextStreamId config.relay.initialWindowBytes])
  | elsewhere : TunnelStep config w .openElsewhere { w with nextStreamId := w.nextStreamId + 2 }
  | act {side : Side} {streamId : Nat} {act : Act} {e e' : Endpoint} {frames : List Frame}
      (hown : (w.station side).streams.lookup streamId = some e)
      (hact : e.act side (config.side side) streamId act = some (e', frames)) :
      TunnelStep config w (.act side streamId act)
        ((w.setStream side streamId (some e')).send side.other frames)
  | read {side : Side} {f : Frame} {rest reply : List Frame} {e : Option Endpoint}
      (hincoming : (w.station side).incoming = f :: rest)
      (hread : receive config side (w.slotFree config)
        ((w.station side).streams.lookup f.streamId) f = .ok (e, reply)) :
      TunnelStep config w (.read side)
        (((w.setStation { w.station side with incoming := rest } side).setStream side f.streamId
          e).send side.other reply)
  | fail {side : Side} {f : Frame} {rest : List Frame} {e : TunnelError}
      (hincoming : (w.station side).incoming = f :: rest)
      (herror : receive config side (w.slotFree config)
        ((w.station side).streams.lookup f.streamId) f = .error e) :
      TunnelStep config w (.read side)
        ((w.setStation { w.station side with incoming := rest } side).fail side e)
  | ping {side : Side} {sequence : Nat} :
      TunnelStep config w (.ping side sequence)
        (w.send side.other [⟨.ping, 0, bigEndian 8 sequence⟩])

theorem tunnelStep_of_step {config : TunnelConfig} {w w' : Tunnel} {label : TunnelLabel}
    (h : w.step config label = some w') : TunnelStep config w label w' := by
  cases label <;> simp only [Tunnel.step, Option.bind_eq_bind, Option.bind_eq_some_iff] at h <;>
    grind [TunnelStep]

inductive StepOn (config : TunnelConfig) (streamId : Nat) (w w' : Tunnel) : TunnelLabel → Prop where
  | none {label : TunnelLabel} (h : w'.link streamId = w.link streamId) :
      StepOn config streamId w w' label
  | opened (hid : w.nextStreamId = streamId)
      (h : LinkStep config streamId (w.link streamId) .opened (w'.link streamId)) :
      StepOn config streamId w w' .openStream
  | act {side : Side} {act : Act}
      (h : LinkStep config streamId (w.link streamId) (.act side act) (w'.link streamId)) :
      StepOn config streamId w w' (.act side streamId act)
  | read {side : Side} {f : Frame} {rest : List Frame}
      (hincoming : (w.station side).incoming = f :: rest) (hid : f.streamId = streamId)
      (h : LinkStep config streamId (w.link streamId) (.read side) (w'.link streamId)) :
      StepOn config streamId w w' (.read side)
  | fail {side : Side} {f : Frame} {rest : List Frame} {e : TunnelError}
      (hincoming : (w.station side).incoming = f :: rest)
      (herror : receive config side (w.slotFree config)
        ((w.station side).streams.lookup f.streamId) f = .error e)
      (h : LinkStep config streamId (w.link streamId) (.fail side) (w'.link streamId)) :
      StepOn config streamId w w' (.read side)

theorem framesOf_eq_nil {streamId other : Nat} (hne : streamId ≠ other)
    (h : framesOf other frames = frames) : framesOf streamId frames = [] := by
  rw [← h, framesOf, framesOf, List.filter_filter]
  apply List.filter_eq_nil_iff.2
  intro f _ hf
  simp only [Bool.and_eq_true, decide_eq_true_eq] at hf
  exact hne (hf.1.symm.trans hf.2)

theorem Link.push_nil (l : Link) (side : Side) : l.push side [] = l := by
  unfold Link.push Link.setInc
  rw [List.append_nil, Function.update_eq_self]

theorem stepOn_of_step {config : TunnelConfig} {w w' : Tunnel} {label : TunnelLabel}
    (h : w.step config label = some w') {streamId : Nat} (hid : streamId ≠ 0) :
    StepOn config streamId w w' label := by
  cases tunnelStep_of_step h with
  | exhausted | elsewhere => exact .none rfl
  | opened =>
    have hframes : framesOf w.nextStreamId
        [Frame.u32 .open w.nextStreamId config.relay.initialWindowBytes] = _ := framesOf_single rfl
    by_cases hsame : streamId = w.nextStreamId
    · subst hsame
      refine .opened rfl ?_
      rw [Tunnel.link_send, Tunnel.link_setStream, if_pos rfl, hframes]
      exact .opened
    · refine .none ?_
      rw [Tunnel.link_send, Tunnel.link_setStream, if_neg hsame, framesOf_eq_nil hsame hframes,
        Link.push_nil]
      rfl
  | @act side acting act e e' frames hown hact =>
    have hframes := (acts_of_act hact).streamId
    by_cases hsame : streamId = acting
    · subst hsame
      refine .act ?_
      rw [Tunnel.link_send, Tunnel.link_setStream, if_pos rfl, hframes]
      exact .act hown hact
    · refine .none ?_
      rw [Tunnel.link_send, Tunnel.link_setStream, if_neg hsame, framesOf_eq_nil hsame hframes,
        Link.push_nil]
  | @read side f rest reply e hincm hread =>
    obtain ⟨htaken, hinc⟩ := w.link_taken hincm streamId
    have hreply := (receives_of_receive hread).streamId
    by_cases hsame : streamId = f.streamId
    · subst hsame
      rw [if_pos rfl] at hinc
      refine .read hincm rfl ?_
      rw [Tunnel.link_send, Tunnel.link_setStream, if_pos rfl, htaken, hreply]
      exact .read hinc rfl hread
    · rw [if_neg (Ne.symm hsame)] at hinc
      refine .none ?_
      rw [Tunnel.link_send, Tunnel.link_setStream, if_neg hsame, htaken,
        framesOf_eq_nil hsame hreply, Link.push_nil, ← hinc]
      unfold Link.setInc
      rw [Function.update_eq_self]
  | @fail side f rest e hincm herr =>
    obtain ⟨htaken, hinc⟩ := w.link_taken hincm streamId
    refine .fail hincm herr ?_
    rw [Tunnel.link_fail, htaken]
    refine .fail ?_
    rw [hinc]
    split
    · exact List.suffix_cons ..
    · exact List.suffix_rfl
  | ping =>
    refine .none ?_
    rw [Tunnel.link_send, framesOf_eq_nil hid (framesOf_single rfl), Link.push_nil]

/-! ### Numbers and errors -/

namespace Tunnel

variable (w : Tunnel)

@[simp] theorem nextStreamId_setStation (station : Station) (side : Side) :
    (w.setStation station side).nextStreamId = w.nextStreamId := by cases side <;> rfl

@[simp] theorem nextStreamId_send (side : Side) (frames : List Frame) :
    (w.send side frames).nextStreamId = w.nextStreamId :=
  w.nextStreamId_setStation ..

@[simp] theorem nextStreamId_setStream (side : Side) (streamId : Nat) (e : Option Endpoint) :
    (w.setStream side streamId e).nextStreamId = w.nextStreamId := by
  cases e with
  | none => rfl
  | some e => exact w.nextStreamId_setStation ..

/-- What changes nothing but streams and frames keeps the errors. -/
theorem error_setStation {station : Station} {side : Side}
    (h : station.error = (w.station side).error) (other : Side) :
    ((w.setStation station side).station other).error = (w.station other).error := by
  rw [station_setStation]
  by_cases hside : other = side
  · rw [if_pos hside, h, hside]
  · rw [if_neg hside]

@[simp] theorem error_send (side : Side) (frames : List Frame) (other : Side) :
    ((w.send side frames).station other).error = (w.station other).error := by
  unfold send
  rw [error_setStation]
  rfl

@[simp] theorem error_setStream (side : Side) (streamId : Nat) (e : Option Endpoint)
    (other : Side) :
    ((w.setStream side streamId e).station other).error = (w.station other).error := by
  cases e with
  | none => rfl
  | some e =>
    unfold setStream
    rw [error_setStation]
    rfl

end Tunnel

/-- How much a step adds to the number of the next stream. -/
def TunnelLabel.numbers : TunnelLabel → Nat
  | .openStream | .openElsewhere => 2
  | _ => 0

section Step

variable {config : TunnelConfig} {w w' : Tunnel} {label : TunnelLabel}

theorem step_nextStreamId (h : w.step config label = some w') :
    w'.nextStreamId = w.nextStreamId + label.numbers := by
  cases tunnelStep_of_step h with
  | exhausted | elsewhere => rfl
  | fail =>
    unfold Tunnel.fail
    rw [Tunnel.nextStreamId_setStation, Tunnel.nextStreamId_setStation]
    rfl
  | _ =>
    simp only [Tunnel.nextStreamId_send, Tunnel.nextStreamId_setStream,
      Tunnel.nextStreamId_setStation]
    rfl

theorem step_lookup_zero (h : w.step config label = some w')
    (hzero : ∀ side, (w.station side).streams.lookup 0 = none) (side : Side) :
    (w'.station side).streams.lookup 0 = none := by
  replace hzero : ∀ side, (w.link 0).own side = none := hzero
  show (w'.link 0).own side = none
  cases tunnelStep_of_step h with
  | exhausted | elsewhere => exact hzero side
  | opened hodd =>
    rw [Tunnel.link_send, Tunnel.link_setStream, if_neg (by omega)]
    exact hzero side
  | @act acting streamId act e e' frames hown =>
    have hid : 0 ≠ streamId := by
      rintro rfl
      cases (hzero acting).symm.trans hown
    rw [Tunnel.link_send, Tunnel.link_setStream, if_neg hid]
    exact hzero side
  | @read reading f rest reply e hinc hread =>
    rw [Tunnel.link_send, Tunnel.link_setStream, (w.link_taken hinc 0).1]
    split
    · -- without an entry and without a number there is nothing to enter
      rename_i hid
      have hnone : e = none := by
        have hreceives := receives_of_receive hread
        rw [show (w.station reading).streams.lookup f.streamId = none from hid ▸ hzero reading]
          at hreceives
        cases hreceives with
        | admitted _ _ hodd => omega
        | closeUnknown | ping | pong | noSlot => rfl
      rw [hnone]
      exact hzero side
    · exact hzero side
  | @fail reading f rest e hinc =>
    rw [Tunnel.link_fail, (w.link_taken hinc 0).1]
    by_cases hside : side = reading
    · simp [hside, hzero]
    · simp [hside, hzero]
  | ping =>
    rw [Tunnel.link_send]
    exact hzero side

theorem step_error (h : w.step config label = some w') (side : Side) :
    (w'.station side).error = (w.station side).error ∨
      ∃ f rest e, label = .read side ∧ (w.station side).incoming = f :: rest ∧
        receive config side (w.slotFree config) ((w.station side).streams.lookup f.streamId) f
          = .error e ∧ (w'.station side).error = some e := by
  cases tunnelStep_of_step h with
  | @fail reading f rest e hinc herr =>
    by_cases hside : side = reading
    · subst hside
      refine .inr ⟨f, rest, e, rfl, hinc, herr, ?_⟩
      simp [Tunnel.fail, Tunnel.station_setStation]
    · simp [Tunnel.fail, Tunnel.station_setStation, hside]
  | read => simp [Tunnel.error_setStation]
  | act | ping => simp
  | exhausted | elsewhere =>
    left
    cases side <;> rfl
  | opened =>
    left
    rw [Tunnel.error_send, Tunnel.error_setStream]
    cases side <;> rfl

end Step

/-! ### Invariants of links -/

section Invariant

variable {config : TunnelConfig} {streamId : Nat} {l l' : Link} {w : Tunnel}

/-- A link that no stream uses. -/
def Link.Unused (l : Link) : Prop := (∀ side, l.own side = none) ∧ ∀ side, l.inc side = []

theorem Link.Unused.step {label : LinkLabel} (h : l.Unused)
    (hstep : LinkStep config streamId l label l') (hopen : label ≠ .opened) : l'.Unused := by
  cases hstep with
  | opened => exact absurd rfl hopen
  | act hown =>
    rw [h.1] at hown
    cases hown
  | read hinc =>
    rw [h.2] at hinc
    cases hinc
  | @fail side rest hrest =>
    rw [h.2 side] at hrest
    rw [h.1 side]
    obtain rfl := List.suffix_nil.1 hrest
    constructor <;> intro other <;> by_cases hside : other = side <;>
      simp [hside, h.1 other, h.2 other]

structure Numbered (w : Tunnel) : Prop where
  odd : w.nextStreamId % 2 = 1
  fresh : ∀ streamId, w.nextStreamId ≤ streamId → (w.link streamId).Unused
  control : ∀ side, (w.station side).streams.lookup 0 = none

theorem Numbered.step {w w' : Tunnel} {label : TunnelLabel} (hinv : Numbered w)
    (h : w.step config label = some w') : Numbered w' := by
  have hnext := step_nextStreamId h
  have hodd := hinv.odd
  refine ⟨?_, fun streamId hfresh => ?_, step_lookup_zero h hinv.control⟩
  · rw [hnext]
    cases label <;> simp only [TunnelLabel.numbers] <;> omega
  · have hold := hinv.fresh streamId (by omega)
    cases stepOn_of_step h (show streamId ≠ 0 by omega) with
    | none hsame =>
      rw [hsame]
      exact hold
    | opened hid =>
      simp only [TunnelLabel.numbers] at hnext
      omega
    | act hstep => exact hold.step hstep nofun
    | read _ _ hstep => exact hold.step hstep nofun
    | fail _ _ hstep => exact hold.step hstep nofun

theorem unused_of_init (h : (tunnelSystem config).init w) (streamId : Nat) :
    (w.link streamId).Unused := by
  obtain ⟨opened, rfl⟩ := h
  exact ⟨fun side => by cases side <;> rfl, fun side => by cases side <;> rfl⟩

theorem numbered_of_reachable (h : (tunnelSystem config).Reachable w) : Numbered w := by
  refine h.invariant (I := Numbered) (fun a ha => ?_) fun _ _ _ hinv _ hnext => hinv.step hnext
  have hunus := unused_of_init ha
  obtain ⟨opened, rfl⟩ := ha
  refine ⟨?_, fun streamId _ => hunus streamId, (hunus 0).1⟩
  show (1 + 2 * opened) % 2 = 1
  omega

theorem ne_zero_of_lookup (h : (tunnelSystem config).Reachable w) {side : Side} {e : Endpoint}
    (hown : (w.station side).streams.lookup streamId = some e) : streamId ≠ 0 := by
  rintro rfl
  cases ((numbered_of_reachable h).control side).symm.trans hown

theorem link_invariant {P : Nat → Link → Prop} (hunus : ∀ streamId l, l.Unused → P streamId l)
    (hstep : ∀ streamId l label l', P streamId l → LinkStep config streamId l label l' →
      (label = .opened → streamId % 2 = 1 ∧ l.Unused) → P streamId l')
    (h : (tunnelSystem config).Reachable w) (hid : streamId ≠ 0) :
    P streamId (w.link streamId) := by
  have hboth : Numbered w ∧ P streamId (w.link streamId) := by
    refine h.invariant (I := fun w => Numbered w ∧ P streamId (w.link streamId)) ?_ ?_
    · intro a ha
      exact ⟨numbered_of_reachable ⟨a, ha, .refl⟩, hunus _ _ (unused_of_init ha streamId)⟩
    · rintro a label b ⟨hnumd, hold⟩ - hnext
      refine ⟨hnumd.step hnext, ?_⟩
      cases stepOn_of_step hnext hid with
      | none hsame =>
        rw [hsame]
        exact hold
      | opened hnum hlink =>
        exact hstep _ _ _ _ hold hlink fun _ =>
          ⟨hnum ▸ hnumd.odd, hnumd.fresh streamId (Nat.le_of_eq hnum)⟩
      | act hlink => exact hstep _ _ _ _ hold hlink nofun
      | read _ _ hlink => exact hstep _ _ _ _ hold hlink nofun
      | fail _ _ hlink => exact hstep _ _ _ _ hold hlink nofun
  exact hboth.2

end Invariant

end RealityConsole.RelayTunnel
