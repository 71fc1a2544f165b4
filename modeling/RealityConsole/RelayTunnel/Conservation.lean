import RealityConsole.RelayTunnel.Flow

/-!
# Conservation of the window

Every stream of every run keeps both its flows, from the time the node knows it; before that `Open`
is on the way with the whole window. So no reader ever sees a window exceeded, and a stream never
has more bytes waiting than its window.
-/

namespace RealityConsole.RelayTunnel

open Framework

/-! ### Every link of every run -/

/-- A stream that the node has no entry for: `Open` is on the way, or refused, or lost. -/
structure Offered (config : TunnelConfig) (streamId : Nat) (r : Endpoint)
    (toNode toRelay : List Frame) : Prop where
  remaining : r.receiveRemaining = config.relay.initialWindowBytes
  credit : r.sendCredit = 0
  inbound : r.inbound = []
  phase : r.phase = .opening none ∨ (∃ code, r.phase = .opening (some (.error code))) ∨
    r.phase = .finished
  waiting : r.openResult = true → r.mapped = true → r.phase = .opening none
  frames : toNode = [Frame.u32 .open streamId config.relay.initialWindowBytes] ∧ toRelay = [] ∨
    toNode = [] ∧ ∀ f ∈ toRelay, ∃ code, f = Frame.code .openError streamId code

inductive FlowInv (config : TunnelConfig) (streamId : Nat) (l : Link) : Prop where
  | unused (hown : ∀ side, l.own side = none) (hinc : ∀ side, l.inc side = [])
  | offered {r : Endpoint} (hodd : streamId % 2 = 1) (hrelay : l.own .relay = some r)
      (hnode : l.own .node = none) (h : Offered config streamId r (l.inc .node) (l.inc .relay))
  | both {r n : Endpoint} (hodd : streamId % 2 = 1) (hrelay : l.own .relay = some r)
      (hnode : l.own .node = some n) (h : Flows config .relay r n (l.inc .node) (l.inc .relay))

section Links

variable {config : TunnelConfig} {streamId : Nat} {l l' : Link}

theorem FlowInv.flows (h : FlowInv config streamId l) {side : Side} {e p : Endpoint}
    (hown : l.own side = some e) (hpeer : l.own side.other = some p) :
    streamId % 2 = 1 ∧ Flows config side e p (l.inc side.other) (l.inc side) := by
  cases h with
  | both hodd _ _ hflow =>
    have hsymm := hflow.symm
    cases side <;> simp_all [Side.other]
  | unused | offered => cases side <;> simp_all [Side.other]

theorem FlowInv.of_flows {side : Side} {e p : Endpoint} (hodd : streamId % 2 = 1)
    (hown : l.own side = some e) (hpeer : l.own side.other = some p)
    (h : Flows config side e p (l.inc side.other) (l.inc side)) : FlowInv config streamId l := by
  cases side with
  | relay => exact .both hodd hown hpeer h
  | node => exact .both hodd hpeer hown h.symm

theorem Flows.fail {side : Side} {e p : Endpoint} {out inc inc' : List Frame}
    (h : Flows config side e p out inc) (hrest : inc' <:+ inc) :
    Flows config side e.remove p out inc' := by
  have hupd : total (amountOf .windowUpdate) inc' ≤ total (amountOf .windowUpdate) inc :=
    total_suffix hrest
  have hopen : total (amountOf .openOk) inc' ≤ total (amountOf .openOk) inc := total_suffix hrest
  have hdata : total dataLength inc' ≤ total dataLength inc := total_suffix hrest
  constructor
  · have hcred := h.sends.credit_le
    refine ⟨?_, nofun, h.sends.window_le, h.sends.window_eq, h.sends.order, h.sends.unfinished,
      h.sends.ended, nofun, h.sends.closed, h.sends.known⟩
    unfold grant at hcred ⊢
    show e.sendCredit + e.held + e.granted + _ + _ + _ + _ + _ ≤ _
    omega
  · have hcred := h.receives.credit_le
    refine ⟨?_, nofun, h.receives.window_le, nofun, nofun, nofun, nofun, h.receives.waiting,
      fun _ => rfl, fun f hf => h.receives.known f (hrest.subset hf)⟩
    unfold grant at hcred ⊢
    show _ + _ + _ + _ + _ + e.crediting + e.unannounced _ + _ ≤ e.receiveRemaining
    omega

/-- A step of the relay's task before the node knows the stream. -/
theorem Offered.act {r r' : Endpoint} {toNode toRelay frames : List Frame} {act : Act}
    (h : Offered config streamId r toNode toRelay)
    (hact : Acts .relay config.relay streamId r act r' frames) :
    Offered config streamId r' (toNode ++ frames) toRelay := by
  have hretire : Offered config streamId (r.retire .finished) (toNode ++ []) toRelay := by
    rw [List.append_nil]
    exact ⟨h.remaining, h.credit, rfl, .inr (.inr rfl), nofun, h.frames⟩
  have hphase := h.phase
  cases hact with
  | refused | timeOut => exact hretire
  | accept hopg | acceptEmpty hopg | connected hopg | refuse hopg
  | abandon hopg | consume hopg | sendData hopg | sendFin hopg | takeData hopg
  | takeFin hopg | takeCloseRelay _ hopg | takeCloseNode _ hopg | write hopg
  | acknowledge hopg | acknowledgePart _ hopg | finish hopg | sendClose hopg =>
    simp [hopg] at hphase

theorem Offered.read {r : Endpoint} {e : Option Endpoint} {toNode rest reply : List Frame}
    {f : Frame} (h : Offered config streamId r toNode (f :: rest))
    (hread : Receives config .relay f (some r) e reply) :
    ∃ r', e = some r' ∧ Offered config streamId r' (toNode ++ reply) rest := by
  rcases h.frames with ⟨-, hnone⟩ | ⟨hnode, hansw⟩
  · cases hnone
  obtain ⟨code, hcode⟩ := hansw f List.mem_cons_self
  have hkind : f.kind = .openError := by rw [hcode]; rfl
  have hframes : toNode ++ [] = [Frame.u32 .open streamId config.relay.initialWindowBytes] ∧
      rest = [] ∨ toNode ++ [] = [] ∧ ∀ g ∈ rest, ∃ code, g = Frame.code .openError streamId code :=
    .inr ⟨by rw [hnode]; rfl, fun g hg => hansw g (.tail _ hg)⟩
  cases hread with
  | openError _ _ hmap hres =>
    have hphase := h.waiting hres hmap
    refine ⟨_, rfl, h.remaining, h.credit, h.inbound, .inr (.inl ?_), nofun, hframes⟩
    rw [hphase]
    exact ⟨_, rfl⟩
  | openErrorLate _ _ hmap hres => exact ⟨_, rfl, { h with frames := hframes }⟩
  | openOk _ hoth | data hoth | dataFull hoth | fin hoth | finFull hoth | close hoth
  | closeUnknown hoth | windowUpdate hoth | ping hoth | pong hoth | admitted _ hoth
  | noSlot _ hoth =>
    rw [hkind] at hoth
    cases hoth

theorem Offered.accept {r : Endpoint} {e : Option Endpoint} {rest reply toRelay : List Frame}
    {f : Frame} (h : Offered config streamId r (f :: rest) toRelay)
    (hread : Receives config .node f none e reply) :
    (e = none ∧ Offered config streamId r rest (toRelay ++ reply)) ∨
      ∃ n, e = some n ∧ Flows config .relay r n rest (toRelay ++ reply) := by
  rcases h.frames with ⟨hopen, hrel⟩ | ⟨hnone, -⟩
  · obtain ⟨rfl, rfl⟩ := List.cons.inj hopen
    subst hrel
    cases hread with
    | noSlot =>
      refine .inl ⟨rfl, { h with frames := .inr ⟨rfl, ?_⟩ }⟩
      intro g hg
      exact ⟨_, List.mem_singleton.1 hg⟩
    | admitted _ _ _ hparse =>
      rw [Frame.parseU32_u32 config.relay.window_lt] at hparse
      cases hparse
      have hr : r.held = 0 ∧ r.granted = 0 ∧ r.crediting = 0 ∧
          r.unannounced config.relay.initialWindowBytes = 0 ∧ r.pending = 0 ∧ ¬ r.Ended := by
        have hphase := h.phase
        unfold Endpoint.held Endpoint.granted Endpoint.crediting Endpoint.unannounced
          Endpoint.pending Endpoint.Ended
        rw [h.inbound]
        rcases hphase with hphase | ⟨code, hphase⟩ | hphase <;> rw [hphase] <;>
          exact ⟨rfl, rfl, rfl, rfl, rfl, nofun⟩
      obtain ⟨hheld, hgranted, hcrediting, hunannounced, hpend, hend⟩ := hr
      refine .inr ⟨_, rfl, ?_, ?_⟩
      · -- the node has its whole window to announce
        have hgr : grant r (.admitted config.node config.relay.initialWindowBytes) [] 
            config.node.initialWindowBytes = config.node.initialWindowBytes := by
          unfold grant
          rw [h.credit, hheld, hgranted]
          exact Nat.zero_add _
        refine ⟨hgr.le, fun _ _ => hgr, le_rfl, fun _ => rfl, fun _ => .nil,
          fun _ _ => ⟨nofun, nofun⟩, fun _ _ => nofun, h.waiting, nofun, nofun⟩
      · -- and the window of the relay as its credit
        have hgr : grant (.admitted config.node config.relay.initialWindowBytes) r []
            config.relay.initialWindowBytes = r.receiveRemaining := by
          unfold grant
          rw [hcrediting, hunannounced, h.remaining]
          rfl
        have hwin : r.receiveRemaining + r.pending = config.relay.initialWindowBytes := by
          rw [hpend, h.remaining]
          rfl
        refine ⟨hgr.le, fun _ _ => hgr, hwin.le, fun _ => hwin, ?_, ?_, ?_, nofun, ?_, nofun⟩
        all_goals simp [h.inbound, hend, arrivals]
    | closeUnknown hkind | ping hkind | pong hkind => cases hkind
  · cases hnone

theorem FlowInv.offered_of_none (h : FlowInv config streamId l) {side : Side} {e : Endpoint}
    (hown : l.own side = some e) (hpeer : l.own side.other = none) :
    side = .relay ∧ streamId % 2 = 1 ∧ Offered config streamId e (l.inc .node) (l.inc .relay) := by
  cases h <;> cases side <;> simp_all [Side.other]

theorem FlowInv.act (h : FlowInv config streamId l) {side : Side} {act : Act} {e e' : Endpoint}
    {frames : List Frame} (hown : l.own side = some e)
    (hact : Acts side (config.side side) streamId e act e' frames) :
    FlowInv config streamId ((l.setOwn side (some e')).push side.other frames) := by
  cases hpeer : l.own side.other with
  | some p =>
    obtain ⟨hodd, hflow⟩ := h.flows hown hpeer
    have hown' : ((l.setOwn side (some e')).push side.other frames).own side = some e' := by simp
    have hpeer' : ((l.setOwn side (some e')).push side.other frames).own side.other = some p := by
      simp [hpeer]
    refine .of_flows hodd hown' hpeer' ?_
    simpa using hflow.act hact
  | none =>
    obtain ⟨rfl, hodd, hoff⟩ := h.offered_of_none hown hpeer
    refine .offered (r := e') hodd (by simp) (by simpa [Link.setOwn, Side.other] using hpeer) ?_
    simpa [Link.push, Link.setInc, Link.setOwn, Side.other] using hoff.act hact

theorem FlowInv.read (h : FlowInv config streamId l) {side : Side} {f : Frame}
    {rest reply : List Frame} {e : Option Endpoint} (hinc : l.inc side = f :: rest)
    (hid : f.streamId = streamId) (hread : Receives config side f (l.own side) e reply) :
    FlowInv config streamId (((l.setInc side rest).setOwn side e).push side.other reply) := by
  have hout := ((l.setInc side rest).setOwn side e).inc_push side reply
  have hin := ((l.setInc side rest).setOwn side e).inc_push_other side reply
  rw [Link.inc_setOwn] at hout hin
  rw [Link.inc_setInc_other] at hout
  rw [Link.inc_setInc] at hin
  cases hown : l.own side with
  | some own =>
    rw [hown] at hread
    cases hpeer : l.own side.other with
    | some p =>
      obtain ⟨hodd, hflow⟩ := h.flows hown hpeer
      rw [hinc] at hflow
      cases e with
      | none => cases hread
      | some e' =>
        refine @of_flows _ _ _ side e' p hodd (by simp) (by simpa using hpeer) ?_
        rw [hout, hin]
        exact hflow.read (hid ▸ hodd) hread
    | none =>
      obtain ⟨rfl, hodd, hoff⟩ := h.offered_of_none hown hpeer
      rw [hinc] at hoff
      obtain ⟨r', rfl, hoff'⟩ := hoff.read hread
      refine .offered (r := r') hodd (by simp) (by simpa [Link.setOwn, Side.other] using hpeer) ?_
      rw [show Side.node = Side.relay.other from rfl, hout, hin]
      exact hoff'
  | none =>
    rw [hown] at hread
    cases h with
    | unused _ hnone =>
      rw [hnone] at hinc
      cases hinc
    | both => cases side <;> simp_all
    | offered hodd hrel hnode hoff =>
      cases side with
      | relay => cases hrel.symm.trans hown
      | node =>
        rw [hinc] at hoff
        rcases hoff.accept hread with ⟨rfl, hoff'⟩ | ⟨n, rfl, hflow⟩
        · refine .offered hodd hrel hown ?_
          rw [show Side.relay = Side.node.other from rfl, hout, hin]
          exact hoff'
        · refine .both (n := n) hodd (by simpa [Link.setOwn] using hrel) (by simp) ?_
          rw [show Side.relay = Side.node.other from rfl, hout, hin]
          exact hflow

theorem FlowInv.fail (h : FlowInv config streamId l) {side : Side} {rest : List Frame}
    (hrest : rest <:+ l.inc side) : FlowInv config streamId
      { own := Function.update l.own side ((l.own side).map Endpoint.remove)
        inc := Function.update l.inc side rest } := by
  have hne : side.other ≠ side := by cases side <;> decide
  have hnil : l.inc side = [] → rest = [] := fun h => List.suffix_nil.1 (h ▸ hrest)
  cases hown : l.own side with
  | none =>
    rw [Option.map_none, ← hown, Function.update_eq_self]
    cases h with
    | unused hnone hinc =>
      refine .unused hnone fun other => ?_
      by_cases hside : other = side
      · simp [hside, hnil (hinc side)]
      · simp [hside, hinc other]
    | both => cases side <;> simp_all
    | offered hodd hrel hnode hoff =>
      cases side with
      | relay => cases hrel.symm.trans hown
      | node =>
        -- `Open` may be lost
        refine .offered hodd hrel hnode ?_
        dsimp only
        rw [Function.update_self, Function.update_of_ne (by decide)]
        refine { hoff with frames := ?_ }
        rcases hoff.frames with ⟨hopen, hrel⟩ | ⟨hnone, hansw⟩
        · rw [hopen] at hrest
          rcases List.suffix_cons_iff.1 hrest with rfl | hlost
          · exact .inl ⟨rfl, hrel⟩
          refine .inr ⟨List.suffix_nil.1 hlost, ?_⟩
          rw [hrel]
          nofun
        · exact .inr ⟨hnil hnone, hansw⟩
  | some e =>
    cases hpeer : l.own side.other with
    | some p =>
      obtain ⟨hodd, hflow⟩ := h.flows hown hpeer
      refine .of_flows hodd (Function.update_self ..)
        ((Function.update_of_ne hne ..).trans hpeer) ?_
      dsimp only
      rw [Function.update_self, Function.update_of_ne hne]
      exact hflow.fail hrest
    | none =>
      obtain ⟨rfl, hodd, hoff⟩ := h.offered_of_none hown hpeer
      refine .offered (r := e.remove) hodd (by simp) (by simpa [Side.other] using hpeer) ?_
      dsimp only
      rw [Function.update_self, Function.update_of_ne (by decide)]
      refine { hoff with waiting := nofun, frames := ?_ }
      rcases hoff.frames with ⟨hopen, hrel⟩ | ⟨hnone, hansw⟩
      · exact .inl ⟨hopen, hnil hrel⟩
      · exact .inr ⟨hnone, fun f hf => hansw f (hrest.subset hf)⟩

theorem FlowInv.opened (hodd : streamId % 2 = 1) (hown : ∀ side, l.own side = none)
    (hinc : ∀ side, l.inc side = []) :
    FlowInv config streamId ((l.setOwn .relay (some (.opened config.relay))).push .node
      [Frame.u32 .open streamId config.relay.initialWindowBytes]) := by
  refine .offered (r := .opened config.relay) hodd (by simp [Link.setOwn])
    (by simp [Link.setOwn, hown]) ⟨rfl, rfl, rfl, .inl rfl, fun _ _ => rfl, .inl ?_⟩
  simp [Link.push, Link.setInc, Link.setOwn, hinc]

theorem FlowInv.step {label : LinkLabel} (h : FlowInv config streamId l)
    (hstep : LinkStep config streamId l label l')
    (hfresh : label = .opened → streamId % 2 = 1 ∧ l.Unused) : FlowInv config streamId l' := by
  cases hstep with
  | opened =>
    obtain ⟨hodd, hown, hinc⟩ := hfresh rfl
    exact FlowInv.opened hodd hown hinc
  | act hown hact => exact h.act hown (acts_of_act hact)
  | read hinc hid hread => exact h.read hinc hid (receives_of_receive hread)
  | fail hrest => exact h.fail hrest

end Links

/-! ### The window is never exceeded -/

section Exceeded

variable {config : TunnelConfig} {side : Side} {e : Option Endpoint} {f : Frame} {free : Bool}

theorem dispatch_error {streamId : Nat} {error : TunnelError}
    (h : dispatch side e streamId = .error error) : error ≠ side.windowExceeded := by
  unfold dispatch at h
  cases side <;> grind [invalid, notOpen, Side.windowExceeded, Side.invalidIdentifier]

theorem parseU32_error {error : TunnelError} (h : f.parseU32 = .error error) :
    error ≠ side.windowExceeded := by
  unfold Frame.parseU32 at h
  cases side <;> grind [invalid, Side.windowExceeded]

def Exceeds (e : Option Endpoint) (f : Frame) : Prop :=
  f.kind = .data ∧ f.streamId % 2 = 1 ∧
    ∃ own, e = some own ∧ own.receiveRemaining < f.payload.length

/-- Only a `Data` frame that is larger than the window exceeds it. -/
theorem receive_windowExceeded
    (h : receive config side free e f = .error side.windowExceeded) : Exceeds e f := by
  have hdispatch : ∀ error, dispatch side e f.streamId = .error error →
    error ≠ side.windowExceeded :=
    fun _ => dispatch_error
  have hparse : ∀ error, f.parseU32 = .error error → error ≠ side.windowExceeded :=
    fun _ => parseU32_error
  unfold receive at h
  split at h
  · cases side <;> cases h
  -- every other error of a reader has a text of its own
  cases side <;> simp only [relayReceive, nodeReceive] at h <;> cases hkind : f.kind <;>
    simp only [hkind, receiveData, receiveFin, receiveWindow, receiveHeartbeat, receiveOpen,
      bind_eq_error, dispatch_ok, Side.windowExceeded, Side.invalidHeartbeat]
      at h hdispatch hparse <;>
    grind [Exceeds, invalid]

end Exceeded

/-! ### Runs -/

section Runs

variable {config : TunnelConfig} {w w' : Tunnel} {label : TunnelLabel}

theorem flowInv_of_reachable (h : (tunnelSystem config).Reachable w) {streamId : Nat}
    (hid : streamId ≠ 0) : FlowInv config streamId (w.link streamId) :=
  link_invariant (fun _ _ hunus => .unused hunus.1 hunus.2)
    (fun _ _ _ _ hinv hstep hfresh => hinv.step hstep hfresh) h hid

/-- Only answers of the node are on the way to a stream that it does not know. -/
theorem flow_of_incoming (h : (tunnelSystem config).Reachable w) {side : Side} {f : Frame}
    {rest : List Frame} {e : Endpoint} (hincm : (w.station side).incoming = f :: rest)
    (hown : (w.station side).streams.lookup f.streamId = some e) (hkind : f.kind ≠ .openError) :
    ∃ p, Flow (config.side side).initialWindowBytes p (f :: framesOf f.streamId rest) e
      ((w.link f.streamId).inc side.other) := by
  have hlink := flowInv_of_reachable h (ne_zero_of_lookup h hown)
  have hinc := (w.link_taken hincm f.streamId).2
  rw [if_pos rfl] at hinc
  cases hpeer : (w.link f.streamId).own side.other with
  | some p => exact ⟨p, hinc ▸ (hlink.flows hown hpeer).2.receives⟩
  | none =>
    obtain ⟨rfl, -, hoff⟩ := hlink.offered_of_none hown hpeer
    rw [hinc] at hoff
    rcases hoff.frames with ⟨-, hnone⟩ | ⟨-, hansw⟩
    · cases hnone
    · obtain ⟨code, hcode⟩ := hansw f List.mem_cons_self
      exact absurd (congrArg Frame.kind hcode) hkind

/-- A frame on the way is part of what the window accounts for. -/
theorem not_exceeds (h : (tunnelSystem config).Reachable w) {side : Side} {f : Frame}
    {rest : List Frame} (hinc : (w.station side).incoming = f :: rest) :
    ¬ Exceeds ((w.station side).streams.lookup f.streamId) f := by
  rintro ⟨hkind, -, own, hown, hlarge⟩
  obtain ⟨p, hflow⟩ := flow_of_incoming h hinc hown (by simp [hkind])
  have hcred := hflow.credit_le
  have hdata : dataLength f = f.payload.length := if_pos hkind
  rw [total_cons, hdata] at hcred
  omega

theorem windowExceeded_unreachable (h : (tunnelSystem config).Reachable w) (side : Side) :
    (w.station side).error ≠ some side.windowExceeded := by
  have hboth : (tunnelSystem config).Reachable w ∧
      ∀ side, (w.station side).error ≠ some side.windowExceeded := by
    refine h.invariant (I := fun w => (tunnelSystem config).Reachable w ∧
      ∀ side, (w.station side).error ≠ some side.windowExceeded) ?_ ?_
    · rintro _ ⟨opened, rfl⟩
      exact ⟨⟨_, ⟨opened, rfl⟩, .refl⟩, fun side => by cases side <;> nofun⟩
    · rintro a l b ⟨hreach, hwin⟩ hok hnext
      refine ⟨hreach.trans (.single ⟨l, hok, hnext⟩), fun side => ?_⟩
      rcases step_error hnext side with hsame | ⟨f, rest, e, -, hinc, herr, hset⟩
      · rw [hsame]
        exact hwin side
      rw [hset]
      rintro heq
      rw [Option.some.inj heq] at herr
      exact not_exceeds hreach hinc (receive_windowExceeded herr)
  exact hboth.2 side

/-- Flow control in one direction of an open stream; `t` on the given side receives. The frames on
the way include those that the pumps hold. -/
structure Conserved (config : TunnelConfig) (w : Tunnel) (side : Side) (streamId : Nat)
    (s t : Endpoint) : Prop where
  remaining : t.receiveRemaining = s.sendCredit
    + (s.held + total dataLength (framesOf streamId (w.station side).incoming))
    + (t.crediting
      + total (amountOf .windowUpdate) (framesOf streamId (w.station side.other).incoming))
    + (total (amountOf .openOk) (framesOf streamId (w.station side.other).incoming) + s.granted)
  unacknowledged : t.pending = (config.side side).initialWindowBytes - t.receiveRemaining

/-- In every reachable state, for every stream that is open on both sides, the window that a
receiver has left is what its sender may send and what is on the way; before that the window is in
`Open`. What waits is the rest of the initial window, and no reader finds its window exceeded. -/
theorem window_conserved (h : (tunnelSystem config).Reachable w) :
    (∀ streamId side s t, (w.station side.other).streams.lookup streamId = some s →
      (w.station side).streams.lookup streamId = some t → s.mapped = true → t.mapped = true →
      t.phase ≠ .connecting → Conserved config w side streamId s t) ∧
    (∀ streamId r, w.relay.streams.lookup streamId = some r →
      w.node.streams.lookup streamId = none →
      (∃ f ∈ framesOf streamId w.node.incoming, f.kind = .open) →
      r.receiveRemaining = total (amountOf .open) (framesOf streamId w.node.incoming)) ∧
    (∀ streamId side t, (w.station side).streams.lookup streamId = some t →
      t.pending ≤ (config.side side).initialWindowBytes) ∧
    ∀ side, (w.station side).error ≠ some side.windowExceeded := by
  have hlink : ∀ streamId side e, (w.station side).streams.lookup streamId = some e →
      FlowInv config streamId (w.link streamId) :=
    fun streamId side e hown => flowInv_of_reachable h (ne_zero_of_lookup h hown)
  refine ⟨fun streamId side s t hs ht hsMapped htMapped hphase => ?_,
    fun streamId r hrel hnode hopen => ?_, fun streamId side t ht => ?_,
    windowExceeded_unreachable h⟩
  · have hflow := ((hlink streamId side t ht).flows ht hs).2.receives
    have hcred := hflow.credit_eq hsMapped htMapped
    have hwin := hflow.window_eq htMapped
    have hann : t.unannounced (config.side side).initialWindowBytes = 0 := by
      unfold Endpoint.unannounced
      split
      · exact absurd (by assumption) hphase
      · rfl
    unfold grant at hcred
    rw [hann] at hcred
    constructor
    · show _ = _ + (_ + total dataLength ((w.link streamId).inc side)) + (_ +
        total (amountOf .windowUpdate) ((w.link streamId).inc side.other)) +
        (total (amountOf .openOk) ((w.link streamId).inc side.other) + _)
      omega
    · omega
  · have hown : (w.link streamId).own .relay = some r := hrel
    have hpeer : (w.link streamId).own Side.relay.other = none := hnode
    obtain ⟨-, -, hoff⟩ := (hlink streamId .relay r hrel).offered_of_none hown hpeer
    show _ = total (amountOf .open) ((w.link streamId).inc .node)
    rcases hoff.frames with ⟨hframe, -⟩ | ⟨hnone, -⟩
    · rw [hframe, total_cons, total_nil, amountOf_u32 config.relay.window_lt, hoff.remaining]
      rfl
    obtain ⟨f, hf, -⟩ := hopen
    replace hf : f ∈ (w.link streamId).inc .node := hf
    rw [hnone] at hf
    cases hf
  · have hinvLink := hlink streamId side t ht
    cases hpeer : (w.link streamId).own side.other with
    | some p =>
      have hwin := (hinvLink.flows ht hpeer).2.receives.window_le
      omega
    | none =>
      obtain ⟨rfl, -, hoff⟩ := hinvLink.offered_of_none ht hpeer
      have hpending : t.pending = 0 := by
        have hphase := hoff.phase
        unfold Endpoint.pending
        rw [hoff.inbound]
        rcases hphase with hphase | ⟨code, hphase⟩ | hphase <;> rw [hphase] <;> rfl
      omega

end Runs

/-! ### Three bytes on the way -/

def smallSide : SideConfig where
  maxFrameBytes := 1024
  initialWindowBytes := 1024
  streamBufferFrames := 2
  frame_min := by decide
  frame_max := by decide
  window_fits := by decide
  window_lt := by decide
  buffer_pos := by decide

def smallConfig : TunnelConfig := ⟨smallSide, smallSide, 16⟩

def freshTunnel : Tunnel := ⟨1, ⟨[], [], none⟩, ⟨[], [], none⟩⟩

/-- The next stream is opened by both sides. -/
def opening (streamId : Nat) : List TunnelLabel :=
  [.openStream, .read .node, .act .node streamId .connected, .read .relay,
    .act .relay streamId .accept]

/-- The relay has taken three bytes from its member, and one of two frames has gone out. -/
theorem three_bytes_on_the_way : ∃ w r n, (tunnelSystem smallConfig).Reachable w ∧ r.held = 1 ∧
    n.receiveRemaining = 1024 ∧ Conserved smallConfig w .node 1 r n := by
  obtain ⟨w, hrun, hrel, hnode⟩ := Machine.run_of_exec
    (M := tunnelSystem smallConfig) (fun _ _ => True)
    (fun w => (w.relay.streams.lookup 1).any (fun r => r.mapped = true ∧ r.held = 1) ∧
      (w.node.streams.lookup 1).any (fun n => n.mapped = true ∧ n.phase ≠ .connecting ∧
        n.receiveRemaining = 1024))
    (opening 1 ++ [.act .relay 1 (.consume [1, 2]), .act .relay 1 .sendData,
      .act .relay 1 (.consume [3])])
    (s := freshTunnel) ⟨0, rfl⟩ (by decide +kernel)
  obtain ⟨r, hr, hrs⟩ := (Option.any_eq_true _ _).mp hrel
  obtain ⟨n, hn, hns⟩ := (Option.any_eq_true _ _).mp hnode
  obtain ⟨hrMapped, hheld⟩ := of_decide_eq_true hrs
  obtain ⟨hnMapped, hphase, hremaining⟩ := of_decide_eq_true hns
  exact ⟨w, r, n, hrun, hheld, hremaining,
    (window_conserved hrun).1 1 .node r n hr hn hrMapped hnMapped hphase⟩

end RealityConsole.RelayTunnel
