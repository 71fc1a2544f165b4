import RealityConsole.RelayTunnel.Conservation

/-!
# The queue between reader and pump

The queue of a stream is bounded in frames, the window in bytes. If the queue has more room than the
window has bytes, then it is never full when a `Data` or `Fin` comes.
-/

namespace RealityConsole.RelayTunnel

open Framework

/-- What every entry keeps: a task that has ended is not in the map, and frames are not empty. -/
structure Tidy (e : Endpoint) : Prop where
  ended : e.phase.Over → e.mapped = false
  queued : ∀ bytes, Inbound.data bytes ∈ e.inbound → bytes ≠ []
  held : ∀ bytes receiver, e.phase = .serving (.holding bytes) receiver → bytes ≠ []

/-- A `Data` frame has bytes. -/
def NotEmpty (f : Frame) : Prop := f.kind = .data → f.payload ≠ []

section Steps

variable {config : TunnelConfig} {side : Side} {streamId : Nat} {e e' : Endpoint}

theorem Acts.tidy {config : SideConfig} {act : Act} {frames : List Frame}
    (h : Acts side config streamId e act e' frames) (htidy : Tidy e) :
    Tidy e' ∧ ∀ f ∈ frames, NotEmpty f := by
  obtain ⟨hend, hqueued, hheld⟩ := htidy
  cases h <;> refine ⟨⟨?_, ?_, ?_⟩, ?_⟩ <;>
    simp_all [Endpoint.retire, Phase.Over, NotEmpty, Frame.u32, Frame.code]

theorem Receives.tidy {f : Frame} {own own' : Option Endpoint} {reply : List Frame}
    (h : Receives config side f own own' reply) (htidy : ∀ e, own = some e → Tidy e)
    (hf : NotEmpty f) : (∀ e', own' = some e' → Tidy e') ∧ ∀ g ∈ reply, NotEmpty g := by
  refine ⟨fun e' he' => ?_, by cases h <;> simp [NotEmpty, Frame.code]⟩
  cases h with
  | openOk | openError =>
    obtain rfl := Option.some.inj he'
    obtain ⟨hend, hqueued, hheld⟩ := htidy _ rfl
    refine ⟨?_, hqueued, ?_⟩ <;> dsimp only [Phase.answered] <;> split <;> simp_all [Phase.Over]
  | openErrorLate | closeUnknown | ping | pong | noSlot => exact htidy e' he'
  | admitted =>
    obtain rfl := Option.some.inj he'
    constructor <;> simp [Endpoint.admitted, Phase.Over]
  | _ =>
    obtain rfl := Option.some.inj he'
    obtain ⟨hend, hqueued, hheld⟩ := htidy _ rfl
    refine ⟨?_, ?_, ?_⟩ <;> grind [NotEmpty, Endpoint.remove]

end Steps

/-! ### Every link of every run -/

section Links

variable {config : TunnelConfig} {streamId : Nat} {l l' : Link} {w : Tunnel}

/-- Every entry and every frame of a link. -/
structure TidyLink (l : Link) : Prop where
  own : ∀ side e, l.own side = some e → Tidy e
  inc : ∀ side, ∀ f ∈ l.inc side, NotEmpty f

theorem TidyLink.setOwn (h : TidyLink l) {side : Side} {e : Option Endpoint}
    (he : ∀ own, e = some own → Tidy own) : TidyLink (l.setOwn side e) := by
  refine ⟨fun other own hown => ?_, fun other f hf => ?_⟩
  · rcases Side.eq_or_other side other with rfl | rfl
    · cases e with
      | none => exact h.own _ own hown
      | some e =>
        rw [Link.own_setOwn] at hown
        exact he own hown
    · rw [Link.own_setOwn_other] at hown
      exact h.own _ own hown
  · rw [Link.inc_setOwn] at hf
    exact h.inc other f hf

theorem TidyLink.setInc (h : TidyLink l) {side : Side} {frames : List Frame}
    (hframes : ∀ f ∈ frames, NotEmpty f) : TidyLink (l.setInc side frames) := by
  refine ⟨h.own, fun other f hf => ?_⟩
  rcases Side.eq_or_other side other with rfl | rfl
  · rw [Link.inc_setInc] at hf
    exact hframes f hf
  · rw [Link.inc_setInc_other] at hf
    exact h.inc _ f hf

theorem TidyLink.push (h : TidyLink l) {side : Side} {frames : List Frame}
    (hframes : ∀ f ∈ frames, NotEmpty f) : TidyLink (l.push side frames) := by
  refine h.setInc fun f hf => ?_
  rcases List.mem_append.1 hf with hold | hnew
  · exact h.inc side f hold
  · exact hframes f hnew

theorem TidyLink.step {label : LinkLabel} (h : TidyLink l)
    (hstep : LinkStep config streamId l label l') : TidyLink l' := by
  cases hstep with
  | opened =>
    refine (h.setOwn ?_).push (by simp [NotEmpty, Frame.u32])
    rintro _ ⟨⟩
    constructor <;> simp [Endpoint.opened, Phase.Over]
  | act hown hact =>
    obtain ⟨htidy, hframes⟩ := (acts_of_act hact).tidy (h.own _ _ hown)
    refine (h.setOwn ?_).push hframes
    rintro _ ⟨⟩
    exact htidy
  | @read side _ _ _ _ _ hinc _ hread =>
    have hall := h.inc side
    rw [hinc] at hall
    obtain ⟨htidy, hreply⟩ := (receives_of_receive hread).tidy (h.own _) (hall _ List.mem_cons_self)
    exact ((h.setInc fun f hf => hall f (.tail _ hf)).setOwn htidy).push hreply
  | @fail side rest hrest =>
    have hremove :
        TidyLink ⟨Function.update l.own side ((l.own side).map Endpoint.remove), l.inc⟩ := by
      refine ⟨fun other e he => ?_, h.inc⟩
      dsimp only at he
      by_cases hoth : other = side
      · subst hoth
        rw [Function.update_self] at he
        obtain ⟨own, hown, rfl⟩ := Option.map_eq_some_iff.1 he
        have hold := h.own _ own hown
        exact ⟨fun _ => rfl, hold.queued, hold.held⟩
      · rw [Function.update_of_ne hoth] at he
        exact h.own other e he
    exact hremove.setInc fun f hf => h.inc side f (hrest.subset hf)

theorem tidy_of_reachable (h : (tunnelSystem config).Reachable w) (hid : streamId ≠ 0) :
    TidyLink (w.link streamId) := by
  refine link_invariant (P := fun _ => TidyLink) ?_ ?_ h hid
  · intro _ l hunus
    refine ⟨fun side e he => ?_, fun side f hf => ?_⟩
    · cases (hunus.1 side).symm.trans he
    · rw [hunus.2] at hf
      cases hf
  · exact fun _ _ _ _ htidy hstep _ => htidy.step hstep

end Links

/-! ### Room in the queue -/

section Runs

variable {config : TunnelConfig} {w : Tunnel} {side : Side} {e : Endpoint}

/-- A reader finds a `Data` or `Fin` frame of an open stream, and the queue takes it. -/
def Accepted (config : TunnelConfig) (w : Tunnel) (side : Side) : Prop :=
  ∀ f rest e item, (w.station side).incoming = f :: rest → arrival f = some item → item ≠ .close →
    (w.station side).streams.lookup f.streamId = some e → e.mapped = true →
    (e.enqueue (config.side side) item).isSome

/-- A pump listens as long as its stream is open and not ended. -/
theorem Tidy.listening (h : Tidy e) (hmap : e.mapped) (hend : ¬ e.Ended) :
    e.listening := by
  have hnot : ¬ e.phase.Over := fun hover => by cases (h.ended hover).symm.trans hmap
  unfold Endpoint.listening
  split <;> simp_all [Phase.Over, Endpoint.Ended]

/-- Frames that are not empty and have not ended the stream are not more than their bytes. -/
theorem length_le_pending (h : Tidy e) (hclose : Inbound.close ∉ e.inbound)
    (hfin : Inbound.fin ∉ e.inbound) : e.inbound.length ≤ e.pending := by
  have hsum : (e.inbound.map Inbound.length).length ≤ (e.inbound.map Inbound.length).sum := by
    refine List.length_le_sum_of_one_le _ fun n hn => ?_
    obtain ⟨item, hitem, rfl⟩ := List.mem_map.1 hn
    cases item with
    | data bytes => exact List.length_pos_iff.2 (h.queued bytes hitem)
    | fin => exact absurd hitem hfin
    | close => exact absurd hitem hclose
  rw [List.length_map] at hsum
  exact hsum.trans (Nat.le_add_right _ _)

/-- What is known of a stream when a `Data` or `Fin` comes for it. -/
theorem listening_of_reachable (h : (tunnelSystem config).Reachable w) {f : Frame}
    {rest : List Frame} {item : Inbound} (hinc : (w.station side).incoming = f :: rest)
    (harrival : arrival f = some item) (hitem : item ≠ .close)
    (hown : (w.station side).streams.lookup f.streamId = some e) (hmap : e.mapped) :
    e.listening ∧ e.inbound.length ≤ (config.side side).initialWindowBytes := by
  have htidy := (tidy_of_reachable h (ne_zero_of_lookup h hown)).own side e hown
  have hkind : f.kind ≠ .openError := fun hkind => by simp [arrival, hkind] at harrival
  obtain ⟨p, hflow⟩ := flow_of_incoming h hinc hown hkind
  have hits : item ∈ arrivals (f :: framesOf f.streamId rest) :=
    List.mem_filterMap.2 ⟨f, .head _, harrival⟩
  have hend : ¬ e.Ended := fun hend => hitem (hflow.ended hmap hend item hits)
  have hfin : Inbound.fin ∉ e.inbound := fun hfin =>
    hitem ((List.pairwise_append.1 (hflow.order hmap)).2.2 _ hfin item hits rfl)
  have hclose : Inbound.close ∉ e.inbound := fun hclose => by
    cases (hflow.closed hclose).symm.trans hmap
  have hwin := hflow.window_le
  have hlen := length_le_pending htidy hclose hfin
  exact ⟨htidy.listening hmap hend, by omega⟩

/-- In every run the queue takes a `Data` or `Fin` frame exactly if it holds fewer frames than its
bound. With a bound above the initial window it takes them all, however small they are. -/
theorem queue_accepts (h : (tunnelSystem config).Reachable w) (side : Side) :
    (∀ f rest e item, (w.station side).incoming = f :: rest → arrival f = some item →
      item ≠ .close → (w.station side).streams.lookup f.streamId = some e → e.mapped = true →
      ((e.enqueue (config.side side) item).isSome ↔
        e.inbound.length < (config.side side).streamBufferFrames)) ∧
    ((config.side side).initialWindowBytes < (config.side side).streamBufferFrames →
      Accepted config w side) := by
  have hiff : ∀ f rest e item, (w.station side).incoming = f :: rest → arrival f = some item →
      item ≠ .close → (w.station side).streams.lookup f.streamId = some e → e.mapped = true →
      ((e.enqueue (config.side side) item).isSome ↔
        e.inbound.length < (config.side side).streamBufferFrames) := by
    intro f rest e item hinc harrival hitem hown hmapped
    obtain ⟨hlistening, -⟩ := listening_of_reachable h hinc harrival hitem hown hmapped
    unfold Endpoint.enqueue
    rw [hlistening]
    simp
  refine ⟨hiff, fun hroom f rest e item hinc harrival hitem hown hmapped => ?_⟩
  obtain ⟨-, hlen⟩ := listening_of_reachable h hinc harrival hitem hown hmapped
  exact (hiff f rest e item hinc harrival hitem hown hmapped).mpr (by omega)

end Runs

/-! ### A queue of two frames -/

def oneByteFrames : List TunnelLabel :=
  [.act .relay 1 (.consume [1]), .act .relay 1 .sendData, .read .node,
    .act .relay 1 (.consume [2]), .act .relay 1 .sendData, .read .node,
    .act .relay 1 (.consume [3]), .act .relay 1 .sendData]

/-- With room for two frames a third one of one byte is refused, though the window has a thousand
bytes left: the pump of the node stands still. -/
theorem third_frame_refused : ∃ w, (tunnelSystem smallConfig).Reachable w ∧
    ¬ Accepted smallConfig w .node := by
  obtain ⟨w, hrun, hnode⟩ := Machine.run_of_exec (M := tunnelSystem smallConfig)
    (fun _ _ => True)
    (fun w => w.node.incoming = [⟨.data, 1, [3]⟩] ∧ (w.node.streams.lookup 1).any fun n =>
      n.mapped = true ∧ n.receiveRemaining = 1022 ∧ n.enqueue smallSide (.data [3]) = none)
    (opening 1 ++ oneByteFrames) (s := freshTunnel) ⟨0, rfl⟩ (by decide +kernel)
  obtain ⟨hinc, hany⟩ := hnode
  obtain ⟨n, hn, hns⟩ := (Option.any_eq_true _ _).mp hany
  obtain ⟨hmapped, -, hfull⟩ := of_decide_eq_true hns
  refine ⟨w, hrun, fun h => ?_⟩
  have hroom := h _ [] n _ hinc rfl (by simp) hn hmapped
  rw [show smallConfig.side .node = smallSide from rfl, hfull] at hroom
  cases hroom

/-- A queue with room for more frames than the window has bytes. -/
def roomySide : SideConfig := { smallSide with streamBufferFrames := 1025, buffer_pos := by decide }

/-- Then the node takes the third frame too. -/
theorem third_frame_accepted : ∃ w, (tunnelSystem ⟨roomySide, roomySide, 16⟩).Reachable w ∧
    w.node.incoming = [⟨.data, 1, [3]⟩] ∧ Accepted ⟨roomySide, roomySide, 16⟩ w .node := by
  obtain ⟨w, hrun, hinc⟩ := Machine.run_of_exec
    (M := tunnelSystem ⟨roomySide, roomySide, 16⟩)
    (fun _ _ => True)
    (fun w => w.node.incoming = [⟨.data, 1, [3]⟩])
    (opening 1 ++ oneByteFrames)
    (s := freshTunnel)
    ⟨0, rfl⟩
    (by decide +kernel)
  exact ⟨w, hrun, hinc, (queue_accepts hrun .node).2 (by decide)⟩

end RealityConsole.RelayTunnel
