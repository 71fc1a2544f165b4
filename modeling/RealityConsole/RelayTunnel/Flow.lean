import Mathlib
import RealityConsole.RelayTunnel.Links

/-!
# Flow control

A sender has credit for what the receiver still accepts. The window of a receiver is split into the
credit of the sender, the frames on the way and what the pumps hold; what has arrived and is not yet
acknowledged makes up the rest of the initial window. This holds in every run, whatever ends.
-/

namespace RealityConsole.RelayTunnel

open Framework

/-! ### Amounts -/

def total (amount : Frame → Nat) (frames : List Frame) : Nat := (frames.map amount).sum

@[simp] theorem total_nil (amount : Frame → Nat) : total amount [] = 0 := rfl

@[simp] theorem total_cons (amount : Frame → Nat) (f : Frame) (frames : List Frame) :
    total amount (f :: frames) = amount f + total amount frames := by simp [total]

@[simp] theorem total_append (amount : Frame → Nat) (frames more : List Frame) :
    total amount (frames ++ more) = total amount frames + total amount more := by simp [total]

theorem total_suffix {amount : Frame → Nat} {frames rest : List Frame} (h : rest <:+ frames) :
    total amount rest ≤ total amount frames := by
  obtain ⟨front, rfl⟩ := h
  rw [total_append]
  exact Nat.le_add_left _ _

/-- The payload of a `Data` frame. -/
def dataLength (f : Frame) : Nat := if f.kind = .data then f.payload.length else 0

/-- The amount of a `WindowUpdate` or `OpenOk` frame. -/
def amountOf (kind : FrameKind) (f : Frame) : Nat :=
  if f.kind = kind then ofBigEndian f.payload else 0

theorem amountOf_u32 {kind : FrameKind} {streamId value : Nat} (h : value < 2 ^ 32) :
    amountOf kind (Frame.u32 kind streamId value) = value := by
  unfold amountOf Frame.u32
  rw [if_pos rfl, ofBigEndian_bigEndian (by omega)]

theorem amountOf_parse {kind : FrameKind} {f : Frame} {value : Nat} (hkind : f.kind = kind)
    (h : f.parseU32 = .ok value) : amountOf kind f = value := by
  unfold Frame.parseU32 at h
  split at h
  · unfold amountOf
    rw [if_pos hkind]
    exact Except.ok.inj h
  · cases h

/-- What a frame puts into the queue of its receiver. -/
def arrival (f : Frame) : Option Inbound :=
  match f.kind with
  | .data => some (.data f.payload)
  | .fin => some .fin
  | .close => some .close
  | _ => none

/-- What is still to come into the queue. -/
def arrivals (frames : List Frame) : List Inbound := frames.filterMap arrival

theorem arrivals_append (frames more : List Frame) :
    arrivals (frames ++ more) = arrivals frames ++ arrivals more := List.filterMap_append

def Inbound.length : Inbound → Nat
  | .data bytes => bytes.length
  | .fin | .close => 0

namespace Endpoint

/-- The bytes whose credit is debited and whose frame is not yet sent. -/
def held (e : Endpoint) : Nat :=
  match e.phase with
  | .serving (.holding bytes) _ => bytes.length
  | _ => 0

/-- The bytes that the window is credited with and whose update is not yet sent. -/
def crediting (e : Endpoint) : Nat :=
  match e.phase with
  | .serving _ (.acknowledging granted _) => granted
  | _ => 0

/-- The window that the node has granted and that is not yet credited. -/
def granted (e : Endpoint) : Nat :=
  match e.phase with
  | .opening (some (.ok window)) => window
  | _ => 0

/-- The window that the node has not yet announced. -/
def unannounced (e : Endpoint) (window : Nat) : Nat :=
  match e.phase with
  | .connecting => window
  | _ => 0

def pending (e : Endpoint) : Nat :=
  (e.inbound.map Inbound.length).sum + match e.phase with
    | .serving _ (.writing bytes) => bytes.length
    | .serving _ (.acknowledging _ rest) => rest
    | _ => 0

/-- The task may still send `Data` or `Fin`. -/
def Sending (e : Endpoint) : Prop :=
  match e.phase with
  | .opening _ | .connecting | .serving .reading _ | .serving (.holding _) _ => True
  | .serving .done _ | .closing | .finished => False

/-- The receiving pump has seen the end. -/
def Ended (e : Endpoint) : Prop := ∃ sender, e.phase = .serving sender .done

end Endpoint

/-- What the sender may still send: the credit, what the pumps hold, and the windows on the way. -/
def grant (s t : Endpoint) (back : List Frame) (window : Nat) : Nat :=
  s.sendCredit + s.held + s.granted + total (amountOf .windowUpdate) back
    + total (amountOf .openOk) back + t.crediting + t.unannounced window

/-- One direction of a stream: `s` sends over `out` to `t`, which answers over `back`. -/
structure Flow (window : Nat) (s : Endpoint) (out : List Frame) (t : Endpoint)
    (back : List Frame) : Prop where
  credit_le : grant s t back window + total dataLength out ≤ t.receiveRemaining
  credit_eq : s.mapped = true → t.mapped = true →
    grant s t back window + total dataLength out = t.receiveRemaining
  window_le : t.receiveRemaining + t.pending ≤ window
  window_eq : t.mapped = true → t.receiveRemaining + t.pending = window
  /-- After `Fin` comes nothing but `Close`. -/
  order : t.mapped = true →
    (t.inbound ++ arrivals out).Pairwise fun first later => first = .fin → later = .close
  unfinished : t.mapped = true → s.Sending → Inbound.fin ∉ t.inbound ++ arrivals out ∧ ¬ t.Ended
  ended : t.mapped = true → t.Ended → ∀ item ∈ arrivals out, item = .close
  waiting : s.openResult = true → s.mapped = true → s.phase = .opening none
  closed : Inbound.close ∈ t.inbound → t.mapped = false
  known : ∀ f ∈ out, f.kind ≠ .open

/-! ### What a step may do to the sender or the receiver -/

structure SenderChange (s s' : Endpoint) (gain : Nat) (frames : List Frame) : Prop where
  credit_le : s'.sendCredit + s'.held + s'.granted + total dataLength frames
    ≤ s.sendCredit + s.held + s.granted + gain
  credit_eq : s'.mapped = true → s'.sendCredit + s'.held + s'.granted + total dataLength frames
    = s.sendCredit + s.held + s.granted + gain
  mapped : s'.mapped = true → s.mapped = true
  sending : s'.Sending → s.Sending
  /-- At most one item, and none but `Close` from a sender that is done. -/
  items : arrivals frames = [] ∨ ∃ item, arrivals frames = [item] ∧
    (item = .close ∨ s.Sending ∧ (item = .fin → ¬ s'.Sending))
  waiting : s'.openResult = true → s'.mapped = true → s'.phase = .opening none
  known : ∀ f ∈ frames, f.kind ≠ .open

/-- The receiver changes, answers with some frames, and takes a loss from the way. -/
structure ReceiverChange (window : Nat) (t t' : Endpoint) (loss : Nat) (frames : List Frame) :
    Prop where
  credit_le : t'.crediting + t'.unannounced window + total (amountOf .windowUpdate) frames
      + total (amountOf .openOk) frames + t.receiveRemaining
    ≤ t.crediting + t.unannounced window + t'.receiveRemaining + loss
  credit_eq : t'.mapped = true →
    t'.crediting + t'.unannounced window + total (amountOf .windowUpdate) frames
        + total (amountOf .openOk) frames + t.receiveRemaining
      = t.crediting + t.unannounced window + t'.receiveRemaining + loss
  mapped : t'.mapped = true → t.mapped = true
  window_le : t'.receiveRemaining + t'.pending ≤ t.receiveRemaining + t.pending
  window_eq : t'.mapped = true →
    (t.inbound.Pairwise fun first later => first = .fin → later = .close) →
    t'.receiveRemaining + t'.pending = t.receiveRemaining + t.pending
  ended : t'.mapped = true → t'.Ended → t.Ended ∨ ∃ rest, t.inbound = .fin :: rest

section Direction

variable {window gain loss : Nat} {s s' t t' : Endpoint} {out out' back back' frames : List Frame}

theorem Flow.sender (h : Flow window s out t back) (hchange : SenderChange s s' gain frames)
    (hback : total (amountOf .windowUpdate) back' + total (amountOf .openOk) back' + gain
      = total (amountOf .windowUpdate) back + total (amountOf .openOk) back) :
    Flow window s' (out ++ frames) t back' := by
  have hcs : ∀ item ∈ arrivals frames,
      item = .close ∨ s.Sending ∧ (item = .fin → ¬ s'.Sending) := by
    intro item hitem
    rcases hchange.items with hnone | ⟨only, honly, hwhich⟩
    · rw [hnone] at hitem
      cases hitem
    rw [honly] at hitem
    obtain rfl := List.mem_singleton.1 hitem
    exact hwhich
  constructor
  · have hle := hchange.credit_le
    have hcred := h.credit_le
    unfold grant at hcred ⊢
    rw [total_append]
    omega
  · intro hs ht
    have heq := hchange.credit_eq hs
    have hcred := h.credit_eq (hchange.mapped hs) ht
    unfold grant at hcred ⊢
    rw [total_append]
    omega
  · exact h.window_le
  · exact h.window_eq
  · intro ht
    rw [arrivals_append, ← List.append_assoc, List.pairwise_append]
    refine ⟨h.order ht, ?_, fun first hfirst later hlat hfin => ?_⟩
    · rcases hchange.items with hnone | ⟨only, honly, -⟩
      · rw [hnone]
        exact .nil
      · rw [honly]
        exact List.pairwise_singleton _ _
    · rcases hcs later hlat with hclose | ⟨hsend, -⟩
      · exact hclose
      · exact absurd (hfin ▸ hfirst) (h.unfinished ht hsend).1
  · intro ht hsend
    obtain ⟨hnone, hnot⟩ := h.unfinished ht (hchange.sending hsend)
    refine ⟨fun hmem => ?_, hnot⟩
    rw [arrivals_append, ← List.append_assoc, List.mem_append] at hmem
    rcases hmem with hold | hnew
    · exact hnone hold
    rcases hcs _ hnew with hclose | ⟨-, hfin⟩
    · cases hclose
    · exact hfin rfl hsend
  · intro ht hend item hitem
    rw [arrivals_append, List.mem_append] at hitem
    rcases hitem with hold | hnew
    · exact h.ended ht hend item hold
    rcases hcs item hnew with hclose | ⟨hsend, -⟩
    · exact hclose
    · exact absurd hend (h.unfinished ht hsend).2
  · exact hchange.waiting
  · exact h.closed
  · intro f hf
    rcases List.mem_append.1 hf with hold | hnew
    · exact h.known f hold
    · exact hchange.known f hnew

theorem Flow.receiver (h : Flow window s out t back)
    (hchange : ReceiverChange window t t' loss frames)
    (hout : total dataLength out' + loss = total dataLength out)
    (hits : t'.mapped → t'.inbound ++ arrivals out' <:+ t.inbound ++ arrivals out)
    (hrest : out' <:+ out) (hclo : Inbound.close ∈ t'.inbound → t'.mapped = false) :
    Flow window s out' t' (back ++ frames) := by
  have harrivals : ∀ item ∈ arrivals out', item ∈ arrivals out := fun item hitem =>
    (hrest.sublist.filterMap arrival).subset hitem
  constructor
  · have hle := hchange.credit_le
    have hcred := h.credit_le
    unfold grant at hcred ⊢
    rw [total_append, total_append]
    omega
  · intro hs ht
    have heq := hchange.credit_eq ht
    have hcred := h.credit_eq hs (hchange.mapped ht)
    unfold grant at hcred ⊢
    rw [total_append, total_append]
    omega
  · exact hchange.window_le.trans h.window_le
  · intro ht
    have hmap := hchange.mapped ht
    exact (hchange.window_eq ht (List.pairwise_append.1 (h.order hmap)).1).trans (h.window_eq hmap)
  · intro ht
    exact (h.order (hchange.mapped ht)).sublist (hits ht).sublist
  · intro ht hsend
    have hmap := hchange.mapped ht
    obtain ⟨hnone, hnot⟩ := h.unfinished hmap hsend
    refine ⟨fun hmem => hnone ((hits ht).subset hmem), fun hend => ?_⟩
    rcases hchange.ended ht hend with hbef | ⟨rest, hfin⟩
    · exact hnot hbef
    apply hnone
    rw [hfin]
    exact .head _
  · intro ht hend item hitem
    have hmap := hchange.mapped ht
    rcases hchange.ended ht hend with hbef | ⟨rest, hfin⟩
    · exact h.ended hmap hbef item (harrivals item hitem)
    -- everything behind `Fin` is `Close`
    have horder := h.order hmap
    rw [hfin, List.cons_append] at horder
    exact (List.pairwise_cons.1 horder).1 item (List.mem_append_right _ (harrivals item hitem)) rfl
  · exact h.waiting
  · exact hclo
  · exact fun f hf => h.known f (hrest.subset hf)

end Direction

/-! ### Steps of tasks -/

section Acts

variable {side : Side} {config : SideConfig} {streamId : Nat} {e e' : Endpoint} {act : Act}
  {frames : List Frame}

/-- The phases of a task that has ended. -/
def Phase.Over : Phase → Prop
  | .closing | .finished => True
  | _ => False

theorem senderChange_receiver {sender : Sender} {receiver receiver' : Receiver}
    (hphase : e.phase = .serving sender receiver) (hphase' : e'.phase = .serving sender receiver')
    (hcred : e'.sendCredit = e.sendCredit) (hmap : e'.mapped = e.mapped)
    (hwait : e.openResult → e.mapped → e.phase = .opening none)
    (hres : e'.openResult = e.openResult) (hdata : total dataLength frames = 0)
    (hits : arrivals frames = []) (hkn : ∀ f ∈ frames, f.kind ≠ .open) :
    SenderChange e e' 0 frames := by
  cases sender <;> constructor <;>
    simp_all [Endpoint.held, Endpoint.granted, Endpoint.Sending]

theorem Acts.senderChange (h : Acts side config streamId e act e' frames)
    (hwait : e.openResult → e.mapped → e.phase = .opening none) :
    SenderChange e e' 0 frames := by
  cases h with
  | takeData hphase _ | takeFin hphase _ | takeCloseNode _ hphase _ | write hphase _ _ _
  | acknowledge hphase =>
    exact senderChange_receiver hphase rfl rfl rfl hwait rfl
      (by simp [dataLength, Frame.u32]) rfl (by simp [Frame.u32])
  | _ =>
    constructor <;>
      simp_all [Endpoint.held, Endpoint.granted, Endpoint.Sending, Endpoint.retire, arrivals,
        arrival, dataLength, Frame.u32, Frame.code]

theorem receiverChange_sender {window : Nat} {sender sender' : Sender} {receiver : Receiver}
    (hphase : e.phase = .serving sender receiver) (hphase' : e'.phase = .serving sender' receiver)
    (hremaining : e'.receiveRemaining = e.receiveRemaining) (hmap : e'.mapped = e.mapped)
    (hinb : e'.inbound = e.inbound) (hupd : total (amountOf .windowUpdate) frames = 0)
    (hopen : total (amountOf .openOk) frames = 0) : ReceiverChange window e e' 0 frames := by
  cases receiver <;> constructor <;>
    simp_all [Endpoint.crediting, Endpoint.unannounced, Endpoint.pending, Endpoint.Ended]

theorem Acts.receiverChange (h : Acts side config streamId e act e' frames)
    (hcrediting : e.crediting < 2 ^ 32) (hclo : Inbound.close ∈ e.inbound → e.mapped = false) :
    ReceiverChange config.initialWindowBytes e e' 0 frames := by
  have hwin := config.window_lt
  cases h with
  | consume hphase | sendData hphase | sendFin hphase =>
    exact receiverChange_sender hphase rfl rfl rfl rfl rfl rfl
  | @takeFin sender rest hphase hqueue =>
    -- no bytes are queued behind `Fin`
    have hrest : (∀ item ∈ rest, item = .close) → (rest.map Inbound.length).sum = 0 := by
      intro hclose
      apply List.sum_eq_zero
      simp only [List.mem_map]
      rintro _ ⟨item, hitem, rfl⟩
      rw [hclose item hitem]
      rfl
    constructor <;>
      simp_all [Endpoint.crediting, Endpoint.unannounced, Endpoint.pending, Endpoint.Ended,
        Inbound.length]
  | _ =>
    constructor <;>
      simp_all [Endpoint.crediting, Endpoint.unannounced, Endpoint.pending, Endpoint.Ended,
        Endpoint.retire, amountOf, Frame.u32, Frame.code, Inbound.length, ofBigEndian_bigEndian] <;>
      omega

end Acts

/-! ### Steps of readers -/

section Receives

variable {config : TunnelConfig} {side : Side} {e e' : Endpoint} {f : Frame} {reply : List Frame}

theorem Receives.senderChange (h : Receives config side f (some e) (some e') reply)
    (hwait : e.openResult → e.mapped → e.phase = .opening none)
    (hopen : f.kind ≠ .open) :
    SenderChange e e' (amountOf .windowUpdate f + amountOf .openOk f) reply := by
  cases h with
  | openOk _ hkind hparse | windowUpdate hkind _ hparse =>
    have hamount := amountOf_parse hkind hparse
    constructor <;>
      simp_all [Endpoint.held, Endpoint.granted, Endpoint.Sending, Phase.answered, arrivals,
        amountOf] <;>
      omega
  | _ =>
    constructor <;>
      simp_all [Endpoint.held, Endpoint.granted, Endpoint.Sending, Endpoint.remove, Phase.answered,
        arrivals, arrival, dataLength, amountOf, Frame.code]

theorem Receives.receiverChange {window : Nat} (h : Receives config side f (some e) (some e') reply)
    (hopen : f.kind ≠ .open) : ReceiverChange window e e' (dataLength f) reply := by
  cases h with
  | openOk | openError =>
    -- the answer of the node only changes a task that waits for it
    rcases hphase : e.phase with (_ | answer) | _ | _ | _ | _ <;> constructor <;>
      simp_all [Endpoint.crediting, Endpoint.unannounced, Endpoint.pending, Endpoint.Ended,
        Phase.answered, dataLength]
  | close _ _ hinb =>
    rcases hinb with rfl | rfl <;> constructor <;>
      simp_all [Endpoint.crediting, Endpoint.unannounced, Endpoint.pending, dataLength,
        Inbound.length]
  | _ =>
    constructor <;>
      simp_all [Endpoint.crediting, Endpoint.unannounced, Endpoint.pending, Endpoint.Ended,
        Endpoint.remove, dataLength, amountOf, Frame.code, Inbound.length] <;>
      omega

/-- A stream that stays takes over what the frame brings. -/
theorem Receives.items (h : Receives config side f (some e) (some e') reply)
    (hodd : f.streamId % 2 = 1) (hopen : f.kind ≠ .open) (hmap : e'.mapped) :
    e'.inbound = e.inbound ++ (arrival f).toList ∧ f.kind ≠ .close := by
  cases h with
  | data hkind | fin hkind => simp [arrival, hkind]
  | dataFull | finFull | close => cases hmap
  | closeUnknown hkind hunknown =>
    exact absurd (dispatch_ok.2 ⟨hodd, rfl, hmap⟩) (hunknown e)
  | openOk _ hkind | openError _ hkind | openErrorLate _ hkind | windowUpdate hkind | ping hkind
  | pong hkind => simp [arrival, hkind]
  | admitted _ hkind | noSlot _ hkind => exact absurd hkind hopen

end Receives

/-! ### Both directions -/

section Pair

variable {config : TunnelConfig} {side : Side} {e e' p : Endpoint} {out inc : List Frame}
  {streamId : Nat}

/-- Both directions of a stream, seen from one side. -/
structure Flows (config : TunnelConfig) (side : Side) (e p : Endpoint) (out inc : List Frame) :
    Prop where
  sends : Flow (config.side side.other).initialWindowBytes e out p inc
  receives : Flow (config.side side).initialWindowBytes p inc e out

theorem Side.other_other (side : Side) : side.other.other = side := by cases side <;> rfl

theorem Flows.symm (h : Flows config side e p out inc) : Flows config side.other p e inc out := by
  constructor
  · rw [side.other_other]
    exact h.receives
  · exact h.sends

theorem Flow.crediting_lt {window : Nat} {s t : Endpoint} {back : List Frame}
    (h : Flow window s out t back) (hwin : window < 2 ^ 32) : t.crediting < 2 ^ 32 := by
  have hcred := h.credit_le
  have hbound := h.window_le
  unfold grant at hcred
  omega

theorem Flows.act (h : Flows config side e p out inc) {act : Act} {frames : List Frame}
    (hact : Acts side (config.side side) streamId e act e' frames) :
    Flows config side e' p (out ++ frames) inc := by
  refine ⟨h.sends.sender (hact.senderChange h.sends.waiting) rfl, ?_⟩
  have hchange := hact.receiverChange (h.receives.crediting_lt (config.side side).window_lt)
    h.receives.closed
  -- a task takes the front of its queue
  have hqueue : e'.inbound <:+ e.inbound := by
    cases hact with
    | takeData _ hqueue =>
      rw [hqueue]
      exact List.suffix_cons ..
    | accept | connected | consume | sendData | sendFin | write | acknowledge | sendClose =>
      exact List.suffix_rfl
    | _ => exact List.nil_suffix
  refine h.receives.receiver hchange rfl (fun _ => ?_) List.suffix_rfl fun hclose => ?_
  · obtain ⟨front, hfront⟩ := hqueue
    exact ⟨front, by rw [← hfront, List.append_assoc]⟩
  · have hbef := h.receives.closed (hqueue.subset hclose)
    by_contra hmap
    have hmap' := hchange.mapped (Bool.eq_true_of_not_eq_false hmap)
    rw [hbef] at hmap'
    cases hmap'

theorem Flows.read {f : Frame} {reply : List Frame} (h : Flows config side e p out (f :: inc))
    (hodd : f.streamId % 2 = 1) (hread : Receives config side f (some e) (some e') reply) :
    Flows config side e' p (out ++ reply) inc := by
  have hopen : f.kind ≠ .open := h.receives.known f List.mem_cons_self
  have hchange : ReceiverChange (config.side side).initialWindowBytes e e' (dataLength f) reply :=
    hread.receiverChange hopen
  constructor
  · apply h.sends.sender (hread.senderChange h.sends.waiting hopen)
    rw [total_cons, total_cons]
    omega
  · refine h.receives.receiver hchange ?_ (fun hmap => ?_) (List.suffix_cons ..) fun hclose => ?_
    · rw [total_cons]
      omega
    · rw [(hread.items hodd hopen hmap).1, arrivals, arrivals, List.filterMap_cons]
      cases arrival f <;> simp
    · by_contra hmap
      have hmap' := Bool.eq_true_of_not_eq_false hmap
      obtain ⟨hits, hkind⟩ := hread.items hodd hopen hmap'
      rw [hits, List.mem_append] at hclose
      rcases hclose with hold | hnew
      · have hbef := hchange.mapped hmap'
        rw [h.receives.closed hold] at hbef
        cases hbef
      · apply hkind
        unfold arrival at hnew
        split at hnew <;> simp_all

end Pair

end RealityConsole.RelayTunnel
