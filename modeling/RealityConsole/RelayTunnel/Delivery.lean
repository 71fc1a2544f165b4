import RealityConsole.RelayTunnel.Conservation

/-!
# What arrives is what was sent

The bytes that a task writes to its socket are a prefix of those that the task of the other side
has taken, in every run. While both go on nothing is lost: the rest is held by a pump, waits in the
queue or is on the way. A pump that has seen `Fin` has written everything.
-/

namespace RealityConsole.RelayTunnel

open Framework

/-! ### Bytes between two tasks -/

def bytesOf (items : List Inbound) : Bytes :=
  items.flatMap fun
    | .data bytes => bytes
    | .fin | .close => []

@[simp] theorem bytesOf_append (items more : List Inbound) :
    bytesOf (items ++ more) = bytesOf items ++ bytesOf more :=
  List.flatMap_append

def bytesIn (frames : List Frame) : Bytes := bytesOf (arrivals frames)

@[simp] theorem bytesIn_append (frames more : List Frame) :
    bytesIn (frames ++ more) = bytesIn frames ++ bytesIn more := by
  simp [bytesIn, arrivals_append]

namespace Phase

/-- The bytes that have been taken and not sent. -/
def held : Phase → Bytes
  | .serving (.holding bytes) _ => bytes
  | _ => []

/-- The task has not ended. -/
def running : Phase → Bool
  | .closing | .finished => false
  | _ => true

/-- The receiving pump will write what comes in. -/
def flowing : Phase → Bool
  | .opening _ | .connecting | .serving _ .idle | .serving _ (.writing _) => true
  | .serving _ (.acknowledging _ rest) => rest = 0
  | .serving _ .done | .closing | .finished => false

end Phase

namespace Endpoint

/-- The bytes that the receiving pump is going to write. -/
def waiting (e : Endpoint) : Bytes :=
  match e.phase with
  | .serving _ (.writing bytes) => bytes ++ bytesOf e.inbound
  | phase => bif phase.flowing then bytesOf e.inbound else []

/-- What is written in the end, if nothing more comes in and nothing ends before. -/
def output (e : Endpoint) : Bytes := e.delivered ++ e.waiting

/-- What comes in will be written. -/
def Taking (e : Endpoint) : Prop := e.mapped ∧ e.phase.flowing

end Endpoint

/-- One direction of a stream: `s` sends, `t` receives and `out` is on the way. A sender that has
sent `Fin` has lost nothing. -/
structure InOrder (s : Endpoint) (out : List Frame) (t : Endpoint) : Prop where
  written : t.output <+: s.taken
  transit : t.Taking → ∃ lost, s.taken = t.output ++ bytesIn out ++ s.phase.held ++ lost ∧
    (s.phase.running ∨ .fin ∈ t.inbound ++ arrivals out → lost = [])
  whole : t.mapped → t.Ended → s.taken = t.delivered

/-- What flow control knows of the end of a stream. -/
structure Closing (s : Endpoint) (out : List Frame) (t : Endpoint) : Prop where
  done : .fin ∈ t.inbound ++ arrivals out ∨ t.Ended → ¬ s.Sending
  order : (t.inbound ++ arrivals out).Pairwise fun first later => first = .fin → later = .close
  unclosed : .close ∉ t.inbound

def Sends (s s' : Endpoint) (frames : List Frame) : Prop :=
  ∃ more lost, s'.taken = s.taken ++ more ∧
    s.phase.held ++ more = bytesIn frames ++ s'.phase.held ++ lost ∧
    (s.Sending ∨ more = [] ∧ lost = []) ∧
    (s'.phase.running ∨ .fin ∈ arrivals frames → s.phase.running ∧ lost = [])

theorem Endpoint.Ended.output {t : Endpoint} (h : t.Ended) : t.output = t.delivered := by
  obtain ⟨_, hphase⟩ := h
  simp [Endpoint.output, waiting, hphase, Phase.flowing]

/-- What comes into the queue of a pump that goes on is written after the rest. -/
theorem Endpoint.output_push {t t' : Endpoint} {item : Inbound} (hphase : t'.phase = t.phase)
    (hdel : t'.delivered = t.delivered) (hqueue : t'.inbound = t.inbound ++ [item]) :
    t'.output = t.output ++ bif t.phase.flowing then bytesOf [item] else [] := by
  unfold Endpoint.output waiting
  rw [hdel, hqueue, hphase, bytesOf_append]
  rcases t.phase with _ | _ | ⟨_, _ | _ | ⟨_, _ | _⟩ | _⟩ | _ | _ <;> simp [Phase.flowing]

/-- A step at the receiver with the frames that it reads: nothing comes in, an item is queued, or
the pump ends, of itself or with `Fin`. -/
inductive Takes (frames : List Frame) (t t' : Endpoint) : Prop where
  | same (heq : t'.output = t.output) (hmap : t'.mapped → t.mapped)
      (hflow : t'.phase.flowing → t.phase.flowing) (hend : t'.Ended → t.Ended)
      (hfin : .fin ∈ t'.inbound → .fin ∈ t.inbound) (hframes : bytesIn frames = [])
  | queued {item : Inbound} (hphase : t'.phase = t.phase) (hdel : t'.delivered = t.delivered)
      (hmap : t.mapped) (hqueue : t'.inbound = t.inbound ++ [item])
      (hitem : arrivals frames = [item])
  | stopped (hout : t'.output <+: t.output) (hnot : ¬ t'.Taking)
      (hend : t'.mapped → t'.Ended → t'.delivered = t.delivered ∧ t.Taking ∧
        ∃ rest, t.inbound = .fin :: rest ∧ t.waiting = bytesOf rest)

section Directions

variable {s s' t t' : Endpoint} {out frames : List Frame}

theorem Endpoint.Sending.running (h : s.Sending) : s.phase.running := by
  unfold Endpoint.Sending at h
  revert h
  rcases s.phase with _ | _ | _ | _ | _ <;> simp [Phase.running]

theorem Endpoint.held_eq_nil (h : ¬ s.Sending) : s.phase.held = [] := by
  unfold Endpoint.Sending at h
  revert h
  rcases s.phase with _ | _ | ⟨_ | _ | _, _⟩ | _ | _ <;> simp [Phase.held]

theorem InOrder.sends (h : InOrder s out t) (hs : Sends s s' frames)
    (hclose : t.mapped → Closing s out t) : InOrder s' (out ++ frames) t := by
  obtain ⟨more, lost, htaken, hheld, hmore, hrun⟩ := hs
  refine ⟨?_, fun ht => ?_, fun hmap hend => ?_⟩
  · rw [htaken]
    exact h.written.trans (List.prefix_append ..)
  · obtain ⟨gone, htotal, hgone⟩ := h.transit ht
    -- bytes are taken only by a task that has lost none
    have hcomm : gone ++ more = more ++ gone := by
      rcases hmore with hs | ⟨rfl, -⟩
      · simp [hgone (.inl hs.running)]
      · simp
    refine ⟨lost ++ gone, ?_, fun hlast => ?_⟩
    · simp only [htaken, htotal, bytesIn_append, List.append_assoc, hcomm] at hheld ⊢
      rw [← List.append_assoc s.phase.held, hheld]
      simp
    · rw [arrivals_append, ← List.append_assoc, List.mem_append, or_left_comm] at hlast
      rcases hlast with hold | hnew
      · simp [hgone (.inr hold), (hmore.resolve_left ((hclose ht.1).done (.inl hold))).2]
      · simp [hrun hnew, hgone]
  · obtain ⟨rfl, -⟩ := hmore.resolve_left ((hclose hmap).done (.inr hend))
    rw [htaken, List.append_nil, h.whole hmap hend]

theorem InOrder.takes (h : InOrder s (frames ++ out) t) (ht : Takes frames t t')
    (hclose : t.mapped → Closing s (frames ++ out) t) : InOrder s out t' := by
  cases ht with
  | same heq hmap hflow hend hfin hframes =>
    refine ⟨heq ▸ h.written, fun htak => ?_, fun hm he => ?_⟩
    · obtain ⟨lost, htotal, hrun⟩ := h.transit ⟨hmap htak.1, hflow htak.2⟩
      refine ⟨lost, ?_, fun hlast => hrun (hlast.imp_right fun hmem => ?_)⟩
      · rw [heq, htotal, bytesIn_append, hframes, List.nil_append]
      · simp only [arrivals_append, List.mem_append] at hmem ⊢
        exact hmem.imp hfin .inr
    · rw [h.whole (hmap hm) (hend he), ← he.output, heq, (hend he).output]
  | queued hphase hdel hmap hqueue hitem =>
    have heq := Endpoint.output_push hphase hdel hqueue
    have hitems : t'.inbound ++ arrivals out = t.inbound ++ arrivals (frames ++ out) := by
      rw [hqueue, arrivals_append, hitem, List.append_assoc]
    have hwhole : t'.mapped → t'.Ended → s.taken = t'.delivered := fun _ ⟨sender, he⟩ =>
      hdel ▸ h.whole hmap ⟨sender, hphase ▸ he⟩
    cases hflow : t.phase.flowing with
    | false =>
      rw [hflow, cond_false, List.append_nil] at heq
      exact ⟨heq ▸ h.written, by simp [Endpoint.Taking, hphase, hflow], hwhole⟩
    | true =>
      obtain ⟨lost, htotal, hrun⟩ := h.transit ⟨hmap, hflow⟩
      rw [hflow, cond_true, ← hitem] at heq
      rw [bytesIn_append, bytesIn, ← List.append_assoc, ← heq] at htotal
      refine ⟨?_, fun _ => ⟨lost, htotal, hitems ▸ hrun⟩, hwhole⟩
      simp [htotal]
  | stopped hout hnot hend =>
    refine ⟨hout.trans h.written, (absurd · hnot), fun hm he => ?_⟩
    -- behind `Fin` there are no bytes, and its sender holds none
    obtain ⟨hdel, htak, rest, hinb, hwait⟩ := hend hm he
    obtain ⟨lost, htotal, hrun⟩ := h.transit htak
    have hclose := hclose htak.1
    have hfin : .fin ∈ t.inbound ++ arrivals (frames ++ out) := by simp [hinb]
    have horder := hclose.order
    rw [hinb, List.cons_append, List.pairwise_cons] at horder
    have hnone : bytesOf (rest ++ arrivals (frames ++ out)) = [] :=
      List.flatMap_eq_nil_iff.2 fun item hitem => by rw [horder.1 item hitem rfl]
    rw [bytesOf_append, List.append_eq_nil_iff] at hnone
    rw [htotal, Endpoint.output, hwait, hnone.1, bytesIn, hnone.2,
      Endpoint.held_eq_nil (hclose.done (.inl hfin)), hrun (.inr hfin), hdel]
    simp

end Directions

/-! ### The steps of tasks and readers -/

section Steps

variable {side : Side} {config : SideConfig} {streamId : Nat} {e e' : Endpoint} {act : Act}
  {frames : List Frame}

theorem bytesIn_eq_nil (h : (arrivals frames).all (· = .close)) :
    bytesIn frames = [] ∧ .fin ∉ arrivals frames := by
  simp only [List.all_eq_true, decide_eq_true_eq] at h
  exact ⟨List.flatMap_eq_nil_iff.2 fun item hitem => by rw [h item hitem],
    fun hfin => by cases h _ hfin⟩

/-- A task that ends drops what it holds. -/
theorem Sends.of_retired (htaken : e'.taken = e.taken) (hrun : e'.phase.running = false)
    (hframes : (arrivals frames).all (· = .close)) (hheld : e'.phase.held = []) :
    Sends e e' frames := by
  obtain ⟨hnone, hfin⟩ := bytesIn_eq_nil hframes
  exact ⟨[], e.phase.held, by simp [htaken], by simp [hnone, hheld],
    or_iff_not_imp_left.2 fun hs => ⟨rfl, Endpoint.held_eq_nil hs⟩, by simp [hrun, hfin]⟩

theorem Sends.of_same (htaken : e'.taken = e.taken) (hheld : e'.phase.held = e.phase.held)
    (hframes : (arrivals frames).all (· = .close)) (hrun : e'.phase.running → e.phase.running) :
    Sends e e' frames := by
  obtain ⟨hnone, hfin⟩ := bytesIn_eq_nil hframes
  exact ⟨[], [], by simp [htaken], by simp [hnone, hheld], .inr ⟨rfl, rfl⟩,
    fun h => ⟨hrun (h.resolve_right hfin), rfl⟩⟩

theorem Acts.sends (h : Acts side config streamId e act e' frames) : Sends e e' frames := by
  cases h with
  | @consume bytes _ hphase =>
    refine ⟨bytes, [], rfl, ?_, .inl ?_, fun _ => ⟨?_, rfl⟩⟩ <;>
      simp [Phase.held, Phase.running, Endpoint.Sending, hphase, bytesIn, arrivals, bytesOf]
  | sendData hphase | sendFin hphase =>
    refine ⟨[], [], (List.append_nil _).symm, ?_, .inr ⟨rfl, rfl⟩, fun _ => ⟨?_, rfl⟩⟩ <;>
      simp [Phase.held, Phase.running, hphase, bytesIn, arrivals, arrival, bytesOf]
  | acceptEmpty | refused | timeOut | refuse | abandon | takeCloseRelay | acknowledgePart
  | finish => exact .of_retired rfl rfl rfl rfl
  | @takeData sender _ _ hphase | @takeFin sender _ hphase | @takeCloseNode sender _ _ hphase
  | @write sender _ _ hphase | @acknowledge sender _ hphase =>
    refine .of_same rfl ?_ rfl ?_ <;> cases sender <;> simp [Phase.held, Phase.running, hphase]
  | accept hphase | connected hphase | sendClose hphase =>
    refine .of_same rfl ?_ rfl ?_ <;> simp [Phase.held, Phase.running, hphase]

theorem Takes.of_ended (hdel : e'.delivered = e.delivered) (hwait : e'.waiting = [])
    (hflow : e'.phase.flowing = false) (hend : e'.mapped → e'.Ended → e.Taking ∧
      ∃ rest, e.inbound = .fin :: rest ∧ e.waiting = bytesOf rest) : Takes frames e e' := by
  refine .stopped ?_ (by simp [Endpoint.Taking, hflow]) fun hm he => ⟨hdel, hend hm he⟩
  rw [Endpoint.output, hdel, hwait, List.append_nil]
  exact List.prefix_append ..

/-- An entry that is no longer mapped gets nothing more. -/
theorem Takes.of_unmapped (heq : e'.output = e.output) (hmap : e'.mapped = false) :
    Takes frames e e' :=
  .stopped (heq ▸ List.prefix_rfl) (by simp [Endpoint.Taking, hmap]) (by simp [hmap])

theorem Acts.takes (h : Acts side config streamId e act e' frames)
    (hclose : e.mapped → .close ∉ e.inbound) : Takes [] e e' := by
  cases h with
  | acceptEmpty | refused | timeOut | refuse | abandon | takeCloseRelay | acknowledgePart
  | finish | sendClose => exact .of_ended rfl rfl rfl fun _ => by rintro ⟨_, ⟨⟩⟩
  | @takeFin _ rest hphase hqueue =>
    refine .of_ended rfl rfl rfl fun hmap _ => ⟨⟨hmap, ?_⟩, rest, hqueue, ?_⟩ <;>
      simp [Endpoint.waiting, Phase.flowing, hphase, hqueue, bytesOf]
  | takeCloseNode _ hphase hqueue =>
    exact .of_ended rfl rfl rfl fun hmap => absurd (by simp [hqueue]) (hclose hmap)
  | @consume _ receiver hphase | @sendData _ receiver hphase | @sendFin receiver hphase =>
    refine .same ?_ id ?_ ?_ id rfl <;> cases receiver <;>
      simp [Endpoint.output, Endpoint.waiting, Phase.flowing, Endpoint.Ended, hphase]
  | accept hphase | connected hphase | acknowledge hphase =>
    refine .same ?_ id ?_ ?_ id rfl <;>
      simp [Endpoint.output, Endpoint.waiting, Phase.flowing, Endpoint.Ended, hphase]
  | takeData hphase hqueue =>
    refine .same ?_ id ?_ ?_ ?_ rfl <;>
      simp [Endpoint.output, Endpoint.waiting, Phase.flowing, Endpoint.Ended, hphase,
        hqueue, bytesOf]
  | @write _ bytes granted hphase _ hle =>
    have hwait : e.waiting = bytes ++ bytesOf e.inbound := by simp [Endpoint.waiting, hphase]
    rcases hle.eq_or_lt with rfl | hlt
    · refine .same ?_ id ?_ ?_ id rfl
      · rw [Endpoint.output, Endpoint.output, hwait]
        simp [Endpoint.waiting, Phase.flowing]
      all_goals simp [Phase.flowing, Endpoint.Ended, hphase]
    · -- the pump ends with the acknowledgement of a part
      have hrest : bytes.length - granted ≠ 0 := by omega
      refine .stopped ?_ ?_ ?_
      · rw [Endpoint.output, Endpoint.output, hwait]
        simp only [Endpoint.waiting, Phase.flowing, hrest, List.append_assoc,
          List.prefix_append_right_inj]
        simpa using (List.take_prefix ..).trans (List.prefix_append ..)
      all_goals simp [Endpoint.Taking, Endpoint.Ended, Phase.flowing, hrest]

/-- It stands for the entry of a side that does not know the stream yet. -/
def Endpoint.fresh : Endpoint := ⟨true, false, .connecting, [], 0, 0, [], []⟩

section Receive

variable {config : TunnelConfig} {f : Frame} {o o' : Option Endpoint}

theorem Receives.sends (h : Receives config side f o o' frames)
    (hkind : o.isSome → f.kind ≠ .open) : Sends (o.getD .fresh) (o'.getD .fresh) frames := by
  cases h with
  | openOk | openError =>
    refine .of_same rfl ?_ rfl ?_
    all_goals
      dsimp only [Option.getD_some]
      rcases Endpoint.phase _ with (_ | _) | _ | _ | _ | _ <;>
        simp [Phase.answered, Phase.held, Phase.running]
  | admitted _ hopen =>
    cases o with
    | none => exact .of_same rfl rfl rfl id
    | some e => exact absurd hopen (hkind rfl)
  | openErrorLate | data | dataFull | fin | finFull | close | closeUnknown | windowUpdate | ping
  | pong | noSlot => exact .of_same rfl rfl rfl id

theorem Receives.takes (h : Receives config side f o o' frames)
    (hkind : o.isSome → f.kind ≠ .open) : Takes [f] (o.getD .fresh) (o'.getD .fresh) := by
  cases h with
  | data hkinds hmap | fin hkinds hmap =>
    exact .queued rfl rfl hmap rfl (by simp [arrivals, arrival, hkinds])
  | dataFull | finFull => exact .of_unmapped rfl rfl
  | close hkinds hmap hqueue =>
    rcases hqueue with rfl | rfl
    · exact .queued rfl rfl hmap rfl (by simp [arrivals, arrival, hkinds])
    · exact .of_unmapped rfl rfl
  | openOk _ hkinds | openError _ hkinds =>
    refine .same ?_ id ?_ ?_ id (by simp [bytesIn, arrivals, arrival, hkinds, bytesOf])
    all_goals
      simp only [Endpoint.output, Endpoint.waiting, Endpoint.Ended, Option.getD_some]
      rcases Endpoint.phase _ with (_ | _) | _ | _ | _ | _ <;> simp [Phase.answered, Phase.flowing]
  | admitted _ hkinds =>
    cases o with
    | none => exact .same rfl id id id id (by simp [bytesIn, arrivals, arrival, hkinds, bytesOf])
    | some e => exact absurd hkinds (hkind rfl)
  | openErrorLate _ hkinds | closeUnknown hkinds | windowUpdate hkinds | ping hkinds | pong hkinds
  | noSlot _ hkinds =>
    exact .same rfl id id id id (by simp [bytesIn, arrivals, arrival, hkinds, bytesOf])

end Receive

end Steps

/-! ### Every stream of every run -/

/-- Both directions of a stream. -/
def Delivers (l : Link) : Prop :=
  ∀ side, InOrder ((l.own side.other).getD .fresh) (l.inc side) ((l.own side).getD .fresh)

section Links

variable {config : TunnelConfig} {streamId : Nat} {l l' : Link} {side : Side}

theorem FlowInv.known (h : FlowInv config streamId l) {e : Endpoint} (hown : l.own side = some e) :
    ∀ f ∈ l.inc side, f.kind ≠ .open := by
  cases hpeer : l.own side.other with
  | some p => exact (h.flows hown hpeer).2.receives.known
  | none =>
    obtain ⟨rfl, -, hoff⟩ := h.offered_of_none hown hpeer
    intro f hf
    rcases hoff.frames with ⟨-, hnone⟩ | ⟨-, hansw⟩
    · cases hnone ▸ hf
    · obtain ⟨code, rfl⟩ := hansw f hf
      nofun

/-- Nothing has come, or is on the way, from or to a side that does not know the stream. -/
theorem FlowInv.quiet (h : FlowInv config streamId l)
    (hnone : l.own side = none ∨ l.own side.other = none) :
    ((l.own side).getD .fresh).inbound = [] ∧ arrivals (l.inc side) = [] ∧
      ¬ ((l.own side).getD .fresh).Ended := by
  cases h with
  | unused hown hinc =>
    rw [hown, hinc]
    exact ⟨rfl, rfl, by rintro ⟨_, ⟨⟩⟩⟩
  | both => cases side <;> simp_all [Side.other]
  | offered _ hrel hnode hoff =>
    cases side with
    | relay =>
      rw [hrel]
      refine ⟨hoff.inbound, ?_, ?_⟩
      · rcases hoff.frames with ⟨-, hinc⟩ | ⟨-, hansw⟩
        · rw [hinc]
          rfl
        · refine List.filterMap_eq_nil_iff.2 fun f hf => ?_
          obtain ⟨code, rfl⟩ := hansw f hf
          rfl
      · rintro ⟨_, hphase⟩
        rcases hoff.phase with h | ⟨_, h⟩ | h <;> cases h.symm.trans hphase
    | node =>
      rw [hnode]
      refine ⟨rfl, ?_, by rintro ⟨_, ⟨⟩⟩⟩
      rcases hoff.frames with ⟨hinc, -⟩ | ⟨hinc, -⟩ <;> rw [hinc] <;> rfl

theorem FlowInv.closing (h : FlowInv config streamId l) (side : Side) :
    ((l.own side).getD .fresh).mapped → Closing ((l.own side.other).getD .fresh) (l.inc side)
      ((l.own side).getD .fresh) := by
  intro hmap
  by_cases hnone : l.own side = none ∨ l.own side.other = none
  · obtain ⟨hinb, harr, hend⟩ := h.quiet hnone
    refine ⟨?_, ?_, ?_⟩ <;> simp [hinb, harr, hend]
  · obtain ⟨e, hown⟩ := Option.ne_none_iff_exists'.1 fun hn => hnone (.inl hn)
    obtain ⟨p, hpeer⟩ := Option.ne_none_iff_exists'.1 fun hn => hnone (.inr hn)
    have hflow := (h.flows hown hpeer).2.receives
    rw [hown] at hmap ⊢
    rw [hpeer]
    refine ⟨fun hfin hs => ?_, hflow.order hmap, fun hclose => ?_⟩
    · exact hfin.elim (hflow.unfinished hmap hs).1 (hflow.unfinished hmap hs).2
    · cases hmap.symm.trans (hflow.closed hclose)

theorem Delivers.of_step (h : Delivers l) (hinv : FlowInv config streamId l) (side : Side)
    (read sent : List Frame) {o o' : Option Endpoint} (hown : l.own side = o)
    (hown' : l'.own side = o') (hpeer : l'.own side.other = l.own side.other)
    (hinc : l.inc side = read ++ l'.inc side) (hout : l'.inc side.other = l.inc side.other ++ sent)
    (hsend : Sends (o.getD .fresh) (o'.getD .fresh) sent)
    (htake : Takes read (o.getD .fresh) (o'.getD .fresh)) : Delivers l' := by
  subst hown hown'
  have hin := h side
  have hto := h side.other
  have hcin := hinv.closing side
  have hcto := hinv.closing side.other
  rw [hinc] at hin hcin
  rw [side.other_other] at hto hcto
  replace hin := hin.takes htake hcin
  replace hto := hto.sends hsend hcto
  rw [← hpeer] at hin hto
  rw [← hout] at hto
  intro other
  cases side <;> cases other <;> assumption

theorem Delivers.step {label : LinkLabel} (h : Delivers l) (hinv : FlowInv config streamId l)
    (hstep : LinkStep config streamId l label l') (hfresh : label = .opened → l.Unused) :
    Delivers l' := by
  cases hstep with
  | opened =>
    refine h.of_step hinv .relay [] _ ((hfresh rfl).1 _) rfl rfl rfl rfl (.of_same rfl rfl rfl id)
      (.same rfl id id ?_ id rfl)
    rintro ⟨_, ⟨⟩⟩
  | @act side _ _ e' _ hown hact =>
    have hacts := acts_of_act hact
    have hclose := hinv.closing side
    rw [hown] at hclose
    exact h.of_step hinv side [] _ hown (show _ = some e' by simp) (by simp) (by simp) (by simp)
      hacts.sends (hacts.takes fun hmap => (hclose hmap).unclosed)
  | @read side _ f rest reply e hinc _ hread =>
    have hreads := receives_of_receive hread
    have hkind : (l.own side).isSome → f.kind ≠ .open := by
      intro hsome
      obtain ⟨own, hown⟩ := Option.isSome_iff_exists.1 hsome
      exact hinv.known hown f (hinc ▸ List.mem_cons_self)
    have hown : (((l.setInc side rest).setOwn side e).push side.other reply).own side = e := by
      cases e with
      | some e => simp
      | none =>
        -- nobody forgets a stream
        generalize hown : l.own side = own at hreads
        cases hreads <;> exact hown
    exact h.of_step hinv side [f] reply rfl hown (by simp) (by simp [hinc]) (by simp)
      (hreads.sends hkind) (hreads.takes hkind)
  | @fail side rest hrest =>
    have hne : side.other ≠ side := by cases side <;> decide
    obtain ⟨dropped, hdrop⟩ := hrest
    refine h.of_step hinv side dropped [] rfl (Function.update_self ..)
      (Function.update_of_ne hne ..) (by simp [hdrop]) (by simp [hne]) ?_ ?_ <;>
      cases hown : l.own side
    · exact .of_same rfl rfl rfl id
    · exact .of_same rfl rfl rfl id
    · have hnone := (hinv.quiet (.inl hown)).2.1
      rw [← hdrop, arrivals_append, List.append_eq_nil_iff] at hnone
      exact .same rfl id id id id (by rw [bytesIn, hnone.1]; rfl)
    · exact .of_unmapped rfl rfl

end Links

/-- What a task has written to its socket is a prefix of what the task of the other side has taken
from its own, whatever has ended meanwhile. While the one goes on to write and the other has not
ended, what is missing waits to be written, is on the way or is held by the sender, in this
order. Once a task has seen the end of its stream, nothing is missing. -/
theorem delivered_in_order {config : TunnelConfig} {w : Tunnel}
    (h : (tunnelSystem config).Reachable w) {streamId : Nat} {side : Side} {s t : Endpoint}
    (hs : (w.station side.other).streams.lookup streamId = some s)
    (ht : (w.station side).streams.lookup streamId = some t) :
    t.delivered <+: s.taken ∧ (t.Taking → s.phase.running → s.taken = t.delivered ++ t.waiting ++
      bytesIn (framesOf streamId (w.station side).incoming) ++ s.phase.held) ∧
      (t.mapped → t.Ended → t.delivered = s.taken) := by
  have hlink : FlowInv config streamId (w.link streamId) ∧ Delivers (w.link streamId) := by
    refine link_invariant (P := fun streamId l => FlowInv config streamId l ∧ Delivers l) ?_ ?_ h
      (ne_zero_of_lookup h ht)
    · rintro _ l ⟨hown, hinc⟩
      refine ⟨.unused hown hinc, fun side => ?_⟩
      rw [hown, hown, hinc]
      exact ⟨List.prefix_rfl, fun _ => ⟨[], rfl, fun _ => rfl⟩, fun _ => by rintro ⟨_, ⟨⟩⟩⟩
    · rintro _ l label l' ⟨hinv, hdel⟩ hstep hfresh
      exact ⟨hinv.step hstep hfresh, hdel.step hinv hstep fun hopen => (hfresh hopen).2⟩
  have hdir : InOrder s ((w.link streamId).inc side) t := by
    have hdir := hlink.2 side
    rwa [show (w.link streamId).own side = some t from ht,
      show (w.link streamId).own side.other = some s from hs] at hdir
  refine ⟨(List.prefix_append ..).trans hdir.written, fun htak hrun => ?_,
    fun hmap hend => (hdir.whole hmap hend).symm⟩
  obtain ⟨lost, htotal, hlost⟩ := hdir.transit htak
  rw [hlost (.inl hrun), List.append_nil] at htotal
  exact htotal

/-- The node has seen the end. Of its own bytes one is written, one waits and one is held. -/
theorem bytes_between_tasks : ∃ w, ∃ r n : Endpoint, (tunnelSystem smallConfig).Reachable w ∧
    r.delivered = [2] ∧ n.taken = [2, 3, 4] ∧ n.delivered = r.taken ∧ r.delivered <+: n.taken ∧
    n.taken = r.delivered ++ r.waiting ++ bytesIn (framesOf 1 w.relay.incoming) ++ [4] := by
  obtain ⟨w, hrun, hrel, hnode⟩ := Machine.run_of_exec
    (M := tunnelSystem smallConfig) (fun _ _ => True)
    (fun w => (w.relay.streams.lookup 1).any (fun r => (r.mapped ∧ r.phase.flowing) ∧
        r.delivered = [2]) ∧
      (w.node.streams.lookup 1).any (fun n => n.mapped ∧ n.taken = [2, 3, 4] ∧
        n.phase = .serving (.holding [4]) .done))
    (opening 1 ++ [.act .relay 1 (.consume [1]), .act .relay 1 .sendData, .act .relay 1 .sendFin,
      .read .node, .read .node, .act .node 1 .take, .act .node 1 (.write 1),
      .act .node 1 .acknowledge, .act .node 1 .take, .act .node 1 (.consume [2]),
      .act .node 1 .sendData, .read .relay, .read .relay, .act .relay 1 .take,
      .act .relay 1 (.write 1), .act .node 1 (.consume [3]), .act .node 1 .sendData,
      .act .node 1 (.consume [4])])
    (s := freshTunnel) ⟨0, rfl⟩ (by decide +kernel)
  obtain ⟨r, hr, hrs⟩ := (Option.any_eq_true _ _).mp hrel
  obtain ⟨n, hn, hns⟩ := (Option.any_eq_true _ _).mp hnode
  obtain ⟨htaking, hdel⟩ := of_decide_eq_true hrs
  obtain ⟨hmap, htaken, hphase⟩ := of_decide_eq_true hns
  have htoNode := @delivered_in_order _ w hrun 1 .node r n hr hn
  have htoRelay := @delivered_in_order _ w hrun 1 .relay n r hn hr
  rw [hphase] at htoRelay
  exact ⟨w, r, n, hrun, hdel, htaken, htoNode.2.2 hmap ⟨_, hphase⟩, htoRelay.1,
    htoRelay.2.1 htaking rfl⟩

end RealityConsole.RelayTunnel
