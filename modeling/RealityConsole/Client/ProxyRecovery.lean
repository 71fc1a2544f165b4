import RealityConsole.Client.SystemProxy
import RealityConsole.Framework.Machine

/-!
# Recovery of the system proxy

The manager as a machine: calls in any order, with any faults and a crash at any effect. Recovery
rests on a law that the adapter owes: after any commands of a snapshot, its restoration brings back
what was captured. On Windows the law follows from what WinINet promises of one call. On macOS it
cannot hold of proxies that were never set, since a restoration leaves their address alone.
-/

namespace RealityConsole.Client.SystemProxy

open Framework

/-- The calls of the manager with what goes wrong in them. -/
inductive Label where
  | apply (socksPort httpPort : UInt16) (faults : List Fault)
  | restorePending (faults : List Fault)

section
variable {OS Snapshot : Type} (A : Adapter OS Snapshot)

/-- The manager from settings that nobody has changed yet. -/
def system : Machine (World OS Snapshot) Label where
  init w := w.journal = none ∧ w.before = w.os
  next w label := some <| match label with
    | .apply socksPort httpPort faults => (applyProxy A socksPort httpPort ⟨w, faults⟩).1.state
    | .restorePending faults => (restorePending A ⟨w, faults⟩).1.state

/-! ### The law of an adapter -/

def restoreAll : List (RestoreStep OS) → OS → OS
  | [], os => os
  | .run command :: rest, os => restoreAll rest (command os)
  | .complain _ :: rest, os => restoreAll rest os

def Accepts (steps : List (RestoreStep OS)) : Prop := ∀ error, .complain error ∉ steps

/-- What an adapter owes the manager: a restoration brings back the settings that were captured, if
they were `Good`; all the commands of a snapshot keep the frame. -/
structure Lawful (Good : OS → Prop) (Frame : Snapshot → OS → Prop) : Prop where
  captured : ∀ {os snapshot}, A.capture os = .ok snapshot → Frame snapshot os
  applied : ∀ {os snapshot socksPort httpPort command}, Frame snapshot os →
    command ∈ A.apply snapshot socksPort httpPort → Frame snapshot (command os)
  restored : ∀ {os snapshot command}, Frame snapshot os →
    .run command ∈ A.restore snapshot → Frame snapshot (command os)
  accepted : ∀ {before snapshot}, A.capture before = .ok snapshot → Good before →
    Accepts (A.restore snapshot)
  exact : ∀ {before os snapshot}, A.capture before = .ok snapshot → Good before →
    Frame snapshot os → restoreAll (A.restore snapshot) os = before

variable {A} {Good : OS → Prop} {Frame : Snapshot → OS → Prop}

/-! ### Running commands -/

variable {P : World OS Snapshot → Prop}

/-- Commands that keep a property keep it wherever they stop. -/
theorem spec_runCommands {commands : List (OS → OS)}
    (hcommands : ∀ w, P w → ∀ command ∈ commands, P (w.mapOS command)) :
    Faulty.Spec P (runCommands commands) P fun _ => P := by
  induction commands with
  | nil => exact Faulty.spec_pure () (fun _ h => h) fun _ h => h
  | cons command rest ih =>
    apply Faulty.Spec.bind (Q := fun _ => P)
    · apply Faulty.spec_effect
      · exact fun _ h => h
      · exact fun w hw => hcommands w hw command List.mem_cons_self
      · exact fun w hw => hcommands w hw command List.mem_cons_self
    · intro _
      exact ih fun w hw c hc => hcommands w hw c (.tail _ hc)

/-- What one command of a restoration does; it reports an error if it did not take place. -/
theorem spec_tryCommand {command : OS → OS} {w₀ : World OS Snapshot}
    (hw₀ : P w₀) (hdone : P (w₀.mapOS command)) :
    Faulty.Spec (fun w => w = w₀)
      (Faulty.rescue (do
          Faulty.effect (World.mapOS command) .commandFailed
          return none)
        fun error => return some error : Program OS Snapshot (Option ProxyError))
      P fun failed w => P w ∧ (failed = none → w = w₀.mapOS command) := by
  apply Faulty.Spec.rescue
  · apply Faulty.Spec.bind (Q := fun _ w => w = w₀.mapOS command)
    · apply Faulty.spec_effect
      · rintro w rfl
        exact hw₀
      · rintro w rfl
        exact hdone
      · rintro w rfl
        rfl
    · intro _
      apply Faulty.spec_pure
      · rintro w rfl
        exact hdone
      · rintro w rfl
        exact ⟨hdone, fun _ => rfl⟩
  · intro error
    apply Faulty.spec_pure
    · exact fun _ h => h
    · exact fun w hw => ⟨hw, fun h => by cases h⟩

variable {steps : List (RestoreStep OS)}

/-- A restoration keeps what its commands keep. If it succeeds, all of them took place without a
complaint. -/
theorem spec_runSteps (hsteps : ∀ w, P w → ∀ command, .run command ∈ steps → P (w.mapOS command))
    (first : Option ProxyError) {w₀ : World OS Snapshot} (hw₀ : P w₀) :
    Faulty.Spec (fun w => w = w₀) (runSteps steps first) P
      fun _ w => first = none ∧ w = w₀.mapOS (restoreAll steps) := by
  induction steps generalizing first w₀ with
  | nil =>
    cases first with
    | none =>
      apply Faulty.spec_pure
      · rintro w rfl
        exact hw₀
      · rintro w rfl
        exact ⟨rfl, rfl⟩
    | some error =>
      apply Faulty.spec_fail
      rintro w rfl
      exact hw₀
  | cons step rest ih =>
    have hrest : ∀ w, P w → ∀ command, .run command ∈ rest → P (w.mapOS command) :=
      fun w hw command hcommand => hsteps w hw command (.tail _ hcommand)
    cases step with
    | run command =>
      have hdone := hsteps w₀ hw₀ command List.mem_cons_self
      apply Faulty.Spec.bind (spec_tryCommand hw₀ hdone)
      intro failed s hs
      obtain ⟨hP, hnone⟩ := hs
      obtain ⟨hstop, hres⟩ := ih hrest (first.or failed) hP s rfl
      refine ⟨hstop, ?_⟩
      intro a ha
      obtain ⟨hfirst, hst⟩ := hres a ha
      rw [Option.or_eq_none_iff] at hfirst
      refine ⟨hfirst.1, ?_⟩
      rw [hst, hnone hfirst.2]
      rfl
    | complain error =>
      intro s hs
      obtain ⟨hstop, hres⟩ := ih hrest (first.or (some error)) hw₀ s hs
      refine ⟨hstop, ?_⟩
      intro a ha
      have hnone := (hres a ha).1
      rw [Option.or_eq_none_iff] at hnone
      cases hnone.2

theorem runSteps_nil (hsteps : Accepts steps) (w : World OS Snapshot) :
    runSteps steps none ⟨w, []⟩ = (⟨w.mapOS (restoreAll steps), []⟩, .ok ()) := by
  induction steps generalizing w with
  | nil => rfl
  | cons step rest ih =>
    have hrest : Accepts rest := fun error herr => hsteps error (.tail _ herr)
    cases step with
    | run command => exact ih hrest (w.mapOS command)
    | complain error => exact absurd List.mem_cons_self (hsteps error)

/-! ### The invariant -/

structure Settled (before : OS) (w : World OS Snapshot) : Prop where
  remembered : w.before = before
  os : w.os = before
  journal : w.journal = none

/-- The journal holds the settings from before. -/
structure Pending (A : Adapter OS Snapshot) (Good : OS → Prop) (Frame : Snapshot → OS → Prop)
    (before : OS) (snapshot : Snapshot) (w : World OS Snapshot) : Prop where
  remembered : w.before = before
  captured : A.capture before = .ok snapshot
  good : Good before
  journal : w.journal = some (A.journalOf snapshot)
  frame : Frame snapshot w.os

/-- Nothing is pending, or the journal holds the settings from before. -/
def Inv (A : Adapter OS Snapshot) (Good : OS → Prop) (Frame : Snapshot → OS → Prop) (before : OS)
    (w : World OS Snapshot) : Prop :=
  Settled before w ∨ ∃ snapshot, Pending A Good Frame before snapshot w

variable {before : OS}
  {w : World OS Snapshot}

theorem Pending.mapOS {snapshot : Snapshot} {command : OS → OS}
    (h : Pending A Good Frame before snapshot w) (hframe : Frame snapshot (command w.os)) :
    Pending A Good Frame before snapshot (w.mapOS command) :=
  { remembered := h.remembered, captured := h.captured, good := h.good, journal := h.journal
    frame := hframe }

theorem spec_restorePendingSteps (law : Lawful A Good Frame) (snapshot : Snapshot) :
    Faulty.Spec (Pending A Good Frame before snapshot)
      (runSteps (A.restore snapshot) none) (Inv A Good Frame before)
      fun _ w => Pending A Good Frame before snapshot w ∧ w.os = before := by
  intro s hs
  have hkeep : ∀ w, Pending A Good Frame before snapshot w → ∀ command, .run command ∈ A.restore
    snapshot → Pending A Good Frame before snapshot (w.mapOS command) :=
    fun w hw command hcommand => hw.mapOS (law.restored hw.frame hcommand)
  obtain ⟨hstop, hres⟩ := spec_runSteps hkeep none hs s rfl
  refine ⟨.inr ⟨snapshot, hstop⟩, ?_⟩
  intro a ha
  refine ⟨hstop, ?_⟩
  rw [(hres a ha).2]
  exact law.exact hs.captured hs.good hs.frame

theorem spec_restoreLocked (law : Lawful A Good Frame) :
    Faulty.Spec (Inv A Good Frame before) (restoreLocked A) (Inv A Good Frame before)
      fun _ => Settled before := by
  apply Faulty.Spec.bind (Q := fun journal w => w.journal = journal ∧ Inv A Good Frame before w)
  · apply Faulty.spec_inspect
    · exact fun _ h => h
    · intro w journal hw hjournal
      exact ⟨Except.ok.inj hjournal, hw⟩
  · intro journal
    cases journal with
    | none =>
      apply Faulty.spec_pure
      · exact fun _ h => h.2
      · rintro w ⟨hjournal, hset | ⟨snapshot, hpend⟩⟩
        · exact hset
        · rw [hpend.journal] at hjournal
          cases hjournal
    | some journal =>
      -- the journal that was read is the one of a captured snapshot
      intro s hs
      obtain ⟨hjournal, hset | ⟨snapshot, hpend⟩⟩ := hs
      · rw [hset.journal] at hjournal
        cases hjournal
      obtain rfl : A.journalOf snapshot = journal := Option.mem_unique hpend.journal hjournal
      refine Faulty.Spec.bind (P := Pending A Good Frame before snapshot)
        (Q := fun _ => Pending A Good Frame before snapshot) ?_ ?_ s hpend
      · exact Faulty.spec_refuseWhen _ (fun w hw => .inr ⟨snapshot, hw⟩) fun _ hw _ => hw
      · intro _
        apply Faulty.Spec.bind (spec_restorePendingSteps law snapshot)
        intro _
        apply Faulty.spec_effect
        · exact fun w hw => .inr ⟨snapshot, hw.1⟩
        · exact fun w hw => .inl ⟨hw.1.remembered, hw.2, rfl⟩
        · exact fun w hw => ⟨hw.1.remembered, hw.2, rfl⟩

theorem spec_captureSettings :
    Faulty.Spec (Settled before) (captureSettings A) (Inv A Good Frame before)
      fun snapshot w => Settled before w ∧ A.capture before = .ok snapshot := by
  apply Faulty.Spec.bind (Q := fun snapshot w => Settled before w ∧ A.capture before = .ok snapshot)
  · apply Faulty.spec_inspect
    · exact fun _ h => .inl h
    · intro w snapshot hw hcap
      exact ⟨hw, hw.os ▸ hcap⟩
  · intro snapshot
    apply Faulty.Spec.bind (Q := fun _ w => Settled before w ∧ A.capture before = .ok snapshot)
    · have hnote : ∀ w : World OS Snapshot, Settled before w →
          Settled before { w with before := w.os } := fun w hw => ⟨hw.os, hw.os, hw.journal⟩
      apply Faulty.spec_note
      · exact fun w hw => .inl (hnote w hw.1)
      · exact fun w hw => ⟨hnote w hw.1, hw.2⟩
    · intro _
      exact Faulty.spec_pure _ (fun w hw => .inl hw.1) fun w hw => hw

theorem spec_applyProxy (law : Lawful A Good Frame) (hgood : Good before)
    (socksPort httpPort : UInt16) :
    Faulty.Spec (Inv A Good Frame before) (applyProxy A socksPort httpPort)
      (Inv A Good Frame before) fun _ => Inv A Good Frame before := by
  apply Faulty.Spec.bind (spec_restoreLocked law)
  intro _
  apply Faulty.Spec.bind spec_captureSettings
  intro snapshot
  apply Faulty.Spec.bind (Q := fun _ => Pending A Good Frame before snapshot)
  · -- the journal is there before the first command runs
    have hwrite : ∀ w : World OS Snapshot, Settled before w ∧ A.capture before = .ok snapshot →
        Pending A Good Frame before snapshot { w with journal := some (A.journalOf snapshot) } := by
      rintro w ⟨hset, hcap⟩
      exact
        { remembered := hset.remembered, captured := hcap, good := hgood, journal := rfl
          frame := hset.os ▸ law.captured hcap }
    apply Faulty.spec_effect
    · exact fun w hw => .inl hw.1
    · exact fun w hw => .inr ⟨snapshot, hwrite w hw⟩
    · exact hwrite
  · intro _
    have hcommands : Faulty.Spec (Pending A Good Frame before snapshot)
        (runCommands (A.apply snapshot socksPort httpPort)) (Inv A Good Frame before)
        fun _ => Inv A Good Frame before := by
      have hkept : Faulty.Spec (Pending A Good Frame before snapshot)
          (runCommands (A.apply snapshot socksPort httpPort))
          (Pending A Good Frame before snapshot) fun _ => Pending A Good Frame before snapshot :=
        spec_runCommands fun w hw command hcommand => hw.mapOS (law.applied hw.frame hcommand)
      exact hkept.weaken (fun _ h => h) (fun _ h => .inr ⟨snapshot, h⟩)
        fun _ _ h => .inr ⟨snapshot, h⟩
    apply hcommands.rescue
    intro error
    apply Faulty.Spec.bind (Q := fun _ => Inv A Good Frame before)
    · apply Faulty.Spec.rescue
      · exact (spec_restoreLocked law).weaken (fun _ h => h) (fun _ h => h) fun _ _ h => .inl h
      · intro _
        exact Faulty.spec_fail _ fun _ h => h
    · intro _
      exact Faulty.spec_fail _ fun _ h => h

/-! ### Runs -/

/-- An `apply` that finds no journal starts from `Good` settings. -/
def StartsGood (Good : OS → Prop) (w : World OS Snapshot) : Label → Prop
  | .apply .. => w.journal = none → Good w.os
  | .restorePending _ => True

theorem inv_of_run (law : Lawful A Good Frame)
    (h : (system A).Run (StartsGood Good) w) : Inv A Good Frame w.before w := by
  have hinv : ∃ before, Inv A Good Frame before w := by
    refine h.invariant (I := fun w => ∃ before, Inv A Good Frame before w) ?_ ?_
    · rintro w ⟨hjournal, hbef⟩
      exact ⟨w.os, .inl ⟨hbef, rfl, hjournal⟩⟩
    · rintro w label w' ⟨before, hinv⟩ hok hnext
      cases hnext
      refine ⟨before, ?_⟩
      cases label with
      | apply socksPort httpPort faults =>
        have hgood : Good before := by
          rcases hinv with hset | ⟨snapshot, hpend⟩
          · exact hset.os ▸ hok hset.journal
          · exact hpend.good
        exact (spec_applyProxy law hgood socksPort httpPort ⟨w, faults⟩ hinv).1
      | restorePending faults => exact (spec_restoreLocked law ⟨w, faults⟩ hinv).1
  obtain ⟨before, hinv⟩ := hinv
  have hbef : w.before = before := by
    rcases hinv with hset | ⟨snapshot, hpend⟩
    · exact hset.remembered
    · exact hpend.remembered
  exact hbef ▸ hinv

/-- The settings are those from before or the journal holds them; a `restore_pending` that succeeds
brings them back, and without faults it succeeds. -/
structure Recoverable (A : Adapter OS Snapshot) (w : World OS Snapshot) : Prop where
  held : w.os = w.before ∨
    ∃ snapshot, A.capture w.before = .ok snapshot ∧ w.journal = some (A.journalOf snapshot)
  restores : ∀ faults, (restorePending A ⟨w, faults⟩).2 = .ok () →
    (restorePending A ⟨w, faults⟩).1.state.os = w.before ∧
      (restorePending A ⟨w, faults⟩).1.state.journal = none
  succeeds : (restorePending A ⟨w, []⟩).2 = .ok ()

theorem restorePending_nil (law : Lawful A Good Frame)
    (h : Inv A Good Frame w.before w) : (restorePending A ⟨w, []⟩).2 = .ok () := by
  have hread : (readJournal : Program OS Snapshot _) ⟨w, []⟩ = (⟨w, []⟩, .ok w.journal) := rfl
  show (restoreLocked A ⟨w, []⟩).2 = .ok ()
  unfold restoreLocked
  rw [Fallible.bind_of_ok hread]
  rcases h with hset | ⟨snapshot, hpend⟩
  · rw [hset.journal]
    rfl
  have hcompat : (Faulty.refuseWhen (¬ A.compatible (A.journalOf snapshot))
      .recoveryIncompatible : Program OS Snapshot Unit) ⟨w, []⟩ = (⟨w, []⟩, .ok ()) := by
    unfold Faulty.refuseWhen
    rw [if_neg (not_not_intro ⟨rfl, rfl⟩)]
    rfl
  have hsteps := runSteps_nil (law.accepted hpend.captured hpend.good) w
  rw [hpend.journal]
  dsimp only
  rw [Fallible.bind_of_ok hcompat]
  exact congrArg Prod.snd (Fallible.bind_of_ok hsteps)

/-- What one call sets is in force afterwards, and the five options are all there is. -/
def WinInet.Complete (api : WinInet OS) : Prop :=
  ∀ before os, api.set (api.query before).options os = before

theorem windowsAdapter_lawful {api : WinInet OS} (hcomplete : api.Complete) :
    Lawful (windowsAdapter api) (fun _ => True) fun _ _ => True where
  captured _ := trivial
  applied _ _ := trivial
  restored _ _ := trivial
  accepted _ _ error herr := by simp [windowsAdapter] at herr
  exact := by
    rintro before os snapshot hcap - -
    obtain rfl := Except.ok.inj hcap
    exact hcomplete before os

end

/-- The options of one connection and nothing else. -/
def plainInet : WinInet WindowsSnapshot where
  query os := os
  set options os := options.foldl (fun os option => match option with
    | .flags value => { os with flags := value }
    | .proxyServer value => { os with proxyServer := value }
    | .proxyBypass value => { os with proxyOverride := value }
    | .autoConfigUrl value => { os with autoConfigUrl := value }
    | .autoDiscoveryFlags value => { os with autoDiscoveryFlags := value }) os

/-- One service, of which only the web proxy is looked at. Its state command turns it on and off and
leaves its address. -/
def plainSetup : NetworkSetup ProxySnapshot where
  services web := [
    { name := "Wi-Fi", web, secureWeb := ⟨false, "", 0, false⟩, socks := ⟨false, "", 0, false⟩
      autoProxy := ⟨false, none⟩, autoDiscovery := false, bypassDomains := [] }]
  run _ command web := match command with
    | .setProxy .web server port => { web with enabled := true, server, port }
    | .setProxyState .web enabled => { web with enabled }
    | _ => web

/-- Connect is switched on and off, and nothing goes wrong. -/
def onAndOff : List Label := [.apply 10808 10809 [], .restorePending []]

end RealityConsole.Client.SystemProxy
