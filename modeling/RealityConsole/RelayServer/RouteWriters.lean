import RealityConsole.RelayRotation.Loading
import RealityConsole.RelayServer.RouteUpdates

/-!
# The two writers of the routes

`reload` brings a new static configuration, the watcher brings what the registry directory holds.
Both load, apply the routes under one lock and then write what they have applied to fields of their
own. Other writers may come between any two of these steps.
-/

namespace RealityConsole.RelayServer

open Framework Protocol RelayRotation

variable {codec : RouteCodec}

/-- The bytes that are hashed to the recorded fingerprint; distinct bytes have distinct hashes. -/
abbrev Fingerprint (codec : RouteCodec) := Option (List (FileFingerprint codec))

instance [DecidableEq codec.Bytes] : DecidableEq (FileFingerprint codec) := fun a b =>
  decidable_of_iff (a.name = b.name ∧ a.bytes = b.bytes ∧ a.active = b.active) (by
    cases a
    cases b
    simp)

/-- A call of `reload`, by the step that comes next. -/
inductive Reload (codec : RouteCodec) where
  | loading (config : RelayConfig)
  | applying (config : RelayConfig) (routes : List RouteConfig) (fingerprint : Fingerprint codec)
  /-- `static_routes` is written next. -/
  | storing (static : List RouteConfig) (fingerprint : Fingerprint codec)
  /-- `managed_fingerprint` is written next. -/
  | marking (static : List RouteConfig) (fingerprint : Fingerprint codec)

/-- A tick of `run_managed_routes_watcher`, by the step that comes next. -/
inductive Tick (codec : RouteCodec) where
  | sleeping
  | loading (static : List RouteConfig)
  | applying (static routes : List RouteConfig) (fingerprint : Fingerprint codec)
  | marking (fingerprint : Fingerprint codec)

/-- Between its `apply_routes` and its last write. -/
def Reload.committing : Reload codec → Bool
  | .storing .. | .marking .. => true
  | _ => false

def Tick.committing : Tick codec → Bool
  | .marking _ => true
  | _ => false

def Tick.snapshot : Tick codec → Option (List RouteConfig)
  | .loading static => some static
  | _ => none

theorem Tick.snapshot_eq_some {tick : Tick codec} {static : List RouteConfig} :
    tick.snapshot = some static ↔ tick = .loading static := by cases tick <;> simp [snapshot]

structure Writers (codec : RouteCodec) where
  server : ServerConfig
  managedRoutes : Option ManagedRoutesConfig
  /-- `static_routes` -/
  static : List RouteConfig
  /-- `managed_fingerprint` -/
  fingerprint : Fingerprint codec
  relay : RelayState
  reloads : SortedMap Nat (Reload codec)
  tick : Tick codec
  /-- The static routes of the start or of the last reload that has returned without an error. -/
  latest : List RouteConfig

inductive WriterLabel (codec : RouteCodec) where
  | reload (call : Nat) (config : RelayConfig)
  | load (call : Nat) (now : Nat) (directory : List (RouteFile codec))
  | apply (call : Nat) (choices : RelayState.Choices)
  | store (call : Nat)
  | mark (call : Nat)
  | tick
  | tickLoad (now : Nat) (directory : List (RouteFile codec))
  | tickApply (choices : RelayState.Choices)
  | tickMark

namespace Writers

def watched (w : Writers codec) (static : List RouteConfig) : RelayConfig :=
  ⟨w.server, w.managedRoutes, static⟩

def step [DecidableEq codec.Bytes] (w : Writers codec) : WriterLabel codec → Option (Writers codec)
  | .reload call config =>
    if w.reloads.hasKey call then none
    else match config.validate with
      | .error _ => some w
      | .ok () =>
        if config.server ≠ w.server ∨ config.managedRoutes ≠ w.managedRoutes then some w
        else some { w with reloads := w.reloads.store call (.loading config) }
  | .load call now directory =>
    match w.reloads.lookup call with
    | some (.loading config) =>
      match loadEffectiveRoutes config now directory with
      | .ok (routes, fingerprint) =>
        some { w with reloads := w.reloads.store call (.applying config routes fingerprint) }
      | .error _ => some { w with reloads := w.reloads.remove call }
    | _ => none
  | .apply call choices =>
    match w.reloads.lookup call with
    | some (.applying config routes fingerprint) =>
      match w.relay.applyRoutes routes choices with
      | (relay, .ok ()) => some { w with
          relay
          reloads := w.reloads.store call (.storing config.routes fingerprint) }
      | (relay, .error _) => some { w with relay, reloads := w.reloads.remove call }
    | _ => none
  | .store call =>
    match w.reloads.lookup call with
    | some (.storing static fingerprint) =>
      some { w with static, reloads := w.reloads.store call (.marking static fingerprint) }
    | _ => none
  | .mark call =>
    match w.reloads.lookup call with
    | some (.marking static fingerprint) =>
      some { w with fingerprint, reloads := w.reloads.remove call, latest := static }
    | _ => none
  | .tick =>
    match w.tick with
    | .sleeping => some { w with tick := .loading w.static }
    | _ => none
  | .tickLoad now directory =>
    match w.tick with
    | .loading static =>
      match loadEffectiveRoutes (w.watched static) now directory with
      | .ok (routes, fingerprint) =>
        if w.fingerprint = fingerprint then some { w with tick := .sleeping }
        else some { w with tick := .applying static routes fingerprint }
      | .error _ => some { w with tick := .sleeping }
    | _ => none
  | .tickApply choices =>
    match w.tick with
    | .applying _ routes fingerprint =>
      match w.relay.applyRoutes routes choices with
      | (relay, .ok ()) => some { w with relay, tick := .marking fingerprint }
      | (relay, .error _) => some { w with relay, tick := .sleeping }
    | _ => none
  | .tickMark =>
    match w.tick with
    | .marking fingerprint => some { w with fingerprint, tick := .sleeping }
    | _ => none

/-- The routes were loaded from the registry together with the fingerprint. -/
def Loaded (w : Writers codec) (fingerprint : Fingerprint codec) (managed : List RouteConfig) :
    Prop :=
  ∃ static now directory, loadEffectiveRoutes (w.watched static) now directory
    = .ok (static ++ managed, fingerprint)

/-- `configured_routes` holds the static routes and the managed routes of the fingerprint. -/
def Served (w : Writers codec) (static : List RouteConfig) (fingerprint : Fingerprint codec) :
    Prop :=
  ∃ managed, w.Loaded fingerprint managed ∧ w.relay.configured = routeMap (static ++ managed)

/-- No writer is between its `apply_routes` and its last write. -/
def settled (w : Writers codec) : Bool :=
  (w.reloads.all fun entry => !entry.2.committing) && !w.tick.committing

/-- Routes are applied when no other writer is about to write, by the watcher only with the present
static routes. -/
def Orderly (w : Writers codec) : WriterLabel codec → Prop
  | .apply _ _ => w.settled = true
  | .tickApply _ => w.settled = true ∧ match w.tick with
      | .applying static _ _ => static = w.static
      | _ => True
  | _ => True

instance (w : Writers codec) (label : WriterLabel codec) : Decidable (w.Orderly label) := by
  unfold Orderly
  split
  · infer_instance
  · split <;> infer_instance
  · infer_instance

end Writers

/-- The relay has started with a configuration. -/
def writerSystem (codec : RouteCodec) [DecidableEq codec.Bytes] :
    Machine (Writers codec) (WriterLabel codec) where
  init w := w.reloads = [] ∧ w.tick = .sleeping ∧ w.static = w.latest ∧
    w.Served w.latest w.fingerprint
  next := Writers.step

/-! ### What a step keeps -/

theorem Writers.loaded_of_load {w : Writers codec} {cfg : RelayConfig} {now : Nat}
    {dir : List (RouteFile codec)} {routes : List RouteConfig} {fingerprint : Fingerprint codec}
    (hserver : cfg.server = w.server) (hman : cfg.managedRoutes = w.managedRoutes)
    (h : loadEffectiveRoutes cfg now dir = .ok (routes, fingerprint)) : ∃ managed, routes =
    cfg.routes ++ managed ∧ w.Loaded fingerprint managed := by
  have hrest : ∃ managed, routes = cfg.routes ++ managed := by
    unfold loadEffectiveRoutes at h
    split at h
    · cases h
      exact ⟨[], (List.append_nil _).symm⟩
    obtain ⟨snap, h⟩ := rest_ok h
    obtain ⟨-, h⟩ := rest_ok h
    obtain ⟨-, h⟩ := rest_ok h
    cases h
    exact ⟨snap.routes, rfl⟩
  obtain ⟨managed, rfl⟩ := hrest
  refine ⟨managed, rfl, cfg.routes, now, dir, ?_⟩
  rw [watched, ← hserver, ← hman]
  exact h

namespace RelayState

variable {s s' : RelayState} {routes : List RouteConfig} {choices : Choices}

theorem configured_startRoutes (s : RelayState) :
    (s.startRoutes choices routes).1.configured = s.configured := by
  induction routes generalizing s with
  | nil => rfl
  | cons route routes ih =>
    have hone : ∀ now binds, (s.consider route now binds).1.configured = s.configured := by
      intro now binds
      unfold consider
      split_ifs <;> rfl
    unfold startRoutes
    split
    · rename_i t e hcons
      exact (congrArg (·.1.configured) hcons).symm.trans (hone _ _)
    · rename_i t hcons
      exact (ih t).trans ((congrArg (·.1.configured) hcons).symm.trans (hone _ _))

/-- An update replaces the configured routes, or fails and leaves them. -/
theorem configured_applyRoutes {result : Except (Stop RelayError) Unit}
    (h : s.applyRoutes routes choices = (s', result)) :
    s'.configured = if result = .ok () then routeMap routes else s.configured := by
  have hqu : (s.reconcileQuota routes choices.quotaNow choices.quotaFaults).1.configured
      = s.configured := by
    unfold reconcileQuota
    split
    · rfl
    · split_ifs <;> rfl
  unfold applyRoutes at h
  split at h
  · rename_i t stop hrecn
    rw [hrecn] at hqu
    cases h
    exact hqu
  rename_i t hrecn
  rw [hrecn] at hqu
  dsimp only at h hqu
  have hbeg := @configured_startRoutes choices.order choices
    ((t.changedRoutes (routeMap routes)).foldl revoke t)
  rw [(foldl_revoke_frame _ t).1, hqu] at hbeg
  split at h
  · rename_i hstarted
    rw [hstarted] at hbeg
    cases h
    exact hbeg
  · cases h
    rfl

end RelayState

theorem SortedMap.lookup_store_cases {α : Type} {m : SortedMap Nat α} {key other : Nat}
    {value r : α} (h : (m.store key value).lookup other = some r) :
    other = key ∧ r = value ∨ other ≠ key ∧ m.lookup other = some r := by
  rw [SortedMap.lookup_store] at h
  split_ifs at h with hkey
  · exact .inl ⟨hkey, (Option.some.inj h).symm⟩
  · exact .inr ⟨hkey, h⟩

theorem SortedMap.lookup_remove_cases {α : Type} {m : SortedMap Nat α} {key other : Nat} {r : α}
    (h : (m.remove key).lookup other = some r) : other ≠ key ∧ m.lookup other = some r := by
  rw [SortedMap.lookup_remove] at h
  split_ifs at h with hkey
  exact ⟨hkey, h⟩

def Reload.Good (w : Writers codec) : Reload codec → Prop
  | .loading config => config.server = w.server ∧ config.managedRoutes = w.managedRoutes
  | .applying config routes fingerprint =>
    ∃ managed, routes = config.routes ++ managed ∧ w.Loaded fingerprint managed
  | .storing static fingerprint => w.Served static fingerprint
  | .marking static fingerprint => w.static = static ∧ w.Served static fingerprint

def Tick.Good (w : Writers codec) : Tick codec → Prop
  | .applying static routes fingerprint =>
    ∃ managed, routes = static ++ managed ∧ w.Loaded fingerprint managed
  | .marking fingerprint => w.static = w.latest ∧ w.Served w.latest fingerprint
  | _ => True

namespace Writers

variable {w w' : Writers codec}

/-- At most one writer is about to write, and it writes what is configured; without one, everything
that is recorded is configured. -/
structure Consistent (w : Writers codec) : Prop where
  reloads : ∀ call r, w.reloads.lookup call = some r → r.Good w
  tick : w.tick.Good w
  settled : (∀ call r, w.reloads.lookup call = some r → r.committing = false) →
    w.tick.committing = false → w.static = w.latest ∧ w.Served w.latest w.fingerprint
  alone : ∀ call r, w.reloads.lookup call = some r → r.committing = true →
    w.tick.committing = false ∧
      ∀ other r', w.reloads.lookup other = some r' → r'.committing = true → other = call

/-- The tasks of the writers may differ. -/
structure Same (w w' : Writers codec) : Prop where
  server : w'.server = w.server
  managedRoutes : w'.managedRoutes = w.managedRoutes
  static : w'.static = w.static
  fingerprint : w'.fingerprint = w.fingerprint
  latest : w'.latest = w.latest
  configured : w'.relay.configured = w.relay.configured

/-- Where the configured routes do not matter, only the settings of the server do. -/
theorem reload_of_settings {r : Reload codec} (h : r.Good w) (hr : r.committing = false)
    (hserver : w'.server = w.server) (hman : w'.managedRoutes = w.managedRoutes) :
    r.Good w' := by cases r <;> simp_all [Reload.Good, Reload.committing, Loaded, watched]

theorem tick_of_settings {r : Tick codec} (h : r.Good w) (hr : r.committing = false)
    (hserver : w'.server = w.server) (hman : w'.managedRoutes = w.managedRoutes) :
    r.Good w' := by cases r <;> simp_all [Tick.Good, Tick.committing, Loaded, watched]

/-- A step that only concerns tasks before their `apply_routes`. -/
theorem Consistent.quiet (h : Consistent w) (hsame : Same w w')
    (hreloads : ∀ call r, w'.reloads.lookup call = some r →
      w.reloads.lookup call = some r ∨ r.Good w ∧ r.committing = false)
    (hkept : ∀ call r, w.reloads.lookup call = some r → r.committing →
      w'.reloads.lookup call = some r)
    (htick : w'.tick.Good w) (hcommit : w'.tick.committing = w.tick.committing) :
    Consistent w' := by
  obtain ⟨hserver, hman, hstatic, hprint, hlatest, hconf⟩ := hsame
  have hserved : ∀ static fingerprint,
      w'.Served static fingerprint ↔ w.Served static fingerprint := by
    intro static fingerprint
    simp only [Served, Loaded, watched, hserver, hman, hconf]
  constructor
  · intro call r hr
    have hgood : r.Good w := (hreloads call r hr).elim (h.reloads call r) And.left
    cases r <;> simp_all [Reload.Good, Loaded, watched]
  · revert htick
    cases w'.tick <;> simp_all [Tick.Good, Loaded, watched]
  · intro hnone hqt
    rw [hstatic, hlatest, hprint, hserved]
    exact h.settled (by grind) (hcommit ▸ hqt)
  · have halone := h.alone
    grind

/-- A call that is not committing begins, goes on or ends. -/
theorem Consistent.replaced (h : Consistent w) (hsame : Same w w') (htick : w'.tick = w.tick)
    {call : Nat} {new : Option (Reload codec)}
    (hcall : ∀ task, w.reloads.lookup call = some task → task.committing = false)
    (hlook : ∀ other, w'.reloads.lookup other
      = if other = call then new else w.reloads.lookup other)
    (hnew : ∀ task, new = some task → task.Good w ∧ task.committing = false) : Consistent w' := by
  refine h.quiet hsame (fun other r hr => ?_) (fun other r hr hcommits => ?_)
    (htick ▸ h.tick) (congrArg Tick.committing htick)
  · rw [hlook] at hr
    split_ifs at hr
    · exact .inr (hnew r hr)
    · exact .inl hr
  · rw [hlook, if_neg]
    · exact hr
    · rintro rfl
      cases (hcall r hr).symm.trans hcommits

theorem Consistent.commit (h : Consistent w) {call : Nat} {task : Reload codec}
    (hserver : w'.server = w.server) (hman : w'.managedRoutes = w.managedRoutes)
    (hreloads : w'.reloads = w.reloads.store call task) (htick : w'.tick = w.tick)
    (hqt : w.tick.committing = false)
    (hots : ∀ other r, w.reloads.lookup other = some r → other ≠ call → r.committing = false)
    (htask : task.committing) (hgood : task.Good w') : Consistent w' := by
  have hcs : ∀ other r, w'.reloads.lookup other = some r →
      other = call ∧ r = task ∨ r.Good w' ∧ r.committing = false := by
    intro other r hr
    rw [hreloads] at hr
    rcases SortedMap.lookup_store_cases hr with hcall | ⟨hne, hold⟩
    · exact .inl hcall
    · have hnot := hots other r hold hne
      exact .inr ⟨reload_of_settings (h.reloads other r hold) hnot hserver hman, hnot⟩
  refine ⟨fun other r hr => ?_, htick ▸ tick_of_settings h.tick hqt hserver hman,
    fun hnot => ?_, fun other r hr hcommits => ⟨htick ▸ hqt, by grind⟩⟩
  · rcases hcs other r hr with ⟨-, rfl⟩ | ⟨hgood, -⟩
    · exact hgood
    · exact hgood
  · have hfound := hnot call task (by rw [hreloads, SortedMap.lookup_store, if_pos rfl])
    cases hfound.symm.trans htask

theorem Consistent.idle (h : Consistent w) (hserver : w'.server = w.server)
    (hman : w'.managedRoutes = w.managedRoutes)
    (hreloads : ∀ call r, w'.reloads.lookup call = some r →
      w.reloads.lookup call = some r ∧ r.committing = false)
    (htick : w'.tick.Good w') (hset : w'.tick.committing = false →
      w'.static = w'.latest ∧ w'.Served w'.latest w'.fingerprint) : Consistent w' := by
  refine ⟨fun call r hr => ?_, htick, fun _ => hset, fun call r hr hcommits => ?_⟩
  · obtain ⟨hold, hnot⟩ := hreloads call r hr
    exact reload_of_settings (h.reloads call r hold) hnot hserver hman
  · cases (hreloads call r hr).2.symm.trans hcommits

theorem not_committing (h : w.settled) :
    (∀ call r, w.reloads.lookup call = some r → r.committing = false) ∧
      w.tick.committing = false := by
  simp only [Writers.settled, Bool.and_eq_true, List.all_eq_true, Bool.not_eq_true'] at h
  exact ⟨fun call r hr => h.1 _ (SortedMap.mem_of_lookup hr), h.2⟩

variable [DecidableEq codec.Bytes] {label : WriterLabel codec}

theorem Consistent.step (h : Consistent w) (hok : w.Orderly label)
    (hstep : w.step label = some w') : Consistent w' := by
  cases label with
  | load call now directory =>
    simp only [Writers.step] at hstep
    split at hstep
    · rename_i cfg hcall
      obtain ⟨hserver, hman⟩ := h.reloads call _ hcall
      have hloading : ∀ task, w.reloads.lookup call = some task → task.committing = false := by
        simp [hcall, Reload.committing]
      split at hstep <;> obtain rfl := Option.some.inj hstep
      · rename_i hload
        refine h.replaced ⟨rfl, rfl, rfl, rfl, rfl, rfl⟩ rfl hloading
          (fun _ => SortedMap.lookup_store ..) ?_
        rintro _ ⟨⟩
        exact ⟨loaded_of_load hserver hman hload, rfl⟩
      · exact h.replaced ⟨rfl, rfl, rfl, rfl, rfl, rfl⟩ rfl hloading
          (fun _ => SortedMap.lookup_remove ..) (by simp)
    · cases hstep
  | apply call choices =>
    obtain ⟨hnone, hqt⟩ := not_committing hok
    simp only [Writers.step] at hstep
    split at hstep
    · rename_i cfg routes fingerprint hcall
      split at hstep <;> obtain rfl := Option.some.inj hstep <;> rename_i happly <;>
        have hconf := RelayState.configured_applyRoutes happly
      · obtain ⟨managed, rfl, hloaded⟩ := h.reloads call _ hcall
        exact h.commit rfl rfl rfl rfl hqt (fun other r hr _ => hnone other r hr) rfl
          ⟨managed, hloaded, hconf⟩
      · exact h.replaced ⟨rfl, rfl, rfl, rfl, rfl, hconf⟩ rfl (hnone call)
          (fun _ => SortedMap.lookup_remove ..) (by simp)
    · cases hstep
  | reload call cfg =>
    simp only [Writers.step] at hstep
    split at hstep
    · cases hstep
    rename_i hfresh
    split at hstep
    · exact Option.some.inj hstep ▸ h
    split at hstep
    · exact Option.some.inj hstep ▸ h
    rename_i hsets
    rw [not_or, not_not, not_not] at hsets
    cases hstep
    refine h.replaced ⟨rfl, rfl, rfl, rfl, rfl, rfl⟩ rfl (fun task hcall => ?_)
      (fun _ => SortedMap.lookup_store ..) ?_
    · exact absurd (by rw [SortedMap.hasKey, hcall]; rfl) hfresh
    · rintro _ ⟨⟩
      exact ⟨hsets, rfl⟩
  | store call =>
    simp only [Writers.step] at hstep
    split at hstep
    · rename_i static fingerprint hcall
      obtain ⟨hqt, halone⟩ := h.alone call _ hcall rfl
      cases hstep
      refine h.commit rfl rfl rfl rfl hqt (fun other r hr hne => ?_) rfl
        ⟨rfl, h.reloads call _ hcall⟩
      by_contra hcommits
      exact hne (halone other r hr (Bool.eq_true_of_not_eq_false hcommits))
    · cases hstep
  | mark call =>
    simp only [Writers.step] at hstep
    split at hstep
    · rename_i static fingerprint hcall
      obtain ⟨hqt, halone⟩ := h.alone call _ hcall rfl
      obtain ⟨hstatic, hserved⟩ := h.reloads call _ hcall
      cases hstep
      refine h.idle rfl rfl (fun other r hr => ?_) (tick_of_settings h.tick hqt rfl rfl)
        fun _ => ⟨hstatic, hserved⟩
      obtain ⟨hne, hold⟩ := SortedMap.lookup_remove_cases hr
      refine ⟨hold, ?_⟩
      by_contra hcommits
      exact hne (halone other r hold (Bool.eq_true_of_not_eq_false hcommits))
    · cases hstep
  | tick =>
    simp only [Writers.step] at hstep
    split at hstep
    · rename_i hsleeping
      cases hstep
      exact h.quiet ⟨rfl, rfl, rfl, rfl, rfl, rfl⟩ (fun _ _ => .inl) (fun _ _ hr _ => hr) trivial
        (congrArg Tick.committing hsleeping).symm
    · cases hstep
  | tickLoad now directory =>
    simp only [Writers.step] at hstep
    split at hstep
    · rename_i static hloading
      have hends : Consistent { w with tick := .sleeping } :=
        h.quiet ⟨rfl, rfl, rfl, rfl, rfl, rfl⟩ (fun _ _ => .inl) (fun _ _ hr _ => hr) trivial
          (congrArg Tick.committing hloading).symm
      split at hstep
      · rename_i hload
        split at hstep <;> obtain rfl := Option.some.inj hstep
        · exact hends
        · exact h.quiet ⟨rfl, rfl, rfl, rfl, rfl, rfl⟩ (fun _ _ => .inl) (fun _ _ hr _ => hr)
            (loaded_of_load rfl rfl hload) (congrArg Tick.committing hloading).symm
      · exact Option.some.inj hstep ▸ hends
    · cases hstep
  | tickApply choices =>
    obtain ⟨hok, hcur⟩ := hok
    obtain ⟨hnone, -⟩ := not_committing hok
    simp only [Writers.step] at hstep
    split at hstep
    · rename_i static routes fingerprint happlying
      have hgood := h.tick
      rw [happlying] at hcur hgood
      obtain ⟨managed, rfl, hloaded⟩ := hgood
      have hqt : w.tick.committing = false := by rw [happlying]; rfl
      split at hstep <;> obtain rfl := Option.some.inj hstep <;> rename_i happly <;>
        have hconf := RelayState.configured_applyRoutes happly
      · have hlatest := (h.settled hnone hqt).1
        rw [show static = w.latest from hcur.trans hlatest] at hconf
        exact h.idle rfl rfl (fun other r hr => ⟨hr, hnone other r hr⟩)
          ⟨hlatest, managed, hloaded, hconf⟩ (by rintro ⟨⟩)
      · exact h.quiet ⟨rfl, rfl, rfl, rfl, rfl, hconf⟩ (fun _ _ => .inl) (fun _ _ hr _ => hr)
          trivial hqt.symm
    · cases hstep
  | tickMark =>
    simp only [Writers.step] at hstep
    split at hstep
    · rename_i fingerprint hmarking
      have hgood := h.tick
      rw [hmarking] at hgood
      cases hstep
      refine h.idle rfl rfl (fun call r hr => ⟨hr, ?_⟩) trivial fun _ => hgood
      by_contra hcommits
      have hqt := (h.alone call r hr (Bool.eq_true_of_not_eq_false hcommits)).1
      rw [hmarking] at hqt
      cases hqt
    · cases hstep

/-- If routes are applied only while no other writer is about to write, and by the watcher only with
the present static routes, the configured routes are those of the last reload and of the recorded
fingerprint whenever no writer is at work. So a tick that finds the fingerprint unchanged may leave
them. -/
theorem no_lost_route_update (h : (writerSystem codec).Run Orderly w) :
    (w.settled = true → w.Served w.latest w.fingerprint) ∧
    ∀ static now directory routes, w.reloads = [] → w.tick = .loading static →
      loadEffectiveRoutes (w.watched static) now directory = .ok (routes, w.fingerprint) →
      w.Served w.latest w.fingerprint := by
  have hconsistent : Consistent w := by
    refine h.invariant (fun a ha => ?_) fun _ _ _ hinv hok hnext => hinv.step hok hnext
    obtain ⟨hreloads, htick, hstatic, hserved⟩ := ha
    refine ⟨fun call r hr => ?_, ?_, fun _ _ => ⟨hstatic, hserved⟩, fun call r hr => ?_⟩
    · rw [hreloads] at hr
      cases hr
    · rw [htick]
      trivial
    · rw [hreloads] at hr
      cases hr
  constructor
  · intro hset
    obtain ⟨hnone, hqt⟩ := not_committing hset
    exact (hconsistent.settled hnone hqt).2
  · intro static _ _ _ hreloads htick _
    refine (hconsistent.settled (fun call r hr => ?_) ?_).2
    · rw [hreloads] at hr
      cases hr
    · rw [htick]
      rfl

/-! ### A reload during a tick -/

instance : DecidableEq plainCodec.Bytes := inferInstanceAs (DecidableEq SignedRelayRoute)

def started : Writers plainCodec where
  server := sampleRelay.server
  managedRoutes := sampleRelay.managedRoutes
  static := []
  fingerprint := some []
  relay := RelayState.initial
  reloads := []
  tick := .sleeping
  latest := []

/-- A grant that is not yet active. -/
def upcoming : List (RouteFile plainCodec) :=
  [fileOf plainCodec (SignedRelayRoute.sign 7 (sampleHeader 1 11 1 11 20000 1000) 1 2)]

def withRoute : RelayConfig := { sampleRelay with routes := [RelayState.firstRoute] }

def wholeReload : List (WriterLabel plainCodec) :=
  [.reload 0 withRoute, .load 0 0 upcoming,
    .apply 0 (RelayState.visiting [RelayState.firstRoute] []), .store 0, .mark 0]

theorem started_served : started.Served [] (some []) :=
  ⟨[], ⟨[], 0, [], rfl⟩, rfl⟩

theorem routeMap_cons_ne_nil (route : RouteConfig) (routes : List RouteConfig) :
    routeMap (route :: routes) ≠ [] := by
  refine List.foldlRecOn (motive := (· ≠ [])) (routes.map fun route => (route.routeId, route)) _
    (List.cons_ne_nil (route.routeId, route) []) fun map _ entry _ => ?_
  cases map with
  | nil => exact List.cons_ne_nil _ _
  | cons first rest =>
    simp only [SortedMap.store]
    split_ifs <;> exact List.cons_ne_nil _ _

/-- The watcher has loaded when a reload comes and returns. Then the watcher applies what it has,
without the route of the reload, and its next tick finds nothing changed. -/
theorem watcher_reverts_reload : ∃ w static now directory routes,
    (writerSystem plainCodec).Reachable w ∧ w.reloads = [] ∧ w.tick = .loading static ∧
      loadEffectiveRoutes (w.watched static) now directory = .ok (routes, w.fingerprint) ∧
      w.latest = [RelayState.firstRoute] ∧ ¬ w.Served w.latest w.fingerprint := by
  obtain ⟨w, hrun, hreloads, htick, hload, hlatest, hconfigured⟩ := Machine.run_of_exec
    (M := writerSystem plainCodec) (fun _ _ => True)
    (fun w => w.reloads.isEmpty = true ∧
      w.tick.snapshot = some [RelayState.firstRoute] ∧
      (loadEffectiveRoutes (w.watched [RelayState.firstRoute]) 0 upcoming).toOption
        = some ([RelayState.firstRoute], w.fingerprint) ∧
      w.latest = [RelayState.firstRoute] ∧ w.relay.configured = [])
    ([.tick, .tickLoad 0 upcoming] ++ wholeReload ++
      [.tickApply (RelayState.visiting [] []), .tickMark, .tick])
    (s := started) ⟨rfl, rfl, rfl, started_served⟩ (by decide +kernel)
  refine ⟨w, [RelayState.firstRoute], 0, upcoming, [RelayState.firstRoute], hrun,
    List.isEmpty_iff.1 hreloads, ?_, toOption_some.1 hload, hlatest, ?_⟩
  · exact Tick.snapshot_eq_some.1 htick
  · rintro ⟨managed, -, hserved⟩
    rw [hconfigured, hlatest] at hserved
    exact routeMap_cons_ne_nil _ _ hserved.symm

/-- The same writers, one after the other. -/
theorem reload_after_tick : ∃ w, (writerSystem plainCodec).Run Orderly w ∧
    w.latest = [RelayState.firstRoute] ∧ w.Served w.latest w.fingerprint := by
  obtain ⟨w, hrun, hset, hlatest⟩ := Machine.run_of_exec (M := writerSystem plainCodec) Orderly
    (fun w => w.settled = true ∧ w.latest = [RelayState.firstRoute])
    ([.tick, .tickLoad 0 upcoming, .tickApply (RelayState.visiting [] []), .tickMark] ++
      wholeReload)
    (s := started) ⟨rfl, rfl, rfl, started_served⟩ (by decide +kernel)
  exact ⟨w, hrun, hlatest, (no_lost_route_update hrun).1 hset⟩

end Writers

end RealityConsole.RelayServer
