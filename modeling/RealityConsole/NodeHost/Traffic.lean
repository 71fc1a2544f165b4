import RealityConsole.NodeHost.Spool

/-!
# Traffic collection of a node host

The collector samples the counters of the running Xray process, adds the increase of each user to a
pending delta and to the provider's monthly usage, and moves pending deltas into the spool.

Source: `node-host/src/telemetry.rs` and `policy.rs`.
-/

namespace RealityConsole.NodeHost

open Protocol Framework

/-! ### Monthly usage -/

/-- The last second that a timestamp can express, in the year 9999. -/
def maxUnixTimestamp : Nat := 253402300799

/-- `month_key`: the months since year 0 of the civil calendar. -/
def monthKey (unixSeconds : Nat) : Nat :=
  let (year, month, _) := civilDate (unixSeconds / 86400)
  year * 12 + month - 1

/-- The row of `provider_month_usage`; the empty month is `none`. -/
structure MonthUsage where
  utcMonth : Option Nat
  observedBytes : Count
  clockHighWatermark : Nat
  lastObservedAt : Option Nat

/-- `record_usage_delta_in_transaction` -/
def recordUsageDelta (usage : MonthUsage) (delta : Count) (observedAt : Nat) :
    Except SpoolError MonthUsage := do
  let effective := max observedAt usage.clockHighWatermark
  refuseWhen (maxUnixTimestamp < effective) .timestampOutOfRange
  let base := if usage.utcMonth.all (· < monthKey effective) then Count.zero
    else usage.observedBytes
  match base.checkedAdd delta with
  | none => .error .usageOverflow
  | some total => .ok ⟨some (monthKey effective), total, effective, some observedAt⟩

/-! ### State -/

/-- Stable collection status codes. -/
inductive StatusCode where
  | unavailable
  | invalidOutput
  | restarted
  | counterReset
  deriving DecidableEq, Repr

def StatusCode.text : StatusCode → String
  | unavailable => "xray_stats_unavailable"
  | invalidOutput => "xray_stats_invalid_output"
  | restarted => "xray_stats_restarted"
  | counterReset => "xray_stats_counter_reset"

/-- A row of `xray_user_traffic_counters`, and an entry of a snapshot. -/
structure UserCounter where
  userId : UserId
  uplink : Count
  downlink : Count

/-- A counter as the Stats API reports it. -/
structure CollectedUserCounter where
  userId : UserId
  uplink : Int
  downlink : Int

/-- A row of `provider_pending_traffic_delta`. -/
structure PendingDelta where
  userId : UserId
  bytesUp : Count
  bytesDown : Count
  observedAt : Nat

structure AppliedState where
  revision : Revision
  users : List DesiredUser

/-- The node's tables that traffic collection reads and writes. -/
structure Traffic where
  spool : Spool
  /-- `xray_active_state.applied_revision` and the artifact it names. -/
  applied : Option AppliedState
  /-- `xray_active_state.generation`: advances whenever a process is started. -/
  generation : Nat
  /-- `xray_traffic_collection_state.runtime_generation` -/
  collectedGeneration : Option Nat
  /-- `xray_traffic_collection_state.last_status_code` -/
  lastStatus : Option StatusCode
  counters : List UserCounter
  pending : List PendingDelta
  usage : MonthUsage

/-- Where and about whom to query the running process. -/
structure StatsQueryTarget where
  revision : Revision
  runtimeGeneration : Nat
  users : List UserId

namespace Traffic

def initial : Traffic where
  spool := .empty
  applied := none
  generation := 0
  collectedGeneration := none
  lastStatus := none
  counters := []
  pending := []
  usage := ⟨none, .zero, 0, none⟩

/-- The users the running configuration serves. -/
def enabledUsers (t : Traffic) : List UserId :=
  (t.applied.map fun a => (a.users.filter (·.enabled)).map (·.userId)).getD []

def loadStatsQueryTarget (t : Traffic) : Except SpoolError (Option StatsQueryTarget) :=
  match t.applied with
  | none => .ok none
  | some applied => do
    refuseWhen (t.generation = 0) .runtimeGenerationInvalid
    .ok (some ⟨applied.revision, t.generation, t.enabledUsers⟩)

end Traffic

/-! ### Sampling -/

/-- A reported counter, if it is not negative. -/
def CollectedUserCounter.counter? (c : CollectedUserCounter) : Option UserCounter :=
  match Count.new c.uplink, Count.new c.downlink with
  | some uplink, some downlink => some ⟨c.userId, uplink, downlink⟩
  | _, _ => none

/-- `normalize_snapshot`: one counter for every served user; nothing if a counter is negative, comes
twice or is about someone else. -/
def normalizeSnapshot (target : StatsQueryTarget) (reported : List CollectedUserCounter) :
    Option (List UserCounter) :=
  if (reported.map (·.userId)).Nodup ∧ (∀ c ∈ reported, c.userId ∈ target.users)
      ∧ ∀ c ∈ reported, c.counter?.isSome then
    some (target.users.map fun user =>
      ((reported.find? fun c => c.userId = user).bind (·.counter?)).getD
        ⟨user, .zero, .zero⟩)
  else none

def previousCounter (counters : List UserCounter) (user : UserId) : Option UserCounter :=
  counters.find? fun c => c.userId = user

/-- A counter that went backwards since it was stored. -/
def UserCounter.isReset (c previous : UserCounter) : Bool :=
  c.uplink.get < previous.uplink.get || c.downlink.get < previous.downlink.get

def enqueueStatus (enc : EventEncoding) (spool : Spool) (status : Option StatusCode)
    (recovered : Bool) (now : Nat) : Except SpoolError Spool :=
  match status with
  | some code => spool.enqueueInTransaction enc (.collectionStatus code.text recovered) now now
  | none => .ok spool

/-- `record_status_transition`; also the two events of a collection failure. -/
def recordStatusTransition (enc : EventEncoding) (spool : Spool)
    (previous current : Option StatusCode) (now : Nat) : Except SpoolError Spool :=
  if previous = current then .ok spool
  else do
    let closed ← enqueueStatus enc spool previous true now
    enqueueStatus enc closed current false now

def accumulatePendingTraffic (pending : List PendingDelta) (user : UserId)
    (bytesUp bytesDown : Count) (observedAt : Nat) : Except SpoolError (List PendingDelta) :=
  let previous := pending.find? fun p => p.userId = user
  let previousUp := (previous.map (·.bytesUp)).getD .zero
  let previousDown := (previous.map (·.bytesDown)).getD .zero
  match previousUp.checkedAdd bytesUp, previousDown.checkedAdd bytesDown with
  | some totalUp, some totalDown =>
    .ok ((pending.filter fun p => p.userId ≠ user) ++ [⟨user, totalUp, totalDown, observedAt⟩])
  | _, _ => .error .pendingOverflow

/-- The loop of `apply_counter_snapshot` over the users of the sample: pending deltas and the
provider's usage. -/
def accumulateTraffic (counters : List UserCounter) (now : Nat) :
    List UserCounter → List PendingDelta × Count → Except SpoolError (List PendingDelta × Count)
  | [], acc => .ok acc
  | c :: rest, (pending, usage) =>
    match previousCounter counters c.userId with
    | none => accumulateTraffic counters now rest (pending, usage)
    | some previous =>
      let up := c.uplink.sub previous.uplink
      let down := c.downlink.sub previous.downlink
      if c.isReset previous ∨ (up = .zero ∧ down = .zero) then
        accumulateTraffic counters now rest (pending, usage)
      else do
        let accumulated ← accumulatePendingTraffic pending c.userId up down now
        match (usage.checkedAdd up).bind (·.checkedAdd down) with
        | none => .error .usageOverflow
        | some total => accumulateTraffic counters now rest (accumulated, total)

def sampleStatus (t : Traffic) (target : StatsQueryTarget) (snapshot : List UserCounter) :
    Option StatusCode :=
  if t.collectedGeneration.any (· ≠ target.runtimeGeneration) then some .restarted
  else if t.collectedGeneration = some target.runtimeGeneration
      ∧ snapshot.any (fun c => (previousCounter t.counters c.userId).any c.isReset) then
    some .counterReset
  else none

/-- The first transaction of `apply_counter_snapshot`. -/
def recordSample (enc : EventEncoding) (t : Traffic) (target : StatsQueryTarget)
    (snapshot : List UserCounter) (now : Nat) : Except SpoolError Traffic := do
  refuseWhen (t.applied.map (·.revision) ≠ some target.revision
      ∨ t.generation ≠ target.runtimeGeneration) .runtimeChanged
  let status := sampleStatus t target snapshot
  let spool ← recordStatusTransition enc (t.spool.purgeAcknowledged now) t.lastStatus status now
  -- deltas are taken only within one run of the process
  let sampled := if t.collectedGeneration = some target.runtimeGeneration then snapshot else []
  let (pending, delta) ← accumulateTraffic t.counters now sampled (t.pending, .zero)
  let usage ← recordUsageDelta t.usage delta now
  .ok { t with
    spool, pending, usage, counters := snapshot
    collectedGeneration := some target.runtimeGeneration, lastStatus := status }

/-- The loop of `flush_pending_traffic`; it stops at the first event that does not fit into the
spool. -/
def flushRows (enc : EventEncoding) (now fallback : Nat) : List PendingDelta → Traffic → Traffic
  | [], t => t
  | p :: rest, t =>
    let occurredAt := if p.observedAt ≤ maxUnixTimestamp then p.observedAt else fallback
    -- cumulative counters do not expose connection boundaries
    match t.spool.enqueueInTransaction enc (.trafficDelta p.userId p.bytesUp p.bytesDown .zero)
        occurredAt now with
    | .error _ => t
    | .ok spool =>
      flushRows enc now fallback rest
        { t with spool, pending := t.pending.filter fun q => q.userId ≠ p.userId }

/-- `flush_pending_traffic`: the first 64 users in the order of their ids. -/
def flushPendingTraffic (enc : EventEncoding) (t : Traffic) (fallback now : Nat) : Traffic :=
  let rows := (t.pending.insertionSort fun a b => a.userId ≤ b.userId).take 64
  flushRows enc now fallback rows { t with spool := t.spool.purgeAcknowledged now }

def persistCollectionFailure (enc : EventEncoding) (t : Traffic) (code : StatusCode)
    (now : Nat) : Except SpoolError Traffic := do
  let spool ← recordStatusTransition enc (t.spool.purgeAcknowledged now) t.lastStatus (some code)
    now
  .ok { t with spool, lastStatus := some code }

/-- `collect_target_with` on the answer of the Stats API, `none` if it failed. -/
def collectTarget (enc : EventEncoding) (t : Traffic) (target : StatsQueryTarget)
    (answer : Option (List CollectedUserCounter)) (now flushedAt : Nat) :
    Except SpoolError Traffic :=
  match answer with
  | none => persistCollectionFailure enc t .unavailable now
  | some reported =>
    match normalizeSnapshot target reported with
    | none => persistCollectionFailure enc t .invalidOutput now
    | some snapshot => do
      let sampled ← recordSample enc t target snapshot now
      .ok (flushPendingTraffic enc sampled now flushedAt)

def collectXrayTraffic (enc : EventEncoding) (t : Traffic)
    (answer : Option (List CollectedUserCounter)) (now flushedAt : Nat) :
    Except SpoolError Traffic := do
  match ← t.loadStatsQueryTarget with
  | none => .ok t
  | some target => collectTarget enc t target answer now flushedAt

def recordTelemetryEvent (enc : EventEncoding) (t : Traffic) (kind : TelemetryEventKind)
    (now : Nat) : Except SpoolError Traffic := do
  let spool ← t.spool.enqueue enc kind now now
  .ok { t with spool }

/-! ### Whom the spooled events are about -/

/-- The answer shows a higher counter for the user than the node has stored. -/
def Counted (t : Traffic) (reported : List CollectedUserCounter) (user : UserId) : Prop :=
  ∃ c ∈ reported, c.userId = user ∧ ∃ previous ∈ t.counters, previous.userId = user ∧
    ((previous.uplink.get : Int) < c.uplink ∨ (previous.downlink.get : Int) < c.downlink)

/-- The users with a pending delta, and the served users whose reported counters have grown. -/
def Accounted (t : Traffic) (reported : List CollectedUserCounter) (user : UserId) : Prop :=
  (∃ p ∈ t.pending, p.userId = user) ∨ (user ∈ t.enabledUsers ∧ Counted t reported user)

def isStatus (kind : TelemetryEventKind) : Prop := kind.userId? = none

variable {enc : EventEncoding} {now : Nat} {spool spool' : Spool}

theorem enqueueStatus_extends {status : Option StatusCode} {recovered : Bool}
    (h : enqueueStatus enc spool status recovered now = .ok spool') :
    Spool.Extends enc isStatus spool spool' := by
  cases status with
  | none =>
    cases h
    exact .refl
  | some code =>
    have hkind : isStatus (.collectionStatus code.text recovered) := rfl
    exact .enqueue .refl hkind h

theorem recordStatusTransition_extends {prev cur : Option StatusCode}
    (h : recordStatusTransition enc spool prev cur now = .ok spool') :
    Spool.Extends enc isStatus spool spool' := by
  unfold recordStatusTransition at h
  split at h
  · cases h
    exact .refl
  · obtain ⟨closed, hclo, hopened⟩ := bind_ok.1 h
    exact (enqueueStatus_extends hclo).trans (enqueueStatus_extends hopened)

theorem mem_accumulatePending {pending pending' : List PendingDelta} {user : UserId}
    {up down : Count} (h : accumulatePendingTraffic pending user up down now = .ok pending') :
    ∀ p ∈ pending', p ∈ pending ∨ p.userId = user := by
  simp only [accumulatePendingTraffic] at h
  split at h
  · cases h
    intro p hp
    rcases List.mem_append.1 hp with hp | hp
    · exact .inl (List.mem_of_mem_filter hp)
    · rw [List.mem_singleton.1 hp]
      exact .inr rfl
  · cases h

/-- A counter of the sample is above the stored one. -/
def Grew (counters : List UserCounter) (c : UserCounter) : Prop :=
  ∃ previous ∈ counters, previous.userId = c.userId ∧
    (previous.uplink.get < c.uplink.get ∨ previous.downlink.get < c.downlink.get)

theorem grew_of_delta {counters : List UserCounter} {c prev : UserCounter}
    (hprev : previousCounter counters c.userId = some prev)
    (h : ¬(c.isReset prev ∨
      (c.uplink.sub prev.uplink = .zero ∧ c.downlink.sub prev.downlink = .zero))) :
    Grew counters c := by
  refine ⟨prev, List.mem_of_find?_eq_some hprev, by
    simpa using List.find?_some hprev, ?_⟩
  by_contra hnot
  have hreset : c.isReset prev = false := by
    cases hr : c.isReset prev with
    | false => rfl
    | true => exact absurd (.inl hr) h
  refine h (.inr ⟨?_, ?_⟩)
  · simp only [Count.sub, Count.zero, Count.mk.injEq]
    omega
  · simp only [Count.sub, Count.zero, Count.mk.injEq]
    omega

/-- The loop adds pending deltas only for users whose counters have grown. -/
theorem mem_accumulateTraffic {counters snapshot : List UserCounter}
    {acc acc' : List PendingDelta × Count}
    (h : accumulateTraffic counters now snapshot acc = .ok acc') :
    ∀ p ∈ acc'.1, p ∈ acc.1 ∨ ∃ c ∈ snapshot, c.userId = p.userId ∧ Grew counters c := by
  induction snapshot generalizing acc with
  | nil =>
    cases h
    intro p hp
    exact .inl hp
  | cons c rest ih =>
    obtain ⟨pending, usage⟩ := acc
    -- the head either is skipped or adds to the delta of its own user
    have hrest : ∀ {acc₀ : List PendingDelta × Count},
        accumulateTraffic counters now rest acc₀ = .ok acc' →
        (∀ p ∈ acc₀.1, p ∈ pending ∨ (c.userId = p.userId ∧ Grew counters c)) →
        ∀ p ∈ acc'.1, p ∈ pending ∨ ∃ d ∈ c :: rest, d.userId = p.userId ∧ Grew counters d := by
      intro acc₀ hloop hacc₀ p hp
      rcases ih hloop p hp with hold | ⟨d, hd, hgrew⟩
      · rcases hacc₀ p hold with hold | hhead
        · exact .inl hold
        · exact .inr ⟨c, .head _, hhead⟩
      · exact .inr ⟨d, .tail _ hd, hgrew⟩
    unfold accumulateTraffic at h
    cases hprev : previousCounter counters c.userId with
    | none =>
      rw [hprev] at h
      exact hrest h fun p hp => .inl hp
    | some previous =>
      simp only [hprev] at h
      split at h
      · exact hrest h fun p hp => .inl hp
      rename_i hdelta
      obtain ⟨accumulated, hacc, h⟩ := bind_ok.1 h
      split at h
      · cases h
      refine hrest h ?_
      intro p hp
      rcases mem_accumulatePending hacc p hp with hold | huser
      · exact .inl hold
      · exact .inr ⟨huser.symm, grew_of_delta hprev hdelta⟩

variable {target : StatsQueryTarget}
  {reported : List CollectedUserCounter} {snapshot : List UserCounter} {t : Traffic}

theorem counted_of_grew (hsnap : normalizeSnapshot target reported = some snapshot)
    {c : UserCounter} (hc : c ∈ snapshot) (hgrew : Grew t.counters c) : c.userId ∈ target.users ∧
    Counted t reported c.userId := by
  unfold normalizeSnapshot at hsnap
  split at hsnap
  · cases hsnap
    obtain ⟨user, huser, rfl⟩ := List.mem_map.1 hc
    cases hfind : reported.find? fun c => c.userId = user with
    | none =>
      -- an unreported counter is zero, which is above nothing
      obtain ⟨prev, -, -, hlt⟩ := hgrew
      simp only [hfind, Option.bind_none, Option.getD_none, Count.zero] at hlt
      omega
    | some found =>
      have hmem := List.mem_of_find?_eq_some hfind
      have hid : found.userId = user := by simpa using List.find?_some hfind
      simp only [hfind, Option.bind_some] at hgrew ⊢
      cases hcounter : found.counter? with
      | none =>
        obtain ⟨prev, -, -, hlt⟩ := hgrew
        simp only [hcounter, Option.getD_none, Count.zero] at hlt
        omega
      | some counter =>
        rw [hcounter] at hgrew
        obtain ⟨prev, hprev, hpid, hlt⟩ := hgrew
        simp only [Option.getD_some] at hpid hlt ⊢
        -- the counts of the entry are the reported numbers
        have hvalues : counter.userId = found.userId ∧ (counter.uplink.get : Int) = found.uplink ∧
            (counter.downlink.get : Int) = found.downlink := by
          unfold CollectedUserCounter.counter? at hcounter
          split at hcounter
          · rename_i up down hup hdown
            cases hcounter
            simp only [Count.new, Option.dite_none_right_eq_some, Option.some.injEq] at hup hdown
            obtain ⟨hup, rfl⟩ := hup
            obtain ⟨hdown, rfl⟩ := hdown
            exact ⟨rfl, Int.toNat_of_nonneg hup.1, Int.toNat_of_nonneg hdown.1⟩
          · cases hcounter
        obtain ⟨hsame, hup, hdown⟩ := hvalues
        refine ⟨by rw [hsame, hid]; exact huser, found, hmem, hsame.symm, prev, hprev,
          hpid, ?_⟩
        omega
  · cases hsnap

/-- The target names the users the running configuration serves. -/
theorem target_users
    (h : t.loadStatsQueryTarget = .ok (some target)) : target.users = t.enabledUsers := by
  unfold Traffic.loadStatsQueryTarget at h
  split at h
  · cases h
  obtain ⟨_, h⟩ := rest_ok h
  cases h
  rfl

/-- What a collection does: the running configuration stays, and the new events and pending deltas
are about accounted users. -/
structure Collects (enc : EventEncoding) (t : Traffic) (source : UserId → Prop) (t' : Traffic) :
    Prop where
  applied : t'.applied = t.applied
  spool : Spool.Extends enc (fun kind => ∀ user, kind.userId? = some user → source user)
    t.spool t'.spool
  pending : ∀ p ∈ t'.pending, source p.userId

variable {source : UserId → Prop}

theorem extends_of_status (h : Spool.Extends enc isStatus spool spool') :
    Spool.Extends enc (fun kind => ∀ user, kind.userId? = some user → source user)
      spool spool' := by
  refine h.mono ?_
  intro kind hkind user huser
  have hnone : kind.userId? = none := hkind
  rw [hnone] at huser
  cases huser

theorem recordSample_collects {t t' : Traffic} (htarget : target.users = t.enabledUsers)
    (hsnap : normalizeSnapshot target reported = some snapshot)
    (h : recordSample enc t target snapshot now = .ok t') :
    Collects enc t (Accounted t reported) t' := by
  obtain ⟨_, h⟩ := rest_ok h
  obtain ⟨spool, hsp, h⟩ := bind_ok.1 h
  obtain ⟨⟨pending, delta⟩, hacc, h⟩ := bind_ok.1 h
  obtain ⟨usage, h⟩ := rest_ok h
  cases h
  refine ⟨rfl, extends_of_status ((Spool.Extends.purge now .refl).trans
    (recordStatusTransition_extends hsp)), ?_⟩
  intro p hp
  rcases mem_accumulateTraffic hacc p hp with hold | ⟨c, hc, hid, hgrew⟩
  · exact .inl ⟨p, hold, rfl⟩
  have hc : c ∈ snapshot := by
    split at hc
    · exact hc
    · cases hc
  obtain ⟨huser, hcounted⟩ := counted_of_grew hsnap hc hgrew
  rw [hid] at huser hcounted
  exact .inr ⟨htarget ▸ huser, hcounted⟩

/-- Flushing spools traffic of the users in the rows and only forgets deltas. -/
theorem flushRows_collects (enc : EventEncoding) (now fallback : Nat) {rows : List PendingDelta}
    (hrows : ∀ p ∈ rows, source p.userId) (hpend : ∀ p ∈ t.pending, source p.userId) :
    Collects enc t source (flushRows enc now fallback rows t) := by
  induction rows generalizing t with
  | nil => exact ⟨rfl, .refl, hpend⟩
  | cons p rest ih =>
    unfold flushRows
    dsimp only
    split
    · exact ⟨rfl, .refl, hpend⟩
    rename_i spool henq
    have hrest := ih (t := { t with
        spool := spool, pending := t.pending.filter fun q => q.userId ≠ p.userId })
      (fun q hq => hrows q (.tail _ hq))
      (fun q hq => hpend q (List.mem_of_mem_filter hq))
    refine ⟨hrest.applied, Spool.Extends.trans ?_ hrest.spool, hrest.pending⟩
    refine .enqueue .refl ?_ henq
    intro user huser
    cases huser
    exact hrows p List.mem_cons_self

theorem flushPendingTraffic_collects {fallback now : Nat}
    (hpend : ∀ p ∈ t.pending, source p.userId) :
    Collects enc t source (flushPendingTraffic enc t fallback now) := by
  have hrows : ∀ p ∈ (t.pending.insertionSort fun a b => a.userId ≤ b.userId).take 64,
      source p.userId := by
    intro p hp
    exact hpend p ((List.mem_insertionSort _).mp (List.mem_of_mem_take hp))
  have hflush := flushRows_collects enc now fallback
    (t := { t with spool := t.spool.purgeAcknowledged now }) hrows hpend
  exact ⟨hflush.applied, (Spool.Extends.purge now .refl).trans hflush.spool, hflush.pending⟩

theorem Collects.trans {t t' t'' : Traffic}
    (h : Collects enc t source t') (h' : Collects enc t' source t'') : Collects enc t source t'' :=
  ⟨h'.applied.trans h.applied, h.spool.trans h'.spool, h'.pending⟩

theorem persistCollectionFailure_collects {t t' : Traffic} {code : StatusCode}
    (h : persistCollectionFailure enc t code now = .ok t')
    (hpend : ∀ p ∈ t.pending, source p.userId) : Collects enc t source t' := by
  obtain ⟨spool, hsp, h⟩ := bind_ok.1 h
  cases h
  exact ⟨rfl, extends_of_status ((Spool.Extends.purge now .refl).trans
    (recordStatusTransition_extends hsp)), hpend⟩

theorem collectXrayTraffic_collects {t t' : Traffic} {answer : Option (List CollectedUserCounter)}
    {now flushedAt : Nat} (h : collectXrayTraffic enc t answer now flushedAt = .ok t') :
    Collects enc t (Accounted t (answer.getD [])) t' := by
  have hpend : ∀ p ∈ t.pending, Accounted t (answer.getD []) p.userId :=
    fun p hp => .inl ⟨p, hp, rfl⟩
  obtain ⟨target?, htarget, h⟩ := bind_ok.1 h
  cases target? with
  | none =>
    cases h
    exact ⟨rfl, .refl, hpend⟩
  | some target =>
    have husr := target_users htarget
    simp only [collectTarget] at h
    cases answer with
    | none => exact persistCollectionFailure_collects h hpend
    | some reported =>
      cases hsnap : normalizeSnapshot target reported with
      | none =>
        simp only [hsnap] at h
        exact persistCollectionFailure_collects h hpend
      | some snapshot =>
        simp only [hsnap] at h
        obtain ⟨sampled, hsampled, h⟩ := bind_ok.1 h
        cases h
        have hsample := recordSample_collects husr hsnap hsampled
        exact hsample.trans (flushPendingTraffic_collects hsample.pending)

end RealityConsole.NodeHost
