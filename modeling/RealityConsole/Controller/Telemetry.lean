import RealityConsole.Controller.Members
import RealityConsole.Controller.Progress

/-!
# Telemetry ingestion

The controller's side of a telemetry upload from one node: the cursor, the stored events and the
traffic aggregates. A batch is stored as a whole or not at all. Aggregate columns are signed 64-bit
integers: a sum beyond that range fails the statement.
-/

namespace RealityConsole.Controller

open Protocol Framework

/-! ### Aggregates -/

/-- The summed columns of an aggregate row. -/
@[ext] structure Totals where
  bytesUp : Nat
  bytesDown : Nat
  connectionCount : Nat

namespace Totals

instance : Zero Totals := ⟨⟨0, 0, 0⟩⟩

instance : Add Totals :=
  ⟨fun a b => ⟨a.bytesUp + b.bytesUp, a.bytesDown + b.bytesDown,
    a.connectionCount + b.connectionCount⟩⟩

/-- Every column is a signed 64-bit integer. -/
def Fits (t : Totals) : Prop :=
  t.bytesUp < i64Limit ∧ t.bytesDown < i64Limit ∧ t.connectionCount < i64Limit

instance (t : Totals) : Decidable t.Fits := inferInstanceAs (Decidable (_ ∧ _ ∧ _))

@[simp] theorem add_bytesUp (a b : Totals) : (a + b).bytesUp = a.bytesUp + b.bytesUp := rfl

@[simp] theorem add_bytesDown (a b : Totals) : (a + b).bytesDown = a.bytesDown + b.bytesDown := rfl

@[simp] theorem add_connectionCount (a b : Totals) :
    (a + b).connectionCount = a.connectionCount + b.connectionCount := rfl

@[simp] theorem zero_bytesUp : (0 : Totals).bytesUp = 0 := rfl

@[simp] theorem zero_bytesDown : (0 : Totals).bytesDown = 0 := rfl

@[simp] theorem zero_connectionCount : (0 : Totals).connectionCount = 0 := rfl

theorem zero_add (a : Totals) : 0 + a = a := by ext <;> simp

theorem add_zero (a : Totals) : a + 0 = a := by ext <;> simp

theorem add_assoc (a b c : Totals) : a + b + c = a + (b + c) := by
  ext <;> simp only [add_bytesUp, add_bytesDown, add_connectionCount] <;> omega

theorem Fits.left {a b : Totals} (h : (a + b).Fits) : a.Fits := by
  simp only [Fits, add_bytesUp, add_bytesDown, add_connectionCount] at h ⊢
  omega

end Totals

/-- A member and the start of a time bucket. -/
abbrev BucketKey := UserId × Nat

abbrev AggregateTable := BucketKey → Option Totals

def bucketStart (width occurredAt : Nat) : Nat := occurredAt - occurredAt % width

def hourSeconds : Nat := 3600

def daySeconds : Nat := 86400

def AggregateTable.total (t : AggregateTable) (key : BucketKey) : Totals := (t key).getD 0

/-! ### Tables -/

inductive EventType where
  | trafficDelta
  | connection
  | collectionStatus
  | quotaState

inductive Disposition where
  | stored
  | droppedPolicy

/-- A row of `node_telemetry_events`, without its digest. -/
structure StoredEvent where
  sequence : Nat
  eventType : EventType
  userId : Option UserId
  occurredAt : Timestamp
  receivedAt : Timestamp
  disposition : Disposition
  protocol : Option NetworkProtocol
  destinationHost : Option String
  destinationPort : Option UInt16
  clientIdentifier : Option String
  statusCode : Option String

/-- The column checks of `node_telemetry_events`. -/
def StoredEvent.checks (e : StoredEvent) : Bool :=
  0 < e.sequence
    && (e.destinationHost.all fun host => 1 ≤ host.length && host.length ≤ 253)
    && (e.destinationPort.all fun port => 1 ≤ port.toNat && port.toNat ≤ 65535)
    && (e.clientIdentifier.all fun client => 1 ≤ client.length && client.length ≤ 128)
    && (e.statusCode.all fun code => 1 ≤ code.length && code.length ≤ 64)

structure TelemetryTables where
  /-- The row of `node_telemetry_cursors`; no row reads as zero. -/
  acknowledgedSequence : Nat
  events : List StoredEvent
  hourly : AggregateTable
  daily : AggregateTable
  /-- `telemetry_policy.detailed_enabled` -/
  detailedEnabled : Bool
  /-- `telemetry_policy.detailed_retention_days` -/
  detailedRetentionDays : Nat

inductive TelemetryError where
  | bodyTooLarge
  | protocol (error : ProtocolValidationError)
  | telemetryNodeMismatch
  | nodeRevoked
  | telemetrySequenceGap (expected : Nat)
  | telemetrySequenceExhausted
  | telemetryClockSkew
  | telemetryUserNotAssigned
  /-- A constraint of the schema refuses the statement. -/
  | constraint
  deriving DecidableEq, Repr

/-! ### Ingestion -/

def telemetryCursorFromAcknowledged (acknowledged : Nat) :
    Except TelemetryError TelemetryCursor :=
  match checkedNext acknowledged with
  | none => .error .telemetrySequenceExhausted
  | some expected => do
    let cursor : TelemetryCursor := ⟨acknowledged, expected⟩
    cursor.validate.mapError .protocol
    .ok cursor

def loadTelemetryCursor (status : NodeStatus) (tables : TelemetryTables) :
    Except TelemetryError TelemetryCursor := do
  refuseWhen (!status.mayReport) .nodeRevoked
  telemetryCursorFromAcknowledged tables.acknowledgedSequence

def validateTelemetryUser (members : Members) (node : NodeId) (user : UserId) :
    Except TelemetryError Unit :=
  refuseWhen (!members.isAssigned node user) .telemetryUserNotAssigned

/-- The row that `persist_telemetry_event` inserts. -/
def storedEvent (detailedEnabled : Bool) (receivedAt : Timestamp) (event : TelemetryEvent) :
    StoredEvent :=
  let row (eventType : EventType) (userId : Option UserId) : StoredEvent :=
    { sequence := event.sequence, eventType, userId, occurredAt := event.occurredAt, receivedAt
      disposition := .stored, protocol := none, destinationHost := none
      destinationPort := none, clientIdentifier := none, statusCode := none }
  match event.kind with
  | .trafficDelta user _ _ _ => row .trafficDelta (some user)
  | .connection user protocol host port client =>
    -- destinations are kept only while detailed telemetry is enabled
    if detailedEnabled then
      { row .connection (some user) with
        protocol := some protocol, destinationHost := some host, destinationPort := some port
        clientIdentifier := client }
    else { row .connection (some user) with disposition := .droppedPolicy }
  | .collectionStatus code _ => { row .collectionStatus none with statusCode := some code }
  | .quotaState user _ _ => row .quotaState (some user)

/-- The insertion of an event row: column checks, primary key and account key. -/
def insertEvent (members : Members) (tables : TelemetryTables) (row : StoredEvent) :
    Except TelemetryError TelemetryTables := do
  refuseWhen (!row.checks) .constraint
  refuseWhen (tables.events.any fun e => e.sequence = row.sequence) .constraint
  refuseWhen (!row.userId.all fun user => members.users.any fun u => u.userId = user) .constraint
  .ok { tables with events := tables.events ++ [row] }

def upsertTrafficAggregate (table : AggregateTable) (key : BucketKey) (delta : Totals) :
    Except TelemetryError AggregateTable := do
  let sum := table.total key + delta
  refuseWhen (¬sum.Fits) .constraint
  .ok (Function.update table key (some sum))

/-- The member check of `persist_telemetry_event`: every event about a member. -/
def validateEventUser (members : Members) (node : NodeId) (kind : TelemetryEventKind) :
    Except TelemetryError Unit :=
  match kind.userId? with
  | some user => validateTelemetryUser members node user
  | none => .ok ()

/-- The aggregates of `persist_telemetry_event`: traffic by hour and by day. -/
def aggregateTraffic (tables : TelemetryTables) (event : TelemetryEvent) :
    Except TelemetryError TelemetryTables :=
  match event.kind with
  | .trafficDelta user up down connections => do
    let delta : Totals := ⟨up.get, down.get, connections.get⟩
    let hourly ← upsertTrafficAggregate tables.hourly
      (user, bucketStart hourSeconds event.occurredAt) delta
    let daily ← upsertTrafficAggregate tables.daily
      (user, bucketStart daySeconds event.occurredAt) delta
    .ok { tables with hourly, daily }
  | _ => .ok tables

def persistTelemetryEvent (members : Members) (node : NodeId) (receivedAt : Nat)
    (tables : TelemetryTables) (event : TelemetryEvent) :
    Except TelemetryError TelemetryTables := do
  refuseWhen (event.occurredAt > receivedAt + 86400) .telemetryClockSkew
  validateEventUser members node event.kind
  let inserted ← insertEvent members tables (storedEvent tables.detailedEnabled receivedAt event)
  aggregateTraffic inserted event

def persistEvents (members : Members) (node : NodeId) (receivedAt : Nat) :
    TelemetryTables → List TelemetryEvent → Except TelemetryError TelemetryTables
  | tables, [] => .ok tables
  | tables, event :: rest => do
    let tables ← persistTelemetryEvent members node receivedAt tables event
    persistEvents members node receivedAt tables rest

/-- The transaction of `ingest_telemetry`: the new tables and the sequence they acknowledge. -/
def commitTelemetry (members : Members) (node : NodeId) (status : NodeStatus) (receivedAt : Nat)
    (tables : TelemetryTables) (batch : TelemetryBatch) :
    Except TelemetryError (TelemetryTables × Nat) := do
  (batch.validate [telemetrySchemaVersion]).mapError .protocol
  refuseWhen (batch.nodeId ≠ node) .telemetryNodeMismatch
  refuseWhen (!status.mayReport) .nodeRevoked
  if batch.lastSequence ≤ tables.acknowledgedSequence then
    -- everything in the batch is stored already
    .ok (tables, tables.acknowledgedSequence)
  else
    refuseWhen (batch.firstSequence ≠ tables.acknowledgedSequence + 1)
      (.telemetrySequenceGap (tables.acknowledgedSequence + 1))
    let stored ← persistEvents members node receivedAt tables batch.events
    .ok ({ stored with acknowledgedSequence := batch.lastSequence }, batch.lastSequence)

/-- `ingest_telemetry`: the acknowledgement is computed after the commit. -/
def ingestTelemetry (members : Members) (node : NodeId) (status : NodeStatus) (receivedAt : Nat)
    (tables : TelemetryTables) (batch : TelemetryBatch) :
    TelemetryTables × Except TelemetryError TelemetryCursor :=
  match commitTelemetry members node status receivedAt tables batch with
  | .error error => (tables, .error error)
  | .ok (stored, acknowledged) => (stored, telemetryCursorFromAcknowledged acknowledged)

/-- `upload_node_telemetry`: the bounded request body, then ingestion. -/
def uploadNodeTelemetry (members : Members) (node : NodeId) (status : NodeStatus)
    (receivedAt bodyLength : Nat) (tables : TelemetryTables) (batch : TelemetryBatch) :
    TelemetryTables × Except TelemetryError TelemetryCursor :=
  if bodyLength > maxTelemetryBatchBytes then (tables, .error .bodyTooLarge)
  else ingestTelemetry members node status receivedAt tables batch

/-! ### Retention -/

def alignedRetentionCutoff (now retentionDays bucketSeconds : Nat) : Nat :=
  bucketStart bucketSeconds (now - retentionDays * 86400)

def retentionDays (detailedDays : Nat) : EventType → Nat
  | .connection => detailedDays
  | .trafficDelta => 90
  | .collectionStatus => 30
  | .quotaState => 30

/-- `enforce_telemetry_retention_at` -/
def enforceTelemetryRetention (now : Nat) (tables : TelemetryTables) : TelemetryTables :=
  { tables with
    events := tables.events.filter fun e =>
      now - retentionDays tables.detailedRetentionDays e.eventType * 86400 ≤ e.receivedAt
    hourly := fun key =>
      if key.2 < alignedRetentionCutoff now 90 hourSeconds then none else tables.hourly key
    daily := fun key =>
      if key.2 < alignedRetentionCutoff now 365 daySeconds then none else tables.daily key }

/-! ### What ingestion accepts -/

def eventTraffic (width : Nat) (key : BucketKey) (event : TelemetryEvent) : Totals :=
  match event.kind with
  | .trafficDelta user up down connections =>
    if (user, bucketStart width event.occurredAt) = key then
      ⟨up.get, down.get, connections.get⟩
    else 0
  | _ => 0

def trafficTotals (width : Nat) (key : BucketKey) : List TelemetryEvent → Totals
  | [] => 0
  | event :: rest => eventTraffic width key event + trafficTotals width key rest

def bucketKey? (width : Nat) (event : TelemetryEvent) : Option BucketKey :=
  match event.kind with
  | .trafficDelta user _ _ _ => some (user, bucketStart width event.occurredAt)
  | _ => none

/-- Counting the events keeps every bucket they fall into in range. -/
def Countable (width : Nat) (table : AggregateTable) (events : List TelemetryEvent) : Prop :=
  ∀ key ∈ events.filterMap (bucketKey? width),
    (table.total key + trafficTotals width key events).Fits

instance (width : Nat) (table : AggregateTable) (events : List TelemetryEvent) :
    Decidable (Countable width table events) :=
  List.decidableBAll _ _

structure Storable (members : Members) (node : NodeId) (receivedAt : Nat)
    (tables : TelemetryTables) (event : TelemetryEvent) : Prop where
  valid : event.kind.validate = .ok ()
  positive : 0 < event.sequence
  unseen : ∀ e ∈ tables.events, e.sequence ≠ event.sequence
  skew : event.occurredAt ≤ receivedAt + 86400
  assigned : ∀ user, event.kind.userId? = some user → members.isAssigned node user = true

structure Stored (events : List TelemetryEvent) (t t' : TelemetryTables) : Prop where
  cursor : t'.acknowledgedSequence = t.acknowledgedSequence
  sequences : t'.events.map (·.sequence) =
    t.events.map (·.sequence) ++ events.map (·.sequence)
  hourly : ∀ key, t'.hourly.total key = t.hourly.total key + trafficTotals hourSeconds key events
  daily : ∀ key, t'.daily.total key = t.daily.total key + trafficTotals daySeconds key events

@[simp] theorem storedEvent_sequence (detailed : Bool) (receivedAt : Timestamp)
    (event : TelemetryEvent) :
    (storedEvent detailed receivedAt event).sequence = event.sequence := by
  unfold storedEvent
  split <;> try split
  all_goals rfl

@[simp] theorem storedEvent_userId (detailed : Bool) (receivedAt : Timestamp)
    (event : TelemetryEvent) :
    (storedEvent detailed receivedAt event).userId = event.kind.userId? := by
  unfold storedEvent
  split <;> try split
  all_goals simp_all [TelemetryEventKind.userId?]

variable {event : TelemetryEvent}

/-- The protocol's own validation implies the column checks. -/
theorem storedEvent_checks (hval : event.kind.validate = .ok ())
    (hpos : 0 < event.sequence) (detailed : Bool) (receivedAt : Timestamp) :
    (storedEvent detailed receivedAt event).checks := by
  unfold storedEvent
  cases hkind : event.kind with
  | trafficDelta user up down connections => simp [StoredEvent.checks, hpos]
  | quotaState user status remaining => simp [StoredEvent.checks, hpos]
  | collectionStatus code recovered =>
    rw [hkind] at hval
    obtain ⟨_, htext, -⟩ := bind_ok.1 hval
    have hlen := length_of_validateText htext
    simp only [StoredEvent.checks, hpos, Option.all_none, Option.all_some, decide_true,
      Bool.true_and, Bool.and_eq_true, decide_eq_true_eq]
    omega
  | connection user protocol host port client =>
    rw [hkind] at hval
    obtain ⟨_, hhost, hval⟩ := bind_ok.1 hval
    obtain ⟨_, hval⟩ := rest_ok hval
    obtain ⟨_, hport, hclient⟩ := bind_ok.1 hval
    have hhostLength := length_of_validateText hhost
    have hportPos : 1 ≤ port.toNat ∧ port.toNat ≤ 65535 := by
      have hne : port.toNat ≠ 0 := fun h => refuse_ok.1 hport (UInt16.toNat_inj.1 h)
      have hlt := port.toNat_lt
      omega
    have hclientLength : (client.all fun c => 1 ≤ c.length && c.length ≤ 128) = true := by
      cases client with
      | none => rfl
      | some identifier =>
        have hlen := length_of_validateText hclient
        simp only [Option.all_some, Bool.and_eq_true, decide_eq_true_eq]
        omega
    cases detailed with
    | false => simp [StoredEvent.checks, hpos]
    | true =>
      simp only [StoredEvent.checks, hpos, if_true, Option.all_none, Option.all_some, decide_true,
        Bool.true_and, Bool.and_true, Bool.and_eq_true, decide_eq_true_eq]
      exact ⟨⟨by omega, hportPos⟩, hclientLength⟩

/-! ### The effect of ingestion -/

theorem upsert_total {table table' : AggregateTable} {key : BucketKey} {delta : Totals}
    (h : upsertTrafficAggregate table key delta = .ok table') (k : BucketKey) :
    table'.total k = table.total k + (if key = k then delta else 0) := by
  obtain ⟨_, h⟩ := rest_ok h
  cases h
  by_cases hk : key = k
  · subst hk
    simp [AggregateTable.total]
  · simp [AggregateTable.total, Function.update_of_ne (Ne.symm hk), hk, Totals.add_zero]

theorem trafficTotals_singleton {user : UserId}
    {up down connections : Count} (hkind : event.kind = .trafficDelta user up down connections)
    (width : Nat) (key : BucketKey) : trafficTotals width key [event] =
      if (user, bucketStart width event.occurredAt) = key then ⟨up.get, down.get, connections.get⟩
      else 0 := by simp only [trafficTotals, eventTraffic, hkind, Totals.add_zero]

theorem aggregateTraffic_effect {tables tables' : TelemetryTables}
    (h : aggregateTraffic tables event = .ok tables') :
    ∃ hourly daily, tables' = { tables with hourly, daily } ∧
      (∀ key, hourly.total key = tables.hourly.total key + trafficTotals hourSeconds key [event]) ∧
      ∀ key, daily.total key = tables.daily.total key + trafficTotals daySeconds key [event] := by
  unfold aggregateTraffic at h
  -- only a traffic event touches the aggregates
  cases hkind : event.kind with
  | trafficDelta user up down connections =>
    simp only [hkind] at h
    obtain ⟨hourly, hhourly, h⟩ := bind_ok.1 h
    obtain ⟨daily, hdaily, h⟩ := bind_ok.1 h
    cases h
    refine ⟨hourly, daily, rfl, ?_, ?_⟩
    · intro key
      rw [trafficTotals_singleton hkind]
      exact upsert_total hhourly key
    · intro key
      rw [trafficTotals_singleton hkind]
      exact upsert_total hdaily key
  | connection _ _ _ _ _ | collectionStatus _ _ | quotaState _ _ _ =>
    simp only [hkind] at h
    cases h
    refine ⟨tables.hourly, tables.daily, rfl, ?_, ?_⟩ <;>
      simp [trafficTotals, eventTraffic, hkind, Totals.add_zero]

variable {members : Members} {node : NodeId} {receivedAt : Nat}

theorem persistTelemetryEvent_stored {tables tables' : TelemetryTables}
    (h : persistTelemetryEvent members node receivedAt tables event = .ok tables') :
    Stored [event] tables tables' := by
  obtain ⟨_, h⟩ := rest_ok h
  obtain ⟨_, h⟩ := rest_ok h
  obtain ⟨inserted, hinsd, h⟩ := bind_ok.1 h
  obtain ⟨_, hinsd⟩ := rest_ok hinsd
  obtain ⟨_, hinsd⟩ := rest_ok hinsd
  obtain ⟨_, hinsd⟩ := rest_ok hinsd
  cases hinsd
  obtain ⟨hourly, daily, rfl, hhourly, hdaily⟩ := aggregateTraffic_effect h
  exact ⟨rfl, by simp, hhourly, hdaily⟩

theorem Stored.refl (t : TelemetryTables) : Stored [] t t :=
  ⟨rfl, by simp, fun _ => (Totals.add_zero _).symm, fun _ => (Totals.add_zero _).symm⟩

theorem Stored.cons {rest : List TelemetryEvent}
    {t t' t'' : TelemetryTables} (h : Stored [event] t t') (h' : Stored rest t' t'') :
    Stored (event :: rest) t t'' where
  cursor := h'.cursor.trans h.cursor
  sequences := by
    rw [h'.sequences, h.sequences]
    simp
  hourly key := by
    rw [h'.hourly, h.hourly, Totals.add_assoc]
    simp only [trafficTotals, Totals.add_zero]
  daily key := by
    rw [h'.daily, h.daily, Totals.add_assoc]
    simp only [trafficTotals, Totals.add_zero]

variable {events : List TelemetryEvent}

theorem persistEvents_stored {tables tables' : TelemetryTables}
    (h : persistEvents members node receivedAt tables events = .ok tables') :
    Stored events tables tables' := by
  induction events generalizing tables with
  | nil =>
    cases h
    exact Stored.refl _
  | cons event rest ih =>
    obtain ⟨t, ht, h⟩ := bind_ok.1 h
    exact (persistTelemetryEvent_stored ht).cons (ih h)

theorem telemetryCursorFromAcknowledged_ok {acknowledged : Nat} {cursor : TelemetryCursor}
    (h : telemetryCursorFromAcknowledged acknowledged = .ok cursor) :
    cursor = ⟨acknowledged, acknowledged + 1⟩ := by
  unfold telemetryCursorFromAcknowledged at h
  split at h
  · cases h
  rename_i want hnext
  obtain ⟨_, h⟩ := rest_ok h
  cases h
  obtain ⟨-, rfl⟩ := checkedNext_eq_some.1 hnext
  rfl

theorem telemetryCursorFromAcknowledged_succeeds {acknowledged : Nat}
    (h : acknowledged + 1 < i64Limit) :
    telemetryCursorFromAcknowledged acknowledged = .ok ⟨acknowledged, acknowledged + 1⟩ := by
  have hnext : checkedNext acknowledged = some (acknowledged + 1) := checkedNext_eq_some.2 ⟨h, rfl⟩
  simp [telemetryCursorFromAcknowledged, hnext, TelemetryCursor.validate, bind_ok, mapError_ok]

/-- An upload stores nothing or the whole batch; an acknowledgement names the sequence the tables
then hold. -/
theorem uploadNodeTelemetry_effect {status : NodeStatus}
    {receivedAt bodyLength : Nat} {tables tables' : TelemetryTables} {batch : TelemetryBatch}
    {result : Except TelemetryError TelemetryCursor}
    (h : uploadNodeTelemetry members node status receivedAt bodyLength tables batch =
      (tables', result)) : (tables' = tables ∨ ∃ stored, Stored batch.events tables stored ∧
      tables' = { stored with acknowledgedSequence := batch.lastSequence }) ∧
    ∀ cursor, result = .ok cursor → cursor.acknowledgedSequence = tables'.acknowledgedSequence := by
  unfold uploadNodeTelemetry at h
  split at h
  · cases h
    exact ⟨.inl rfl, fun cursor hcurs => by cases hcurs⟩
  unfold ingestTelemetry at h
  split at h
  · cases h
    exact ⟨.inl rfl, fun cursor hcurs => by cases hcurs⟩
  rename_i stored acknowledged hcommit
  cases h
  obtain ⟨_, hcommit⟩ := rest_ok hcommit
  obtain ⟨_, hcommit⟩ := rest_ok hcommit
  obtain ⟨_, hcommit⟩ := rest_ok hcommit
  split at hcommit
  · -- the batch was stored before
    cases hcommit
    refine ⟨.inl rfl, fun cursor hcurs => ?_⟩
    rw [telemetryCursorFromAcknowledged_ok hcurs]
  obtain ⟨_, hcommit⟩ := rest_ok hcommit
  obtain ⟨persisted, hpersisted, hcommit⟩ := bind_ok.1 hcommit
  cases hcommit
  refine ⟨.inr ⟨persisted, persistEvents_stored hpersisted, rfl⟩, fun cursor hcurs => ?_⟩
  rw [telemetryCursorFromAcknowledged_ok hcurs]

/-! ### When ingestion succeeds -/

theorem Members.WellFormed.account_of_isAssigned {m : Members} (hm : m.WellFormed) {user : UserId}
    (h : m.isAssigned node user) : (m.users.any fun u => u.userId = user) = true := by
  obtain ⟨a, ha, huser⟩ := List.any_eq_true.1 h
  simp only [Bool.and_eq_true, decide_eq_true_eq] at huser
  obtain ⟨u, hu, heq⟩ := hm.assignment_user a ha
  exact List.any_eq_true.2 ⟨u, hu, by simp [heq, huser.2]⟩

variable {tables : TelemetryTables}

theorem insertEvent_succeeds (hm : members.WellFormed)
    (h : Storable members node receivedAt tables event) :
    insertEvent members tables (storedEvent tables.detailedEnabled receivedAt event) =
      .ok { tables with
        events := tables.events ++ [storedEvent tables.detailedEnabled receivedAt event] } := by
  have hcheck := storedEvent_checks h.valid h.positive tables.detailedEnabled receivedAt
  have hunseen : (tables.events.any fun e => e.sequence = event.sequence) = false := by
    rw [List.any_eq_false]
    intro e he
    simpa using h.unseen e he
  have hacct : (event.kind.userId?.all fun user =>
      members.users.any fun u => u.userId = user) = true := by
    cases huser : event.kind.userId? with
    | none => rfl
    | some user => exact hm.account_of_isAssigned (h.assigned user huser)
  simp [insertEvent, bind_ok, hcheck, hunseen, hacct]

theorem upsert_succeeds {table : AggregateTable} {key : BucketKey} {delta : Totals}
    (h : (table.total key + delta).Fits) :
    ∃ table', upsertTrafficAggregate table key delta = .ok table' :=
  ⟨Function.update table key (some (table.total key + delta)), by
    simp [upsertTrafficAggregate, bind_ok, h]⟩

theorem aggregateTraffic_succeeds (hhour : Countable hourSeconds tables.hourly [event])
    (hday : Countable daySeconds tables.daily [event]) :
    ∃ tables', aggregateTraffic tables event = .ok tables' := by
  unfold aggregateTraffic
  cases hkind : event.kind with
  | trafficDelta user up down connections =>
    have hfits : ∀ width table, Countable width table [event] →
        (AggregateTable.total table (user, bucketStart width event.occurredAt)
          + ⟨up.get, down.get, connections.get⟩).Fits := by
      intro width table hcount
      have hkey := hcount (user, bucketStart width event.occurredAt) (by simp [bucketKey?, hkind])
      rwa [trafficTotals_singleton hkind, if_pos rfl] at hkey
    obtain ⟨hourly, hhourly⟩ := upsert_succeeds (hfits _ _ hhour)
    obtain ⟨daily, hdaily⟩ := upsert_succeeds (hfits _ _ hday)
    exact ⟨_, bind_ok.2 ⟨hourly, hhourly, bind_ok.2 ⟨daily, hdaily, rfl⟩⟩⟩
  | connection _ _ _ _ _ | collectionStatus _ _ | quotaState _ _ _ => exact ⟨tables, rfl⟩

theorem persistTelemetryEvent_succeeds (hm : members.WellFormed)
    (h : Storable members node receivedAt tables event)
    (hhour : Countable hourSeconds tables.hourly [event])
    (hday : Countable daySeconds tables.daily [event]) :
    ∃ tables', persistTelemetryEvent members node receivedAt tables event = .ok tables' := by
  have hskew : ¬event.occurredAt > receivedAt + 86400 := Nat.not_lt.2 h.skew
  have huser : validateEventUser members node event.kind = .ok () := by
    unfold validateEventUser
    cases huser : event.kind.userId? with
    | none => rfl
    | some user => simp [validateTelemetryUser, h.assigned user huser]
  let inserted : TelemetryTables := { tables with
    events := tables.events ++ [storedEvent tables.detailedEnabled receivedAt event] }
  have hhour' : Countable hourSeconds inserted.hourly [event] := hhour
  have hday' : Countable daySeconds inserted.daily [event] := hday
  obtain ⟨tables', hcount⟩ := aggregateTraffic_succeeds hhour' hday'
  refine ⟨tables', ?_⟩
  simp only [persistTelemetryEvent, bind_ok, refuse_ok]
  exact ⟨(), hskew, (), huser, inserted, insertEvent_succeeds hm h, hcount⟩

theorem trafficTotals_append (width : Nat) (key : BucketKey) (events rest : List TelemetryEvent) :
    trafficTotals width key (events ++ rest) =
      trafficTotals width key events + trafficTotals width key rest := by
  induction events with
  | nil => exact (Totals.zero_add _).symm
  | cons event tail ih => simp only [List.cons_append, trafficTotals, ih, Totals.add_assoc]

theorem Countable.left {width : Nat} {table : AggregateTable} {events rest : List TelemetryEvent}
    (h : Countable width table (events ++ rest)) : Countable width table events := by
  intro key hmem
  have hkey := h key (by
    rw [List.filterMap_append]
    exact List.mem_append_left _ hmem)
  rw [trafficTotals_append, ← Totals.add_assoc] at hkey
  exact hkey.left

theorem Countable.right {width : Nat} {table table' : AggregateTable}
    {events rest : List TelemetryEvent} (h : Countable width table (events ++ rest))
    (htable : ∀ key, table'.total key = table.total key + trafficTotals width key events) :
    Countable width table' rest := by
  intro key hmem
  have hkey := h key (by
    rw [List.filterMap_append]
    exact List.mem_append_right _ hmem)
  rw [trafficTotals_append, ← Totals.add_assoc, ← htable] at hkey
  exact hkey

/-- The whole list is stored if each event is storable, no sequence number comes twice and the
buckets stay in range. -/
theorem persistEvents_succeeds (hm : members.WellFormed)
    (h : ∀ event ∈ events, Storable members node receivedAt tables event)
    (hdist : (events.map (·.sequence)).Nodup) (hhour : Countable hourSeconds tables.hourly events)
    (hday : Countable daySeconds tables.daily events) : ∃ tables',
    persistEvents members node receivedAt tables events = .ok tables' := by
  induction events generalizing tables with
  | nil => exact ⟨tables, rfl⟩
  | cons event rest ih =>
    have hhour : Countable hourSeconds tables.hourly ([event] ++ rest) := hhour
    have hday : Countable daySeconds tables.daily ([event] ++ rest) := hday
    obtain ⟨t, ht⟩ := persistTelemetryEvent_succeeds hm (h event List.mem_cons_self)
      hhour.left hday.left
    have hsto := persistTelemetryEvent_stored ht
    simp only [List.map_cons, List.nodup_cons] at hdist
    have hrest : ∀ e ∈ rest, Storable members node receivedAt t e := by
      intro e he
      have hold := h e (.tail _ he)
      refine { hold with unseen := ?_ }
      intro row hrow heq
      -- a row of the new table is an old one or the event just stored
      have hmem : row.sequence ∈ t.events.map (·.sequence) := List.mem_map_of_mem hrow
      rw [hsto.sequences, List.mem_append] at hmem
      rcases hmem with hmem | hmem
      · obtain ⟨row', hrow', heq'⟩ := List.mem_map.1 hmem
        exact hold.unseen row' hrow' (heq'.trans heq)
      · have hev : row.sequence = event.sequence := by simpa using hmem
        exact hdist.1 (List.mem_map.2 ⟨e, he, heq.symm.trans hev⟩)
    obtain ⟨t', ht'⟩ := ih hrest hdist.2 (hhour.right hsto.hourly) (hday.right hsto.daily)
    exact ⟨t', bind_ok.2 ⟨t, ht, ht'⟩⟩

/-- What the controller needs of the events that follow its cursor. -/
structure Acceptable (members : Members) (node : NodeId) (receivedAt : Nat)
    (tables : TelemetryTables) (events : List TelemetryEvent) : Prop where
  contiguous : Contiguous (tables.acknowledgedSequence + 1) events
  below_limit : tables.acknowledgedSequence + events.length + 1 < i64Limit
  valid : ∀ event ∈ events, event.kind.validate = .ok ()
  skew : ∀ event ∈ events, event.occurredAt ≤ receivedAt + 86400
  assigned : ∀ event ∈ events, ∀ user, event.kind.userId? = some user →
    members.isAssigned node user = true
  hourly : Countable hourSeconds tables.hourly events
  daily : Countable daySeconds tables.daily events

theorem Acceptable.persists (hm : members.WellFormed)
    (h : Acceptable members node receivedAt tables events)
    (hseen : ∀ e ∈ tables.events, e.sequence ≤ tables.acknowledgedSequence) :
    ∃ tables', persistEvents members node receivedAt tables events = .ok tables' := by
  refine persistEvents_succeeds hm ?_ h.contiguous.nodup h.hourly h.daily
  intro event hev
  have hlat := h.contiguous.le_sequence event hev
  refine ⟨h.valid event hev, by omega, ?_, h.skew event hev, h.assigned event hev⟩
  intro row hrow
  have hearlier := hseen row hrow
  omega

theorem uploadNodeTelemetry_accepted (hm : members.WellFormed)
    {status : NodeStatus} {receivedAt bodyLength : Nat} (hstat : status.mayReport)
    (hbody : bodyLength ≤ maxTelemetryBatchBytes) (hne : events ≠ [])
    (hcount : events.length ≤ maxTelemetryBatchEvents)
    (h : Acceptable members node receivedAt tables events)
    (hseen : ∀ e ∈ tables.events, e.sequence ≤ tables.acknowledgedSequence) :
    ∃ stored, Stored events tables stored ∧
      uploadNodeTelemetry members node status receivedAt bodyLength tables
          (batchOf node (tables.acknowledgedSequence + 1) events) =
        ({ stored with acknowledgedSequence := tables.acknowledgedSequence + events.length },
          .ok ⟨tables.acknowledgedSequence + events.length,
            tables.acknowledgedSequence + events.length + 1⟩) := by
  obtain ⟨stored, hpersist⟩ := h.persists hm hseen
  have hlim := h.below_limit
  have hpos : 0 < events.length := List.length_pos_of_ne_nil hne
  have hval := batchOf_validate node (Nat.succ_pos _) hne hcount h.contiguous (by omega) h.valid
  have hlast : tables.acknowledgedSequence + 1 + events.length - 1 =
      tables.acknowledgedSequence + events.length := by omega
  refine ⟨stored, persistEvents_stored hpersist, ?_⟩
  have hcommit : commitTelemetry members node status receivedAt tables
      (batchOf node (tables.acknowledgedSequence + 1) events) =
      .ok ({ stored with acknowledgedSequence := tables.acknowledgedSequence + events.length },
        tables.acknowledgedSequence + events.length) := by
    simp only [commitTelemetry, hval, Except.mapError, bind_ok]
    refine ⟨(), trivial, (), by simp [batchOf], (), by simp [hstat], ?_⟩
    have hnew : ¬(batchOf node (tables.acknowledgedSequence + 1) events).lastSequence ≤
        tables.acknowledgedSequence := by
      simp only [batchOf]
      omega
    rw [if_neg hnew]
    simp only [bind_ok]
    refine ⟨(), by simp [batchOf], stored, hpersist, ?_⟩
    simp only [batchOf, hlast]
  have hcurs := telemetryCursorFromAcknowledged_succeeds hlim
  rw [uploadNodeTelemetry, if_neg (Nat.not_lt.2 hbody), ingestTelemetry, hcommit]
  simp only [hcurs]

end RealityConsole.Controller
