import Mathlib.Algebra.Group.Nat.Defs
import RealityConsole.Framework.Text
import RealityConsole.Framework.Uuid
import RealityConsole.Protocol.Revision

/-!
# Telemetry batches

The events a node may send, the batch that carries a contiguous range of them, and the cursor with
which the controller says what it has stored. Counts and sequence numbers are signed 64-bit integers
on the wire that are never negative.
-/

namespace RealityConsole.Protocol

open Framework

/-- Identifies a logical member (or a controller-owned canary). -/
abbrev UserId := Uuid

abbrev NodeId := Uuid

abbrev NetworkId := Uuid

/-- One more than the largest signed 64-bit integer. -/
def i64Limit : Nat := 2 ^ 63

/-- A non-negative byte count or event count. -/
structure Count where
  get : Nat
  lt_limit : get < i64Limit
  deriving DecidableEq, Repr

namespace Count

/-- `Count::new`: refuses a negative value; the upper bound is that of the type. -/
def new (value : Int) : Option Count :=
  if h : 0 ≤ value ∧ value.toNat < i64Limit then some ⟨value.toNat, h.2⟩ else none

/-- `i64::checked_add` on counts. -/
def checkedAdd (a b : Count) : Option Count :=
  if h : a.get + b.get < i64Limit then some ⟨a.get + b.get, h⟩ else none

/-- The difference of two samples of one counter. -/
def sub (a b : Count) : Count := ⟨a.get - b.get, lt_of_le_of_lt (Nat.sub_le _ _) a.lt_limit⟩

def zero : Count := ⟨0, by decide⟩

end Count

/-- `SequenceNumber::checked_next` -/
def checkedNext (sequence : Nat) : Option Nat :=
  if sequence + 1 < i64Limit then some (sequence + 1) else none

/-! ### Text bounds -/

/-- `validate_text` of the telemetry contracts. -/
def validateText (value : String) (maximumLength : Nat) (field : String) : Checked Unit := do
  refuseWhen (value = "") ⟨.missingField, field, "value is required"⟩
  refuseWhen (value.utf8ByteSize > maximumLength ∨ value.toList.any isControl)
    ⟨.outOfRange, field, "value exceeds its length or character bound"⟩

/-- A validated text also meets the bound counted in characters. -/
theorem length_of_validateText {value : String} {maximumLength : Nat} {field : String}
    (h : validateText value maximumLength field = .ok ()) :
    0 < value.length ∧ value.length ≤ maximumLength := by
  obtain ⟨_, hne, h⟩ := bind_ok.1 h
  have hsize : value.utf8ByteSize ≤ maximumLength := by
    have hbound := refuse_ok.1 h
    omega
  have hlen := length_le_utf8ByteSize value
  exact ⟨length_pos_of_ne_empty (refuse_ok.1 hne), by omega⟩

/-! ### Events -/

/-- Network protocol of a detailed connection record. -/
inductive NetworkProtocol where
  | tcp
  | udp
  deriving DecidableEq, Repr

/-- Quota state of a member at the reporting node. -/
inductive QuotaStatus where
  | normal
  | nearingLimit
  | exceeded
  deriving DecidableEq, Repr

inductive TelemetryEventKind where
  /-- Aggregate per-member deltas, never cumulative counters. -/
  | trafficDelta (userId : UserId) (bytesUp bytesDown connectionCount : Count)
  /-- Optional detailed connection metadata. -/
  | connection (userId : UserId) (protocol : NetworkProtocol) (destinationHost : String)
      (destinationPort : UInt16) (clientIdentifier : Option String)
  /-- Data-quality condition such as a counter reset. -/
  | collectionStatus (code : String) (recovered : Bool)
  /-- Quota state of one member. -/
  | quotaState (userId : UserId) (status : QuotaStatus) (remainingBytes : Option Count)
  deriving DecidableEq, Repr

namespace TelemetryEventKind

def userId? : TelemetryEventKind → Option UserId
  | trafficDelta userId _ _ _ => some userId
  | connection userId _ _ _ _ => some userId
  | collectionStatus _ _ => none
  | quotaState userId _ _ => some userId

/-- A status code is lowercase snake case. -/
def isCodeChar (c : Char) : Bool :=
  ('a' ≤ c && c ≤ 'z') || ('0' ≤ c && c ≤ '9') || c = '_'

def validate : TelemetryEventKind → Checked Unit
  | connection _ _ host port client => do
    validateText host 253 "events.destinationHost"
    refuseWhen (host.toList.any fun c => c = '/' || c = '?' || c = '#' || isWhitespace c)
      ⟨.invalidFormat, "events.destinationHost",
        "connection telemetry may contain a host only, never a full URL"⟩
    refuseWhen (port = 0)
      ⟨.outOfRange, "events.destinationPort", "destination port must be non-zero"⟩
    match client with
    | some identifier => validateText identifier 128 "events.clientIdentifier"
    | none => .ok ()
  | collectionStatus code _ => do
    validateText code 64 "events.code"
    refuseWhen (!code.toList.all isCodeChar)
      ⟨.invalidFormat, "events.code", "collection status code must use lowercase snake case"⟩
  | trafficDelta _ _ _ _ => .ok ()
  | quotaState _ _ _ => .ok ()

end TelemetryEventKind

structure TelemetryEvent where
  sequence : Nat
  occurredAt : Timestamp
  kind : TelemetryEventKind
  deriving DecidableEq, Repr

/-! ### Batches -/

def maxTelemetryBatchEvents : Nat := 1000

def maxTelemetryBatchBytes : Nat := 256 * 1024

def telemetrySchemaVersion : Nat := 1

/-- Bounded contiguous telemetry upload from one authenticated node. -/
structure TelemetryBatch where
  schemaVersion : Nat
  nodeId : NodeId
  firstSequence : Nat
  lastSequence : Nat
  events : List TelemetryEvent
  deriving DecidableEq, Repr

/-- The loop of `TelemetryBatch::validate`: every event is valid and follows its predecessor. -/
def validateEvents : Nat → List TelemetryEvent → Checked Unit
  | _, [] => .ok ()
  | expected, [event] => do
    refuseWhen (event.sequence ≠ expected)
      ⟨.sequenceGap, "events.sequence", "telemetry events must be ordered and contiguous"⟩
    event.kind.validate
  | expected, event :: next :: rest => do
    refuseWhen (event.sequence ≠ expected)
      ⟨.sequenceGap, "events.sequence", "telemetry events must be ordered and contiguous"⟩
    event.kind.validate
    match checkedNext expected with
    | some following => validateEvents following (next :: rest)
    | none => .error ⟨.outOfRange, "events.sequence",
        "telemetry sequence overflowed the protocol range"⟩

def TelemetryBatch.validate (b : TelemetryBatch) (supported : List Nat) : Checked Unit := do
  refuseWhen (b.schemaVersion ∉ supported)
    ⟨.unsupportedSchema, "schemaVersion", "telemetry schema version is not supported"⟩
  refuseWhen (b.events = [] ∨ b.events.length > maxTelemetryBatchEvents)
    ⟨.outOfRange, "events", "telemetry batch must contain between 1 and 1000 events"⟩
  refuseWhen (b.firstSequence = 0)
    ⟨.outOfRange, "firstSequence", "telemetry event sequences begin at one"⟩
  refuseWhen (b.events.head?.map (·.sequence) ≠ some b.firstSequence
      ∨ b.events.getLast?.map (·.sequence) ≠ some b.lastSequence)
    ⟨.sequenceGap, "firstSequence",
      "batch sequence bounds must match the first and last events"⟩
  validateEvents b.firstSequence b.events

/-- Durable ingestion acknowledgement; the same pair is the controller's cursor. -/
structure TelemetryCursor where
  /-- Highest sequence durably committed, or zero before the first event. -/
  acknowledgedSequence : Nat
  /-- Exact next sequence accepted for a new event. -/
  expectedSequence : Nat
  deriving DecidableEq, Repr

def TelemetryCursor.validate (c : TelemetryCursor) : Checked Unit :=
  refuseWhen (checkedNext c.acknowledgedSequence ≠ some c.expectedSequence)
    ⟨.sequenceGap, "expectedSequence",
      "expected sequence must immediately follow the durable acknowledgement"⟩

/-! ### What validation accepts -/

/-- The events carry the sequence numbers `first`, `first + 1`, … -/
def Contiguous : Nat → List TelemetryEvent → Prop
  | _, [] => True
  | first, event :: rest => event.sequence = first ∧ Contiguous (first + 1) rest

theorem checkedNext_eq_some {s n : Nat} :
    checkedNext s = some n ↔ s + 1 < i64Limit ∧ n = s + 1 := by
  unfold checkedNext
  split
  · rename_i h
    simp [h, eq_comm]
  · rename_i h
    simp [h]

variable {events : List TelemetryEvent} {first : Nat}

/-- Contiguous, individually valid events below the numeric limit pass the loop. -/
theorem validateEvents_ok
    (hseq : Contiguous first events) (hkind : ∀ e ∈ events, e.kind.validate = .ok ())
    (hlim : first + events.length ≤ i64Limit) : validateEvents first events = .ok () := by
  induction events generalizing first with
  | nil => rfl
  | cons event rest ih =>
    obtain ⟨rfl, hrest⟩ := hseq
    have hval := hkind event List.mem_cons_self
    cases rest with
    | nil => simp [validateEvents, bind_ok, hval]
    | cons next rest =>
      have hnext : checkedNext event.sequence = some (event.sequence + 1) := by
        refine checkedNext_eq_some.2 ⟨?_, rfl⟩
        simp only [List.length_cons] at hlim
        omega
      have htail := ih hrest (fun e he => hkind e (.tail _ he))
        (by simp only [List.length_cons] at hlim ⊢; omega)
      simp only [validateEvents, bind_ok, refuse_ok]
      exact ⟨(), by simp, (), hval, by rw [hnext]; exact htail⟩

theorem Contiguous.getLast (h : Contiguous first events) (hne : events ≠ []) :
    events.getLast?.map (·.sequence) = some (first + events.length - 1) := by
  induction events generalizing first with
  | nil => exact absurd rfl hne
  | cons event rest ih =>
    obtain ⟨rfl, hrest⟩ := h
    cases rest with
    | nil => simp
    | cons next rest =>
      have hlast := ih hrest (List.cons_ne_nil _ _)
      simp only [List.getLast?_cons_cons, List.length_cons] at hlast ⊢
      rw [hlast]
      congr 1
      omega

theorem Contiguous.le_sequence
    (h : Contiguous first events) : ∀ event ∈ events, first ≤ event.sequence := by
  induction events generalizing first with
  | nil => intro event hev; cases hev
  | cons head rest ih =>
    obtain ⟨rfl, hrest⟩ := h
    intro event hev
    rcases List.mem_cons.1 hev with rfl | hev
    · exact le_rfl
    · have hlat := ih hrest event hev
      omega

theorem Contiguous.nodup (h : Contiguous first events) : (events.map (·.sequence)).Nodup := by
  induction events generalizing first with
  | nil => exact List.nodup_nil
  | cons head rest ih =>
    obtain ⟨rfl, hrest⟩ := h
    refine List.nodup_cons.2 ⟨?_, ih hrest⟩
    intro hmem
    obtain ⟨event, hev, heq⟩ := List.mem_map.1 hmem
    have hlat := hrest.le_sequence event hev
    dsimp only at heq
    omega

def batchOf (node : NodeId) (first : Nat) (events : List TelemetryEvent) : TelemetryBatch where
  schemaVersion := telemetrySchemaVersion
  nodeId := node
  firstSequence := first
  lastSequence := first + events.length - 1
  events := events

theorem batchOf_validate (node : NodeId) (hfirst : 0 < first) (hne : events ≠ [])
    (hcount : events.length ≤ maxTelemetryBatchEvents) (hseq : Contiguous first events)
    (hlim : first + events.length ≤ i64Limit) (hkind : ∀ e ∈ events, e.kind.validate = .ok ()) :
    (batchOf node first events).validate [telemetrySchemaVersion] = .ok () := by
  have hhead : events.head?.map (·.sequence) = some first := by
    cases events with
    | nil => exact absurd rfl hne
    | cons event rest => exact congrArg some hseq.1
  simp only [TelemetryBatch.validate, batchOf, bind_ok]
  refine ⟨(), by simp, (), refuse_ok.2 ?_, (), refuse_ok.2 (by omega), (),
    refuse_ok.2 ?_, validateEvents_ok hseq hkind hlim⟩
  · rintro (h | h)
    · exact hne h
    · omega
  · rintro (h | h)
    · exact h hhead
    · exact h (hseq.getLast hne)

end RealityConsole.Protocol
