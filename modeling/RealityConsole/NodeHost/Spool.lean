import Mathlib.Data.List.Sort
import Mathlib.Data.Nat.Log
import Mathlib.Logic.Relation
import RealityConsole.Protocol.Desired

/-!
# The telemetry spool of a node host

A bounded durable queue of telemetry events. A batch is the range that starts at the sequence the
controller expects; rows are kept until they are acknowledged and a retention period has passed. The
size of an event as JSON is a parameter (`EventEncoding`).

Source: `node-host/src/telemetry.rs`.
-/

namespace RealityConsole.NodeHost

open Protocol Framework

/-- Why the node refuses a telemetry operation. -/
inductive SpoolError where
  | spoolFull
  | sequenceZeroReserved
  | sequenceExhausted
  | invalidEvent (error : ProtocolValidationError)
  /-- A constraint of the schema refuses the statement. -/
  | constraint
  | cursorExpectsZero
  | cursorAheadOfSpool
  | noLongerRetained
  | retainedRangeEmpty
  | notContiguous (error : ProtocolValidationError)
  | invalidAcknowledgement (error : ProtocolValidationError)
  | acknowledgedUnknown
  | runtimeGenerationInvalid
  | runtimeChanged
  | pendingOverflow
  | usageOverflow
  | timestampOutOfRange
  deriving DecidableEq, Repr

/-- The size of an event as JSON text: UTF-8 has at most four bytes a character. -/
structure EventEncoding where
  bytes : TelemetryEvent → Nat
  characters : TelemetryEvent → Nat
  bytes_le : ∀ event, bytes event ≤ 4 * characters event

/-- The fields of an event's kind, behind its tag. -/
def kindFields : TelemetryEventKind → List (String × List Char)
  | .trafficDelta userId bytesUp bytesDown connectionCount =>
    [("type", Json.quote "trafficDelta".toList), ("userId", Json.quote userId.text.toList),
      ("bytesUp", Json.number bytesUp.get), ("bytesDown", Json.number bytesDown.get),
      ("connectionCount", Json.number connectionCount.get)]
  | .connection userId protocol destinationHost destinationPort clientIdentifier =>
    [("type", Json.quote "connection".toList), ("userId", Json.quote userId.text.toList),
      ("protocol", Json.quote (if protocol = .tcp then "tcp" else "udp").toList),
      ("destinationHost", Json.quote destinationHost.toList),
      ("destinationPort", Json.number destinationPort.toNat),
      ("clientIdentifier", clientIdentifier.elim "null".toList (Json.quote ·.toList))]
  | .collectionStatus code recovered =>
    [("type", Json.quote "collectionStatus".toList), ("code", Json.quote code.toList),
      ("recovered", Json.boolean recovered)]
  | .quotaState userId status remainingBytes =>
    [("type", Json.quote "quotaState".toList), ("userId", Json.quote userId.text.toList),
      ("status", Json.quote (match status with
        | .normal => "normal"
        | .nearingLimit => "nearingLimit"
        | .exceeded => "exceeded").toList),
      ("remainingBytes", remainingBytes.elim "null".toList (Json.number ·.get))]

/-- The event as `serde_json` writes it, for times in whole seconds. -/
def eventJson (event : TelemetryEvent) : List Char :=
  Json.object ([("sequence", Json.number event.sequence),
    ("occurredAt", Json.quote (rfc3339 event.occurredAt))] ++ kindFields event.kind)

/-- The sizes of these texts. -/
def jsonEncoding : EventEncoding where
  bytes event := Json.bytes (eventJson event)
  characters event := (eventJson event).length
  bytes_le event := Json.bytes_le_length (eventJson event)

/-! ### The spool -/

def maxUnacknowledgedEvents : Nat := 10000
def maxTotalEvents : Nat := 100000
def maxSpoolBytes : Nat := 64 * 1024 * 1024
def maxUploadEvents : Nat := 512
def acknowledgedRetentionSeconds : Nat := 7 * 24 * 60 * 60

/-- A row of `telemetry_spool`. -/
structure SpoolRow where
  event : TelemetryEvent
  createdAt : Nat
  acknowledgedAt : Option Nat

/-- `telemetry_spool_state` and the rows of `telemetry_spool` in sequence order. -/
structure Spool where
  nextSequence : Nat
  acknowledgedSequence : Nat
  rows : List SpoolRow

namespace Spool

def empty : Spool where
  nextSequence := 1
  acknowledgedSequence := 0
  rows := []

def purgeAcknowledged (s : Spool) (now : Nat) : Spool :=
  { s with
    rows := s.rows.filter fun row =>
      !row.acknowledgedAt.any fun t => t < now - acknowledgedRetentionSeconds }

/-- The bound on the spool: no unacknowledged event is ever discarded for room. -/
def isFull (enc : EventEncoding) (s : Spool) : Bool :=
  maxUnacknowledgedEvents ≤ s.rows.countP (·.acknowledgedAt.isNone)
    || maxTotalEvents ≤ s.rows.length
    || maxSpoolBytes ≤ (s.rows.map fun row => enc.characters row.event).sum

def enqueueInTransaction (enc : EventEncoding) (s : Spool) (kind : TelemetryEventKind)
    (occurredAt now : Nat) : Except SpoolError Spool := do
  refuseWhen (s.isFull enc) .spoolFull
  refuseWhen (s.nextSequence = 0) .sequenceZeroReserved
  let event : TelemetryEvent := ⟨s.nextSequence, occurredAt, kind⟩
  -- the event is validated as a batch of its own, under a throwaway node identity
  ((batchOf 0 s.nextSequence [event]).validate [telemetrySchemaVersion]).mapError .invalidEvent
  refuseWhen (enc.characters event < 2 ∨ 16384 < enc.characters event) .constraint
  refuseWhen (i64Limit ≤ s.nextSequence + 1) .sequenceExhausted
  .ok { s with nextSequence := s.nextSequence + 1, rows := s.rows ++ [⟨event, now, none⟩] }

def enqueue (enc : EventEncoding) (s : Spool) (kind : TelemetryEventKind)
    (occurredAt now : Nat) : Except SpoolError Spool :=
  (s.purgeAcknowledged now).enqueueInTransaction enc kind occurredAt now

/-- Later events join the batch while it stays within half of the request bound. -/
def uploadRest (enc : EventEncoding) (bytes : Nat) : List TelemetryEvent → List TelemetryEvent
  | [] => []
  | event :: rest =>
    if bytes + enc.bytes event > maxTelemetryBatchBytes / 2 then []
    else event :: uploadRest enc (bytes + enc.bytes event) rest

/-- The loop of `batch_from`: the first event always goes. -/
def uploadPrefix (enc : EventEncoding) : List TelemetryEvent → List TelemetryEvent
  | [] => []
  | event :: rest => event :: uploadRest enc (enc.bytes event) rest

def eventsFrom (s : Spool) (expected : Nat) : List TelemetryEvent :=
  (s.rows.map (·.event)).filter fun event => expected ≤ event.sequence

def batchFrom (enc : EventEncoding) (s : Spool) (node : NodeId) (expected : Nat) :
    Except SpoolError (Option TelemetryBatch) := do
  refuseWhen (expected = 0) .cursorExpectsZero
  if expected = s.nextSequence then .ok none
  else
    refuseWhen (expected > s.nextSequence) .cursorAheadOfSpool
    refuseWhen (s.rows.all fun row => expected < row.event.sequence) .noLongerRetained
    let events := uploadPrefix enc ((s.eventsFrom expected).take maxUploadEvents)
    match events.head?, events.getLast? with
    | some first, some last => do
      let batch : TelemetryBatch :=
        ⟨telemetrySchemaVersion, node, first.sequence, last.sequence, events⟩
      (batch.validate [telemetrySchemaVersion]).mapError .notContiguous
      .ok (some batch)
    | _, _ => .error .retainedRangeEmpty

/-- Marks what the controller has newly stored; the clock must not be behind the rows. -/
def markAcknowledged (s : Spool) (acknowledged now : Nat) : Except SpoolError Spool :=
  if s.acknowledgedSequence < acknowledged then do
    refuseWhen (s.rows.any fun row => row.event.sequence ≤ acknowledged
        && row.acknowledgedAt.isNone && now < row.createdAt) .constraint
    .ok { s with
      acknowledgedSequence := acknowledged
      rows := s.rows.map fun row =>
        if row.event.sequence ≤ acknowledged then
          { row with acknowledgedAt := some (row.acknowledgedAt.getD now) }
        else row }
  else .ok s

def acknowledge (s : Spool) (acknowledgement : TelemetryCursor) (now : Nat) :
    Except SpoolError Spool := do
  acknowledgement.validate.mapError .invalidAcknowledgement
  refuseWhen (s.nextSequence ≤ acknowledgement.acknowledgedSequence) .acknowledgedUnknown
  let marked ← s.markAcknowledged acknowledgement.acknowledgedSequence now
  .ok (marked.purgeAcknowledged now)

end Spool

def decimalLength (n : Nat) : Nat := Nat.log 10 n + 1

/-- The length of a batch as JSON: the object around the events and the commas between them. -/
def EventEncoding.batchBytes (enc : EventEncoding) (batch : TelemetryBatch) : Nat :=
  -- {"schemaVersion":N,"nodeId":"<36>","firstSequence":N,"lastSequence":N,"events":[...]}
  111 + decimalLength batch.schemaVersion + decimalLength batch.firstSequence
    + decimalLength batch.lastSequence + (batch.events.map enc.bytes).sum
    + (batch.events.length - 1)

/-! ### Well-formed spools -/

structure Spool.WellFormed (enc : EventEncoding) (s : Spool) : Prop where
  next_lt : s.nextSequence < i64Limit
  acknowledged_lt : s.acknowledgedSequence < s.nextSequence
  sorted : (s.rows.map (·.event.sequence)).Pairwise (· < ·)
  lt_next : ∀ row ∈ s.rows, row.event.sequence < s.nextSequence
  kept : ∀ n, s.acknowledgedSequence < n → n < s.nextSequence →
    ∃ row ∈ s.rows, row.event.sequence = n
  unmarked : ∀ row ∈ s.rows, row.acknowledgedAt.isSome = true →
    row.event.sequence ≤ s.acknowledgedSequence
  valid : ∀ row ∈ s.rows, row.event.kind.validate = .ok ()
  small : ∀ row ∈ s.rows, enc.characters row.event ≤ 16384

namespace Spool

variable {enc : EventEncoding} {s s' : Spool}

theorem empty_wellFormed (enc : EventEncoding) : empty.WellFormed enc where
  next_lt := by decide
  acknowledged_lt := by decide
  sorted := List.Pairwise.nil
  lt_next row hrow := by cases hrow
  kept n hlow hhigh := by
    simp only [empty] at hlow hhigh
    omega
  unmarked row hrow := by cases hrow
  valid row hrow := by cases hrow
  small row hrow := by cases hrow

theorem mem_purge {now : Nat} {row : SpoolRow} (h : row ∈ (s.purgeAcknowledged now).rows) :
    row ∈ s.rows :=
  List.mem_of_mem_filter h

theorem WellFormed.purge (h : s.WellFormed enc) (now : Nat) :
    (s.purgeAcknowledged now).WellFormed enc := { h with
  sorted := h.sorted.sublist ((List.filter_sublist).map _)
  lt_next row hrow := h.lt_next row (mem_purge hrow)
  kept n hlow hhigh := by
    obtain ⟨row, hrow, rfl⟩ := h.kept n hlow hhigh
    refine ⟨row, List.mem_filter.2 ⟨hrow, ?_⟩, rfl⟩
    cases hmark : row.acknowledgedAt with
    | none => rfl
    | some t =>
      -- a marked row is acknowledged, so it is not in the range
      have hle := h.unmarked row hrow (by rw [hmark]; rfl)
      exact absurd hlow (Nat.not_lt.2 hle)
  unmarked row hrow := h.unmarked row (mem_purge hrow)
  valid row hrow := h.valid row (mem_purge hrow)
  small row hrow := h.small row (mem_purge hrow) }

variable {kind : TelemetryEventKind}

theorem enqueueInTransaction_ok {occurredAt now : Nat}
    (h : s.enqueueInTransaction enc kind occurredAt now = .ok s') :
    kind.validate = .ok () ∧ enc.characters ⟨s.nextSequence, occurredAt, kind⟩ ≤ 16384 ∧
      s.nextSequence + 1 < i64Limit ∧
      s' = { s with nextSequence := s.nextSequence + 1
                    rows := s.rows ++ [⟨⟨s.nextSequence, occurredAt, kind⟩, now, none⟩] } := by
  obtain ⟨_, h⟩ := rest_ok h
  obtain ⟨_, h⟩ := rest_ok h
  obtain ⟨_, hbat, h⟩ := bind_ok.1 h
  obtain ⟨_, hsize, h⟩ := bind_ok.1 h
  obtain ⟨_, hnext, h⟩ := bind_ok.1 h
  have hval : kind.validate = .ok () := by
    have hbat := mapError_ok.1 hbat
    simp only [TelemetryBatch.validate, batchOf, validateEvents, bind_ok] at hbat
    obtain ⟨_, -, _, -, _, -, _, -, _, -, hkind⟩ := hbat
    exact hkind
  have hsize := refuse_ok.1 hsize
  have hnext := refuse_ok.1 hnext
  cases h
  exact ⟨hval, by omega, by omega, rfl⟩

theorem WellFormed.enqueue (h : s.WellFormed enc) {occurredAt now : Nat}
    (henq : s.enqueueInTransaction enc kind occurredAt now = .ok s') : s'.WellFormed enc := by
  obtain ⟨hval, hsize, hlim, rfl⟩ := enqueueInTransaction_ok henq
  have hack := h.acknowledged_lt
  constructor
  case next_lt => exact hlim
  case acknowledged_lt =>
    show s.acknowledgedSequence < s.nextSequence + 1
    omega
  case sorted =>
    rw [List.map_append, List.pairwise_append]
    refine ⟨h.sorted, List.pairwise_singleton _ _, ?_⟩
    intro a ha b hb
    obtain ⟨row, hrow, rfl⟩ := List.mem_map.1 ha
    have hlt := h.lt_next row hrow
    simp only [List.map_cons, List.map_nil, List.mem_singleton] at hb
    omega
  case lt_next =>
    intro row hrow
    show row.event.sequence < s.nextSequence + 1
    rcases List.mem_append.1 hrow with hrow | hrow
    · have hlt := h.lt_next row hrow
      omega
    · rw [List.mem_singleton.1 hrow]
      exact Nat.lt_succ_self _
  case kept =>
    intro n hlow hhigh
    by_cases hn : n = s.nextSequence
    · exact ⟨_, List.mem_append_right _ (List.mem_singleton_self _), hn.symm⟩
    have hlt : n < s.nextSequence := by
      have hhigh : n < s.nextSequence + 1 := hhigh
      omega
    obtain ⟨row, hrow, heq⟩ := h.kept n hlow hlt
    exact ⟨row, List.mem_append_left _ hrow, heq⟩
  case unmarked =>
    intro row hrow hmark
    rcases List.mem_append.1 hrow with hrow | hrow
    · exact h.unmarked row hrow hmark
    · rw [List.mem_singleton.1 hrow] at hmark
      cases hmark
  case valid =>
    intro row hrow
    rcases List.mem_append.1 hrow with hrow | hrow
    · exact h.valid row hrow
    · rw [List.mem_singleton.1 hrow]
      exact hval
  case small =>
    intro row hrow
    rcases List.mem_append.1 hrow with hrow | hrow
    · exact h.small row hrow
    · rw [List.mem_singleton.1 hrow]
      exact hsize

/-! ### Growth -/

/-- The spool after any number of retention passes and of events of the kinds `ok`. -/
inductive Extends (enc : EventEncoding) (ok : TelemetryEventKind → Prop) (s : Spool) :
    Spool → Prop
  | refl : Extends enc ok s s
  | purge {t : Spool} (now : Nat) : Extends enc ok s t → Extends enc ok s (t.purgeAcknowledged now)
  | enqueue {t t' : Spool} {kind : TelemetryEventKind} {occurredAt now : Nat} :
      Extends enc ok s t → ok kind → t.enqueueInTransaction enc kind occurredAt now = .ok t' →
      Extends enc ok s t'

variable {ok : TelemetryEventKind → Prop}

theorem Extends.wellFormed (h : Extends enc ok s s') (hs : s.WellFormed enc) :
    s'.WellFormed enc := by
  induction h with
  | refl => exact hs
  | purge now _ ih => exact ih.purge now
  | enqueue _ _ henq ih => exact ih.enqueue henq

theorem Extends.acknowledgedSequence_eq (h : Extends enc ok s s') :
    s'.acknowledgedSequence = s.acknowledgedSequence := by
  induction h with
  | refl => rfl
  | purge now _ ih => exact ih
  | enqueue _ _ henq ih =>
    obtain ⟨-, -, -, rfl⟩ := enqueueInTransaction_ok henq
    exact ih

theorem Extends.nextSequence_le (h : Extends enc ok s s') : s.nextSequence ≤ s'.nextSequence := by
  induction h with
  | refl => exact le_rfl
  | purge now _ ih => exact ih
  | enqueue _ _ henq ih =>
    obtain ⟨-, -, -, rfl⟩ := enqueueInTransaction_ok henq
    exact Nat.le_succ_of_le ih

theorem Extends.kinds (h : Extends enc ok s s') {P : TelemetryEventKind → Prop}
    (hold : ∀ row ∈ s.rows, P row.event.kind) (hnew : ∀ kind, ok kind → P kind) :
    ∀ row ∈ s'.rows, P row.event.kind := by
  induction h with
  | refl => exact hold
  | purge now _ ih =>
    intro row hrow
    exact ih row (mem_purge hrow)
  | enqueue _ hok henq ih =>
    obtain ⟨-, -, -, rfl⟩ := enqueueInTransaction_ok henq
    intro row hrow
    rcases List.mem_append.1 hrow with hrow | hrow
    · exact ih row hrow
    · rw [List.mem_singleton.1 hrow]
      exact hnew _ hok

theorem Extends.mono {ok' : TelemetryEventKind → Prop} (h : Extends enc ok s s')
    (hle : ∀ kind, ok kind → ok' kind) : Extends enc ok' s s' := by
  induction h with
  | refl => exact .refl
  | purge now _ ih => exact .purge now ih
  | enqueue _ hok henq ih => exact .enqueue ih (hle _ hok) henq

theorem Extends.trans {t : Spool} (h : Extends enc ok s t) (h' : Extends enc ok t s') :
    Extends enc ok s s' := by
  induction h' with
  | refl => exact h
  | purge now _ ih => exact .purge now ih
  | enqueue _ hok henq ih => exact .enqueue ih hok henq

/-! ### Acknowledgement -/

/-- An acknowledgement marks or removes rows; the local cursor stays or moves to the acknowledged
sequence. -/
theorem acknowledge_ok {acknowledgement : TelemetryCursor} {now : Nat}
    (h : s.acknowledge acknowledgement now = .ok s') (hs : s.WellFormed enc) :
    s'.WellFormed enc ∧ s'.nextSequence = s.nextSequence ∧
      (s'.acknowledgedSequence = s.acknowledgedSequence ∨
        s'.acknowledgedSequence = acknowledgement.acknowledgedSequence) ∧
      ∀ row ∈ s'.rows, ∃ old ∈ s.rows, old.event = row.event := by
  obtain ⟨_, h⟩ := rest_ok h
  obtain ⟨_, hkn, h⟩ := bind_ok.1 h
  obtain ⟨marked, hmarked, h⟩ := bind_ok.1 h
  have hkn := refuse_ok.1 hkn
  cases h
  unfold markAcknowledged at hmarked
  split at hmarked
  · -- the rows up to the acknowledged sequence are marked
    rename_i hadv
    obtain ⟨_, hmarked⟩ := rest_ok hmarked
    cases hmarked
    have hev : ∀ row : SpoolRow,
        (if row.event.sequence ≤ acknowledgement.acknowledgedSequence then
          { row with acknowledgedAt := some (row.acknowledgedAt.getD now) } else row).event =
        row.event := by
      intro row
      split <;> rfl
    refine ⟨WellFormed.purge ?_ now, rfl, .inr rfl, ?_⟩
    · constructor
      case next_lt => exact hs.next_lt
      case acknowledged_lt =>
        show acknowledgement.acknowledgedSequence < s.nextSequence
        omega
      case sorted => simpa only [List.map_map, Function.comp_def, hev] using hs.sorted
      case lt_next =>
        intro row hrow
        obtain ⟨old, hold, rfl⟩ := List.mem_map.1 hrow
        rw [hev]
        exact hs.lt_next old hold
      case kept =>
        intro n hlow hhigh
        obtain ⟨old, hold, heq⟩ := hs.kept n (lt_trans hadv hlow) hhigh
        exact ⟨_, List.mem_map_of_mem hold, by rw [hev]; exact heq⟩
      case unmarked =>
        intro row hrow hmark
        obtain ⟨old, hold, rfl⟩ := List.mem_map.1 hrow
        rw [hev]
        by_cases hle : old.event.sequence ≤ acknowledgement.acknowledgedSequence
        · exact hle
        rw [if_neg hle] at hmark
        have hold' := hs.unmarked old hold hmark
        omega
      case valid =>
        intro row hrow
        obtain ⟨old, hold, rfl⟩ := List.mem_map.1 hrow
        rw [hev]
        exact hs.valid old hold
      case small =>
        intro row hrow
        obtain ⟨old, hold, rfl⟩ := List.mem_map.1 hrow
        rw [hev]
        exact hs.small old hold
    · intro row hrow
      obtain ⟨old, hold, rfl⟩ := List.mem_map.1 (mem_purge hrow)
      exact ⟨old, hold, (hev old).symm⟩
  · cases hmarked
    exact ⟨hs.purge now, rfl, .inl rfl, fun row hrow => ⟨row, mem_purge hrow, rfl⟩⟩

/-! ### Batches -/

variable {events : List TelemetryEvent} {first : Nat}

/-- Contiguous events are those that carry the consecutive numbers. -/
theorem contiguous_iff_map :
    Contiguous first events ↔ events.map (·.sequence) = List.range' first events.length := by
  induction events generalizing first with
  | nil => simp [Contiguous]
  | cons event rest ih => simp [Contiguous, ih, List.range'_succ]

variable {expected : Nat}

section Unacknowledged

variable (h : s.WellFormed enc) (hlow : s.acknowledgedSequence < expected)

include h hlow

/-- The range that is not acknowledged has no gap. -/
theorem WellFormed.eventsFrom_map : (s.eventsFrom expected).map (·.sequence) =
    List.range' expected (s.nextSequence - expected) := by
  have hmap : (s.eventsFrom expected).map (·.sequence) =
      (s.rows.map (·.event.sequence)).filter fun n => expected ≤ n := by
    simp only [eventsFrom, List.filter_map, List.map_map, Function.comp_def]
  have hsort : ((s.eventsFrom expected).map (·.sequence)).Pairwise (· < ·) := by
    rw [hmap]
    exact h.sorted.sublist List.filter_sublist
  have hmem : ∀ n, n ∈ (s.eventsFrom expected).map (·.sequence) ↔
      n ∈ List.range' expected (s.nextSequence - expected) := by
    intro n
    simp only [hmap, List.mem_filter, List.mem_map, List.mem_range'_1, decide_eq_true_eq]
    constructor
    · rintro ⟨⟨row, hrow, rfl⟩, hge⟩
      have hlt := h.lt_next row hrow
      omega
    · rintro ⟨hge, hlt⟩
      exact ⟨h.kept n (by omega) (by omega), hge⟩
  -- both sides are strictly increasing lists of the same numbers
  have hrange : (List.range' expected (s.nextSequence - expected)).Pairwise (· < ·) :=
    List.pairwise_lt_range'
  exact hsort.eq_of_mem_iff hrange hmem

theorem WellFormed.eventsFrom_length :
    (s.eventsFrom expected).length = s.nextSequence - expected := by
  have hlen := congrArg List.length (h.eventsFrom_map hlow)
  simpa using hlen

theorem WellFormed.eventsFrom_contiguous : Contiguous expected (s.eventsFrom expected) := by
  rw [contiguous_iff_map, h.eventsFrom_map hlow, h.eventsFrom_length hlow]

end Unacknowledged

theorem mem_eventsFrom {event : TelemetryEvent}
    (h : event ∈ s.eventsFrom expected) : ∃ row ∈ s.rows, row.event = event :=
  List.mem_map.1 (List.mem_of_mem_filter h)

theorem uploadRest_isPrefixOf (enc : EventEncoding) (bytes : Nat) (events : List TelemetryEvent) :
    uploadRest enc bytes events <+: events := by
  induction events generalizing bytes with
  | nil => exact List.prefix_refl _
  | cons event rest ih =>
    unfold uploadRest
    split
    · exact List.nil_prefix
    · exact List.prefix_cons_inj event |>.mpr (ih _)

theorem uploadPrefix_isPrefixOf (enc : EventEncoding) (events : List TelemetryEvent) :
    uploadPrefix enc events <+: events := by
  cases events with
  | nil => exact List.prefix_refl _
  | cons event rest => exact List.prefix_cons_inj event |>.mpr (uploadRest_isPrefixOf enc _ rest)

/-- Later events never take the batch beyond half of the request bound. -/
theorem uploadRest_bytes (enc : EventEncoding) {bytes : Nat} (events : List TelemetryEvent)
    (h : bytes ≤ maxTelemetryBatchBytes / 2) :
    bytes + ((uploadRest enc bytes events).map enc.bytes).sum ≤ maxTelemetryBatchBytes / 2 := by
  induction events generalizing bytes with
  | nil => simpa [uploadRest] using h
  | cons event rest ih =>
    unfold uploadRest
    split
    · simpa using h
    rename_i hfits
    have hrest := ih (Nat.not_lt.1 hfits)
    simp only [List.map_cons, List.sum_cons]
    omega

theorem contiguous_of_isPrefixOf {events all : List TelemetryEvent}
    (h : Contiguous first all) (hinit : events <+: all) : Contiguous first events := by
  induction events generalizing first all with
  | nil => trivial
  | cons event rest ih =>
    obtain ⟨tail, rfl⟩ := hinit
    exact ⟨h.1, ih h.2 (List.prefix_append rest tail)⟩

theorem contiguous_append {events rest : List TelemetryEvent} : Contiguous first (events ++ rest) ↔
    Contiguous first events ∧ Contiguous (first + events.length) rest := by
  induction events generalizing first with
  | nil => simp [Contiguous]
  | cons event tail ih =>
    simp only [List.cons_append, Contiguous, ih, List.length_cons, and_assoc]
    rw [Nat.add_right_comm, Nat.add_assoc]

theorem WellFormed.eventsFrom_split (h : s.WellFormed enc)
    (hlow : s.acknowledgedSequence < expected) (hinit : events <+: s.eventsFrom expected) :
    s.eventsFrom expected = events ++ s.eventsFrom (expected + events.length) := by
  obtain ⟨rest, hrest⟩ := hinit
  have hcontiguous := h.eventsFrom_contiguous hlow
  rw [← hrest, contiguous_append] at hcontiguous
  have hlat : s.eventsFrom (expected + events.length) =
      (s.eventsFrom expected).filter fun e => expected + events.length ≤ e.sequence := by
    unfold eventsFrom
    rw [List.filter_filter]
    refine List.filter_congr ?_
    intro e _
    by_cases hle : expected + events.length ≤ e.sequence
    · have hle' : expected ≤ e.sequence := by omega
      simp [hle, hle']
    · simp [hle]
  have hfirst : (events.filter fun e => expected + events.length ≤ e.sequence) = [] := by
    rw [List.filter_eq_nil_iff]
    intro e he
    have hmem : e.sequence ∈ events.map (·.sequence) := List.mem_map_of_mem he
    rw [contiguous_iff_map.1 hcontiguous.1, List.mem_range'_1] at hmem
    simp only [decide_eq_true_eq]
    omega
  have hsec : (rest.filter fun e => expected + events.length ≤ e.sequence) = rest := by
    rw [List.filter_eq_self]
    intro e he
    simpa using hcontiguous.2.le_sequence e he
  rw [hlat, ← hrest, List.filter_append, hfirst, hsec, List.nil_append]

theorem decimalLength_le {n : Nat} (h : n < i64Limit) : decimalLength n ≤ 19 := by
  have hlog : Nat.log 10 n < 19 := by
    rcases Nat.eq_zero_or_pos n with rfl | hpos
    · decide
    · refine Nat.log_lt_of_lt_pow (Nat.pos_iff_ne_zero.1 hpos) (lt_trans h ?_)
      decide
  unfold decimalLength
  omega

def uploadEvents (enc : EventEncoding) (s : Spool) (expected : Nat) : List TelemetryEvent :=
  uploadPrefix enc ((s.eventsFrom expected).take maxUploadEvents)

theorem uploadEvents_isPrefixOf (enc : EventEncoding) (s : Spool) (expected : Nat) :
    uploadEvents enc s expected <+: s.eventsFrom expected :=
  (uploadPrefix_isPrefixOf enc _).trans ( List.take_prefix _ _)

theorem uploadEvents_length (enc : EventEncoding) (s : Spool) (expected : Nat) :
    (uploadEvents enc s expected).length ≤ maxUploadEvents :=
  (uploadPrefix_isPrefixOf enc _).length_le.trans (List.length_take_le _ _)

theorem uploadEvents_ne_nil (h : s.eventsFrom expected ≠ []) :
    uploadEvents enc s expected ≠ [] := by
  unfold uploadEvents
  cases hevs : s.eventsFrom expected with
  | nil => exact absurd hevs h
  | cons event rest =>
    exact List.cons_ne_nil _ _

/-- A batch of a well-formed spool fits into a request. -/
theorem WellFormed.batchBytes_le (h : s.WellFormed enc) (node : NodeId)
    (hlow : s.acknowledgedSequence < expected) (hhigh : expected < s.nextSequence) :
    enc.batchBytes (batchOf node expected (uploadEvents enc s expected)) ≤
      maxTelemetryBatchBytes := by
  have hlim := h.next_lt
  have hcount := uploadEvents_length enc s expected
  have hlast : (uploadEvents enc s expected).length ≤ s.nextSequence - expected := by
    rw [← h.eventsFrom_length hlow]
    exact (uploadEvents_isPrefixOf enc s expected).length_le
  have hbs : ((uploadEvents enc s expected).map enc.bytes).sum ≤
      maxTelemetryBatchBytes / 2 := by
    unfold uploadEvents
    cases hevs : (s.eventsFrom expected).take maxUploadEvents with
    | nil => simp [uploadPrefix]
    | cons event rest =>
      have hmem : event ∈ s.eventsFrom expected := List.mem_of_mem_take (hevs ▸ List.mem_cons_self)
      obtain ⟨row, hrow, rfl⟩ := mem_eventsFrom hmem
      have hsmall := h.small row hrow
      have hfour := enc.bytes_le row.event
      have hfirst : enc.bytes row.event ≤ maxTelemetryBatchBytes / 2 := by
        have hhalf : maxTelemetryBatchBytes / 2 = 131072 := by decide
        omega
      simpa [uploadPrefix] using uploadRest_bytes enc rest hfirst
  have hschema : decimalLength telemetrySchemaVersion ≤ 19 := decimalLength_le (by decide)
  have hfirstLength : decimalLength expected ≤ 19 := decimalLength_le (by omega)
  have hlastLength : decimalLength (expected + (uploadEvents enc s expected).length - 1) ≤ 19 :=
    decimalLength_le (by omega)
  simp only [EventEncoding.batchBytes, batchOf, maxTelemetryBatchBytes, maxUploadEvents]
    at hbs hcount ⊢
  omega

theorem WellFormed.batchFrom_eq (h : s.WellFormed enc) (node : NodeId)
    (hlow : s.acknowledgedSequence < expected) (hhigh : expected ≤ s.nextSequence) :
    s.batchFrom enc node expected =
      .ok (if expected = s.nextSequence then none
        else some (batchOf node expected (uploadEvents enc s expected))) := by
  have hzero : ¬expected = 0 := by omega
  unfold batchFrom
  simp only [bind_ok, refuse_ok]
  refine ⟨(), hzero, ?_⟩
  by_cases hend : expected = s.nextSequence
  · rw [if_pos hend, if_pos hend]
  rw [if_neg hend, if_neg hend]
  have hlt : expected < s.nextSequence := by omega
  have hlim := h.next_lt
  have hinit := uploadEvents_isPrefixOf enc s expected
  have hcontiguous := contiguous_of_isPrefixOf (h.eventsFrom_contiguous hlow) hinit
  have hlen := h.eventsFrom_length hlow
  have hshort := hinit.length_le
  have hne : uploadEvents enc s expected ≠ [] := by
    refine uploadEvents_ne_nil ?_
    intro hnil
    rw [hnil, List.length_nil] at hlen
    omega
  have hkind : ∀ e ∈ uploadEvents enc s expected, e.kind.validate = .ok () := by
    intro e he
    obtain ⟨row, hrow, rfl⟩ := mem_eventsFrom (hinit.subset he)
    exact h.valid row hrow
  have hval := batchOf_validate node (by omega : 0 < expected) hne
    ((uploadEvents_length enc s expected).trans (by decide)) hcontiguous (by omega) hkind
  obtain ⟨row, hrow, hseq⟩ := h.kept expected hlow hlt
  have hretained : ¬(s.rows.all fun row => expected < row.event.sequence) = true := by
    intro hall
    have hrow' := List.all_eq_true.1 hall row hrow
    simp only [decide_eq_true_eq] at hrow'
    omega
  have hlast := hcontiguous.getLast hne
  -- the bounds of the batch are those of its events
  obtain ⟨first, rest, hevs⟩ := List.exists_cons_of_ne_nil hne
  have hfirst : first.sequence = expected := by
    rw [hevs] at hcontiguous
    exact hcontiguous.1
  obtain ⟨last, hlastEq⟩ : ∃ last, (uploadEvents enc s expected).getLast? = some last := by
    rw [hevs]
    exact ⟨_, List.getLast?_cons⟩
  have hlastSeq : last.sequence = expected + (uploadEvents enc s expected).length - 1 := by
    rw [hlastEq] at hlast
    exact Option.some.inj hlast
  simp only [bind_ok, refuse_ok]
  refine ⟨(), by omega, (), hretained, ?_⟩
  have hhead : (uploadEvents enc s expected).head? = some first := by rw [hevs]; rfl
  show (match (uploadEvents enc s expected).head?, (uploadEvents enc s expected).getLast? with
    | some first, some last => _
    | _, _ => _) = _
  rw [hhead, hlastEq]
  simp only [bind_ok, mapError_ok]
  refine ⟨(), ?_, ?_⟩
  · rw [hfirst, hlastSeq]
    exact hval
  · rw [hfirst, hlastSeq]
    rfl

end Spool

end RealityConsole.NodeHost
