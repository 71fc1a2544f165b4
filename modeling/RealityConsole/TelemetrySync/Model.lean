import RealityConsole.Framework.Machine
import RealityConsole.Controller.Telemetry
import RealityConsole.NodeHost.Traffic

/-!
# Telemetry between a node and its controller

The path of a traffic byte: the controller compiles a document, the node applies it and samples
the counters of the users it serves, the samples become spooled events, and the spool is uploaded
batch by batch.
-/

namespace RealityConsole.TelemetrySync

open Framework Protocol Controller NodeHost

/-! ### State -/

/-- The controller's tables about one node, and the node. -/
structure World where
  node : NodeId
  status : NodeStatus
  members : Members
  /-- The canaries of the node, of all generations. -/
  canaries : List CanaryCredential
  lastRevision : Revision
  /-- The documents signed for the node. -/
  documents : List AppliedState
  tables : TelemetryTables
  host : Traffic

def emptyTables : TelemetryTables where
  acknowledgedSequence := 0
  events := []
  hourly := fun _ => none
  daily := fun _ => none
  detailedEnabled := false
  detailedRetentionDays := 30

/-- An approved node that has no desired document yet. -/
def initial (node : NodeId) (members : Members) : World where
  node := node
  status := .active
  members := members
  canaries := []
  lastRevision := 0
  documents := []
  tables := emptyTables
  host := .initial

/-! ### Publication -/

/-- `publish_compiled_desired_state` on the tables modelled here. -/
def publishCompiled (w : World) (canaries : List CanaryCredential) (fresh : FreshCanary) :
    Option World :=
  match w.members.compileDesiredUsers w.node with
  | .error _ => none
  | .ok users =>
    let (canary, canaries) := ensureEndpointCanaryCredential canaries w.node fresh
    some { w with
      canaries
      lastRevision := w.lastRevision + 1
      documents := w.documents ++ [⟨w.lastRevision + 1, documentUsers users canary⟩] }

/-! ### Upload -/

inductive BatchOutcome where
  /-- The controller has everything. -/
  | drained
  /-- The controller has stored the batch. -/
  | accepted (batch : TelemetryBatch) (acknowledgement : TelemetryCursor)
  /-- The controller refuses the batch: the node aborts the sync. -/
  | refused (batch : TelemetryBatch) (error : TelemetryError)
  | mismatched
  | cursorRefused (error : TelemetryError)
  | batchFailed (error : SpoolError)
  deriving DecidableEq, Repr

/-- One batch goes to the controller and its acknowledgement is checked. -/
def sendBatch (enc : EventEncoding) (w : World) (receivedAt : Nat) (batch : TelemetryBatch) :
    TelemetryTables × BatchOutcome :=
  match uploadNodeTelemetry w.members w.node w.status receivedAt (enc.batchBytes batch)
      w.tables batch with
  | (tables, .error error) => (tables, .refused batch error)
  | (tables, .ok acknowledgement) =>
    if acknowledgement.validate = .ok ()
        ∧ acknowledgement.acknowledgedSequence = batch.lastSequence then
      (tables, .accepted batch acknowledgement)
    else (tables, .mismatched)

/-- One turn of the loop of `sync_telemetry`: the controller's tables afterwards, and what the node
learns. -/
def uploadBatch (enc : EventEncoding) (w : World) (receivedAt : Nat) :
    TelemetryTables × BatchOutcome :=
  match loadTelemetryCursor w.status w.tables with
  | .error error => (w.tables, .cursorRefused error)
  | .ok cursor =>
    match w.host.spool.batchFrom enc w.node cursor.expectedSequence with
    | .error error => (w.tables, .batchFailed error)
    | .ok none => (w.tables, .drained)
    | .ok (some batch) => sendBatch enc w receivedAt batch

/-- The node marks the batch if the acknowledgement arrives; an error of the local transaction
leaves the spool as it was. -/
def acknowledged (w : World) (outcome : BatchOutcome) (arrival : Option Nat) : Traffic :=
  match outcome, arrival with
  | .accepted _ acknowledgement, some now =>
    match w.host.spool.acknowledge acknowledgement now with
    | .ok spool => { w.host with spool }
    | .error _ => w.host
  | _, _ => w.host

/-! ### Steps -/

/-- What can happen, with the choices of the environment. -/
inductive Label where
  /-- The controller publishes a document. -/
  | publish (fresh : FreshCanary)
  /-- `rotate_protocol_canary` -/
  | rotateCanary (fresh : FreshCanary)
  /-- The node activates a published document. -/
  | apply (revision : Revision)
  /-- The node starts a new Xray process for the same document. -/
  | restart
  /-- One collection; `none` if the Stats API does not answer. -/
  | collect (answer : Option (List CollectedUserCounter)) (now flushedAt : Nat)
  /-- Another component spools an event about a user the node serves. -/
  | record (kind : TelemetryEventKind) (now : Nat)
  /-- One batch is uploaded; `none` if the response is lost. -/
  | upload (receivedAt : Nat) (arrival : Option Nat)
  /-- The operator changes the telemetry policy. -/
  | setPolicy (detailedEnabled : Bool) (detailedRetentionDays : Nat)
  /-- `enforce_telemetry_retention` -/
  | retain (now : Nat)

def step (enc : EventEncoding) (w : World) : Label → Option World
  | .publish fresh => publishCompiled w w.canaries fresh
  | .rotateCanary fresh =>
    if w.documents = [] then none
    else publishCompiled w (rotateCanary w.canaries w.node fresh) fresh
  | .apply revision =>
    (w.documents.find? fun d => d.revision = revision).map fun document =>
      { w with host := { w.host with
          applied := some document, generation := w.host.generation + 1 } }
  | .restart => some { w with host := { w.host with generation := w.host.generation + 1 } }
  | .collect answer now flushedAt =>
    (collectXrayTraffic enc w.host answer now flushedAt).toOption.map fun host => { w with host }
  | .record kind now =>
    if kind.userId?.all fun user => user ∈ w.host.enabledUsers then
      (recordTelemetryEvent enc w.host kind now).toOption.map fun host => { w with host }
    else none
  | .upload receivedAt arrival =>
    let (tables, outcome) := uploadBatch enc w receivedAt
    some { w with tables, host := acknowledged w outcome arrival }
  | .setPolicy detailedEnabled detailedRetentionDays =>
    some { w with tables := { w.tables with detailedEnabled, detailedRetentionDays } }
  | .retain now => some { w with tables := enforceTelemetryRetention now w.tables }

/-- Runs start with any well-formed member tables. -/
def system (enc : EventEncoding) : Machine World Label where
  init w := ∃ node members, members.WellFormed ∧ w = initial node members
  next := step enc

/-! ### Properties -/

/-- The identities the controller has used for canaries of the node. -/
def World.isCanary (w : World) (user : UserId) : Bool :=
  w.canaries.any fun c => c.userId = user

/-- The events that the controller has not stored yet. -/
def World.outstanding (w : World) : List TelemetryEvent :=
  w.host.spool.eventsFrom (w.tables.acknowledgedSequence + 1)

/-- No outstanding event is more than a day ahead of the controller's clock. -/
def World.WithinSkew (w : World) (receivedAt : Nat) : Prop :=
  ∀ event ∈ w.outstanding, event.occurredAt ≤ receivedAt + 86400

/-- The bucket totals with the outstanding traffic are signed 64-bit integers. -/
def World.WithinRange (w : World) : Prop :=
  Countable hourSeconds w.tables.hourly w.outstanding
    ∧ Countable daySeconds w.tables.daily w.outstanding

instance (w : World) (receivedAt : Nat) : Decidable (w.WithinSkew receivedAt) :=
  List.decidableBAll _ _

instance (w : World) : Decidable w.WithinRange := inferInstanceAs (Decidable (_ ∧ _))

/-- The controller has everything, or takes the next batch as a whole. -/
def BatchOutcome.isAccepted : BatchOutcome → Bool
  | drained => true
  | accepted _ _ => true
  | refused _ _ | mismatched | cursorRefused _ | batchFailed _ => false

/-- The world after one upload whose response is lost. -/
def World.afterUpload (enc : EventEncoding) (receivedAt : Nat) (w : World) : World :=
  { w with tables := (uploadBatch enc w receivedAt).1 }

/-- Repeated uploads bring everything to the controller, so a sync gets past its telemetry. -/
def World.Drains (enc : EventEncoding) (w : World) (receivedAt : Nat) : Prop :=
  ∃ n, (uploadBatch enc ((World.afterUpload enc receivedAt)^[n] w) receivedAt).2 = .drained

end RealityConsole.TelemetrySync
