import RealityConsole.Framework.Calendar
import RealityConsole.Framework.Faults
import RealityConsole.Framework.Machine
import RealityConsole.Framework.SortedMap
import RealityConsole.RelayServer.Config

/-!
# Monthly quotas

The relay counts the bytes of every route and month in one file, which is replaced on a change; if
that fails, the store refuses all further calls. Clock readings enter only together with the highest
one that the file knows. JSON and permission checks are left out, but each of these steps can fail.
-/

namespace RealityConsole.RelayServer

open Framework

/-- `OffsetDateTime`: nanoseconds since the epoch, and the offset from UTC in seconds. -/
structure Moment where
  instant : Int
  offset : Int

instance : Preorder Moment where
  le a b := a.instant ≤ b.instant
  lt a b := a.instant < b.instant
  le_refl _ := Int.le_refl _
  le_trans _ _ _ := Int.le_trans
  lt_iff_le_not_ge _ _ := Int.lt_iff_le_and_not_ge

instance : DecidableLE Moment := fun a b => inferInstanceAs (Decidable (a.instant ≤ b.instant))

instance : DecidableLT Moment := fun a b => inferInstanceAs (Decidable (a.instant < b.instant))

def utc (value : Moment) : Moment := { value with offset := 0 }

/-- `Duration::days` -/
def days (n : Int) : Int := n * 86400000000000

def Moment.minus (moment : Moment) (duration : Int) : Moment :=
  { moment with instant := moment.instant - duration }

/-- `month_key`: the month at the moment's own offset. -/
def monthKey (moment : Moment) : MonthKey :=
  civilMonth ((moment.instant + moment.offset * 1000000000) / 86400000000000)

def retentionDays : Int := 62

def recordsPerConfiguredRoute : Nat := 8

def maxQuotaRecords : Nat := 65536

def stateSchemaVersion : Nat := 1

structure QuotaRecord where
  year : Int
  month : Int
  bytes : Nat
  retiredAt : Option Moment

def QuotaRecord.key (record : QuotaRecord) : MonthKey := toLex (record.year, record.month)

def QuotaRecord.start (month : MonthKey) : QuotaRecord :=
  ⟨(ofLex month).1, (ofLex month).2, 0, none⟩

structure QuotaState where
  schemaVersion : Nat
  clockHighWatermark : Moment
  records : SortedMap String QuotaRecord

/-! ### What a call does to the state -/

/-- `effective_now`; of two moments at one instant `max` is the second. -/
def effectiveNow (state : QuotaState) (now : Moment) : Moment :=
  if utc now ≤ state.clockHighWatermark then state.clockHighWatermark else utc now

/-- `roll_record`: the record after it, and whether it has changed. -/
def rollRecord (record : QuotaRecord) (currentMonth : MonthKey) : QuotaRecord × Bool :=
  if record.key < currentMonth then
    ({ record with
        year := (ofLex currentMonth).1
        month := (ofLex currentMonth).2
        bytes := 0 }, true)
  else (record, false)

/-- `active_record_mut` -/
def activeRecord (state : QuotaState) (routeId : String) : RelayResult QuotaRecord :=
  required ((state.records.lookup routeId).filter fun record => record.retiredAt.isNone)
    "relay_quota_route_unavailable"

/-- What `reconcile` does to a record that is kept. -/
def reconcileRecord (active : List String) (effectiveNow : Moment) (routeId : String)
    (record : QuotaRecord) : QuotaRecord × Bool :=
  if routeId ∈ active then
    let (rolled, changed) := rollRecord record (monthKey effectiveNow)
    ({ rolled with retiredAt := none }, changed || record.retiredAt.isSome)
  else if record.retiredAt.isNone then ({ record with retiredAt := some effectiveNow }, true)
  else (record, false)

/-- Whether `reconcile` keeps a record: it is in use, or not retired for long. -/
def isRetained (effectiveNow : Moment) (record : QuotaRecord) : Bool :=
  record.retiredAt.all fun retiredAt => effectiveNow.minus (days retentionDays) < retiredAt

/-- The records that `reconcile` keeps. -/
def retainedRecords (state : QuotaState) (effectiveNow : Moment) :
    SortedMap String QuotaRecord :=
  state.records.retainEntries fun _ record => isRetained effectiveNow record

/-- The last loop of `reconcile`: records for the routes that have none. -/
def insertRecords (maxRecords : Nat) (currentMonth : MonthKey) :
    List String → SortedMap String QuotaRecord × Bool →
      RelayResult (SortedMap String QuotaRecord × Bool)
  | [], (records, changed) => .ok (records, changed)
  | routeId :: routeIds, (records, changed) =>
    if records.hasKey routeId then
      insertRecords maxRecords currentMonth routeIds (records, changed)
    else if maxRecords ≤ records.length then .error "relay_quota_record_capacity_exceeded"
    else
      insertRecords maxRecords currentMonth routeIds
        (records.store routeId (QuotaRecord.start currentMonth), true)

/-- `reconcile`: the state to commit, if anything changes. -/
def reconcile (state : QuotaState) (maxRecords : Nat) (activeRouteIds : List String)
    (now : Moment) : RelayResult (Option QuotaState × Unit) := do
  refuseWhen (maxRecords < activeRouteIds.dedup.length) "relay_quota_record_capacity_exceeded"
  let effectiveNow := effectiveNow state now
  let kept := retainedRecords state effectiveNow
  let changed := kept.length ≠ state.records.length ||
    kept.any fun entry => (reconcileRecord activeRouteIds effectiveNow entry.1 entry.2).2
  let records := kept.mapValues fun routeId record =>
    (reconcileRecord activeRouteIds effectiveNow routeId record).1
  let (records, changed) ← insertRecords maxRecords (monthKey effectiveNow) activeRouteIds
    (records, changed)
  return (if changed then
      some { state with clockHighWatermark := effectiveNow, records := records } else none, ())

def permitsNewStream (state : QuotaState) (routeId : String) (limit : Nat) (now : Moment) :
    RelayResult (Option QuotaState × Bool) := do
  let effectiveNow := effectiveNow state now
  let record ← activeRecord state routeId
  let (record, changed) := rollRecord record (monthKey effectiveNow)
  return (if changed then
      some { state with
        clockHighWatermark := effectiveNow, records := state.records.store routeId record }
    else none, record.bytes < limit)

def reserve (state : QuotaState) (routeId : String) (limit requested : Nat) (now : Moment) :
    RelayResult (Option QuotaState × Nat) := do
  let effectiveNow := effectiveNow state now
  let record ← activeRecord state routeId
  let (record, _) := rollRecord record (monthKey effectiveNow)
  let granted := min requested (limit - record.bytes)
  if granted = 0 then return (none, 0)
  refuseWhen (2 ^ 64 ≤ record.bytes + granted) "relay_quota_counter_overflow"
  return (some { state with
      clockHighWatermark := effectiveNow
      records := state.records.store routeId { record with bytes := record.bytes + granted } },
    granted)

/-! ### The file and the process -/

/-- The directory: the state file, and whether the temporary file is there. -/
structure QuotaDirectory where
  state : Option QuotaState
  temporary : Bool

/-- `StoreStatus`, with the capacity of the store. -/
structure StoreStatus where
  state : QuotaState
  poisoned : Bool
  maxRecords : Nat

structure QuotaProcess where
  directory : QuotaDirectory
  status : Option StoreStatus

abbrev QuotaProgram := Faulty QuotaProcess RelayError

/-- Puts the temporary file in the place of the state file. -/
def QuotaProcess.replace (process : QuotaProcess) (state : QuotaState) : QuotaProcess :=
  { process with directory := ⟨some state, false⟩ }

/-- Creates or removes the temporary file. -/
def QuotaProcess.setTemporary (process : QuotaProcess) (there : Bool) : QuotaProcess :=
  { process with directory := { process.directory with temporary := there } }

/-- The file operations of `persist_state`. -/
def replaceStateFile (state : QuotaState) : QuotaProgram Unit := do
  Faulty.inspect (fun process =>
    if process.directory.temporary then .error "relay_quota_temporary_create_failed" else .ok ())
    "relay_quota_temporary_create_failed"
  Faulty.effect (·.setTemporary true) "relay_quota_temporary_create_failed"
  Faulty.effect id "relay_quota_state_write_failed"
  Faulty.effect id "relay_quota_state_sync_failed"
  Faulty.effect (·.replace state) "relay_quota_state_replace_failed"
  Faulty.effect id "relay_quota_directory_sync_failed"

def persistState (state : QuotaState) : QuotaProgram Unit := do
  Faulty.effect id "relay_quota_directory_permissions_invalid"
  Faulty.effect id "relay_quota_state_size_invalid"
  (replaceStateFile state).rescue fun e => do
    -- a failure to remove the temporary file is ignored
    (Faulty.effect (·.setTemporary false) e).rescue fun _ => pure ()
    Faulty.fail e

/-- A failed write stops the store. -/
def QuotaProcess.poison (process : QuotaProcess) : QuotaProcess :=
  { process with status := process.status.map fun status => { status with poisoned := true } }

def QuotaProcess.advance (process : QuotaProcess) (state : QuotaState) : QuotaProcess :=
  { process with status := process.status.map fun status => { status with state := state } }

def commit (candidate : QuotaState) : QuotaProgram Unit := do
  (persistState candidate).rescue fun e => do
    Faulty.note (·.poison)
    Faulty.fail e
  Faulty.note (·.advance candidate)

def locked {α : Type} (plan : StoreStatus → RelayResult (Option QuotaState × α)) :
    QuotaProgram α := fun s =>
  match s.state.status with
  | none => Faulty.fail "relay_quota_worker_failed" s
  | some status =>
    -- `ensure_healthy`
    if status.poisoned then Faulty.fail "relay_quota_state_poisoned" s
    else match plan status with
      | .error e => Faulty.fail e s
      | .ok (none, result) => (s, .ok result)
      | .ok (some candidate, result) => (commit candidate >>= fun _ => pure result) s

def validateState (state : QuotaState) (maxRecords : Nat) : RelayResult Unit := do
  refuseWhen (state.schemaVersion ≠ stateSchemaVersion ∨ state.clockHighWatermark.offset ≠ 0 ∨
      maxRecords < state.records.length)
    "relay_quota_state_invalid"
  refuseWhen (state.records.any fun entry =>
      !(validateRouteId entry.1).isOk || entry.2.month < 1 || 12 < entry.2.month ||
        monthKey state.clockHighWatermark < entry.2.key ||
        entry.2.retiredAt.any fun retiredAt =>
          retiredAt.offset ≠ 0 || state.clockHighWatermark < retiredAt)
    "relay_quota_state_invalid"

def openBlocking (maxRoutes : Nat) (now : Moment) : QuotaProgram Unit := do
  Faulty.effect id "relay_quota_directory_permissions_invalid"
  Faulty.refuseWhen (maxQuotaRecords / recordsPerConfiguredRoute < maxRoutes)
    "relay_quota_route_capacity_exceeded"
  -- a temporary file that cannot be looked at counts as absent
  let incomplete ← (Faulty.inspect (fun process => .ok process.directory.temporary)
    "relay_quota_state_unavailable").rescue fun _ => pure false
  Faulty.refuseWhen (incomplete = true) "relay_quota_incomplete_write"
  let maxRecords := max (min (maxRoutes * recordsPerConfiguredRoute) maxQuotaRecords) maxRoutes
  let stored ← Faulty.inspect (fun process => .ok process.directory.state)
    "relay_quota_state_unavailable"
  match stored with
  | some state =>
    Faulty.refuseWhen ((validateState state maxRecords).isOk = false) "relay_quota_state_invalid"
    Faulty.note fun process => { process with status := some ⟨state, false, maxRecords⟩ }
  | none =>
    let state : QuotaState := ⟨stateSchemaVersion, utc now, []⟩
    persistState state
    Faulty.note fun process => { process with status := some ⟨state, false, maxRecords⟩ }

/-! ### Runs -/

/-- Bytes that a call of `reserve` has granted, with the month in which it did. -/
structure Grant where
  routeId : String
  month : MonthKey
  bytes : Nat

/-- The process and everything granted so far. -/
structure QuotaWorld where
  process : QuotaProcess
  grants : List Grant

/-- Every call comes with the clock reading it takes and with what goes wrong in its file
operations. -/
inductive QuotaLabel where
  | openStore (maxRoutes : Nat) (now : Moment) (faults : List Fault)
  | reconcile (activeRouteIds : List String) (now : Moment) (faults : List Fault)
  | permitsNewStream (routeId : String) (limit : Nat) (now : Moment) (faults : List Fault)
  | reserve (routeId : String) (limit requested : Nat) (now : Moment) (faults : List Fault)
  /-- The process ends, in order or not. -/
  | crash
  /-- An operator removes what is left of an interrupted write. -/
  | removeTemporary

/-- The world after a call; a crash takes the store along. -/
def QuotaWorld.after {α : Type} (w : QuotaWorld) (grants : α → List Grant) :
    Scripted QuotaProcess × Except (Stop RelayError) α → QuotaWorld
  | (s, .ok result) => ⟨s.state, w.grants ++ grants result⟩
  | (s, .error (.error _)) => ⟨s.state, w.grants⟩
  | (s, .error .crash) => ⟨{ s.state with status := none }, w.grants⟩

/-- What a call of `reserve` that returns has granted. A request for nothing takes no lock. -/
def reserveGrants (status : StoreStatus) (routeId : String) (now : Moment) (granted : Nat) :
    List Grant :=
  [⟨routeId, monthKey (effectiveNow status.state now), granted⟩]

/-- One directory, used by one process at a time. -/
def quotaSystem : Machine QuotaWorld QuotaLabel where
  init w := w = ⟨⟨⟨none, false⟩, none⟩, []⟩
  next w
    | .openStore maxRoutes now faults =>
      if w.process.status.isSome then none
      else some (w.after (fun _ => []) (openBlocking maxRoutes now ⟨w.process, faults⟩))
    | .reconcile activeRouteIds now faults =>
      w.process.status.map fun _ => w.after (fun _ => []) <|
        locked (fun status => reconcile status.state status.maxRecords activeRouteIds now)
          ⟨w.process, faults⟩
    | .permitsNewStream routeId limit now faults =>
      w.process.status.map fun _ => w.after (fun _ => []) <|
        locked (fun status => permitsNewStream status.state routeId limit now)
          ⟨w.process, faults⟩
    | .reserve routeId limit requested now faults =>
      w.process.status.map fun status =>
        if requested = 0 then w
        else w.after (reserveGrants status routeId now) <|
          locked (fun status => reserve status.state routeId limit requested now)
            ⟨w.process, faults⟩
    | .crash => some { w with process := { w.process with status := none } }
    | .removeTemporary => some { w with process := w.process.setTemporary false }

def granted (grants : List Grant) (routeId : String) (month : MonthKey) : Nat :=
  ((grants.filter fun grant => grant.routeId = routeId ∧ grant.month = month).map (·.bytes)).sum

end RealityConsole.RelayServer
