import RealityConsole.Framework.SortedMap
import RealityConsole.RelayProvisioning.Model
import RealityConsole.RelayServer.Registry

/-!
# The managed route directory, file by file

`ManagedRouteStore` publishes a document through a temporary file in the directory that the
relay scans. Here every file operation is a step of its own; calls run at the same time, each
operation may fail, and the controller may crash between any two of them.
-/

namespace RealityConsole.RouteStore

open Framework Protocol Controller RelayServer RelayProvisioning

variable (codec : RouteCodec) (key : PublicKey)

/-- `temporary_path`, with the random number in it. -/
def temporaryPath (grantId : RelayGrantId) (random : Nat) : String :=
  "." ++ grantId.text ++ "-" ++ toString random ++ ".tmp"

/-! ### Calls -/

/-- Where a call stands: the operation that comes next. -/
inductive Call where
  /-- `publish` looks for the destination. -/
  | look (route : SignedRelayRoute)
  | create (route : SignedRelayRoute) (temporary : String)
  | write (route : SignedRelayRoute) (temporary : String)
  | sync (route : SignedRelayRoute) (temporary : String)
  | rename (route : SignedRelayRoute) (temporary : String)
  /-- The directory is synced after a publication. -/
  | finish (temporary : String)
  /-- A publication has failed; what is left of its temporary file is removed. -/
  | cleanUp (temporary : String)
  /-- `revoke` looks for the document. -/
  | find (grantId : RelayGrantId)
  | remove (grantId : RelayGrantId)
  /-- The directory is synced after a removal. -/
  | finishRemoval

def Call.temporary : Call → Option String
  | .create _ temporary => some temporary
  | .write _ temporary => some temporary
  | .sync _ temporary => some temporary
  | .rename _ temporary => some temporary
  | .finish temporary => some temporary
  | .cleanUp temporary => some temporary
  | _ => none

/-! ### The directory -/

variable {codec}

/-- The files, in no particular order. -/
abbrev Directory (codec : RouteCodec) := List (RouteFile codec)

namespace Directory

def has (directory : Directory codec) (name : String) : Bool :=
  directory.any fun file => file.name = name

/-- Creates a file; `bytes` is what a reader finds in it. -/
def create (directory : Directory codec) (name : String) (bytes : codec.Bytes) :
    Directory codec :=
  directory ++ [⟨name, bytes⟩]

def write (directory : Directory codec) (name : String) (bytes : codec.Bytes) :
    Directory codec :=
  directory.map fun file => if file.name = name then ⟨name, bytes⟩ else file

def remove (directory : Directory codec) (name : String) : Directory codec :=
  directory.filter fun file => file.name ≠ name

def rename (directory : Directory codec) (name newName : String) : Directory codec :=
  (directory.remove newName).map fun file =>
    if file.name = name then ⟨newName, file.bytes⟩ else file

end Directory

/-- What the environment decides about an operation: its outcome, the random number of a temporary
name, and what an unfinished file holds. -/
structure Choice (codec : RouteCodec) where
  io : Io
  random : Nat
  garbage : codec.Bytes

/-- The next operation of a call: the directory after it, and what follows. -/
def advance (directory : Directory codec) (choice : Choice codec) :
    Call → Directory codec × Option Call
  | .look route =>
    -- an existing document is the same, or the publication is refused
    if directory.has (routeFileName route.header.grantId) then (directory, none)
    else (directory, some (.create route (temporaryPath route.header.grantId choice.random)))
  | .create route temporary =>
    if directory.has temporary then (directory, some (.cleanUp temporary))
    else match choice.io with
      | .success => (directory.create temporary choice.garbage, some (.write route temporary))
      | .failed => (directory, some (.cleanUp temporary))
      | .failedAfter => (directory.create temporary choice.garbage, some (.cleanUp temporary))
  | .write route temporary =>
    match choice.io with
    | .success => (directory.write temporary (codec.encode route), some (.sync route temporary))
    | .failed => (directory.write temporary choice.garbage, some (.cleanUp temporary))
    | .failedAfter =>
      (directory.write temporary (codec.encode route), some (.cleanUp temporary))
  | .sync route temporary =>
    match choice.io with
    | .success => (directory, some (.rename route temporary))
    | _ => (directory, some (.cleanUp temporary))
  | .rename route temporary =>
    if directory.has temporary then
      match choice.io with
      | .success =>
        (directory.rename temporary (routeFileName route.header.grantId), some (.finish temporary))
      | .failed => (directory, some (.cleanUp temporary))
      | .failedAfter =>
        (directory.rename temporary (routeFileName route.header.grantId),
          some (.cleanUp temporary))
    else (directory, some (.cleanUp temporary))
  | .finish temporary =>
    match choice.io with
    | .success => (directory, none)
    | _ => (directory, some (.cleanUp temporary))
  | .cleanUp temporary =>
    match choice.io with
    | .failed => (directory, none)
    | _ => (directory.remove temporary, none)
  | .find grantId =>
    match choice.io with
    | .success =>
      (directory, if directory.has (routeFileName grantId) then some (.remove grantId) else none)
    | _ => (directory, none)
  | .remove grantId =>
    match choice.io with
    | .success => (directory.remove (routeFileName grantId), some .finishRemoval)
    | .failed => (directory, none)
    | .failedAfter => (directory.remove (routeFileName grantId), none)
  | .finishRemoval => (directory, none)

/-! ### The system -/

/-- The directory and the calls under way, each with a number. -/
structure Store (codec : RouteCodec) where
  directory : Directory codec
  calls : SortedMap Nat Call

inductive Label (codec : RouteCodec) where
  /-- `publish` is called with a document that the controller signed. -/
  | publish (call : Nat) (header : RelayAssignmentHeader) (token certificate : BitVec 256)
  /-- `revoke` is called. -/
  | revoke (call : Nat) (grantId : RelayGrantId)
  | advance (call : Nat) (choice : Choice codec)
  /-- The controller crashes; the directory stays as it is. -/
  | crash

/-- The checks of `publish` before it looks at the directory. -/
def publishable (codec : RouteCodec) (route : SignedRelayRoute) : Bool :=
  route.validate.isOk && codec.size (codec.encode route) ≤ RelayTables.maxRouteDocumentBytes

/-- A call goes on, or ends. -/
def Store.setCall (s : Store codec) (call : Nat) (directory : Directory codec) :
    Option Call → Store codec
  | some next => ⟨directory, s.calls.store call next⟩
  | none => ⟨directory, s.calls.remove call⟩

def step (key : PublicKey) (s : Store codec) : Label codec → Option (Store codec)
  | .publish call header token certificate =>
    let route := SignedRelayRoute.sign key header token certificate
    if s.calls.hasKey call then none
    else if publishable codec route then some { s with calls := s.calls.store call (.look route) }
    else some s
  | .revoke call grantId =>
    if s.calls.hasKey call then none
    else some { s with calls := s.calls.store call (.find grantId) }
  | .advance call choice =>
    (s.calls.lookup call).map fun current =>
      let (directory, next) := advance s.directory choice current
      s.setCall call directory next
  | .crash => some { s with calls := [] }

/-- Runs start with an empty directory. -/
def system (codec : RouteCodec) (key : PublicKey) : Machine (Store codec) (Label codec) where
  init s := s = ⟨[], []⟩
  next := step key

end RealityConsole.RouteStore
