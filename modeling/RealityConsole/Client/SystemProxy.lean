import RealityConsole.Framework.Faults
import RealityConsole.Framework.Outcome

/-!
# The system proxy

Connect writes the settings in force to a recovery journal, which stays until they have been
restored. The manager works over an adapter that changes the settings by commands, each of which can
fail: runs of `networksetup` on macOS, one call of WinINet on Windows. What the platform's tool does
with a command is a parameter of its adapter, and so is what it shows of the settings.
-/

namespace RealityConsole.Client.SystemProxy

open Framework

inductive ProxyError where
  | recoveryReadFailed
  | recoveryWriteFailed
  | recoveryClearFailed
  | recoveryIncompatible
  | recoveryCorrupt
  | applyRollbackFailed
  | noNetworkServices
  | authenticatedProxyUnsupported
  | commandFailed

/-- One part of a restoration: a command, or a complaint about the snapshot. -/
inductive RestoreStep (OS : Type) where
  | run (command : OS → OS)
  | complain (error : ProxyError)

/-- `SystemProxyAdapter`. The commands of `apply` stop at the first one that fails; those of
`restore` are all tried. -/
structure Adapter (OS Snapshot : Type) where
  platform : String
  capture : OS → Except ProxyError Snapshot
  apply : Snapshot → (socksPort httpPort : UInt16) → List (OS → OS)
  restore : Snapshot → List (RestoreStep OS)

structure RecoveryJournal (Snapshot : Type) where
  version : Nat
  platform : String
  snapshot : Snapshot

def journalVersion : Nat := 1

/-- The settings, the journal on disk, and the settings that the last `apply` captured. -/
structure World (OS Snapshot : Type) where
  os : OS
  journal : Option (RecoveryJournal Snapshot)
  before : OS

section
variable {OS Snapshot : Type} (A : Adapter OS Snapshot)

abbrev Program (OS Snapshot : Type) := Faulty (World OS Snapshot) ProxyError

def World.mapOS (f : OS → OS) (w : World OS Snapshot) : World OS Snapshot :=
  { w with os := f w.os }

def runCommands : List (OS → OS) → Program OS Snapshot Unit
  | [] => pure ()
  | command :: rest => do
    Faulty.effect (World.mapOS command) .commandFailed
    runCommands rest

def runSteps : List (RestoreStep OS) → Option ProxyError → Program OS Snapshot Unit
  | [], none => pure ()
  | [], some error => Faulty.fail error
  | .run command :: rest, first => do
    let failed ← Faulty.rescue (do
        Faulty.effect (World.mapOS command) .commandFailed
        return none)
      fun error => return some error
    runSteps rest (first.or failed)
  | .complain error :: rest, first => runSteps rest (first.or (some error))

def Adapter.journalOf (snapshot : Snapshot) : RecoveryJournal Snapshot :=
  { version := journalVersion, platform := A.platform, snapshot }

/-- `write_journal`: the file is written under a temporary name and put into place. -/
def writeJournal (journal : RecoveryJournal Snapshot) : Program OS Snapshot Unit :=
  Faulty.effect (fun w => { w with journal := some journal }) .recoveryWriteFailed

def readJournal : Program OS Snapshot (Option (RecoveryJournal Snapshot)) :=
  Faulty.inspect (fun w => .ok w.journal) .recoveryReadFailed

def removeJournal : Program OS Snapshot Unit :=
  Faulty.effect (fun w => { w with journal := none }) .recoveryClearFailed

def Adapter.compatible (journal : RecoveryJournal Snapshot) : Prop :=
  journal.version = journalVersion ∧ journal.platform = A.platform

instance (journal : RecoveryJournal Snapshot) : Decidable (A.compatible journal) :=
  inferInstanceAs (Decidable (_ ∧ _))

def restoreLocked : Program OS Snapshot Unit := do
  match ← readJournal with
  | none => pure ()
  | some journal =>
    Faulty.refuseWhen (¬ A.compatible journal) .recoveryIncompatible
    runSteps (A.restore journal.snapshot) none
    removeJournal

/-- `SystemProxyAdapter::capture`, remembering the settings that were captured. -/
def captureSettings : Program OS Snapshot Snapshot := do
  let snapshot ← Faulty.inspect (fun w => A.capture w.os) .commandFailed
  Faulty.note fun w => { w with before := w.os }
  return snapshot

/-- `SystemProxyManager::apply` -/
def applyProxy (socksPort httpPort : UInt16) : Program OS Snapshot Unit := do
  restoreLocked A
  let snapshot ← captureSettings A
  writeJournal (A.journalOf snapshot)
  Faulty.rescue (runCommands (A.apply snapshot socksPort httpPort)) fun applyError => do
    Faulty.rescue (restoreLocked A) fun _ => Faulty.fail .applyRollbackFailed
    Faulty.fail applyError

/-- `SystemProxyManager::restore_pending` -/
def restorePending : Program OS Snapshot Unit := restoreLocked A

end

/-! ### macOS -/

structure ProxySnapshot where
  enabled : Bool
  server : String
  port : UInt16
  authenticated : Bool
  deriving DecidableEq, Repr

structure AutoProxySnapshot where
  enabled : Bool
  url : Option String

structure ServiceSnapshot where
  name : String
  web : ProxySnapshot
  secureWeb : ProxySnapshot
  socks : ProxySnapshot
  autoProxy : AutoProxySnapshot
  autoDiscovery : Bool
  bypassDomains : List String

inductive ProxyKind where
  | web
  | secureWeb
  | socks

/-- The commands of `networksetup` that change settings. -/
inductive Command where
  /-- `-setwebproxy`, `-setsecurewebproxy` and `-setsocksfirewallproxy` without a password. -/
  | setProxy (kind : ProxyKind) (server : String) (port : UInt16)
  /-- `-setwebproxystate`, `-setsecurewebproxystate` and `-setsocksfirewallproxystate` -/
  | setProxyState (kind : ProxyKind) (enabled : Bool)
  | setAutoProxyUrl (url : String)
  | setAutoProxyState (enabled : Bool)
  | setProxyAutoDiscovery (enabled : Bool)
  | setProxyBypassDomains (domains : List String)

/-- The tool: what its `-get` commands show of the services that are not disabled, read as
`parse_services`, `parse_proxy` and their like read it, and what a command does for a service. -/
structure NetworkSetup (OS : Type) where
  services : OS → List ServiceSnapshot
  run : String → Command → OS → OS

section
variable {OS : Type} (tool : NetworkSetup OS)

def captureTyped (os : OS) : Except ProxyError (List ServiceSnapshot) := do
  refuseWhen (tool.services os = []) .noNetworkServices
  refuseWhen (∃ service ∈ tool.services os, service.web.authenticated = true ∨
    service.secureWeb.authenticated = true ∨ service.socks.authenticated = true)
    .authenticatedProxyUnsupported
  return tool.services os

/-- The commands of `apply` for one service. -/
def applyCommands (socksPort httpPort : UInt16) : List Command :=
  [.setProxy .web "127.0.0.1" httpPort,
    .setProxy .secureWeb "127.0.0.1" httpPort,
    .setProxy .socks "127.0.0.1" socksPort,
    .setProxyState .web true,
    .setProxyState .secureWeb true,
    .setProxyState .socks true,
    .setAutoProxyState false,
    .setProxyAutoDiscovery false,
    .setProxyBypassDomains ["localhost", "127.0.0.1", "::1"]]

/-- `run_mutation`: a command for a service, as a part of a restoration. -/
def runMutation (name : String) (command : Command) : RestoreStep OS :=
  .run (tool.run name command)

def restoreProxy (name : String) (kind : ProxyKind) (snapshot : ProxySnapshot) :
    List (RestoreStep OS) :=
  (if snapshot.server ≠ "" ∧ snapshot.port ≠ 0 then
    [runMutation tool name (.setProxy kind snapshot.server snapshot.port)]
  else if snapshot.enabled then [.complain .recoveryCorrupt]
  else []) ++
  [runMutation tool name (.setProxyState kind snapshot.enabled)]

def restoreService (service : ServiceSnapshot) : List (RestoreStep OS) :=
  restoreProxy tool service.name .web service.web ++
  restoreProxy tool service.name .secureWeb service.secureWeb ++
  restoreProxy tool service.name .socks service.socks ++
  (match service.autoProxy.url with
    | some url => [runMutation tool service.name (.setAutoProxyUrl url)]
    | none => []) ++
  [runMutation tool service.name (.setAutoProxyState service.autoProxy.enabled),
    runMutation tool service.name (.setProxyAutoDiscovery service.autoDiscovery),
    runMutation tool service.name (.setProxyBypassDomains
      (if service.bypassDomains = [] then ["Empty"] else service.bypassDomains))]

/-- `MacOsProxyAdapter` -/
def macAdapter : Adapter OS (List ServiceSnapshot) where
  platform := "macos"
  capture := captureTyped tool
  apply snapshot socksPort httpPort := snapshot.flatMap fun service =>
    (applyCommands socksPort httpPort).map (tool.run service.name)
  restore snapshot := snapshot.flatMap (restoreService tool)

end

/-! ### Windows -/

structure WindowsSnapshot where
  flags : UInt32
  proxyServer : Option String
  proxyOverride : Option String
  autoConfigUrl : Option String
  autoDiscoveryFlags : UInt32
  deriving DecidableEq, Repr

/-- The options of a connection, `INTERNET_PER_CONN_FLAGS` and the others. -/
inductive ConnectionOption where
  | flags (value : UInt32)
  | proxyServer (value : Option String)
  | proxyBypass (value : Option String)
  | autoConfigUrl (value : Option String)
  | autoDiscoveryFlags (value : UInt32)

/-- The calls of WinINet: `InternetQueryOptionW` and `InternetSetOptionW`. -/
structure WinInet (OS : Type) where
  query : OS → WindowsSnapshot
  set : List ConnectionOption → OS → OS

def windowsProxyServer (socksPort httpPort : UInt16) : String :=
  "http=127.0.0.1:" ++ toString httpPort.toNat ++ ";https=127.0.0.1:" ++ toString httpPort.toNat
    ++ ";socks=127.0.0.1:" ++ toString socksPort.toNat

def WindowsSnapshot.options (snapshot : WindowsSnapshot) : List ConnectionOption :=
  [.flags snapshot.flags, .proxyServer snapshot.proxyServer, .proxyBypass snapshot.proxyOverride,
    .autoConfigUrl snapshot.autoConfigUrl, .autoDiscoveryFlags snapshot.autoDiscoveryFlags]

/-- `WindowsProxyAdapter`. The flags of `apply` are `PROXY_TYPE_DIRECT | PROXY_TYPE_PROXY`. -/
def windowsAdapter {OS : Type} (api : WinInet OS) : Adapter OS WindowsSnapshot where
  platform := "windows"
  capture os := .ok (api.query os)
  apply _ socksPort httpPort :=
    [api.set [.flags 3, .proxyServer (some (windowsProxyServer socksPort httpPort)),
      .proxyBypass (some "<local>;localhost;127.*;[::1]")]]
  restore snapshot := [.run (api.set snapshot.options)]

end RealityConsole.Client.SystemProxy
