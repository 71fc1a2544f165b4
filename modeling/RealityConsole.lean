import RealityConsole.RevisionSync.Agreement
import RealityConsole.TelemetrySync.Acceptance
import RealityConsole.DesiredState.Realizable
import RealityConsole.Client.Refresh
import RealityConsole.MemberSessions.Acceptance
import RealityConsole.Endpoints.Heartbeat
import RealityConsole.NodeRequests.Replay
import RealityConsole.Client.ProxyRecovery
import RealityConsole.Client.CacheRollback
import RealityConsole.RelayProvisioning.Generations
import RealityConsole.RelayProvisioning.Limits
import RealityConsole.RelayProvisioning.RouteFiles
import RealityConsole.Policy.CohortRollback
import RealityConsole.RelayServer.Credentials
import RealityConsole.RelayTunnel.Queue
import RealityConsole.RelayTunnel.Delivery
import RealityConsole.RelayServer.RouteWriters
import RealityConsole.NodeHost.SpoolRuns
import RealityConsole.RelayServer.Fingerprint
import RealityConsole.RelayServer.QuotaReopen
import RealityConsole.RelayServer.RateLimiter
import RealityConsole.NodeHost.VersionGate
