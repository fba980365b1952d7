import NastyEngine.Alerts.Lifecycle
import NastyEngine.Alerts.Rules
import NastyEngine.Alerts.Stall
import NastyEngine.Apps.Binds
import NastyEngine.Apps.Names
import NastyEngine.Apps.Subnets
import NastyEngine.Auth.Reachable
import NastyEngine.Auth.Restarts
import NastyEngine.Auth.Sockets
import NastyEngine.Auth.Webauthn
import NastyEngine.Backup.Catalog
import NastyEngine.Backup.Edits
import NastyEngine.Backup.Marker
import NastyEngine.Backup.Messages
import NastyEngine.Backup.Migration
import NastyEngine.Common.Recover
import NastyEngine.Exports.Admission
import NastyEngine.Exports.Backstores
import NastyEngine.Exports.Nfs
import NastyEngine.Firewall.Ownership
import NastyEngine.Guest.History
import NastyEngine.Machines.Confinement
import NastyEngine.Machines.Scope
import NastyEngine.Machines.Snapshot
import NastyEngine.Network.Inherit
import NastyEngine.Network.Rollback
import NastyEngine.Network.Transactions
import NastyEngine.Pools.Frame
import NastyEngine.Pools.Secrets
import NastyEngine.Updates.Settled
import NastyEngine.Volumes.Cascade
import NastyEngine.Volumes.Isolation
import NastyEngine.Volumes.Usage
import NastyEngine.Watchdog
