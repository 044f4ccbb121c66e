import Playtime.Arithmetic
import Playtime.Bytes.BigEndian
import Playtime.Bytes.Hex
import Playtime.Text.Blank
import Playtime.Player.Name
import Playtime.Player.Identifier
import Playtime.Text.Utf8
import Playtime.StorageError
import Playtime.Sql.Calendar
import Playtime.Sql.TableName
import Playtime.Sql.Database
import Playtime.FlatObject.Token
import Playtime.FlatObject.Basic
import Playtime.Disk
import Playtime.FlatFile
import Playtime.NameFile
import Playtime.TimeFile
import Playtime.Ledger
import Playtime.Sessions
import Playtime.Host
import Playtime.Sql.Store
import Playtime.Sql.Dialect
import Playtime.Configuration
import Playtime.Backend
import Playtime.Site
import Playtime.Manager
import Playtime.Replication.Message
import Playtime.Replication.Hub
import Playtime.Replication.Dependent
import Playtime.Timers
import Playtime.Replication.Link
import Playtime.Node
import Playtime.Environment.Assignment
import Playtime.Environment.Variables
import Playtime.Settings
import Playtime.Daemon
import Playtime.Main
import Playtime.Proofs.Arithmetic
import Playtime.Proofs.Disk
import Playtime.Proofs.Ledger.Lawful
import Playtime.Proofs.Ledger.Backends
import Playtime.Proofs.Names.Register
import Playtime.Proofs.Names.Backends
import Playtime.Proofs.Names.Calls
import Playtime.Proofs.Names.Bijection
import Playtime.Proofs.Names.Agreement
import Playtime.Proofs.Sessions.Calls
import Playtime.Proofs.Sessions.Worth
import Playtime.Proofs.Sessions.Conservation
import Playtime.Proofs.Sessions.FlushTransparency
import Playtime.Proofs.Sessions.Refusals
import Playtime.Proofs.Sessions.Rounds
import Playtime.Proofs.Replication.Frames
import Playtime.Proofs.Replication.Faults
import Playtime.Proofs.Replication.Network
import Playtime.Proofs.Replication.Answers
import Playtime.Proofs.Replication.Turns
import Playtime.Proofs.Replication.Convergence
import Playtime.Proofs.Replication.Runs
import Playtime.Proofs.Replication.Arrivals
import Playtime.Proofs.Replication.Provenance
import Playtime.Proofs.Replication.Histories
import Playtime.Proofs.Ledger.Checked
import Playtime.Proofs.Sessions.AllOrNone
import Playtime.Proofs.Sessions.Batches
import Playtime.Proofs.Ledger.Intervals
import Playtime.Proofs.Sessions.Adjustments
import Playtime.Proofs.Ledger.SharedStores
import Playtime.Proofs.Sessions.Sums
import Playtime.Proofs.Sessions.SameTimes
import Playtime.Proofs.Ledger.Unreliable
import Playtime.Proofs.Sessions.Reads
import Playtime.Proofs.FlatObject.RoundTrip
import Playtime.Proofs.FlatFile.Places
import Playtime.Proofs.FlatFile.Mirroring
import Playtime.Proofs.Sessions.Logging
import Playtime.Proofs.Sessions.Growth
import Playtime.Proofs.Ledger.Sums
import Playtime.Proofs.Site.Deeds
import Playtime.Proofs.Manager.Rollup
import Playtime.Proofs.Manager.FlushedTotal
import Playtime.Proofs.FlatFile.Neighbours
import Playtime.Proofs.Site.Durability
import Playtime.Proofs.Manager.Lifecycle
import Playtime.Proofs.FlatFile.Drafts
import Playtime.Proofs.Replication.InertFrames
import Playtime.Proofs.Tables.Stays
import Playtime.Proofs.Tables.Acts
import Playtime.Proofs.Tables.Apart
import Playtime.Proofs.Tables.Registry
import Playtime.Proofs.Tables.Reopening
import Playtime.Proofs.FlatFile.HandEdited
import Playtime.Proofs.Names.Batches
import Playtime.Proofs.Ledger.Singles
import Playtime.Proofs.Manager.Leaderboard
import Playtime.Proofs.Deployments.Names
import Playtime.Proofs.Deployments.Lockstep
import Playtime.Proofs.Deployments.Directories
import Playtime.Proofs.Deployments.Files
import Playtime.Proofs.Deployments.Opening
import Playtime.Proofs.Deployments.Tables
import Playtime.Proofs.Deployments.Events
import Playtime.Proofs.Deployments.Isolation
import Playtime.Proofs.Site.Errands
import Playtime.Proofs.Tables.Statistics
import Playtime.Proofs.Site.Closing
import Playtime.Proofs.Timers
import Playtime.Proofs.Node.Service
import Playtime.Proofs.Node.Shutdown
import Playtime.Proofs.Node.Advance
import Playtime.Proofs.Node.Polling
import Playtime.Proofs.Daemon.Opening
import Playtime.Proofs.Daemon.Lifecycle
