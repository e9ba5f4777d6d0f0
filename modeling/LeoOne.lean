import LeoOne.Foundation.Machine
import LeoOne.Foundation.Progress
import LeoOne.Foundation.Clock
import LeoOne.Foundation.Pool
import LeoOne.Foundation.Channel
import LeoOne.Foundation.Table
import LeoOne.Foundation.Uuid
import LeoOne.Wire.Json
import LeoOne.Wire.Runes
import LeoOne.Wire.Envelope
import LeoOne.Agent.Protocol
import LeoOne.Agent.Body
import LeoOne.Agent.Strings
import LeoOne.Agent.RemoteDesktop
import LeoOne.Agent.Commands
import LeoOne.Agent.CommandReplies
import LeoOne.Websocket.Client
import LeoOne.Websocket.ControlChannel
import LeoOne.Websocket.Hub
import LeoOne.Backend.Database
import LeoOne.RemoteDesktop.Relay
import LeoOne.RemoteDesktop.Lifecycle
import LeoOne.RemoteDesktop.Sockets
import LeoOne.RemoteDesktop.SessionEnds
import LeoOne.RemoteDesktop.PairTimeout
import LeoOne.RemoteDesktop.Pump
import LeoOne.Backend.Server
import LeoOne.RemoteDesktop.ViewMode
import LeoOne.Backend.Execution
import LeoOne.Backend.Steps
import LeoOne.Backend.Connections
import LeoOne.Backend.Statements
import LeoOne.Backend.CommandTable
import LeoOne.Backend.SessionTable
import LeoOne.Backend.SessionStates
import LeoOne.Backend.Lifetime
import LeoOne.Backend.OneSession
import LeoOne.Backend.HeldSessions
import LeoOne.Backend.AgentTable
import LeoOne.Backend.Identity
import LeoOne.Backend.ChannelSafety
import LeoOne.Backend.CommandDelivery
import LeoOne.Backend.AtMostOnce
import LeoOne.Backend.CommandResults
import LeoOne.Backend.Presence
import LeoOne.Backend.Revocation
import LeoOne.Backend.Deletion
import LeoOne.Enrollment.Registry
import LeoOne.Enrollment.Enroll
import LeoOne.Enrollment.SingleUse
import LeoOne.Enrollment.Failures
import LeoOne.Foundation.Serial
import LeoOne.Scheduler.Schedules
import LeoOne.Scheduler.Service
import LeoOne.Scheduler.Progress
import LeoOne.Scheduler.OneShot
import LeoOne.Scheduler.Edits
import LeoOne.Foundation.Owned
import LeoOne.Agent.Slots
import LeoOne.Agent.RdThreads
import LeoOne.Foundation.Anchors
import LeoOne.Foundation.Parts
import LeoOne.Agent.Process
import LeoOne.Agent.StopLaws
import LeoOne.Agent.Shutdown
import LeoOne.Foundation.Ring
import LeoOne.Agent.Connection
import LeoOne.Agent.HelloFirst
import LeoOne.Agent.SendQueue
import LeoOne.Agent.ServiceLoop
import LeoOne.Agent.SendLaws
import LeoOne.Agent.CommandLine
import LeoOne.Agent.CommandParameters
import LeoOne.Agent.Patches
import LeoOne.Backend.AgentMessages
import LeoOne.Backend.PatchAgreement
import LeoOne.Backend.PatchRows
import LeoOne.Backend.RateLimit
import LeoOne.Backend.Pagination
import LeoOne.Backend.Listings
import LeoOne.Backend.Completion
import LeoOne.Wire.Numbers
import LeoOne.Wire.Text
import LeoOne.Wire.Sizes
import LeoOne.Agent.Reports
import LeoOne.Agent.MessageSizes
import LeoOne.Agent.Executor
import LeoOne.Agent.ExitNotice
import LeoOne.Agent.ExecOutput
import LeoOne.Agent.ExecReturn
import LeoOne.Agent.FileTransfer
import LeoOne.Agent.TransferProgress
import LeoOne.Backend.Unmarshal
import LeoOne.Backend.Reports
import LeoOne.Accounts.SystemRoles
import LeoOne.Accounts.Tables
import LeoOne.Accounts.Auth
import LeoOne.Accounts.Lockout
import LeoOne.Accounts.Tokens
import LeoOne.Accounts.LoginCompleteness
import LeoOne.Accounts.PasswordHash
import LeoOne.Accounts.Users
import LeoOne.Accounts.LastAdmin
import LeoOne.Frontend.AuthStore
import LeoOne.Pki.ServerCert
import LeoOne.Foundation.Reference
import LeoOne.Foundation.SlidingWindow
import LeoOne.Foundation.Keyset
import LeoOne.Foundation.Base64
import LeoOne.Foundation.Settings
import LeoOne.Foundation.Address
import LeoOne.Accounts.UserRoles
import LeoOne.Accounts.Roles
import LeoOne.Accounts.Atomicity
import LeoOne.Accounts.RoleAtomicity
import LeoOne.Tenancy.Service
import LeoOne.Tenancy.References
import LeoOne.Wire.Payload
import LeoOne.Backend.CommandFrames
import LeoOne.Backend.Addressing
import LeoOne.Foundation.Disk
import LeoOne.Foundation.Gather
import LeoOne.Api.Library
import LeoOne.Api.Service
import LeoOne.Api.ServerPart
import LeoOne.Api.CommandTenancy
import LeoOne.Api.Storage
import LeoOne.Api.StorageSteps
import LeoOne.Api.DownloadTokens
import LeoOne.Api.FileIntegrity
import LeoOne.Foundation.History
import LeoOne.Api.Lifetime
import LeoOne.Api.TokenLife
import LeoOne.Agent.Config
import LeoOne.Agent.Intervals
import LeoOne.Agent.Urls
import LeoOne.Agent.UrlExactness
import LeoOne.Foundation.BigEndian
import LeoOne.Foundation.Copies
import LeoOne.Agent.Picture
import LeoOne.Agent.Injection
import LeoOne.Frontend.Viewer
import LeoOne.RemoteDesktop.Codec
import LeoOne.Foundation.Newest
import LeoOne.Frontend.FrameOrder
import LeoOne.Foundation.Rescale
import LeoOne.RemoteDesktop.Pointer
import LeoOne.Foundation.Presses
import LeoOne.RemoteDesktop.HeldInput
import LeoOne.Foundation.Growth
import LeoOne.Agent.CpuUsage
import LeoOne.Agent.CpuSampling
import LeoOne.Foundation.Cron
import LeoOne.Frontend.CronPresets
import LeoOne.Agent.Logger
import LeoOne.Agent.PackageLists
import LeoOne.Agent.PatchCommands
import LeoOne.Backend.ListedPatches
import LeoOne.Accounts.Access
import LeoOne.Agent.FirstStart
