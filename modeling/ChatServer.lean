import ChatServer.Atomic.Program
import ChatServer.Atomic.Runs
import ChatServer.Atomic.KeyedMaps
import ChatServer.Model.Protocol
import ChatServer.Model.State
import ChatServer.Model.Calls
import ChatServer.Model.Services
import ChatServer.Model.Database
import ChatServer.Model.Effects
import ChatServer.Rooms.Maps
import ChatServer.Rooms.Membership
import ChatServer.Accounts.Handlers
import ChatServer.Accounts.Ownership
import ChatServer.Sessions.Indexes
import ChatServer.Atomic.WorkerPool
import ChatServer.Sessions.RequestOrder
import ChatServer.Atomic.RelyGuarantee
import ChatServer.Sessions.Tidy
import ChatServer.Sessions.Ghosts
import ChatServer.Sessions.Disconnect
import ChatServer.Failures.Writes
import ChatServer.Failures.Exceptions
import ChatServer.Wire.ChatWire
import ChatServer.Failures.FrameSizes
import ChatServer.Accounts.SerialUpdates
import ChatServer.Rooms.LiveRooms
import ChatServer.Rooms.OneLiveRoom
import ChatServer.Rooms.Presence
import ChatServer.Sessions.Rosters
import ChatServer.Atomic.Histories
import ChatServer.Model.Client
import ChatServer.Rooms.PublicMessages
import ChatServer.Sessions.Acting
import ChatServer.Sessions.AuthenticatedUsers
import ChatServer.Rooms.ClientRooms
import ChatServer.Accounts.Passwords
import ChatServer.Atomic.RefillQueue
import ChatServer.Connections.Pool
import ChatServer.Connections.Workers
import ChatServer.Connections.Repositories
import ChatServer.Sessions.Framing
import ChatServer.Atomic.NewestRows
import ChatServer.Rooms.HistoryOrder
import ChatServer.Failures.Dereferences
import ChatServer.Rooms.HistoryRooms
import ChatServer.Rooms.NamelessRooms
import ChatServer.Rooms.PrivateMessages
import ChatServer.Sessions.Replies
import ChatServer.Connections.Driver
import ChatServer.Connections.Inserts
import ChatServer.Connections.RoomLookups
import ChatServer.Accounts.UsableAccounts
import ChatServer.Sessions.Broadcasts
import ChatServer.Atomic.LocalUpdates
import ChatServer.Rooms.Commuting
import ChatServer.Atomic.GreedyRuns
import ChatServer.Model.ClientInput
import ChatServer.Rooms.ClientLines
import ChatServer.Sessions.Links
import ChatServer.Atomic.ExpectedAnswers
import ChatServer.Sessions.HandlerCalls
import ChatServer.Sessions.SentTexts
import ChatServer.Sessions.Deployment
import ChatServer.Connections.Queries
import ChatServer.Connections.Integrity
import ChatServer.Sessions.StoredMessages
import ChatServer.Accounts.Credentials
import ChatServer.Atomic.TwoRuns
import ChatServer.Accounts.Secrets
