import Versatile.Lib.Bytes
import Versatile.Lib.Decimal
import Versatile.Lib.Dict
import Versatile.Lib.Except
import Versatile.Lib.Interleaving
import Versatile.Lib.Proc
import Versatile.Lib.Prog
import Versatile.Lib.Run
import Versatile.Lib.Quoted
import Versatile.Lib.Refs
import Versatile.Lib.Search
import Versatile.Lib.Trace
import Versatile.Lib.TxLog
import Versatile.Py.Value
import Versatile.Py.Text
import Versatile.Py.Hex
import Versatile.Py.Number
import Versatile.Py.Escapes
import Versatile.Py.Json
import Versatile.Py.Dumps
import Versatile.Py.RoundTrip
import Versatile.Flag
import Versatile.Sql.Literal
import Versatile.Sql.Schema
import Versatile.Request
import Versatile.Issued
import Versatile.FlexIDMngerDb.DbProc
import Versatile.FlexIDMngerDb.Manager
import Versatile.FlexIDMngerDb.DbSpec
import Versatile.FlexIDMngerDb.GenID
import Versatile.FlexIDMngerDb.Handlers
import Versatile.FlexIDMngerDb.Runs
import Versatile.FlexIDMngerDb.Rows
import Versatile.FlexIDMngerDb.Rendering
import Versatile.FlexIDMngerDb.Insertions
import Versatile.FlexIDMngerDb.Readable
import Versatile.FlexIDMngerDb.Plain
import Versatile.FlexIDMngerDb.FirstFree
import Versatile.FlexIDMngerDb.Registered
import Versatile.FlexIDMngerDb.Atomic
import Versatile.FlexIDMngerDb.Clean
import Versatile.FlexIDMngerDb.CacheSound
import Versatile.FlexIDMngerDb.Joined
import Versatile.FlexIDMngerDb.Leave
import Versatile.FlexIDMngerDb.Registry
import Versatile.FlexIDMngerDb.Layout
import Versatile.FlexIDMngerDb.Update
import Versatile.FlexIDMngerDb.Independent
import Versatile.FlexIDMngerDb.Accepted
import Versatile.FlexIDMnger.Manager
import Versatile.FlexIDMnger.Process
import Versatile.FlexIDMnger.Frames
import Versatile.FlexIDMnger.Unique
import Versatile.FlexIDMnger.GenID
import Versatile.FlexIDMnger.Answers
import Versatile.FlexIDMnger.Matching
import Versatile.FlexIDMnger.RemoteDb
import Versatile.FlexIDMnger.SameOutcome
import Versatile.FlexIDMnger.JoinOutcome
import Versatile.FlexIDMnger.QueryOutcome
import Versatile.FlexIDMnger.Optimisation
import Versatile.FlexIDMnger.Slots
import Versatile.FlexIDMnger.Registered
import Versatile.FlexIDMnger.Served
import Versatile.FlexIDMnger.Progress
import Versatile.FlexIDMnger.Interleavings
import Versatile.Answered
import Versatile.Collision
import Versatile.SameRows
import Versatile.RequestIDs
import Versatile.Normalised
import Versatile.Growth
import Versatile.Flexid.Header
import Versatile.Flexid.Client
import Versatile.Flexid.Sizes
import Versatile.Flexid.Receive
import Versatile.Flexid.Orders
import Versatile.App.Header
import Versatile.App.Packet
import Versatile.Wireshark.Dissector
import Versatile.App.Receive
import Versatile.App.Session
import Versatile.Socket.Input
import Versatile.Socket.Unreliable
import Versatile.Socket.Sockets
import Versatile.Socket.Module
import Versatile.Diversity.Database
import Versatile.Diversity.Handler
import Versatile.Diversity.Steps
import Versatile.Diversity.Granted
import Versatile.ResolverPer.Handlers
import Versatile.ResolverPer.Outcome
import Versatile.ResolverPer.Updates
import Versatile.ResolverPer.Splitting
import Versatile.ResolverPer.Atomic
import Versatile.ResolverPer.Acknowledged
import Versatile.ResolverPer.Rows
import Versatile.ResolverPer.Offers
import Versatile.ResolverPer.Fresh
import Versatile.Resolver.Handlers
import Versatile.Resolver.ServiceIDs
import Versatile.RequestNumbers
import Versatile.Concurrent.Threads
import Versatile.Concurrent.Distinct
import Versatile.Concurrent.Calls
import Versatile.Concurrent.Follows
import Versatile.Concurrent.Lasting
import Versatile.Devices.Deliveries
import Versatile.Devices.Owned
import Versatile.FlexIDMngerDb.Restarts
import Versatile.FlexIDMngerDb.Invisible
import Versatile.Legible
import Versatile.FlexIDMngerDb.Legible
import Versatile.FlexIDMnger.Legible
