import PokerBackend.Account
import PokerBackend.AccountHistory
import PokerBackend.Accounts
import PokerBackend.Api
import PokerBackend.Basic
import PokerBackend.Client
import PokerBackend.ClientReads
import PokerBackend.ClientRun
import PokerBackend.Codec
import PokerBackend.Completion
import PokerBackend.Console
import PokerBackend.ConsoleRun
import PokerBackend.Db.Config
import PokerBackend.Db.Users
import PokerBackend.IntegrationTests
import PokerBackend.Isolation
import PokerBackend.Json
import PokerBackend.JsonErrorCode
import PokerBackend.JsonLookup
import PokerBackend.JsonReader
import PokerBackend.Lib.Execution
import PokerBackend.Lib.FrameStream
import PokerBackend.Lib.Journal
import PokerBackend.Lib.JsonGrammar
import PokerBackend.Lib.KeyedTable
import PokerBackend.Lib.Numeral
import PokerBackend.Lib.OutputQueue
import PokerBackend.Lib.Progress
import PokerBackend.Lib.SequentialObject
import PokerBackend.Lifetimes
import PokerBackend.Linearizable
import PokerBackend.Liveness
import PokerBackend.Matching
import PokerBackend.Net.ArbitraryStream
import PokerBackend.Net.Assignment
import PokerBackend.Net.Backlog
import PokerBackend.Net.Containment
import PokerBackend.Net.Delivery
import PokerBackend.Net.Dispatch
import PokerBackend.Net.Endpoint
import PokerBackend.Net.FrameLoop
import PokerBackend.Net.HandlerSpec
import PokerBackend.Net.Header
import PokerBackend.Net.Journal
import PokerBackend.Net.MesHandler
import PokerBackend.Net.Message
import PokerBackend.Net.Participants
import PokerBackend.Net.ReadLoop
import PokerBackend.Net.Reading
import PokerBackend.Net.Serving
import PokerBackend.Net.TcpConnection
import PokerBackend.Net.TcpServer
import PokerBackend.Net.Teardown
import PokerBackend.Net.WholeBody
import PokerBackend.Net.WriteQueue
import PokerBackend.Network
import PokerBackend.RapidjsonSpec
import PokerBackend.Reference
import PokerBackend.ReferenceJson
import PokerBackend.ResponseCodes
import PokerBackend.Server
import PokerBackend.Sessions
import PokerBackend.TableInvariant
import PokerBackend.UserIds
import PokerBackend.UserLookup
