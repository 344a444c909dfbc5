import LiveQuery.Session.Client
import LiveQuery.Session.SubscriptionId
import LiveQuery.Endpoint.Request
import LiveQuery.Proofs.Roster
import LiveQuery.Proofs.Session
import LiveQuery.Proofs.Journal
import LiveQuery.Proofs.Socket
import LiveQuery.Proofs.Turn
import LiveQuery.Proofs.Run
import LiveQuery.Proofs.Step
import LiveQuery.Proofs.Coherence
import LiveQuery.Proofs.Ledger
import LiveQuery.Proofs.OpenOperations
import LiveQuery.Proofs.Delivery
import LiveQuery.Proofs.Endings
import LiveQuery.Proofs.Stranded
import LiveQuery.Proofs.FatalClose
import LiveQuery.Proofs.Spared
import LiveQuery.Proofs.Representation
import LiveQuery.Proofs.Routing
import LiveQuery.Proofs.Undecodable
import LiveQuery.Proofs.Queue
import LiveQuery.Proofs.Replay
import LiveQuery.Proofs.Recovery
import LiveQuery.Proofs.Utf8
import LiveQuery.Proofs.ValueText
import LiveQuery.Proofs.ValueShape
import LiveQuery.Proofs.RoundTrip
import LiveQuery.Proofs.Conversation
import LiveQuery.Proofs.Dealings
import LiveQuery.Proofs.Handshakes
import LiveQuery.Proofs.Shutdown
import LiveQuery.Proofs.Calls
import LiveQuery.Proofs.Farewell
import LiveQuery.Proofs.Unread
import LiveQuery.Proofs.Settling
import LiveQuery.Proofs.Verdict
import LiveQuery.Proofs.Lifetime
import LiveQuery.Proofs.CutOff
import LiveQuery.Proofs.Ruin
import LiveQuery.Proofs.Pace
import LiveQuery.Proofs.Budget
import LiveQuery.Proofs.Episodes
import LiveQuery.Proofs.SocketLaws
import LiveQuery.Proofs.Phases
import LiveQuery.Proofs.KeepAlive
import LiveQuery.Proofs.Dialogues
import LiveQuery.Proofs.Greetings
import LiveQuery.Proofs.WireDiscipline
import LiveQuery.Proofs.Hidden
import LiveQuery.Proofs.Changes
import LiveQuery.Proofs.Silence
import LiveQuery.Proofs.Cancellation
import LiveQuery.Proofs.Abandonment
import LiveQuery.Proofs.Answers
import LiveQuery.Proofs.Resolution
import LiveQuery.Proofs.AckDeadline
import LiveQuery.Proofs.Envelope
import LiveQuery.Proofs.Overriding
import LiveQuery.Proofs.ControlTraffic
import LiveQuery.Proofs.Refusals
import LiveQuery.Proofs.HandshakeRequest
import LiveQuery.Proofs.MessageReading
import LiveQuery.Proofs.InsertionOrder
