import Greetup.Rtc.Routers
import Greetup.Rtc.Ownership
import Greetup.Rtc.Disconnect
import Greetup.Rtc.Membership
import Greetup.Interleaving.Progress
import Greetup.Interleaving.Sequence
import Greetup.Interleaving.Accounts
import Greetup.Matching.Alone
import Greetup.Matching.Coalescing
import Greetup.Matching.Eligibility
import Greetup.Matching.PoolIndex
import Greetup.Matching.Settlement
import Greetup.Chess.Turns
import Greetup.Chess.Lifecycle
import Greetup.Rooms.Sweep
import Greetup.Rooms.LateStart
import Greetup.Rooms.Deadline
import Greetup.Rooms.Elsewhere
import Greetup.Rooms.Outsider
import Greetup.Rooms.Final
import Greetup.Rooms.Seats
import Greetup.Rooms.Restricted
import Greetup.Rooms.Gate
import Greetup.Calls.Settling
import Greetup.Calls.Slot
import Greetup.Rooms.Statements
import Greetup.Rooms.LastOut
import Greetup.Connections.Peers
import Greetup.Connections.Blocks
import Greetup.Connections.Consent
import Greetup.Data.Paging
import Greetup.Chat.Scroll
import Greetup.Chat.Inside
import Greetup.Sql.Locks
import Greetup.Chat.OnePerPair
import Greetup.Chat.Privacy
import Greetup.Chat.ReadState
import Greetup.Chat.Storage
import Greetup.Interleaving.Epochs
import Greetup.Auth.OtpOnce
import Greetup.Auth.SendLimits
import Greetup.Interleaving.Parallel
import Greetup.Sources.OneAdapter
import Greetup.Client.Reconcile
import Greetup.Profile.Settling
import Greetup.Guest.OneRoom
import Greetup.Presence.Online
import Greetup.Presence.Grace
import Greetup.Data.Tally
import Greetup.Rtc.DominantSpeaker
import Greetup.Rtc.SpeakingTime
import Greetup.Client.TabLease
import Greetup.Calls.History
import Greetup.Calls.LoggedOnce
import Greetup.Rooms.TokenRefused
import Greetup.Data.WeightedMean
import Greetup.Matching.ScoreRange
import Greetup.Data.StableSort
import Greetup.Matching.Ranking
import Greetup.Matching.FirstLockable
import Greetup.Matching.PoolScan
import Greetup.Matching.CancelMatch
import Greetup.Matching.RejectedStart
import Greetup.Client.CallSession
import Greetup.Client.CallTold
import Greetup.Client.CallView
import Greetup.Presence.Discovery
import Greetup.OpenToConnect.RequestTable
import Greetup.OpenToConnect.Requests
import Greetup.OpenToConnect.Expired
import Greetup.Sources.Rtp
import Greetup.Client.CameraTile
import Greetup.Chat.Latest
import Greetup.Chat.ForMe
import Greetup.Data.Throwing
import Greetup.OpenToConnect.GoingOpen
import Greetup.OpenToConnect.LastWrite
import Greetup.OpenToConnect.AllOrNothing
import Greetup.Guest.Search
import Greetup.Guest.SearchBudget
import Greetup.OpenToConnect.OneOutcome
import Greetup.Data.JobQueue
import Greetup.Interleaving.Attempts
import Greetup.Interleaving.Together
import Greetup.Data.Recency
import Greetup.VoiceIq.Aggregation
import Greetup.VoiceIq.FinalScore
import Greetup.VoiceIq.Session
import Greetup.VoiceIq.Licence
import Greetup.VoiceIq.WrapUp
import Greetup.VoiceIq.Retried
import Greetup.Data.Recording
import Greetup.Sources.Pool
import Greetup.Sources.Windows
import Greetup.Interleaving.Once
import Greetup.Rooms.Cues
import Greetup.Rooms.OneBatch
import Greetup.Data.Distinct
import Greetup.Interleaving.Debts
import Greetup.Spaces.Types
import Greetup.Spaces.World
import Greetup.Spaces.Service
import Greetup.Spaces.Notified
import Greetup.Spaces.Invited
import Greetup.Data.Percent
import Greetup.Client.Routes
import Greetup.Client.Gates
import Greetup.Client.Navigation
import Greetup.Data.Descent
import Greetup.Client.Resting
import Greetup.Client.Returning
