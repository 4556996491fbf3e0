import Inci.Theory.Json
import Inci.Tennis.Play
import Inci.Tennis.Delivery
import Inci.Tennis.Redelivery
import Inci.Tennis.Service
import Inci.Tennis.Symmetry
import Inci.Market.Reconstruction
import Inci.Market.Standing
import Inci.Market.Uncrossed
import Inci.Market.Moves
import Inci.Market.Buying
import Inci.Sync.Totality
import Inci.Sync.Encoding
import Inci.Expert.FrameRoundTrip
import Inci.Trading.Halt
import Inci.Trading.CashBook
import Inci.Trading.DailyLedger
import Inci.Trading.PaperOrders
import Inci.Trading.TakeProfit
import Inci.Trading.CrashRecovery
import Inci.Trading.Convergence
import Inci.Trading.Reprice
import Inci.Journal.ReplayWalk
import Inci.Candidate.Runs
import Inci.Journal.RedactedCapture
import Inci.Journal.Reducer
import Inci.Replay.Precedence
import Inci.Binding.Reading
import Inci.Companion.ReplayMaterial
import Inci.Companion.GroupAgreement
import Inci.Espn.Reconcile
import Inci.Espn.Calibration
import Inci.Sportradar.SnapshotFields
import Inci.Sportradar.Timeline
import Inci.Sportradar.UtcTime
import Inci.Expert.CanonicalDecimal
import Inci.Adapter.Schedules
import Inci.Discovery.Protection
import Inci.Journal.LiveJournal
import Inci.Journal.TraceBinding
