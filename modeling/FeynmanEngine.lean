import FeynmanEngine.Tables
import FeynmanEngine.Ids
import FeynmanEngine.Portfolio
import FeynmanEngine.Traces
import FeynmanEngine.CircuitBreaker
import FeynmanEngine.CircuitBreakerLatches
import FeynmanEngine.HaltedRisk
import FeynmanEngine.Engine
import FeynmanEngine.Journal
import FeynmanEngine.JournalCommits
import FeynmanEngine.Sequencing
import FeynmanEngine.CommandCases
import FeynmanEngine.OrderBookkeeping
import FeynmanEngine.SequencerFixtures
import FeynmanEngine.SequencerStart
import FeynmanEngine.IdempotentSubmission
import FeynmanEngine.Lifetimes
import FeynmanEngine.SequenceNumbers
import FeynmanEngine.CrashRecovery
import FeynmanEngine.DurableEffects
import FeynmanEngine.EventReplay
import FeynmanEngine.VenueOrders
import FeynmanEngine.VenueTask
import FeynmanEngine.OrderStandings
import FeynmanEngine.VenueAgreement
import FeynmanEngine.Orderbooks
import FeynmanEngine.FillSimulation
import FeynmanEngine.PaperVenue
import FeynmanEngine.PaperExecutions
import FeynmanEngine.PaperOrdering
import FeynmanEngine.AgentIsolation
import FeynmanEngine.ResizeConvergence
import FeynmanEngine.JournalAppends
import FeynmanEngine.JournalHistory
import FeynmanEngine.SchemaMigration
import FeynmanEngine.MigrationCrashes
import FeynmanEngine.Channels
import FeynmanEngine.RunLoop
import FeynmanEngine.CommandPriority
import FeynmanEngine.ShutdownDrain
import FeynmanEngine.RequestReplies
import FeynmanEngine.OrderLifeCycle
import FeynmanEngine.RestartNumbering
import FeynmanEngine.WeightedMeans
import FeynmanEngine.LiveOrders
import FeynmanEngine.LiveOrderAccounting
import FeynmanEngine.OptimalWalk
import FeynmanEngine.EvaluationSpecification
import FeynmanEngine.CircuitBreakerVerdicts
import FeynmanEngine.PaperSections
import FeynmanEngine.SubmissionFailures
import FeynmanEngine.BookReplacements
import FeynmanEngine.PaperAccounts
import FeynmanEngine.SignalBridge
import FeynmanEngine.SignalAcks
import FeynmanEngine.RedisStreams
import FeynmanEngine.Custody
import FeynmanEngine.BusMessages
import FeynmanEngine.BusDelivery
import FeynmanEngine.SoleConsumers
import FeynmanEngine.ReduceOnlyOrders
import FeynmanEngine.AcceptedOrders
import FeynmanEngine.VenueHeartbeats
import FeynmanEngine.PositionCap
import FeynmanEngine.SignalDrafts
import FeynmanEngine.PoisonEntries
import FeynmanEngine.CheckedArithmetic
import FeynmanEngine.DecimalFormats
import FeynmanEngine.CheckedEvaluation
import FeynmanEngine.EvaluationOverflow
import FeynmanEngine.TwoSidedBooks
import FeynmanEngine.SplitProjections
import FeynmanEngine.SymbolListings
import FeynmanEngine.PagedScans
import FeynmanEngine.PendingScan
import FeynmanEngine.HexPayloads
import FeynmanEngine.MessageRoundTrips
import FeynmanEngine.Fanouts
import FeynmanEngine.FillSubscribers
import FeynmanEngine.StreamLedgers
import FeynmanEngine.MessageLedgers
import FeynmanEngine.PendingMessages
import FeynmanEngine.PaperTrading
import FeynmanEngine.OrderSizes
import FeynmanEngine.LimitChanges
import FeynmanEngine.UnitChanges
import FeynmanEngine.GuardedStores
import FeynmanEngine.SimulatedClocks
import FeynmanEngine.ClockedLogs
import FeynmanEngine.SupplyCurves
import FeynmanEngine.MarketImpact
import FeynmanEngine.TopicReports
import FeynmanEngine.MirroredOrders
import FeynmanEngine.BreakerThresholds
import FeynmanEngine.OpenOrderReports
import FeynmanEngine.CommutingVisits
import FeynmanEngine.GatedSignals
import FeynmanEngine.IterationOrders
import FeynmanEngine.OrderIsolation
