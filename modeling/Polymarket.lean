import Polymarket.Evm.CursorStoreProperties
import Polymarket.Evm.Indexer.Confirmation
import Polymarket.Evm.Indexer.UnpersistedScan
import Polymarket.Evm.Indexer.Deduplication
import Polymarket.Evm.Indexer.Rewinds
import Polymarket.Evm.Indexer.Convergence
import Polymarket.Evm.Indexer.GapCoverage
import Polymarket.Evm.UintArray
import Polymarket.Evm.Transaction
import Polymarket.Rtds.Subscriptions
import Polymarket.User.Subscription
import Polymarket.Orders.PostedOrder
import Polymarket.Orders.OrderPreimage
import Polymarket.Orders.Base64
import Polymarket.Orders.DomainCache
import Polymarket.Orders.SimulatedFill
import Polymarket.Market.PriceMap
import Polymarket.WebSocket.GapOrder
import Polymarket.User.Recovery
import Polymarket.User.Replay
import Polymarket.Market.Routing
import Polymarket.Pagination.Termination
import Polymarket.Pagination.Resume
import Polymarket.Oracle.DashboardProperties
import Polymarket.Positions.MultiSend
import Polymarket.Positions.MergeAmount
import Polymarket.Positions.BatchMerge
import Polymarket.Positions.EoaBatch
import Polymarket.Market.Timestamps
import Polymarket.Rest.Query
import Polymarket.Settlement.TrackerProperties
import Polymarket.Settlement.WaitProperties
import Polymarket.Workers.Coverage
import Polymarket.Tunnel.RelayProperties
import Polymarket.Evm.LogIdentity
import Polymarket.Market.Metadata
import Polymarket.Market.TickSizeFreshness
import Polymarket.Pagination.Iteration
import Polymarket.Orders.ExactArithmetic
import Polymarket.Evm.BlockRanges
import Polymarket.Rtds.ScaledDecimal
import Polymarket.Market.HourSlugs
import Polymarket.Market.StaleBooks
import Polymarket.Market.ArbPermits
import Polymarket.Evm.Indexer.CatchUpRuns
import Polymarket.Evm.CursorIoRuns
import Polymarket.Positions.SafeSubmissions
import Polymarket.Positions.Approvals
import Polymarket.Positions.TradingSetup
