import TrxSimulator.Wallets.Conservation
import TrxSimulator.Wallets.Drift
import TrxSimulator.ProviderCosts.Corrections
import TrxSimulator.Deposits.Credits
import TrxSimulator.Treasury.Safety
import TrxSimulator.Commissions.Bounds
import TrxSimulator.Payouts.Webhooks
import TrxSimulator.Funded.Agreement
import TrxSimulator.Funded.Cycles
import TrxSimulator.Challenges.Phases
import TrxSimulator.IBNetwork.Conservation
import TrxSimulator.Withdrawals.Authorized
import TrxSimulator.Adjustments.Balance
import TrxSimulator.Challenges.Drawdown
import TrxSimulator.Trading.Reconciliation
import TrxSimulator.Trading.Realization
import TrxSimulator.Trading.Stops
import TrxSimulator.Trading.PendingOrders
import TrxSimulator.Trading.SpreadFees
import TrxSimulator.Risk.Coverage
import TrxSimulator.Exposure.Valuation
import TrxSimulator.Revenue.Totals
import TrxSimulator.Market.PriceCache
import TrxSimulator.Feeds.Subscriptions
import TrxSimulator.Feeds.Coverage
import TrxSimulator.IBNetwork.Reach
import TrxSimulator.Exposure.Synthetic
import TrxSimulator.Trading.PendingEdits
import TrxSimulator.Trading.Parity
import TrxSimulator.Trading.Netting
import TrxSimulator.Trading.OpenLimits
import TrxSimulator.Routing.Recovery
import TrxSimulator.Economics.Summary
import TrxSimulator.ProviderCosts.Repeats
import TrxSimulator.Adjustments.OwnerRuns
import TrxSimulator.Funded.Conservation
import TrxSimulator.Withdrawals.Destinations
import TrxSimulator.IBNetwork.HoldRuns
import TrxSimulator.Withdrawals.ReviewRuns
import TrxSimulator.Commissions.Batches
import TrxSimulator.Payouts.Batches
import TrxSimulator.Withdrawals.Lockout
import TrxSimulator.Market.Conversion
import TrxSimulator.Payouts.Correlation
import TrxSimulator.IBNetwork.RetryRuns
import TrxSimulator.Trading.Allocation
import TrxSimulator.Market.CandleRuns
import TrxSimulator.Risk.DailyPnlRuns
import TrxSimulator.Risk.AccountRules
import TrxSimulator.Feeds.Staleness
import TrxSimulator.Feeds.ProviderLoops
import TrxSimulator.Feeds.BtcGate
import TrxSimulator.Feeds.HistoryPages
import TrxSimulator.Feeds.DurablePrice
import TrxSimulator.Trading.Settlement
import TrxSimulator.Withdrawals.Segwit
import TrxSimulator.RateLimits.Requests
import TrxSimulator.RateLimits.Orders
import TrxSimulator.Sessions.LoginTotp
import TrxSimulator.Market.Calendars
import TrxSimulator.Routing.ProfilePolicy
import TrxSimulator.Routing.TraderMetrics
import TrxSimulator.Routing.ProfileWriter
import TrxSimulator.Sessions.Leases
import TrxSimulator.Sessions.Passkeys
import TrxSimulator.Challenges.Activation
import TrxSimulator.Deposits.Fulfilment
import TrxSimulator.Withdrawals.Economics
