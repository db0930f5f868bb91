import TradingGateway.Exit.Capacity
import TradingGateway.Exit.Deferral
import TradingGateway.Exit.UnmatchedFills
import TradingGateway.Exit.PartialExits
import TradingGateway.Exit.FailedMoves
import TradingGateway.Exit.Oco
import TradingGateway.Exit.ClientOrderId
import TradingGateway.Exit.CancelRace
import TradingGateway.Exit.RegisterRace
import TradingGateway.Trailing.AdapterExecutor
import TradingGateway.Trailing.SingleStop
import TradingGateway.Trailing.RecoveryBackoff
import TradingGateway.Trailing.PriceFeed
import TradingGateway.Trailing.SymbolTasks
import TradingGateway.Tektii.AckBridge
import TradingGateway.Mock.Netting
import TradingGateway.Exit.PlacementRetry
import TradingGateway.Events.DoubleExit
import TradingGateway.Events.Reconcile
import TradingGateway.Events.Rebroadcast
import TradingGateway.Websocket.DeadPrimary
import TradingGateway.Websocket.Notifications
import TradingGateway.Tektii.EngineEvents
import TradingGateway.Http.Backoff
import TradingGateway.Alpaca.Submit
import TradingGateway.Oanda.Positions
import TradingGateway.Oanda.Modify
import TradingGateway.Listings
import TradingGateway.Oanda.ClaimWindow
import TradingGateway.Oanda.CandleOrder
import TradingGateway.Oanda.Backoff
import TradingGateway.Oanda.Publish
import TradingGateway.Websocket.Positions
import TradingGateway.Websocket.Reconnection
import TradingGateway.Websocket.EventTask
import TradingGateway.Binance.Feeds
import TradingGateway.Binance.Unsubscribe
import TradingGateway.Binance.ListenKey
import TradingGateway.Binance.CancelReplace
import TradingGateway.Saxo.Snapshots
import TradingGateway.Saxo.Reconnect
import TradingGateway.Truncation
