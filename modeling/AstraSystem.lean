import AstraSystem.SyncDaemon.Raft.LeaderFlag
import AstraSystem.SyncDaemon.Raft.Cluster
import AstraSystem.SyncDaemon.Cloud.CleanRows
import AstraSystem.SyncDaemon.Cloud.OfflineQueue
import AstraSystem.SyncDaemon.Sync.HiddenRows
import AstraSystem.SyncDaemon.Sync.ORSet
import AstraSystem.SyncDaemon.Crdt.MvResolve
import AstraSystem.SyncDaemon.Crdt.PNCounter
import AstraSystem.SyncDaemon.Crdt.HlcDrift
import AstraSystem.SyncDaemon.P2P.Frame
import AstraSystem.SyncDaemon.P2P.Mesh
import AstraSystem.SyncDaemon.Records
import AstraSystem.SyncDaemon.Telemetry.Baggage
import AstraSystem.SyncDaemon.Store
import AstraSystem.SyncDaemon.Crdt.LwwEquality
import AstraSystem.SyncDaemon.Sync.StaleUpserts
import AstraSystem.SyncDaemon.Cloud.NoiseDraws
import AstraSystem.CartService.GhostMerge
import AstraSystem.CartService.GhostStorage
import AstraSystem.InventoryService.Overselling
import AstraSystem.InventoryService.Refinement
import AstraSystem.InventoryService.Events
import AstraSystem.PaymentOrchestrator.MoneyMoves
import AstraSystem.PaymentOrchestrator.EventStream
import AstraSystem.PaymentOrchestrator.Idempotency
import AstraSystem.PaymentOrchestrator.IdempotencyLock
import AstraSystem.PaymentOrchestrator.OfflineSettlement
import AstraSystem.OrderService.OneOrder
import AstraSystem.OrderService.CartEvents
import AstraSystem.GoCommon.Delivery
import AstraSystem.Deployment.Relays
import AstraSystem.LegacyPOSAdapter.Service
import AstraSystem.SyncService.Download
import AstraSystem.OrderService.PaymentEvents
import AstraSystem.Kiosk.Payments
import AstraSystem.Kiosk.PaymentGuard
import AstraSystem.SyncService.Isolation
import AstraSystem.SyncService.RoundTrip
import AstraSystem.SharedTypes.Crdt
import AstraSystem.SharedTypes.Causality
import AstraSystem.WebauthnService.SessionStores
import AstraSystem.Kiosk.Updater.RemoteModules
import AstraSystem.CartEngine.Breakdown
import AstraSystem.Kiosk.Updater.Canonical
import AstraSystem.Kiosk.Updater.Bookkeeping
import AstraSystem.Kiosk.Updater.Checksums
import AstraSystem.Kiosk.Updater.VersionOrder
import AstraSystem.Kiosk.CartSync
import AstraSystem.Kiosk.ApiCart
import AstraSystem.OrderService.OrderPages
import AstraSystem.SyncDaemon.Raft.Terms
import AstraSystem.MenuService.Repository
import AstraSystem.MenuService.Service
import AstraSystem.MenuService.Transparency
import AstraSystem.Deployment.CrdtBridge
import AstraSystem.Tenancy.RowSecurity
import AstraSystem.AstraUpdater.Releases
import AstraSystem.PaymentService.SettlementLoop
import AstraSystem.CartService.OptimisticLocking
import AstraSystem.CartService.Aggregate
import AstraSystem.CartService.Fingerprint
import AstraSystem.CartService.Wire
import AstraSystem.CartService.GhostRuns
import AstraSystem.Deployment.CartOrders
import AstraSystem.WebauthnService.OverrideTokens
import AstraSystem.InventoryService.Exactness
import AstraSystem.GoCommon.Security
import AstraSystem.ApiGateway.RateLimit
import AstraSystem.ApiGateway.Signing
import AstraSystem.ApiGateway.Translation
import AstraSystem.MenuService.Reads
import AstraSystem.Kiosk.GhostCart
import AstraSystem.GoCommon.CardNumbers
import AstraSystem.SyncService.FakeStore
import AstraSystem.PaymentSidecar.KioskPayment
import AstraSystem.Deployment.OfflineSignatures
import AstraSystem.PaymentOrchestrator.HttpTransport
import AstraSystem.PaymentService.Authorizations
import AstraSystem.Installer.Resuming
import AstraSystem.Kiosk.StalledReads
import AstraSystem.Kiosk.Screens
