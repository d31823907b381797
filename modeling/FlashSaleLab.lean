import FlashSaleLab.Foundations.Transition
import FlashSaleLab.Foundations.ExpiringStore
import FlashSaleLab.OrderNotificationConsumer
import FlashSaleLab.OutboxPublisher
import FlashSaleLab.System
import FlashSaleLab.Steps
import FlashSaleLab.Foundations.Tickets
import FlashSaleLab.Sales.Steps
import FlashSaleLab.Sales.Stock
import FlashSaleLab.Sales.Linearizable
import FlashSaleLab.Foundations.Credits
import FlashSaleLab.Outbox.Rows
import FlashSaleLab.Outbox.Steps
import FlashSaleLab.Outbox.Publications
import FlashSaleLab.Foundations.LeaseLock
import FlashSaleLab.Consumer.Lock
import FlashSaleLab.Consumer.RedisLog
import FlashSaleLab.Consumer.Idempotence
import FlashSaleLab.Consumer.Steps
import FlashSaleLab.Broker.Steps
import FlashSaleLab.Broker.Copies
import FlashSaleLab.Outbox.Announcements
import FlashSaleLab.NoLoss
import FlashSaleLab.Consumer.Refusals
import FlashSaleLab.Consumer.LockExhaustion
import FlashSaleLab.Provenance
import FlashSaleLab.Consumer.Remembered
import FlashSaleLab.Consumer.Slots
import FlashSaleLab.Product.Atomicity
import FlashSaleLab.Connection.Recovery
import FlashSaleLab.Connection.Shutdown
import FlashSaleLab.Consumer.Budgets
import FlashSaleLab.Outbox.Exactness
import FlashSaleLab.Outbox.PoisonRows
import FlashSaleLab.Connection.GracefulShutdown
import FlashSaleLab.Outcomes
import FlashSaleLab.Sales.Reads
import FlashSaleLab.Sales.Deadlock
import FlashSaleLab.Consumer.Backoff
import FlashSaleLab.Consumer.Prefixes
import FlashSaleLab.Consumer.Executions
import FlashSaleLab.Workload
import FlashSaleLab.Deployment.Recovery
import FlashSaleLab.Deployment.Shutdown
