import MultisigQueue.Document
import MultisigQueue.Error.Report
import MultisigQueue.Log
import MultisigQueue.Proofs.Batch.Transparency
import MultisigQueue.Proofs.Queue.AnyNode
import MultisigQueue.Proofs.Queue.Growing
import MultisigQueue.Proofs.Queue.Owners
import MultisigQueue.Proofs.Queue.Windows
import MultisigQueue.Proofs.Simulation.Fetch
import MultisigQueue.Proofs.Simulation.Order
import MultisigQueue.Proofs.Simulation.Race
import MultisigQueue.Proofs.Transaction.Request
import MultisigQueue.Proofs.Rpc.Retries
import MultisigQueue.Proofs.Safe.Execution
import MultisigQueue.Proofs.Queue.History
import MultisigQueue.Proofs.Queue.Repeats
import MultisigQueue.Proofs.Address
import MultisigQueue.Proofs.Settings
import MultisigQueue.Proofs.Signature
import MultisigQueue.Proofs.Safe.Configuration
import MultisigQueue.Proofs.Rpc.Replies
