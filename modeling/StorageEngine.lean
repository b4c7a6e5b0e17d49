import StorageEngine.Proofs.Lock.Safety
import StorageEngine.Proofs.Lock.WaitsFor
import StorageEngine.Proofs.Pool.Caching
import StorageEngine.Session.Run
import StorageEngine.Proofs.Numbers
import StorageEngine.Proofs.Log.Format
import StorageEngine.Proofs.Log.System
import StorageEngine.Proofs.Log.Durability
import StorageEngine.Proofs.Log.Recovery
import StorageEngine.Proofs.Pool.Holding
import StorageEngine.Proofs.Pool.Logging
import StorageEngine.Proofs.Pool.WriteAhead
import StorageEngine.Proofs.Lock.Managers
import StorageEngine.Proofs.Lock.Accord
import StorageEngine.Proofs.Lock.Immediate
import StorageEngine.Proofs.Pool.Pinning
import StorageEngine.Proofs.Pool.Custody
import StorageEngine.Proofs.Pool.Marks
import StorageEngine.Proofs.Lock.Keeping
import StorageEngine.Proofs.Pool.Flushing
import StorageEngine.Proofs.Pool.Register
import StorageEngine.Proofs.Transaction.Isolation
import StorageEngine.Proofs.Lock.Separation
import StorageEngine.Proofs.Lock.Waking
import StorageEngine.Proofs.Disk.Archive
import StorageEngine.Proofs.Pool.Waking
import StorageEngine.Proofs.Lock.Counting
import StorageEngine.Proofs.Lock.Balance
import StorageEngine.Proofs.Pool.Failing
import StorageEngine.Proofs.Pool.Retrying
import StorageEngine.Proofs.Disk.Tearing
import StorageEngine.Proofs.Log.Checksum
import StorageEngine.Proofs.Log.Opening
import StorageEngine.Proofs.Log.Damage
import StorageEngine.Proofs.Log.Relabelling
import StorageEngine.Proofs.Text.RoundTrip
import StorageEngine.Proofs.Page.Bounds
import StorageEngine.Proofs.Page.Fields
import StorageEngine.Proofs.Page.Steps
import StorageEngine.Proofs.Pool.Turns
import StorageEngine.Proofs.Pool.Metering
import StorageEngine.Proofs.Pool.Charges
import StorageEngine.Proofs.Pool.Accounts
import StorageEngine.Proofs.Pool.Listing
import StorageEngine.Proofs.Waiting.Sleeps
