import GuestHost.Proofs.Abi.Outcome
import GuestHost.Proofs.Abi.Ownership
import GuestHost.Proofs.Guest.Operations
import GuestHost.Proofs.Harness.Echo
import GuestHost.Proofs.Harness.Failures
import GuestHost.Proofs.Harness.GivenBack
import GuestHost.Proofs.Harness.Lending
import GuestHost.Proofs.Harness.ReceiveByteArray
import GuestHost.Proofs.Harness.TypedCalls
import GuestHost.Proofs.Harness.Writing
import GuestHost.Proofs.Host.Cap
import GuestHost.Proofs.Host.Record
import GuestHost.Proofs.Host.Recording
import GuestHost.Proofs.Memory.Overflow
import GuestHost.Proofs.Ownership.Representation
import GuestHost.Proofs.Ownership.Runs
import GuestHost.Proofs.Sample.Allocation
import GuestHost.Proofs.Sample.BusyLoop
import GuestHost.Proofs.Sample.Counter
import GuestHost.Proofs.Sample.Deadline
import GuestHost.Proofs.Sample.GuestEcho
import GuestHost.Proofs.Sample.Printing
import GuestHost.Proofs.Sample.ReceiveByteArray
import GuestHost.Proofs.Sample.Stopping
import GuestHost.Proofs.Sample.Upper
import GuestHost.Session.Instances
import GuestHost.Session.Memory
import GuestHost.Session.Run
import GuestHost.Settings.Load
import GuestHost.Proofs.Host.Head
import GuestHost.Proofs.Decimal.Binary64
import GuestHost.Proofs.Decimal.Integer
import GuestHost.Proofs.Decimal.Printed
import GuestHost.Proofs.Sample.Fibonacci
import GuestHost.Proofs.Settings.Layers
import GuestHost.Proofs.Settings.Load
import GuestHost.Proofs.Settings.Variables
