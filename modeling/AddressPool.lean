import AddressPool.Address.Header
import AddressPool.Address.Socket
import AddressPool.Main
import AddressPool.Proofs.Address.RoundTrip
import AddressPool.Proofs.Network.Refinement
import AddressPool.Proofs.Network.Exhaustion
import AddressPool.Proofs.Wire.Image
import AddressPool.Proofs.Record.RoundTrip
import AddressPool.Proofs.Job.Allocation
import AddressPool.Proofs.Record.Acceptance
import AddressPool.Proofs.Network.Placement
import AddressPool.Proofs.Log
import AddressPool.Proofs.Network.Journal
import AddressPool.Proofs.Network.Restart
import AddressPool.Proofs.Network.Words
import AddressPool.Proofs.Cli.Conversion
import AddressPool.Proofs.Cli.JobOptions
import AddressPool.Proofs.Network.Netspec
import AddressPool.Proofs.Network.Span
import AddressPool.Proofs.Network.Nesting
import AddressPool.Proofs.Network.Spreading
import AddressPool.Proofs.Network.Order
import AddressPool.Proofs.Address.Parameters
import AddressPool.Proofs.Network.Mask
import AddressPool.Proofs.Address.PathText
import AddressPool.Proofs.Record.Trailing
import AddressPool.Proofs.Wire.Writing
import AddressPool.Proofs.Bytes
import AddressPool.Proofs.Address.Order
import AddressPool.Proofs.Fingerprint
import AddressPool.Proofs.Address.Header
import AddressPool.Proofs.Network.Gateway
import AddressPool.Proofs.LocalPath
