import DmaOwnership.Lane
import DmaOwnership.Width
import DmaOwnership.Control
import DmaOwnership.Event
import DmaOwnership.Fault
import DmaOwnership.Bank
import DmaOwnership.Buffer
import DmaOwnership.Ring
import DmaOwnership.Counters
import DmaOwnership.Peripheral
import DmaOwnership.Machine
import DmaOwnership.Channel
import DmaOwnership.Transfer
import DmaOwnership.Stream
import DmaOwnership.Buffer.Borrow
import DmaOwnership.Text.Printable
import DmaOwnership.Text.Quote
import DmaOwnership.Text.Numeral
import DmaOwnership.Text.Duration
import DmaOwnership.Text.Address
import DmaOwnership.Text.Url
import DmaOwnership.Scenario.Request
import DmaOwnership.Scenario.Answer
import DmaOwnership.Scenario.Session
import DmaOwnership.Script.Splitting
import DmaOwnership.Script.Lines
import DmaOwnership.Script.Simulator
import DmaOwnership.Cli.Flags
import DmaOwnership.Cli.Broker
import DmaOwnership.Cli.Words
import DmaOwnership.Cli.Workspace
import DmaOwnership.Cli.Program
import DmaOwnership.Main
import DmaOwnership.Proofs.Bank.Clear
import DmaOwnership.Proofs.Act
import DmaOwnership.Proofs.Bank.Reads
import DmaOwnership.Proofs.Bank.Frame
import DmaOwnership.Proofs.Spec.Channel
import DmaOwnership.Proofs.Spec.Transfer
import DmaOwnership.Proofs.Spec.Stream
import DmaOwnership.Proofs.Stream.Reader
import DmaOwnership.Proofs.Lane.Flags
import DmaOwnership.Proofs.Spec.Borrow
import DmaOwnership.Proofs.Client
import DmaOwnership.Proofs.Buffer.Marks
import DmaOwnership.Proofs.Ownership.Owners
import DmaOwnership.Proofs.Ownership.Kept
import DmaOwnership.Proofs.Lane.Within
import DmaOwnership.Proofs.Stream.Lapped
import DmaOwnership.Proofs.Stream.Held
import DmaOwnership.Proofs.Transfer.Wait
import DmaOwnership.Proofs.Script.Steady
import DmaOwnership.Proofs.Script.Halts
import DmaOwnership.Proofs.Transfer.Start
import DmaOwnership.Proofs.Ownership.AtRest
import DmaOwnership.Proofs.Script.Books
import DmaOwnership.Proofs.Calls.Logged
import DmaOwnership.Proofs.Calls.Counted
import DmaOwnership.Proofs.Lane.Interrupts
import DmaOwnership.Proofs.Transfer.Settle
import DmaOwnership.Proofs.Lane.Program
import DmaOwnership.Proofs.Lane.Fields
import DmaOwnership.Proofs.Text.Hex
import DmaOwnership.Proofs.Cli.Words
import DmaOwnership.Proofs.Script.Plain
import DmaOwnership.Proofs.Transfer.Release
import DmaOwnership.Proofs.Stream.Halves
import DmaOwnership.Proofs.Stream.Engine
import DmaOwnership.Proofs.Stream.ReaderRun
import DmaOwnership.Proofs.Calls.Observers
import DmaOwnership.Proofs.Bank.Schedule
import DmaOwnership.Proofs.Script.DueRead
import DmaOwnership.Proofs.Bank.Enabled
import DmaOwnership.Proofs.Stream.PausesDropped
import DmaOwnership.Proofs.Script.OneShotBytes
import DmaOwnership.Proofs.Script.RingFrame
import DmaOwnership.Proofs.Script.RingBytes
