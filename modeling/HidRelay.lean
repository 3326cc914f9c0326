import HidRelay.Word
import HidRelay.OrderedTable
import HidRelay.Usage
import HidRelay.Report.Bits
import HidRelay.Report.Layout
import HidRelay.Report.Catalog
import HidRelay.Descriptor.Item
import HidRelay.Descriptor.Directive
import HidRelay.Descriptor.Reader
import HidRelay.Descriptor.Boot
import HidRelay.Report.Slots
import HidRelay.Keyboard.Held
import HidRelay.Keyboard.ScanCode
import HidRelay.Keyboard.ScanTable
import HidRelay.Keyboard.Lookup
import HidRelay.Keyboard.Encoder
import HidRelay.Pointer.State
import HidRelay.Pointer.Packet
import HidRelay.Pointer.Pacer
import HidRelay.Settings
import HidRelay.Failure
import HidRelay.Device.Address
import HidRelay.Device.Session
import HidRelay.Device.Roster
import HidRelay.Relay
import HidRelay.Proofs.Keyboard.HostKeys
import HidRelay.Proofs.Pointer.Movement
import HidRelay.Proofs.Pointer.PacerRun
import HidRelay.Proofs.Descriptor.Tokens
import HidRelay.Proofs.Descriptor.Written
import HidRelay.Proofs.Pointer.Blocks
import HidRelay.Proofs.Descriptor.Outline
import HidRelay.Proofs.Pointer.HostPackets
import HidRelay.Proofs.Pointer.Parts
import HidRelay.Proofs.Device.Waiting
import HidRelay.Proofs.Relay.Run
import HidRelay.Proofs.Relay.HostMotion
import HidRelay.Proofs.Pointer.Buttons
import HidRelay.Proofs.Pointer.Wheel
import HidRelay.Proofs.Pointer.HostWheel
import HidRelay.Proofs.Pointer.FewestParts
import HidRelay.Proofs.Pointer.HostReading
import HidRelay.Proofs.Pointer.Delay
import HidRelay.Proofs.Pointer.Rate
import HidRelay.Proofs.Descriptor.Keyed
import HidRelay.Proofs.Device.Streams
import HidRelay.Proofs.Relay.Streams
import HidRelay.Proofs.Report.Positions
import HidRelay.Proofs.Descriptor.Faults
import HidRelay.Proofs.Report.BitReads
import HidRelay.Proofs.Pointer.Sites
import HidRelay.Proofs.Pointer.Packed
import HidRelay.Proofs.Pointer.OwnFields
import HidRelay.Proofs.Pointer.Due
import HidRelay.Proofs.Relay.Deadlines
import HidRelay.Proofs.Descriptor.Applications
import HidRelay.Proofs.Descriptor.Rewording
import HidRelay.Proofs.Device.InPlace
import HidRelay.Proofs.Device.Limit
import HidRelay.Proofs.Relay.Requests
import HidRelay.Proofs.Keyboard.HostCodes
import HidRelay.Proofs.Relay.KeyWire
import HidRelay.Proofs.Relay.KeysLeft
import HidRelay.Proofs.Relay.Malformed
import HidRelay.Proofs.Descriptor.UsageValues
import HidRelay.Proofs.Report.WholeNumber
import HidRelay.Proofs.Report.WordReads
import HidRelay.Proofs.Report.SlotReads
import HidRelay.Proofs.Descriptor.Cursor
import HidRelay.Proofs.Keyboard.Sites
import HidRelay.Proofs.Keyboard.Truncation
import HidRelay.Proofs.Descriptor.FieldWords
import HidRelay.Proofs.Descriptor.SavedGlobals
import HidRelay.Proofs.Keyboard.Reckoned
import HidRelay.Proofs.Pointer.Reckoned
import HidRelay.Proofs.Device.ExactPositions
import HidRelay.Proofs.Pointer.ButtonNumbers
import HidRelay.Proofs.Keyboard.Unmapped
import HidRelay.Proofs.Keyboard.Listing
import HidRelay.Proofs.Keyboard.TableScan
