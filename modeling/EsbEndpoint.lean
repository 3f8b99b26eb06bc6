import EsbEndpoint.Advertising
import EsbEndpoint.Bench
import EsbEndpoint.Common.Codec
import EsbEndpoint.Common.Ring
import EsbEndpoint.Common.Run
import EsbEndpoint.Control
import EsbEndpoint.Dongle.Consumer
import EsbEndpoint.Dongle.Keyboard
import EsbEndpoint.Dongle.Mouse
import EsbEndpoint.Dongle.OnRadio
import EsbEndpoint.Dongle.Paired
import EsbEndpoint.Dongle.Recorded
import EsbEndpoint.Dongle.Verified
import EsbEndpoint.HidRelay.Keys
import EsbEndpoint.HidRelay.Modifiers
import EsbEndpoint.HidRelay.Replay
import EsbEndpoint.Hop.Active
import EsbEndpoint.Hop.Agreement
import EsbEndpoint.Hop.Burst
import EsbEndpoint.Hop.Converge
import EsbEndpoint.Hop.Cooldown
import EsbEndpoint.Hop.Dwell
import EsbEndpoint.Hop.Hold
import EsbEndpoint.Hop.Idle
import EsbEndpoint.Hop.Invariant
import EsbEndpoint.Hop.Landing
import EsbEndpoint.Hop.Offer
import EsbEndpoint.Hop.Reach
import EsbEndpoint.Hop.Refused
import EsbEndpoint.Hop.Revert
import EsbEndpoint.InputProcessor.Edges
import EsbEndpoint.Ownership
import EsbEndpoint.Pairing
import EsbEndpoint.Pairing.LinkUp
import EsbEndpoint.Pairing.Reads
import EsbEndpoint.Pairing.Record
import EsbEndpoint.Pairing.Stopped
import EsbEndpoint.Shell.Editor
import EsbEndpoint.Shell.Exec
import EsbEndpoint.Shell.Output
import EsbEndpoint.Shell.Polling
import EsbEndpoint.Shell.Session
import EsbEndpoint.Shell.Stdout
import EsbEndpoint.Transport.Adaptive
import EsbEndpoint.Transport.Atomic
import EsbEndpoint.Transport.Classes
import EsbEndpoint.Transport.Degraded
import EsbEndpoint.Transport.Jitter
import EsbEndpoint.Transport.Keyboard
import EsbEndpoint.Transport.Ledger
import EsbEndpoint.Transport.Receive
import EsbEndpoint.Transport.Refund
import EsbEndpoint.Transport.Restart
import EsbEndpoint.Transport.Rings
import EsbEndpoint.Transport.SideTrip
import EsbEndpoint.Transport.Stall
import EsbEndpoint.Transport.Streak
import EsbEndpoint.Transport.WeakLink
import EsbEndpoint.Transport.Window
import EsbEndpoint.Vendor.Address
import EsbEndpoint.Vendor.Esb
import EsbEndpoint.Vendor.Progress
import EsbEndpoint.Vendor.Receiver
import EsbEndpoint.Vendor.Replies
import EsbEndpoint.Vendor.Transmitter
