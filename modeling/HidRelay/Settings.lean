import HidRelay.Keyboard.ScanCode
import HidRelay.Pointer.Packet

/-!
What the owner of a relay chooses. Intervals are clock ticks of one microsecond.
-/

set_option autoImplicit false

namespace HidRelay

structure Settings where
  scanSet : Keyboard.ScanSet
  interval : Nat
  protocol : Pointer.Protocol
  maxDevices : Nat
deriving DecidableEq, Repr

namespace Settings

def standard : Settings := ⟨.two, 17000, .standard, 4⟩

def waitingCapacity : Nat := 10

end Settings
end HidRelay
