import HidRelay.Descriptor.Reader
import HidRelay.Keyboard.Lookup
import HidRelay.Report.Bits

/-!
Why a request could not be carried out. An incomplete report and a key without a code do not stop a
relay; a caller that wants them as failures has a case for each. `numberOverflow` is no answer to a
caller: the addition that overflowed ends the program.
-/

set_option autoImplicit false

namespace HidRelay

inductive Failure where
  | descriptor (fault : Descriptor.Fault)
  | report (error : Report.ReadError)
  | scanCode (miss : Keyboard.LookupMiss)
  | unknownDevice
  | unknownReport (id : UInt8)
  | tooManyDevices
  | numberOverflow
deriving DecidableEq, Repr

def Failure.message : Failure → String
  | .descriptor fault => s!"report descriptor: {fault.message}"
  | .report error => s!"input report: {error.message}"
  | .scanCode miss => s!"scan code table: {miss.message}"
  | .unknownDevice => "device is not connected"
  | .unknownReport id => s!"no input report layout for report id {id}"
  | .tooManyDevices => "session limit reached"
  | .numberOverflow => "attempt to add with overflow"

end HidRelay
