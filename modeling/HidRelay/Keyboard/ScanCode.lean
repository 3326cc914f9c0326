import HidRelay.Word

/-!
What a host on the keyboard wire is sent for a key: the two scan code sets, and how each of them
spells the release of a key whose press it knows.
-/

set_option autoImplicit false

namespace HidRelay.Keyboard

inductive ScanSet where
  | one
  | two
deriving DecidableEq, Repr

def ScanSet.number : ScanSet → UInt8
  | .one => 1
  | .two => 2

inductive Transition where
  | press
  | release
deriving DecidableEq, Repr

inductive ScanCode where
  | silent
  | bytes (sequence : Bytes)
deriving DecidableEq, Repr

-- Set 1 raises the high bit of the last byte, set 2 puts F0 before it.
def ScanSet.release : ScanSet → Bytes → Bytes
  | _, [] => []
  | .one, [last] => [last ||| 0x80]
  | .two, [last] => [0xF0, last]
  | set, byte :: next :: rest => byte :: set.release (next :: rest)

inductive KeyCode where
  | full (press1 press2 : Bytes)
  | pressOnly (press1 press2 : Bytes)
  | silent
  | unassigned
deriving DecidableEq, Repr

namespace KeyCode

def pressIn : ScanSet → Bytes → Bytes → Bytes
  | .one, press1, _ => press1
  | .two, _, press2 => press2

def scanCode (set : ScanSet) : Transition → KeyCode → Option ScanCode
  | .press, .full press1 press2 => some (.bytes (pressIn set press1 press2))
  | .release, .full press1 press2 => some (.bytes (set.release (pressIn set press1 press2)))
  | .press, .pressOnly press1 press2 => some (.bytes (pressIn set press1 press2))
  | .release, .pressOnly _ _ => some .silent
  | _, .silent => some .silent
  | _, .unassigned => none

end KeyCode

structure Row where
  usage : UInt16
  code : KeyCode
deriving DecidableEq, Repr

end HidRelay.Keyboard
