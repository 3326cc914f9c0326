import HidRelay.Keyboard.Held
import HidRelay.Keyboard.Lookup

/-!
From successive sets of held keys to the scan codes of what changed. Keys that are no longer held
are released before any new key is pressed; a change of page releases everything.
-/

set_option autoImplicit false

namespace HidRelay.Keyboard

structure Change where
  page : UInt16
  usage : UInt16
  transition : Transition
deriving DecidableEq, Repr

namespace Held

def holds (held : Held) (page usage : UInt16) : Bool := held.page = page ∧ held.isDown usage

def released (before after : Held) : List Change :=
  (before.keys.filter fun usage => !after.holds before.page usage).map (⟨before.page, ·, .release⟩)

def pressed (before after : Held) : List Change :=
  (after.keys.filter fun usage => !before.holds after.page usage).map (⟨after.page, ·, .press⟩)

def changes (before after : Held) : List Change := before.released after ++ before.pressed after

end Held

structure KeyEvent where
  page : UInt16
  usage : UInt16
  transition : Transition
  code : Bytes
deriving DecidableEq, Repr

structure Encoded where
  events : List KeyEvent
  misses : List LookupMiss
deriving DecidableEq, Repr

namespace Change

def lookup (set : ScanSet) (change : Change) : Except LookupMiss ScanCode :=
  Keyboard.lookup set change.page change.usage change.transition

-- A silent transition is neither an event nor a miss.
def event? (set : ScanSet) (change : Change) : Option KeyEvent :=
  match change.lookup set with
  | .ok (.bytes code) => some ⟨change.page, change.usage, change.transition, code⟩
  | _ => none

def miss? (set : ScanSet) (change : Change) : Option LookupMiss :=
  match change.lookup set with
  | .error miss => some miss
  | .ok _ => none

end Change

def Encoded.ofChanges (set : ScanSet) (changes : List Change) : Encoded :=
  ⟨changes.filterMap (·.event? set), changes.filterMap (·.miss? set)⟩

structure Encoder where
  set : ScanSet
  previous : Option Held
deriving DecidableEq, Repr

namespace Encoder

def start (set : ScanSet) : Encoder := ⟨set, none⟩

def encode (encoder : Encoder) (current : Held) : Encoder × Encoded :=
  let before := encoder.previous.getD (Held.empty current.page)
  ({ encoder with previous := some current }, .ofChanges encoder.set (before.changes current))

end Encoder
end HidRelay.Keyboard
