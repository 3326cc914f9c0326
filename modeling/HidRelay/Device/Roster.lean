import HidRelay.Device.Address
import HidRelay.Device.Session

/-!
The connected devices, at most `limit` of them. A device that connects again starts over; one whose
descriptor cannot be read keeps the session it had.
-/

set_option autoImplicit false

namespace HidRelay.Device

structure Roster where
  limit : Nat
  sessions : OrderedTable Address Session

namespace Roster

def start (limit : Nat) : Roster := ⟨limit, .empty⟩

def size (roster : Roster) : Nat := roster.sessions.size
def devices (roster : Roster) : List Address := roster.sessions.keys
def session? (roster : Roster) (device : Address) : Option Session := roster.sessions.lookup device

def update (roster : Roster) (device : Address) (session : Session) : Roster :=
  { roster with sessions := roster.sessions.insert device session }

-- The limit holds for new devices only.
def insert (roster : Roster) (device : Address) (catalog : Report.Catalog) : Except Failure Roster :=
  if (roster.session? device).isNone ∧ roster.limit ≤ roster.size then .error .tooManyDevices
  else .ok (roster.update device (Session.start catalog))

def connect (roster : Roster) (device : Address) (descriptor : Bytes) : Except Failure Roster :=
  match Descriptor.read descriptor with
  | .error fault => .error (.descriptor fault)
  | .ok catalog => roster.insert device catalog

def disconnect (roster : Roster) (device : Address) : Roster × Bool :=
  ({ roster with sessions := roster.sessions.erase device }, (roster.session? device).isSome)

def notify (roster : Roster) (settings : Settings) (device : Address) (id : UInt8) (report : Bytes) (now : Nat) :
    Except Failure (Roster × Delivery) :=
  match roster.session? device with
  | none => .error .unknownDevice
  | some session =>
      match session.notify settings id report now with
      | .error failure => .error failure
      | .ok (next, delivery) => .ok (roster.update device next, delivery)

-- Devices are flushed in ascending order of address.
def flush (roster : Roster) (now : Nat) : Roster × List (Address × List Pointer.Motion) :=
  ({ roster with sessions := roster.sessions.mapValues fun session => (session.flush now).1 },
    roster.sessions.entries.map fun entry => (entry.1, (entry.2.flush now).2))

def deadline (roster : Roster) : Except Pointer.ClockOverflow (Option Nat) :=
  Pointer.earliest (roster.sessions.values.map Session.deadline)

theorem session_update (roster : Roster) (device other : Address) (session : Session) :
    (roster.update device session).session? other = if other = device then some session else roster.session? other :=
  OrderedTable.lookup_insert other device session roster.sessions

theorem session_disconnect (roster : Roster) (device other : Address) :
    (roster.disconnect device).1.session? other = if other = device then none else roster.session? other :=
  OrderedTable.lookup_erase other device roster.sessions

end Roster
end HidRelay.Device
