import HidRelay.Failure
import HidRelay.Keyboard.Encoder
import HidRelay.Pointer.Pacer
import HidRelay.Settings

/-!
One connected device: its report layouts, and for each input layout in use the keys last held or the
pointer reports that still wait. The two tables are keyed by the ID of the layout, not by the ID that
came with a report.
-/

set_option autoImplicit false

namespace HidRelay.Device

open Report (Catalog)
open Keyboard (Encoder Encoded)
open Pointer (Pacer Motion ClockOverflow)

inductive Delivery where
  | keyboard (encoded : Encoded)
  | pointer (motion : Option Motion)
  | ignored
deriving DecidableEq, Repr

structure Session where
  catalog : Catalog
  encoders : OrderedTable UInt8 Encoder
  pacers : OrderedTable UInt8 Pacer

namespace Session

def start (catalog : Catalog) : Session := ⟨catalog, .empty, .empty⟩

def encoder (session : Session) (settings : Settings) (id : UInt8) : Encoder :=
  (session.encoders.lookup id).getD (Encoder.start settings.scanSet)

def pacer (session : Session) (settings : Settings) (id : UInt8) (now : Nat) : Pacer :=
  (session.pacers.lookup id).getD (Pacer.start Settings.waitingCapacity settings.interval now)

-- A report that is too short for its layout counts for what it holds.
def notify (session : Session) (settings : Settings) (id : UInt8) (report : Bytes) (now : Nat) :
    Except Failure (Session × Delivery) :=
  match session.catalog.resolveInput id with
  | none => .error (.unknownReport id)
  | some layout =>
      if layout.application.isKeyboardLike then
        let encoded := (session.encoder settings layout.id).encode (Keyboard.decode report layout).state
        .ok ({ session with encoders := session.encoders.insert layout.id encoded.1 }, .keyboard encoded.2)
      else if layout.application.isPointerLike then
        match Pointer.decode report layout with
        | .error _ => .error .numberOverflow
        | .ok decoded =>
            let pushed := (session.pacer settings layout.id now).push decoded.state now
            .ok ({ session with pacers := session.pacers.insert layout.id pushed.1 }, .pointer pushed.2)
      else .ok (session, .ignored)

def flush (session : Session) (now : Nat) : Session × List Motion :=
  ({ session with pacers := session.pacers.mapValues fun pacer => (pacer.flush now).1 },
    session.pacers.values.filterMap fun pacer => (pacer.flush now).2)

def deadline (session : Session) : Except ClockOverflow (Option Nat) :=
  Pointer.earliest (session.pacers.values.map Pacer.deadline)

end Session
end HidRelay.Device
