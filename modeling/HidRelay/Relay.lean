import HidRelay.Device.Roster

/-!
The relay between wireless input devices and the two wires of a host. Every operation answers with
what it sent: scan codes on the keyboard wire, packets on the mouse wire.
-/

set_option autoImplicit false

namespace HidRelay

open Device (Address Delivery Roster)
open Pointer (Motion)

inductive Output where
  | scanCode (code : Bytes)
  | packet (part : Motion) (bytes : Bytes)
deriving DecidableEq, Repr

inductive Event where
  | connected (device : Address) (descriptor : Bytes)
  | disconnected (device : Address)
  | notification (device : Address) (id : UInt8) (report : Bytes)
deriving DecidableEq, Repr

structure Relay where
  settings : Settings
  roster : Roster

structure Reaction (ρ : Type) where
  relay : Relay
  result : ρ
  sent : List Output

namespace Relay

def start (settings : Settings) : Relay := ⟨settings, Roster.start settings.maxDevices⟩

def packets (settings : Settings) (motion : Motion) : List Output :=
  (motion.split settings.protocol).map fun part => .packet part (part.encode settings.protocol)

def outputs (settings : Settings) : Delivery → List Output
  | .keyboard encoded => encoded.events.map fun event => .scanCode event.code
  | .pointer (some motion) => packets settings motion
  | .pointer none => []
  | .ignored => []

def connect (relay : Relay) (device : Address) (descriptor : Bytes) : Except Failure Relay :=
  (relay.roster.connect device descriptor).map fun roster => { relay with roster }

def disconnect (relay : Relay) (device : Address) : Relay × Bool :=
  let gone := relay.roster.disconnect device
  ({ relay with roster := gone.1 }, gone.2)

-- A failed notification changes nothing and sends nothing.
def notify (relay : Relay) (device : Address) (id : UInt8) (report : Bytes) (now : Nat) :
    Except Failure (Reaction Delivery) :=
  match relay.roster.notify relay.settings device id report now with
  | .error failure => .error failure
  | .ok (roster, delivery) => .ok ⟨{ relay with roster }, delivery, outputs relay.settings delivery⟩

def poll (relay : Relay) (now : Nat) : Reaction Nat :=
  let flushed := relay.roster.flush now
  let motions := flushed.2.flatMap (·.2)
  ⟨{ relay with roster := flushed.1 }, motions.length, motions.flatMap (packets relay.settings)⟩

def nextDeadline (relay : Relay) : Except Pointer.ClockOverflow (Option Nat) := relay.roster.deadline

def handle (relay : Relay) (now : Nat) : Event → Except Failure (Reaction (Option Delivery))
  | .connected device descriptor => (relay.connect device descriptor).map fun relay => ⟨relay, none, []⟩
  | .disconnected device => .ok ⟨(relay.disconnect device).1, none, []⟩
  | .notification device id report =>
      (relay.notify device id report now).map fun reaction => { reaction with result := some reaction.result }

end Relay
end HidRelay
