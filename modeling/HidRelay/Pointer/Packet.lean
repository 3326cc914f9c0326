import HidRelay.Pointer.State

/-!
Motion as the host receives it: packets with nine-bit movement, and a wheel byte whose range depends
on the protocol. Up and towards the user are positive on the wire and negative in a report.
-/

set_option autoImplicit false

namespace HidRelay.Pointer

inductive Protocol where
  | standard
  | intelliMouse
  | explorer
deriving DecidableEq, Repr

namespace Protocol

def packetLength : Protocol → Nat
  | .standard => 3
  | .intelliMouse => 4
  | .explorer => 4

def wheelMin : Protocol → Int
  | .standard => 0
  | .intelliMouse => -128
  | .explorer => -8

def wheelMax : Protocol → Int
  | .standard => 0
  | .intelliMouse => 127
  | .explorer => 7

def deviceId : Protocol → UInt8
  | .standard => 0x00
  | .intelliMouse => 0x03
  | .explorer => 0x04

end Protocol

def maxDelta : Int := 255
def maxParts : Nat := 4
def maxPacketLength : Nat := 4

structure Motion where
  dx : Int
  dy : Int
  wheel : Int
  buttons : UInt8
deriving DecidableEq, Repr

namespace Motion

-- Only five buttons have a place in a packet.
def ofState (state : State) : Motion := ⟨state.x, state.y, state.wheel, state.buttons &&& 0x1F⟩

def isStill (motion : Motion) : Bool := motion.dx = 0 ∧ motion.dy = 0 ∧ motion.wheel = 0

def isIdle (motion : Motion) : Bool := motion.isStill ∧ motion.buttons = 0

def limited (protocol : Protocol) (parts : Nat) (motion : Motion) : Motion where
  dx := Word.clamp (-(maxDelta * parts)) (maxDelta * parts) motion.dx
  dy := Word.clamp (-(maxDelta * parts)) (maxDelta * parts) motion.dy
  wheel := Word.clamp (protocol.wheelMin * parts) (protocol.wheelMax * parts) motion.wheel
  buttons := motion.buttons

def minus (motion part : Motion) : Motion :=
  ⟨motion.dx - part.dx, motion.dy - part.dy, motion.wheel - part.wheel, motion.buttons⟩

def partsOf (protocol : Protocol) (motion : Motion) : Nat → List Motion
  | 0 => []
  | more + 1 =>
      let part := motion.limited protocol 1
      let left := motion.minus part
      part :: if left.isStill then [] else partsOf protocol left more

-- What exceeds the largest number of packets is lost; a motion that is idle still takes one packet.
def split (protocol : Protocol) (motion : Motion) : List Motion :=
  partsOf protocol (motion.limited protocol maxParts) maxParts

end Motion

structure NineBit where
  value : Int
  overflow : Bool
deriving DecidableEq, Repr

def nineBit (movement : Int) : NineBit :=
  let value := Word.clamp (-256) 255 movement
  ⟨value, value ≠ movement⟩

def flag (mask : UInt8) (raised : Bool) : UInt8 := if raised then mask else 0

namespace Motion

def status (buttons : UInt8) (x y : NineBit) : UInt8 :=
  (buttons &&& 0x07) ||| 0x08 ||| flag 0x10 (x.value < 0) ||| flag 0x20 (y.value < 0)
    ||| flag 0x40 x.overflow ||| flag 0x80 y.overflow

def wheelByte (protocol : Protocol) (motion : Motion) : Bytes :=
  let turn := UInt8.ofInt (Word.clamp protocol.wheelMin protocol.wheelMax (Word.cappedNeg motion.wheel))
  match protocol with
  | .standard => []
  | .intelliMouse => [turn]
  | .explorer => [(turn &&& 0x0F) ||| ((motion.buttons &&& (0x18 : UInt8)) <<< (1 : UInt8))]

def encode (protocol : Protocol) (motion : Motion) : Bytes :=
  let x := nineBit motion.dx
  let y := nineBit (Word.cappedNeg motion.dy)
  status motion.buttons x y :: UInt8.ofInt x.value :: UInt8.ofInt y.value :: motion.wheelByte protocol

theorem encode_length (protocol : Protocol) (motion : Motion) :
    (motion.encode protocol).length = protocol.packetLength := by
  cases protocol <;> rfl

end Motion
end HidRelay.Pointer
