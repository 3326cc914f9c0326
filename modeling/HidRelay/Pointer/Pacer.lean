import HidRelay.Pointer.Packet

/-!
Pacing: reports that only move the pointer wait until enough time or enough of them have passed, and
are then merged into one motion. A change of the buttons or the wheel is never held back. Times are
clock ticks; the clock has 64 bits.
-/

set_option autoImplicit false

namespace HidRelay.Pointer

structure Pacer where
  capacity : Nat
  interval : Nat
  waiting : List State
  lastEmission : Nat
  lastSeen : State
deriving DecidableEq, Repr

def clockLimit : Nat := 18446744073709551615

structure ClockOverflow where
  due : Nat
deriving DecidableEq, Repr

def sooner : Option Nat → Option Nat → Option Nat
  | none, right => right
  | left, none => left
  | some left, some right => some (min left right)

def earliest : List (Except ClockOverflow (Option Nat)) → Except ClockOverflow (Option Nat)
  | [] => .ok none
  | .error overflow :: _ => .error overflow
  | .ok first :: rest => (earliest rest).map (sooner first)

namespace Pacer

def start (capacity interval now : Nat) : Pacer := ⟨capacity, interval, [], now, State.rest⟩

-- A clock that runs backwards has let no time pass.
def elapsed (pacer : Pacer) (now : Nat) : Nat := now - pacer.lastEmission

def merge (motion : Motion) (state : State) : Motion :=
  { motion with dx := Word.cappedAdd motion.dx state.x, dy := Word.cappedAdd motion.dy state.y }

-- Wheel and buttons are those of `state`; the movements of all the states that waited are added to its own.
def emit (pacer : Pacer) (earlier : List State) (state : State) (now : Nat) : Pacer × Motion :=
  ({ pacer with waiting := [], lastEmission := now }, earlier.foldl merge (Motion.ofState state))

def changed (pacer : Pacer) (state : State) : Bool :=
  state.buttons ≠ pacer.lastSeen.buttons ∨ state.wheel ≠ pacer.lastSeen.wheel

def urgent (pacer : Pacer) (state : State) (now : Nat) : Bool :=
  pacer.changed state ∨ pacer.capacity ≤ pacer.waiting.length ∨ pacer.interval ≤ pacer.elapsed now

def push (pacer : Pacer) (state : State) (now : Nat) : Pacer × Option Motion :=
  if pacer.urgent state now then
    let emitted := { pacer with lastSeen := state }.emit pacer.waiting state now
    (emitted.1, some emitted.2)
  else ({ pacer with waiting := pacer.waiting ++ [state], lastSeen := state }, none)

def flush (pacer : Pacer) (now : Nat) : Pacer × Option Motion :=
  if pacer.elapsed now < pacer.interval then (pacer, none)
  else
    match pacer.waiting.getLast? with
    | none => (pacer, none)
    | some state =>
        let emitted := pacer.emit pacer.waiting.dropLast state now
        (emitted.1, some emitted.2)

def pending (pacer : Pacer) : Nat := pacer.waiting.length

def deadline (pacer : Pacer) : Except ClockOverflow (Option Nat) :=
  if pacer.waiting = [] then .ok none
  else
    let due := pacer.lastEmission + pacer.interval
    if due ≤ clockLimit then .ok (some due) else .error ⟨due⟩

theorem push_pending (pacer : Pacer) (state : State) (now : Nat) :
    (pacer.push state now).1.pending ≤ pacer.capacity := by
  unfold push
  split
  case isTrue => simp [emit, pending]
  case isFalse waits =>
    have free : ¬ pacer.capacity ≤ pacer.waiting.length := by
      intro full
      exact waits (by simp [urgent, full])
    simp only [pending, List.length_append, List.length_singleton]
    omega

theorem flush_pending (pacer : Pacer) (now : Nat) : (pacer.flush now).1.pending ≤ pacer.pending := by
  unfold flush
  split
  · exact Nat.le_refl _
  · split
    · exact Nat.le_refl _
    · simp [emit, pending]

end Pacer
end HidRelay.Pointer
