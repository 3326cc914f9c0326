import HidRelay.Report.Slots

set_option autoImplicit false

namespace HidRelay.Pointer

open Report (Field Layout Placed Decoded ReadError readSigned)

structure State where
  x : Int
  y : Int
  wheel : Int
  pan : Int
  buttons : UInt8
deriving DecidableEq, Repr

inductive Control where
  | x
  | y
  | wheel
  | pan
  | button (index : Fin 8)
deriving DecidableEq, Repr

def buttonMask (index : Fin 8) : UInt8 := 1 <<< UInt8.ofNat index

namespace State

def rest : State := ⟨0, 0, 0, 0, 0⟩

def isPressed (state : State) (index : Nat) : Bool :=
  if inRange : index < 8 then state.buttons &&& buttonMask ⟨index, inRange⟩ ≠ 0 else false

-- A button is pressed by any value but zero.
def assign (state : State) (value : Int) : Control → State
  | .x => { state with x := value }
  | .y => { state with y := value }
  | .wheel => { state with wheel := value }
  | .pan => { state with pan := value }
  | .button index =>
      let others := state.buttons &&& ~~~buttonMask index
      { state with buttons := if value = 0 then others else others ||| buttonMask index }

end State

def desktopControl (usage : UInt16) : Option Control :=
  if usage = Usage.Desktop.x then some .x
  else if usage = Usage.Desktop.y then some .y
  else if usage = Usage.Desktop.wheel then some .wheel
  else none

def consumerControl (usage : UInt16) : Option Control :=
  if usage = Usage.Consumer.pan then some .pan else none

def usageSlots (control : UInt16 → Option Control) (usages : List UInt16) : List (Control × Nat) :=
  usages.zipIdx.filterMap fun entry => (control entry.1).map (·, entry.2)

def buttonSlots (first count : Nat) : List (Control × Nat) :=
  ((List.finRange 8).filter fun index => first ≤ index.val + 1 ∧ index.val + 1 < first + count).map fun index =>
    (.button index, index.val + 1 - first)

-- The slots of a field that mean something to a pointer. The usages of a button field after the
-- first do not matter, and a button field without usages is padding.
def fieldSlots (field : Field) : List (Control × Nat) :=
  match UsagePage.ofCode field.page with
  | .genericDesktop => usageSlots desktopControl field.usages
  | .consumer => usageSlots consumerControl field.usages
  | .button =>
      match field.usages with
      | [] => []
      | first :: _ => if field.isBitmap then buttonSlots first.toNat field.count else []
  | _ => []

def readControls (report : Bytes) (placed : Placed) : List (Control × Nat) → List (Control × Int) × Option ReadError
  | [] => ([], none)
  | (control, slot) :: rest =>
      match readSigned report (placed.slot slot) placed.field.width with
      | .error error => ([], some error)
      | .ok value =>
          let later := readControls report placed rest
          ((control, value) :: later.1, later.2)

structure NumberOverflow where
deriving DecidableEq, Repr

-- A button field has more bits than numbers of 32 bits are left to count them from its first.
def outnumbered (field : Field) : Bool :=
  match UsagePage.ofCode field.page, field.usages with
  | .button, first :: _ => field.isBitmap && decide (4294967296 < first.toNat + field.count)
  | _, _ => false

-- Numbers overflow behind the eight buttons, so a button that cannot be read ends its field before.
def counted (overflows : Bool) (read : List (Control × Int) × Option ReadError) :
    Except NumberOverflow (List (Control × Int) × Option ReadError) :=
  if overflows ∧ read.2 = none then .error ⟨⟩ else .ok read

def readField (report : Bytes) (placed : Placed) : Except NumberOverflow (List (Control × Int) × Option ReadError) :=
  counted (outnumbered placed.field) (readControls report placed (fieldSlots placed.field))

def gather (read : List (List (Control × Int) × Option ReadError)) : Decoded State :=
  ⟨(read.flatMap (·.1)).foldl (fun state entry => state.assign entry.2 entry.1) State.rest, read.findSome? (·.2)⟩

def decode (report : Bytes) (layout : Layout) : Except NumberOverflow (Decoded State) :=
  (layout.placed.mapM (readField report)).map gather

end HidRelay.Pointer
