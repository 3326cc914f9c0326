import HidRelay.Usage

/-!
The shape of one report: fields laid end to end, each a run of equally wide slots. Bit positions stop
at the largest 32-bit number instead of wrapping, so a field that lies beyond it never points back
into the report.
-/

set_option autoImplicit false

namespace HidRelay.Report

def positionLimit : Nat := 4294967295

def capped (position : Nat) : Nat := min position positionLimit

inductive Kind where
  | input
  | output
  | feature
deriving DecidableEq, Repr

structure Field where
  page : UInt16
  usages : List UInt16
  width : Nat
  count : Nat
  logicalMin : Int
  logicalMax : Int
deriving DecidableEq, Repr

namespace Field

def bitLength (field : Field) : Nat := capped (field.width * field.count)

def isBitmap (field : Field) : Bool := field.width = 1 ∧ 1 < field.count

end Field

structure Placed where
  offset : Nat
  field : Field
deriving DecidableEq, Repr

namespace Placed

-- An index of 2 ^ 32 or more would take as many declared usages, so it is not cut to 32 bits.
def slot (placed : Placed) (index : Nat) : Nat :=
  capped (placed.offset + capped (index * placed.field.width))

end Placed

def place (start : Nat) : List Field → List Placed
  | [] => []
  | field :: rest => ⟨start, field⟩ :: place (capped (start + field.bitLength)) rest

structure Layout where
  page : UInt16
  usage : UInt16
  kind : Kind
  id : UInt8
  fields : List Field
deriving DecidableEq, Repr

inductive Application where
  | keyboard
  | keypad
  | mouse
  | pointer
  | consumerControl
  | systemControl
  | other (page usage : UInt16)
deriving DecidableEq, Repr

namespace Application

def isKeyboardLike : Application → Bool
  | .keyboard | .keypad | .consumerControl | .systemControl => true
  | _ => false

def isPointerLike : Application → Bool
  | .mouse | .pointer => true
  | _ => false

theorem keyboard_or_pointer (application : Application) (keyboard : application.isKeyboardLike = true) :
    application.isPointerLike = false := by
  cases application <;> simp_all [isKeyboardLike, isPointerLike]

def ofUsage (page usage : UInt16) : Application :=
  match UsagePage.ofCode page with
  | .genericDesktop =>
      if usage = Usage.Desktop.keyboard then .keyboard
      else if usage = Usage.Desktop.keypad then .keypad
      else if usage = Usage.Desktop.mouse then .mouse
      else if usage = Usage.Desktop.pointer then .pointer
      else if usage = Usage.Desktop.systemControl then .systemControl
      else .other page usage
  | .consumer => if usage = Usage.Consumer.control then .consumerControl else .other page usage
  | _ => .other page usage

end Application

namespace Layout

def new (page usage : UInt16) (kind : Kind) (id : UInt8) : Layout := ⟨page, usage, kind, id, []⟩

def push (layout : Layout) (field : Field) : Layout := { layout with fields := layout.fields ++ [field] }

def placed (layout : Layout) : List Placed := place 0 layout.fields

def bitLength (layout : Layout) : Nat :=
  layout.fields.foldl (fun length field => capped (length + field.bitLength)) 0

def byteLength (layout : Layout) : Nat := (layout.bitLength + 7) / 8

def application (layout : Layout) : Application := .ofUsage layout.page layout.usage

end Layout
end HidRelay.Report
