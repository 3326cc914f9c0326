import HidRelay.Descriptor.Directive
import HidRelay.Report.Catalog

/-!
Reading a whole descriptor. The reader keeps the globals in force with a stack of saved ones, the
usages declared since the last main item, and the open collections. Closing an application collection
adds one layout of each kind to the catalog.
-/

set_option autoImplicit false

namespace HidRelay.Descriptor

open Report (Kind Field Layout Catalog)

inductive Fault where
  | truncated (offset : Nat)
  | nothingToClose (offset : Nat)
  | nothingToPop (offset : Nat)
  | rangeWithoutStart (offset : Nat)
deriving DecidableEq, Repr

def Fault.message : Fault → String
  | .truncated offset => s!"item at offset {offset} is truncated"
  | .nothingToClose offset => s!"END_COLLECTION at offset {offset} closes nothing"
  | .nothingToPop offset => s!"POP at offset {offset} with nothing pushed"
  | .rangeWithoutStart offset => s!"USAGE_MAXIMUM at offset {offset} has no range start"

structure Globals where
  page : UInt16
  width : Nat
  count : Nat
  logicalMin : Int
  logicalMax : Int
  id : UInt8
deriving DecidableEq, Repr

def Globals.initial : Globals := ⟨0, 0, 0, 0, 0, 0⟩

def Globals.field (globals : Globals) (usages : List UInt16) : Field :=
  ⟨globals.page, usages, globals.width, globals.count, globals.logicalMin, globals.logicalMax⟩

-- An application collection keeps its fields in the order of their declaration; any other
-- collection leaves them to the application around it.
inductive Collection where
  | application (page usage : UInt16) (fields : List (Kind × Field))
  | plain
deriving DecidableEq, Repr

namespace Collection

-- Innermost first. A field outside every application is dropped.
def declare (kind : Kind) (field : Field) : List Collection → List Collection
  | [] => []
  | .application page usage fields :: outer => .application page usage (fields ++ [(kind, field)]) :: outer
  | .plain :: outer => .plain :: declare kind field outer

def layout (page usage : UInt16) (fields : List (Kind × Field)) (id : UInt8) (kind : Kind) : Layout :=
  ⟨page, usage, kind, id, (fields.filter fun declared => declared.1 = kind).map (·.2)⟩

def close (id : UInt8) (catalog : Catalog) : Collection → Catalog
  | .application page usage fields =>
      [Kind.input, .output, .feature].foldl (fun catalog kind => catalog.insert (layout page usage fields id kind)) catalog
  | .plain => catalog

end Collection

structure Reader where
  globals : Globals
  saved : List Globals
  usages : List UInt16
  collections : List Collection
  catalog : Catalog

namespace Reader

def initial : Reader := ⟨.initial, [], [], [], .empty⟩

def usagesBetween (first last : Nat) : List UInt16 :=
  (List.range' (first + 1) (min last 65535 - first)).map UInt16.ofNat

def step (reader : Reader) (offset : Nat) : Directive → Except Fault Reader
  | .declare kind =>
      let field := reader.globals.field reader.usages
      .ok { reader with usages := [], collections := Collection.declare kind field reader.collections }
  | .beginCollection application =>
      let opened := if application then
          .application reader.globals.page (reader.usages.getLast?.getD 0) []
        else .plain
      .ok { reader with usages := [], collections := opened :: reader.collections }
  | .endCollection =>
      match reader.collections with
      | [] => .error (.nothingToClose offset)
      | closed :: outer =>
          let catalog := closed.close reader.globals.id reader.catalog
          .ok { reader with usages := [], collections := outer, catalog }
  | .otherMain => .ok { reader with usages := [] }
  | .page code => .ok { reader with globals := { reader.globals with page := code } }
  | .logicalMin value => .ok { reader with globals := { reader.globals with logicalMin := value } }
  | .logicalMax value => .ok { reader with globals := { reader.globals with logicalMax := value } }
  | .reportSize width => .ok { reader with globals := { reader.globals with width } }
  | .reportId id => .ok { reader with globals := { reader.globals with id } }
  | .reportCount count => .ok { reader with globals := { reader.globals with count } }
  | .push => .ok { reader with saved := reader.globals :: reader.saved }
  | .pop =>
      match reader.saved with
      | [] => .error (.nothingToPop offset)
      | globals :: saved => .ok { reader with globals, saved }
  | .usage usage => .ok { reader with usages := reader.usages ++ [usage] }
  | .usagesUpTo last =>
      match reader.usages.getLast? with
      | none => .error (.rangeWithoutStart offset)
      | some first => .ok { reader with usages := reader.usages ++ usagesBetween first.toNat last }
  | .skip => .ok reader

def run (reader : Reader) : List Item → Except Fault Reader
  | [] => .ok reader
  | item :: rest =>
      match reader.step item.offset item.directive with
      | .error fault => .error fault
      | .ok next => next.run rest

end Reader

-- An incomplete item is noticed only if all the items before it were accepted. Collections that are
-- still open at the end leave nothing behind.
def read (descriptor : Bytes) : Except Fault Catalog :=
  let scanned := scan 0 descriptor
  match Reader.initial.run scanned.items with
  | .error fault => .error fault
  | .ok reader =>
      match scanned.truncated with
      | some offset => .error (.truncated offset)
      | none => .ok reader.catalog

end HidRelay.Descriptor
