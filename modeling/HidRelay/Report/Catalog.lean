import HidRelay.OrderedTable
import HidRelay.Report.Layout

set_option autoImplicit false

namespace HidRelay.Report

structure Catalog where
  input : OrderedTable UInt8 Layout
  output : OrderedTable UInt8 Layout
  feature : OrderedTable UInt8 Layout

namespace Catalog

def empty : Catalog := ⟨.empty, .empty, .empty⟩

def table (catalog : Catalog) : Kind → OrderedTable UInt8 Layout
  | .input => catalog.input
  | .output => catalog.output
  | .feature => catalog.feature

def insert (layout : Layout) (catalog : Catalog) : Catalog :=
  match layout.kind with
  | .input => { catalog with input := catalog.input.insert layout.id layout }
  | .output => { catalog with output := catalog.output.insert layout.id layout }
  | .feature => { catalog with feature := catalog.feature.insert layout.id layout }

def ofLayouts (layouts : List Layout) : Catalog := layouts.foldl (fun catalog layout => catalog.insert layout) empty

def layout? (catalog : Catalog) (kind : Kind) (id : UInt8) : Option Layout := (catalog.table kind).lookup id

theorem layout_empty (kind : Kind) (id : UInt8) : empty.layout? kind id = none := by
  cases kind <;> rfl

theorem layout_insert (catalog : Catalog) (layout : Layout) (kind : Kind) (id : UInt8) :
    (catalog.insert layout).layout? kind id =
      if kind = layout.kind ∧ id = layout.id then some layout else catalog.layout? kind id := by
  unfold insert
  split <;> rename_i same <;>
    cases kind <;> simp [layout?, table, same, OrderedTable.lookup_insert]

def usesReportIds (catalog : Catalog) : Bool := catalog.input.keys.any (· ≠ 0)

-- Without report IDs every input report has the one layout, whatever ID came with it.
def resolveInput (catalog : Catalog) (id : UInt8) : Option Layout :=
  match catalog.input.lookup id with
  | some layout => some layout
  | none => if catalog.usesReportIds then none else catalog.input.lookup 0

end Catalog
end HidRelay.Report
