/-!
Tables with one entry for each key, kept in ascending order of a key's rank. `lookup` is the view:
each operation is described by what it does to every lookup.
-/

set_option autoImplicit false

namespace HidRelay

class Ranked (κ : Type) where
  rank : κ → Nat
  rank_injective : ∀ {left right : κ}, rank left = rank right → left = right

export Ranked (rank)

instance : Ranked UInt8 where
  rank := UInt8.toNat
  rank_injective := fun same => UInt8.toNat_inj.mp same

def Ascending {κ α : Type} [Ranked κ] (entries : List (κ × α)) : Prop :=
  entries.Pairwise fun earlier later => rank earlier.1 < rank later.1

structure OrderedTable (κ α : Type) [Ranked κ] where
  entries : List (κ × α)
  ascending : Ascending entries

namespace OrderedTable

variable {κ α β : Type} [Ranked κ]

def empty : OrderedTable κ α := ⟨[], List.Pairwise.nil⟩

def lookupEntry (key : κ) : List (κ × α) → Option α
  | [] => none
  | (other, value) :: rest => if rank key = rank other then some value else lookupEntry key rest

def insertEntry (key : κ) (value : α) : List (κ × α) → List (κ × α)
  | [] => [(key, value)]
  | (other, old) :: rest =>
      if rank key < rank other then (key, value) :: (other, old) :: rest
      else if rank key = rank other then (key, value) :: rest
      else (other, old) :: insertEntry key value rest

theorem mem_insert_entry (key : κ) (value : α) (entries : List (κ × α)) (entry : κ × α)
    (member : entry ∈ insertEntry key value entries) : entry = (key, value) ∨ entry ∈ entries := by
  induction entries with
  | nil => simpa [insertEntry] using member
  | cons head rest ih =>
      obtain ⟨other, old⟩ := head
      simp only [insertEntry] at member
      split at member
      · simpa using member
      · split at member
        · rcases List.mem_cons.mp member with same | later
          · exact .inl same
          · exact .inr (List.mem_cons_of_mem _ later)
        · rcases List.mem_cons.mp member with same | later
          · exact .inr (same ▸ List.mem_cons_self)
          · exact (ih later).imp_right (List.mem_cons_of_mem _)

theorem insert_entry_ascending (key : κ) (value : α) (entries : List (κ × α))
    (ascending : Ascending entries) : Ascending (insertEntry key value entries) := by
  induction entries with
  | nil => simp [insertEntry, Ascending]
  | cons head rest ih =>
      obtain ⟨other, old⟩ := head
      have parts := List.pairwise_cons.mp ascending
      simp only [insertEntry]
      split
      case isTrue less =>
        refine List.pairwise_cons.mpr ⟨fun entry member => ?_, ascending⟩
        rcases List.mem_cons.mp member with same | later
        · simpa [same] using less
        · exact Nat.lt_trans less (parts.1 entry later)
      case isFalse notLess =>
        split
        case isTrue same =>
          refine List.pairwise_cons.mpr ⟨fun entry member => ?_, parts.2⟩
          simpa [same] using parts.1 entry member
        case isFalse different =>
          refine List.pairwise_cons.mpr ⟨fun entry member => ?_, ih parts.2⟩
          rcases mem_insert_entry key value rest entry member with same | later
          · have : rank other < rank key := by omega
            simpa [same] using this
          · exact parts.1 entry later

def lookup (key : κ) (table : OrderedTable κ α) : Option α := lookupEntry key table.entries

def insert (key : κ) (value : α) (table : OrderedTable κ α) : OrderedTable κ α :=
  ⟨insertEntry key value table.entries, insert_entry_ascending key value table.entries table.ascending⟩

def erase (key : κ) (table : OrderedTable κ α) : OrderedTable κ α :=
  ⟨table.entries.filter fun entry => rank key ≠ rank entry.1, table.ascending.filter _⟩

def mapValues (f : α → β) (table : OrderedTable κ α) : OrderedTable κ β :=
  ⟨table.entries.map fun entry => (entry.1, f entry.2), List.pairwise_map.mpr (table.ascending.imp id)⟩

def keys (table : OrderedTable κ α) : List κ := table.entries.map (·.1)
def values (table : OrderedTable κ α) : List α := table.entries.map (·.2)
def size (table : OrderedTable κ α) : Nat := table.entries.length

theorem lookup_empty (key : κ) : (empty : OrderedTable κ α).lookup key = none := rfl

theorem rank_eq (left right : κ) : rank left = rank right ↔ left = right :=
  ⟨Ranked.rank_injective, fun same => by rw [same]⟩

theorem lookup_insert [DecidableEq κ] (query key : κ) (value : α) (table : OrderedTable κ α) :
    (table.insert key value).lookup query = if query = key then some value else table.lookup query := by
  obtain ⟨entries, ascending⟩ := table
  simp only [lookup, insert]
  clear ascending
  induction entries with
  | nil => simp [insertEntry, lookupEntry, rank_eq]
  | cons head rest ih =>
      obtain ⟨other, old⟩ := head
      simp only [insertEntry]
      split
      · simp [lookupEntry, rank_eq]
      · split
        case isTrue same =>
          have sameKey := (rank_eq key other).mp same
          by_cases found : query = key <;> simp_all [lookupEntry, rank_eq]
        case isFalse different =>
          have differentKey : key ≠ other := fun same => different ((rank_eq key other).mpr same)
          by_cases found : query = other
          · simp [lookupEntry, found, Ne.symm differentKey]
          · simp [lookupEntry, rank_eq, found, ih]

theorem lookup_erase [DecidableEq κ] (query key : κ) (table : OrderedTable κ α) :
    (table.erase key).lookup query = if query = key then none else table.lookup query := by
  obtain ⟨entries, ascending⟩ := table
  simp only [lookup, erase, ne_eq, rank_eq]
  clear ascending
  induction entries with
  | nil => simp [lookupEntry]
  | cons head rest ih =>
      obtain ⟨other, old⟩ := head
      by_cases dropped : key = other
      · subst other
        by_cases found : query = key <;> simp_all [lookupEntry, rank_eq]
      · by_cases found : query = other
        · simp [lookupEntry, dropped, found, Ne.symm dropped]
        · simpa [lookupEntry, rank_eq, dropped, found] using ih

theorem lookup_map_values (query : κ) (f : α → β) (table : OrderedTable κ α) :
    (table.mapValues f).lookup query = (table.lookup query).map f := by
  obtain ⟨entries, ascending⟩ := table
  simp only [lookup, mapValues]
  clear ascending
  induction entries with
  | nil => rfl
  | cons head rest ih => by_cases found : rank query = rank head.1 <;> simp [lookupEntry, found, ih]

end OrderedTable
end HidRelay
