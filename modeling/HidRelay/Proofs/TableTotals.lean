import HidRelay.OrderedTable
import Mathlib.Algebra.Ring.Int.Defs

set_option autoImplicit false

namespace HidRelay.OrderedTable

variable {κ α β : Type} [Ranked κ]

def Every (property : α → Prop) (table : OrderedTable κ α) : Prop :=
  ∀ key value, table.lookup key = some value → property value

def total (amount : α → Int) (table : OrderedTable κ α) : Int := (table.values.map amount).sum

def share (amount : α → Int) (key : κ) (table : OrderedTable κ α) : Int := (table.lookup key).elim 0 amount

theorem lookup_entry_above (key : κ) (entries : List (κ × α))
    (above : ∀ entry ∈ entries, rank key < rank entry.1) : lookupEntry key entries = none := by
  induction entries with
  | nil => rfl
  | cons head rest ih =>
      have different : rank key ≠ rank head.1 := Nat.ne_of_lt (above head List.mem_cons_self)
      rw [lookupEntry, if_neg different]
      exact ih fun entry member => above entry (List.mem_cons_of_mem _ member)

theorem erase_entry_above (key : κ) (entries : List (κ × α))
    (above : ∀ entry ∈ entries, rank key < rank entry.1) :
    entries.filter (fun entry => rank key ≠ rank entry.1) = entries := by
  apply List.filter_eq_self.mpr
  intro entry member
  exact decide_eq_true (Nat.ne_of_lt (above entry member))

theorem lookup_entry_of_mem (entries : List (κ × α)) (entry : κ × α) (ascending : Ascending entries)
    (member : entry ∈ entries) : lookupEntry entry.1 entries = some entry.2 := by
  induction entries with
  | nil => exact absurd member List.not_mem_nil
  | cons head rest ih =>
      obtain ⟨above, later⟩ := List.pairwise_cons.mp ascending
      rcases List.mem_cons.mp member with same | behind
      · rw [same, lookupEntry, if_pos rfl]
      · have different : rank entry.1 ≠ rank head.1 := (Nat.ne_of_lt (above entry behind)).symm
        rw [lookupEntry, if_neg different]
        exact ih later behind

theorem lookup_of_mem (table : OrderedTable κ α) (entry : κ × α) (member : entry ∈ table.entries) :
    table.lookup entry.1 = some entry.2 :=
  lookup_entry_of_mem table.entries entry table.ascending member

theorem mem_of_lookup_entry (entries : List (κ × α)) (key : κ) (value : α) (found : lookupEntry key entries = some value) :
    (key, value) ∈ entries := by
  induction entries with
  | nil => exact nomatch found
  | cons head rest ih =>
      rw [lookupEntry] at found
      by_cases same : rank key = rank head.1
      · rw [if_pos same] at found
        exact List.mem_cons.mpr (.inl (Prod.ext (Ranked.rank_injective same) (Option.some.inj found).symm))
      · rw [if_neg same] at found
        exact List.mem_cons_of_mem _ (ih found)

theorem mem_entries (table : OrderedTable κ α) (key : κ) (value : α) :
    (key, value) ∈ table.entries ↔ table.lookup key = some value :=
  ⟨lookup_of_mem table (key, value), mem_of_lookup_entry table.entries key value⟩

theorem every_empty (property : α → Prop) : (empty : OrderedTable κ α).Every property := by
  intro key value found
  exact nomatch found

theorem every_insert [DecidableEq κ] (property : α → Prop) (key : κ) (value : α) (table : OrderedTable κ α)
    (every : table.Every property) (holds : property value) : (table.insert key value).Every property := by
  intro query other found
  rw [lookup_insert] at found
  by_cases same : query = key
  · rw [if_pos same] at found
    exact Option.some.inj found ▸ holds
  · rw [if_neg same] at found
    exact every query other found

theorem every_erase [DecidableEq κ] (property : α → Prop) (key : κ) (table : OrderedTable κ α)
    (every : table.Every property) : (table.erase key).Every property := by
  intro query other found
  rw [lookup_erase] at found
  by_cases same : query = key
  · rw [if_pos same] at found
    exact nomatch found
  · rw [if_neg same] at found
    exact every query other found

theorem every_map_values (property : β → Prop) (f : α → β) (table : OrderedTable κ α)
    (every : table.Every fun value => property (f value)) : (table.mapValues f).Every property := by
  intro query other found
  rw [lookup_map_values] at found
  obtain ⟨value, old, image⟩ := Option.map_eq_some_iff.mp found
  exact image ▸ every query value old

theorem total_insert (amount : α → Int) (key : κ) (value : α) (table : OrderedTable κ α) :
    (table.insert key value).total amount + table.share amount key = table.total amount + amount value := by
  obtain ⟨entries, ascending⟩ := table
  simp only [total, share, values, insert, lookup]
  induction entries with
  | nil => simp [insertEntry, lookupEntry]
  | cons head rest ih =>
      obtain ⟨other, old⟩ := head
      obtain ⟨above, later⟩ := List.pairwise_cons.mp ascending
      have behind := ih later
      simp only [insertEntry]
      split
      case isTrue less =>
        have absent : lookupEntry key ((other, old) :: rest) = none := by
          apply lookup_entry_above
          intro entry member
          rcases List.mem_cons.mp member with same | within
          · exact same ▸ less
          · exact Nat.lt_trans less (above entry within)
        simp only [absent, List.map_cons, List.sum_cons, Option.elim_none]
        omega
      case isFalse notLess =>
        split
        case isTrue same =>
          simp only [lookupEntry, if_pos same, List.map_cons, List.sum_cons, Option.elim_some]
          omega
        case isFalse different =>
          simp only [lookupEntry, if_neg different, List.map_cons, List.sum_cons]
          omega

theorem total_erase (amount : α → Int) (key : κ) (table : OrderedTable κ α) :
    (table.erase key).total amount + table.share amount key = table.total amount := by
  obtain ⟨entries, ascending⟩ := table
  simp only [total, share, values, erase, lookup]
  induction entries with
  | nil => rfl
  | cons head rest ih =>
      obtain ⟨above, later⟩ := List.pairwise_cons.mp ascending
      have behind := ih later
      by_cases same : rank key = rank head.1
      · have kept := erase_entry_above key rest fun entry member => same ▸ above entry member
        rw [List.filter_cons_of_neg (by simpa using same), kept]
        simp only [lookupEntry, if_pos same, List.map_cons, List.sum_cons, Option.elim_some]
        omega
      · rw [List.filter_cons_of_pos (by simpa using same)]
        simp only [lookupEntry, if_neg same, List.map_cons, List.sum_cons]
        omega

theorem total_map_values (amount change : α → Int) (f : α → α) (table : OrderedTable κ α)
    (balance : ∀ key value, table.lookup key = some value → amount (f value) + change value = amount value) :
    (table.mapValues f).total amount + table.total change = table.total amount := by
  have each : ∀ entry ∈ table.entries, amount (f entry.2) + change entry.2 = amount entry.2 :=
    fun entry member => balance entry.1 entry.2 (lookup_of_mem table entry member)
  obtain ⟨entries, ascending⟩ := table
  simp only [total, values, mapValues] at each ⊢
  clear ascending balance
  induction entries with
  | nil => rfl
  | cons head rest ih =>
      have own := each head List.mem_cons_self
      have others := ih fun entry member => each entry (List.mem_cons_of_mem _ member)
      simp only [List.map_cons, List.sum_cons]
      omega

theorem lookup_entry_head (entry : κ × α) (rest : List (κ × α)) : lookupEntry entry.1 (entry :: rest) = some entry.2 :=
  if_pos rfl

theorem lookup_entry_behind (key : κ) (entry : κ × α) (rest : List (κ × α)) (different : rank key ≠ rank entry.1) :
    lookupEntry key (entry :: rest) = lookupEntry key rest := if_neg different

theorem lookup_entry_rank (key : κ) (value : α) (first : κ × α) (rest : List (κ × α)) (ascending : Ascending (first :: rest))
    (found : lookupEntry key (first :: rest) = some value) : rank first.1 ≤ rank key := by
  by_contra below
  rw [lookup_entry_above] at found
  · exact nomatch found
  · intro entry member
    have less : rank key < rank first.1 := Nat.not_le.mp below
    rcases List.mem_cons.mp member with same | behind
    · exact same ▸ less
    · exact Nat.lt_trans less ((List.pairwise_cons.mp ascending).1 entry behind)

theorem entries_of_lookup (left right : List (κ × α)) (leftAscending : Ascending left) (rightAscending : Ascending right)
    (same : ∀ key, lookupEntry key left = lookupEntry key right) : left = right := by
  induction left generalizing right with
  | nil =>
      cases right with
      | nil => rfl
      | cons head rest => exact nomatch (same head.1).trans (lookup_entry_head head rest)
  | cons head rest ih =>
      cases right with
      | nil => exact nomatch (same head.1).symm.trans (lookup_entry_head head rest)
      | cons other others =>
          obtain ⟨above, later⟩ := List.pairwise_cons.mp leftAscending
          obtain ⟨otherAbove, otherLater⟩ := List.pairwise_cons.mp rightAscending
          have inRight := (same head.1).symm.trans (lookup_entry_head head rest)
          have inLeft := (same other.1).trans (lookup_entry_head other others)
          have sameRank : rank head.1 = rank other.1 := Nat.le_antisymm
            (lookup_entry_rank other.1 other.2 head rest leftAscending inLeft)
            (lookup_entry_rank head.1 head.2 other others rightAscending inRight)
          have sameKey : head.1 = other.1 := Ranked.rank_injective sameRank
          rw [sameKey, lookup_entry_head] at inRight
          have sameHead : head = other := Prod.ext sameKey (Option.some.inj inRight).symm
          subst sameHead
          refine congrArg (List.cons head) (ih others later otherLater fun key => ?_)
          by_cases first : rank key = rank head.1
          · rw [lookup_entry_above key rest fun entry member => first ▸ above entry member,
              lookup_entry_above key others fun entry member => first ▸ otherAbove entry member]
          · rw [← lookup_entry_behind key head rest first, ← lookup_entry_behind key head others first]
            exact same key

theorem eq_of_lookup (left right : OrderedTable κ α) (same : ∀ key, left.lookup key = right.lookup key) : left = right := by
  have entries := entries_of_lookup left.entries right.entries left.ascending right.ascending same
  cases left
  cases right
  cases entries
  rfl

theorem total_ones (table : OrderedTable κ α) : table.total (fun _ => 1) = table.size := by
  rw [total, values, size]
  induction table.entries with
  | nil => rfl
  | cons head rest ih =>
      rw [List.map_cons, List.map_cons, List.sum_cons, ih, List.length_cons]
      omega

theorem size_insert (key : κ) (value : α) (table : OrderedTable κ α) :
    (table.insert key value).size = if (table.lookup key).isSome then table.size else table.size + 1 := by
  have grown := total_insert (fun _ => 1) key value table
  rw [total_ones, total_ones, share] at grown
  cases found : table.lookup key with
  | none =>
      rw [found, Option.elim_none] at grown
      simp only [Option.isSome_none, Bool.false_eq_true, if_false]
      omega
  | some old =>
      rw [found, Option.elim_some] at grown
      simp only [Option.isSome_some, if_true]
      omega

theorem size_erase (key : κ) (table : OrderedTable κ α) : (table.erase key).size ≤ table.size :=
  List.length_filter_le _ table.entries

def derived (derive : κ → α → Option β) (entries : List (κ × α)) : List (κ × β) :=
  entries.filterMap fun entry => (derive entry.1 entry.2).map (entry.1, ·)

theorem derived_ascending (derive : κ → α → Option β) (entries : List (κ × α)) (ascending : Ascending entries) :
    Ascending (derived derive entries) := by
  refine List.Pairwise.filterMap _ (fun earlier later above left leftImage right rightImage => ?_) ascending
  obtain ⟨_, _, leftSame⟩ := Option.map_eq_some_iff.mp leftImage
  obtain ⟨_, _, rightSame⟩ := Option.map_eq_some_iff.mp rightImage
  exact leftSame ▸ rightSame ▸ above

theorem lookup_derived (derive : κ → α → Option β) (key : κ) (entries : List (κ × α)) (ascending : Ascending entries) :
    lookupEntry key (derived derive entries) = (lookupEntry key entries).bind (derive key) := by
  induction entries with
  | nil => rfl
  | cons head rest ih =>
      obtain ⟨above, later⟩ := List.pairwise_cons.mp ascending
      by_cases own : rank key = rank head.1
      · obtain rfl := Ranked.rank_injective own
        rw [lookup_entry_head, Option.bind_some]
        cases image : derive head.1 head.2 with
        | none =>
            have absent : lookupEntry head.1 (derived derive rest) = none := by
              rw [ih later, lookup_entry_above head.1 rest above, Option.bind_none]
            simpa [derived, image] using absent
        | some value =>
            have first : derived derive (head :: rest) = (head.1, value) :: derived derive rest := by
              simp [derived, image]
            rw [first]
            exact lookup_entry_head (head.1, value) _
      · rw [lookup_entry_behind key head rest own, ← ih later]
        cases image : derive head.1 head.2 with
        | none => simp [derived, image]
        | some value =>
            have first : derived derive (head :: rest) = (head.1, value) :: derived derive rest := by
              simp [derived, image]
            rw [first]
            exact lookup_entry_behind key (head.1, value) _ own

theorem values_of_lookup (table : OrderedTable κ β) (source : OrderedTable κ α) (derive : κ → α → Option β)
    (same : ∀ key, table.lookup key = (source.lookup key).bind (derive key)) :
    table.values = source.entries.filterMap fun entry => derive entry.1 entry.2 := by
  have entries : table.entries = derived derive source.entries := by
    apply entries_of_lookup _ _ table.ascending (derived_ascending derive source.entries source.ascending)
    intro key
    rw [lookup_derived derive key source.entries source.ascending]
    exact same key
  rw [values, entries, derived, List.map_filterMap]
  refine congrArg (List.filterMap · source.entries) (funext fun entry => ?_)
  rw [Option.map_map]
  exact Option.map_id'

end HidRelay.OrderedTable
