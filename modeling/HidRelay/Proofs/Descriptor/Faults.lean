import Mathlib.Data.List.Induction
import HidRelay.Proofs.Descriptor.Written

/-!
Which descriptors are malformed, told by counting the items before each one, without any stack. A
descriptor is refused at the first item that counts show to be out of place, or else at the item that its
end cuts short; nothing else is ever refused.
-/

set_option autoImplicit false

namespace HidRelay.Descriptor

open Report (Kind Field)

namespace Token

def tag? : Token → Option UInt8
  | .short lead _ => some (lead &&& 0xFC)
  | .long _ _ => none

def carries (tag : Tag) (token : Token) : Bool := token.tag? = some tag.code

def isMain (token : Token) : Bool := token.tag?.any fun tag => tag.toNat / 4 % 4 = 0

def declaresUsage (token : Token) : Bool := token.carries .usage || token.carries .usageMin

def sinceMain (tokens : List Token) : List Token := tokens.reverse.takeWhile fun token => !token.isMain

theorem since_main_concat (tokens : List Token) (token : Token) :
    sinceMain (tokens ++ [token]) = if token.isMain then [] else token :: sinceMain tokens := by
  cases main : token.isMain <;> simp [sinceMain, main]

end Token

open Token (encodeAll carries)

inductive Offends (before : List Token) (token : Token) : Fault → Prop where
  | close (tagged : token.carries .endCollection)
      (level : before.countP (carries .endCollection) = before.countP (carries .collection)) :
      Offends before token (.nothingToClose (encodeAll before).length)
  | pop (tagged : token.carries .pop) (level : before.countP (carries .pop) = before.countP (carries .push)) :
      Offends before token (.nothingToPop (encodeAll before).length)
  | range (tagged : token.carries .usageMax) (startless : ∀ earlier ∈ Token.sinceMain before, ¬ earlier.declaresUsage) :
      Offends before token (.rangeWithoutStart (encodeAll before).length)

def Clean (tokens : List Token) : Prop :=
  ∀ before token after fault, tokens = before ++ token :: after → ¬ Offends before token fault

inductive FaultBehind (descriptor : Bytes) (before : List Token) : Fault → Prop where
  | item (token : Token) (more : Bytes) (fault : Fault) (wellFormed : token.WellFormed)
      (split : descriptor = encodeAll before ++ (token.encode ++ more)) (offends : Offends before token fault) :
      FaultBehind descriptor before fault
  | cut (rest : Bytes) (split : descriptor = encodeAll before ++ rest) (incomplete : Token.Incomplete rest) :
      FaultBehind descriptor before (.truncated (encodeAll before).length)

theorem clean_concat (tokens : List Token) (token : Token) :
    Clean (tokens ++ [token]) ↔ Clean tokens ∧ ∀ fault, ¬ Offends tokens token fault := by
  constructor
  · intro clean
    refine ⟨fun before inner after fault split => ?_, fun fault => clean tokens token [] fault rfl⟩
    exact clean before inner (after ++ [token]) fault (by rw [split, List.append_assoc, List.cons_append])
  · intro ⟨clean, last⟩ before inner after fault split
    rcases List.eq_nil_or_concat after with rfl | ⟨between, final, rfl⟩
    · obtain ⟨same, own⟩ := List.append_inj' split rfl
      cases own
      exact same ▸ last fault
    · rw [List.concat_eq_append, ← List.cons_append, ← List.append_assoc] at split
      exact clean before inner between fault (List.append_inj' split rfl).1

theorem clean_or_first (tokens : List Token) : Clean tokens ∨
    ∃ before token after fault, tokens = before ++ token :: after ∧ Clean before ∧ Offends before token fault := by
  induction tokens using List.reverseRecOn with
  | nil => exact .inl fun before token after fault split => absurd split.symm (by simp)
  | append_singleton tokens token ih =>
      rcases ih with clean | ⟨before, first, after, fault, split, clean, offends⟩
      · by_cases fine : ∀ fault, ¬ Offends tokens token fault
        · exact .inl ((clean_concat tokens token).mpr ⟨clean, fine⟩)
        · obtain ⟨fault, offends⟩ := Classical.not_forall_not.mp fine
          exact .inr ⟨tokens, token, [], fault, rfl, clean, offends⟩
      · exact .inr ⟨before, first, after ++ [token], fault, by rw [split, List.append_assoc, List.cons_append],
          clean, offends⟩

def counted : List Tag := [.collection, .endCollection, .push, .pop, .usage, .usageMin, .usageMax]

def Directive.Fits (tag : UInt8) : Directive → Prop
  | .beginCollection _ => tag = Tag.collection.code
  | .endCollection => tag = Tag.endCollection.code
  | .push => tag = Tag.push.code
  | .pop => tag = Tag.pop.code
  | .usage _ => tag = Tag.usage.code ∨ tag = Tag.usageMin.code
  | .usagesUpTo _ => tag = Tag.usageMax.code
  | .declare _ | .otherMain => tag.toNat / 4 % 4 = 0 ∧ ∀ other ∈ counted, tag ≠ other.code
  | _ => tag.toNat / 4 % 4 ≠ 0 ∧ ∀ other ∈ counted, tag ≠ other.code

def ItemKind.bits : ItemKind → Nat
  | .mainItem => 0
  | .globalItem => 1
  | .localItem => 2
  | .reservedItem => 3

theorem kind_bits (item : Item) : item.tag.toNat / 4 % 4 = item.kind.bits := by
  have below : item.tag.toNat / 4 % 4 < 4 := Nat.mod_lt _ (by decide)
  unfold Item.kind
  generalize item.tag.toNat / 4 % 4 = bits at below ⊢
  match bits, below with
  | 0, _ => rfl
  | 1, _ => rfl
  | 2, _ => rfl
  | 3, _ => rfl

theorem uncounted_of_kind (item : Item)
    (own : ∀ other ∈ counted, other.code.toNat / 4 % 4 = item.kind.bits → item.tag ≠ other.code) :
    ∀ other ∈ counted, item.tag ≠ other.code := by
  intro other member same
  exact own other member (by rw [← same, kind_bits]) same

theorem directive_fits (item : Item) : item.directive.Fits item.tag := by
  have bits := kind_bits item
  unfold Item.directive
  cases kind : item.kind with
  | mainItem =>
      rw [kind] at bits
      by_cases opens : item.tag = 0xA0
      · rw [opens]
        exact rfl
      · by_cases closes : item.tag = 0xC0
        · rw [closes]
          exact rfl
        · have uncounted := uncounted_of_kind item (by simp [kind, counted, ItemKind.bits, Tag.code, opens, closes])
          simp only [opens, closes, if_false]
          repeat' split
          all_goals exact ⟨bits, uncounted⟩
  | globalItem =>
      rw [kind] at bits
      have inside : item.tag.toNat / 4 % 4 ≠ 0 := bits ▸ by decide
      by_cases pushes : item.tag = 0xA4
      · rw [pushes]
        exact rfl
      · by_cases pops : item.tag = 0xB4
        · rw [pops]
          exact rfl
        · have uncounted := uncounted_of_kind item (by simp [kind, counted, ItemKind.bits, Tag.code, pushes, pops])
          simp only [pushes, pops, if_false]
          repeat' split
          all_goals exact ⟨inside, uncounted⟩
  | localItem =>
      rw [kind] at bits
      have inside : item.tag.toNat / 4 % 4 ≠ 0 := bits ▸ by decide
      by_cases starts : item.tag = 0x08 ∨ item.tag = 0x18
      · simp only [starts, if_true]
        exact starts
      · by_cases ends : item.tag = 0x28
        · rw [ends]
          exact rfl
        · rw [if_neg starts, if_neg ends]
          rw [not_or] at starts
          exact ⟨inside, uncounted_of_kind item (by simp [kind, counted, ItemKind.bits, Tag.code, starts, ends])⟩
  | reservedItem =>
      rw [kind] at bits
      exact ⟨bits ▸ by decide, uncounted_of_kind item (by simp [kind, counted, ItemKind.bits, Tag.code])⟩

theorem declare_length (kind : Kind) (field : Field) (collections : List Collection) :
    (Collection.declare kind field collections).length = collections.length := by
  induction collections with
  | nil => rfl
  | cons innermost outer ih =>
      cases innermost with
      | application page usage fields => rfl
      | plain => exact congrArg (· + 1) ih

-- The stacks of the reader hold what the counts leave open.
structure Tracks (tokens : List Token) (reader : Reader) : Prop where
  opened : reader.collections.length + tokens.countP (carries .endCollection) = tokens.countP (carries .collection)
  saved : reader.saved.length + tokens.countP (carries .pop) = tokens.countP (carries .push)
  pending : reader.usages = [] ↔ ∀ token ∈ Token.sinceMain tokens, ¬ token.declaresUsage

theorem tracks_nothing : Tracks [] .initial := ⟨rfl, rfl, by simp [Token.sinceMain, Reader.initial]⟩

theorem tracks_concat (tokens : List Token) (token : Token) (reader next : Reader) (tracks : Tracks tokens reader)
    (opened : next.collections.length + (token.carries .endCollection).toNat =
      reader.collections.length + (token.carries .collection).toNat)
    (saved : next.saved.length + (token.carries .pop).toNat = reader.saved.length + (token.carries .push).toNat)
    (pending : next.usages = [] ↔ token.isMain ∨ ¬ token.declaresUsage ∧ reader.usages = []) :
    Tracks (tokens ++ [token]) next := by
  have count (tag : Tag) : (tokens ++ [token]).countP (carries tag) = tokens.countP (carries tag) + (token.carries tag).toNat := by
    cases carried : token.carries tag <;> simp [carried]
  refine ⟨?_, ?_, ?_⟩
  · have before := tracks.opened
    rw [count, count]
    omega
  · have before := tracks.saved
    rw [count, count]
    omega
  · rw [pending, tracks.pending, Token.since_main_concat]
    cases token.isMain <;> simp

theorem not_offends (before : List Token) (token : Token)
    (close : token.carries .endCollection → before.countP (carries .endCollection) ≠ before.countP (carries .collection))
    (pop : token.carries .pop → before.countP (carries .pop) ≠ before.countP (carries .push))
    (range : token.carries .usageMax → ∃ earlier ∈ Token.sinceMain before, earlier.declaresUsage) (fault : Fault) :
    ¬ Offends before token fault := by
  intro offends
  cases offends with
  | close tagged level => exact close tagged level
  | pop tagged level => exact pop tagged level
  | range tagged startless =>
      obtain ⟨earlier, member, declares⟩ := range tagged
      exact startless earlier member declares

section

variable (before : List Token) (token : Token) (reader next : Reader) (tracks : Tracks before reader)

include tracks

theorem accepted_tracks
    (opened : next.collections.length + (token.carries .endCollection).toNat =
      reader.collections.length + (token.carries .collection).toNat)
    (saved : next.saved.length + (token.carries .pop).toNat = reader.saved.length + (token.carries .push).toNat)
    (pending : next.usages = [] ↔ token.isMain ∨ ¬ token.declaresUsage ∧ reader.usages = [])
    (close : token.carries .endCollection → reader.collections ≠ []) (pop : token.carries .pop → reader.saved ≠ [])
    (range : token.carries .usageMax → reader.usages ≠ []) :
    Tracks (before ++ [token]) next ∧ ∀ fault, ¬ Offends before token fault := by
  refine ⟨tracks_concat before token reader next tracks opened saved pending, not_offends before token ?_ ?_ ?_⟩
  · intro closes level
    have count := tracks.opened
    exact close closes (List.eq_nil_of_length_eq_zero (by omega))
  · intro pops level
    have count := tracks.saved
    exact pop pops (List.eq_nil_of_length_eq_zero (by omega))
  · intro ranges
    simpa using mt tracks.pending.mpr (range ranges)

theorem uncounted_tracks (uncounted : ∀ tag ∈ counted, token.carries tag = false)
    (opened : next.collections.length = reader.collections.length) (saved : next.saved = reader.saved)
    (usages : next.usages = if token.isMain then [] else reader.usages) :
    Tracks (before ++ [token]) next ∧ ∀ fault, ¬ Offends before token fault := by
  simp only [counted, List.forall_mem_cons] at uncounted
  obtain ⟨collection, endCollection, push, pop, usage, usageMin, usageMax, _⟩ := uncounted
  have undeclared : token.declaresUsage = false := by rw [Token.declaresUsage, usage, usageMin]; rfl
  refine accepted_tracks before token reader next tracks ?_ ?_ ?_ ?_ ?_ ?_
  · rw [opened, collection, endCollection]
  · rw [saved, push, pop]
  · rw [usages, undeclared]
    cases token.isMain <;> simp
  · simp [endCollection]
  · simp [pop]
  · simp [usageMax]

end

section

variable (before : List Token) (token : Token) (tag : UInt8) (tagged : token.tag? = some tag) (directive : Directive)
  (fits : directive.Fits tag) (reader : Reader) (tracks : Tracks before reader)

include tagged fits tracks

theorem step_refused (offset : Nat) (place : offset = (encodeAll before).length) (fault : Fault)
    (failed : reader.step offset directive = .error fault) : Offends before token fault := by
  subst place
  cases directive with
  | endCollection =>
      have level := tracks.opened
      cases opened : reader.collections with
      | nil =>
          rw [Reader.step, opened] at failed
          rw [opened] at level
          cases failed
          exact .close (by simp [carries, tagged, fits.symm]) (by simpa using level)
      | cons closed outer =>
          rw [Reader.step, opened] at failed
          cases failed
  | pop =>
      have level := tracks.saved
      cases pushed : reader.saved with
      | nil =>
          rw [Reader.step, pushed] at failed
          rw [pushed] at level
          cases failed
          exact .pop (by simp [carries, tagged, fits.symm]) (by simpa using level)
      | cons globals saved =>
          rw [Reader.step, pushed] at failed
          cases failed
  | usagesUpTo last =>
      cases first : reader.usages.getLast? with
      | none =>
          rw [Reader.step, first] at failed
          cases failed
          exact .range (by simp [carries, tagged, fits.symm]) (tracks.pending.mp (List.getLast?_eq_none_iff.mp first))
      | some usage =>
          rw [Reader.step, first] at failed
          cases failed
  | _ => cases failed

theorem step_accepted (offset : Nat) (next : Reader) (stepped : reader.step offset directive = .ok next) :
    Tracks (before ++ [token]) next ∧ ∀ fault, ¬ Offends before token fault := by
  have carried (other : Tag) : token.carries other = decide (tag = other.code) := by simp [carries, tagged]
  have main : token.isMain = decide (tag.toNat / 4 % 4 = 0) := by simp [Token.isMain, tagged]
  have apart (uncounted : ∀ other ∈ counted, tag ≠ other.code) (other : Tag) (member : other ∈ counted) :
      token.carries other = false := by
    rw [carried]
    exact decide_eq_false (uncounted other member)
  cases directive with
  | endCollection =>
      have own : tag = 0xC0 := fits
      cases opened : reader.collections with
      | nil =>
          rw [Reader.step, opened] at stepped
          cases stepped
      | cons closed outer =>
          rw [Reader.step, opened] at stepped
          cases stepped
          refine accepted_tracks before token reader _ tracks ?_ ?_ ?_ ?_ ?_ ?_ <;>
            simp [carried, main, own, opened, Tag.code]
  | pop =>
      have own : tag = 0xB4 := fits
      cases pushed : reader.saved with
      | nil =>
          rw [Reader.step, pushed] at stepped
          cases stepped
      | cons globals saved =>
          rw [Reader.step, pushed] at stepped
          cases stepped
          refine accepted_tracks before token reader _ tracks ?_ ?_ ?_ ?_ ?_ ?_ <;>
            simp [Token.declaresUsage, carried, main, own, pushed, Tag.code]
  | usagesUpTo last =>
      have own : tag = 0x28 := fits
      cases first : reader.usages.getLast? with
      | none =>
          rw [Reader.step, first] at stepped
          cases stepped
      | some usage =>
          have started : reader.usages ≠ [] := List.ne_nil_of_mem (List.mem_of_getLast? first)
          rw [Reader.step, first] at stepped
          cases stepped
          refine accepted_tracks before token reader _ tracks ?_ ?_ ?_ ?_ ?_ ?_ <;>
            simp [Token.declaresUsage, carried, main, own, started, Tag.code]
  | usage usage =>
      cases stepped
      refine accepted_tracks before token reader _ tracks ?_ ?_ ?_ ?_ ?_ ?_ <;>
        rcases fits with own | own <;> simp [Token.declaresUsage, carried, main, own, Tag.code]
  | beginCollection application =>
      have own : tag = 0xA0 := fits
      cases stepped
      refine accepted_tracks before token reader _ tracks ?_ ?_ ?_ ?_ ?_ ?_ <;> simp [carried, main, own, Tag.code]
  | push =>
      have own : tag = 0xA4 := fits
      cases stepped
      refine accepted_tracks before token reader _ tracks ?_ ?_ ?_ ?_ ?_ ?_ <;>
        simp [Token.declaresUsage, carried, main, own, Tag.code]
  | declare kind =>
      obtain ⟨bits, uncounted⟩ := fits
      cases stepped
      exact uncounted_tracks before token reader _ tracks (apart uncounted) (declare_length _ _ _) rfl (by simp [main, bits])
  | _ =>
      obtain ⟨bits, uncounted⟩ := fits
      cases stepped
      exact uncounted_tracks before token reader _ tracks (apart uncounted) rfl rfl (by simp [main, bits])

end

theorem step_tracks (before : List Token) (token : Token) (item : Item) (reader : Reader)
    (found : token.item? (encodeAll before).length = some item) (tracks : Tracks before reader) :
    (∃ next, reader.step item.offset item.directive = .ok next ∧ Tracks (before ++ [token]) next ∧
      ∀ fault, ¬ Offends before token fault) ∨
    ∃ fault, reader.step item.offset item.directive = .error fault ∧ Offends before token fault := by
  obtain ⟨tagged, offset⟩ : token.tag? = some item.tag ∧ item.offset = (encodeAll before).length := by
    cases token with
    | short lead payload => cases found; exact ⟨rfl, rfl⟩
    | long tag payload => cases found
  have fits := directive_fits item
  cases stepped : reader.step item.offset item.directive with
  | ok next => exact .inl ⟨next, rfl, step_accepted before token _ tagged _ fits reader tracks _ next stepped⟩
  | error fault => exact .inr ⟨fault, rfl, step_refused before token _ tagged _ fits reader tracks _ offset fault stepped⟩

theorem long_tracks (before : List Token) (token : Token) (reader : Reader)
    (skipped : token.item? (encodeAll before).length = none) (tracks : Tracks before reader) :
    Tracks (before ++ [token]) reader ∧ ∀ fault, ¬ Offends before token fault := by
  cases token with
  | short lead payload => exact nomatch skipped
  | long tag payload => exact uncounted_tracks before _ reader reader tracks (fun _ _ => rfl) rfl rfl rfl

-- The induction takes one more token at the end, where the counts stand.
theorem run_clean (tokens : List Token) (clean : Clean tokens) :
    ∃ reader, Reader.initial.run (Token.items 0 tokens) = .ok reader ∧ Tracks tokens reader := by
  induction tokens using List.reverseRecOn with
  | nil => exact ⟨.initial, rfl, tracks_nothing⟩
  | append_singleton tokens token ih =>
      obtain ⟨earlier, fine⟩ := (clean_concat tokens token).mp clean
      obtain ⟨reader, ran, tracks⟩ := ih earlier
      rw [Token.items_append, Nat.zero_add, Reader.run_append, ran]
      cases found : token.item? (encodeAll tokens).length with
      | none =>
          have items : Token.items (encodeAll tokens).length [token] = [] := by rw [Token.items, found]; rfl
          rw [items]
          exact ⟨reader, rfl, (long_tracks tokens token reader found tracks).1⟩
      | some item =>
          have items : Token.items (encodeAll tokens).length [token] = [item] := by rw [Token.items, found]; rfl
          rcases step_tracks tokens token item reader found tracks with ⟨next, stepped, tracked, _⟩ | ⟨fault, _, offends⟩
          · refine ⟨next, ?_, tracked⟩
            rw [items]
            simp only [Except.bind, Reader.run, stepped]
          · exact absurd offends (fine fault)

theorem offends_unique (before : List Token) (token : Token) (first second : Fault)
    (one : Offends before token first) (other : Offends before token second) : first = second := by
  have apart (left right : Tag) (different : left.code ≠ right.code) (carried : token.carries left) :
      ¬ token.carries right := by
    simp only [carries, decide_eq_true_eq] at carried ⊢
    rw [carried]
    exact fun same => different (Option.some.inj same)
  cases one with
  | close tagged _ =>
      cases other with
      | close => rfl
      | pop second => exact absurd second (apart _ _ (by decide) tagged)
      | range second => exact absurd second (apart _ _ (by decide) tagged)
  | pop tagged _ =>
      cases other with
      | close second => exact absurd second (apart _ _ (by decide) tagged)
      | pop => rfl
      | range second => exact absurd second (apart _ _ (by decide) tagged)
  | range tagged _ =>
      cases other with
      | close second => exact absurd second (apart _ _ (by decide) tagged)
      | pop second => exact absurd second (apart _ _ (by decide) tagged)
      | range => rfl

theorem read_of_offends (before : List Token) (token : Token) (more : Bytes) (fault : Fault)
    (wellFormed : ∀ token ∈ before, token.WellFormed) (own : token.WellFormed) (clean : Clean before)
    (offends : Offends before token fault) : read (encodeAll before ++ (token.encode ++ more)) = .error fault := by
  obtain ⟨reader, ran, tracks⟩ := run_clean before clean
  cases found : token.item? (encodeAll before).length with
  | none => exact absurd offends ((long_tracks before token reader found tracks).2 fault)
  | some item =>
      rcases step_tracks before token item reader found tracks with ⟨_, _, _, fine⟩ | ⟨other, stepped, same⟩
      · exact absurd offends (fine fault)
      · rw [read, Token.scan_encode_append before 0 _ wellFormed, Nat.zero_add, Token.scan_encode token _ _ own, found]
        simp only [Reader.run_append, ran, Except.bind, Option.toList_some, List.singleton_append, Reader.run, stepped,
          offends_unique before token other fault same offends]

theorem read_of_cut (before : List Token) (rest : Bytes) (wellFormed : ∀ token ∈ before, token.WellFormed)
    (clean : Clean before) (incomplete : Token.Incomplete rest) :
    read (encodeAll before ++ rest) = .error (.truncated (encodeAll before).length) := by
  obtain ⟨reader, ran, _⟩ := run_clean before clean
  rw [read, Token.scan_encode_append before 0 rest wellFormed, Nat.zero_add, Token.scan_incomplete _ rest incomplete,
    List.append_nil]
  simp only [ran]

theorem read_of_clean (tokens : List Token) (wellFormed : ∀ token ∈ tokens, token.WellFormed) (clean : Clean tokens) :
    ∃ catalog, read (encodeAll tokens) = .ok catalog := by
  obtain ⟨reader, ran, _⟩ := run_clean tokens clean
  refine ⟨reader.catalog, ?_⟩
  rw [read, Token.scan_encode_all tokens 0 wellFormed]
  simp only [ran]

theorem read_of_first_fault (descriptor : Bytes) (before : List Token) (fault : Fault)
    (wellFormed : ∀ token ∈ before, token.WellFormed) (clean : Clean before)
    (behind : FaultBehind descriptor before fault) : read descriptor = .error fault := by
  cases behind with
  | item token more _ own split offends => rw [split, read_of_offends before token more fault wellFormed own clean offends]
  | cut rest split incomplete => rw [split, read_of_cut before rest wellFormed clean incomplete]

theorem first_fault_exists (descriptor : Bytes) (before : List Token) (rest : Bytes)
    (wellFormed : ∀ token ∈ before, token.WellFormed) (split : descriptor = encodeAll before ++ rest)
    (dirty : ¬ Clean before) : ∃ earlier fault, (∀ token ∈ earlier, token.WellFormed) ∧ Clean earlier ∧
      FaultBehind descriptor earlier fault := by
  rcases clean_or_first before with clean | ⟨earlier, token, after, fault, parts, clean, offends⟩
  · exact absurd clean dirty
  · have members (other : Token) (member : other ∈ earlier ++ token :: after) : other.WellFormed :=
      wellFormed other (parts ▸ member)
    refine ⟨earlier, fault, fun other member => members other (List.mem_append_left _ member), clean, ?_⟩
    refine .item token (encodeAll after ++ rest) fault (members token (by simp)) ?_ offends
    rw [split, parts, Token.encode_all_append, Token.encode_all_cons, List.append_assoc, List.append_assoc]

theorem accepted_or_first_fault (descriptor : Bytes) :
    (∃ tokens, (∀ token ∈ tokens, token.WellFormed) ∧ Clean tokens ∧ descriptor = encodeAll tokens) ∨
    ∃ before fault, (∀ token ∈ before, token.WellFormed) ∧ Clean before ∧ FaultBehind descriptor before fault := by
  obtain ⟨tokens, rest, wellFormed, split, ending⟩ := Token.tokens_of_bytes descriptor
  by_cases clean : Clean tokens
  · rcases ending with rfl | incomplete
    · exact .inl ⟨tokens, wellFormed, clean, by rw [split, List.append_nil]⟩
    · exact .inr ⟨tokens, _, wellFormed, clean, .cut rest split incomplete⟩
  · exact .inr (first_fault_exists descriptor tokens rest wellFormed split clean)

theorem read_error_iff (descriptor : Bytes) (fault : Fault) : read descriptor = .error fault ↔
    ∃ before, (∀ token ∈ before, token.WellFormed) ∧ Clean before ∧ FaultBehind descriptor before fault := by
  constructor
  · intro failed
    rcases accepted_or_first_fault descriptor with
      ⟨tokens, wellFormed, clean, split⟩ | ⟨before, other, wellFormed, clean, behind⟩
    · obtain ⟨catalog, found⟩ := read_of_clean tokens wellFormed clean
      rw [split, found] at failed
      exact nomatch failed
    · have same := (read_of_first_fault descriptor before other wellFormed clean behind).symm.trans failed
      cases same
      exact ⟨before, wellFormed, clean, behind⟩
  · intro ⟨before, wellFormed, clean, behind⟩
    exact read_of_first_fault descriptor before fault wellFormed clean behind

theorem read_fails_of_fault (descriptor : Bytes) (before : List Token) (fault : Fault)
    (wellFormed : ∀ token ∈ before, token.WellFormed) (behind : FaultBehind descriptor before fault) :
    ∃ first, read descriptor = .error first := by
  by_cases clean : Clean before
  · exact ⟨fault, (read_error_iff descriptor fault).mpr ⟨before, wellFormed, clean, behind⟩⟩
  · have split : ∃ rest, descriptor = encodeAll before ++ rest := by
      cases behind with
      | item token more _ _ split _ => exact ⟨_, split⟩
      | cut rest split _ => exact ⟨rest, split⟩
    obtain ⟨rest, split⟩ := split
    obtain ⟨earlier, first, found⟩ := first_fault_exists descriptor before rest wellFormed split clean
    exact ⟨first, (read_error_iff descriptor first).mpr ⟨earlier, found⟩⟩

theorem read_fails_at_first_fault (descriptor : Bytes) :
    ((∃ fault, read descriptor = .error fault) ↔
      ∃ before fault, (∀ token ∈ before, token.WellFormed) ∧ FaultBehind descriptor before fault) ∧
    (∀ fault, read descriptor = .error fault ↔
      ∃ before, (∀ token ∈ before, token.WellFormed) ∧ Clean before ∧ FaultBehind descriptor before fault) ∧
    ((∃ catalog, read descriptor = .ok catalog) ↔
      ∃ tokens, (∀ token ∈ tokens, token.WellFormed) ∧ Clean tokens ∧ descriptor = encodeAll tokens) := by
  refine ⟨⟨?_, ?_⟩, read_error_iff descriptor, ?_, ?_⟩
  · intro ⟨fault, failed⟩
    obtain ⟨before, wellFormed, _, behind⟩ := (read_error_iff descriptor fault).mp failed
    exact ⟨before, fault, wellFormed, behind⟩
  · intro ⟨before, fault, wellFormed, behind⟩
    exact read_fails_of_fault descriptor before fault wellFormed behind
  · intro ⟨catalog, found⟩
    rcases accepted_or_first_fault descriptor with accepted | ⟨before, fault, first⟩
    · exact accepted
    · rw [(read_error_iff descriptor fault).mpr ⟨before, first⟩] at found
      exact nomatch found
  · intro ⟨tokens, wellFormed, clean, split⟩
    exact split ▸ read_of_clean tokens wellFormed clean

end HidRelay.Descriptor
