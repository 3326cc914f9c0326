import Mathlib.Data.List.Infix
import HidRelay.Proofs.Descriptor.Rewording

/-!
Globals that are saved and restored. If only global items lie between a push and its pop, the descriptor
reads as it does without the pair, and only the places behind it have moved.
-/

set_option autoImplicit false

namespace HidRelay.Descriptor

open Token (encodeAll carries)

namespace Token

def saves (tokens : List Token) : Nat := tokens.countP (carries .push)

def restores (tokens : List Token) : Nat := tokens.countP (carries .pop)

structure Paired (tokens : List Token) : Prop where
  within : ∀ before, before <+: tokens → restores before ≤ saves before
  level : restores tokens = saves tokens

instance (tokens : List Token) : Decidable (Paired tokens) :=
  decidable_of_iff ((∀ before ∈ tokens.inits, restores before ≤ saves before) ∧ restores tokens = saves tokens)
    ⟨fun both => ⟨fun before start => both.1 before ((List.mem_inits _ _).mpr start), both.2⟩,
      fun paired => ⟨fun before listed => paired.within before ((List.mem_inits _ _).mp listed), paired.level⟩⟩

def isGlobal (token : Token) : Bool := token.tag?.all fun tag => tag.toNat / 4 % 4 = 1

theorem saves_append (before after : List Token) : saves (before ++ after) = saves before + saves after :=
  List.countP_append

theorem restores_append (before after : List Token) :
    restores (before ++ after) = restores before + restores after := List.countP_append

theorem short_of_carries (tag : Tag) (token : Token) (carried : token.carries tag) :
    ∃ lead payload, token = .short lead payload ∧ lead &&& 0xFC = tag.code := by
  cases token with
  | short lead payload => exact ⟨lead, payload, rfl, by simpa [carries, tag?] using carried⟩
  | long tag payload => cases carried

end Token

open Token (saves restores Paired)

theorem push_directive (item : Item) : item.directive = .push ↔ item.tag = Tag.push.code := by
  constructor
  · intro pushes
    have fits := directive_fits item
    rwa [pushes] at fits
  · intro tag
    simp [Item.directive, Item.kind, tag, Tag.code]

theorem pop_directive (item : Item) : item.directive = .pop ↔ item.tag = Tag.pop.code := by
  constructor
  · intro pops
    have fits := directive_fits item
    rwa [pops] at fits
  · intro tag
    simp [Item.directive, Item.kind, tag, Tag.code]

theorem saves_short (lead : UInt8) (payload : Bytes) :
    saves [.short lead payload] = if (⟨0, lead &&& 0xFC, payload⟩ : Item).directive = .push then 1 else 0 := by
  simp [saves, carries, Token.tag?, push_directive, List.countP_cons]

theorem restores_short (lead : UInt8) (payload : Bytes) :
    restores [.short lead payload] = if (⟨0, lead &&& 0xFC, payload⟩ : Item).directive = .pop then 1 else 0 := by
  simp [restores, carries, Token.tag?, pop_directive, List.countP_cons]

namespace Reader

theorem step_saved (reader next : Reader) (offset : Nat) (directive : Directive)
    (stepped : reader.step offset directive = .ok next) :
    (directive = .push ∧ next.saved = reader.globals :: reader.saved) ∨
    (directive = .pop ∧ reader.saved = next.globals :: next.saved) ∨
    (directive ≠ .push ∧ directive ≠ .pop ∧ next.saved = reader.saved) := by
  cases directive with
  | push =>
      cases stepped
      exact .inl ⟨rfl, rfl⟩
  | pop =>
      rw [step] at stepped
      cases pushed : reader.saved with
      | nil =>
          rw [pushed] at stepped
          cases stepped
      | cons globals saved =>
          rw [pushed] at stepped
          cases stepped
          exact .inr (.inl ⟨rfl, rfl⟩)
  | endCollection =>
      rw [step] at stepped
      split at stepped
      · cases stepped
      · cases stepped
        exact .inr (.inr ⟨Directive.noConfusion, Directive.noConfusion, rfl⟩)
  | usagesUpTo last =>
      rw [step] at stepped
      split at stepped
      · cases stepped
      · cases stepped
        exact .inr (.inr ⟨Directive.noConfusion, Directive.noConfusion, rfl⟩)
  | _ =>
      cases stepped
      exact .inr (.inr ⟨Directive.noConfusion, Directive.noConfusion, rfl⟩)

theorem run_single (reader : Reader) (lead : UInt8) (payload : Bytes) (offset : Nat) :
    reader.run (Token.items offset [.short lead payload]) =
      reader.step offset (⟨0, lead &&& 0xFC, payload⟩ : Item).directive := by
  rw [run_short]
  cases reader.step offset (⟨0, lead &&& 0xFC, payload⟩ : Item).directive <;> rfl

theorem run_token (reader : Reader) (token : Token) (rest : List Token) (offset : Nat) :
    reader.run (Token.items offset (token :: rest)) =
      (reader.run (Token.items offset [token])).bind fun next =>
        next.run (Token.items (offset + token.encode.length) rest) := by
  rw [← run_append]
  simp only [Token.items, List.append_nil]

theorem token_saved (token : Token) (reader next : Reader) (offset : Nat) (above base : List Globals)
    (stack : reader.saved = above ++ base) (within : restores [token] ≤ above.length + saves [token])
    (ran : reader.run (Token.items offset [token]) = .ok next) :
    ∃ left, next.saved = left ++ base ∧ left.length + restores [token] = above.length + saves [token] := by
  cases token with
  | long tag payload =>
      cases ran
      exact ⟨above, stack, rfl⟩
  | short lead payload =>
      rw [run_single] at ran
      rw [saves_short, restores_short] at within ⊢
      rcases step_saved reader next offset _ ran with ⟨pushes, saved⟩ | ⟨pops, saved⟩ | ⟨noPush, noPop, saved⟩
      · exact ⟨reader.globals :: above, by rw [saved, stack]; rfl, by simp [pushes]⟩
      · cases above with
        | nil => simp [pops] at within
        | cons globals above =>
            rw [saved] at stack
            exact ⟨above, (List.cons.inj stack).2, by simp [pops]⟩
      · exact ⟨above, saved.trans stack, by simp [noPush, noPop]⟩

theorem run_saved (tokens : List Token) (reader next : Reader) (offset : Nat) (above base : List Globals)
    (stack : reader.saved = above ++ base)
    (within : ∀ before, before <+: tokens → restores before ≤ above.length + saves before)
    (ran : reader.run (Token.items offset tokens) = .ok next) :
    ∃ left, next.saved = left ++ base ∧ left.length + restores tokens = above.length + saves tokens := by
  induction tokens generalizing reader offset above with
  | nil =>
      cases ran
      exact ⟨above, stack, rfl⟩
  | cons token rest ih =>
      rw [run_token] at ran
      cases first : reader.run (Token.items offset [token]) with
      | error fault =>
          rw [first] at ran
          cases ran
      | ok middle =>
          rw [first] at ran
          obtain ⟨between, held, level⟩ :=
            token_saved token reader middle offset above base stack (within [token] ⟨rest, rfl⟩) first
          -- What holds of every beginning of the tokens holds of those behind the first, from the stack it leaves.
          have later (before : List Token) (start : before <+: rest) :
              restores before ≤ between.length + saves before := by
            have whole := within ([token] ++ before) ((List.prefix_append_right_inj [token]).mpr start)
            rw [Token.restores_append, Token.saves_append] at whole
            omega
          obtain ⟨left, kept, rises⟩ := ih middle _ between held later ran
          refine ⟨left, kept, ?_⟩
          rw [← List.singleton_append, Token.restores_append, Token.saves_append]
          omega

theorem run_restored (push pop : Token) (tokens : List Token) (opens : push.carries .push) (closes : pop.carries .pop)
    (paired : Paired tokens) (reader inner : Reader) (offset : Nat)
    (ran : reader.run (Token.items offset (push :: tokens)) = .ok inner) :
    reader.run (Token.items offset (push :: tokens ++ [pop])) =
      .ok { inner with globals := reader.globals, saved := reader.saved } := by
  obtain ⟨lead, payload, rfl, pushes⟩ := Token.short_of_carries .push push opens
  obtain ⟨lead', payload', rfl, pops⟩ := Token.short_of_carries .pop pop closes
  have saved : inner.saved = reader.globals :: reader.saved := by
    rw [run_short, (push_directive _).mpr pushes] at ran
    obtain ⟨left, found, level⟩ := run_saved tokens { reader with saved := reader.globals :: reader.saved } inner _ []
      (reader.globals :: reader.saved) rfl (fun before start => by simpa using paired.within before start) ran
    have none : left = [] := by
      have same := paired.level
      rw [List.length_nil] at level
      exact List.length_eq_zero_iff.mp (by omega)
    rw [found, none, List.nil_append]
  rw [Token.items_append, run_append, ran]
  simp only [Except.bind]
  rw [run_single, (pop_directive _).mpr pops, step, saved]

theorem step_global (item : Item) (isGlobal : item.tag.toNat / 4 % 4 = 1) (reader : Reader) (offset : Nat) :
    (item.directive = .pop ∧ reader.saved = []) ∨
    ∃ globals saved, reader.step offset item.directive = .ok { reader with globals, saved } := by
  have kind : item.kind = .globalItem := by simp [Item.kind, isGlobal]
  by_cases pops : item.tag = Tag.pop.code
  · have directive := (pop_directive item).mpr pops
    cases pushed : reader.saved with
    | nil => exact .inl ⟨directive, rfl⟩
    | cons globals saved => exact .inr ⟨globals, saved, by rw [directive, step, pushed]⟩
  · refine .inr ?_
    simp only [Item.directive, kind, show item.tag ≠ 0xB4 from pops, if_false]
    repeat' split
    all_goals exact ⟨_, _, rfl⟩

theorem run_global (tokens : List Token) (isGlobal : ∀ token ∈ tokens, token.isGlobal) (reader : Reader) (offset : Nat)
    (within : ∀ before, before <+: tokens → restores before ≤ reader.saved.length + saves before) :
    ∃ globals saved, reader.run (Token.items offset tokens) = .ok { reader with globals, saved } := by
  induction tokens generalizing reader offset with
  | nil => exact ⟨reader.globals, reader.saved, rfl⟩
  | cons token rest ih =>
      have first : ∃ globals saved, reader.run (Token.items offset [token]) = .ok { reader with globals, saved } := by
        cases token with
        | long tag payload => exact ⟨reader.globals, reader.saved, rfl⟩
        | short lead payload =>
            have own : (lead &&& 0xFC).toNat / 4 % 4 = 1 := by
              simpa [Token.isGlobal, Token.tag?] using isGlobal _ List.mem_cons_self
            rw [run_single]
            refine (step_global ⟨0, lead &&& 0xFC, payload⟩ own reader offset).resolve_left ?_
            rintro ⟨pops, empty⟩
            have bound := within [.short lead payload] ⟨rest, rfl⟩
            simp [saves_short, restores_short, pops, empty] at bound
      obtain ⟨globals, saved, ran⟩ := first
      obtain ⟨left, found, level⟩ := token_saved token reader _ offset reader.saved [] (List.append_nil _).symm
        (within [token] ⟨rest, rfl⟩) ran
      rw [List.append_nil] at found
      obtain ⟨globals', saved', later⟩ := ih (fun other member => isGlobal other (List.mem_cons_of_mem _ member))
        { reader with globals, saved } (offset + token.encode.length) fun before start => by
          have whole := within ([token] ++ before) ((List.prefix_append_right_inj [token]).mpr start)
          rw [Token.restores_append, Token.saves_append] at whole
          simp only at found
          subst found
          simp only
          omega
      exact ⟨globals', saved', by rw [run_token, ran]; exact later⟩

theorem accepts_pair (push pop : Token) (tokens : List Token) (opens : push.carries .push) (closes : pop.carries .pop)
    (paired : Paired tokens) (isGlobal : ∀ token ∈ tokens, token.isGlobal) (reader : Reader) :
    Accepts reader (push :: tokens ++ [pop]) reader := by
  intro offset
  obtain ⟨lead, payload, rfl, pushes⟩ := Token.short_of_carries .push push opens
  obtain ⟨globals, saved, ran⟩ := run_global tokens isGlobal { reader with saved := reader.globals :: reader.saved }
    (offset + (Token.short lead payload).encode.length)
    fun before start => Nat.le_trans (paired.within before start) (Nat.le_add_left _ _)
  have inner : reader.run (Token.items offset (.short lead payload :: tokens)) =
      .ok { reader with globals, saved } := by
    rw [run_short, (push_directive _).mpr pushes]
    exact ran
  rw [run_restored _ pop tokens opens closes paired reader _ offset inner]

end Reader

def Fault.offset : Fault → Nat
  | .truncated offset => offset
  | .nothingToClose offset => offset
  | .nothingToPop offset => offset
  | .rangeWithoutStart offset => offset

def Fault.placed (offset : Nat) : Fault → Fault
  | .truncated _ => .truncated offset
  | .nothingToClose _ => .nothingToClose offset
  | .nothingToPop _ => .nothingToPop offset
  | .rangeWithoutStart _ => .rangeWithoutStart offset

def Fault.shifted (start count : Nat) (fault : Fault) : Fault :=
  if fault.offset < start then fault else fault.placed (fault.offset + count)

theorem shifted_behind (start count : Nat) (fault : Fault) (behind : start ≤ fault.offset) :
    fault.shifted start count = fault.placed (fault.offset + count) := if_neg (Nat.not_lt.mpr behind)

theorem complaint_shifted (start count offset : Nat) (complaint : Complaint) (behind : start ≤ offset) :
    (complaint.at offset).shifted start count = complaint.at (offset + count) := by
  cases complaint <;> exact shifted_behind start count _ behind

namespace Reader

theorem run_shifted (tokens : List Token) (reader : Reader) (offset start count : Nat) (behind : start ≤ offset) :
    reader.run (Token.items (offset + count) tokens) =
      (reader.run (Token.items offset tokens)).mapError (Fault.shifted start count) := by
  induction tokens generalizing reader offset with
  | nil => rfl
  | cons token rest ih =>
      have later (next : Reader) := ih next (offset + token.encode.length) (Nat.le_add_right_of_le behind)
      rw [Nat.add_right_comm] at later
      cases token with
      | long tag payload => exact later reader
      | short lead payload =>
          rw [run_short, run_short]
          rcases step_anywhere reader (⟨0, lead &&& 0xFC, payload⟩ : Item).directive with
            ⟨next, stepped⟩ | ⟨complaint, refused⟩
          · simp only [stepped, Except.bind]
            exact later next
          · simp only [refused, Except.bind, Except.mapError, complaint_shifted start count offset complaint behind]

theorem run_error_place (tokens : List Token) (reader : Reader) (offset : Nat) (fault : Fault)
    (failed : reader.run (Token.items offset tokens) = .error fault) :
    fault.offset < offset + (encodeAll tokens).length := by
  induction tokens generalizing reader offset with
  | nil => cases failed
  | cons token rest ih =>
      rw [Token.encode_all_cons, List.length_append, ← Nat.add_assoc]
      cases token with
      | long tag payload => exact ih reader _ failed
      | short lead payload =>
          rw [run_short] at failed
          rcases step_anywhere reader (⟨0, lead &&& 0xFC, payload⟩ : Item).directive with
            ⟨next, stepped⟩ | ⟨complaint, refused⟩
          · rw [stepped] at failed
            exact ih next _ failed
          · rw [refused] at failed
            cases failed
            have place : (complaint.at offset).offset = offset := by cases complaint <;> rfl
            rw [place, Token.encode, List.length_cons]
            omega

end Reader

theorem read_tokens (tokens : List Token) (ending : Bytes) (wellFormed : ∀ token ∈ tokens, token.WellFormed)
    (broken : ending = [] ∨ Token.Incomplete ending) :
    read (encodeAll tokens ++ ending) = (Reader.initial.run (Token.items 0 tokens)).bind fun reader =>
      if ending = [] then .ok reader.catalog else .error (.truncated (encodeAll tokens).length) := by
  rw [read, Token.scan_encode_append tokens 0 ending wellFormed, Nat.zero_add]
  rcases broken with rfl | incomplete
  · rw [Token.scan_nothing, List.append_nil]
    cases Reader.initial.run (Token.items 0 tokens) <;> rfl
  · rw [Token.scan_incomplete _ ending incomplete, List.append_nil]
    simp only [if_neg incomplete.1]
    cases Reader.initial.run (Token.items 0 tokens) <;> rfl

theorem read_without (before inserted : List Token) (rest : Bytes)
    (wellFormed : ∀ token ∈ before ++ inserted, token.WellFormed)
    (idle : ∀ reader, Accepts reader inserted reader) :
    read (encodeAll before ++ (encodeAll inserted ++ rest)) =
      (read (encodeAll before ++ rest)).mapError
        (Fault.shifted (encodeAll before).length (encodeAll inserted).length) := by
  obtain ⟨after, ending, formed, split, broken⟩ := Token.tokens_of_bytes rest
  have long : encodeAll before ++ (encodeAll inserted ++ rest) = encodeAll (before ++ inserted ++ after) ++ ending := by
    simp only [split, Token.encode_all_append, List.append_assoc]
  have short : encodeAll before ++ rest = encodeAll (before ++ after) ++ ending := by
    simp only [split, Token.encode_all_append, List.append_assoc]
  have longFormed : ∀ token ∈ before ++ inserted ++ after, token.WellFormed :=
    List.forall_mem_append.mpr ⟨wellFormed, formed⟩
  have shortFormed : ∀ token ∈ before ++ after, token.WellFormed :=
    List.forall_mem_append.mpr ⟨(List.forall_mem_append.mp wellFormed).1, formed⟩
  rw [long, short, read_tokens _ ending longFormed broken, read_tokens _ ending shortFormed broken]
  simp only [Token.items_append, Token.encode_all_append, List.length_append, Reader.run_append, Nat.zero_add]
  cases first : Reader.initial.run (Token.items 0 before) with
  | error fault =>
      have place := Reader.run_error_place before .initial 0 fault first
      rw [Nat.zero_add] at place
      simp only [Except.bind, Except.mapError, Fault.shifted, if_pos place]
  | ok reader =>
      simp only [Except.bind, idle reader _]
      rw [Reader.run_shifted after reader _ _ (encodeAll inserted).length (Nat.le_refl (encodeAll before).length)]
      cases reader.run (Token.items (encodeAll before).length after) with
      | error fault => rfl
      | ok final =>
          simp only [Except.mapError]
          by_cases whole : ending = []
          · rw [if_pos whole, if_pos whole]
          · rw [if_neg whole, if_neg whole, Nat.add_right_comm]
            exact congrArg Except.error (shifted_behind _ _ (.truncated _) (Nat.le_add_right _ _)).symm

-- The tokens between the two may declare, open and close what they like: the globals, and what was saved
-- before, are none of it.
theorem globals_restored (push pop : Token) (tokens : List Token) (opens : push.carries .push)
    (closes : pop.carries .pop) (paired : Paired tokens) :
    (∀ (reader inner : Reader) (offset : Nat), reader.run (Token.items offset (push :: tokens)) = .ok inner →
      reader.run (Token.items offset (push :: tokens ++ [pop])) =
        .ok { inner with globals := reader.globals, saved := reader.saved }) ∧
    ((∀ token ∈ tokens, token.isGlobal) → ∀ (before : List Token) (rest : Bytes),
      (∀ token ∈ before ++ (push :: tokens ++ [pop]), token.WellFormed) →
      read (encodeAll before ++ (encodeAll (push :: tokens ++ [pop]) ++ rest)) =
        (read (encodeAll before ++ rest)).mapError
          (Fault.shifted (encodeAll before).length (encodeAll (push :: tokens ++ [pop])).length)) := by
  refine ⟨fun reader inner offset ran => ?_, fun isGlobal before rest wellFormed => ?_⟩
  · exact reader.run_restored push pop tokens opens closes paired inner offset ran
  · exact read_without before _ rest wellFormed (Reader.accepts_pair push pop tokens opens closes paired isGlobal)

def savedButtons : List Token :=
  [Tag.write (.global .page) (.one 9), Tag.write .collection (.one 0), Tag.write .usageMin (.one 1),
    Tag.write .usageMax (.one 3), Tag.write .push .none, Tag.write (.global .reportSize) (.one 1),
    Tag.write (.global .reportCount) (.one 3), Tag.write (.global .reportId) (.one 2), Tag.write (.field .input) (.one 2),
    Tag.write .pop (.one 0), Tag.write (.global .logicalMin) (.one 0x81), Tag.write .endCollection .none]

def savedSizes : List Token :=
  [Tag.write (.global .reportSize) (.two 0 1), Tag.write .push (.two 7 7), .short 0x55 [0x0E],
    Tag.write (.global .page) (.one 9), Tag.write .pop .none, Tag.write (.global .reportCount) (.one 77)]

-- The pointer's collection is closed once more than it was opened.
theorem saved_sizes_left_out : Paired savedButtons ∧ Paired savedSizes ∧ (∀ token ∈ savedSizes, token.isGlobal) ∧
    (∃ inner, Reader.initial.run (Token.items 0 (Tag.push.write .none :: savedButtons)) = .ok inner ∧
      inner.globals = ⟨9, 0, 0, -127, 0, 0⟩ ∧
      Reader.initial.run (Token.items 0 (Tag.push.write .none :: savedButtons ++ [Tag.pop.write .none])) =
        .ok { inner with globals := .initial, saved := [] }) ∧
    read (encodeAll (tersePointer.take 4) ++
        (encodeAll (Tag.push.write .none :: savedSizes ++ [Tag.pop.write .none]) ++
          (encodeAll (tersePointer.drop 4) ++ [0xC0]))) = .error (.nothingToClose 34) := by
  have buttons : Paired savedButtons := by decide
  have sizes : Paired savedSizes := by decide
  have isGlobal : ∀ token ∈ savedSizes, token.isGlobal := by decide
  refine ⟨buttons, sizes, isGlobal, ?_, ?_⟩
  · obtain ⟨restores, _⟩ := globals_restored (Tag.push.write .none) (Tag.pop.write .none) savedButtons (by decide)
      (by decide) buttons
    exact ⟨_, rfl, by decide, restores .initial _ 0 rfl⟩
  · obtain ⟨_, alike⟩ := globals_restored (Tag.push.write .none) (Tag.pop.write .none) savedSizes (by decide)
      (by decide) sizes
    have plain := read_tokens (tersePointer ++ [Tag.endCollection.write .none]) [] (by decide) (.inl rfl)
    rw [alike isGlobal (tersePointer.take 4) (encodeAll (tersePointer.drop 4) ++ [0xC0]) (by decide)]
    exact congrArg (Except.mapError _) plain

end HidRelay.Descriptor
