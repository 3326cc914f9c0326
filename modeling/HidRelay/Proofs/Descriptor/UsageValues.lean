import HidRelay.Proofs.Descriptor.Outline
import HidRelay.Proofs.Descriptor.Rewording

/-!
Usages with a page in their high half. The reader takes the low half of a single usage and of the start
of a range for the usage, and pays no attention to the page. The end of a range is not taken that way: an
end that has anything in its high half counts as the last usage there is.
-/

set_option autoImplicit false

namespace HidRelay.Descriptor

open Report (Catalog)
open Token (encodeAll)

-- A usage without its page, in as many bytes. Values of other sizes have no room for a page.
def lowHalf : Bytes → Bytes
  | [b0, b1, _, _] => [b0, b1, 0, 0]
  | value => value

def reachedEnd : Bytes → Bytes
  | [b0, b1, b2, b3] => if b2 = 0 ∧ b3 = 0 then [b0, b1, 0, 0] else [0xFF, 0xFF, 0, 0]
  | value => value

theorem low_half_length (value : Bytes) : (lowHalf value).length = value.length := by
  unfold lowHalf
  split <;> rfl

theorem reached_end_length (value : Bytes) : (reachedEnd value).length = value.length := by
  unfold reachedEnd
  split
  · split <;> rfl
  · rfl

namespace Payload

theorem low_half_value (payload : Payload) : Word.ofBytes (lowHalf payload.bytes) = payload.unsigned % 65536 := by
  cases payload with
  | none => rfl
  | one b0 =>
      have := b0.toNat_lt
      simp only [bytes, lowHalf, unsigned, Word.ofBytes]
      omega
  | two b0 b1 =>
      have := b0.toNat_lt
      have := b1.toNat_lt
      simp only [bytes, lowHalf, unsigned, Word.ofBytes]
      omega
  | four b0 b1 b2 b3 =>
      have := b0.toNat_lt
      have := b1.toNat_lt
      simp only [bytes, lowHalf, unsigned, Word.ofBytes, UInt8.toNat_zero]
      omega

theorem high_half (b0 b1 b2 b3 : UInt8) : (four b0 b1 b2 b3).unsigned ≤ 65535 ↔ b2 = 0 ∧ b3 = 0 := by
  have := b0.toNat_lt
  have := b1.toNat_lt
  rw [← UInt8.toNat_inj, ← UInt8.toNat_inj, UInt8.toNat_zero]
  simp only [unsigned, bytes, Word.ofBytes]
  omega

theorem reached_end_of_bounded (payload : Payload) (bounded : payload.unsigned ≤ 65535) :
    reachedEnd payload.bytes = lowHalf payload.bytes := by
  cases payload with
  | four b0 b1 b2 b3 => rw [bytes, reachedEnd, if_pos ((high_half b0 b1 b2 b3).mp bounded), lowHalf]
  | _ => rfl

theorem reached_end_of_unbounded (payload : Payload) (unbounded : 65535 < payload.unsigned) :
    reachedEnd payload.bytes = [0xFF, 0xFF, 0, 0] := by
  cases payload with
  | four b0 b1 b2 b3 =>
      rw [bytes, reachedEnd, if_neg fun high => Nat.not_le.mpr unbounded ((high_half b0 b1 b2 b3).mpr high)]
  | none => cases unbounded
  | one b0 =>
      have := b0.toNat_lt
      simp only [unsigned, bytes, Word.ofBytes] at unbounded
      omega
  | two b0 b1 =>
      have := b0.toNat_lt
      have := b1.toNat_lt
      simp only [unsigned, bytes, Word.ofBytes] at unbounded
      omega

theorem reached_end_value (payload : Payload) :
    Word.ofBytes (reachedEnd payload.bytes) = min payload.unsigned 65535 := by
  rcases Nat.lt_or_ge 65535 payload.unsigned with unbounded | bounded
  · rw [reached_end_of_unbounded payload unbounded, Nat.min_eq_right (Nat.le_of_lt unbounded)]
    rfl
  · rw [reached_end_of_bounded payload bounded, low_half_value, Nat.mod_eq_of_lt (Nat.lt_succ_of_le bounded),
      Nat.min_eq_left bounded]

theorem of_size (lead : UInt8) (value : Bytes) (size : value.length = payloadSize lead) :
    ∃ payload : Payload, payload.bytes = value := by
  match value with
  | [] => exact ⟨.none, rfl⟩
  | [b0] => exact ⟨.one b0, rfl⟩
  | [b0, b1] => exact ⟨.two b0 b1, rfl⟩
  | [b0, b1, b2, b3] => exact ⟨.four b0 b1 b2 b3, rfl⟩
  | [_, _, _] | _ :: _ :: _ :: _ :: _ :: _ =>
      simp only [payloadSize, List.length_cons, List.length_nil] at size
      split at size <;> omega

end Payload

namespace Token

def revalued (change : UInt8 → Bytes → Bytes) : Token → Token
  | .short lead value => .short lead (change (lead &&& 0xFC) value)
  | .long tag payload => .long tag payload

variable (change : UInt8 → Bytes → Bytes) (keeps : ∀ tag value, (change tag value).length = value.length)

include keeps in
theorem revalued_length (token : Token) : (token.revalued change).encode.length = token.encode.length := by
  cases token with
  | short lead value => simp only [revalued, encode, List.length_cons, keeps]
  | long tag payload => rfl

include keeps in
theorem revalued_well_formed (token : Token) (wellFormed : token.WellFormed) : (token.revalued change).WellFormed := by
  cases token with
  | short lead value => exact ⟨wellFormed.1, (keeps _ _).trans wellFormed.2⟩
  | long tag payload => exact wellFormed

end Token

namespace Reader

variable (change : UInt8 → Bytes → Bytes) (keeps : ∀ tag value, (change tag value).length = value.length)

-- The changed items stand where the others stood, so the reader goes through the same states, and names
-- the same offset if it stops.
include keeps in
theorem run_revalued (tokens : List Token) (wellFormed : ∀ token ∈ tokens, token.WellFormed)
    (alike : ∀ (tag : UInt8) (payload : Payload) (reader : Reader) (offset : Nat),
      reader.step offset (⟨0, tag, change tag payload.bytes⟩ : Item).directive =
        reader.step offset (⟨0, tag, payload.bytes⟩ : Item).directive)
    (reader : Reader) (offset : Nat) :
    reader.run (Token.items offset (tokens.map (Token.revalued change))) = reader.run (Token.items offset tokens) := by
  induction tokens generalizing reader offset with
  | nil => rfl
  | cons token rest ih =>
      have later := fun next => ih (fun other member => wellFormed other (List.mem_cons_of_mem _ member)) next
        (offset + token.encode.length)
      have length := Token.revalued_length change keeps token
      cases token with
      | short lead value =>
          obtain ⟨payload, rfl⟩ := Payload.of_size lead value (wellFormed _ List.mem_cons_self).2
          simp only [Token.revalued] at length
          simp only [List.map_cons, Token.revalued, run_short, alike, length, later]
      | long tag payload => exact later reader

end Reader

theorem read_revalued (change : UInt8 → Bytes → Bytes) (keeps : ∀ tag value, (change tag value).length = value.length)
    (tokens : List Token) (wellFormed : ∀ token ∈ tokens, token.WellFormed)
    (alike : ∀ (tag : UInt8) (payload : Payload) (reader : Reader) (offset : Nat),
      reader.step offset (⟨0, tag, change tag payload.bytes⟩ : Item).directive =
        reader.step offset (⟨0, tag, payload.bytes⟩ : Item).directive) :
    read (encodeAll (tokens.map (Token.revalued change))) = read (encodeAll tokens) := by
  have changed : ∀ token ∈ tokens.map (Token.revalued change), token.WellFormed := by
    intro token member
    obtain ⟨own, listed, rfl⟩ := List.mem_map.mp member
    exact Token.revalued_well_formed change keeps own (wellFormed own listed)
  simp only [read, Token.scan_encode_all _ 0 changed, Token.scan_encode_all tokens 0 wellFormed,
    Reader.run_revalued change keeps tokens wellFormed alike]

def usageValue (ends : Bytes → Bytes) (tag : UInt8) (value : Bytes) : Bytes :=
  if tag = Tag.usage.code ∨ tag = Tag.usageMin.code then lowHalf value
  else if tag = Tag.usageMax.code then ends value
  else value

theorem usage_value_length (ends : Bytes → Bytes) (keeps : ∀ value, (ends value).length = value.length) (tag : UInt8)
    (value : Bytes) : (usageValue ends tag value).length = value.length := by
  unfold usageValue
  split
  · exact low_half_length value
  · split
    · exact keeps value
    · rfl

namespace Item

theorem usage_directive (offset : Nat) (tag : UInt8) (value : Bytes)
    (declares : tag = Tag.usage.code ∨ tag = Tag.usageMin.code) :
    (⟨offset, tag, value⟩ : Item).directive = .usage (UInt16.ofNat (Word.ofBytes value)) := by
  simp only [Tag.code] at declares
  rcases declares with rfl | rfl <;> simp [directive, kind, unsigned]

theorem usage_max_directive (offset : Nat) (value : Bytes) :
    (⟨offset, Tag.usageMax.code, value⟩ : Item).directive = .usagesUpTo (Word.ofBytes value) := by
  simp [directive, kind, unsigned, Tag.code]

end Item

namespace Reader

theorem step_usage_value (ends : Bytes → Bytes)
    (reach : ∀ payload : Payload, min (Word.ofBytes (ends payload.bytes)) 65535 = min payload.unsigned 65535)
    (tag : UInt8) (payload : Payload) (reader : Reader) (offset : Nat) :
    reader.step offset (⟨0, tag, usageValue ends tag payload.bytes⟩ : Item).directive =
      reader.step offset (⟨0, tag, payload.bytes⟩ : Item).directive := by
  unfold usageValue
  split
  case isTrue declares =>
    rw [Item.usage_directive 0 tag _ declares, Item.usage_directive 0 tag _ declares, Payload.low_half_value]
    exact congrArg (fun usage => reader.step offset (.usage usage)) UInt16.ofNat_mod_size
  case isFalse =>
    split
    case isTrue last =>
      subst last
      have same (first : Nat) : usagesBetween first (Word.ofBytes (ends payload.bytes)) =
          usagesBetween first (Word.ofBytes payload.bytes) := by
        rw [usagesBetween, reach payload]
        rfl
      simp only [Item.usage_max_directive, step, same]
    case isFalse => rfl

end Reader

def Token.rangeEnd? : Token → Option Nat
  | .short lead value => if lead &&& 0xFC = Tag.usageMax.code then some (Word.ofBytes value) else none
  | .long _ _ => none

theorem low_halves_of_bounded (tokens : List Token) (wellFormed : ∀ token ∈ tokens, token.WellFormed)
    (bounded : ∀ token ∈ tokens, ∀ last ∈ token.rangeEnd?, last ≤ 65535) :
    tokens.map (Token.revalued (usageValue lowHalf)) = tokens.map (Token.revalued (usageValue reachedEnd)) := by
  refine List.map_congr_left fun token member => ?_
  cases token with
  | long tag payload => rfl
  | short lead value =>
      obtain ⟨payload, rfl⟩ := Payload.of_size lead value (wellFormed _ member).2
      simp only [Token.revalued, usageValue]
      split
      case isTrue => rfl
      case isFalse =>
        split
        case isTrue ends =>
          rw [Payload.reached_end_of_bounded payload (bounded _ member _ (by rw [Token.rangeEnd?, if_pos ends]; rfl))]
        case isFalse => rfl

-- The page of a usage, and of the start of a range, is never used. An end with a page in it ends its range
-- on the last usage there is, so the low half may stand for an end only where there is nothing but that half.
theorem low_halves_read_alike (tokens : List Token) (wellFormed : ∀ token ∈ tokens, token.WellFormed) :
    read (encodeAll (tokens.map (Token.revalued (usageValue id)))) = read (encodeAll tokens) ∧
    read (encodeAll (tokens.map (Token.revalued (usageValue reachedEnd)))) = read (encodeAll tokens) ∧
    ((∀ token ∈ tokens, ∀ last ∈ token.rangeEnd?, last ≤ 65535) →
      read (encodeAll (tokens.map (Token.revalued (usageValue lowHalf)))) = read (encodeAll tokens)) ∧
    ∀ (reader : Reader) (tag : Tag) (first last : Payload), tag = .usage ∨ tag = .usageMin →
      Accepts reader [tag.write first, Tag.usageMax.write last] { reader with
        usages := reader.usages ++ (List.range' (first.unsigned % 65536)
          (min last.unsigned 65535 - first.unsigned % 65536 + 1)).map UInt16.ofNat } := by
  have own := read_revalued (usageValue id) (usage_value_length id fun _ => rfl) tokens wellFormed
    (Reader.step_usage_value id fun _ => rfl)
  have reached := read_revalued (usageValue reachedEnd) (usage_value_length reachedEnd reached_end_length) tokens
    wellFormed (Reader.step_usage_value reachedEnd fun payload => by rw [payload.reached_end_value, Nat.min_assoc, Nat.min_self])
  refine ⟨own, reached, fun bounded => ?_, Reader.accepts_range⟩
  rw [low_halves_of_bounded tokens wellFormed bounded]
  exact reached

def pagedModifiers (last : Payload) : List Token :=
  [Tag.write (.global .page) (.one 1), Tag.write .usage (.one 6), Tag.write .collection (.one 1),
    Tag.write (.global .page) (.one 7), Tag.write .usageMin (.four 0xE0 0 7 0), Tag.write .usageMax last,
    Tag.write (.global .reportSize) (.one 1), Tag.write (.global .reportCount) (.one 8),
    Tag.write (.field .input) (.one 2), Tag.write .endCollection .none]

theorem paged_start_reads_alike : (∀ token ∈ pagedModifiers (.one 0xE7), token.WellFormed) ∧
    (∀ token ∈ pagedModifiers (.one 0xE7), ∀ last ∈ token.rangeEnd?, last ≤ 65535) ∧
    read (encodeAll ((pagedModifiers (.one 0xE7)).map (Token.revalued (usageValue lowHalf)))) =
      read (encodeAll (pagedModifiers (.one 0xE7))) ∧
    Accepts .initial [Tag.usageMin.write (.four 0xE0 0 7 0), Tag.usageMax.write (.one 0xE7)]
      { Reader.initial with usages := (List.range' 0xE0 8).map UInt16.ofNat } ∧
    Accepts .initial [Tag.usageMin.write (.four 0xE0 0 7 0), Tag.usageMax.write (.four 0xE7 0 7 0)]
      { Reader.initial with usages := (List.range' 0xE0 (65536 - 0xE0)).map UInt16.ofNat } := by
  have wellFormed : ∀ token ∈ pagedModifiers (.one 0xE7), token.WellFormed := by decide
  have bounded : ∀ token ∈ pagedModifiers (.one 0xE7), ∀ last ∈ token.rangeEnd?, last ≤ 65535 := by decide
  obtain ⟨_, _, alike, range⟩ := low_halves_read_alike (pagedModifiers (.one 0xE7)) wellFormed
  exact ⟨wellFormed, bounded, alike bounded, range .initial .usageMin _ _ (.inr rfl),
    range .initial .usageMin _ _ (.inr rfl)⟩

def ninthUsage (result : Except Fault Catalog) : Option UInt16 :=
  match result with
  | .error _ => none
  | .ok catalog => (catalog.layout? .input 0).bind fun layout => layout.fields.head?.bind fun field => field.usages[8]?

theorem paged_end_overruns : ¬∀ tokens : List Token, (∀ token ∈ tokens, token.WellFormed) →
    read (encodeAll (tokens.map (Token.revalued (usageValue lowHalf)))) = read (encodeAll tokens) := by
  intro alike
  have same := congrArg ninthUsage (alike (pagedModifiers (.four 0xE7 0 7 0)) (by decide))
  have narrowed : ninthUsage (read (encodeAll ((pagedModifiers (.four 0xE7 0 7 0)).map
      (Token.revalued (usageValue lowHalf))))) = none := by decide +kernel
  have paged : ninthUsage (read (encodeAll (pagedModifiers (.four 0xE7 0 7 0)))) = some 0xE8 := by decide +kernel
  rw [narrowed, paged] at same
  cases same

end HidRelay.Descriptor
