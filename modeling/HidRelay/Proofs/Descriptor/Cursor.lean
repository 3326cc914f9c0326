import Mathlib.Data.List.Forall2
import HidRelay.Proofs.Descriptor.Tokens
import HidRelay.Proofs.Report.WholeNumber

/-!
The items of a descriptor taken one at a time, by a position in the bytes that every call moves on. The
calls give the items of the complete tokens, then once the place of a token that the bytes break off,
and nothing ever after. Any bytes are complete tokens with the beginning of one more in one way only.
-/

set_option autoImplicit false

namespace HidRelay.Descriptor

structure Cursor where
  bytes : Bytes
  position : Nat
deriving DecidableEq, Repr

inductive Answer where
  | item (item : Item)
  | truncated (offset : Nat)
deriving DecidableEq, Repr

namespace Cursor

def start (bytes : Bytes) : Cursor := ⟨bytes, 0⟩

def moved (cursor : Cursor) (position : Nat) : Cursor := { cursor with position := position }

def fail (cursor : Cursor) : Option Answer × Cursor :=
  (some (.truncated cursor.position), cursor.moved cursor.bytes.length)

-- A long token has no item, and the one behind it is looked at in the same call.
def next (cursor : Cursor) : Option Answer × Cursor :=
  match _here : cursor.bytes[cursor.position]? with
  | none => (none, cursor)
  | some lead =>
      if lead = longLead then
        match cursor.bytes[cursor.position + 1]? with
        | none => cursor.fail
        | some size =>
            if cursor.bytes.length < cursor.position + 3 + size.toNat then cursor.fail
            else (cursor.moved (cursor.position + 3 + size.toNat)).next
      else if cursor.bytes.length < cursor.position + 1 + payloadSize lead then cursor.fail
      else
        let payload := (cursor.bytes.drop (cursor.position + 1)).take (payloadSize lead)
        (some (.item ⟨cursor.position, lead &&& 0xFC, payload⟩), cursor.moved (cursor.position + 1 + payloadSize lead))
termination_by cursor.bytes.length - cursor.position
decreasing_by
  have inside := (List.getElem?_eq_some_iff.mp _here).1
  simp only [moved]
  omega

def answer (cursor : Cursor) : Nat → Option Answer
  | 0 => cursor.next.1
  | calls + 1 => cursor.next.2.answer calls

def ahead (cursor : Cursor) : Bytes := cursor.bytes.drop cursor.position

theorem bytes_ahead (cursor : Cursor) (index : Nat) : cursor.bytes[cursor.position + index]? = cursor.ahead[index]? :=
  List.getElem?_drop.symm

theorem ahead_moved (cursor : Cursor) (count : Nat) :
    (cursor.moved (cursor.position + count)).ahead = cursor.ahead.drop count := List.drop_drop.symm

theorem length_ahead (cursor : Cursor) : cursor.ahead.length = cursor.bytes.length - cursor.position := List.length_drop

theorem next_nothing (cursor : Cursor) (nothing : cursor.ahead = []) : cursor.next = (none, cursor) := by
  have absent : cursor.bytes[cursor.position]? = none := by
    rw [← Nat.add_zero cursor.position, bytes_ahead, nothing]
    rfl
  rw [next]
  split
  case h_1 => rfl
  case h_2 here =>
    rw [absent] at here
    cases here

theorem next_something (cursor : Cursor) (lead : UInt8) (following : Bytes) (whole : cursor.ahead = lead :: following) :
    cursor.next =
      match Token.read lead following with
      | none => cursor.fail
      | some (token, _) =>
          match token.item? cursor.position with
          | some item => (some (.item item), cursor.moved (cursor.position + token.encode.length))
          | none => (cursor.moved (cursor.position + token.encode.length)).next := by
  have first : cursor.bytes[cursor.position]? = some lead := by
    rw [← Nat.add_zero cursor.position, bytes_ahead, whole]
    rfl
  have second : cursor.bytes[cursor.position + 1]? = following[0]? := by
    rw [bytes_ahead, whole]
    rfl
  have length : cursor.bytes.length = cursor.position + (following.length + 1) := by
    have all := cursor.length_ahead
    rw [whole, List.length_cons] at all
    omega
  have behind : cursor.bytes.drop (cursor.position + 1) = following := by
    rw [← List.drop_drop, ← ahead, whole]
    rfl
  rw [next]
  split
  case h_1 absent =>
    rw [first] at absent
    cases absent
  case h_2 found =>
    rw [first] at found
    cases found
    unfold Token.read
    by_cases long : lead = longLead
    · rw [if_pos long, if_pos long, second]
      match following with
      | [] => rfl
      | [size] =>
          exact if_pos (by rw [length, List.length_singleton]; omega)
      | size :: tag :: body =>
          rw [List.length_cons, List.length_cons] at length
          simp only [List.getElem?_cons_zero]
          by_cases enough : size.toNat ≤ body.length
          · have count : (Token.long tag (body.take size.toNat)).encode.length = 3 + size.toNat := by
              simp only [Token.encode, List.length_cons, List.length_take_of_le enough]
              omega
            rw [if_neg (by omega), if_pos enough]
            simp only [Token.item?, count, Nat.add_assoc]
          · rw [if_pos (by omega), if_neg enough]
    · rw [if_neg long, if_neg long]
      by_cases enough : payloadSize lead ≤ following.length
      · have count : (Token.short lead (following.take (payloadSize lead))).encode.length = 1 + payloadSize lead := by
          rw [Token.encode, List.length_cons, List.length_take_of_le enough, Nat.add_comm]
        rw [if_neg (by omega), if_pos enough, behind]
        simp only [Token.item?, count, Nat.add_assoc]
      · rw [if_pos (by omega), if_neg enough]

theorem answer_nothing (cursor : Cursor) (calls : Nat) (nothing : cursor.ahead = []) : cursor.answer calls = none := by
  induction calls with
  | zero => rw [answer, next_nothing cursor nothing]
  | succ calls ih =>
      rw [answer, next_nothing cursor nothing]
      exact ih

theorem answer_of_next (cursor other : Cursor) (calls : Nat) (same : cursor.next = other.next) :
    cursor.answer calls = other.answer calls := by
  cases calls with
  | zero => rw [answer, answer, same]
  | succ calls => rw [answer, answer, same]

end Cursor

def Scan.answers (scan : Scan) : List Answer := scan.items.map .item ++ (scan.truncated.map .truncated).toList

namespace Cursor

theorem answer_scan (cursor : Cursor) (calls : Nat) :
    cursor.answer calls = (scan cursor.position cursor.ahead).answers[calls]? := by
  cases whole : cursor.ahead with
  | nil =>
      rw [answer_nothing cursor calls whole, Token.scan_nothing]
      rfl
  | cons lead following =>
      have step := next_something cursor lead following whole
      cases found : Token.read lead following with
      | none =>
          rw [found] at step
          rw [Token.scan_incomplete _ _ (Token.incomplete_of_unread lead following found)]
          cases calls with
          | zero =>
              rw [answer, step]
              rfl
          | succ calls =>
              rw [answer, step]
              exact answer_nothing _ calls List.drop_length
      | some result =>
          obtain ⟨token, rest⟩ := result
          rw [found] at step
          have split := Token.read_encode lead following rest token found
          have behind : (cursor.moved (cursor.position + token.encode.length)).ahead = rest := by
            rw [ahead_moved, whole, split, List.drop_left]
          have later (calls : Nat) := answer_scan (cursor.moved (cursor.position + token.encode.length)) calls
          rw [behind] at later
          rw [split, Token.scan_encode token _ rest (Token.read_well_formed _ _ _ _ found)]
          cases token with
          | short lead payload =>
              cases calls with
              | zero =>
                  rw [answer, step]
                  rfl
              | succ calls =>
                  rw [answer, step]
                  exact later calls
          -- A long token is no answer, so the same call goes on behind it.
          | long tag payload => exact (answer_of_next cursor _ calls step).trans (later calls)
termination_by cursor.ahead.length
decreasing_by
  rw [behind, whole]
  exact Token.read_shortens lead following rest token found

end Cursor

structure Short where
  offset : Nat
  lead : UInt8
  payload : Bytes
deriving DecidableEq, Repr

def shorts (tokens : List Token) : List Short :=
  tokens.zipIdx.filterMap fun entry =>
    match entry.1 with
    | .short lead payload => some ⟨(Token.encodeAll (tokens.take entry.2)).length, lead, payload⟩
    | .long _ _ => none

-- The low two bits of a lead byte are the size, the next two the kind.
structure Item.Shows (item : Item) (token : Short) : Prop where
  offset : item.offset = token.offset
  tag : item.tag.toNat = token.lead.toNat / 4 * 4
  kind : some item.kind =
    [ItemKind.mainItem, .globalItem, .localItem, .reservedItem][token.lead.toNat / 4 % 4]?
  size : item.size = token.payload.length
  unsigned : item.unsigned = Word.ofBytes token.payload
  signed : Word.StandsFor (8 * token.payload.length) (Word.ofBytes token.payload) item.signed

namespace Short

def item (token : Short) : Item := ⟨token.offset, token.lead &&& 0xFC, token.payload⟩

theorem tag_value (lead : UInt8) : (lead &&& 0xFC).toNat = lead.toNat / 4 * 4 := by
  have every : ∀ bits : BitVec 8, (bits &&& 0xFC#8).toNat = bits.toNat / 4 * 4 := by decide +kernel
  exact every lead.toBitVec

theorem item_shows (token : Short) : token.item.Shows token where
  offset := rfl
  tag := tag_value token.lead
  kind := by
    have bits : (token.lead &&& 0xFC).toNat / 4 % 4 = token.lead.toNat / 4 % 4 := by
      rw [tag_value]
      omega
    have below : token.lead.toNat / 4 % 4 < 4 := Nat.mod_lt _ (by decide)
    rw [Item.kind, item, bits]
    generalize token.lead.toNat / 4 % 4 = code at below
    obtain rfl | rfl | rfl | rfl : code = 0 ∨ code = 1 ∨ code = 2 ∨ code = 3 := by omega
    all_goals rfl
  size := rfl
  unsigned := rfl
  signed := (Word.stands_for_iff _ _ _ (Word.of_bytes_lt token.payload)).mpr rfl

end Short

namespace Token

theorem items_after (before after : List Token) :
    items (encodeAll before).length after =
      (after.zipIdx before.length).filterMap fun entry =>
        entry.1.item? (encodeAll ((before ++ after).take entry.2)).length := by
  induction after generalizing before with
  | nil => rfl
  | cons token rest ih =>
      have longer : (encodeAll (before ++ [token])).length = (encodeAll before).length + token.encode.length := by
        rw [encode_all_append, List.length_append, encode_all_cons, List.length_append]
        rfl
      have later := ih (before ++ [token])
      rw [longer, List.length_append, List.append_assoc, List.singleton_append] at later
      rw [items, later, List.zipIdx_cons, List.filterMap_cons, List.take_left]
      cases token.item? (encodeAll before).length <;> rfl

theorem items_shorts (tokens : List Token) : items 0 tokens = (shorts tokens).map Short.item := by
  rw [shorts, List.map_filterMap]
  refine (items_after [] tokens).trans (List.filterMap_congr fun entry _ => ?_)
  cases entry.1 <;> rfl

theorem ending_unread (rest : Bytes) (ending : rest = [] ∨ Incomplete rest) (token : Token) (behind : Bytes)
    (wellFormed : token.WellFormed) : rest ≠ token.encode ++ behind := by
  obtain ⟨lead, following, split, read⟩ := read_complete token behind wellFormed
  rw [split]
  rcases ending with rfl | incomplete
  · exact (List.cons_ne_nil _ _).symm
  · rintro rfl
    rw [unread_of_incomplete lead following incomplete] at read
    cases read

theorem tokens_unique (left right : List Token) (rest rest' : Bytes) (leftFormed : ∀ token ∈ left, token.WellFormed)
    (rightFormed : ∀ token ∈ right, token.WellFormed) (ending : rest = [] ∨ Incomplete rest)
    (ending' : rest' = [] ∨ Incomplete rest') (same : encodeAll left ++ rest = encodeAll right ++ rest') :
    left = right ∧ rest = rest' := by
  induction left generalizing right with
  | nil =>
      cases right with
      | nil => exact ⟨rfl, same⟩
      | cons token others =>
          rw [encode_all_cons, List.append_assoc] at same
          exact absurd same (ending_unread rest ending token _ (rightFormed token List.mem_cons_self))
  | cons token others ih =>
      have formed := leftFormed token List.mem_cons_self
      rw [encode_all_cons, List.append_assoc] at same
      cases right with
      | nil => exact absurd same.symm (ending_unread rest' ending' token _ formed)
      | cons token' others' =>
          rw [encode_all_cons, List.append_assoc] at same
          obtain ⟨lead, following, split, read⟩ := read_complete token (encodeAll others ++ rest) formed
          obtain ⟨lead', following', split', read'⟩ :=
            read_complete token' (encodeAll others' ++ rest') (rightFormed token' List.mem_cons_self)
          rw [same, split'] at split
          cases split
          obtain ⟨rfl, behind⟩ := Prod.mk.inj (Option.some.inj (read.symm.trans read'))
          obtain ⟨rfl, rfl⟩ := ih others' (fun other member => leftFormed other (List.mem_cons_of_mem _ member))
            (fun other member => rightFormed other (List.mem_cons_of_mem _ member)) behind
          exact ⟨rfl, rfl⟩

structure Parts (bytes : Bytes) (tokens : List Token) (rest : Bytes) : Prop where
  well_formed : ∀ token ∈ tokens, token.WellFormed
  ending : rest = [] ∨ Incomplete rest
  whole : bytes = encodeAll tokens ++ rest

theorem parts_unique (bytes : Bytes) : ∃! parts : List Token × Bytes, Parts bytes parts.1 parts.2 := by
  obtain ⟨tokens, rest, wellFormed, whole, ending⟩ := tokens_of_bytes bytes
  refine ⟨(tokens, rest), ⟨wellFormed, ending, whole⟩, fun other parts => ?_⟩
  obtain ⟨sameTokens, sameRest⟩ :=
    tokens_unique other.1 tokens other.2 rest parts.well_formed wellFormed parts.ending ending (parts.whole.symm.trans whole)
  exact Prod.ext sameTokens sameRest

theorem scan_parts (bytes : Bytes) (tokens : List Token) (rest : Bytes) (parts : Parts bytes tokens rest) :
    scan 0 bytes = ⟨(shorts tokens).map Short.item, if rest = [] then none else some (encodeAll tokens).length⟩ := by
  rw [parts.whole, scan_encode_append tokens 0 rest parts.well_formed, Nat.zero_add, items_shorts]
  rcases parts.ending with rfl | incomplete
  · rw [scan_nothing, List.append_nil, if_pos rfl]
  · rw [scan_incomplete _ rest incomplete, List.append_nil, if_neg incomplete.1]

theorem items_length_le (offset : Nat) (tokens : List Token) : (items offset tokens).length ≤ (encodeAll tokens).length := by
  induction tokens generalizing offset with
  | nil => exact Nat.le_refl _
  | cons token rest ih =>
      have later := ih (offset + token.encode.length)
      have first : (token.item? offset).toList.length ≤ token.encode.length := by
        cases token with
        | short lead payload => exact Nat.le_add_left 1 payload.length
        | long tag payload => exact Nat.zero_le _
      rw [items, encode_all_cons, List.length_append, List.length_append]
      exact Nat.add_le_add first later

theorem answers_length_le (bytes : Bytes) : (scan 0 bytes).answers.length ≤ bytes.length := by
  obtain ⟨tokens, rest, wellFormed, whole, ending⟩ := tokens_of_bytes bytes
  have taken := items_length_le 0 tokens
  rw [items_shorts, List.length_map] at taken
  rw [scan_parts bytes tokens rest ⟨wellFormed, ending, whole⟩, whole, Scan.answers]
  rcases ending with rfl | incomplete
  · simpa using taken
  · have left := List.length_pos_iff.mpr incomplete.1
    simp only [if_neg incomplete.1, List.length_append, List.length_map, Option.map_some, Option.toList_some,
      List.length_singleton]
    omega

end Token

-- That `next` is a function at all says that it passes over long tokens to an end.
theorem bytes_taken_as_tokens :
    (∀ bytes tokens rest, Token.Parts bytes tokens rest →
      List.Forall₂ Item.Shows (scan 0 bytes).items (shorts tokens) ∧
      (scan 0 bytes).truncated = (if rest = [] then none else some (Token.encodeAll tokens).length) ∧
      ∀ calls, (Cursor.start bytes).answer calls =
        ((scan 0 bytes).items.map .item ++
          if rest = [] then [] else [.truncated (Token.encodeAll tokens).length])[calls]?) ∧
    (∀ bytes, ∃! parts : List Token × Bytes, Token.Parts bytes parts.1 parts.2) ∧
    ∀ bytes calls, bytes.length ≤ calls → (Cursor.start bytes).answer calls = none := by
  refine ⟨fun bytes tokens rest parts => ?_, Token.parts_unique, fun bytes calls beyond => ?_⟩
  · have found := Token.scan_parts bytes tokens rest parts
    refine ⟨?_, by rw [found], fun calls => ?_⟩
    · rw [found]
      exact List.forall₂_map_left_iff.mpr (List.forall₂_same.mpr fun token _ => token.item_shows)
    · rw [Cursor.answer_scan, Cursor.ahead, Cursor.start, List.drop_zero, found, Scan.answers]
      by_cases nothing : rest = []
      · rw [if_pos nothing, if_pos nothing]
        rfl
      · rw [if_neg nothing, if_neg nothing]
        rfl
  · have few := Token.answers_length_le bytes
    rw [Cursor.answer_scan, Cursor.ahead, Cursor.start, List.drop_zero]
    exact List.getElem?_eq_none (Nat.le_trans few beyond)

def mixedTokens : List Token := [.short 0x05 [0x01], .long 0x00 [0x09, 0x02, 0xFE], .short 0x17 [0xFE, 0xFF, 0xFF, 0xFF]]

theorem long_token_passed_over :
    let bytes : Bytes := [0x05, 0x01, 0xFE, 0x03, 0x00, 0x09, 0x02, 0xFE, 0x17, 0xFE, 0xFF, 0xFF, 0xFF, 0xFE, 0x02, 0x00, 0x09]
    let low : Item := ⟨8, 0x14, [0xFE, 0xFF, 0xFF, 0xFF]⟩
    Token.Parts bytes mixedTokens [0xFE, 0x02, 0x00, 0x09] ∧ (Cursor.start bytes).answer 1 = some (.item low) ∧
      low.signed = -2 ∧ (Cursor.start bytes).answer 2 = some (.truncated 13) ∧ (Cursor.start bytes).answer 3 = none := by
  intro bytes low
  have parts : Token.Parts bytes mixedTokens [0xFE, 0x02, 0x00, 0x09] :=
    ⟨by decide, .inr ⟨by decide, .long 0x00 [0x09, 0x00], by decide, [0x00], by decide, by decide⟩, by decide⟩
  have found : (scan 0 bytes).items = [⟨0, 0x04, [0x01]⟩, low] := by decide +kernel
  obtain ⟨_, _, answers⟩ := bytes_taken_as_tokens.1 bytes mixedTokens _ parts
  rw [found] at answers
  exact ⟨parts, answers 1, by decide, answers 2, answers 3⟩

end HidRelay.Descriptor
