import HidRelay.Descriptor.Item

set_option autoImplicit false

namespace HidRelay.Descriptor

namespace Token

def WellFormed : Token → Prop
  | .short lead payload => lead ≠ longLead ∧ payload.length = payloadSize lead
  | .long _ payload => payload.length < 256

instance : (token : Token) → Decidable token.WellFormed
  | .short lead payload => inferInstanceAs (Decidable (lead ≠ longLead ∧ payload.length = payloadSize lead))
  | .long _ payload => inferInstanceAs (Decidable (payload.length < 256))

def encodeAll (tokens : List Token) : Bytes := tokens.flatMap encode

theorem encode_all_cons (token : Token) (rest : List Token) :
    encodeAll (token :: rest) = token.encode ++ encodeAll rest := List.flatMap_cons

theorem encode_all_append (before after : List Token) : encodeAll (before ++ after) = encodeAll before ++ encodeAll after :=
  List.flatMap_append

def items (offset : Nat) : List Token → List Item
  | [] => []
  | token :: rest => (token.item? offset).toList ++ items (offset + token.encode.length) rest

theorem read_complete (token : Token) (rest : Bytes) (wellFormed : token.WellFormed) :
    ∃ lead following, token.encode ++ rest = lead :: following ∧ read lead following = some (token, rest) := by
  cases token with
  | short lead payload =>
      obtain ⟨notLong, length⟩ := wellFormed
      refine ⟨lead, payload ++ rest, rfl, ?_⟩
      unfold read
      rw [if_neg notLong, if_pos (by simp [length]), ← length, List.take_left, List.drop_left]
  | long tag payload =>
      have size : (UInt8.ofNat payload.length).toNat = payload.length := UInt8.toNat_ofNat_of_lt' wellFormed
      refine ⟨longLead, UInt8.ofNat payload.length :: tag :: (payload ++ rest), rfl, ?_⟩
      simp [read, size]

theorem scan_encode (token : Token) (offset : Nat) (rest : Bytes) (wellFormed : token.WellFormed) :
    scan offset (token.encode ++ rest) =
      ⟨(token.item? offset).toList ++ (scan (offset + token.encode.length) rest).items,
        (scan (offset + token.encode.length) rest).truncated⟩ := by
  obtain ⟨lead, following, split, done⟩ := read_complete token rest wellFormed
  rw [split, scan]
  split
  case h_1 absent =>
    rw [done] at absent
    cases absent
  case h_2 found =>
    rw [done] at found
    cases found
    rfl

theorem scan_encode_append (tokens : List Token) (offset : Nat) (rest : Bytes)
    (wellFormed : ∀ token ∈ tokens, token.WellFormed) :
    scan offset (encodeAll tokens ++ rest) =
      ⟨items offset tokens ++ (scan (offset + (encodeAll tokens).length) rest).items,
        (scan (offset + (encodeAll tokens).length) rest).truncated⟩ := by
  induction tokens generalizing offset with
  | nil => rfl
  | cons token tail ih =>
      have later := ih (offset + token.encode.length) fun other member => wellFormed other (List.mem_cons_of_mem _ member)
      rw [encode_all_cons, List.append_assoc, scan_encode token offset _ (wellFormed token List.mem_cons_self), later, items,
        List.length_append, Nat.add_assoc, List.append_assoc]

theorem scan_nothing (offset : Nat) : scan offset [] = ⟨[], none⟩ := by rw [scan]

theorem scan_encode_all (tokens : List Token) (offset : Nat) (wellFormed : ∀ token ∈ tokens, token.WellFormed) :
    scan offset (encodeAll tokens) = ⟨items offset tokens, none⟩ := by
  have whole := scan_encode_append tokens offset [] wellFormed
  rwa [List.append_nil, scan_nothing, List.append_nil] at whole

theorem items_append (offset : Nat) (before after : List Token) :
    items offset (before ++ after) = items offset before ++ items (offset + (encodeAll before).length) after := by
  induction before generalizing offset with
  | nil => rfl
  | cons token rest ih =>
      rw [List.cons_append, items, ih, items, encode_all_cons, List.length_append, List.append_assoc, Nat.add_assoc]

def Incomplete (rest : Bytes) : Prop :=
  rest ≠ [] ∧ ∃ token : Token, token.WellFormed ∧ ∃ missing, missing ≠ [] ∧ token.encode = rest ++ missing

theorem read_well_formed (lead : UInt8) (following rest : Bytes) (token : Token)
    (done : read lead following = some (token, rest)) : token.WellFormed := by
  unfold read at done
  split at done
  case isTrue isLong =>
    cases following with
    | nil => cases done
    | cons size tail =>
        cases tail with
        | nil => cases done
        | cons tag body =>
            simp only at done
            split at done
            case isTrue enough =>
              cases done
              have bound := size.toNat_lt
              have length := List.length_take_le size.toNat body
              show (body.take size.toNat).length < 256
              omega
            case isFalse => cases done
  case isFalse notLong =>
    split at done
    case isTrue enough =>
      cases done
      exact ⟨notLong, List.length_take_of_le enough⟩
    case isFalse => cases done

-- What is missing of a value may be anything, say zeros.
theorem incomplete_of_unread (lead : UInt8) (following : Bytes) (unread : read lead following = none) :
    Incomplete (lead :: following) := by
  refine ⟨List.cons_ne_nil _ _, ?_⟩
  unfold read at unread
  split at unread
  case isTrue isLong =>
    match following with
    | [] =>
        have short : ([] : Bytes).length < 256 := by decide
        exact ⟨.long 0 [], short, [0, 0], List.cons_ne_nil _ _, by rw [isLong]; rfl⟩
    | [size] =>
        have bound := size.toNat_lt
        refine ⟨.long 0 (List.replicate size.toNat 0), ?_, 0 :: List.replicate size.toNat 0, List.cons_ne_nil _ _, ?_⟩
        · rw [WellFormed, List.length_replicate]
          exact bound
        · rw [encode, List.length_replicate, UInt8.ofNat_toNat, isLong]
          rfl
    | size :: tag :: body =>
        simp only at unread
        split at unread
        case isTrue => cases unread
        case isFalse short =>
          have bound := size.toNat_lt
          have length : (body ++ List.replicate (size.toNat - body.length) 0).length = size.toNat := by
            rw [List.length_append, List.length_replicate]
            omega
          refine ⟨.long tag (body ++ List.replicate (size.toNat - body.length) 0), ?_,
            List.replicate (size.toNat - body.length) 0, ?_, ?_⟩
          · rw [WellFormed, length]
            exact bound
          · rw [ne_eq, List.replicate_eq_nil_iff]
            omega
          · rw [encode, length, UInt8.ofNat_toNat, isLong]
            rfl
  case isFalse notLong =>
    split at unread
    case isTrue => cases unread
    case isFalse short =>
      refine ⟨.short lead (following ++ List.replicate (payloadSize lead - following.length) 0), ⟨notLong, ?_⟩,
        List.replicate (payloadSize lead - following.length) 0, ?_, rfl⟩
      · rw [List.length_append, List.length_replicate]
        omega
      · rw [ne_eq, List.replicate_eq_nil_iff]
        omega

theorem unread_of_incomplete (lead : UInt8) (following : Bytes) (incomplete : Incomplete (lead :: following)) :
    read lead following = none := by
  obtain ⟨_, token, wellFormed, missing, some, split⟩ := incomplete
  cases found : read lead following with
  | none => rfl
  | some result =>
      obtain ⟨other, rest⟩ := result
      have longer := read_encode lead following rest other found
      obtain ⟨head, tail, whole, read⟩ := read_complete token [] wellFormed
      obtain ⟨head', tail', whole', read'⟩ := read_complete other (rest ++ missing) (read_well_formed _ _ _ _ found)
      rw [List.append_nil, split] at whole
      rw [← List.append_assoc, ← longer, whole] at whole'
      cases whole'
      have ends := (Prod.mk.inj (Option.some.inj (read.symm.trans read'))).2
      exact absurd (List.append_eq_nil_iff.mp ends.symm).2 some

theorem scan_incomplete (offset : Nat) (rest : Bytes) (incomplete : Incomplete rest) :
    scan offset rest = ⟨[], some offset⟩ := by
  cases rest with
  | nil => exact absurd rfl incomplete.1
  | cons lead following =>
      have unread := unread_of_incomplete lead following incomplete
      rw [scan]
      split
      case h_1 => rfl
      case h_2 found =>
        rw [unread] at found
        cases found

theorem tokens_of_bytes (bytes : Bytes) : ∃ tokens rest, (∀ token ∈ tokens, token.WellFormed) ∧
    bytes = encodeAll tokens ++ rest ∧ (rest = [] ∨ Incomplete rest) := by
  match bytes with
  | [] => exact ⟨[], [], fun _ member => absurd member List.not_mem_nil, rfl, .inl rfl⟩
  | lead :: following =>
      cases found : read lead following with
      | none =>
          exact ⟨[], lead :: following, fun _ member => absurd member List.not_mem_nil, rfl,
            .inr (incomplete_of_unread lead following found)⟩
      | some result =>
          obtain ⟨token, behind⟩ := result
          obtain ⟨tokens, rest, wellFormed, split, ending⟩ := tokens_of_bytes behind
          refine ⟨token :: tokens, rest, ?_, ?_, ending⟩
          · intro other member
            rcases List.mem_cons.mp member with rfl | later
            · exact read_well_formed lead following behind other found
            · exact wellFormed other later
          · rw [read_encode lead following behind token found, split, encode_all_cons, List.append_assoc]
termination_by bytes.length
decreasing_by exact read_shortens lead following behind token found

end Token
end HidRelay.Descriptor
