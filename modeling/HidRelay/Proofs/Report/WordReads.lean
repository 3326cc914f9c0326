import HidRelay.Proofs.Report.WholeNumber

/-!
A read carried out on machine words: the bytes are gathered in a word of 64 bits, which is shifted and
masked. A step that asks for a byte behind the report, or shifts a word by its whole width, has no
result. No read ever gets to such a step, and the words hold what the exact numbers say.
-/

set_option autoImplicit false

namespace HidRelay.Report

def shifted {size : Nat} (shift : BitVec size → Nat → BitVec size) (word : BitVec size) (count : Nat) :
    Option (BitVec size) :=
  if count < size then some (shift word count) else none

def bytesThrough (report : Bytes) (first last : Nat) : Option Bytes :=
  if first ≤ last + 1 ∧ last < report.length then some ((report.drop first).take (last + 1 - first)) else none

def gather (index : Nat) (gathered : BitVec 64) : Bytes → Option (BitVec 64)
  | [] => some gathered
  | byte :: rest => do
      let raised ← shifted (· <<< ·) (byte.toBitVec.setWidth 64) (8 * index)
      gather (index + 1) (gathered ||| raised) rest

def behind (offset width : BitVec 32) : BitVec 64 := offset.setWidth 64 + width.setWidth 64

def wordField (report : Bytes) (offset width : BitVec 32) : Option (BitVec 32) := do
  let bytes ← bytesThrough report (offset / 8).toNat ((behind offset width - 1) / 8).toNat
  let gathered ← gather 0 0 bytes
  let aligned ← shifted (· >>> ·) gathered (offset % 8).toNat
  let above ← shifted (· <<< ·) 1 width.toNat
  some ((aligned &&& (above - 1)).setWidth 32)

-- The length in bits is taken exactly: no report comes near the 2^61 bytes that would overflow it.
def wordUnsigned (report : Bytes) (offset width : BitVec 32) : Option (Except ReadError (BitVec 32)) :=
  if width = 0 then some (.ok 0)
  else if 32 < width.toNat then some (.error (.tooWide width.toNat))
  else if 8 * report.length < (behind offset width).toNat then
    some (.error (.outOfBounds offset.toNat width.toNat report.length))
  else (wordField report offset width).map .ok

-- The word is raised until the top bit of the field is its sign, and lowered again with that sign.
def wordSigned (report : Bytes) (offset width : BitVec 32) : Option (Except ReadError (BitVec 32)) := do
  match ← wordUnsigned report offset width with
  | .error error => some (.error error)
  | .ok raw =>
      if width = 0 ∨ width = 32 then some (.ok raw)
      else
        let raised ← shifted (· <<< ·) raw (32 - width).toNat
        let lowered ← shifted BitVec.sshiftRight raised (32 - width).toNat
        some (.ok lowered)

theorem shifted_within {size : Nat} (shift : BitVec size → Nat → BitVec size) (word : BitVec size) (count : Nat)
    (narrow : count < size) : shifted shift word count = some (shift word count) := if_pos narrow

theorem gather_exact (bytes : Bytes) (index : Nat) (gathered : BitVec 64) (room : index + bytes.length ≤ 8)
    (low : gathered.toNat < 2 ^ (8 * index)) :
    ∃ word, gather index gathered bytes = some word ∧
      word.toNat = gathered.toNat + 2 ^ (8 * index) * Word.ofBytes bytes := by
  induction bytes generalizing index gathered with
  | nil => exact ⟨gathered, rfl, by rw [Word.ofBytes, Nat.mul_zero, Nat.add_zero]⟩
  | cons byte rest ih =>
      rw [List.length_cons] at room
      have narrow : 8 * index < 64 := by omega
      have bound := byte.toNat_lt
      have scale : 2 ^ (8 * (index + 1)) = 2 ^ (8 * index) * 256 := by rw [Nat.mul_succ, Nat.pow_add]
      have fits : 2 ^ (8 * index) * byte.toNat < 2 ^ (8 * (index + 1)) := by
        rw [scale]
        exact Nat.mul_lt_mul_of_pos_left bound (Nat.two_pow_pos _)
      have inside : 2 ^ (8 * (index + 1)) ≤ 2 ^ 64 := Nat.pow_le_pow_right (by decide) (by omega)
      have widened : (byte.toBitVec.setWidth 64).toNat = byte.toNat := by
        rw [BitVec.toNat_setWidth, UInt8.toNat_toBitVec]
        exact Nat.mod_eq_of_lt (by omega)
      have raised : (byte.toBitVec.setWidth 64 <<< (8 * index)).toNat = 2 ^ (8 * index) * byte.toNat := by
        rw [BitVec.toNat_shiftLeft, widened, Nat.shiftLeft_eq, Nat.mul_comm]
        exact Nat.mod_eq_of_lt (Nat.lt_of_lt_of_le fits inside)
      -- No bit is in both words, so joining them is adding them.
      have joined : (gathered ||| byte.toBitVec.setWidth 64 <<< (8 * index)).toNat =
          gathered.toNat + 2 ^ (8 * index) * byte.toNat := by
        rw [BitVec.toNat_or, raised, Nat.or_comm, ← Nat.two_pow_add_eq_or_of_lt low, Nat.add_comm]
      have below : gathered.toNat + 2 ^ (8 * index) * byte.toNat < 2 ^ (8 * (index + 1)) := by
        have step : 2 ^ (8 * index) * (byte.toNat + 1) ≤ 2 ^ (8 * index) * 256 := Nat.mul_le_mul_left _ bound
        rw [Nat.mul_succ] at step
        omega
      obtain ⟨word, found, value⟩ := ih (index + 1) _ (by omega) (joined ▸ below)
      refine ⟨word, ?_, ?_⟩
      · rw [gather, shifted_within _ _ _ narrow]
        exact found
      · rw [value, joined, scale, Word.ofBytes, Nat.mul_add, Nat.add_assoc, Nat.mul_assoc]

theorem bytes_through_spanned (report : Bytes) (offset width : Nat) (positive : 0 < width)
    (inside : offset + width ≤ 8 * report.length) :
    bytesThrough report (offset / 8) ((offset + width - 1) / 8) = some (spanned report offset width) :=
  if_pos (by omega)

theorem spanned_length (report : Bytes) (offset width : Nat) (narrow : width ≤ 32) :
    (spanned report offset width).length ≤ 5 := by
  have taken := List.length_take_le ((offset + width - 1) / 8 + 1 - offset / 8) (report.drop (offset / 8))
  rw [spanned]
  omega

theorem masked (word : BitVec 64) (width : Nat) (narrow : width ≤ 32) :
    ((word &&& ((1 : BitVec 64) <<< width - 1)).setWidth 32).toNat = word.toNat % 2 ^ width := by
  have small : 2 ^ width ≤ 2 ^ 32 := Nat.pow_le_pow_right (by decide) narrow
  have positive := Nat.two_pow_pos width
  have above : ((1 : BitVec 64) <<< width).toNat = 2 ^ width := by
    rw [BitVec.toNat_shiftLeft, Nat.shiftLeft_eq]
    exact (congrArg (· % 2 ^ 64) (Nat.one_mul _)).trans (Nat.mod_eq_of_lt (by omega))
  have mask : ((1 : BitVec 64) <<< width - 1).toNat = 2 ^ width - 1 := by
    rw [BitVec.toNat_sub_of_le, above]
    · rfl
    · rw [BitVec.le_def, above]
      exact positive
  have bound := Nat.mod_lt word.toNat positive
  rw [BitVec.toNat_setWidth, BitVec.toNat_and, mask, Nat.and_two_pow_sub_one_eq_mod]
  exact Nat.mod_eq_of_lt (by omega)

theorem behind_eq (offset width : BitVec 32) : (behind offset width).toNat = offset.toNat + width.toNat := by
  have offsetBound := offset.isLt
  have widthBound := width.isLt
  rw [behind, BitVec.toNat_add, BitVec.toNat_setWidth, BitVec.toNat_setWidth]
  omega

theorem word_field_exact (report : Bytes) (offset width : BitVec 32) (positive : 0 < width.toNat)
    (narrow : width.toNat ≤ 32) (inside : offset.toNat + width.toNat ≤ 8 * report.length) :
    ∃ word, wordField report offset width = some word ∧
      readUnsigned report offset.toNat width.toNat = .ok word.toNat := by
  have first : (offset / 8).toNat = offset.toNat / 8 := BitVec.toNat_udiv
  have last : ((behind offset width - 1) / 8).toNat = (offset.toNat + width.toNat - 1) / 8 := by
    rw [BitVec.toNat_udiv, BitVec.toNat_sub_of_le, behind_eq]
    · rfl
    · rw [BitVec.le_def, behind_eq]
      exact Nat.le_add_left_of_le positive
  have alignment : (offset % 8).toNat = offset.toNat % 8 := BitVec.toNat_umod
  have few := spanned_length report offset.toNat width.toNat narrow
  obtain ⟨gathered, found, value⟩ := gather_exact (spanned report offset.toNat width.toNat) 0 0 (by omega) (by decide)
  have none : width.toNat ≠ 0 := Nat.ne_of_gt positive
  refine ⟨((gathered >>> (offset.toNat % 8) &&& ((1 : BitVec 64) <<< width.toNat - 1)).setWidth 32), ?_, ?_⟩
  · rw [wordField, first, last, bytes_through_spanned report _ _ positive inside, alignment]
    simp only [Option.bind_eq_bind, Option.bind_some, found]
    rw [shifted_within _ gathered _ (by omega), Option.bind_some, shifted_within _ 1 _ (by omega), Option.bind_some]
  · have exact : gathered.toNat = Word.ofBytes (spanned report offset.toNat width.toNat) := by simpa using value
    rw [masked _ _ narrow, BitVec.toNat_ushiftRight, Nat.shiftRight_eq_div_pow, exact, readUnsigned, if_neg none,
      if_neg (Nat.not_lt.mpr narrow), if_neg (Nat.not_lt.mpr inside), Word.span_eq, Word.span_eq]

theorem word_unsigned_eq (report : Bytes) (offset width : BitVec 32) :
    (wordUnsigned report offset width).map (Except.map BitVec.toNat) =
      some (readUnsigned report offset.toNat width.toNat) := by
  have zero : width = 0 ↔ width.toNat = 0 := BitVec.toNat_inj.symm
  rw [wordUnsigned, behind_eq]
  by_cases none : width.toNat = 0
  · rw [if_pos (zero.mpr none), readUnsigned, if_pos none]
    rfl
  rw [if_neg (mt zero.mp none)]
  by_cases wide : 32 < width.toNat
  · rw [if_pos wide, readUnsigned, if_neg none, if_pos wide]
    rfl
  rw [if_neg wide]
  by_cases short : 8 * report.length < offset.toNat + width.toNat
  · rw [if_pos short, readUnsigned, if_neg none, if_neg wide, if_pos short]
    rfl
  obtain ⟨word, found, read⟩ :=
    word_field_exact report offset width (Nat.pos_of_ne_zero none) (Nat.not_lt.mp wide) (Nat.not_lt.mp short)
  rw [if_neg short, found, read]
  rfl

theorem lowered_signed (word : BitVec 32) (width : Nat) (narrow : width ≤ 32) (fits : word.toNat < 2 ^ width) :
    ((word <<< (32 - width)).sshiftRight (32 - width)).toInt = Word.toSigned width word.toNat := by
  have positive := Nat.two_pow_pos (32 - width)
  have scale : 2 ^ 32 = 2 ^ width * 2 ^ (32 - width) := by
    rw [← Nat.pow_add, Nat.add_sub_cancel' narrow]
  have raised : (word <<< (32 - width)).toNat = word.toNat * 2 ^ (32 - width) := by
    rw [BitVec.toNat_shiftLeft, Nat.shiftLeft_eq]
    refine Nat.mod_eq_of_lt ?_
    rw [scale]
    exact Nat.mul_lt_mul_of_pos_right fits positive
  -- The raised word is below half of 2 ^ 32 exactly when the field is below half of its own range.
  have sign : 2 * (word.toNat * 2 ^ (32 - width)) < 2 ^ 32 ↔ 2 * word.toNat < 2 ^ width := by
    rw [scale, ← Nat.mul_assoc]
    exact Nat.mul_lt_mul_right positive
  rw [BitVec.toInt_sshiftRight, Int.shiftRight_eq_div_pow, BitVec.toInt_eq_toNat_cond, raised, Word.toSigned, Word.span_eq]
  simp only [sign]
  have lowered (value : Int) : value * (2 ^ (32 - width) : Nat) / (2 ^ (32 - width) : Nat) = value :=
    Int.mul_ediv_cancel value (by exact_mod_cast Nat.ne_of_gt positive)
  split
  · rw [Int.natCast_mul, lowered]
  · rw [scale, Int.natCast_mul, Int.natCast_mul, ← Int.sub_mul, lowered]

theorem word_signed_eq (report : Bytes) (offset width : BitVec 32) :
    (wordSigned report offset width).map (Except.map BitVec.toInt) =
      some (readSigned report offset.toNat width.toNat) := by
  obtain ⟨outcome, found, exact⟩ := Option.map_eq_some_iff.mp (word_unsigned_eq report offset width)
  rw [wordSigned, readSigned, found, ← exact]
  cases outcome with
  | error error => rfl
  | ok raw =>
      have read : readUnsigned report offset.toNat width.toNat = .ok raw.toNat := exact.symm
      have fits := read_unsigned_lt report _ _ _ read
      rw [Word.span_eq] at fits
      have narrow : width.toNat ≤ 32 := by
        rcases readable_of_read report _ _ _ read with none | ⟨narrow, _⟩
        · omega
        · exact narrow
      simp only [Option.bind_eq_bind, Option.bind_some, Except.map]
      by_cases whole : width = 0 ∨ width = 32
      · rw [if_pos whole]
        refine congrArg (some ∘ Except.ok) ?_
        rcases whole with rfl | rfl
        · have zero : raw = 0 := BitVec.eq_of_toNat_eq (by simpa using fits)
          rw [zero]
          rfl
        · exact BitVec.toInt_eq_toNat_cond raw
      · have partly : width.toNat ≠ 0 ∧ width.toNat ≠ 32 := by
          rw [not_or] at whole
          exact ⟨fun zero => whole.1 (BitVec.eq_of_toNat_eq zero), fun all => whole.2 (BitVec.eq_of_toNat_eq all)⟩
        have lacks : (32 - width).toNat = 32 - width.toNat := by
          rw [BitVec.toNat_sub_of_le]
          · rfl
          · exact BitVec.le_def.mpr narrow
        rw [if_neg whole, lacks, shifted_within _ raw _ (by omega), Option.bind_some,
          shifted_within _ _ _ (by omega), Option.bind_some, Option.map_some]
        exact congrArg (some ∘ Except.ok) (lowered_signed raw width.toNat narrow fits)

-- That the words have a result at all says that each index lies in the report and each shift in its word.
theorem reads_exact (report : Bytes) (offset width : BitVec 32) :
    readUnsigned report offset.toNat width.toNat =
      (if width.toNat = 0 then .ok 0
      else if 32 < width.toNat then .error (.tooWide width.toNat)
      else if 8 * report.length < offset.toNat + width.toNat then
        .error (.outOfBounds offset.toNat width.toNat report.length)
      else .ok (Word.ofBytes report / 2 ^ offset.toNat % 2 ^ width.toNat)) ∧
    (∀ error, readSigned report offset.toNat width.toNat = .error error ↔
      readUnsigned report offset.toNat width.toNat = .error error) ∧
    (∀ value, readSigned report offset.toNat width.toNat = .ok value ↔
      ∃ raw, readUnsigned report offset.toNat width.toNat = .ok raw ∧ Word.StandsFor width.toNat raw value) ∧
    (wordUnsigned report offset width).map (Except.map BitVec.toNat) =
      some (readUnsigned report offset.toNat width.toNat) ∧
    (wordSigned report offset width).map (Except.map BitVec.toInt) =
      some (readSigned report offset.toNat width.toNat) := by
  refine ⟨read_unsigned_eq report _ _, fun error => ?_, fun value => ?_, word_unsigned_eq report offset width,
    word_signed_eq report offset width⟩
  · rw [readSigned]
    cases readUnsigned report offset.toNat width.toNat <;> simp [Except.map]
  · rw [readSigned]
    cases read : readUnsigned report offset.toNat width.toNat with
    | error error => simp [Except.map]
    | ok raw =>
        have only := Word.stands_for_iff width.toNat raw value (read_unsigned_lt report _ _ _ read)
        simp only [Except.map, Except.ok.injEq, exists_eq_left', only]
        exact eq_comm

example : wordUnsigned [0xF0, 0xFF, 0xFF, 0xFF, 0x0F] 4 32 = some (.ok 4294967295) := by decide

end HidRelay.Report
