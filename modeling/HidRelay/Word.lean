set_option autoImplicit false

namespace HidRelay

abbrev Bytes := List UInt8

namespace Word

def span (width : Nat) : Nat := 1 <<< width

theorem span_pos (width : Nat) : 0 < span width := by
  simp only [span, Nat.one_shiftLeft]
  exact Nat.two_pow_pos width

theorem span_add (left right : Nat) : span (left + right) = span left * span right := by
  simp only [span, Nat.one_shiftLeft]
  exact Nat.pow_add 2 left right

def ofBytes : Bytes → Nat
  | [] => 0
  | byte :: rest => byte.toNat + 256 * ofBytes rest

theorem of_bytes_lt (bytes : Bytes) : ofBytes bytes < span (8 * bytes.length) := by
  induction bytes with
  | nil => decide
  | cons byte rest ih =>
      have bound := byte.toNat_lt
      have wider : span (8 * (byte :: rest).length) = span (8 * rest.length) * 256 := span_add (8 * rest.length) 8
      rw [wider, ofBytes]
      omega

-- The two's complement number whose low `width` bits are `value`.
def toSigned (width value : Nat) : Int :=
  if 2 * value < span width then value else (value : Int) - span width

theorem to_signed_bounds (width value : Nat) (fits : value < span width) :
    -(span width : Int) ≤ 2 * toSigned width value ∧ 2 * toSigned width value < span width := by
  unfold toSigned
  split <;> omega

def clamp (low high value : Int) : Int := max low (min high value)

theorem clamp_bounds (low high value : Int) (ordered : low ≤ high) :
    low ≤ clamp low high value ∧ clamp low high value ≤ high := by
  unfold clamp
  omega

theorem clamp_of_within (low high value : Int) (above : low ≤ value) (below : value ≤ high) :
    clamp low high value = value := by
  unfold clamp
  omega

def least : Int := -2147483648
def greatest : Int := 2147483647

def cappedAdd (left right : Int) : Int := clamp least greatest (left + right)
def cappedNeg (value : Int) : Int := clamp least greatest (-value)

def hexadecimal (width value : Nat) : String :=
  let digits := Nat.toDigits 16 value
  String.ofList (List.replicate (width - digits.length) '0' ++ digits)

end Word
end HidRelay
