/-!
# Words

The ranges of whole numbers that a given number of bits can hold, with and without a sign.
`fitsSigned_iff` and `fitsUnsigned_iff` say where they start and end.
-/

namespace SchemaBinder.Decimal

/-- Can so many bits hold a natural number? -/
def fits (bits n : Nat) : Bool := n < Nat.pow 2 bits

/-- Can so many bits without a sign hold a whole number? -/
def fitsUnsigned (bits : Nat) : Int → Bool
  | .ofNat n => fits bits n
  | .negSucc _ => false

/-- Can so many bits and a sign hold a whole number?  There is one negative number more than
there are positive ones. -/
def fitsSigned (bits : Nat) : Int → Bool
  | .ofNat n => fits bits n
  | .negSucc n => fits bits n

/-- A whole number in 64 bits without a sign. -/
def word? (n : Int) : Option UInt64 :=
  if fitsUnsigned 64 n then some (UInt64.ofNat n.toNat) else none

theorem fitsUnsigned_iff {bits : Nat} {n : Int} :
    fitsUnsigned bits n = true ↔ 0 ≤ n ∧ n < Nat.pow 2 bits := by
  cases n with
  | ofNat n =>
    simp only [fitsUnsigned, fits, decide_eq_true_eq, Int.ofNat_eq_natCast]
    omega
  | negSucc n =>
    simp only [fitsUnsigned, Bool.false_eq_true, false_iff]
    omega

theorem fitsSigned_iff {bits : Nat} {n : Int} :
    fitsSigned bits n = true ↔ -(Nat.pow 2 bits : Nat) ≤ n ∧ n < Nat.pow 2 bits := by
  cases n with
  | ofNat n =>
    simp only [fitsSigned, fits, decide_eq_true_eq, Int.ofNat_eq_natCast]
    omega
  | negSucc n =>
    simp only [fitsSigned, fits, decide_eq_true_eq]
    omega

end SchemaBinder.Decimal
