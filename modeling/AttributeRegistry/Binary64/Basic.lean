/-!
# Binary floating-point numbers

A double-precision number of IEEE 754, held as its 64 bits, with the comparison of that standard:
a number that is not a number differs from everything, itself included, and the two zeros are
equal.  Two values may thus be equal with different bits and unequal with the same.
-/

namespace AttributeRegistry

/-- A double-precision number: sign, eleven bits of exponent, fifty-two of fraction. -/
structure Binary64 where
  bits : UInt64
  deriving DecidableEq, Repr

namespace Binary64

/-- Whether the sign bit is set. -/
def isNegative (x : Binary64) : Bool := x.bits >>> 63 == 1

/-- The encoding without the sign. -/
def magnitude (x : Binary64) : Nat := (x.bits &&& 0x7FFFFFFFFFFFFFFF).toNat

/-- The magnitude of infinity; whatever lies above it is not a number. -/
def infinity : Nat := 0x7FF <<< 52

/-- Whether the encoding stands for no number. -/
def isNaN (x : Binary64) : Bool := infinity < x.magnitude

/-- Whether the number is zero, of either sign. -/
def isZero (x : Binary64) : Bool := x.magnitude == 0

/-- Equality of numbers. -/
instance : BEq Binary64 where
  beq x y := !x.isNaN && !y.isNaN && (x.bits == y.bits || (x.isZero && y.isZero))

/-- Numbers are listed by their encodings, so that equal ones with different bits and those that
are not numbers have a fixed place too; the negative ones come last. -/
instance : Ord Binary64 := ⟨fun x y => compare x.bits y.bits⟩

end Binary64

end AttributeRegistry
