import Parley.Binary.Arith

/-!
# Single and double precision values

`Binary32` and `Binary64` hold the bit pattern of a datum of the 32-bit and the 64-bit format.
Widening a single to a double is exact; narrowing rounds to nearest, ties to even, and sends
magnitudes past the single range to infinity. The arithmetic is that of `Parley.Binary.Format`.
-/

namespace Parley

open Binary

/-- A value of the 32-bit binary format, kept as its bit pattern. -/
structure Binary32 where
  bits : UInt32
  deriving DecidableEq, Repr, Inhabited

/-- A value of the 64-bit binary format, kept as its bit pattern. -/
structure Binary64 where
  bits : UInt64
  deriving DecidableEq, Repr, Inhabited

namespace Binary32

/-- The value of a pattern, taken modulo `2 ^ 32`. -/
def ofPattern (n : Nat) : Binary32 := ⟨UInt32.ofNat n⟩

/-- The pattern as a natural number. -/
def pattern (x : Binary32) : Nat := x.bits.toNat

/-- What the pattern denotes. -/
def datum (x : Binary32) : Datum := Format.single.decode x.pattern

/-- The single nearest to `(-1) ^ negative * num / den * 2 ^ scale`. -/
def round (negative : Bool) (num den : Nat) (scale : Int) : Binary32 :=
  ofPattern (Format.single.round negative num den scale)

/-- Positive zero. -/
def zero : Binary32 := ⟨0⟩

/-- The quiet NaN. -/
def nan : Binary32 := ofPattern Format.single.quietNaN

/-- The infinity of the given sign. -/
def infinity (negative : Bool) : Binary32 := ofPattern (Format.single.infinity negative)

/-- The single nearest to a natural number. -/
def ofNat (n : Nat) : Binary32 := round false n 1 0

/-- The gap between `1` and the next single, `2 ^ -23`. -/
def epsilon : Binary32 := round false 1 1 (-23)

def isNaN (x : Binary32) : Bool :=
  match x.datum with
  | .nan => true
  | _ => false

def neg (x : Binary32) : Binary32 := ofPattern (Format.single.negate x.pattern)

/-- The magnitude: the sign bit cleared. -/
def abs (x : Binary32) : Binary32 :=
  if Format.single.isNegative x.pattern then x.neg else x

def add (x y : Binary32) : Binary32 := ofPattern (Format.single.add x.pattern y.pattern)
def sub (x y : Binary32) : Binary32 := ofPattern (Format.single.sub x.pattern y.pattern)
def mul (x y : Binary32) : Binary32 := ofPattern (Format.single.mul x.pattern y.pattern)
def div (x y : Binary32) : Binary32 := ofPattern (Format.single.div x.pattern y.pattern)
def sqrt (x : Binary32) : Binary32 := ofPattern (Format.single.sqrt x.pattern)

instance : Add Binary32 := ⟨add⟩
instance : Sub Binary32 := ⟨sub⟩
instance : Mul Binary32 := ⟨mul⟩
instance : Div Binary32 := ⟨div⟩
instance : Neg Binary32 := ⟨neg⟩

/-- The numeric order; `none` when either side is a NaN. -/
def compare? (x y : Binary32) : Option Ordering := Format.single.compare? x.pattern y.pattern

/-- `x < y`; false when either side is a NaN. -/
def lt (x y : Binary32) : Bool := x.compare? y == some .lt

/-- `x ≤ y`; false when either side is a NaN. -/
def le (x y : Binary32) : Bool := x.compare? y == some .lt || x.compare? y == some .eq

/-- Numeric equality: the two zeros are equal and a NaN equals nothing. -/
def eqNum (x y : Binary32) : Bool := x.compare? y == some .eq

/-- `x` moved into `[lo, hi]`: below `lo` it becomes `lo`, above `hi` it becomes `hi`, and a
NaN stays a NaN. -/
def clamp (x lo hi : Binary32) : Binary32 :=
  if x.lt lo then lo else if hi.lt x then hi else x

end Binary32

namespace Binary64

/-- The value of a pattern, taken modulo `2 ^ 64`. -/
def ofPattern (n : Nat) : Binary64 := ⟨UInt64.ofNat n⟩

/-- The pattern as a natural number. -/
def pattern (x : Binary64) : Nat := x.bits.toNat

/-- What the pattern denotes. -/
def datum (x : Binary64) : Datum := Format.double.decode x.pattern

/-- The double nearest to `(-1) ^ negative * num / den * 2 ^ scale`. -/
def round (negative : Bool) (num den : Nat) (scale : Int) : Binary64 :=
  ofPattern (Format.double.round negative num den scale)

/-- Positive zero. -/
def zero : Binary64 := ⟨0⟩

/-- The quiet NaN. -/
def nan : Binary64 := ofPattern Format.double.quietNaN

/-- The infinity of the given sign. -/
def infinity (negative : Bool) : Binary64 := ofPattern (Format.double.infinity negative)

/-- The double nearest to a natural number. -/
def ofNat (n : Nat) : Binary64 := round false n 1 0

/-- The double nearest to an integer. -/
def ofInt (n : Int) : Binary64 := round (n < 0) n.natAbs 1 0

def isNaN (x : Binary64) : Bool :=
  match x.datum with
  | .nan => true
  | _ => false

/-- Neither a NaN nor an infinity. -/
def isFinite (x : Binary64) : Bool :=
  match x.datum with
  | .finite .. => true
  | _ => false

def neg (x : Binary64) : Binary64 := ofPattern (Format.double.negate x.pattern)

def add (x y : Binary64) : Binary64 := ofPattern (Format.double.add x.pattern y.pattern)
def mul (x y : Binary64) : Binary64 := ofPattern (Format.double.mul x.pattern y.pattern)
def div (x y : Binary64) : Binary64 := ofPattern (Format.double.div x.pattern y.pattern)

/-- The numeric order; `none` when either side is a NaN. -/
def compare? (x y : Binary64) : Option Ordering := Format.double.compare? x.pattern y.pattern

/-- Numeric equality: the two zeros are equal and a NaN equals nothing. -/
def eqNum (x y : Binary64) : Bool := x.compare? y == some .eq

/-- The numeric order, false when either side is a NaN. -/
def lt (x y : Binary64) : Bool := x.compare? y == some .lt

/-- The nearest single: a NaN stays a NaN, an infinity keeps its sign. -/
def toBinary32 (x : Binary64) : Binary32 :=
  match x.datum with
  | .nan => Binary32.nan
  | .infinite s => Binary32.infinity s
  | .finite s m e => Binary32.round s m 1 e

end Binary64

/-- The same number as a double; every single is one. -/
def Binary32.toBinary64 (x : Binary32) : Binary64 :=
  match x.datum with
  | .nan => Binary64.nan
  | .infinite s => Binary64.infinity s
  | .finite s m e => Binary64.round s m 1 e

end Parley
