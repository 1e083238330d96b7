/-!
# Directions

The four compass directions of the tile grid and the sets of them a character may walk in. A
direction is one bit, West `1`, East `2`, North `4` and South `8`; a set is the sum of its bits,
so the sets are the numbers `0` to `15`. Listing a set goes in bit order.
-/

namespace Parley

/-- A compass direction. -/
inductive Direction where
  | west
  | east
  | north
  | south
  deriving DecidableEq, Repr, Inhabited

namespace Direction

/-- All directions, in bit order. -/
def all : List Direction := [.west, .east, .north, .south]

/-- The bit of a direction. -/
def bit : Direction → Nat
  | .west => 1
  | .east => 2
  | .north => 4
  | .south => 8

/-- The direction of a single bit. -/
def ofBit? : Nat → Option Direction
  | 1 => some .west
  | 2 => some .east
  | 4 => some .north
  | 8 => some .south
  | _ => none

/-- The name of a direction. -/
def name : Direction → String
  | .west => "West"
  | .east => "East"
  | .north => "North"
  | .south => "South"

/-- The direction of a name. -/
def ofName? : String → Option Direction
  | "West" => some .west
  | "East" => some .east
  | "North" => some .north
  | "South" => some .south
  | _ => none

end Direction

/-- A set of directions. -/
structure Directions where
  west : Bool
  east : Bool
  north : Bool
  south : Bool
  deriving DecidableEq, Repr, Inhabited

namespace Directions

/-- The empty set. -/
def empty : Directions := ⟨false, false, false, false⟩

/-- The set of one direction. -/
def single : Direction → Directions
  | .west => ⟨true, false, false, false⟩
  | .east => ⟨false, true, false, false⟩
  | .north => ⟨false, false, true, false⟩
  | .south => ⟨false, false, false, true⟩

def contains (d : Directions) : Direction → Bool
  | .west => d.west
  | .east => d.east
  | .north => d.north
  | .south => d.south

/-- The members, in bit order. -/
def toList (d : Directions) : List Direction := Direction.all.filter d.contains

def isEmpty (d : Directions) : Bool := d.toList.isEmpty

/-- The sum of the bits of the members. -/
def bits (d : Directions) : Nat := (d.toList.map Direction.bit).foldl (· + ·) 0

/-- The set of a bit pattern, which must be below `16`. -/
def ofBits? (n : Nat) : Option Directions :=
  if n < 16 then some ⟨n.testBit 0, n.testBit 1, n.testBit 2, n.testBit 3⟩ else none

end Directions

end Parley
