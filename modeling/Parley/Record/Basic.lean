import Parley.Binary.Value

/-!
# Records

A `Record` is a small keyed store used to save and restore the state of a character. Each key
holds one `Cell`: a boolean, a 64-bit integer, a double, a string or a nested record. The
entries are kept in increasing key order, each key once, so that two records with the same
contents are equal and print alike; `Record.put` replaces the cell of a key already present.

Typed reads fail with a `Record.Error`: the key is missing, its cell has another kind, or its
integer does not fit the width asked for.
-/

namespace Parley

/-- A value stored under a key. A nested record is its list of entries. -/
inductive Cell where
  | bool (b : Bool)
  | integer (n : Int64)
  | float (x : Binary64)
  | string (s : String)
  | record (entries : List (String × Cell))
  deriving Inhabited

namespace Cell

mutual

/-- Equality of cells is decided field by field. -/
def decEq : (a b : Cell) → Decidable (a = b)
  | .bool x, .bool y =>
    if h : x = y then isTrue (by rw [h]) else isFalse (by intro e; injection e; contradiction)
  | .integer x, .integer y =>
    if h : x = y then isTrue (by rw [h]) else isFalse (by intro e; injection e; contradiction)
  | .float x, .float y =>
    if h : x = y then isTrue (by rw [h]) else isFalse (by intro e; injection e; contradiction)
  | .string x, .string y =>
    if h : x = y then isTrue (by rw [h]) else isFalse (by intro e; injection e; contradiction)
  | .record xs, .record ys =>
    match decEntries xs ys with
    | isTrue h => isTrue (by rw [h])
    | isFalse h => isFalse (by intro e; injection e; contradiction)
  | .bool _, .integer _ | .bool _, .float _ | .bool _, .string _ | .bool _, .record _
  | .integer _, .bool _ | .integer _, .float _ | .integer _, .string _ | .integer _, .record _
  | .float _, .bool _ | .float _, .integer _ | .float _, .string _ | .float _, .record _
  | .string _, .bool _ | .string _, .integer _ | .string _, .float _ | .string _, .record _
  | .record _, .bool _ | .record _, .integer _ | .record _, .float _ | .record _, .string _ =>
    isFalse nofun

/-- Equality of entry lists is decided entry by entry. -/
def decEntries : (xs ys : List (String × Cell)) → Decidable (xs = ys)
  | [], [] => isTrue rfl
  | [], _ :: _ | _ :: _, [] => isFalse nofun
  | (k, a) :: xs, (l, b) :: ys =>
    if hk : k = l then
      match decEq a b, decEntries xs ys with
      | isTrue ha, isTrue hr => isTrue (by rw [hk, ha, hr])
      | isFalse ha, _ => isFalse (by intro e; injection e with e1 e2; injection e1; contradiction)
      | _, isFalse hr => isFalse (by intro e; injection e with e1 e2; contradiction)
    else isFalse (by intro e; injection e with e1 e2; injection e1; contradiction)

end

instance : DecidableEq Cell := decEq

/-- The kinds of cells, as named in messages. -/
inductive Kind where
  | bool
  | integer
  | float
  | string
  | record
  deriving DecidableEq, Repr

/-- The name of a kind. -/
def Kind.name : Kind → String
  | .bool => "bool"
  | .integer => "integer"
  | .float => "float"
  | .string => "string"
  | .record => "record"

/-- The kind of a cell. -/
def kind : Cell → Kind
  | .bool _ => .bool
  | .integer _ => .integer
  | .float _ => .float
  | .string _ => .string
  | .record _ => .record

end Cell

/-- Entries in increasing key order, each key once. -/
structure Record where
  entries : List (String × Cell)
  deriving DecidableEq, Inhabited

/-- Why a typed read of a record failed. -/
inductive Record.Error where
  | missing (key : String)
  | typeMismatch (key : String) (found expected : Cell.Kind)
  /-- The integer does not fit; `expected` names the range. -/
  | outOfRange (key : String) (value : Int) (expected : String)
  deriving DecidableEq, Repr

namespace Record

/-- The text of an error. -/
def Error.message : Error → String
  | .missing key => s!"Record has no field named '{key}'"
  | .typeMismatch key found expected =>
    s!"Record field '{key}' is a {found.name}, expected {expected.name}"
  | .outOfRange key value expected =>
    s!"Record field '{key}' holds {value}, which is out of range for {expected}"

/-- The record without entries. -/
def empty : Record := ⟨[]⟩

/-- Insert an entry before the first larger key, replacing the entry of an equal key. -/
def insertEntry (key : String) (cell : Cell) : List (String × Cell) → List (String × Cell)
  | [] => [(key, cell)]
  | (k, c) :: rest =>
    if key < k then (key, cell) :: (k, c) :: rest
    else if key = k then (key, cell) :: rest
    else (k, c) :: insertEntry key cell rest

/-- Store a cell under a key, replacing what the key held. -/
def put (r : Record) (key : String) (cell : Cell) : Record := ⟨insertEntry key cell r.entries⟩

/-- The cell under a key. -/
def get? (r : Record) (key : String) : Option Cell := r.entries.lookup key

/-- Whether a key holds a cell. -/
def contains (r : Record) (key : String) : Bool := (r.get? key).isSome

/-- The keys, in increasing order. -/
def keys (r : Record) : List String := r.entries.map (·.1)

/-- The number of keys. -/
def size (r : Record) : Nat := r.entries.length

/-- Whether there are no keys. -/
def isEmpty (r : Record) : Bool := r.entries.isEmpty

/-- A record from entries in any order; a later entry of a key replaces an earlier one. -/
def ofList (entries : List (String × Cell)) : Record :=
  entries.foldl (fun r (k, c) => r.put k c) empty

def putBool (r : Record) (key : String) (b : Bool) : Record := r.put key (.bool b)
def putInteger (r : Record) (key : String) (n : Int64) : Record := r.put key (.integer n)
def putString (r : Record) (key : String) (s : String) : Record := r.put key (.string s)
def putRecord (r : Record) (key : String) (inner : Record) : Record :=
  r.put key (.record inner.entries)

/-- Store a single as the double of the same value. -/
def putSingle (r : Record) (key : String) (x : Binary32) : Record :=
  r.put key (.float x.toBinary64)

/-- Store a natural number of a narrower width as an integer. -/
def putNat (r : Record) (key : String) (n : Nat) : Record :=
  r.put key (.integer (Int64.ofNat n))

/-- The cell of a key that must be present. -/
def require (r : Record) (key : String) : Except Error Cell :=
  match r.get? key with
  | some c => .ok c
  | none => .error (.missing key)

def getBool (r : Record) (key : String) : Except Error Bool := do
  match (← r.require key) with
  | .bool b => pure b
  | c => throw (.typeMismatch key c.kind .bool)

def getInteger (r : Record) (key : String) : Except Error Int64 := do
  match (← r.require key) with
  | .integer n => pure n
  | c => throw (.typeMismatch key c.kind .integer)

/-- An integer that must lie in `[lo, hi]`; `name` names the range in the error. -/
def getRanged (r : Record) (key : String) (lo hi : Int) (name : String) : Except Error Int := do
  let n := (← r.getInteger key).toInt
  if lo ≤ n ∧ n ≤ hi then pure n else throw (.outOfRange key n name)

def getInt32 (r : Record) (key : String) : Except Error Int32 := do
  return Int32.ofInt (← r.getRanged key (-(Nat.pow 2 31)) (Nat.pow 2 31 - 1) "i32")

def getUInt16 (r : Record) (key : String) : Except Error UInt16 := do
  return UInt16.ofNat (← r.getRanged key 0 (Nat.pow 2 16 - 1) "u16").toNat

def getUInt32 (r : Record) (key : String) : Except Error UInt32 := do
  return UInt32.ofNat (← r.getRanged key 0 (Nat.pow 2 32 - 1) "u32").toNat

/-- A single: a double rounded to the nearest single, or an integer rounded likewise. -/
def getSingle (r : Record) (key : String) : Except Error Binary32 := do
  match (← r.require key) with
  | .float x => pure x.toBinary32
  | .integer n => pure (Binary32.round (n.toInt < 0) n.toInt.natAbs 1 0)
  | c => throw (.typeMismatch key c.kind .float)

def getString (r : Record) (key : String) : Except Error String := do
  match (← r.require key) with
  | .string s => pure s
  | c => throw (.typeMismatch key c.kind .string)

def getRecord (r : Record) (key : String) : Except Error Record := do
  match (← r.require key) with
  | .record entries => pure ⟨entries⟩
  | c => throw (.typeMismatch key c.kind .record)

/-- A nested record that may be absent; present, it must be a record. -/
def getRecord? (r : Record) (key : String) : Except Error (Option Record) :=
  match r.get? key with
  | none => pure none
  | some (.record entries) => pure (some ⟨entries⟩)
  | some c => throw (.typeMismatch key c.kind .record)

end Record

end Parley
