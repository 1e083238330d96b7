import Parley.Proofs.Record.JsonValue

/-!
# Records through a JSON format

A record is written by turning it into its JSON value and printing that value, and read by reading
a JSON value and turning it into a record (`Record.ofJson?`). Printing and reading JSON text are
the JSON library's part, not the record's: they enter here as a `JsonFormat`, and what the records
rely on as `JsonFormat.Lawful`. A lawful format reads back the printed text of every value that
nests within its limit and holds only numbers it prints as themselves, each double as the double
its own printed text reads back as (`JsonFormat.reread`), which need not be the double printed.

Main statement (`json_text_round_trip`): a record whose keys increase at every depth, whose records
nest within the limit and whose doubles are finite reads back from its text as itself with each
double `x` replaced by `reread x`, so that every cell keeps its kind and every boolean, integer
and string its value; it comes back unchanged exactly when each of its doubles rereads as itself.
The printed integer of a field reads as an integer cell exactly when it lies in the signed 64-bit
range, and as a double otherwise.

## Implementation notes

`JsonFormat.rounding f` is the format whose text is the value itself and whose reading passes
every double through `f`. It is lawful for every `f`: with `f = id` it is an exact library, and
with an `f` that moves a double it is a lawful library under which some record does not come back.
-/

namespace Parley

/-- A number with every double `x` replaced by `f x`. -/
def Number.mapDouble (f : Binary64 → Binary64) : Number → Number
  | .double x => .double (f x)
  | .unsigned n => .unsigned n
  | .negative n => .negative n

/-- A number that JSON text holds as itself: an unsigned integer below `2 ^ 64`, a negative one
from `-2 ^ 63`, or a finite double. -/
def Number.Printable : Number → Prop
  | .unsigned n => n < 2 ^ 64
  | .negative n => -2 ^ 63 ≤ n ∧ n < 0
  | .double x => x.isFinite = true

namespace Json

mutual

/-- The numbers of a value, at every depth. -/
def numbers : Json → List Number
  | .number n => [n]
  | .array items => itemsNumbers items
  | .object fields => fieldsNumbers fields
  | .null | .bool _ | .string _ => []

/-- The numbers of some items, at every depth. -/
def itemsNumbers : List Json → List Number
  | [] => []
  | v :: rest => v.numbers ++ itemsNumbers rest

/-- The numbers of some fields' values, at every depth. -/
def fieldsNumbers : List (String × Json) → List Number
  | [] => []
  | (_, v) :: rest => v.numbers ++ fieldsNumbers rest

end

mutual

/-- How many levels of arrays and objects a value opens. -/
def depth : Json → Nat
  | .array items => itemsDepth items + 1
  | .object fields => fieldsDepth fields + 1
  | .null | .bool _ | .number _ | .string _ => 0

/-- How many levels the deepest of some items opens. -/
def itemsDepth : List Json → Nat
  | [] => 0
  | v :: rest => max v.depth (itemsDepth rest)

/-- How many levels the deepest of some fields' values opens. -/
def fieldsDepth : List (String × Json) → Nat
  | [] => 0
  | (_, v) :: rest => max v.depth (fieldsDepth rest)

end

mutual

/-- The value with every double `x` in it replaced by `f x`. -/
def mapDoubles (f : Binary64 → Binary64) : Json → Json
  | .number n => .number (n.mapDouble f)
  | .array items => .array (itemsMapDoubles f items)
  | .object fields => .object (fieldsMapDoubles f fields)
  | .null => .null
  | .bool b => .bool b
  | .string s => .string s

/-- Items with every double `x` in them replaced by `f x`. -/
def itemsMapDoubles (f : Binary64 → Binary64) : List Json → List Json
  | [] => []
  | v :: rest => v.mapDoubles f :: itemsMapDoubles f rest

/-- Fields with every double `x` in their values replaced by `f x`. -/
def fieldsMapDoubles (f : Binary64 → Binary64) : List (String × Json) → List (String × Json)
  | [] => []
  | (k, v) :: rest => (k, v.mapDoubles f) :: fieldsMapDoubles f rest

end

/-- An integer's number is unsigned or negative, so no double in it moves. -/
@[simp] theorem mapDouble_ofInt (f : Binary64 → Binary64) (n : Int) :
    (Number.ofInt n).mapDouble f = Number.ofInt n := by
  unfold Number.ofInt
  split <;> rfl

theorem printable_ofInt {n : Int} (hlo : -2 ^ 63 ≤ n) (hhi : n < 2 ^ 64) :
    (Number.ofInt n).Printable := by
  unfold Number.ofInt
  split
  · show n.toNat < 2 ^ 64
    omega
  · exact ⟨hlo, by omega⟩

end Json

/-- A JSON library as records use it: how it prints a value as text, how it reads a text back as
a value, and how many levels of arrays and objects a text it reads may open. -/
structure JsonFormat (τ : Type) where
  write : Json → τ
  read : τ → Option Json
  nestingLimit : Nat

namespace JsonFormat

variable {τ : Type} (F : JsonFormat τ)

/-- The double that the printed text of `x` reads back as, or `x` when it reads back as none. -/
def reread (x : Binary64) : Binary64 :=
  match F.read (F.write (.number (.double x))) with
  | some (.number (.double y)) => y
  | _ => x

/-- What records rely on: a value that opens fewer levels than the limit and holds only numbers
printed as themselves reads back from its text, each double as the double its own text reads back
as. Whole doubles are printed so that they read back as doubles, not integers. -/
structure Lawful : Prop where
  read_write : ∀ v : Json, v.depth < F.nestingLimit → (∀ n ∈ v.numbers, n.Printable) →
    F.read (F.write v) = some (v.mapDoubles F.reread)

/-- The format whose text is the value itself, read back with every double `x` turned into
`f x`, opening at most `limit` levels. -/
def rounding (f : Binary64 → Binary64) (limit : Nat) : JsonFormat Json :=
  ⟨id, fun v => some (v.mapDoubles f), limit⟩

@[simp] theorem reread_rounding (f : Binary64 → Binary64) (limit : Nat) (x : Binary64) :
    (rounding f limit).reread x = f x := by
  simp [reread, rounding, Json.mapDoubles, Number.mapDouble]

theorem rounding_lawful (f : Binary64 → Binary64) (limit : Nat) : (rounding f limit).Lawful where
  read_write v _ _ := by
    have hf : (rounding f limit).reread = f := funext (reread_rounding f limit)
    rw [hf]
    rfl

end JsonFormat

/-! ## Cells through their JSON values -/

namespace Cell

mutual

/-- A cell's JSON value opens as many levels as the cell opens records. -/
theorem depth_toJson : ∀ c : Cell, c.toJson.depth = c.depth
  | .record entries => by
      rw [toJson, Json.depth, depth, fieldsDepth_entriesToJson]
  | .bool _ | .integer _ | .float _ | .string _ => rfl

theorem fieldsDepth_entriesToJson :
    ∀ entries : List (String × Cell), Json.fieldsDepth (entriesToJson entries) = entriesDepth entries
  | [] => rfl
  | (_, c) :: rest => by
      rw [entriesToJson, Json.fieldsDepth, entriesDepth, depth_toJson c,
        fieldsDepth_entriesToJson rest]

end

mutual

/-- Replacing the doubles of a cell's JSON value is replacing the doubles of the cell. -/
theorem mapDoubles_toJson (f : Binary64 → Binary64) :
    ∀ c : Cell, c.toJson.mapDoubles f = (c.mapFloats f).toJson
  | .record entries => by
      rw [toJson, Json.mapDoubles, mapFloats, toJson, fieldsMapDoubles_entriesToJson]
  | .integer n => by
      simp only [toJson, mapFloats, Json.int, Json.mapDoubles, Json.mapDouble_ofInt]
  | .float x => by
      simp only [toJson, mapFloats, Json.double, Json.mapDoubles, Number.mapDouble]
  | .bool _ | .string _ => by
      simp only [toJson, Json.mapDoubles, mapFloats]

theorem fieldsMapDoubles_entriesToJson (f : Binary64 → Binary64) :
    ∀ entries : List (String × Cell),
      Json.fieldsMapDoubles f (entriesToJson entries) = entriesToJson (entriesMapFloats f entries)
  | [] => rfl
  | (k, c) :: rest => by
      rw [entriesToJson, Json.fieldsMapDoubles, mapDoubles_toJson f c,
        fieldsMapDoubles_entriesToJson f rest]
      rfl

end

mutual

/-- A cell whose doubles are finite has a JSON value whose numbers are all printed as themselves:
its integers lie in the signed 64-bit range. -/
theorem printable_toJson : ∀ c : Cell, (∀ x ∈ c.floats, x.isFinite = true) →
    ∀ n ∈ c.toJson.numbers, n.Printable
  | .record entries, h => by
      simp only [toJson, Json.numbers]
      exact printable_entriesToJson entries h
  | .integer i, _ => by
      intro n hn
      simp only [toJson, Json.int, Json.numbers, List.mem_singleton] at hn
      subst hn
      have hlo := i.le_toInt
      have hhi := i.toInt_lt
      exact Json.printable_ofInt (by omega) (by omega)
  | .float x, h => by
      intro n hn
      simp only [toJson, Json.double, Json.numbers, List.mem_singleton] at hn
      subst hn
      exact h x List.mem_cons_self
  | .bool _, _ | .string _, _ => fun _ hn => absurd hn List.not_mem_nil

theorem printable_entriesToJson : ∀ entries : List (String × Cell),
    (∀ x ∈ entriesFloats entries, x.isFinite = true) →
      ∀ n ∈ Json.fieldsNumbers (entriesToJson entries), n.Printable
  | [], _ => fun _ hn => absurd hn List.not_mem_nil
  | (_, c) :: rest, h => by
      simp only [entriesToJson, Json.fieldsNumbers]
      rw [entriesFloats, List.forall_mem_append] at h
      intro n hn
      rcases List.mem_append.mp hn with hn | hn
      · exact printable_toJson c h.1 n hn
      · exact printable_entriesToJson rest h.2 n hn

end

/-- The cell of a JSON number: an integer when it lies in the signed 64-bit range, and the
nearest double otherwise. -/
theorem ofJson?_int_of_lt {n : Int} (hlo : -2 ^ 63 ≤ n) :
    ofJson? (.int n) =
      some (if n < 2 ^ 63 then .integer (Int64.ofInt n) else .float (Binary64.ofNat n.toNat)) := by
  unfold Json.int Number.ofInt
  split
  · next hn =>
      rw [ofJson?]
      by_cases hlt : n < 2 ^ 63
      · have hle : n.toNat ≤ maxInteger := by
          simp only [maxInteger, Nat.pow_eq]
          omega
        obtain ⟨m, rfl⟩ := Int.eq_ofNat_of_zero_le hn
        rw [if_pos hle, if_pos hlt, Int.toNat_natCast, Int64.ofInt_eq_ofNat]
      · have hgt : ¬n.toNat ≤ maxInteger := by
          simp only [maxInteger, Nat.pow_eq]
          omega
        rw [if_neg hgt, if_neg hlt]
  · next hn =>
      rw [ofJson?, if_pos (by omega)]

end Cell

namespace Record

variable {τ : Type}

/-- The text of a record in a format: the printed text of its JSON value. -/
def writeIn (F : JsonFormat τ) (r : Record) : τ := F.write r.toJson

/-- The record a text holds in a format: the record its JSON value becomes. -/
def readIn (F : JsonFormat τ) (text : τ) : Option Record := (F.read text).bind ofJson?

theorem toJson_eq (r : Record) : r.toJson = (Cell.record r.entries).toJson := rfl

/-- A record whose keys increase at every depth becomes itself again from its JSON value. -/
theorem ofJson?_toJson (r : Record) (hord : r.Ordered) : ofJson? r.toJson = some r := by
  obtain ⟨entries⟩ := r
  obtain ⟨hasc, hentries⟩ := hord
  rw [toJson, ofJson?, Cell.entriesOfJson?_entriesToJson entries hentries, Option.map_some,
    ofList_of_ascending hasc]

theorem mapDoubles_toJson (f : Binary64 → Binary64) (r : Record) :
    r.toJson.mapDoubles f = (r.mapFloats f).toJson := by
  rw [toJson_eq, Cell.mapDoubles_toJson]
  rfl

/-- Through a lawful format, a record within the nesting limit and with finite doubles reads back
from its text with each double reread. -/
theorem readIn_writeIn {F : JsonFormat τ} (hF : F.Lawful) {r : Record} (hord : r.Ordered)
    (hdepth : r.depth < F.nestingLimit) (hfin : ∀ x ∈ r.floats, x.isFinite = true) :
    readIn F (writeIn F r) = some (r.mapFloats F.reread) := by
  have hjdepth : r.toJson.depth < F.nestingLimit := by
    rw [toJson_eq, Cell.depth_toJson]
    exact hdepth
  have hprint : ∀ n ∈ r.toJson.numbers, n.Printable := by
    rw [toJson_eq]
    exact Cell.printable_toJson (.record r.entries) hfin
  rw [readIn, writeIn, hF.read_write _ hjdepth hprint, Option.bind_some, mapDoubles_toJson]
  exact ofJson?_toJson _ (Cell.ordered_mapFloats F.reread _ hord)

/-- The field of one integer, within 64 bits, printed and read back: an integer cell when the
integer lies in the signed 64-bit range, the nearest double otherwise. -/
theorem readIn_write_int {F : JsonFormat τ} (hF : F.Lawful) (hlimit : 1 < F.nestingLimit)
    (key : String) {n : Int} (hlo : -2 ^ 63 ≤ n) (hhi : n < 2 ^ 64) :
    readIn F (F.write (.object [(key, .int n)])) =
      some ⟨[(key, if n < 2 ^ 63 then .integer (Int64.ofInt n)
        else .float (Binary64.ofNat n.toNat))]⟩ := by
  have hdepth : (Json.object [(key, .int n)]).depth < F.nestingLimit := hlimit
  have hprint : ∀ m ∈ (Json.object [(key, .int n)]).numbers, m.Printable := by
    intro m hm
    simp only [Json.numbers, Json.fieldsNumbers, Json.int, List.append_nil,
      List.mem_singleton] at hm
    subst hm
    exact Json.printable_ofInt hlo hhi
  have hread := hF.read_write _ hdepth hprint
  rw [readIn, hread, Option.bind_some]
  simp only [Json.mapDoubles, Json.fieldsMapDoubles, Json.int, Json.mapDouble_ofInt, ofJson?,
    Cell.entriesOfJson?]
  rw [← Json.int, Cell.ofJson?_int_of_lt hlo]
  rfl

/-- Records through the text of a JSON library, and integers through their printed text. Through
every lawful format, a record whose keys increase at every depth, whose records nest within the
format's limit and whose doubles are finite reads back from its text as itself with each double
`x` replaced by the double `x`'s own text reads back as, so that every cell keeps its kind and
every boolean, integer and string its value; it comes back unchanged exactly when each of its
doubles rereads as itself. A field holding an integer within 64 bits reads back as the integer
when the integer lies in the signed 64-bit range, and as the nearest double otherwise. -/
theorem json_text_round_trip (F : JsonFormat τ) (hF : F.Lawful) :
    (∀ r : Record, r.Ordered → r.depth < F.nestingLimit → (∀ x ∈ r.floats, x.isFinite = true) →
      readIn F (writeIn F r) = some (r.mapFloats F.reread) ∧
        (readIn F (writeIn F r) = some r ↔ ∀ x ∈ r.floats, F.reread x = x)) ∧
    (1 < F.nestingLimit → ∀ (key : String) (n : Int), -2 ^ 63 ≤ n → n < 2 ^ 64 →
      readIn F (F.write (.object [(key, .int n)])) =
        some ⟨[(key, if n < 2 ^ 63 then .integer (Int64.ofInt n)
          else .float (Binary64.ofNat n.toNat))]⟩) := by
  refine ⟨fun r hord hdepth hfin => ?_, fun hlimit key n hlo hhi =>
    readIn_write_int hF hlimit key hlo hhi⟩
  have hread := readIn_writeIn hF hord hdepth hfin
  refine ⟨hread, ?_⟩
  rw [hread, Option.some.injEq, mapFloats_eq_self_iff]

/-- A record of whole doubles, a negative zero, an integer and a nested string. -/
def saved : Record :=
  ⟨[("a", .bool true), ("b", .float (Binary64.ofNat 2)), ("c", .float Binary64.zero.neg),
    ("d", .integer (-5)), ("e", .record [("g", .string "x\"y")])]⟩

/-- Through an exact library the saved record comes back unchanged, and the printed integer
`2 ^ 63` reads back as a double. -/
theorem saved_record_reloads :
    readIn (JsonFormat.rounding id 128) (writeIn (JsonFormat.rounding id 128) saved) = some saved ∧
      readIn (JsonFormat.rounding id 128)
          ((JsonFormat.rounding id 128).write (.object [("a", .int (2 ^ 63))])) =
        some ⟨[("a", .float (Binary64.ofNat (2 ^ 63)))]⟩ := by
  obtain ⟨hrecord, hint⟩ := json_text_round_trip (JsonFormat.rounding id 128)
    (JsonFormat.rounding_lawful id 128)
  refine ⟨(hrecord saved (by decide) (by decide) (by decide)).2.mpr fun x _ => rfl, ?_⟩
  rw [hint (by decide) "a" (2 ^ 63) (by decide) (by decide)]
  rfl

/-- The double nearest to `3.9` as a single, widened. -/
def widenedSingle : Binary64 := ⟨0x400F333340000000⟩

/-- The double after it, which the library reads its shortest text `3.9000000953674316` as. -/
def nextAfterWidenedSingle : Binary64 := ⟨0x400F333340000001⟩

/-- A lawful library that reads the text of one double as the next double does not give back a
record holding that double. -/
theorem widened_single_reloads_changed :
    (JsonFormat.rounding (fun x => if x = widenedSingle then nextAfterWidenedSingle else x)
        128).Lawful ∧
      (⟨[("a", .float widenedSingle)]⟩ : Record).Ordered ∧
      (⟨[("a", .float widenedSingle)]⟩ : Record).depth < 128 ∧
      widenedSingle.isFinite = true ∧
      readIn (JsonFormat.rounding (fun x => if x = widenedSingle then nextAfterWidenedSingle else x)
          128)
        (writeIn (JsonFormat.rounding
          (fun x => if x = widenedSingle then nextAfterWidenedSingle else x) 128)
          ⟨[("a", .float widenedSingle)]⟩) =
        some ⟨[("a", .float nextAfterWidenedSingle)]⟩ ∧
      nextAfterWidenedSingle ≠ widenedSingle :=
  ⟨JsonFormat.rounding_lawful _ _, by decide, by decide, by decide, by decide, by decide⟩

end Record

end Parley
