/-
Arrays: elements under texts. A key that is a whole number is found by that number as long as no
other key has been asked for, and by its text afterwards.

The keys of an array come out by their hashes (`Table.keys`): those of one hash with the one that
was asked for last in front. The more keys there are, the more digits of a hash count.
-/
import CSharpBuild.Machine.Launching.Awk.Value

namespace CSharpBuild.Machine.Launching.Awk

/-- A key: its text, and whether it is a whole number. -/
structure Key where
  text : String
  isNumber : Bool
  deriving Repr, DecidableEq

/-- An element, with the times at which it was last asked for by its number and by its text. -/
structure Cell where
  value : Value
  byNumber : Option Nat
  byText : Option Nat

/-- An array. -/
structure Table where
  cells : Std.HashMap String Cell
  /-- How many hashes are told apart. -/
  width : Nat
  /-- Whether the keys have texts. -/
  isSpelled : Bool
  clock : Nat

namespace Table

/-- The least width. -/
def leastWidth : Nat := 64

/-- An array without elements. -/
def empty : Table := ⟨{}, leastWidth, false, 0⟩

/-- The hash of a text: each octet is mixed in, and then all is multiplied. -/
def hash (text : String) : Nat :=
  (text.toList.foldl (fun h c => (h ^^^ UInt32.ofNat c.toNat) * 16777619)
    (2166136261 : UInt32)).toNat

/-- Put keys in order: by their place, and of those of one place the latest first. -/
def inOrder (keys : List (String × Nat × Nat)) : List String :=
  (keys.mergeSort fun (_, place, time) (_, place', time') =>
    place < place' || (place = place' && time' ≤ time)).map Prod.fst

/-- Give a text to each key that has only a number. -/
def spell (t : Table) : Table :=
  if t.isSpelled then t
  else
    let keys := t.cells.toList.map fun (key, cell) =>
      (key, ((key.toInt?.getD 0) % t.width).toNat, cell.byNumber.getD 0)
    let (cells, clock) := (inOrder keys).foldl (fun (cells, clock) key =>
      (cells.modify key fun cell => { cell with byText := some clock }, clock + 1))
      (t.cells, t.clock)
    { t with cells := cells, clock := clock, isSpelled := true }

/-- Make room for one more key. -/
def grow (t : Table) : Table :=
  if 2 * t.width < t.cells.size + 1 then { t with width := 2 * t.width } else t

/-- Prepare to be asked for a key. -/
def asked (t : Table) (key : Key) : Table := if key.isNumber then t else t.spell

/-- An element that was just asked for. -/
def touched (t : Table) (key : Key) (cell : Cell) : Cell :=
  if !key.isNumber then { cell with byText := some t.clock }
  else if cell.byNumber.isSome then { cell with byNumber := some t.clock }
  else { cell with byNumber := some t.clock, byText := some t.clock }

/-- Ask for an element. -/
def find? (t : Table) (key : Key) : Option Value × Table :=
  let t := t.asked key
  match t.cells[key.text]? with
  | none => (none, t)
  | some cell =>
    (some cell.value, { t with
      cells := t.cells.insert key.text (t.touched key cell), clock := t.clock + 1 })

/-- Set an element. -/
def put (t : Table) (key : Key) (value : Value) : Table :=
  let t := t.asked key
  match t.cells[key.text]? with
  | some cell => { t with
      cells := t.cells.insert key.text { t.touched key cell with value := value }
      clock := t.clock + 1 }
  | none =>
    let t := t.grow
    let cell : Cell := ⟨value, if key.isNumber then some t.clock else none,
      if t.isSpelled then some t.clock else none⟩
    { t with cells := t.cells.insert key.text cell, clock := t.clock + 1 }

/-- Remove an element. -/
def erase (t : Table) (key : Key) : Table :=
  let t := t.asked key
  let cells := t.cells.erase key.text
  if cells.isEmpty then empty else { t with cells := cells }

/-- The keys. -/
def keys (t : Table) : List String × Table :=
  let t := t.spell
  (inOrder (t.cells.toList.map fun (key, cell) =>
    (key, hash key % t.width, cell.byText.getD 0)), t)

/-- An array of values, from one on. -/
def ofList (values : List Value) : Table :=
  values.zipIdx.foldl (fun t (value, i) => t.put ⟨toString (i + 1), true⟩ value) empty

end Table

end CSharpBuild.Machine.Launching.Awk
