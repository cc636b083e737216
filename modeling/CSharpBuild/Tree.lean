/-
Trees of keys and values, the common ground of the text formats: what a reader of JSON or TOML
delivers and what the decoders of this library take.

A table keeps its entries in order and may hold a key twice; a decoder that asks for such a key with
`Tree.field` is refused.
-/
import CSharpBuild.HostPath

namespace CSharpBuild

/-- How a table is written. -/
inductive TableForm where
  /-- As a JSON object. -/
  | object
  /-- As a TOML table in braces. -/
  | braced
  /-- As a TOML table under a header, or by dotted keys. -/
  | headed
  deriving Repr, DecidableEq

/-- A tree of values. -/
inductive Tree where
  | null
  | bool (value : Bool)
  | integer (value : Int)
  | real (digits : String)
  | date (text : String)
  | text (value : String)
  | list (items : List Tree)
  | table (form : TableForm) (entries : List (String × Tree))
  deriving Repr, Inhabited

namespace Tree

/-- Look a key up among the entries of a table. The outer `none` says that the key stands there more
than once. -/
def field (entries : List (String × Tree)) (key : String) : Option (Option Tree) :=
  match entries.filter (·.1 = key) with
  | [] => some none
  | [entry] => some (some entry.2)
  | _ => none

/-- Look a key up and decode its value; an absent key has the value `absent`. -/
def fieldOr {α : Type} (entries : List (String × Tree)) (key : String) (decode : Tree → Option α)
    (absent : α) : Option α :=
  match field entries key with
  | none => none
  | some none => some absent
  | some (some value) => decode value

/-- Decode a text. -/
def text? : Tree → Option String
  | .text value => some value
  | _ => none

/-- Decode a path. -/
def path? {P : Type} [HostPath P] (tree : Tree) : Option P := tree.text?.map HostPath.ofText

/-- Encode a path, if it is a text. -/
def ofPath? {P : Type} [HostPath P] (p : P) : Option Tree := (HostPath.text? p).map .text

/-- Decode a truth value. -/
def bool? : Tree → Option Bool
  | .bool value => some value
  | _ => none

/-- Decode a list whose items all decode. -/
def list? {α : Type} (decode : Tree → Option α) : Tree → Option (List α)
  | .list items => items.mapM decode
  | _ => none

/-- Whether a value is empty brackets, which is how TOML writes nothing. -/
def isHollow : Tree → Bool
  | .list [] | .table _ [] => true
  | _ => false

/-- Decode one name of a closed choice. It is a text, or a table that has the name as its only key
and nothing for its value. Of a table under a header only the first key counts. -/
def name? {α : Type} (ofName? : String → Option α) : Tree → Option α
  | .text value => ofName? value
  | .table .object [(key, .null)] => ofName? key
  | .table .braced [(key, value)] => if value.isHollow then ofName? key else none
  | .table .headed ((key, value) :: _) => if value.isHollow then ofName? key else none
  | _ => none

end Tree

end CSharpBuild
