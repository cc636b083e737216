/-
Paths as a host writes them: kept character for character, never normalised. `Path.join` puts a
relative path under another; `Path.components` reads a path as the list of its parts, and two paths
are the same place, as far as names can tell, when these lists are equal (`Path.Same`).

Repeated separators, a separator at the end and every `.` but a leading one leave no component;
`..` stays as it is written.
-/
namespace CSharpBuild

/-- A path, exactly as written. -/
structure Path where
  text : String
  deriving DecidableEq, Repr, Inhabited

namespace Path

instance : ToString Path := ⟨Path.text⟩

/-- Whether nothing is written. -/
def isEmpty (p : Path) : Bool := p.text.isEmpty

theorem isEmpty_iff {p : Path} : p.isEmpty = true ↔ p.text = "" := String.isEmpty_iff

theorem isEmpty_eq_false_iff {p : Path} : p.isEmpty = false ↔ p.text ≠ "" := by
  rw [← Bool.not_eq_true, isEmpty_iff]

/-- Whether the path starts at the root. -/
def isAbsolute (p : Path) : Bool := p.text.toList.head? = some '/'

/-- The path `q` seen from `p`: `q` itself when it is absolute, else both with one separator
between them unless `p` is empty or ends in one. -/
def join (p q : Path) : Path :=
  if q.isAbsolute then q
  else if p.isEmpty ∨ p.text.toList.getLast? = some '/' then ⟨p.text ++ q.text⟩
  else ⟨p.text ++ "/" ++ q.text⟩

/-- One part of a path. -/
inductive Component where
  | root
  | here
  | up
  | name (text : String)
  deriving DecidableEq, Repr

/-- The part a piece between separators stands for; an empty piece and `.` stand for none. -/
def Component.ofPiece? (piece : List Char) : Option Component :=
  if piece = [] ∨ piece = ['.'] then none
  else if piece = ['.', '.'] then some .up
  else some (.name (String.ofList piece))

/-- The pieces between the separators of a path. -/
def pieces (p : Path) : List (List Char) := p.text.toList.splitOn '/'

/-- The parts of a path, in order. -/
def components (p : Path) : List Component :=
  let start : List Component :=
    if p.isAbsolute then [.root] else if p.pieces.head? = some ['.'] then [.here] else []
  start ++ p.pieces.filterMap Component.ofPiece?

/-- Two paths name the same place when they have the same components. -/
def Same (p q : Path) : Prop := p.components = q.components

instance (p q : Path) : Decidable (p.Same q) := inferInstanceAs (Decidable (_ = _))

/-- The text of one component. -/
def Component.text : Component → String
  | .root => "/"
  | .here => "."
  | .up => ".."
  | .name text => text

/-- The shortest path with the given components. -/
def ofComponents : List Component → Path
  | .root :: rest => ⟨"/" ++ "/".intercalate (rest.map Component.text)⟩
  | parts => ⟨"/".intercalate (parts.map Component.text)⟩

/-- The path without its last component, `none` when there is none to drop. -/
def parent? (p : Path) : Option Path :=
  match p.components.getLast? with
  | none | some .root => none
  | some _ => some (ofComponents p.components.dropLast)

theorem join_of_isAbsolute {p q : Path} (h : q.isAbsolute = true) : p.join q = q := by
  simp [join, h]

end Path

end CSharpBuild
