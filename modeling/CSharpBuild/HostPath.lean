/-
The two kinds of paths that a unit may be made of. A `Path` is a text, and all that this library
looks at or writes on a command line is one. What a host calls a path may be any bytes (`OsPath`), a
unit can be built of such paths as well, and bytes that encode no text cannot be written into a
document.

`HostPath` is what units and their manifests need to know of either kind: whether a path is empty,
and which text it is, if it is one.
-/
import CSharpBuild.Path

namespace CSharpBuild

/-- A kind of paths. -/
class HostPath (P : Type) where
  /-- Whether nothing is written. -/
  isEmpty : P → Bool
  /-- A text as a path. -/
  ofText : String → P
  /-- The text that a path is, if it is one. -/
  text? : P → Option String
  text?_eq_some_iff {p : P} {text : String} : text? p = some text ↔ ofText text = p

instance : HostPath Path where
  isEmpty := Path.isEmpty
  ofText := Path.mk
  text? p := some p.text
  text?_eq_some_iff := by
    rintro ⟨text⟩ other
    simp [eq_comm]

namespace Path

theorem hostPath_isEmpty_iff {p : Path} : HostPath.isEmpty p = true ↔ p.text = "" := isEmpty_iff

theorem hostPath_isEmpty_eq_false_iff {p : Path} : HostPath.isEmpty p = false ↔ p.text ≠ "" :=
  isEmpty_eq_false_iff

end Path

/-- A path in the bytes that a host keeps of it. -/
structure OsPath where
  bytes : ByteArray

namespace OsPath

theorem fromUTF8?_eq_some_iff {bytes : ByteArray} {text : String} :
    String.fromUTF8? bytes = some text ↔ text.toUTF8 = bytes := by
  constructor
  · intro h
    rw [String.fromUTF8?] at h
    split at h
    · cases h; rfl
    · cases h
  · rintro rfl
    rw [String.fromUTF8?, String.toUTF8_eq_toByteArray, dif_pos text.isValidUTF8]
    rfl

instance : HostPath OsPath where
  isEmpty p := p.bytes.isEmpty
  ofText text := ⟨text.toUTF8⟩
  text? p := String.fromUTF8? p.bytes
  text?_eq_some_iff := by
    rintro ⟨bytes⟩ text
    rw [fromUTF8?_eq_some_iff, mk.injEq]

end OsPath

end CSharpBuild
