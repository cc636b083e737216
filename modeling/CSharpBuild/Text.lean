/-
Plain questions about strings, read off their characters: whether one starts with another, and
whether one occurs anywhere in another.

`startsWith_iff`, `occursIn_iff` and `contains_iff` say what the answers mean.
-/
namespace CSharpBuild.Text

/-- Whether `text` starts with `piece`. -/
def startsWith (text piece : String) : Bool :=
  piece.toList.isPrefixOf text.toList

theorem startsWith_iff {text piece : String} :
    startsWith text piece = true ↔ ∃ rest, text = piece ++ rest := by
  rw [startsWith, List.isPrefixOf_iff_prefix]
  constructor
  · rintro ⟨rest, h⟩
    exact ⟨String.ofList rest, String.toList_injective (by simp [h])⟩
  · rintro ⟨rest, rfl⟩
    exact ⟨rest.toList, by simp⟩

/-- Whether the characters `piece` stand somewhere in a list of characters. -/
def occursIn (piece : List Char) : List Char → Bool
  | [] => piece.isEmpty
  | c :: rest => piece.isPrefixOf (c :: rest) || occursIn piece rest

theorem occursIn_iff {piece text : List Char} :
    occursIn piece text = true ↔ ∃ before after, text = before ++ piece ++ after := by
  induction text with
  | nil =>
    rw [occursIn, List.isEmpty_iff]
    constructor
    · rintro rfl; exact ⟨[], [], rfl⟩
    · rintro ⟨before, after, h⟩
      simp only [List.append_assoc, List.nil_eq, List.append_eq_nil_iff] at h
      exact h.2.1
  | cons c rest ih =>
    rw [occursIn, Bool.or_eq_true, ih, List.isPrefixOf_iff_prefix]
    constructor
    · rintro (⟨after, h⟩ | ⟨before, after, rfl⟩)
      · exact ⟨[], after, h.symm⟩
      · exact ⟨c :: before, after, rfl⟩
    · rintro ⟨before, after, h⟩
      cases before with
      | nil => exact .inl ⟨after, h.symm⟩
      | cons b before =>
        rw [List.cons_append, List.cons_append] at h
        injection h with _ h
        exact .inr ⟨before, after, h⟩

/-- Whether `text` contains `piece`. Every text contains the empty one. -/
def contains (text piece : String) : Bool :=
  occursIn piece.toList text.toList

theorem contains_iff {text piece : String} :
    contains text piece = true ↔ ∃ before after, text = before ++ piece ++ after := by
  rw [contains, occursIn_iff]
  constructor
  · rintro ⟨before, after, h⟩
    exact ⟨String.ofList before, String.ofList after, String.toList_injective (by simp [h])⟩
  · rintro ⟨before, after, rfl⟩
    exact ⟨before.toList, after.toList, by simp⟩

end CSharpBuild.Text
