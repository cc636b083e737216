/-
Joined paths by their components. Behind a path that names something, the parts of a relative one
follow its own (`components_join`).

So it shows at once which paths mean the same from two places: `same_join_iff` says it of any path,
`same_join_join_iff` of one that has been joined to the second place already.
-/
import CSharpBuild.Path

namespace CSharpBuild.Path

variable {p q root : Path}

/-- The component that only the beginning of a path can have. -/
def start (p : Path) : List Component :=
  if p.isAbsolute then [.root] else if p.pieces.head? = some ['.'] then [.here] else []

/-- The other components of a path. -/
def names (p : Path) : List Component := p.pieces.filterMap Component.ofPiece?

theorem components_eq (p : Path) : p.components = p.start ++ p.names := rfl

/-! ## The pieces of a joined path -/

theorem toList_ne_nil (hp : p.isEmpty = false) : p.text.toList ≠ [] := by
  intro h
  simp [isEmpty, String.toList_eq_nil_iff.1 h] at hp

theorem join_of_isEmpty (hp : p.isEmpty = true) : p.join q = q := by
  have htext : p.text = "" := String.isEmpty_iff.1 hp
  rw [join]
  split
  · rfl
  · simp [hp, htext]

/-- A joined path has one separator before its second part; the first part may have brought it. -/
theorem exists_toList_join (hp : p.isEmpty = false) (hq : q.isAbsolute = false) :
    ∃ lead, (p.join q).text.toList = lead ++ '/' :: q.text.toList ∧
      (p.text.toList = lead ∨ p.text.toList = lead ++ ['/']) := by
  have hrelative : ¬ q.isAbsolute = true := by simp [hq]
  by_cases hlast : p.text.toList.getLast? = some '/'
  · obtain ⟨lead, hlead⟩ := List.getLast?_eq_some_iff.1 hlast
    exact ⟨lead, by rw [join, if_neg hrelative, if_pos (.inr hlast)]; simp [hlead], .inr hlead⟩
  · refine ⟨p.text.toList, ?_, .inl rfl⟩
    rw [join, if_neg hrelative, if_neg (by simp [hp, hlast])]
    simp

/-- The pieces of the second part follow those of the first, but for the empty piece that a
separator at the end of the first part has behind it. -/
theorem exists_pieces_join (hp : p.isEmpty = false) (hq : q.isAbsolute = false) :
    ∃ lead, (p.join q).pieces = lead ++ q.pieces ∧ lead.filterMap Component.ofPiece? = p.names ∧
      lead.head? = p.pieces.head? := by
  obtain ⟨lead, hjoin, hlead⟩ := exists_toList_join hp hq
  refine ⟨lead.splitOn '/', ?_, ?_⟩
  · rw [pieces, hjoin, List.splitOn_append_cons_self, pieces]
  · obtain ⟨piece, later, hsplit⟩ := List.exists_cons_of_ne_nil (List.splitOn_ne_nil '/' lead)
    rw [names, pieces]
    rcases hlead with hlead | hlead
    · rw [hlead]
      exact ⟨rfl, rfl⟩
    · rw [hlead, List.splitOn_append_cons_self, List.splitOn_nil, List.filterMap_append, hsplit]
      exact ⟨(List.append_nil _).symm, rfl⟩

theorem names_join (hp : p.isEmpty = false) (hq : q.isAbsolute = false) :
    (p.join q).names = p.names ++ q.names := by
  obtain ⟨lead, hpieces, hnames, -⟩ := exists_pieces_join hp hq
  rw [names, hpieces, List.filterMap_append, hnames]
  rfl

theorem isAbsolute_join (hp : p.isEmpty = false) (hq : q.isAbsolute = false) :
    (p.join q).isAbsolute = p.isAbsolute := by
  obtain ⟨c, rest, hc⟩ := List.exists_cons_of_ne_nil (toList_ne_nil hp)
  rw [join, if_neg (by simp [hq])]
  split <;> simp [isAbsolute, hc]

theorem start_join (hp : p.isEmpty = false) (hq : q.isAbsolute = false) :
    (p.join q).start = p.start := by
  obtain ⟨lead, hpieces, -, hhead⟩ := exists_pieces_join hp hq
  have hne : p.pieces ≠ [] := List.splitOn_ne_nil _ _
  have hfirst : (p.join q).pieces.head? = p.pieces.head? := by
    rw [hpieces, List.head?_append, hhead]
    obtain ⟨piece, rest, hcons⟩ := List.exists_cons_of_ne_nil hne
    rw [hcons]
    rfl
  rw [start, isAbsolute_join hp hq, hfirst, start]

/-- **The components of a relative path follow those of the path it is joined to.** -/
theorem components_join (hp : p.isEmpty = false) (hq : q.isAbsolute = false) :
    (p.join q).components = p.components ++ q.names := by
  rw [components_eq, start_join hp hq, names_join hp hq, ← List.append_assoc, ← components_eq]

/-! ## Paths that mean the same from two places -/

theorem here_not_mem_names (p : Path) : Component.here ∉ p.names := by
  intro h
  obtain ⟨piece, -, hpiece⟩ := List.mem_filterMap.1 h
  unfold Component.ofPiece? at hpiece
  split at hpiece
  · cases hpiece
  · split at hpiece <;> cases hpiece

/-- A path that does not begin at the root begins with a name, with `..` or with `.`. -/
theorem components_ne_nil (hp : p.isEmpty = false) : p.components ≠ [] := by
  obtain ⟨c, rest, hc⟩ := List.exists_cons_of_ne_nil (toList_ne_nil hp)
  rw [components_eq, start]
  split
  · simp
  · next hrelative =>
    have hslash : c ≠ '/' := by simpa [isAbsolute, hc] using hrelative
    split
    · simp
    · next hdot =>
      obtain ⟨piece, later, hsplit⟩ :=
        List.exists_cons_of_ne_nil (List.splitOn_ne_nil '/' rest)
      have hpieces : p.pieces = (c :: piece) :: later := by
        rw [pieces, hc, List.splitOn_cons_eq_if_modifyHead, hsplit, if_neg (by simpa using hslash)]
        rfl
      rw [hpieces, List.head?_cons, Option.some_inj] at hdot
      obtain ⟨component, hcomponent⟩ : ∃ component, Component.ofPiece? (c :: piece) = some component
      · rw [Component.ofPiece?, if_neg (by simp [hdot])]
        split <;> exact ⟨_, rfl⟩
      simp [names, hpieces, hcomponent]

theorem start_of_relative (hp : p.isAbsolute = false) :
    p.start = [.here] ∧ p.components.head? = some .here ∨
      p.start = [] ∧ p.components.head? ≠ some .here := by
  rw [components_eq, start, if_neg (by simp [hp])]
  split
  · exact .inl ⟨rfl, rfl⟩
  · exact .inr ⟨rfl, fun h => here_not_mem_names p (List.mem_of_mem_head? h)⟩

/-- **When a path means the same from `root`:** if it is absolute, if `root` says nothing, or if
both begin where one is and `root` goes no further. -/
theorem same_join_iff :
    (root.join p).Same p ↔ p.isAbsolute = true ∨ root.isEmpty = true ∨
      (root.components = [.here] ∧ p.components.head? = some .here) := by
  by_cases habsolute : p.isAbsolute = true
  · rw [join_of_isAbsolute habsolute]
    exact iff_of_true rfl (.inl habsolute)
  by_cases hempty : root.isEmpty = true
  · rw [join_of_isEmpty hempty]
    exact iff_of_true rfl (.inr (.inl hempty))
  have hroot : root.isEmpty = false := by simpa using hempty
  have hp : p.isAbsolute = false := by simpa using habsolute
  have hcancel : (root.join p).Same p ↔ root.components = p.start := by
    rw [Same, components_join hroot hp, components_eq p, List.append_left_inj]
  rw [hcancel]
  -- The names of the path stand on both sides, so `root` is all that can make a difference.
  rcases start_of_relative hp with ⟨hstart, hhead⟩ | ⟨hstart, hhead⟩
  · simp [hstart, hhead, habsolute, hempty]
  · simp [hstart, hhead, habsolute, hempty, components_ne_nil hroot]

/-- **When a path joined to `root` means the same from `root`:** if joining left it alone or `root`
is where one is. -/
theorem same_join_join_iff :
    (root.join (root.join p)).Same (root.join p) ↔ p.isAbsolute = true ∨ root.isAbsolute = true ∨
      root.isEmpty = true ∨ root.components = [.here] := by
  rw [same_join_iff]
  by_cases habsolute : p.isAbsolute = true
  · simp [join_of_isAbsolute habsolute, habsolute]
  by_cases hempty : root.isEmpty = true
  · simp [hempty]
  have hroot : root.isEmpty = false := by simpa using hempty
  have hp : p.isAbsolute = false := by simpa using habsolute
  have hhead : root.components = [.here] → (root.join p).components.head? = some .here := by
    intro h
    rw [components_join hroot hp, h]
    rfl
  rw [isAbsolute_join hroot hp]
  constructor
  · rintro (h | h | ⟨h, -⟩)
    · exact .inr (.inl h)
    · exact .inr (.inr (.inl h))
    · exact .inr (.inr (.inr h))
  · rintro (h | h | h | h)
    · exact absurd h habsolute
    · exact .inl h
    · exact .inr (.inl h)
    · exact .inr (.inr ⟨h, hhead h⟩)

/-- Under a relative root the joined path is looked for one root too deep. -/
example : let root : Path := ⟨"game"⟩
    root.join (root.join ⟨"tools/mcs.exe"⟩) = ⟨"game/game/tools/mcs.exe"⟩ := by decide

end CSharpBuild.Path
