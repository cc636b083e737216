/-
What a file tree in memory holds after any changes, starting from nothing. There is a file at a path
exactly if the last change that did something to the file there put it there
(`isFile_ofChanges_iff`). There is a directory at a place exactly if a file was ever added below it,
or a directory at it or below it (`mem_dirs_ofChanges`): removing a file takes no directory away.

Both are read off a single change first (`isFile_apply`, `mem_dirs_apply`); the inductions over the
changes start from any tree, as it grows on the way.
-/
import CSharpBuild.Doubles.RecordingRunner

namespace CSharpBuild.Doubles.FileTree

open CSharpBuild.Path (Component)

/-! ## Changes -/

/-- One change of a tree. -/
inductive Change where
  | addFile (path : Path)
  | addDir (path : Path)
  | removeFile (path : Path)
  deriving DecidableEq, Repr

/-- Change a tree. Where there is no file to remove, it is left as it is. -/
def apply (t : FileTree) : Change → FileTree
  | .addFile path => t.addFile path
  | .addDir path => t.addDir path
  | .removeFile path => (t.removeFile path).toOption.getD t

/-- The tree that changes make of nothing. -/
def ofChanges (changes : List Change) : FileTree := changes.foldl apply empty

/-- What a change does to the file at a path: put it there, take it away if it is there, or nothing
at all. -/
def effect? (t : FileTree) (path : Path) : Change → Option Bool
  | .addFile file => if file.Same path then some true else none
  | .addDir _ => none
  | .removeFile file =>
    if file.Same path ∧ (t.removeFile file).isOk then some false else none

/-- What changes do to the file at a path, one after the other. -/
def history (path : Path) (t : FileTree) : List Change → List Bool
  | [] => []
  | change :: changes => (t.effect? path change).toList ++ history path (t.apply change) changes

/-- A place on the way to another one: it has the first components of it, one at least and not all
of them. -/
def Above (place components : List Component) : Prop :=
  place ≠ [] ∧ place <+: components ∧ place ≠ components

instance (place components : List Component) : Decidable (Above place components) :=
  inferInstanceAs (Decidable (_ ∧ _))

/-- The places at which a change makes directories. -/
def Change.Raises (place : List Component) : Change → Prop
  | .addFile path => Above place path.components
  | .addDir path => Above place path.components ∨ place ≠ [] ∧ place = path.components
  | .removeFile _ => False

/-! ## Directories -/

theorem mem_insertNew {α : Type} [DecidableEq α] {value other : α} {values : List α} :
    other ∈ insertNew value values ↔ other = value ∨ other ∈ values := by
  unfold insertNew
  split
  · next h => exact ⟨.inr, fun hor => hor.elim (fun heq => heq ▸ h) id⟩
  · exact List.mem_cons

theorem mem_foldl_insertNew {α : Type} [DecidableEq α] {other : α} {added values : List α} :
    other ∈ added.foldl (fun values value => insertNew value values) values ↔
      other ∈ added ∨ other ∈ values := by
  induction added generalizing values with
  | nil => simp
  | cons value added ih =>
    rw [List.foldl_cons, ih, mem_insertNew, List.mem_cons, or_left_comm, or_assoc]

/-- The induction is on the components from the last one: each step up drops that one. -/
theorem mem_takeWhile_upward {place components : List Component} :
    place ∈ (upward components).takeWhile (· ≠ []) ↔ place ≠ [] ∧ place <+: components.reverse := by
  induction components with
  | nil =>
    rw [List.reverse_nil, List.prefix_nil]
    exact iff_of_false List.not_mem_nil fun h => h.1 h.2
  | cons last above ih =>
    rw [upward, List.takeWhile_cons_of_pos (by simp), List.mem_cons, ih,
      List.reverse_cons, List.prefix_concat_iff]
    constructor
    · rintro (rfl | ⟨hplace, hprefix⟩)
      · exact ⟨by simp, .inl rfl⟩
      · exact ⟨hplace, .inr hprefix⟩
    · rintro ⟨hplace, rfl | hprefix⟩
      · exact .inl rfl
      · exact .inr ⟨hplace, hprefix⟩

theorem mem_lineage {place components : List Component} :
    place ∈ lineage components ↔ place ≠ [] ∧ place <+: components := by
  rw [lineage, mem_takeWhile_upward, List.reverse_reverse]

theorem above_iff {place components : List Component} :
    Above place components ↔ place ∈ lineage components.dropLast := by
  rw [mem_lineage, Above]
  refine and_congr_right fun hne => ?_
  rcases List.eq_nil_or_concat components with rfl | ⟨lead, last, rfl⟩
  · simp [hne]
  · rw [List.concat_eq_append, List.dropLast_concat, List.prefix_concat_iff]
    constructor
    · rintro ⟨hor, hall⟩
      exact hor.resolve_left hall
    · intro h
      refine ⟨.inr h, fun heq => ?_⟩
      have hle := h.length_le
      rw [heq, List.length_append, List.length_singleton] at hle
      omega

theorem mem_lineage_iff_above {place components : List Component} :
    place ∈ lineage components ↔ Above place components ∨ place ≠ [] ∧ place = components := by
  rw [mem_lineage, Above]
  by_cases h : place = components <;> simp [h]

/-- What is on the way to a place is on the way to all that it is on the way to. -/
theorem Above.trans {place dir components : List Component} (h : Above place dir)
    (hdir : dir <+: components) : Above place components := by
  obtain ⟨hne, hpre, hproper⟩ := h
  refine ⟨hne, hpre.trans hdir, ?_⟩
  rintro rfl
  exact hproper (hpre.eq_of_length (Nat.le_antisymm hpre.length_le hdir.length_le))

theorem Change.Raises.of_above {change : Change} {place dir : List Component} (h : Above place dir)
    (hdir : change.Raises dir) : change.Raises place := by
  cases change with
  | addFile path => exact h.trans hdir.2.1
  | addDir path =>
    rcases hdir with hdir | ⟨-, rfl⟩
    · exact .inl (h.trans hdir.2.1)
    · exact .inl h
  | removeFile path => exact hdir

theorem mem_dirs_apply {t : FileTree} {change : Change} {place : List Component} :
    place ∈ (t.apply change).dirs ↔ change.Raises place ∨ place ∈ t.dirs := by
  cases change with
  | addFile path => exact mem_foldl_insertNew.trans (or_congr_left above_iff.symm)
  | addDir path => exact mem_foldl_insertNew.trans (or_congr_left mem_lineage_iff_above)
  | removeFile path =>
    have hdirs : (t.apply (.removeFile path)).dirs = t.dirs := by
      rw [apply, removeFile]
      split <;> rfl
    rw [hdirs, Change.Raises, false_or]

theorem mem_dirs_foldl_apply {t : FileTree} {changes : List Change} {place : List Component} :
    place ∈ (changes.foldl apply t).dirs ↔
      (∃ change ∈ changes, change.Raises place) ∨ place ∈ t.dirs := by
  induction changes generalizing t with
  | nil => simp
  | cons change changes ih =>
    rw [List.foldl_cons, ih, mem_dirs_apply, ← or_assoc, or_comm (a := ∃ _ ∈ changes, _)]
    simp

theorem mem_dirs_ofChanges {changes : List Change} {place : List Component} :
    place ∈ (ofChanges changes).dirs ↔ ∃ change ∈ changes, change.Raises place := by
  rw [ofChanges, mem_dirs_foldl_apply]
  exact or_iff_left List.not_mem_nil

/-! ## Files -/

theorem isFile_iff {t : FileTree} {path : Path} :
    t.isFile path = true ↔ path.components ∈ t.files :=
  decide_eq_true_iff

theorem isFile_addFile_iff {t : FileTree} {file path : Path} :
    (t.addFile file).isFile path = true ↔ file.Same path ∨ t.isFile path = true := by
  rw [isFile_iff, isFile_iff, Path.Same, eq_comm]
  exact mem_insertNew

theorem removeFile_of_isFile {t : FileTree} {file : Path} (h : t.isFile file = true) :
    t.removeFile file = .ok { t with files := t.files.filter (· ≠ file.components) } := by
  rw [removeFile, if_pos h]

theorem removeFile_of_not_isFile {t : FileTree} {file : Path} (h : t.isFile file = false) :
    t.removeFile file = .error ("file not found: " ++ file.text) := by
  rw [removeFile, if_neg (Bool.eq_false_iff.1 h)]

/-- Removing a file takes away what is at its path and nothing else. -/
theorem isFile_of_removeFile {t t' : FileTree} {file : Path} (h : t.removeFile file = .ok t')
    (path : Path) : t'.isFile path = true ↔ ¬ file.Same path ∧ t.isFile path = true := by
  cases hfile : t.isFile file with
  | true =>
    rw [removeFile_of_isFile hfile] at h
    cases h
    rw [isFile_iff, isFile_iff, List.mem_filter, decide_eq_true_iff, Path.Same, and_comm, ne_comm]
  | false =>
    rw [removeFile_of_not_isFile hfile] at h
    cases h

theorem isFile_apply (t : FileTree) (change : Change) (path : Path) :
    (t.apply change).isFile path = (t.effect? path change).getD (t.isFile path) := by
  cases change with
  | addFile file =>
    rw [Bool.eq_iff_iff, apply, isFile_addFile_iff, effect?]
    by_cases h : file.Same path <;> simp [h]
  | addDir dir => rfl
  | removeFile file =>
    cases hfile : t.isFile file with
    | true =>
      have hremove := removeFile_of_isFile hfile
      rw [Bool.eq_iff_iff, apply, effect?, hremove, Except.toOption, Option.getD_some,
        isFile_of_removeFile hremove]
      by_cases h : file.Same path <;> simp [h, Except.isOk, Except.toBool]
    | false =>
      rw [apply, effect?, removeFile_of_not_isFile hfile]
      simp [Except.isOk, Except.toBool, Except.toOption]

theorem isFile_foldl_apply (changes : List Change) (t : FileTree) (path : Path) :
    (changes.foldl apply t).isFile path =
      (history path t changes).getLast?.getD (t.isFile path) := by
  induction changes generalizing t with
  | nil => rfl
  | cons change changes ih =>
    rw [List.foldl_cons, ih, isFile_apply, history]
    cases h : t.effect? path change <;> simp [List.getLast?_cons]

theorem isFile_ofChanges_iff {changes : List Change} {path : Path} :
    (ofChanges changes).isFile path = true ↔ (history path empty changes).getLast? = some true := by
  rw [ofChanges, isFile_foldl_apply]
  cases (history path empty changes).getLast? <;> simp [isFile, empty]

theorem exists_added_of_mem_history {changes : List Change} {t : FileTree} {path : Path}
    (h : true ∈ history path t changes) : ∃ file, .addFile file ∈ changes ∧ file.Same path := by
  induction changes generalizing t with
  | nil => cases h
  | cons change changes ih =>
    rw [history, List.mem_append, Option.mem_toList] at h
    rcases h with hnow | hlater
    · cases change with
      | addFile file =>
        rw [effect?] at hnow
        split at hnow
        · next hsame => exact ⟨file, List.mem_cons_self, hsame⟩
        · cases hnow
      | addDir dir => cases hnow
      | removeFile file =>
        rw [effect?] at hnow
        split at hnow <;> cases hnow
    · obtain ⟨file, hfile, hsame⟩ := ih hlater
      exact ⟨file, List.mem_cons_of_mem _ hfile, hsame⟩

/-- **What a tree holds after any changes.** There is a file, for whoever looks, exactly if the last
change that did something to it put it there; a directory of its path is no file. The directories
are those that were added and those on the way to what was added, and with a directory all those on
the way to it. Removing fails exactly if there is no file, and then nothing changes; else this one
file is gone and all else stays. -/
theorem ofChanges_consistent (changes : List Change) :
    let t := ofChanges changes
    (∀ path, t.isFile path = true ↔ (history path empty changes).getLast? = some true) ∧
    (∀ default r path, ((RecordingRunner.host t default).probe path r).value = t.isFile path) ∧
    (∀ place, place ∈ t.dirs ↔
      (∃ file, .addFile file ∈ changes ∧ Above place file.components) ∨
      ∃ dir, .addDir dir ∈ changes ∧
        (Above place dir.components ∨ place ≠ [] ∧ place = dir.components)) ∧
    (∀ path, t.isDir path = true ↔ path.components ∈ t.dirs) ∧
    (∀ dir ∈ t.dirs, ∀ place, Above place dir → place ∈ t.dirs) ∧
    (∀ path, (∀ file, .addFile file ∈ changes → ¬ file.Same path) → t.isFile path = false) ∧
    (∀ path, t.isFile path = false →
      t.removeFile path = .error ("file not found: " ++ path.text) ∧
      t.apply (.removeFile path) = t) ∧
    ∀ path, t.isFile path = true → ∃ t', t.removeFile path = .ok t' ∧
      t.apply (.removeFile path) = t' ∧ t'.dirs = t.dirs ∧
      ∀ other, t'.isFile other = true ↔ ¬ path.Same other ∧ t.isFile other = true := by
  intro t
  have hdirs (place : List Component) : place ∈ t.dirs ↔
      (∃ file, .addFile file ∈ changes ∧ Above place file.components) ∨
      ∃ dir, .addDir dir ∈ changes ∧
        (Above place dir.components ∨ place ≠ [] ∧ place = dir.components) := by
    rw [mem_dirs_ofChanges]
    constructor
    · rintro ⟨_ | _ | _, hmem, hraises⟩
      · exact .inl ⟨_, hmem, hraises⟩
      · exact .inr ⟨_, hmem, hraises⟩
      · exact hraises.elim
    · rintro (⟨file, hmem, hraises⟩ | ⟨dir, hmem, hraises⟩)
      · exact ⟨.addFile file, hmem, hraises⟩
      · exact ⟨.addDir dir, hmem, hraises⟩
  refine ⟨fun path => isFile_ofChanges_iff, fun _ _ _ => rfl, hdirs,
    fun path => decide_eq_true_iff, ?_, ?_, ?_, ?_⟩
  · intro dir hdir place habove
    obtain ⟨change, hmem, hraises⟩ := mem_dirs_ofChanges.1 hdir
    exact mem_dirs_ofChanges.2 ⟨change, hmem, hraises.of_above habove⟩
  · intro path hnone
    rw [Bool.eq_false_iff, Ne, isFile_ofChanges_iff]
    intro hlast
    obtain ⟨file, hfile, hsame⟩ := exists_added_of_mem_history (List.mem_of_getLast? hlast)
    exact hnone file hfile hsame
  · intro path hpath
    have hremove := removeFile_of_not_isFile hpath
    refine ⟨hremove, ?_⟩
    rw [apply, hremove]
    rfl
  · intro path hpath
    have hremove := removeFile_of_isFile hpath
    refine ⟨_, hremove, ?_, rfl, isFile_of_removeFile hremove⟩
    rw [apply, hremove]
    rfl

/-- A file that is removed, removed once more in vain, and added again; one that is gone; and a
directory that is no file. -/
theorem ofChanges_consistent_after_removals :
    let changes : List Change := [.addFile ⟨"/a/b.cs"⟩, .addDir ⟨"x/./y/"⟩, .addFile ⟨"./q"⟩,
      .removeFile ⟨"/a//b.cs"⟩, .removeFile ⟨"/a/b.cs"⟩, .addFile ⟨"/a/b.cs"⟩, .removeFile ⟨"./q"⟩]
    let t := ofChanges changes
    history ⟨"//a/b.cs/"⟩ empty changes = [true, false, true] ∧ t.isFile ⟨"//a/b.cs/"⟩ = true ∧
    history ⟨"./q"⟩ empty changes = [true, false] ∧
    t.removeFile ⟨"./q"⟩ = .error "file not found: ./q" ∧
    (∀ file, .addFile file ∈ changes → ¬ file.Same ⟨"x/y"⟩) ∧ t.isFile ⟨"x/y"⟩ = false ∧
    [.root, .name "a"] ∈ t.dirs ∧ [.root] ∈ t.dirs ∧ [.here] ∈ t.dirs ∧ [.name "x"] ∈ t.dirs ∧
    ∃ t', t.removeFile ⟨"/a/b.cs"⟩ = .ok t' ∧ t'.dirs = t.dirs ∧ t'.isFile ⟨"/a/b.cs"⟩ = false := by
  intro changes t
  obtain ⟨hfiles, -, hdirs, -, habove, hnever, hvain, hremove⟩ := ofChanges_consistent changes
  have hhistory : history ⟨"//a/b.cs/"⟩ empty changes = [true, false, true] := by decide
  have hgone : history ⟨"./q"⟩ empty changes = [true, false] := by decide
  have hadded : ∀ file, .addFile file ∈ changes → ¬ file.Same ⟨"x/y"⟩ := by
    intro file hfile
    simp only [changes, List.mem_cons, Change.addFile.injEq, reduceCtorEq, List.not_mem_nil,
      or_false, false_or] at hfile
    rcases hfile with rfl | rfl | rfl <;> decide
  have hbelow : [.root, .name "a"] ∈ t.dirs := by decide
  have hthere : t.isFile ⟨"//a/b.cs/"⟩ = true := (hfiles _).2 (by rw [hhistory]; rfl)
  have hnot : t.isFile ⟨"./q"⟩ = false :=
    Bool.eq_false_iff.2 fun h => absurd ((hfiles _).1 h) (by rw [hgone]; decide)
  obtain ⟨t', hremoved, -, hsame, hleft⟩ := hremove ⟨"/a/b.cs"⟩ (by decide)
  exact ⟨hhistory, hthere, hgone, (hvain _ hnot).1, hadded, hnever _ hadded, hbelow,
    habove _ hbelow _ (by decide), (hdirs _).2 (.inl ⟨⟨"./q"⟩, by decide, by decide⟩),
    (hdirs _).2 (.inr ⟨⟨"x/./y/"⟩, by decide, .inl (by decide)⟩), t', hremoved, hsame,
    Bool.eq_false_iff.2 fun h => ((hleft _).1 h).1 rfl⟩

end CSharpBuild.Doubles.FileTree
