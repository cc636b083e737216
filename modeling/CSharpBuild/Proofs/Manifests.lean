/-
Units and their manifests, where a path may be any bytes. A unit can be written exactly if its paths
are texts; what was written is read as that unit. Whatever else is read has been checked like a unit
that was built, has only texts for its paths and so can be written again (`manifest_round_trip`).

One manifest may be written in many ways; `Manifest.Alike` has a constructor for each freedom that
its writer has. A manifest is read key by key, so of two ways to write one it is enough to know
that each key is looked up alike (`Tree.fieldOr`) to know that they are read alike
(`Alike.ofEntries?_eq`).
-/
import CSharpBuild.BuildUnit.Manifest
import Mathlib.Data.Set.List

namespace CSharpBuild

/-! ## Looking keys up -/

namespace Tree

variable {α : Type} {decode : Tree → Option α} {absent : α} {key other : String}
  {xs ys : List (String × Tree)}

/-- The order of the entries makes no difference to a lookup, for it refuses a key that stands there
twice. -/
theorem field_perm (h : xs.Perm ys) (key : String) : field xs key = field ys key := by
  have hhits := h.filter (·.1 = key)
  unfold field
  generalize xs.filter (·.1 = key) = hits at hhits
  generalize ys.filter (·.1 = key) = hits' at hhits
  match hits, hits' with
  | [], _ => rw [← hhits.nil_eq]
  | [entry], _ => rw [← List.singleton_perm.1 hhits]
  | _ :: _ :: _, [] => cases hhits.length_eq
  | _ :: _ :: _, [_] => cases hhits.length_eq
  | _ :: _ :: _, _ :: _ :: _ => rfl

theorem fieldOr_perm (h : xs.Perm ys) :
    fieldOr xs key decode absent = fieldOr ys key decode absent := by
  rw [fieldOr, fieldOr, field_perm h]

theorem fieldOr_cons_of_ne (h : other ≠ key) (value : Tree) :
    fieldOr ((other, value) :: xs) key decode absent = fieldOr xs key decode absent := by
  rw [fieldOr, field, List.filter_cons_of_neg (by simpa using h)]
  rfl

theorem fieldOr_of_absent (h : ∀ entry ∈ xs, entry.1 ≠ key) :
    fieldOr xs key decode absent = some absent := by
  have hnone : xs.filter (·.1 = key) = [] :=
    List.filter_eq_nil_iff.2 fun entry hentry => by simpa using h entry hentry
  rw [fieldOr, field, hnone]

/-- A key that does not stand there again has the value that is written. -/
theorem fieldOr_cons_self (h : ∀ entry ∈ xs, entry.1 ≠ key) (value : Tree) :
    fieldOr ((key, value) :: xs) key decode absent = decode value := by
  have hnone : xs.filter (·.1 = key) = [] :=
    List.filter_eq_nil_iff.2 fun entry hentry => by simpa using h entry hentry
  rw [fieldOr, field, List.filter_cons_of_pos (by simp), hnone]

/-- A lookup depends on a value only through what the value is decoded to. -/
theorem fieldOr_cons_congr {value value' : Tree} (h : decode value = decode value') :
    fieldOr ((key, value) :: xs) key decode absent =
      fieldOr ((key, value') :: xs) key decode absent := by
  have hcons (v : Tree) : ((key, v) :: xs).filter (·.1 = key) = (key, v) :: xs.filter (·.1 = key) :=
    List.filter_cons_of_pos (by simp)
  simp only [fieldOr, field, hcons]
  cases xs.filter (·.1 = key) with
  | nil => exact h
  | cons => rfl

/-- What a key means comes from its value, or from nowhere. -/
theorem eq_absent_or_exists_decode_of_fieldOr {a : α}
    (h : fieldOr xs key decode absent = some a) : a = absent ∨ ∃ value, decode value = some a := by
  rw [fieldOr] at h
  split at h
  · cases h
  · exact .inl (Option.some.inj h).symm
  · next value _ => exact .inr ⟨value, h⟩

theorem list?_map {β : Type} {encode : β → Tree} {f : β → α} {bs : List β}
    (h : ∀ b, decode (encode b) = some (f b)) :
    list? decode (.list (bs.map encode)) = some (bs.map f) := by
  induction bs with
  | nil => rfl
  | cons b bs ih =>
    rw [list?] at ih ⊢
    rw [List.map_cons, List.mapM_cons, h, ih]
    rfl

/-- Each item of a list comes from an item that was decoded. -/
theorem exists_decode_of_list? {as : List α} {tree : Tree} (h : list? decode tree = some as) :
    ∀ a ∈ as, ∃ item, decode item = some a := by
  cases tree with
  | list items =>
    rw [list?] at h
    induction items generalizing as with
    | nil => cases h; simp
    | cons item items ih =>
      simp only [List.mapM_cons, Option.bind_eq_bind, Option.bind_eq_some_iff, Option.pure_def,
        Option.some.injEq] at h
      obtain ⟨a, ha, rest, hrest, rfl⟩ := h
      rintro b (_ | ⟨_, hb⟩)
      · exact ⟨item, ha⟩
      · exact ih hrest b hb
  | _ => cases h

/-! ## Paths that are texts -/

variable {P : Type} [HostPath P]

/-- What is read as a path is a text. -/
theorem exists_ofText_of_path? {p : P} {tree : Tree} (h : path? tree = some p) :
    ∃ text, HostPath.ofText text = p := by
  obtain ⟨text, -, rfl⟩ := Option.map_eq_some_iff.1 h
  exact ⟨text, rfl⟩

theorem ofPath?_eq_some_iff {p : P} {tree : Tree} :
    ofPath? p = some tree ↔ ∃ text, HostPath.ofText text = p ∧ .text text = tree := by
  simp only [ofPath?, Option.map_eq_some_iff, HostPath.text?_eq_some_iff]

/-- Paths are written one by one, and all of them must be texts. -/
theorem mapM_ofPath?_eq_some_iff {paths : List P} {trees : List Tree} :
    paths.mapM ofPath? = some trees ↔
      ∃ texts : List String, texts.map HostPath.ofText = paths ∧ texts.map .text = trees := by
  induction paths generalizing trees with
  | nil => simp
  | cons p paths ih =>
    simp only [List.mapM_cons, Option.bind_eq_bind, Option.bind_eq_some_iff, ofPath?_eq_some_iff,
      ih, Option.pure_def, Option.some.injEq]
    constructor
    · rintro ⟨_, ⟨text, rfl, rfl⟩, _, ⟨texts, rfl, rfl⟩, rfl⟩
      exact ⟨text :: texts, rfl, rfl⟩
    · rintro ⟨_ | ⟨text, texts⟩, hpaths, rfl⟩
      · cases hpaths
      · cases hpaths
        exact ⟨.text text, ⟨text, rfl, rfl⟩, _, ⟨texts, rfl, rfl⟩, rfl⟩

end Tree

/-! ## Ways to write a manifest -/

namespace Manifest

/-- What a key means that is not written. -/
def defaults : List (String × Tree) :=
  [("output", .text ""), ("sources", .list []), ("references", .list []), ("defines", .list []),
    ("target", .text "editor"), ("development", .bool false), ("api_profile", .text "2.0")]

/-- The keys that have a name for their value, each other name that is read, and the name that is
written for it. -/
def aliases : List (String × String × String) :=
  [("target", "player", "standalone-player"), ("target", "constrained", "constrained-runtime"),
    ("api_profile", "net20", "2.0"), ("api_profile", "net20-subset", "2.0-subset"),
    ("api_profile", "net46", "4.6")]

/-- Where a name stands in a value: it is the value, or the first key of a table. -/
inductive Spelling : (String → Tree) → Prop where
  | text : Spelling .text
  | key (form : TableForm) (value : Tree) (rest : List (String × Tree)) :
      Spelling fun name => .table form ((name, value) :: rest)

/-- Entries that make the same manifest. -/
inductive Alike : List (String × Tree) → List (String × Tree) → Prop where
  /-- The keys stand in any order. -/
  | order {xs ys} : xs.Perm ys → Alike xs ys
  /-- Other keys than those of a manifest are passed over. -/
  | unknown {key xs} (value : Tree) : key ∉ keys → Alike ((key, value) :: xs) xs
  /-- A default may be written out. -/
  | default {key value xs} : (key, value) ∈ defaults → (∀ entry ∈ xs, entry.1 ≠ key) →
      Alike ((key, value) :: xs) xs
  /-- A name may be written for another one. -/
  | synonym {key other name spell xs} : (key, other, name) ∈ aliases → Spelling spell →
      Alike ((key, spell other) :: xs) ((key, spell name) :: xs)
  | symm {xs ys} : Alike xs ys → Alike ys xs
  | trans {xs ys zs} : Alike xs ys → Alike ys zs → Alike xs zs

/-- Trees that make the same manifest. -/
inductive Same : Tree → Tree → Prop where
  | table (form form' : TableForm) {xs ys} : Alike xs ys → Same (.table form xs) (.table form' ys)
  /-- A list is the table that has its items for the values of the keys. -/
  | list (form : TableForm) {items} : items.length ≤ keys.length →
      Same (.list items) (.table form (keys.zip items))
  | symm {tree tree'} : Same tree tree' → Same tree' tree
  | trans {tree tree' tree''} : Same tree tree' → Same tree' tree'' → Same tree tree''

variable {P : Type} [HostPath P]

theorem name?_spell {α : Type} {ofName? : String → Option α} {spell : String → Tree}
    (hspell : Spelling spell) {a b : String} (h : ofName? a = ofName? b) :
    Tree.name? ofName? (spell a) = Tree.name? ofName? (spell b) := by
  cases hspell with
  | text => exact h
  | key form value rest => cases form <;> cases rest <;> cases value <;> simp [Tree.name?, h]

/-- A written default is read like none. -/
theorem ofEntries?_cons_default {key : String} {value : Tree} {xs : List (String × Tree)}
    (h : (key, value) ∈ defaults) (habsent : ∀ entry ∈ xs, entry.1 ≠ key) :
    (ofEntries? ((key, value) :: xs) : Option (Manifest P)) = ofEntries? xs := by
  simp only [defaults, List.mem_cons, List.not_mem_nil, or_false, Prod.mk.injEq] at h
  rcases h with ⟨rfl, rfl⟩ | ⟨rfl, rfl⟩ | ⟨rfl, rfl⟩ | ⟨rfl, rfl⟩ | ⟨rfl, rfl⟩ | ⟨rfl, rfl⟩ |
    ⟨rfl, rfl⟩ <;>
  · simp (disch := decide) only [ofEntries?, Tree.fieldOr_cons_of_ne,
      Tree.fieldOr_cons_self habsent, Tree.fieldOr_of_absent habsent]
    rfl

theorem ofName?_of_mem_aliases : ∀ entry ∈ aliases,
    (entry.1 = "target" ∧ Target.ofName? entry.2.1 = Target.ofName? entry.2.2) ∨
      entry.1 = "api_profile" ∧ Profile.ofName? entry.2.1 = Profile.ofName? entry.2.2 := by
  decide

/-- Another name is read like the one it stands for. -/
theorem ofEntries?_cons_synonym {key other name : String} {spell : String → Tree}
    {xs : List (String × Tree)} (h : (key, other, name) ∈ aliases) (hspell : Spelling spell) :
    (ofEntries? ((key, spell other) :: xs) : Option (Manifest P)) =
      ofEntries? ((key, spell name) :: xs) := by
  rcases ofName?_of_mem_aliases _ h with ⟨hkey, hname⟩ | ⟨hkey, hname⟩ <;>
  · obtain rfl := hkey
    simp (disch := decide) only [ofEntries?, Tree.fieldOr_cons_of_ne]
    rw [Tree.fieldOr_cons_congr (name?_spell hspell hname)]

/-- **Entries that make the same manifest are read alike.** -/
theorem Alike.ofEntries?_eq {xs ys : List (String × Tree)} (h : Alike xs ys) :
    (ofEntries? xs : Option (Manifest P)) = ofEntries? ys := by
  induction h with
  | order hperm => simp only [ofEntries?, Tree.fieldOr_perm hperm]
  | @unknown key xs value hkey =>
    have hskip {α : Type} {decode : Tree → Option α} {absent : α} {known : String}
        (hknown : known ∈ keys) : Tree.fieldOr ((key, value) :: xs) known decode absent =
          Tree.fieldOr xs known decode absent :=
      Tree.fieldOr_cons_of_ne (by rintro rfl; exact hkey hknown) value
    simp (disch := decide) only [ofEntries?, hskip]
  | default hdefault habsent => exact ofEntries?_cons_default hdefault habsent
  | synonym hother hspell => exact ofEntries?_cons_synonym hother hspell
  | symm _ ih => exact ih.symm
  | trans _ _ ih ih' => exact ih.trans ih'

theorem Same.ofTree?_eq {tree tree' : Tree} (h : Same tree tree') :
    (ofTree? tree : Option (Manifest P)) = ofTree? tree' := by
  induction h with
  | table form form' halike => exact halike.ofEntries?_eq
  | list form hlength => exact if_pos hlength
  | symm _ ih => exact ih.symm
  | trans _ _ ih ih' => exact ih.trans ih'

/-! ## Manifests that can be written -/

/-- The paths of a manifest are texts. -/
def Writable (m : Manifest P) : Prop :=
  ∀ p ∈ m.output :: (m.sources ++ m.references), ∃ text, HostPath.ofText text = p

/-- What is written: every key, with the texts that the paths are, and canonical names. -/
theorem tree?_eq_some_iff {m : Manifest P} {tree : Tree} :
    m.tree? = some tree ↔ ∃ (output : String) (sources references : List String),
      HostPath.ofText output = m.output ∧ sources.map HostPath.ofText = m.sources ∧
      references.map HostPath.ofText = m.references ∧
      tree = .table .object [("output", .text output), ("sources", .list (sources.map .text)),
        ("references", .list (references.map .text)), ("defines", .list (m.defines.map .text)),
        ("target", .text m.target.name), ("development", .bool m.development),
        ("api_profile", .text m.profile.name)] := by
  simp only [tree?, Option.bind_eq_bind, Option.bind_eq_some_iff, Tree.ofPath?_eq_some_iff,
    Tree.mapM_ofPath?_eq_some_iff, Option.pure_def, Option.some.injEq]
  constructor
  · rintro ⟨_, ⟨output, houtput, rfl⟩, _, ⟨sources, hsources, rfl⟩, _,
      ⟨references, hreferences, rfl⟩, rfl⟩
    exact ⟨output, sources, references, houtput, hsources, hreferences, rfl⟩
  · rintro ⟨output, sources, references, houtput, hsources, hreferences, rfl⟩
    exact ⟨_, ⟨output, houtput, rfl⟩, _, ⟨sources, hsources, rfl⟩, _,
      ⟨references, hreferences, rfl⟩, rfl⟩

theorem exists_tree?_iff {m : Manifest P} : (∃ tree, m.tree? = some tree) ↔ m.Writable := by
  have htexts (paths : List P) : (∃ texts : List String, texts.map HostPath.ofText = paths) ↔
      ∀ p ∈ paths, ∃ text, HostPath.ofText text = p :=
    Set.ext_iff.1 (Set.range_list_map HostPath.ofText) paths
  simp only [Writable, List.forall_mem_cons, List.forall_mem_append, ← htexts, tree?_eq_some_iff]
  constructor
  · rintro ⟨_, output, sources, references, houtput, hsources, hreferences, -⟩
    exact ⟨⟨output, houtput⟩, ⟨sources, hsources⟩, references, hreferences⟩
  · rintro ⟨⟨output, houtput⟩, ⟨sources, hsources⟩, references, hreferences⟩
    exact ⟨_, output, sources, references, houtput, hsources, hreferences, rfl⟩

/-- Whatever is written is read again. -/
theorem ofTree?_of_tree? {m : Manifest P} {tree : Tree} (h : m.tree? = some tree) :
    ofTree? tree = some m := by
  obtain ⟨output, sources, references, houtput, hsources, hreferences, rfl⟩ := tree?_eq_some_iff.1 h
  have hpaths (texts : List String) : Tree.list? Tree.path? (.list (texts.map .text)) =
      some (texts.map (HostPath.ofText : String → P)) :=
    Tree.list?_map fun _ => rfl
  have hdefines : Tree.list? Tree.text? (.list (m.defines.map .text)) = some (m.defines.map id) :=
    Tree.list?_map fun _ => rfl
  have htarget : Tree.name? Target.ofName? (.text m.target.name) = some m.target :=
    Target.ofName?_name m.target
  have hprofile : Tree.name? Profile.ofName? (.text m.profile.name) = some m.profile :=
    Profile.ofName?_name m.profile
  simp (disch := decide) only [ofTree?, ofEntries?, Tree.fieldOr_cons_of_ne]
  simp [Tree.fieldOr, Tree.field, hpaths, hdefines, htarget, hprofile, Tree.path?, Tree.text?,
    Tree.bool?, houtput, hsources, hreferences]

/-- A manifest that was read can be written. -/
theorem writable_of_ofEntries? {m : Manifest P} {entries : List (String × Tree)}
    (h : ofEntries? entries = some m) : m.Writable := by
  simp only [ofEntries?, Option.bind_eq_bind, Option.bind_eq_some_iff, Option.pure_def,
    Option.some.injEq] at h
  obtain ⟨output, houtput, sources, hsources, references, hreferences, -, -, -, -, -, -, -, -,
    rfl⟩ := h
  have hlist {key : String} {paths : List P}
      (hpaths : Tree.fieldOr entries key (Tree.list? Tree.path?) [] = some paths) :
      ∀ p ∈ paths, ∃ text, HostPath.ofText text = p := by
    intro p hp
    rcases Tree.eq_absent_or_exists_decode_of_fieldOr hpaths with rfl | ⟨value, hvalue⟩
    · cases hp
    · obtain ⟨item, hitem⟩ := Tree.exists_decode_of_list? hvalue p hp
      exact Tree.exists_ofText_of_path? hitem
  refine List.forall_mem_cons.2 ⟨?_, List.forall_mem_append.2 ⟨hlist hsources, hlist hreferences⟩⟩
  rcases Tree.eq_absent_or_exists_decode_of_fieldOr houtput with rfl | ⟨value, hvalue⟩
  · exact ⟨"", rfl⟩
  · exact Tree.exists_ofText_of_path? hvalue

theorem writable_of_ofTree? {m : Manifest P} {tree : Tree} (h : ofTree? tree = some m) :
    m.Writable := by
  unfold ofTree? at h
  split at h
  · exact writable_of_ofEntries? h
  · split at h
    · exact writable_of_ofEntries? h
    · cases h
  · cases h

end Manifest

/-! ## Units -/

variable {P : Type} [HostPath P]

theorem Draft.build_eq_ok_iff {d : Draft P} {u : BuildUnit P} :
    d.build = .ok u ↔ u.toDraft = d := by
  constructor
  · intro h
    rw [build] at h
    split at h
    · cases h; rfl
    · cases h
  · rintro rfl
    exact build_of_wellFormed u.wellFormed

/-- The calls that a manifest is made of fill in its fields. -/
theorem Manifest.toUnit_eq (m : Manifest P) : m.toUnit = Draft.build
    ⟨m.output, m.sources, m.references, m.defines, m.target, m.development, m.profile⟩ :=
  rfl

theorem Manifest.toUnit_eq_ok_iff {m : Manifest P} {u : BuildUnit P} :
    m.toUnit = .ok u ↔ ofUnit u = m := by
  rw [toUnit_eq, Draft.build_eq_ok_iff]
  constructor
  · intro h
    rw [ofUnit, h]
  · rintro rfl
    rfl

namespace BuildUnit

theorem ofTree?_eq_ok_iff {tree : Tree} {u : BuildUnit P} :
    ofTree? tree = some (.ok u) ↔ Manifest.ofTree? tree = some (Manifest.ofUnit u) := by
  rw [ofTree?, Option.map_eq_some_iff]
  constructor
  · rintro ⟨m, hm, hunit⟩
    rw [hm, Manifest.toUnit_eq_ok_iff.1 hunit]
  · intro h
    exact ⟨_, h, Manifest.toUnit_eq_ok_iff.2 rfl⟩

theorem ofTree?_of_tree? {u : BuildUnit P} {tree : Tree} (h : u.tree? = some tree) :
    ofTree? tree = some (.ok u) :=
  ofTree?_eq_ok_iff.2 (Manifest.ofTree?_of_tree? h)

/-- **A unit and its manifest.** A unit can be written exactly if its paths are texts. What is
written has every key with a canonical name for its value, and is read as that unit. A manifest that
is read as a unit has the fields of the unit, which satisfy all that a draft must satisfy; the unit
can be written again, and what is written is read alike. The order of the keys, other keys, written
defaults and other names make no difference to what is read, nor to what is written again. -/
theorem manifest_round_trip :
    (∀ u : BuildUnit OsPath,
      ((∃ tree, u.tree? = some tree) ↔
        ∀ p ∈ u.output :: (u.sources ++ u.references), ∃ text : String, OsPath.mk text.toUTF8 = p) ∧
      ∀ tree, u.tree? = some tree →
        (∃ (output : String) (sources references : List String),
          OsPath.mk output.toUTF8 = u.output ∧
          sources.map (fun text => OsPath.mk text.toUTF8) = u.sources ∧
          references.map (fun text => OsPath.mk text.toUTF8) = u.references ∧
          tree = .table .object [("output", .text output), ("sources", .list (sources.map .text)),
            ("references", .list (references.map .text)), ("defines", .list (u.defines.map .text)),
            ("target", .text u.target.name), ("development", .bool u.development),
            ("api_profile", .text u.profile.name)]) ∧
        ofTree? tree = some (.ok u)) ∧
    (∀ (tree : Tree) (u : BuildUnit OsPath), ofTree? tree = some (.ok u) →
      Manifest.ofTree? tree = some ⟨u.output, u.sources, u.references, u.defines, u.target,
        u.development, u.profile⟩ ∧
      (u.output.bytes.size ≠ 0 ∧ (∀ p ∈ u.sources, p.bytes.size ≠ 0) ∧
        (∀ p ∈ u.references, p.bytes.size ≠ 0) ∧
        ∀ symbol ∈ u.defines,
          symbol ≠ "" ∧ ∀ c ∈ symbol.toList, Text.isBlank c = false ∧ c ≠ ';') ∧
      ∃ written, u.tree? = some written ∧ ofTree? (P := OsPath) written = ofTree? tree) ∧
    ∀ tree tree' : Tree, Manifest.Same tree tree' →
      ofTree? (P := OsPath) tree = ofTree? tree' ∧
      ∀ u v : BuildUnit OsPath, ofTree? tree = some (.ok u) → ofTree? tree' = some (.ok v) →
        u.tree? = v.tree? := by
  have hsize {p : OsPath} (h : HostPath.isEmpty p = false) : p.bytes.size ≠ 0 := by
    simpa [HostPath.isEmpty, ByteArray.isEmpty] using h
  refine ⟨fun u => ⟨Manifest.exists_tree?_iff, fun tree h => ⟨?_, ofTree?_of_tree? h⟩⟩,
    fun tree u h => ?_, fun tree tree' h => ?_⟩
  · exact Manifest.tree?_eq_some_iff.1 h
  · have hread := ofTree?_eq_ok_iff.1 h
    obtain ⟨houtput, hsources, hreferences, hdefines⟩ := u.wellFormed
    obtain ⟨written, hwritten⟩ :=
      Manifest.exists_tree?_iff.2 (Manifest.writable_of_ofTree? hread)
    exact ⟨hread, ⟨hsize houtput, fun p hp => hsize (hsources p hp),
      fun p hp => hsize (hreferences p hp), hdefines⟩,
      written, hwritten, (ofTree?_of_tree? hwritten).trans h.symm⟩
  · have hread : ofTree? (P := OsPath) tree = ofTree? tree' := by
      rw [ofTree?, ofTree?, h.ofTree?_eq]
    refine ⟨hread, fun u v hu hv => ?_⟩
    cases hu.symm.trans (hread.trans hv)
    rfl

/-- A unit whose output begins with a byte that no text has is built and cannot be written. And only
the keys of a manifest may have others beside them: not the name that is the key of a table. -/
theorem manifest_of_odd_output_and_inner_key :
    let output : OsPath := ⟨⟨#[0xff, 0x2e, 0x64, 0x6c, 0x6c]⟩⟩
    let tree (target : List (String × Tree)) : Tree :=
      .table .object [("output", .text "Lib.dll"), ("target", .table .object target)]
    (∃ u : BuildUnit OsPath, (Draft.new output).build = .ok u ∧ u.output = output ∧
      u.tree? = none) ∧
    (∃ u : BuildUnit OsPath, ofTree? (tree [("player", .null)]) = some (.ok u)) ∧
    ofTree? (P := OsPath) (tree [("player", .null), ("extra", .null)]) = none := by
  intro output tree
  have hformed : (Draft.new output).WellFormed := Draft.fault?_eq_none_iff.1 (by decide)
  have hplayer : ({ Draft.new (⟨"Lib.dll".toUTF8⟩ : OsPath) with target := .player }).WellFormed :=
    Draft.fault?_eq_none_iff.1 (by decide)
  refine ⟨⟨⟨_, hformed⟩, Draft.build_of_wellFormed hformed, rfl, ?_⟩,
    ⟨⟨_, hplayer⟩, ofTree?_eq_ok_iff.2 rfl⟩, rfl⟩
  have hnone : HostPath.text? output = none := by decide
  have hencode : Tree.ofPath? output = none := by rw [Tree.ofPath?, hnone, Option.map_none]
  show (Tree.ofPath? output >>= _) = none
  rw [hencode]
  rfl

end BuildUnit

end CSharpBuild
