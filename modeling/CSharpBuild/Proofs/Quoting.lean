/-
Quoting is undone by resolving it, whatever the path: `unquote_quote`, and `unquote_append_quote`
for a token that begins with a flag. `quote_round_trip` says which flags leave a quoted path intact.

Both directions hold a run of backslashes until the next character is known, so the induction is on
the path with any number of backslashes held (`unquoteFrom_quoteFrom`): what `quoteFrom` still owes is
what `unquoteFrom` gives back in front.
-/
import Mathlib.Data.List.DropRight
import CSharpBuild.Token

namespace CSharpBuild.Token

/-- Characters that quoting does not touch. -/
def Plain (text : List Char) : Prop := ∀ c ∈ text, c ≠ '\\' ∧ c ≠ '"'

instance (text : List Char) : Decidable (Plain text) := List.decidableBAll _ text

theorem unquoteFrom_replicate (held n : Nat) (rest : List Char) :
    unquoteFrom held (List.replicate n '\\' ++ rest) = unquoteFrom (held + n) rest := by
  induction n generalizing held with
  | zero => rfl
  | succ n ih =>
    rw [List.replicate_succ, List.cons_append, unquoteFrom, if_pos rfl, ih]
    congr 1
    omega

/-- An even run of backslashes before a quote is halved, and the quote is dropped. -/
theorem unquoteFrom_even_quote (n : Nat) (rest : List Char) :
    unquoteFrom (2 * n) ('"' :: rest) = List.replicate n '\\' ++ unquoteFrom 0 rest := by
  have hhalf : 2 * n / 2 = n := by omega
  have heven : ¬ 2 * n % 2 = 1 := by omega
  rw [unquoteFrom, if_neg (by decide), if_pos rfl, hhalf, if_neg heven, List.append_nil]

/-- An odd run of backslashes before a quote is halved, and the quote stays. -/
theorem unquoteFrom_odd_quote (n : Nat) (rest : List Char) :
    unquoteFrom (2 * n + 1) ('"' :: rest) = List.replicate n '\\' ++ '"' :: unquoteFrom 0 rest := by
  have hhalf : (2 * n + 1) / 2 = n := by omega
  have hodd : (2 * n + 1) % 2 = 1 := by omega
  rw [unquoteFrom, if_neg (by decide), if_pos rfl, hhalf, if_pos hodd, List.append_assoc]
  rfl

theorem unquoteFrom_cons_of_ne {c : Char} (hslash : c ≠ '\\') (hquote : c ≠ '"') (held : Nat)
    (rest : List Char) :
    unquoteFrom held (c :: rest) = List.replicate held '\\' ++ c :: unquoteFrom 0 rest := by
  rw [unquoteFrom, if_neg hslash, if_neg hquote]

/-- With the closing quote after it, the inside of a quoted token stands for the path, behind the
backslashes that were held. -/
theorem unquoteFrom_quoteFrom (held : Nat) (path : List Char) :
    unquoteFrom 0 (quoteFrom held path ++ ['"']) = List.replicate held '\\' ++ path := by
  induction path generalizing held with
  | nil =>
    rw [quoteFrom, unquoteFrom_replicate, Nat.zero_add, unquoteFrom_even_quote]
    rfl
  | cons c rest ih =>
    rw [quoteFrom]
    by_cases hslash : c = '\\'
    · rw [if_pos hslash, ih, List.replicate_succ', List.append_assoc, hslash]
      rfl
    by_cases hquote : c = '"'
    -- The quote is written behind an odd run, which leaves it in place when it is halved.
    · rw [if_neg hslash, if_pos hquote, List.append_assoc, List.cons_append, hquote,
        unquoteFrom_replicate, Nat.zero_add, unquoteFrom_odd_quote, ih]
      rfl
    · rw [if_neg hslash, if_neg hquote, List.append_assoc, List.cons_append,
        unquoteFrom_replicate, Nat.zero_add, unquoteFrom_cons_of_ne hslash hquote, ih]
      rfl

theorem unquoteFrom_quoteChars (path : List Char) : unquoteFrom 0 (quoteChars path) = path := by
  rw [quoteChars, List.cons_append, unquoteFrom, if_neg (by decide), if_pos rfl,
    unquoteFrom_quoteFrom]
  rfl

/-! ## Texts side by side, and texts without quotes -/

/-- A text that does not end in a backslash is resolved for itself, whatever follows it. -/
theorem unquoteFrom_append {lead : List Char} {held : Nat} (hheld : lead = [] → held = 0)
    (hlast : lead.getLast? ≠ some '\\') (rest : List Char) :
    unquoteFrom held (lead ++ rest) = unquoteFrom held lead ++ unquoteFrom 0 rest := by
  induction lead generalizing held with
  | nil => rw [hheld rfl]; rfl
  | cons c lead ih =>
    have hend : lead.getLast? ≠ some '\\' := fun h => hlast (by simp [List.getLast?_cons, h])
    rw [List.cons_append, unquoteFrom, unquoteFrom]
    by_cases hslash : c = '\\'
    · have hmore : lead ≠ [] := by
        rintro rfl
        exact hlast (congrArg some hslash)
      rw [if_pos hslash, if_pos hslash, ih (fun h => absurd h hmore) hend]
    by_cases hquote : c = '"'
    · rw [if_neg hslash, if_pos hquote, if_neg hslash, if_pos hquote, ih (fun _ => rfl) hend,
        List.append_assoc _ (unquoteFrom 0 lead)]
    · rw [if_neg hslash, if_neg hquote, if_neg hslash, if_neg hquote, ih (fun _ => rfl) hend,
        List.append_assoc]
      rfl

theorem unquoteFrom_of_not_mem {text : List Char} (h : '"' ∉ text) (held : Nat) :
    unquoteFrom held text = List.replicate held '\\' ++ text := by
  induction text generalizing held with
  | nil => simp [unquoteFrom]
  | cons c rest ih =>
    simp only [List.mem_cons, not_or] at h
    obtain ⟨hquote, hrest⟩ := h
    by_cases hslash : c = '\\'
    · rw [unquoteFrom, if_pos hslash, ih hrest, List.replicate_succ', List.append_assoc, hslash]
      rfl
    · rw [unquoteFrom_cons_of_ne hslash (Ne.symm hquote), ih hrest]
      rfl

/-- Of a quote, what is left is one character if the run of backslashes before it is odd. -/
theorem length_kept_quote (held : Nat) :
    (if held % 2 = 1 then ['"'] else []).length = held % 2 := by
  split <;> simp <;> omega

/-- Resolving writes no more than was read, and less as soon as it reads a quote: of a quote and the
backslashes before it, the quote or one of them at least is gone. -/
theorem length_unquoteFrom (held : Nat) (text : List Char) :
    (unquoteFrom held text).length ≤ held + text.length ∧
      ('"' ∈ text → (unquoteFrom held text).length < held + text.length) := by
  induction text generalizing held with
  | nil => simp [unquoteFrom]
  | cons c rest ih =>
    obtain ⟨hle, hlt⟩ := ih 0
    by_cases hslash : c = '\\'
    · obtain ⟨hle, hlt⟩ := ih (held + 1)
      rw [unquoteFrom, if_pos hslash, List.length_cons]
      refine ⟨by omega, fun hmem => ?_⟩
      have hrest : '"' ∈ rest := by simpa [hslash] using hmem
      have := hlt hrest
      omega
    by_cases hquote : c = '"'
    · rw [unquoteFrom, if_neg hslash, if_pos hquote, List.length_append, List.length_append,
        List.length_replicate, length_kept_quote, List.length_cons]
      omega
    · rw [unquoteFrom_cons_of_ne hslash hquote, List.length_append, List.length_replicate,
        List.length_cons, List.length_cons]
      refine ⟨by omega, fun hmem => ?_⟩
      have hrest : '"' ∈ rest := by simpa [Ne.symm hquote] using hmem
      have := hlt hrest
      omega

/-- **A text is left alone exactly if there is no quote in it.** -/
theorem unquote_eq_self_iff {text : String} : unquote text = text ↔ '"' ∉ text.toList := by
  constructor
  · intro h hmem
    have hlt := (length_unquoteFrom 0 text.toList).2 hmem
    rw [← toList_unquote, h] at hlt
    omega
  · intro h
    apply String.toList_injective
    rw [toList_unquote, unquoteFrom_of_not_mem h]
    rfl

/-- Plain characters in front stay in front. -/
theorem unquoteFrom_append_of_plain {lead : List Char} (h : Plain lead) (rest : List Char) :
    unquoteFrom 0 (lead ++ rest) = lead ++ unquoteFrom 0 rest := by
  have hlast : lead.getLast? ≠ some '\\' := fun hslash => (h _ (List.mem_of_getLast? hslash)).1 rfl
  have hquote : '"' ∉ lead := fun hmem => (h _ hmem).2 rfl
  rw [unquoteFrom_append (fun _ => rfl) hlast, unquoteFrom_of_not_mem hquote]
  rfl

theorem unquote_append_of_plain {lead : String} (h : Plain lead.toList) (rest : String) :
    unquote (lead ++ rest) = lead ++ unquote rest := by
  apply String.toList_injective
  rw [toList_unquote, String.toList_append, unquoteFrom_append_of_plain h, String.toList_append,
    toList_unquote]

theorem unquote_of_plain {text : String} (h : Plain text.toList) : unquote text = text :=
  unquote_eq_self_iff.2 fun hmem => (h _ hmem).2 rfl

/-! ## Quoted paths -/

/-- **A quoted path reaches the child as it is.** -/
theorem unquote_quote (path : Path) : unquote (quote path) = path.text := by
  apply String.toList_injective
  rw [toList_unquote, toList_quote, unquoteFrom_quoteChars]

/-- **So does a quoted path behind a flag.** -/
theorem unquote_append_quote {flag : String} (h : Plain flag.toList) (path : Path) :
    unquote (flag ++ quote path) = flag ++ path.text := by
  rw [unquote_append_of_plain h, unquote_quote]

/-! ## Flags of any kind -/

/-- How many backslashes a text ends in. -/
def slashes (text : List Char) : Nat := (text.rtakeWhile (· = '\\')).length

theorem rdropWhile_append_slashes (text : List Char) :
    text.rdropWhile (· = '\\') ++ List.replicate (slashes text) '\\' = text := by
  have hrun : text.rtakeWhile (· = '\\') = List.replicate (slashes text) '\\' :=
    List.eq_replicate_iff.2 ⟨rfl, fun c hc => by simpa using List.mem_rtakeWhile_imp hc⟩
  rw [← hrun, List.rdropWhile_append_rtakeWhile]

theorem getLast?_rdropWhile_slash (text : List Char) :
    (text.rdropWhile (· = '\\')).getLast? ≠ some '\\' := by
  intro hlast
  have hne : text.rdropWhile (· = '\\') ≠ [] := by
    intro h
    rw [h] at hlast
    cases hlast
  rw [List.getLast?_eq_some_getLast hne, Option.some_inj] at hlast
  exact List.rdropWhile_last_not _ _ hne (decide_eq_true hlast)

/-- A text is what stands before the backslashes at its end, and these. -/
theorem exists_eq_append_slashes (text : List Char) :
    ∃ lead, text = lead ++ List.replicate (slashes text) '\\' ∧ lead.getLast? ≠ some '\\' :=
  ⟨_, (rdropWhile_append_slashes text).symm, getLast?_rdropWhile_slash text⟩

/-- Backslashes that are held belong to the quote that opens a path: half of them are left, and one
character more when their number is odd. -/
theorem length_unquoteFrom_quoteChars (held : Nat) (path : List Char) :
    (unquoteFrom held (quoteChars path)).length = held / 2 + held % 2 + path.length := by
  rw [quoteChars, List.cons_append, unquoteFrom, if_neg (by decide), if_pos rfl,
    unquoteFrom_quoteFrom, List.length_append, List.length_append, List.length_replicate,
    length_kept_quote]
  rfl

theorem unquoteFrom_append_quoteChars_iff {flag path : List Char} :
    unquoteFrom 0 (flag ++ quoteChars path) = flag ++ path ↔
      '"' ∉ flag ∧ flag.getLast? ≠ some '\\' := by
  constructor
  · intro h
    obtain ⟨lead, hflag, hlead⟩ := exists_eq_append_slashes flag
    generalize slashes flag = n at hflag
    subst hflag
    rw [List.append_assoc, unquoteFrom_append (fun _ => rfl) hlead, unquoteFrom_replicate,
      Nat.zero_add] at h
    -- By its length, what is read has lost no quote and at most one backslash is before the path.
    have hlength := congrArg List.length h
    simp only [List.length_append, List.length_replicate, length_unquoteFrom_quoteChars] at hlength
    obtain ⟨hle, hlt⟩ := length_unquoteFrom 0 lead
    have hquote : '"' ∉ lead := fun hmem => by
      have := hlt hmem
      omega
    have hn : n = 0 ∨ n = 1 := by omega
    rcases hn with rfl | rfl
    · simpa using ⟨hquote, hlead⟩
    · have hone := unquoteFrom_odd_quote 0 (quoteFrom 0 path ++ ['"'])
      rw [quoteChars, List.cons_append, hone, unquoteFrom_of_not_mem hquote] at h
      simp at h
  · rintro ⟨hquote, hlast⟩
    rw [unquoteFrom_append (fun _ => rfl) hlast, unquoteFrom_quoteChars,
      unquoteFrom_of_not_mem hquote]
    rfl

theorem quote_injective : Function.Injective quote := by
  have hleft : Function.LeftInverse (fun token => ⟨unquote token⟩ : String → Path) quote :=
    fun path => congrArg Path.mk (unquote_quote path)
  exact hleft.injective

/-- **Behind exactly those flags that have no quote in them and do not end in a backslash, quoting
is undone for every path.** So no two paths are quoted alike. -/
theorem quote_round_trip :
    (∀ (flag : String) (path : Path), unquote (flag ++ quote path) = flag ++ path.text ↔
      '"' ∉ flag.toList ∧ flag.toList.getLast? ≠ some '\\') ∧
    Function.Injective quote := by
  refine ⟨fun flag path => ?_, quote_injective⟩
  rw [← @unquoteFrom_append_quoteChars_iff flag.toList path.text.toList, ← String.toList_inj,
    toList_unquote, String.toList_append, String.toList_append, toList_quote]

-- A backslash at the end of a flag makes the quote that opens the path a part of it.
example : unquote ("-out:\\" ++ quote ⟨"A.dll"⟩) = "-out:\"A.dll" := by decide

end CSharpBuild.Token
