/-
What resolving quoting does to a whole token, run by run. The quotes of a token divide it into
pieces. Each piece but the last has a quote behind it, and the backslashes at its end are the run
that belongs to this quote: half of them are left, and the quote only if their number is odd
(`resolvePiece`). All else stays (`unquoteFrom_eq_resolvePieces`).

`unquoteFrom` counts the backslashes of a run before it knows what comes after it. The lemma for one
piece (`unquoteFrom_piece`) lets the count go: after a quote none are held. The induction is then on
the text behind the first quote.
-/
import Mathlib.Data.String.Basic
import CSharpBuild.Proofs.Quoting

namespace CSharpBuild.Token

/-- What the quote behind `n` backslashes and these backslashes stand for. -/
def resolveRun (n : Nat) : List Char :=
  List.replicate (n / 2) '\\' ++ if n % 2 = 1 then ['"'] else []

/-- What a piece of a token stands for that has a quote behind it. -/
def resolvePiece (piece : List Char) : List Char :=
  piece.rdropWhile (· = '\\') ++ resolveRun (slashes piece)

/-- What the pieces between the quotes of a token stand for. -/
def resolvePieces : List (List Char) → List Char
  | [] => []
  | [last] => last
  | piece :: pieces => resolvePiece piece ++ resolvePieces pieces

theorem resolvePieces_cons {pieces : List (List Char)} (h : pieces ≠ []) (piece : List Char) :
    resolvePieces (piece :: pieces) = resolvePiece piece ++ resolvePieces pieces := by
  cases pieces with
  | nil => exact absurd rfl h
  | cons => rfl

/-- A run of backslashes and the quote behind it are resolved together. -/
theorem unquoteFrom_run (n : Nat) (rest : List Char) :
    unquoteFrom 0 (List.replicate n '\\' ++ '"' :: rest) = resolveRun n ++ unquoteFrom 0 rest := by
  rw [unquoteFrom_replicate, Nat.zero_add, unquoteFrom, if_neg (by decide), if_pos rfl, resolveRun]

/-- A run is maximal when the text before it does not end in a backslash. -/
theorem unquoteFrom_append_run {before : List Char} (h : before.getLast? ≠ some '\\') (n : Nat)
    (rest : List Char) :
    unquoteFrom 0 (before ++ List.replicate n '\\' ++ '"' :: rest) =
      unquoteFrom 0 before ++ resolveRun n ++ unquoteFrom 0 rest := by
  rw [List.append_assoc, unquoteFrom_append (fun _ => rfl) h, unquoteFrom_run, List.append_assoc]

/-- A piece is resolved together with the quote behind it, and nothing is held from there on. -/
theorem unquoteFrom_piece {piece : List Char} (h : '"' ∉ piece) (rest : List Char) :
    unquoteFrom 0 (piece ++ '"' :: rest) = resolvePiece piece ++ unquoteFrom 0 rest := by
  have hlead : '"' ∉ piece.rdropWhile (· = '\\') := fun hmem =>
    h ((List.rdropWhile_prefix _ piece).subset hmem)
  calc unquoteFrom 0 (piece ++ '"' :: rest)
    _ = unquoteFrom 0 (piece.rdropWhile (· = '\\') ++ List.replicate (slashes piece) '\\'
        ++ '"' :: rest) := by rw [rdropWhile_append_slashes]
    _ = resolvePiece piece ++ unquoteFrom 0 rest := by
      rw [unquoteFrom_append_run (getLast?_rdropWhile_slash piece), unquoteFrom_of_not_mem hlead]
      rfl

/-- **Of a text, the pieces between its quotes are resolved one by one.** -/
theorem unquoteFrom_eq_resolvePieces (text : List Char) :
    unquoteFrom 0 text = resolvePieces (text.splitOn '"') := by
  by_cases h : '"' ∈ text
  · obtain ⟨piece, rest, htext, hpiece⟩ := List.eq_append_cons_of_mem h
    have hshorter : rest.length < text.length := by
      rw [htext, List.length_append, List.length_cons]
      omega
    rw [htext, unquoteFrom_piece hpiece, List.splitOn_append_cons_self_of_not_mem hpiece,
      unquoteFrom_eq_resolvePieces rest, resolvePieces_cons (List.splitOn_ne_nil '"' rest)]
  · rw [unquoteFrom_of_not_mem h, List.splitOn_eq_singleton h]
    rfl
termination_by text.length

theorem resolveRun_sublist (n : Nat) :
    (resolveRun n).Sublist (List.replicate n '\\' ++ ['"']) := by
  refine List.Sublist.append (List.replicate_sublist_replicate _ |>.2 (by omega)) ?_
  split <;> simp

/-- Resolving leaves characters out and puts none in. -/
theorem unquoteFrom_sublist (held : Nat) (text : List Char) :
    (unquoteFrom held text).Sublist (List.replicate held '\\' ++ text) := by
  induction text generalizing held with
  | nil => simp [unquoteFrom]
  | cons c rest ih =>
    by_cases hslash : c = '\\'
    · rw [unquoteFrom, if_pos hslash, hslash, List.append_cons, ← List.replicate_succ']
      exact ih (held + 1)
    by_cases hquote : c = '"'
    · rw [unquoteFrom, if_neg hslash, if_pos hquote, hquote, List.append_cons]
      exact (resolveRun_sublist held).append (ih 0)
    · rw [unquoteFrom_cons_of_ne hslash hquote]
      exact ((ih 0).cons_cons c).append_left _

/-- **What resolving does to a token.** Every run of backslashes before a quote is halved, and the
quote stays exactly if the run is odd; all else is kept, in order. So a token is left alone exactly
if there is no quote in it, nothing is ever put in, and two texts side by side are resolved each for
itself unless a run may reach from the first into the second. -/
theorem unquote_resolves_runs (token : String) :
    unquote token = String.ofList (resolvePieces (token.toList.splitOn '"')) ∧
    (∀ before n after, token = String.ofList (before ++ List.replicate n '\\' ++ '"' :: after) →
      before.getLast? ≠ some '\\' →
        unquote token = unquote (String.ofList before) ++
          String.ofList (List.replicate (n / 2) '\\' ++ if n % 2 = 1 then ['"'] else []) ++
          unquote (String.ofList after)) ∧
    (unquote token = token ↔ '"' ∉ token.toList) ∧
    (unquote token).toList.Sublist token.toList ∧
    (unquote token).length ≤ token.length ∧ (unquote token).utf8ByteSize ≤ token.utf8ByteSize ∧
    ∀ rest, token.toList.getLast? ≠ some '\\' →
      unquote (token ++ rest) = unquote token ++ unquote rest := by
  have hsub : (unquote token).toList.Sublist token.toList := by
    rw [toList_unquote]
    exact unquoteFrom_sublist 0 token.toList
  refine ⟨congrArg String.ofList (unquoteFrom_eq_resolvePieces token.toList), ?_,
    unquote_eq_self_iff, hsub, ?_, ?_, fun rest hlast => ?_⟩
  · rintro before n after rfl hbefore
    apply String.toList_injective
    rw [toList_unquote, String.toList_ofList, unquoteFrom_append_run hbefore]
    simp [resolveRun]
  · simpa only [String.length_toList] using hsub.length_le
  · have hbytes := String.utf8Len_le_of_sublist hsub
    rwa [← String.utf8ByteSize_ofList, ← String.utf8ByteSize_ofList, String.ofList_toList,
      String.ofList_toList] at hbytes
  · apply String.toList_injective
    rw [toList_unquote, String.toList_append, unquoteFrom_append (fun _ => rfl) hlast,
      String.toList_append, toList_unquote, toList_unquote]

/-- Runs of three, of two and of no backslashes before a quote, and of two before none. -/
theorem unquote_resolves_mixed_runs :
    let token := "a\\\\b\\\\\\\"c\"\\\\\" d\\"
    unquote token = "a\\\\b\\\"c\\ d\\" ∧
    unquote token = unquote "a\\\\b" ++ "\\\"" ++ unquote "c\"\\\\\" d\\" ∧
    unquote ("a\\\\b\\\\\\\"c" ++ "\"\\\\\" d\\") =
      unquote "a\\\\b\\\\\\\"c" ++ unquote "\"\\\\\" d\\" := by
  intro token
  obtain ⟨hpieces, hrun, -, -, -, -, -⟩ := unquote_resolves_runs token
  obtain ⟨-, -, -, -, -, -, happend⟩ := unquote_resolves_runs "a\\\\b\\\\\\\"c"
  exact ⟨hpieces.trans (by decide),
    hrun "a\\\\b".toList 3 "c\"\\\\\" d\\".toList (by decide) (by decide),
    happend "\"\\\\\" d\\" (by decide)⟩

end CSharpBuild.Token
