/-
Registries of providers, one for each language. Registering a provider for a language that has one
replaces it and hands the old one back, which is how a host swaps a built-in compiler for another.

The registry keeps no language twice and its providers in no order that counts; only a listing of
the languages is sorted, by code point. `get?_register_self`, `get?_register_of_ne` and
`languages_register` say what registering does.
-/
import CSharpBuild.Compiler.Compile

namespace CSharpBuild

/-- Something that compiles the units of one language, with effects in `m`. -/
structure Provider (m : Type → Type) where
  language : String
  compile : BuildUnit → m (Except Failure Compiled)

/-- Providers, each under its language. -/
structure Registry (m : Type → Type) where
  providers : List (Provider m)

namespace Registry

variable {m : Type → Type}

/-- A registry without providers. -/
def empty : Registry m := ⟨[]⟩

/-- The provider of a language. -/
def get? (r : Registry m) (language : String) : Option (Provider m) :=
  r.providers.find? (·.language = language)

/-- Put a provider in the place of the one with the same language, or behind all others. -/
def insert (p : Provider m) : List (Provider m) → List (Provider m)
  | [] => [p]
  | q :: rest => if p.language = q.language then p :: rest else q :: insert p rest

/-- Register a provider. The answer has the provider it replaces, if any. -/
def register (r : Registry m) (p : Provider m) : Registry m × Option (Provider m) :=
  (⟨insert p r.providers⟩, r.get? p.language)

/-- What the log says when a provider is registered: something only if it replaces one. -/
def registerEntries (r : Registry m) (p : Provider m) : List LogEntry :=
  if (r.get? p.language).isSome then
    [.debug ("replaced provider for `" ++ p.language ++ "`")]
  else []

/-- The registered languages, in order. -/
def languages (r : Registry m) : List String :=
  (r.providers.map Provider.language).mergeSort fun a b => a ≤ b

/-- How many languages have a provider. -/
def size (r : Registry m) : Nat := r.providers.length

/-- Whether no language has a provider. -/
def isEmpty (r : Registry m) : Bool := r.providers.isEmpty

/-- Compile a unit with the provider of a language. -/
def compile [Pure m] (r : Registry m) (language : String) (u : BuildUnit) :
    m (Except Failure Compiled) :=
  match r.get? language with
  | some p => p.compile u
  | none => pure (.error (.unknownLanguage language))

theorem find?_insert_self (p : Provider m) (ps : List (Provider m)) :
    (insert p ps).find? (·.language = p.language) = some p := by
  induction ps with
  | nil => simp [insert]
  | cons q rest ih =>
    rw [insert]
    split
    · simp
    · next hne =>
      rw [List.find?_cons_of_neg (by simpa using fun h => hne h.symm)]
      exact ih

theorem find?_insert_of_ne (p : Provider m) (ps : List (Provider m)) {language : String}
    (h : language ≠ p.language) :
    (insert p ps).find? (·.language = language) = ps.find? (·.language = language) := by
  induction ps with
  | nil => simp [insert, h.symm]
  | cons q rest ih =>
    rw [insert]
    split
    · next heq =>
      rw [List.find?_cons_of_neg (by simpa using h.symm),
        List.find?_cons_of_neg (by simpa [← heq] using h.symm)]
    · rw [List.find?_cons, List.find?_cons, ih]

theorem get?_register_self (r : Registry m) (p : Provider m) :
    (r.register p).1.get? p.language = some p :=
  find?_insert_self p r.providers

theorem get?_register_of_ne (r : Registry m) (p : Provider m) {language : String}
    (h : language ≠ p.language) : (r.register p).1.get? language = r.get? language :=
  find?_insert_of_ne p r.providers h

theorem mem_languages {r : Registry m} {language : String} :
    language ∈ r.languages ↔ language ∈ r.providers.map Provider.language :=
  List.mem_mergeSort

theorem mem_map_insert (p : Provider m) (ps : List (Provider m)) {language : String} :
    language ∈ (insert p ps).map Provider.language ↔
      language = p.language ∨ language ∈ ps.map Provider.language := by
  induction ps with
  | nil => simp [insert]
  | cons q rest ih =>
    rw [insert]
    split
    · next heq => simp [← heq]
    · rw [List.map_cons, List.mem_cons, ih, List.map_cons, List.mem_cons]
      exact or_left_comm

/-- The languages after registering are those before and the new one. -/
theorem languages_register (r : Registry m) (p : Provider m) {language : String} :
    language ∈ (r.register p).1.languages ↔ language = p.language ∨ language ∈ r.languages :=
  mem_languages.trans ((mem_map_insert p r.providers).trans (or_congr_right mem_languages.symm))

end Registry

end CSharpBuild
