/-
How a command line is taken apart again. Its reader goes through it character by character: a quote
opens or closes quoting unless an odd number of backslashes stands right before it, and a blank
outside quotes ends a token (`ofLine`).

`unquote` does not ask whether quoting is open, so that quoting is undone says nothing about where a
reader sees tokens end. `Passes` follows a reader through text in which no quote is unescaped. The
inside of a quoted path is such text and leaves an even run of backslashes before the closing quote
(`passes_quoteFrom`: induction on the path with any number of backslashes held). So its first and
its last character are its unescaped quotes, and no blank in it divides it
(`quoted_path_is_one_token`).
-/
import Mathlib.Data.List.Induction
import CSharpBuild.Proofs.Quoting
import CSharpBuild.Text.Blank

namespace CSharpBuild.Token

open Text

theorem slashes_concat (text : List Char) (c : Char) :
    slashes (text ++ [c]) = if c = '\\' then slashes text + 1 else 0 := by
  rw [slashes, List.rtakeWhile_concat]
  by_cases h : c = '\\' <;> simp [h, slashes]

/-- At place `i` of a text stands a quote with an even number of backslashes right before it. -/
def UnescapedQuote (text : List Char) (i : Nat) : Prop :=
  text[i]? = some '"' ∧ slashes (text.take i) % 2 = 0

instance (text : List Char) (i : Nat) : Decidable (UnescapedQuote text i) :=
  inferInstanceAs (Decidable (_ ∧ _))

/-- Characters that neither end a token nor have a part in quoting. -/
def Unbroken (text : List Char) : Prop := ∀ c ∈ text, isBlank c = false ∧ c ≠ '"' ∧ c ≠ '\\'

instance (text : List Char) : Decidable (Unbroken text) := List.decidableBAll _ text

/-- What the reader of a line remembers: how many backslashes it has just read, and whether quoting
is open. -/
structure Scan where
  run : Nat
  quoted : Bool
  deriving DecidableEq, Repr

namespace Scan

/-- Nothing has been read. -/
def start : Scan := ⟨0, false⟩

/-- Read a character. An unescaped quote opens or closes quoting. -/
def step (s : Scan) (c : Char) : Scan where
  run := if c = '\\' then s.run + 1 else 0
  quoted := if c = '"' ∧ s.run % 2 = 0 then !s.quoted else s.quoted

/-- Read a text. -/
def scan (s : Scan) (text : List Char) : Scan := text.foldl step s

/-- A token that ends, if it has begun. -/
def ended (token : List Char) : List (List Char) := if token = [] then [] else [token]

/-- The tokens of a text when `token` has been read of the first one. A token ends at a blank outside
quotes. -/
def split (s : Scan) (token : List Char) : List Char → List (List Char)
  | [] => ended token
  | c :: rest =>
    if isBlank c ∧ s.quoted = false then ended token ++ (s.step c).split [] rest
    else (s.step c).split (token ++ [c]) rest

end Scan

/-- The tokens of a command line, with the quotes they are written with. -/
def ofLine (line : String) : List String :=
  (Scan.start.split [] line.toList).map String.ofList

namespace Scan

/-! ## One character -/

@[simp] theorem scan_nil (s : Scan) : s.scan [] = s := rfl

@[simp] theorem scan_cons (s : Scan) (c : Char) (rest : List Char) :
    s.scan (c :: rest) = (s.step c).scan rest := rfl

theorem scan_append (s : Scan) (a b : List Char) : s.scan (a ++ b) = (s.scan a).scan b :=
  List.foldl_append

@[simp] theorem step_slash (s : Scan) : s.step '\\' = ⟨s.run + 1, s.quoted⟩ := by
  simp [step]

theorem step_of_ne {c : Char} (hslash : c ≠ '\\') (hquote : c ≠ '"') (s : Scan) :
    s.step c = ⟨0, s.quoted⟩ := by
  simp [step, hslash, hquote]

theorem step_quote_of_even {s : Scan} (h : s.run % 2 = 0) : s.step '"' = ⟨0, !s.quoted⟩ := by
  simp [step, h]

theorem step_quote_of_odd {s : Scan} (h : s.run % 2 = 1) : s.step '"' = ⟨0, s.quoted⟩ := by
  simp [step, h]

theorem run_scan (text : List Char) : (start.scan text).run = slashes text := by
  induction text using List.reverseRecOn with
  | nil => rfl
  | append_singleton text c ih => rw [scan_append, slashes_concat, ← ih]; rfl

/-- **Quoting opens or closes at the unescaped quotes and nowhere else.** -/
theorem quoted_scan_take_succ_iff (text : List Char) (i : Nat) :
    (start.scan (text.take (i + 1))).quoted ≠ (start.scan (text.take i)).quoted ↔
      UnescapedQuote text i := by
  rw [List.take_add_one, scan_append, UnescapedQuote, ← run_scan]
  cases h : text[i]? with
  | none => simp
  | some c =>
    rw [Option.toList_some, scan_cons, scan_nil, Option.some_inj]
    by_cases hquote : c = '"' ∧ (start.scan (text.take i)).run % 2 = 0
    · simp [step, hquote]
    · simp [step, hquote]

/-! ## Text without unescaped quotes -/

/-- Reading a text leads from one state to another, and no quote on the way is unescaped. -/
inductive Passes : Scan → List Char → Scan → Prop
  | nil (s : Scan) : Passes s [] s
  | cons {s t : Scan} {c : Char} {rest : List Char} :
      (s.step c).quoted = s.quoted → Passes (s.step c) rest t → Passes s (c :: rest) t

namespace Passes

variable {s t r : Scan} {a b text : List Char}

theorem append (ha : Passes s a t) (hb : Passes t b r) : Passes s (a ++ b) r := by
  induction ha with
  | nil s => exact hb
  | cons hc _ ih => exact .cons hc (ih hb)

theorem scan_eq (h : Passes s text t) : s.scan text = t := by
  induction h with
  | nil s => rfl
  | cons _ _ ih => exact ih

theorem quoted_scan_take (h : Passes s text t) (n : Nat) :
    (s.scan (text.take n)).quoted = s.quoted := by
  induction h generalizing n with
  | nil s => rw [List.take_nil]; rfl
  | cons hc _ ih =>
    cases n with
    | zero => rfl
    | succ n => rw [List.take_succ_cons, scan_cons, ih n, hc]

/-- With no blank outside quotes, the whole text belongs to the token that is being read. -/
theorem split_append (h : Passes s text t)
    (hblank : ∀ c ∈ text, isBlank c = true → s.quoted = true) (token rest : List Char) :
    s.split token (text ++ rest) = t.split (token ++ text) rest := by
  induction h generalizing token with
  | nil s => rw [List.append_nil]; rfl
  | @cons s t c more hc _ ih =>
    have hinside : ¬ (isBlank c = true ∧ s.quoted = false) := by
      rintro ⟨hc, houtside⟩
      rw [hblank c List.mem_cons_self hc] at houtside
      cases houtside
    have hmore : ∀ d ∈ more, isBlank d = true → (s.step c).quoted = true := fun d hd hblankd => by
      rw [hc]
      exact hblank d (List.mem_cons_of_mem c hd) hblankd
    rw [List.cons_append, split, if_neg hinside, ih hmore, List.append_assoc,
      List.singleton_append]

end Passes

theorem passes_replicate (run : Nat) (quoted : Bool) (n : Nat) :
    Passes ⟨run, quoted⟩ (List.replicate n '\\') ⟨run + n, quoted⟩ := by
  induction n generalizing run with
  | zero => exact .nil _
  | succ n ih =>
    have hrest := ih (run + 1)
    rw [Nat.add_assoc, Nat.add_comm 1 n] at hrest
    exact .cons (by rw [step_slash]) (by rw [step_slash]; exact hrest)

theorem passes_of_plain {text : List Char} (h : Plain text) (quoted : Bool) :
    Passes ⟨0, quoted⟩ text ⟨0, quoted⟩ := by
  induction text with
  | nil => exact .nil _
  | cons c rest ih =>
    obtain ⟨hslash, hquote⟩ := h c List.mem_cons_self
    have hstep : step ⟨0, quoted⟩ c = ⟨0, quoted⟩ := step_of_ne hslash hquote _
    have hrest := ih fun d hd => h d (List.mem_cons_of_mem c hd)
    exact .cons (by rw [hstep]) (by rw [hstep]; exact hrest)

/-- The inside of a quoted path leaves an even run of backslashes before the quote that closes it. -/
theorem passes_quoteFrom (held : Nat) (path : List Char) :
    ∃ n, Passes ⟨0, true⟩ (quoteFrom held path) ⟨2 * n, true⟩ := by
  have hrun (n : Nat) : Passes ⟨0, true⟩ (List.replicate n '\\') ⟨n, true⟩ := by
    simpa using passes_replicate 0 true n
  induction path generalizing held with
  | nil => exact ⟨held, hrun (2 * held)⟩
  | cons c rest ih =>
    rw [quoteFrom]
    by_cases hslash : c = '\\'
    · rw [if_pos hslash]
      exact ih (held + 1)
    obtain ⟨n, hrest⟩ := ih 0
    by_cases hquote : c = '"'
    -- The quote stands behind an odd run, so it is escaped.
    · rw [if_neg hslash, if_pos hquote, hquote]
      have hstep : step ⟨2 * held + 1, true⟩ '"' = ⟨0, true⟩ := step_quote_of_odd (by simp)
      exact ⟨n, (hrun _).append (.cons (by rw [hstep]) (by rw [hstep]; exact hrest))⟩
    · rw [if_neg hslash, if_neg hquote]
      have hstep : step ⟨held, true⟩ c = ⟨0, true⟩ := step_of_ne hslash hquote _
      exact ⟨n, (hrun _).append (.cons (by rw [hstep]) (by rw [hstep]; exact hrest))⟩

/-! ## The quotes of a quoted path -/

theorem length_quoteChars (path : List Char) :
    (quoteChars path).length = (quoteFrom 0 path).length + 2 := by
  simp [quoteChars]

/-- Quoting is open behind the first character of a quoted path and up to its last. -/
theorem quoted_scan_take_quoteChars_iff (path : List Char) (n : Nat) :
    (start.scan ((quoteChars path).take n)).quoted = true ↔
      0 < n ∧ n < (quoteChars path).length := by
  obtain ⟨run, hinside⟩ := passes_quoteFrom 0 path
  rw [length_quoteChars]
  cases n with
  | zero => simp [start]
  | succ n =>
    have hopen : start.step '"' = ⟨0, true⟩ := rfl
    rw [quoteChars, List.cons_append, List.take_succ_cons, scan_cons, hopen]
    by_cases hn : n ≤ (quoteFrom 0 path).length
    · rw [List.take_append_of_le_length hn, hinside.quoted_scan_take]
      exact iff_of_true rfl (by omega)
    · have hall : (quoteFrom 0 path ++ ['"']).length ≤ n := by simp; omega
      rw [List.take_of_length_le hall, scan_append, hinside.scan_eq, scan_cons, scan_nil,
        step_quote_of_even (Nat.mul_mod_right 2 run)]
      exact iff_of_false Bool.false_ne_true (by omega)

/-- **The unescaped quotes of a quoted path are its first and its last character.** -/
theorem unescapedQuote_quoteChars_iff (path : List Char) (i : Nat) :
    UnescapedQuote (quoteChars path) i ↔ i = 0 ∨ i + 1 = (quoteChars path).length := by
  have hlength := length_quoteChars path
  rw [← quoted_scan_take_succ_iff, ne_eq, Bool.eq_iff_iff, quoted_scan_take_quoteChars_iff,
    quoted_scan_take_quoteChars_iff]
  omega

/-! ## Lines of tokens -/

/-- A reader outside quotes takes all of a text for one token, or for more of it. -/
def Whole (text : List Char) : Prop :=
  text ≠ [] ∧ ∀ token rest, start.split token (text ++ rest) = start.split (token ++ text) rest

theorem whole_append_quoteChars {flag : List Char} (h : Unbroken flag) (path : List Char) :
    Whole (flag ++ quoteChars path) := by
  refine ⟨by simp [quoteChars], fun token rest => ?_⟩
  have hflag : Passes start flag start :=
    passes_of_plain (fun c hc => ⟨(h c hc).2.2, (h c hc).2.1⟩) false
  have hflagblank : ∀ c ∈ flag, isBlank c = true → start.quoted = true := fun c hc hblank => by
    rw [(h c hc).1] at hblank
    cases hblank
  obtain ⟨n, hinside⟩ := passes_quoteFrom 0 path
  have hopen (token rest : List Char) :
      start.split token ('"' :: rest) = split ⟨0, true⟩ (token ++ ['"']) rest := rfl
  have hclose (token rest : List Char) :
      split ⟨2 * n, true⟩ token ('"' :: rest) = start.split (token ++ ['"']) rest := by
    rw [split, if_neg (by simp), step_quote_of_even (Nat.mul_mod_right 2 n)]
    rfl
  calc
    start.split token (flag ++ quoteChars path ++ rest)
      = start.split token (flag ++ '"' :: (quoteFrom 0 path ++ '"' :: rest)) := by
        simp [quoteChars]
    _ = split ⟨0, true⟩ (token ++ flag ++ ['"']) (quoteFrom 0 path ++ '"' :: rest) := by
        rw [hflag.split_append hflagblank, hopen]
    _ = start.split (token ++ flag ++ ['"'] ++ quoteFrom 0 path ++ ['"']) rest := by
        rw [hinside.split_append fun _ _ _ => rfl, hclose]
    _ = start.split (token ++ (flag ++ quoteChars path)) rest := by
        simp [quoteChars]

theorem split_intercalate {tokens : List (List Char)} (h : ∀ t ∈ tokens, Whole t) :
    start.split [] ([' '].intercalate tokens) = tokens := by
  induction tokens with
  | nil => rfl
  | cons t tokens ih =>
    obtain ⟨hne, hwhole⟩ := h t List.mem_cons_self
    have hended : ended t = [t] := if_neg hne
    cases tokens with
    | nil =>
      have hlast := hwhole [] []
      rw [List.append_nil] at hlast
      rw [List.intercalate_singleton, hlast]
      exact hended
    | cons next tokens =>
      have hrest := ih fun t ht => h t (List.mem_cons_of_mem _ ht)
      have hspace : start.step ' ' = start := rfl
      rw [List.intercalate_cons_cons, List.append_assoc, hwhole, List.singleton_append,
        List.nil_append, split, if_pos (by decide), hended, hspace, hrest]
      rfl

end Scan

/-- **A quoted path is one token.** Its unescaped quotes are its first and its last character, and
tokens that are flags with quoted paths behind them come out of the line they were put in. -/
theorem quoted_path_is_one_token :
    (∀ (path : Path) (i : Nat), UnescapedQuote (quote path).toList i ↔
      i = 0 ∨ i + 1 = (quote path).toList.length) ∧
    ∀ tokens : List String,
      (∀ token ∈ tokens, ∃ (flag : String) (path : Path), token = flag ++ quote path ∧
        Unbroken flag.toList) →
      ofLine (" ".intercalate tokens) = tokens := by
  refine ⟨fun path i => ?_, fun tokens h => ?_⟩
  · rw [toList_quote]
    exact Scan.unescapedQuote_quoteChars_iff _ i
  · have hwhole : ∀ t ∈ tokens.map String.toList, Scan.Whole t := by
      intro t ht
      obtain ⟨token, htoken, rfl⟩ := List.mem_map.1 ht
      obtain ⟨flag, path, rfl, hflag⟩ := h token htoken
      rw [String.toList_append, toList_quote]
      exact Scan.whole_append_quoteChars hflag _
    have hspace : " ".toList = [' '] := rfl
    rw [ofLine, String.toList_intercalate, hspace, Scan.split_intercalate hwhole, List.map_map]
    exact List.map_id'' (fun _ => String.ofList_toList) tokens

/-- Blanks, quotes and backslashes next to the quotes that enclose a path do not divide it. -/
theorem awkward_paths_are_tokens :
    let tokens := ["-out:\"My \\\"Game\\\"\\\\\"", "\"\"", "\"\\\\\\\" A.cs\"", "@\"a b\\\\\\\\\""]
    tokens = ["-out:" ++ quote ⟨"My \"Game\"\\"⟩, quote ⟨""⟩, quote ⟨"\\\" A.cs"⟩,
      "@" ++ quote ⟨"a b\\\\"⟩] ∧
    ofLine (" ".intercalate tokens) = tokens := by
  intro tokens
  have htokens : tokens = ["-out:" ++ quote ⟨"My \"Game\"\\"⟩, "" ++ quote ⟨""⟩,
      "" ++ quote ⟨"\\\" A.cs"⟩, "@" ++ quote ⟨"a b\\\\"⟩] := by decide
  refine ⟨htokens, quoted_path_is_one_token.2 tokens fun token htoken => ?_⟩
  simp only [htokens, List.mem_cons, List.not_mem_nil, or_false] at htoken
  rcases htoken with rfl | rfl | rfl | rfl <;> exact ⟨_, _, rfl, by decide⟩

end CSharpBuild.Token
