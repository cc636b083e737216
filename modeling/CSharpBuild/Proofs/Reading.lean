/-
How the child reads its arguments. It tells a response file and an option from a source by the first
character, and what it looks at is the argument with its quoting resolved.

A flag keeps its head when it is resolved, so it is read as what it was meant as. A source loses the
quotation marks that set it apart: `compose_child_reads` says that it is read as something else
exactly when its path begins that way, as in `source_read_as_option`.
-/
import CSharpBuild.Doubles.FileSet
import CSharpBuild.Doubles.Sample
import CSharpBuild.Proofs.Arrival

namespace CSharpBuild

open Text

namespace Arg

/-- The beginnings by which the child knows a response file and an option. -/
def marks : List String := ["@", "-"]

/-- A mark is a single character, so what follows a head does not make one. -/
theorem startsWith_head_append {head mark : String} (hh : head ∈ heads) (hm : mark ∈ marks)
    (rest : String) : startsWith (head ++ rest) mark = startsWith head mark := by
  have hshort : ∀ h ∈ heads, ∀ m ∈ marks, startsWith m h = true → startsWith h m = true := by decide
  rw [Bool.eq_iff_iff]
  refine ⟨fun h => ?_, fun h => startsWith_append_of_startsWith h rest⟩
  rcases startsWith_or_startsWith h with h | h
  · exact h
  · exact hshort _ hh _ hm h

theorem startsWith_token_mark (a : Arg) {mark : String} (hm : mark ∈ marks) :
    startsWith a.token mark = startsWith a.head mark := by
  obtain ⟨rest, hrest⟩ := a.exists_token_eq
  rw [hrest, startsWith_head_append a.head_mem_heads hm]

/-- Only a source comes without the head of its token. -/
theorem exists_received_eq {a : Arg} (h : ∀ p, a ≠ .source p) : ∃ rest, a.received = a.head ++ rest := by
  cases a with
  | source path => exact absurd rfl (h path)
  | language | output | reference | define | response => exact ⟨_, rfl⟩
  | debug | library | noWarn | pointers | optimize => exact ⟨"", by simp [received, head]⟩

theorem startsWith_received_of_ne_source {a : Arg} (h : ∀ p, a ≠ .source p) {mark : String}
    (hm : mark ∈ marks) : startsWith a.received mark = startsWith a.head mark := by
  obtain ⟨rest, hrest⟩ := exists_received_eq h
  rw [hrest, startsWith_head_append a.head_mem_heads hm]

/-- **What the child takes for an option or a response file** was written as one, or is a source
whose path begins like one. -/
theorem startsWith_received (a : Arg) {mark : String} (hm : mark ∈ marks) :
    startsWith a.received mark = true ↔ startsWith a.token mark = true ∨
      ∃ p, a = .source p ∧ startsWith p.text mark = true := by
  rw [a.startsWith_token_mark hm]
  by_cases hsource : ∃ p, a = .source p
  · obtain ⟨p, rfl⟩ := hsource
    have hquote : ∀ m ∈ marks, startsWith "\"" m = false := by decide
    simp [received, head, hquote mark hm]
  · have hne : ∀ p, a ≠ .source p := fun p hp => hsource ⟨p, hp⟩
    rw [startsWith_received_of_ne_source hne hm]
    simp [hne]

/-- Arguments behind heads that do not begin with a mark are not read by it. -/
theorem filter_received_eq_nil {args : List Arg} {mark : String} (hm : mark ∈ marks)
    (h : ∀ a ∈ args, a.head ≠ "\"" ∧ startsWith a.head mark = false) :
    (args.map received).filter (startsWith · mark) = [] := by
  simp only [List.filter_eq_nil_iff, List.forall_mem_map]
  intro a ha
  obtain ⟨hquote, hhead⟩ := h a ha
  have hne : ∀ p, a ≠ .source p := by rintro p rfl; exact hquote rfl
  rw [startsWith_received_of_ne_source hne hm, hhead]
  exact Bool.false_ne_true

end Arg

namespace Findings

variable (f : Findings) (c : Compiler) (u : BuildUnit) (epoch : Epoch)

theorem source_mem_of_mem_meant {p : Path} (h : Arg.source p ∈ f.meant c u epoch) :
    p ∈ u.sources := by
  have hfilter : Arg.source p ∈ (f.meant c u epoch).filter fun a => a.head = "\"" :=
    List.mem_filter.2 ⟨h, rfl⟩
  rw [filter_meant, Compiler.filter_leadingArgs (by decide)] at hfilter
  simpa using hfilter

/-- What the child takes for response files: sources that begin like one, and the one that was
merged. -/
theorem filter_received_response :
    ((f.meant c u epoch).map Arg.received).filter (startsWith · "@") =
      (u.sources.map (·.text)).filter (startsWith · "@")
        ++ f.merged.toList.map fun name => "@" ++ (c.config.responseToken name).text := by
  have hm : "@" ∈ Arg.marks := by decide
  have hleading : ((c.leadingArgs u epoch).map Arg.received).filter (startsWith · "@") = [] := by
    have hheads : ∀ h ∈ Arg.leadingHeads, h ≠ "\"" ∧ startsWith h "@" = false := by decide
    exact Arg.filter_received_eq_nil hm fun a ha => hheads _ (Compiler.head_leadingArgs a ha)
  have hreferences (paths : List Path) :
      ((paths.map Arg.reference).map Arg.received).filter (startsWith · "@") = [] := by
    have hhead : "-r:" ≠ "\"" ∧ startsWith "-r:" "@" = false := by decide
    exact Arg.filter_received_eq_nil hm (List.forall_mem_map.2 fun _ _ => hhead)
  have hdefines :
      ((u.uniqueDefines.map Arg.define).map Arg.received).filter (startsWith · "@") = [] := by
    have hhead : "-define:" ≠ "\"" ∧ startsWith "-define:" "@" = false := by decide
    exact Arg.filter_received_eq_nil hm (List.forall_mem_map.2 fun _ _ => hhead)
  have hsources : (u.sources.map Arg.source).map Arg.received = u.sources.map (·.text) := by
    rw [List.map_map]; rfl
  have hresponse : ((f.merged.toList.map fun name => Arg.response (c.config.responseToken name)).map
      Arg.received).filter (startsWith · "@") =
        f.merged.toList.map fun name => "@" ++ (c.config.responseToken name).text := by
    rw [List.map_map, List.filter_eq_self.2]
    · rfl
    · simp only [List.forall_mem_map]
      exact fun name _ => startsWith_append_of_startsWith (by decide) _
  simp only [meant, body, List.map_append, List.filter_append, hleading, hreferences, hdefines,
    hsources, hresponse, List.nil_append, List.append_nil]

/-- The child receives what was meant, resolved. -/
theorem map_unquote_args :
    (f.args c u epoch).map Token.unquote = (f.meant c u epoch).map Arg.received := by
  rw [args_eq, Arg.map_unquote_token]

/-- Each token is read as it was written, but for sources. -/
theorem exists_entry {mark : String} (hm : mark ∈ Arg.marks) {n : Nat} {token : String}
    (h : (f.args c u epoch)[n]? = some token) :
    ∃ entry, ((f.args c u epoch).map Token.unquote)[n]? = some entry ∧
      (startsWith entry mark = true ↔ startsWith token mark = true ∨
        ∃ source ∈ u.sources, token = Token.quote source ∧ entry = source.text ∧
          startsWith source.text mark = true) := by
  rw [args_eq, List.getElem?_map] at h
  obtain ⟨a, ha, rfl⟩ := Option.map_eq_some_iff.1 h
  refine ⟨a.received, by rw [map_unquote_args, List.getElem?_map, ha]; rfl, fun h => ?_, ?_⟩
  · rcases (a.startsWith_received hm).1 h with h | ⟨p, rfl, h⟩
    · exact .inl h
    · exact .inr ⟨p, f.source_mem_of_mem_meant c u epoch (List.mem_of_getElem? ha), rfl, rfl, h⟩
  · rintro (h | ⟨p, -, -, hentry, h⟩)
    · exact (a.startsWith_received hm).2 (.inl h)
    · rw [hentry, h]

theorem filter_map_unquote_args :
    ((f.args c u epoch).map Token.unquote).filter (startsWith · "@") =
      (u.sources.map (·.text)).filter (startsWith · "@")
        ++ ((f.args c u epoch).filter (startsWith · "@")).map Token.unquote := by
  rw [map_unquote_args, filter_received_response, filter_args_response, List.map_map,
    List.append_right_inj]
  exact List.map_congr_left fun name _ => (Token.unquote_append_quote (by decide) _).symm

theorem length_filter_args_response :
    ((f.args c u epoch).filter (startsWith · "@")).length ≤ 1 := by
  rw [filter_args_response, List.length_map]
  cases f.merged <;> simp

/-- Without such a source the child sees at most one response file, behind everything else. -/
theorem getLast?_map_unquote_args (h : ∀ source ∈ u.sources, startsWith source.text "@" = false) :
    let entries := (f.args c u epoch).map Token.unquote
    (entries.filter (startsWith · "@")).length ≤ 1 ∧
      ∀ entry ∈ entries, startsWith entry "@" = true → entries.getLast? = some entry := by
  have hsources : (u.sources.map (·.text)).filter (startsWith · "@") = [] := by
    simpa [List.filter_eq_nil_iff] using h
  have hfilter := f.filter_map_unquote_args c u epoch
  rw [hsources, List.nil_append] at hfilter
  intro entries
  refine ⟨?_, fun entry hentry hat => ?_⟩
  · rw [hfilter, List.length_map]
    exact f.length_filter_args_response c u epoch
  · have hmem : entry ∈ entries.filter (startsWith · "@") := List.mem_filter.2 ⟨hentry, hat⟩
    rw [hfilter] at hmem
    obtain ⟨token, htoken, rfl⟩ := List.mem_map.1 hmem
    obtain ⟨htoken, hat⟩ := List.mem_filter.1 htoken
    rw [List.getLast?_map, f.getLast?_args c u epoch htoken hat, Option.map_some]

end Findings

namespace Compiler

/-- **How the child reads a composed command line.** There is one argument for each token, and it is
taken for a response file or an option exactly if its token was one or it is a source whose path
begins like one. The tokens in quotation marks are the sources, in order, and arrive as their paths.
At most one token is a response file, and it is the last one. -/
theorem compose_child_reads {σ : Type} (host : Host σ) (s : σ) (c : Compiler) (u : BuildUnit)
    (epoch : Epoch) (t : Toolchain) (program : Path) (cwd : Option Path) :
    let x := (c.compose u epoch t).execute host s
    let child := (⟨program, x.value.args, cwd⟩ : Command).invocation
    child.args.length = x.value.args.length ∧
    (∀ mark ∈ ["@", "-"], ∀ (n : Nat) (token : String), x.value.args[n]? = some token →
      ∃ entry, child.args[n]? = some entry ∧
        (startsWith entry mark = true ↔ startsWith token mark = true ∨
          ∃ source ∈ u.sources, token = Token.quote source ∧ entry = source.text ∧
            startsWith source.text mark = true)) ∧
    (∀ (n : Nat) (source : Path), x.value.args[n]? = some (Token.quote source) →
      child.args[n]? = some source.text) ∧
    (x.value.args.filter (startsWith · "\"")).map Token.unquote = u.sources.map (·.text) ∧
    child.args.filter (startsWith · "@") = (u.sources.map (·.text)).filter (startsWith · "@")
      ++ (x.value.args.filter (startsWith · "@")).map Token.unquote ∧
    (x.value.args.filter (startsWith · "@")).length ≤ 1 ∧
    (∀ token ∈ x.value.args, startsWith token "@" = true → x.value.args.getLast? = some token) ∧
    ((∀ source ∈ u.sources, startsWith source.text "@" = false) →
      (child.args.filter (startsWith · "@")).length ≤ 1 ∧
      ∀ entry ∈ child.args, startsWith entry "@" = true → child.args.getLast? = some entry) := by
  obtain ⟨f, -, -, hvalue⟩ := exists_findings host s c u epoch t
  intro x child
  have hargs : x.value.args = f.args c u epoch := congrArg Composition.args hvalue
  have hchild : child.args = x.value.args.map Token.unquote := rfl
  clear_value x child
  rw [hchild, hargs]
  refine ⟨List.length_map _, fun mark hm n token htoken => f.exists_entry c u epoch hm htoken,
    fun n source hsource => ?_, ?_, f.filter_map_unquote_args c u epoch,
    f.length_filter_args_response c u epoch, fun token => f.getLast?_args c u epoch,
    f.getLast?_map_unquote_args c u epoch⟩
  · rw [List.getElem?_map, hsource, Option.map_some, Token.unquote_quote]
  · rw [f.filter_args_source, List.map_map]
    exact List.map_congr_left fun source _ => Token.unquote_quote source

/-- **Sources that the child takes for a second response file and for a define.** -/
theorem source_read_as_option :
    let u : BuildUnit := ⟨{ Draft.new ⟨"Lib.dll"⟩ with sources := [⟨"@extra.rsp"⟩, ⟨"-define:X"⟩] },
      Draft.fault?_eq_none_iff.1 (by decide)⟩
    let host := Doubles.FileSet.host (.ok Doubles.SampleCompiler.monoCommand) []
    let c : Compiler := ⟨Config.ofRoot ⟨"/game"⟩, Doubles.SampleCompiler.standard.layout, 42⟩
    let x := (c.compose u .current (.fallback c.candidates)).execute host
      (Doubles.FileSet.ofPaths [⟨"/game/mcs.rsp"⟩])
    let child := (⟨⟨"mcs"⟩, x.value.args, none⟩ : Command).invocation
    child.args.filter (startsWith · "@") = ["@extra.rsp", "@mcs.rsp"] ∧
    child.args.filter (startsWith · "-define:") = ["-define:X"] ∧
    x.value.args.filter (startsWith · "@") = ["@\"mcs.rsp\""] ∧
    x.value.args.filter (startsWith · "-define:") = [] := by
  decide +kernel

end Compiler

end CSharpBuild
