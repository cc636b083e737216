/-
What a composition looks for, in which order, and what it makes of the answers.

`Findings` are the answers of one composition, and `Findings.Fits` says which questions they answer:
the executable of a primary toolchain, the framework references that are listed, then response files
up to the first that is there. `trace_compose` says that a composition does nothing else and depends
on nothing else: `Findings.events` is all that happens, `Findings.composition` all that comes of it.
`exists_findings` brings this to executions against a host.
-/
import CSharpBuild.Compiler.Compile
import CSharpBuild.Proofs.Trace

namespace CSharpBuild

open Plan

/-- One look at a path: the probe, then what the log is told when nothing is there. -/
def Event.glance (path : Path) (found : Bool) (absent : LogEntry) : List Event :=
  .probed path found :: if found then [] else [.logged absent]

namespace Compiler

/-- Where the framework references of a profile are looked for, in listed order. -/
def referencePaths (c : Compiler) (p : Profile) : List Path :=
  (c.layout.additional p).map fun name => (c.layout.referenceDirectory p).join ⟨name⟩

/-- The response files that an epoch would take, the preferred one first. -/
def responseNames (c : Compiler) (u : BuildUnit) (epoch : Epoch) (t : Toolchain) : List String :=
  match epoch with
  | .current => c.config.responseFile :: u.profile.obsoleteResponseFile?.toList
  | .legacy => t.candidates

/-- What the log is told of a framework reference that is not there. -/
def skipEntry (path : Path) : LogEntry := .debug ("skipping implicit reference " ++ path.text)

/-- What the log is told of a response file that is not there. -/
def absentEntry (name : String) : LogEntry := .debug ("no response file " ++ name)

/-- The looks for response files, of which some were missed before one was merged or none were
left. -/
def tries (missed : List String) (merged : Option String) : List (String × Bool) :=
  missed.map (·, false) ++ merged.toList.map (·, true)

/-- What happens at the looks for response files. -/
def responseEvents (c : Compiler) (tries : List (String × Bool)) : List Event :=
  tries.flatMap fun look => Event.glance (c.config.responseDisk look.1) look.2 (absentEntry look.1)

/-- The warning about a response file that the current epoch merged after it missed the configured
one. -/
def obsoleteWarnings (c : Compiler) :
    Epoch → (missed : List String) → (merged : Option String) → List Warning
  | .current, _ :: _, some used =>
    [.obsoleteResponseFile used c.config.responseFile (c.config.responseToken used)]
  | _, _, _ => []

end Compiler

/-- The answers of one composition: to the second look for the executable, if there was one, and to
the looks for framework references; the response files that were missed, and the one that was not. -/
structure Findings where
  again : Option (Path × Bool)
  references : List (Path × Bool)
  missed : List String
  merged : Option String

namespace Findings

/-- The framework references that were there. -/
def present (f : Findings) : List Path := (f.references.filter (·.2)).map (·.1)

/-- The executable that was gone when it was looked for again. -/
def vanished (f : Findings) : Option Path :=
  f.again.bind fun look => if look.2 then none else some look.1

/-- The findings answer the questions of a composition, each of them and no others. -/
structure Fits (f : Findings) (c : Compiler) (u : BuildUnit) (epoch : Epoch) (t : Toolchain) :
    Prop where
  again : f.again.map (·.1) = Compiler.executable? t
  references : f.references.map (·.1) = c.referencePaths u.profile
  responses : ∃ rest, c.responseNames u epoch t = f.missed ++ rest ∧ f.merged = rest.head?

/-- The looks that findings come from, in order. -/
def looks (f : Findings) (c : Compiler) : List (Path × Bool) :=
  f.again.toList ++ f.references
    ++ (Compiler.tries f.missed f.merged).map fun look => (c.config.responseDisk look.1, look.2)

/-- The toolchain that is left after the second look. -/
def toolchain (f : Findings) (t : Toolchain) : Toolchain :=
  if f.vanished.isSome then t.demoted else t

/-- The arguments that findings lead to. -/
def args (f : Findings) (c : Compiler) (u : BuildUnit) (epoch : Epoch) : List String :=
  c.unitTokens u epoch ++ f.present.map Compiler.referenceToken
    ++ (f.merged.map c.responseFileToken).toList

/-- What a composition makes of its findings. -/
def composition (f : Findings) (c : Compiler) (u : BuildUnit) (epoch : Epoch) (t : Toolchain) :
    Composition where
  toolchain := f.toolchain t
  args := f.args c u epoch
  warnings := f.vanished.toList.map .compilerVanished ++ c.obsoleteWarnings epoch f.missed f.merged

/-- Everything that happens in a composition with these findings. -/
def events (f : Findings) (c : Compiler) (epoch : Epoch) : List Event :=
  f.again.toList.flatMap
      (fun look => Event.glance look.1 look.2 (Warning.compilerVanished look.1).entry)
    ++ f.references.flatMap (fun look => Event.glance look.1 look.2 (Compiler.skipEntry look.1))
    ++ c.responseEvents (Compiler.tries f.missed f.merged)
    ++ (c.obsoleteWarnings epoch f.missed f.merged).map fun w => Event.logged w.entry

end Findings

namespace Compiler

/-! ## The parts of a composition -/

theorem trace_raise {w v : Warning} {events : List Event} :
    (raise w).Trace events v ↔ events = [.logged w.entry] ∧ v = w := by
  simp only [raise, trace_bind, trace_note, trace_pure]
  constructor
  · rintro ⟨_, _, rfl, _, ⟨rfl, rfl⟩, rfl⟩; exact ⟨rfl, rfl⟩
  · rintro ⟨rfl, rfl⟩; exact ⟨_, (), rfl, [], ⟨rfl, rfl⟩, rfl⟩

/-- The second look for the executable of a primary toolchain. -/
theorem trace_recheck {t : Toolchain} {r : Toolchain × List Warning} {events : List Event}
    (h : (recheck t).Trace events r) :
    ∃ again : Option (Path × Bool), again.map (·.1) = executable? t ∧
      events = again.toList.flatMap
        (fun look => Event.glance look.1 look.2 (Warning.compilerVanished look.1).entry) ∧
      r = match again with
        | some (path, false) => (t.demoted, [.compilerVanished path])
        | _ => (t, []) := by
  have keep : (pure (t, []) : Plan (Toolchain × List Warning)).Trace events r →
      events = [] ∧ r = (t, []) := trace_pure.1
  unfold recheck at h
  unfold executable?
  split at h
  · next hnone =>
    obtain ⟨rfl, rfl⟩ := keep h
    exact ⟨none, by simp [hnone], rfl, rfl⟩
  next executable hsome =>
  split at h
  · next hprimary =>
    obtain ⟨_, found, hlook, rest, hnext, rfl⟩ := trace_bind.1 h
    refine ⟨some (executable, found), by simp [hprimary, hsome], ?_⟩
    rw [trace_look.1 hlook]
    cases found with
    | true =>
      obtain ⟨rfl, rfl⟩ := trace_pure.1 hnext
      exact ⟨rfl, rfl⟩
    | false =>
      obtain ⟨_, w, hraise, _, hpure, rfl⟩ := trace_bind.1 hnext
      obtain ⟨rfl, rfl⟩ := trace_raise.1 hraise
      obtain ⟨rfl, rfl⟩ := trace_pure.1 hpure
      exact ⟨rfl, rfl⟩
  · next hfallback =>
    obtain ⟨rfl, rfl⟩ := keep h
    exact ⟨none, by simp [hfallback], rfl, rfl⟩

/-- The looks for framework references: one for each that is listed. -/
theorem trace_presentReferences {directory : Path} {names : List String} {present : List Path}
    {events : List Event} (h : (presentReferences directory names).Trace events present) :
    ∃ looks : List (Path × Bool), looks.map (·.1) = names.map (fun name => directory.join ⟨name⟩) ∧
      present = (looks.filter (·.2)).map (·.1) ∧
      events = looks.flatMap fun look => Event.glance look.1 look.2 (skipEntry look.1) := by
  induction names generalizing events present with
  | nil =>
    obtain ⟨rfl, rfl⟩ := trace_pure.1 h
    exact ⟨[], rfl, rfl, rfl⟩
  | cons name names ih =>
    obtain ⟨_, found, hlook, rest, hnext, rfl⟩ := trace_bind.1 h
    rw [trace_look.1 hlook]
    cases found with
    | true =>
      obtain ⟨_, later, hlater, _, hpure, rfl⟩ := trace_bind.1 hnext
      obtain ⟨rfl, rfl⟩ := trace_pure.1 hpure
      obtain ⟨looks, hpaths, rfl, rfl⟩ := ih hlater
      exact ⟨(directory.join ⟨name⟩, true) :: looks, by simp [hpaths], rfl, by simp [Event.glance]⟩
    | false =>
      obtain ⟨_, _, hnote, _, hlater, rfl⟩ := trace_bind.1 hnext
      obtain ⟨looks, hpaths, rfl, rfl⟩ := ih hlater
      rw [trace_note.1 hnote]
      exact ⟨(directory.join ⟨name⟩, false) :: looks, by simp [hpaths], rfl, rfl⟩

variable {c : Compiler} {u : BuildUnit}

theorem trace_hasResponseFile {name : String} {found : Bool} {events : List Event}
    (h : (c.hasResponseFile name).Trace events found) :
    events = Event.glance (c.config.responseDisk name) found (absentEntry name) := by
  obtain ⟨_, answer, hlook, rest, hnext, rfl⟩ := trace_bind.1 h
  rw [trace_look.1 hlook]
  cases answer with
  | true =>
    obtain ⟨rfl, rfl⟩ := trace_pure.1 hnext
    rfl
  | false =>
    obtain ⟨_, _, hnote, _, hpure, rfl⟩ := trace_bind.1 hnext
    obtain ⟨rfl, rfl⟩ := trace_pure.1 hpure
    rw [trace_note.1 hnote]
    rfl

/-- The looks for response files with the given names, up to the first that is there. -/
theorem trace_firstResponseFile {names : List String} {merged : Option String}
    {events : List Event} (h : (c.firstResponseFile names).Trace events merged) :
    ∃ missed rest, names = missed ++ rest ∧ merged = rest.head? ∧
      events = c.responseEvents (tries missed merged) := by
  induction names generalizing events with
  | nil =>
    obtain ⟨rfl, rfl⟩ := trace_pure.1 h
    exact ⟨[], [], rfl, rfl, rfl⟩
  | cons name names ih =>
    obtain ⟨_, found, hhas, rest, hnext, rfl⟩ := trace_bind.1 h
    rw [trace_hasResponseFile hhas]
    cases found with
    | true =>
      obtain ⟨rfl, rfl⟩ := trace_pure.1 hnext
      exact ⟨[], name :: names, rfl, rfl, rfl⟩
    | false =>
      obtain ⟨missed, rest, rfl, hmerged, rfl⟩ := ih hnext
      exact ⟨name :: missed, rest, rfl, hmerged, rfl⟩

/-- The looks of the current epoch, which warns when it takes an obsolete name. -/
theorem trace_currentResponseFile {r : Option String × List Warning} {events : List Event}
    (h : (c.currentResponseFile u.profile).Trace events r) :
    ∃ missed rest,
      c.config.responseFile :: u.profile.obsoleteResponseFile?.toList = missed ++ rest ∧
      r.1 = rest.head? ∧ r.2 = c.obsoleteWarnings .current missed r.1 ∧
      events = c.responseEvents (tries missed r.1) ++ r.2.map fun w => Event.logged w.entry := by
  obtain ⟨_, found, hhas, rest, hnext, rfl⟩ := trace_bind.1 h
  rw [trace_hasResponseFile hhas]
  cases found with
  | true =>
    obtain ⟨rfl, rfl⟩ := trace_pure.1 hnext
    exact ⟨[], _, rfl, rfl, rfl, rfl⟩
  | false =>
    cases hobsolete : u.profile.obsoleteResponseFile? with
    | none =>
      rw [hobsolete] at hnext
      obtain ⟨rfl, rfl⟩ := trace_pure.1 hnext
      exact ⟨[c.config.responseFile], [], rfl, rfl, rfl, rfl⟩
    | some name =>
      rw [hobsolete] at hnext
      obtain ⟨_, found, hhas, rest, hnext, rfl⟩ := trace_bind.1 hnext
      rw [trace_hasResponseFile hhas]
      cases found with
      | true =>
        obtain ⟨_, w, hraise, _, hpure, rfl⟩ := trace_bind.1 hnext
        obtain ⟨rfl, rfl⟩ := trace_raise.1 hraise
        obtain ⟨rfl, rfl⟩ := trace_pure.1 hpure
        exact ⟨[c.config.responseFile], [name], rfl, rfl, rfl, rfl⟩
      | false =>
        obtain ⟨rfl, rfl⟩ := trace_pure.1 hnext
        exact ⟨[c.config.responseFile, name], [], rfl, rfl, rfl, rfl⟩

/-- The looks of either epoch. -/
theorem trace_responseFile {epoch : Epoch} {t : Toolchain} {r : Option String × List Warning}
    {events : List Event} (h : (c.responseFile u epoch t).Trace events r) :
    ∃ missed rest, c.responseNames u epoch t = missed ++ rest ∧ r.1 = rest.head? ∧
      r.2 = c.obsoleteWarnings epoch missed r.1 ∧
      events = c.responseEvents (tries missed r.1) ++ r.2.map fun w => Event.logged w.entry := by
  cases epoch with
  | current => exact trace_currentResponseFile h
  | legacy =>
    obtain ⟨_, merged, hfirst, _, hpure, rfl⟩ := trace_bind.1 h
    obtain ⟨rfl, rfl⟩ := trace_pure.1 hpure
    obtain ⟨missed, rest, hnames, hmerged, rfl⟩ := trace_firstResponseFile hfirst
    exact ⟨missed, rest, hnames, hmerged, rfl, by simp⟩

/-! ## Whole compositions -/

theorem responseNames_toolchain (f : Findings) (epoch : Epoch) (t : Toolchain) :
    c.responseNames u epoch (f.toolchain t) = c.responseNames u epoch t := by
  unfold Findings.toolchain
  split
  · cases epoch <;> rfl
  · rfl

/-- **The whole of a composition.** Whatever the answers are, a composition asks the questions that
its findings answer, and its result is `Findings.composition` of them. -/
theorem trace_compose {epoch : Epoch} {t : Toolchain} {composition : Composition}
    {events : List Event} (h : (c.compose u epoch t).Trace events composition) :
    ∃ f : Findings, f.Fits c u epoch t ∧ events = f.events c epoch ∧
      composition = f.composition c u epoch t := by
  obtain ⟨_, ⟨toolchain, vanished⟩, hrecheck, _, h₂, rfl⟩ := trace_bind.1 h
  obtain ⟨_, present, hreferences, _, h₃, rfl⟩ := trace_bind.1 h₂
  obtain ⟨_, ⟨merged, obsolete⟩, hresponse, _, hpure, rfl⟩ := trace_bind.1 h₃
  obtain ⟨rfl, rfl⟩ := trace_pure.1 hpure
  obtain ⟨again, hagain, rfl, hleft⟩ := trace_recheck hrecheck
  obtain ⟨references, hpaths, rfl, rfl⟩ := trace_presentReferences hreferences
  obtain ⟨missed, rest, hnames, hmerged, hobsolete, rfl⟩ := trace_responseFile hresponse
  dsimp only at hmerged hobsolete
  subst hobsolete
  let f : Findings := ⟨again, references, missed, merged⟩
  have htoolchain : toolchain = f.toolchain t ∧ vanished = f.vanished.toList.map .compilerVanished := by
    rcases again with _ | ⟨path, _ | _⟩ <;> cases hleft <;> exact ⟨rfl, rfl⟩
  obtain ⟨rfl, rfl⟩ := htoolchain
  rw [responseNames_toolchain] at hnames
  exact ⟨f, ⟨hagain, hpaths, rest, hnames, hmerged⟩, by simp [f, Findings.events], rfl⟩

end Compiler

/-! ## What executions show of the findings -/

namespace Event

variable {α γ : Type}

theorem filterMap_glance (g : Event → Option γ) (path : Path) (found : Bool) (absent : LogEntry) :
    (glance path found absent).filterMap g =
      (g (.probed path found)).toList ++ if found then [] else (g (.logged absent)).toList := by
  cases found <;> cases h : g (.probed path _) <;> cases h' : g (.logged absent) <;>
    simp [glance, h, h']

theorem look?_glances (looks : List α) (path : α → Path) (found : α → Bool)
    (absent : α → LogEntry) :
    (looks.flatMap fun a => glance (path a) (found a) (absent a)).filterMap look? =
      looks.map fun a => (path a, found a) := by
  simp only [List.filterMap_flatMap, filterMap_glance, look?, Option.toList, ite_self,
    List.append_nil]
  exact List.map_eq_flatMap.symm

/-- What looks at neither probes nor the entries about absent files sees nothing in glances. -/
theorem filterMap_glances_eq_nil {g : Event → Option γ}
    (hprobe : ∀ path found, g (.probed path found) = none) {absent : α → LogEntry}
    (habsent : ∀ a, g (.logged (absent a)) = none) (looks : List α) (path : α → Path)
    (found : α → Bool) :
    (looks.flatMap fun a => glance (path a) (found a) (absent a)).filterMap g = [] := by
  rw [List.filterMap_eq_nil_iff]
  intro event hevent
  obtain ⟨a, -, hglance⟩ := List.mem_flatMap.1 hevent
  rw [glance, List.mem_cons] at hglance
  rcases hglance with rfl | hlogged
  · exact hprobe _ _
  · split at hlogged
    · cases hlogged
    · rw [List.mem_singleton.1 hlogged]
      exact habsent a

theorem filterMap_warnings {g : Event → Option γ} (ws : List Warning) :
    (ws.map fun w => logged w.entry).filterMap g = ws.filterMap fun w => g (.logged w.entry) := by
  rw [List.filterMap_map]
  rfl

end Event

namespace Findings

variable (f : Findings) (c : Compiler) (epoch : Epoch)

theorem looks_events : (f.events c epoch).filterMap Event.look? = f.looks c := by
  simp only [events, looks, List.filterMap_append, Compiler.responseEvents, Event.look?_glances,
    Event.filterMap_warnings, Event.look?]
  simp

/-- A composition does not ask for the default compiler. -/
theorem defaults_events : (f.events c epoch).filterMap Event.default? = [] := by
  have hprobe : ∀ path found, Event.default? (.probed path found) = none := fun _ _ => rfl
  have hlog : ∀ entry, Event.default? (.logged entry) = none := fun _ => rfl
  simp only [events, List.filterMap_append, Compiler.responseEvents, Event.filterMap_warnings,
    Event.filterMap_glances_eq_nil hprobe (fun _ => hlog _), hlog, List.append_nil]
  exact List.filterMap_eq_nil_iff.2 fun _ _ => rfl

/-- A composition logs a warning for each one it raises, in the same order. -/
theorem warned_events (u : BuildUnit) (t : Toolchain) :
    (f.events c epoch).filterMap Event.warning? =
      (f.composition c u epoch t).warnings.map Warning.entry := by
  have hprobe : ∀ path found, Event.warning? (.probed path found) = none := fun _ _ => rfl
  have hentry : ∀ w : Warning, Event.warning? (.logged w.entry) = some w.entry := fun _ => rfl
  have hagain : (f.again.toList.flatMap fun look =>
      Event.glance look.1 look.2 (Warning.compilerVanished look.1).entry).filterMap Event.warning? =
        (f.vanished.toList.map .compilerVanished).map Warning.entry := by
    rcases hagain : f.again with _ | ⟨path, _ | _⟩ <;> simp only [vanished, hagain] <;> rfl
  have hreferences : (f.references.flatMap fun look =>
      Event.glance look.1 look.2 (Compiler.skipEntry look.1)).filterMap Event.warning? = [] :=
    Event.filterMap_glances_eq_nil hprobe (fun _ => rfl) f.references (·.1) (·.2)
  have hresponses : (c.responseEvents (Compiler.tries f.missed f.merged)).filterMap
      Event.warning? = [] :=
    Event.filterMap_glances_eq_nil hprobe (fun _ => rfl) (Compiler.tries f.missed f.merged) _ (·.2)
  simp only [events, composition, List.filterMap_append, List.map_append, hagain, hreferences,
    hresponses, Event.filterMap_warnings, hentry, List.filterMap_eq_map', List.append_nil]

end Findings

namespace Compiler

/-- A composition against any host: its looks and its result come from findings that fit. -/
theorem exists_findings {σ : Type} (host : Host σ) (s : σ) (c : Compiler) (u : BuildUnit)
    (epoch : Epoch) (t : Toolchain) :
    ∃ f : Findings, f.Fits c u epoch t ∧ ((c.compose u epoch t).execute host s).looks = f.looks c ∧
      ((c.compose u epoch t).execute host s).value = f.composition c u epoch t := by
  obtain ⟨f, hf, hevents, hvalue⟩ := trace_compose (trace_execute host (c.compose u epoch t) s)
  refine ⟨f, hf, ?_, ?_⟩
  · rw [← looks_execute_silenced, Execution.looks, hevents, f.looks_events]
  · rw [← value_execute_silenced, hvalue]

end Compiler

end CSharpBuild
