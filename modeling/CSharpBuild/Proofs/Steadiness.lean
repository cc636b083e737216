/-
Hosts whose files stay as they are. Such a host may have a state, and looks may change it, but what
they find is fixed by one file set. So a composition has one outcome, whatever else the host does:
`Findings.upon` are the answers that the file set gives, and `compose_of_steady` says that these are
the ones a composition gets and that the files are as steady after it as they were before.

The induction is on the plan. It needs that the plan does nothing but look, since an answer to
anything else may change the files (`execute_of_steady`).
-/
import CSharpBuild.Doubles.FileSet
import CSharpBuild.Proofs.Session

namespace CSharpBuild

open Plan

/-! ## Hosts with a fixed file set -/

namespace Host

variable {σ : Type} {host : Host σ} {holds : Path → Bool} {s : σ}

/-- The state in which looks at some paths leave a host. -/
def afterLooks (host : Host σ) (s : σ) (paths : List Path) : σ :=
  paths.foldl (fun s path => (host.probe path s).state) s

/-- Whatever was looked at before, a look finds what `holds` says. -/
def Steady (host : Host σ) (holds : Path → Bool) (s : σ) : Prop :=
  ∀ looked path, (host.probe path (host.afterLooks s looked)).value = holds path

theorem Steady.value (h : host.Steady holds s) (path : Path) :
    (host.probe path s).value = holds path :=
  h [] path

theorem Steady.state (h : host.Steady holds s) (path : Path) :
    host.Steady holds (host.probe path s).state :=
  fun looked => h (path :: looked)

theorem steady_of_state_eq (hvalue : ∀ path, (host.probe path s).value = holds path)
    (hstate : ∀ path, (host.probe path s).state = s) : host.Steady holds s := by
  intro looked path
  have hafter : host.afterLooks s looked = s := by
    induction looked with
    | nil => rfl
    | cons first looked ih => rw [afterLooks, List.foldl_cons, hstate first]; exact ih
  rw [hafter, hvalue]

end Host

/-- A file set in which nothing is set to expire. -/
theorem Doubles.FileSet.steady_host {files : FileSet} (h : files.fuses = [])
    (default : Except Failure Command) (rules : List Rule) :
    (host default rules).Steady files.holds files := by
  have hlook (path : Path) : files.look path = (files.holds path, files) := by
    unfold look
    split
    · next hthere => rw [h, hthere]; rfl
    · next hnot => rw [Bool.eq_false_iff.2 hnot]
  exact Host.steady_of_state_eq (fun path => congrArg Prod.fst (hlook path))
    (fun path => congrArg Prod.snd (hlook path))

namespace Plan

variable {σ α : Type} {host : Host σ} {holds : Path → Bool} {s : σ}

/-- A plan that does nothing but look meets what the file set holds and leaves it as it is. -/
theorem execute_of_steady (h : host.Steady holds s) (p : Plan α)
    (hdefaults : (p.execute host s).defaults = []) (hcommands : (p.execute host s).commands = []) :
    (∀ look ∈ (p.execute host s).looks, look.2 = holds look.1) ∧
      host.Steady holds (p.execute host s).state := by
  simp only [Execution.defaults, Execution.commands, Execution.looks] at *
  induction p generalizing s with
  | done v => exact ⟨List.forall_mem_nil _, h⟩
  | probe path next ih =>
    simp only [execute, Execution.prepend, List.filterMap_append,
      Answer.filterMap_events (f := Event.default?) fun _ => rfl,
      Answer.filterMap_events (f := Event.ranCommand?) fun _ => rfl,
      Answer.filterMap_events (f := Event.look?) fun _ => rfl] at *
    obtain ⟨hlooks, hstate⟩ := ih _ (h.state path) hdefaults hcommands
    exact ⟨List.forall_mem_cons.2 ⟨h.value path, hlooks⟩, hstate⟩
  | askDefault next ih =>
    simp only [execute, Execution.prepend, List.filterMap_append,
      Answer.filterMap_events (f := Event.default?) fun _ => rfl] at hdefaults
    cases hdefaults
  | run command next ih =>
    simp only [execute, Execution.prepend, List.filterMap_append,
      Answer.filterMap_events (f := Event.ranCommand?) fun _ => rfl] at hcommands
    cases hcommands
  | log entry next ih => exact ih h hdefaults hcommands

end Plan

/-! ## Compositions over a fixed file set -/

namespace Toolchain

variable {holds : Path → Bool} {t : Toolchain}

/-- The executable of a primary toolchain that is not there. -/
def lost (holds : Path → Bool) (t : Toolchain) : Option Path :=
  (Compiler.executable? t).filter fun path => !holds path

theorem lost_eq_some_iff {path : Path} :
    t.lost holds = some path ↔
      t.isPrimary = true ∧ t.executable = some path ∧ holds path = false := by
  simp only [lost, Compiler.executable?, Option.filter_eq_some_iff]
  cases t.isPrimary <;> simp

/-- The toolchain that a composition over a fixed file set settles on. -/
def kept (holds : Path → Bool) (t : Toolchain) : Toolchain :=
  if (t.lost holds).isSome then t.demoted else t

theorem lost_kept : (t.kept holds).lost holds = none := by
  unfold kept
  split
  · rfl
  · next hnone => exact Option.not_isSome_iff_eq_none.1 hnone

theorem kept_kept : (t.kept holds).kept holds = t.kept holds := by
  rw [kept, lost_kept]
  rfl

theorem candidates_kept : (t.kept holds).candidates = t.candidates := by
  unfold kept
  split <;> rfl

end Toolchain

namespace Findings

variable {f : Findings} {holds : Path → Bool} {c : Compiler} {u : BuildUnit} {epoch : Epoch}
  {t : Toolchain}

/-- The answers that a file set gives to a composition. -/
def upon (holds : Path → Bool) (c : Compiler) (u : BuildUnit) (epoch : Epoch) (t : Toolchain) :
    Findings where
  again := (Compiler.executable? t).map fun path => (path, holds path)
  references := (c.referencePaths u.profile).map fun path => (path, holds path)
  missed := (c.responseNames u epoch t).takeWhile fun name => !holds (c.config.responseDisk name)
  merged := (c.responseNames u epoch t).find? fun name => holds (c.config.responseDisk name)

/-- The names that were tried are those up to the first whose file is there. -/
theorem tried_eq {there : String → Bool} {missed rest : List String}
    (hmissed : ∀ name ∈ missed, there name = false)
    (hmerged : ∀ name ∈ rest.head?, there name = true) :
    missed = (missed ++ rest).takeWhile (fun name => !there name) ∧
      rest.head? = (missed ++ rest).find? there := by
  have hnone : missed.find? there = none :=
    List.find?_eq_none.2 fun name hname => by simp [hmissed name hname]
  rw [List.takeWhile_append_of_pos fun name hname => by rw [hmissed name hname]; rfl,
    List.find?_append, hnone, Option.none_or]
  cases rest with
  | nil => simp
  | cons name rest =>
    have hname : there name = true := hmerged name rfl
    simp [hname]

/-- Answers that come from a file set are determined by the questions. -/
theorem eq_upon (hf : f.Fits c u epoch t) (h : ∀ look ∈ f.looks c, look.2 = holds look.1) :
    f = upon holds c u epoch t := by
  obtain ⟨again, references, missed, merged⟩ := f
  obtain ⟨hasked, hlisted, rest, hnames, rfl⟩ := hf
  dsimp only at hasked hlisted hnames
  simp only [looks, Compiler.tries, List.map_append, List.forall_mem_append, List.forall_mem_map]
    at h
  obtain ⟨⟨hfound, hpresent⟩, hmissed, hmerged⟩ := h
  have hagain : again = (Compiler.executable? t).map fun path => (path, holds path) := by
    rw [← hasked]
    cases again with
    | none => rfl
    | some look => rw [Option.map_some, Option.map_some, ← hfound look (by simp)]
  have hreferences :
      references = (c.referencePaths u.profile).map fun path => (path, holds path) := by
    rw [← hlisted, List.map_map]
    refine (List.map_id references).symm.trans (List.map_congr_left fun look hlook => ?_)
    exact Prod.ext rfl (hpresent look hlook)
  obtain ⟨htaken, hfirst⟩ := tried_eq (fun name hname => (hmissed name hname).symm)
    fun name hname => (hmerged name (Option.mem_toList.2 hname)).symm
  rw [upon, hnames, ← hagain, ← hreferences, ← htaken, ← hfirst]

theorem present_upon :
    (upon holds c u epoch t).present = (c.referencePaths u.profile).filter holds := by
  simp [present, upon, List.filter_map, Function.comp_def]

theorem vanished_upon : (upon holds c u epoch t).vanished = t.lost holds := by
  rw [vanished, upon, Toolchain.lost]
  cases Compiler.executable? t with
  | none => rfl
  | some path => cases h : holds path <;> simp [Option.filter_some, h]

theorem toolchain_upon : (upon holds c u epoch t).toolchain t = t.kept holds := by
  rw [toolchain, vanished_upon]
  rfl

/-- The warnings about response files. -/
def obsolete (f : Findings) (c : Compiler) (epoch : Epoch) : List Warning :=
  c.obsoleteWarnings epoch f.missed f.merged

theorem warnings_upon :
    ((upon holds c u epoch t).composition c u epoch t).warnings =
      (t.lost holds).toList.map .compilerVanished ++ (upon holds c u epoch t).obsolete c epoch := by
  rw [composition, vanished_upon]
  rfl

end Findings

namespace Compiler

variable {σ : Type} {host : Host σ} {holds : Path → Bool} {s : σ}

theorem defaults_compose (host : Host σ) (s : σ) (c : Compiler) (u : BuildUnit) (epoch : Epoch)
    (t : Toolchain) : ((c.compose u epoch t).execute host s).defaults = [] := by
  obtain ⟨f, -, hevents, -⟩ := trace_compose (trace_execute host (c.compose u epoch t) s)
  rw [← defaults_execute_silenced, Execution.defaults, hevents, f.defaults_events]

/-- **Over a fixed file set a composition has one outcome** and changes no file. -/
theorem compose_of_steady (h : host.Steady holds s) (c : Compiler) (u : BuildUnit) (epoch : Epoch)
    (t : Toolchain) :
    ((c.compose u epoch t).execute host s).value =
        (Findings.upon holds c u epoch t).composition c u epoch t ∧
      host.Steady holds ((c.compose u epoch t).execute host s).state := by
  obtain ⟨f, hf, hlooks, hvalue⟩ := exists_findings host s c u epoch t
  obtain ⟨hfound, hstate⟩ := execute_of_steady h (c.compose u epoch t)
    (defaults_compose host s c u epoch t) ((preliminary_compose c u epoch t).commands_eq_nil host s)
  rw [hlooks] at hfound
  rw [hvalue, Findings.eq_upon hf hfound]
  exact ⟨rfl, hstate⟩

end Compiler

end CSharpBuild
