import TypedTemplate.Command.Check
import TypedTemplate.Proofs.Registry.Imports
import TypedTemplate.Proofs.Usage.Interruption

/-! Templates that are checked one after the other with one registry and one engine. A template
changes nothing in the registry but the imports, and these are cleared before the next. The engine
is made to escape, and lives on. So what is found in a template depends on the templates before it
only through what the engine makes of its past, however their analyses end. -/
namespace TypedTemplate

namespace Template.Engine

/-- The tree of a text is that of its source: nothing that was read before changes it. -/
def Steady (e : Engine) : Prop :=
  ∀ escaping past past' filename content,
    e.reads escaping past filename content = e.reads escaping past' filename content

structure Like (e e' : Engine) : Prop where
  reads : e.reads = e'.reads
  escaping : e.escape.escaping = e'.escape.escaping

variable {e e' e'' : Engine} {filename content : String}

theorem Like.refl (e : Engine) : Like e e := ⟨rfl, rfl⟩

theorem Like.trans (h : Like e e') (h' : Like e' e'') : Like e e'' :=
  ⟨h.reads.trans h'.reads, h.escaping.trans h'.escaping⟩

theorem reads_escape (e : Engine) : e.escape.reads = e.reads := by
  unfold escape
  split <;> rfl

theorem escaping_escape_escape (e : Engine) : e.escape.escape.escaping = e.escape.escaping := by
  unfold escape
  split <;> simp [*]

theorem like_escape (e : Engine) : Like e.escape e := ⟨reads_escape e, escaping_escape_escape e⟩

theorem like_after (e : Engine) (filename content : String) :
    Like (e.after filename content) e := by
  refine ⟨rfl, ?_⟩
  unfold escape after
  split <;> simp [*]

theorem Like.reading_eq (h : Like e e') (hsteady : e'.Steady) :
    e.escape.reading filename content = e'.escape.reading filename content := by
  rw [reading, reading, reads_escape, reads_escape, h.reads, h.escaping]
  exact hsteady _ _ _ _ _

theorem steady_engine (d : Dialect) (escaping : Escaping) : (d.engine escaping).Steady :=
  fun _ _ _ _ _ => rfl

end Template.Engine

namespace Registry

structure Agree (r r' : Registry) : Prop where
  types : r.types = r'.types
  modules : r.modules = r'.modules
  autoImported : r.autoImported = r'.autoImported
  conflicts : r.conflicts = r'.conflicts

namespace Agree

variable {r r' r'' : Registry}

theorem refl (r : Registry) : Agree r r := ⟨rfl, rfl, rfl, rfl⟩

theorem trans (h : Agree r r') (h' : Agree r' r'') : Agree r r'' where
  types := h.types.trans h'.types
  modules := h.modules.trans h'.modules
  autoImported := h.autoImported.trans h'.autoImported
  conflicts := h.conflicts.trans h'.conflicts

theorem clearImports_eq (h : Agree r r') : r.clearImports = r'.clearImports := by
  obtain ⟨types, modules, imported, autoImported, importedModules, conflicts⟩ := r
  obtain ⟨htypes, hmodules, hauto, hconflicts⟩ := h
  dsimp only at htypes hmodules hauto hconflicts
  subst htypes hmodules hauto hconflicts
  rfl

end Agree

variable {r : Registry}

theorem agree_clearImports (r : Registry) : Agree r.clearImports r := ⟨rfl, rfl, rfl, rfl⟩

theorem agree_importModule {m : String} {r' : Registry} (h : r.importModule m = .ok r') :
    Agree r' r := by
  rw [importModule] at h
  split at h
  · cases h
    exact ⟨rfl, rfl, rfl, rfl⟩
  · cases h

theorem agree_importFrom (r : Registry) (m : String) (names : List ImportedName) :
    Agree (r.importFrom m names).1 r := by
  rw [(r.importFrom_eq m names).1]
  exact ⟨rfl, rfl, rfl, rfl⟩

end Registry

namespace Command.Shared

/-- What two series have left to the next template, up to the imports and the past of the engine. -/
structure Like (h h' : Shared) : Prop where
  engine : Option.Rel Template.Engine.Like h.engine h'.engine
  registry : Registry.Agree h.registry h'.registry

theorem Like.refl (h : Shared) : Like h h := by
  refine ⟨?_, .refl _⟩
  cases h.engine with
  | none => exact .none
  | some e => exact .some (.refl e)

end Command.Shared

namespace Analysis
open Registry

section Frame

variable (a : Analysis) (r : Registry) (filename content : String)

theorem agree_applyComment (c : Comment) : Agree (a.applyComment r filename c).2.1 r := by
  unfold applyComment
  split
  · exact .refl r
  · split
    · next h => exact agree_importModule h
    · exact .refl r
  · exact agree_importFrom r _ _
  · exact .refl r
  · exact .refl r
  · exact .refl r

theorem agree_applyComments (cs : List Comment) : Agree (a.applyComments r filename cs).2.1 r := by
  induction cs generalizing a r with
  | nil => exact .refl r
  | cons c cs ih =>
    have hc := agree_applyComment a r filename c
    rw [applyComments]
    split
    · next a' r' happlied =>
      rw [happlied] at hc
      exact (ih a' r').trans hc
    · exact hc

theorem agree_template : Agree (a.template r filename content).2.1 r := by
  have hcleared := agree_clearImports r
  unfold template
  cases Comment.parseAll filename content with
  | error f => exact hcleared
  | ok cs =>
    have hcomments := (agree_applyComments a r.clearImports filename cs).trans hcleared
    rcases happlied : a.applyComments r.clearImports filename cs with ⟨a', r', _ | e⟩
    · rw [happlied] at hcomments
      simp only [happlied]
      split
      · exact hcomments
      · exact hcomments
    · rw [happlied] at hcomments
      simpa only [happlied] using hcomments

end Frame

theorem template_congr {r r' : Registry} (h : Agree r r') (a : Analysis)
    (filename content : String) :
    a.template r filename content = a.template r' filename content := by
  unfold template
  rw [h.clearImports_eq]

section Engine
open Template

def withEngine (a : Analysis) (e : Engine) : Analysis := { a with engine := e }

variable (a : Analysis) (r : Registry) (e : Engine) (filename content : String)

theorem withEngine_declareVariables (p : Position) (ds : List TypedName) :
    ds.foldl (fun a d => a.declareVariable r filename p d) (a.withEngine e) =
      (ds.foldl (fun a d => a.declareVariable r filename p d) a).withEngine e := by
  induction ds generalizing a with
  | nil => rfl
  | cons d ds ih =>
    rw [List.foldl_cons, List.foldl_cons, ← ih]
    rfl

theorem withEngine_applyComment (c : Comment) :
    (a.withEngine e).applyComment r filename c =
      ((a.applyComment r filename c).1.withEngine e, (a.applyComment r filename c).2) := by
  unfold applyComment
  split
  · rfl
  · split <;> rfl
  · rfl
  · rw [withEngine_declareVariables]
  · rfl
  · rfl

theorem withEngine_applyComments (cs : List Comment) :
    (a.withEngine e).applyComments r filename cs =
      ((a.applyComments r filename cs).1.withEngine e, (a.applyComments r filename cs).2) := by
  induction cs generalizing a r with
  | nil => rfl
  | cons c cs ih =>
    rw [applyComments, applyComments, withEngine_applyComment]
    rcases a.applyComment r filename c with ⟨a', r', _ | failed⟩
    · exact ih a' r'
    · rfl

theorem engine_template :
    (a.template r filename content).1.engine = a.engine ∨
      (a.template r filename content).1.engine = a.engine.after filename content := by
  unfold template
  cases Comment.parseAll filename content with
  | error f => exact .inl rfl
  | ok cs =>
    have hengine := a.engine_applyComments r.clearImports filename cs
    rcases happlied : a.applyComments r.clearImports filename cs with ⟨a', r', _ | failed⟩
    · rw [happlied] at hengine
      simp only [happlied]
      right
      split <;> exact congrArg (·.after filename content) hengine
    · rw [happlied] at hengine
      simp only [happlied]
      exact .inl hengine

end Engine

/-- How the analysis of a template ends: with issues, or with what interrupts it. -/
def outcome (ended : Analysis × Registry × Option Interruption) :
    Except Interruption (List Issue) :=
  match ended.2.2 with
  | some i => .error i
  | none => .ok ended.1.issues

theorem outcome_withEngine (a : Analysis) {e : Template.Engine} {filename content : String}
    (h : e.reading filename content = a.engine.reading filename content) (r : Registry) :
    outcome ((a.withEngine e).template r filename content) =
      outcome (a.template r filename content) := by
  unfold template
  cases Comment.parseAll filename content with
  | error f => rfl
  | ok cs =>
    have hengine := a.engine_applyComments r.clearImports filename cs
    simp only [withEngine_applyComments]
    rcases happlied : a.applyComments r.clearImports filename cs with ⟨a', r', _ | failed⟩
    · rw [happlied] at hengine
      have htext : (a'.withEngine e).checkText r' filename content =
          a'.checkText r' filename content := by
        unfold checkText
        rw [hengine, ← h]
        rfl
      simp only [htext]
      split <;> rfl
    · rfl

section Series
open Command

variable (order : SetOrder) (index : Option ClassIndex) (byRegistry : Bool)

/-- The analysis of a template, with what it leaves to the next. -/
def analysed (h : Shared) (t : String × String) : Except Interruption (List Issue) × Shared :=
  let ended := (start h.engine order index byRegistry).template h.registry t.1 t.2
  (outcome ended, ⟨h.engine.map fun _ => ended.1.engine, ended.2.1⟩)

def alone (h : Shared) (t : String × String) : Except Interruption (List Issue) :=
  (analysed order index byRegistry h t).1

/-- Checks templates one after the other. Each has an analysis of its own, and all have one registry
and, where one is given, one engine. -/
def series (h : Shared) :
    List (String × String) → List (Except Interruption (List Issue)) × Shared
  | [] => ([], h)
  | t :: ts =>
    let first := analysed order index byRegistry h t
    let others := series first.2 ts
    (first.1 :: others.1, others.2)

variable {order index byRegistry} {h h₀ : Shared}

theorem alone_of_agree {r r₀ : Registry} (h : Agree r r₀) (engine : Option Template.Engine)
    (t : String × String) :
    alone order index byRegistry ⟨engine, r⟩ t = alone order index byRegistry ⟨engine, r₀⟩ t := by
  unfold alone analysed
  rw [template_congr h]

theorem like_analysed (hlike : Shared.Like h h₀) (t : String × String) :
    Shared.Like (analysed order index byRegistry h t).2 h₀ := by
  obtain ⟨engine, r⟩ := h
  obtain ⟨engine₀, r₀⟩ := h₀
  obtain ⟨hlike, hagree⟩ := hlike
  refine ⟨?_, (agree_template _ r t.1 t.2).trans hagree⟩
  unfold analysed
  cases hlike with
  | none => exact .none
  | @some e e₀ hlike =>
    refine .some (.trans ?_ hlike)
    rcases engine_template (start (some e) order index byRegistry) r t.1 t.2 with hend | hend
    · rw [hend]
      exact e.like_escape
    · rw [hend]
      exact (Template.Engine.like_after _ _ _).trans e.like_escape

theorem alone_of_like (hlike : Shared.Like h h₀) (hsteady : ∀ e ∈ h₀.engine, e.Steady)
    (t : String × String) :
    alone order index byRegistry h t = alone order index byRegistry h₀ t := by
  obtain ⟨engine, r⟩ := h
  obtain ⟨engine₀, r₀⟩ := h₀
  obtain ⟨hlike, hagree⟩ := hlike
  rw [alone_of_agree hagree]
  cases hlike with
  | none => rfl
  | @some e e₀ hlike =>
    exact outcome_withEngine (start (some e₀) order index byRegistry)
      (hlike.reading_eq (hsteady e₀ rfl)) r₀

theorem like_series (hlike : Shared.Like h h₀) (ts : List (String × String)) :
    Shared.Like (series order index byRegistry h ts).2 h₀ := by
  induction ts generalizing h with
  | nil => exact hlike
  | cons t ts ih => exact ih (like_analysed hlike t)

theorem series_of_like (hlike : Shared.Like h h₀) (hsteady : ∀ e ∈ h₀.engine, e.Steady)
    (ts : List (String × String)) :
    (series order index byRegistry h ts).1 = ts.map (alone order index byRegistry h₀) := by
  induction ts generalizing h with
  | nil => rfl
  | cons t ts ih =>
    rw [series, List.map_cons, ← alone_of_like hlike hsteady, ih (like_analysed hlike t)]
    rfl

theorem getElem?_series (h : Shared) (before behind : List (String × String))
    (t : String × String) :
    (series order index byRegistry h (before ++ t :: behind)).1[before.length]? =
      some (alone order index byRegistry (series order index byRegistry h before).2 t) := by
  induction before generalizing h with
  | nil => rfl
  | cons _ before ih => exact ih _

/-- In a series a template ends as if it were checked alone, with the registry that the series began
with and with the engine as the templates before it left it. An engine whose readings do not depend
on what it has read is as good as new, so that then each template ends as if it were the first. The
series leaves the classes, the modules, the standing imports and the conflicts of the registry as
they were. -/
theorem outcomes_series (order : SetOrder) (index : Option ClassIndex) (byRegistry : Bool)
    (h : Shared) (ts : List (String × String)) :
    let (outcomes, h') := series order index byRegistry h ts
    (∀ before t behind, ts = before ++ t :: behind →
      outcomes[before.length]? = some (alone order index byRegistry
        ⟨(series order index byRegistry h before).2.engine, h.registry⟩ t)) ∧
      ((∀ e ∈ h.engine, e.Steady) → outcomes = ts.map (alone order index byRegistry h)) ∧
      h'.registry.types = h.registry.types ∧ h'.registry.modules = h.registry.modules ∧
      h'.registry.autoImported = h.registry.autoImported ∧
      h'.registry.conflicts = h.registry.conflicts := by
  have hleft (ts) : Agree (series order index byRegistry h ts).2.registry h.registry :=
    (like_series (.refl h) ts).registry
  refine ⟨?_, fun hsteady => series_of_like (.refl h) hsteady ts, (hleft ts).types,
    (hleft ts).modules, (hleft ts).autoImported, (hleft ts).conflicts⟩
  rintro before t behind rfl
  rw [getElem?_series, ← alone_of_agree (hleft before)]

/-- An engine that does not escape yet, with no classes. -/
def unescaped : Shared := ⟨some (Template.Dialect.engine ⟨true, false⟩ .off), .empty⟩

def halfImport : String × String :=
  ("a.html", "\x7b# typja:from typing import List as Names, Missing #\x7d")

def namesUser : String × String :=
  ("b.html", "\x7b# typja:var x: Names #\x7d\n\x7b\x7b x \x7d\x7d")

theorem outcomes_series_halfImport :
    (series .ascending none false unescaped [halfImport]).2.registry.imported.keys = ["Names"] ∧
      (series .ascending none false unescaped [halfImport, namesUser]).1 =
        [halfImport, namesUser].map (alone .ascending none false unescaped) := by
  refine ⟨by decide +kernel, ?_⟩
  refine (outcomes_series .ascending none false unescaped [halfImport, namesUser]).2.1 ?_
  rintro _ ⟨rfl⟩
  exact Template.Engine.steady_engine ⟨true, false⟩ .off

end Series

end Analysis

namespace Command
open Registry Session Analysis

variable (c : Setting) (l : Settings.Linting) {h h₀ : Shared}

/-- What a check makes of a template whose analysis has ended. -/
def finding (path : Path) (content : String) :
    Except Analysis.Interruption (List Issue) → Except Failure Finding
  | .error i => .error (.interruption i)
  | .ok found =>
    match Style.lintTemplate (lintConfig l) path.render content with
    | .error m => .error (.misuse m)
    | .ok style =>
      let issues := found ++ style
      .ok ⟨issues, if c.fix then repaired? content issues style else none⟩

theorem examine_eq {t : FileTree} {path : Path} {content : String}
    (ht : FileTree.readText ((t.content? path).getD []) = .ok content) (h : Shared) :
    examine c l t h path =
      let ended := analysed c.order (some c.index) false h (path.render, content)
      (ended.2, finding c l path content ended.1) := by
  rw [examine, ht]
  dsimp only [analysed]
  rcases Analysis.template _ h.registry path.render content with ⟨a, r, _ | i⟩
  · dsimp only [outcome, finding]
    cases Style.lintTemplate (lintConfig l) path.render content <;> rfl
  · rfl

theorem examine_of_like (hlike : Shared.Like h h₀) (hsteady : ∀ e ∈ h₀.engine, e.Steady)
    (t : FileTree) (path : Path) :
    (examine c l t h path).2 = (examine c l t h₀ path).2 ∧
      Shared.Like (examine c l t h path).1 h₀ := by
  cases ht : FileTree.readText ((t.content? path).getD []) with
  | error e =>
    rw [examine, examine, ht]
    exact ⟨rfl, hlike⟩
  | ok content =>
    rw [examine_eq c l ht, examine_eq c l ht]
    exact ⟨congrArg (finding c l path content) (alone_of_like hlike hsteady _),
      like_analysed hlike _⟩

def checkApart (root : Path) (h : Shared) : List Path → Session (List Issue)
  | [] => pure []
  | path :: paths => do
    let issues ← checkTemplate root path (examine c l (← tree) h path).2
    let more ← checkApart root h paths
    pure (issues ++ more)

theorem checkTemplates_eq_checkApart (root : Path) (hlike : Shared.Like h h₀)
    (hsteady : ∀ e ∈ h₀.engine, e.Steady) (paths : List Path) :
    checkTemplates c l root h paths = checkApart c l root h₀ paths := by
  induction paths generalizing h with
  | nil => rfl
  | cons path paths ih =>
    rw [checkTemplates, checkApart]
    refine bind_congr fun t => ?_
    obtain ⟨hfound, hleft⟩ := examine_of_like c l hlike hsteady t path
    dsimp only
    rw [hfound, ih hleft]

end Command

end TypedTemplate
