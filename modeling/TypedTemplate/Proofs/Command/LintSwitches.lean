import TypedTemplate.Proofs.Command.CleanExit
import TypedTemplate.Proofs.Style.Convergence

/-! The switches for linting. The rules of style honour the settings that they are applied with, but
a check applies them with the standard ones. So what it finds in a template honours the switches of
the project exactly where the template has nothing that a switch is about, or the switch is set to
its default. -/
namespace TypedTemplate

namespace Style
open Text

def tellsUnused (i : Issue) : Bool := startsWith i.message.toList "Import '".toList

def commentsOf (filename content : String) : List Comment :=
  (Comment.parseAll filename content).toOption.getD []

/-- What a comment imports is used in a text. -/
def UsesImports (content : List Char) (c : Comment) : Prop :=
  match c.directive with
  | .importModule m => hasMember m.toList content = true
  | .importFrom _ names => ∀ n ∈ names, isUsed n.bound content = true
  | _ => True

section Found

variable {s : Settings} {filename : String} {i : Issue}

theorem mem_lint {content : String} :
    i ∈ lint s filename content ↔ ∃ rule, i ∈ apply s filename content.toList
      (commentsOf filename content) rule := by
  have hall (rule : Rule) : rule ∈ Rule.all := by cases rule <;> decide
  simp only [lint, List.mem_flatMap, hall, true_and, commentsOf]

theorem mem_lint_and_asksForBars {content : String} :
    i ∈ lint s filename content ∧ asksForBars i = true ↔
      s.barUnions = true ∧ i ∈ oldUnions s.unionSeverity filename content.toList := by
  constructor
  · rintro ⟨hi, hasks⟩
    obtain ⟨rule, hi⟩ := mem_lint.1 hi
    cases hr : rule.repairs with
    | false =>
      rw [asksForBars_of_repairs hr hi] at hasks
      cases hasks
    | true =>
      obtain rfl : rule = .barUnions := by
        revert hr
        cases rule <;> decide
      rw [apply] at hi
      split at hi
      · next h => exact ⟨h, hi⟩
      · cases hi
  · rintro ⟨hs, hi⟩
    exact ⟨mem_lint.2 ⟨.barUnions, by rwa [apply, if_pos hs]⟩, asksForBars_of_mem_oldUnions hi⟩

theorem exists_asksForBars_lint_iff {content : String} :
    (∃ i ∈ lint s filename content, asksForBars i = true) ↔
      s.barUnions = true ∧ ∃ line ∈ lines content.toList, oldUnion? line ≠ none := by
  rw [← @oldUnions_ne_nil_iff filename s.unionSeverity]
  constructor
  · rintro ⟨i, hi⟩
    obtain ⟨hs, hi⟩ := mem_lint_and_asksForBars.1 hi
    exact ⟨hs, List.ne_nil_of_mem hi⟩
  · rintro ⟨hs, hne⟩
    obtain ⟨i, hi⟩ := List.exists_mem_of_ne_nil _ hne
    exact ⟨i, mem_lint_and_asksForBars.2 ⟨hs, hi⟩⟩

theorem severity_of_asksForBars {content : String} (hi : i ∈ lint s filename content)
    (h : asksForBars i = true) :
    i.severity = s.unionSeverity := by
  obtain ⟨p, -, hp⟩ := List.mem_filterMap.1 (mem_lint_and_asksForBars.1 ⟨hi, h⟩).2
  obtain ⟨old, -, rfl⟩ := Option.map_eq_some_iff.1 hp
  rfl

theorem tellsUnused_iff {content : List Char} {cs : List Comment} {rule : Rule}
    (hi : i ∈ apply s filename content cs rule) : tellsUnused i = true ↔ rule = .unusedImports := by
  obtain ⟨hopening, -⟩ := told_of_mem_apply hi
  constructor
  · intro htells
    exact Rule.eq_of_opening hopening (List.isPrefixOf_iff_prefix.1 htells)
  · rintro rfl
    exact List.isPrefixOf_iff_prefix.2 hopening

theorem unusedIn_eq_nil_iff {content : List Char} {c : Comment} :
    unusedIn filename content c = [] ↔ UsesImports content c := by
  unfold unusedIn UsesImports
  cases c.directive <;> simp

theorem exists_tellsUnused_lint_iff {content : String} :
    (∃ i ∈ lint s filename content, tellsUnused i = true) ↔
      s.unusedImports = true ∧ ∃ c ∈ commentsOf filename content, ¬ UsesImports content.toList
        c := by
  simp only [← @unusedIn_eq_nil_iff filename]
  constructor
  · rintro ⟨i, hi, htells⟩
    obtain ⟨rule, hi⟩ := mem_lint.1 hi
    obtain rfl := (tellsUnused_iff hi).1 htells
    rw [apply] at hi
    split at hi
    · next h =>
      obtain ⟨c, hc, hi⟩ := List.mem_flatMap.1 hi
      exact ⟨h, c, hc, List.ne_nil_of_mem hi⟩
    · cases hi
  · rintro ⟨hs, c, hc, hne⟩
    obtain ⟨i, hi⟩ := List.exists_mem_of_ne_nil _ hne
    have hi : i ∈ apply s filename content.toList (commentsOf filename content) .unusedImports := by
      rw [apply, if_pos hs]
      exact List.mem_flatMap.2 ⟨c, hc, hi⟩
    exact ⟨i, mem_lint.2 ⟨.unusedImports, hi⟩, (tellsUnused_iff hi).2 rfl⟩

end Found

end Style

namespace Command
open Session

/-- Findings of style that keep to the switches for linting. -/
structure Honours (l : Settings.Linting) (issues : List Issue) : Prop where
  unions : Settings.holds l.preferBarUnions = false → ∀ i ∈ issues, Style.asksForBars i = false
  severity : Settings.holds l.preferBarUnions = true →
    ∀ i ∈ issues, Style.asksForBars i = true → i.severity = Style.severityOf l.unionStyle
  imports : Settings.holds l.warnUnusedImports = false → ∀ i ∈ issues, Style.tellsUnused i = false

theorem honours_lint_iff (l : Settings.Linting) (s : Style.Settings) (filename content : String) :
    Honours l (Style.lint s filename content) ↔
      (s.barUnions = true → (∃ line ∈ Text.lines content.toList, Style.oldUnion? line ≠ none) →
        Settings.holds l.preferBarUnions = true ∧ s.unionSeverity = Style.severityOf l.unionStyle) ∧
      (s.unusedImports = true →
        (∃ c ∈ Style.commentsOf filename content, ¬ Style.UsesImports content.toList c) →
        Settings.holds l.warnUnusedImports = true) := by
  rw [← and_imp, ← and_imp, ← Style.exists_asksForBars_lint_iff,
    ← Style.exists_tellsUnused_lint_iff]
  constructor
  · rintro ⟨hu, hs, hi⟩
    constructor
    · rintro ⟨i, hmem, hasks⟩
      have hon : Settings.holds l.preferBarUnions = true := by
        by_contra hoff
        simp [hu (by simpa using hoff) i hmem] at hasks
      exact ⟨hon, by rw [← hs hon i hmem hasks, Style.severity_of_asksForBars hmem hasks]⟩
    · rintro ⟨i, hmem, htells⟩
      by_contra hoff
      simp [hi (by simpa using hoff) i hmem] at htells
  · rintro ⟨hu, hi⟩
    refine ⟨fun hoff i hmem => ?_, fun _ i hmem hasks => ?_, fun hoff i hmem => ?_⟩
    · by_contra hasks
      simp [(hu ⟨i, hmem, by simpa using hasks⟩).1] at hoff
    · rw [← (hu ⟨i, hmem, hasks⟩).2, Style.severity_of_asksForBars hmem hasks]
    · by_contra htells
      simp [hi ⟨i, hmem, by simpa using htells⟩] at hoff

theorem severityOf_eq_warning_iff {v : Toml.Value} :
    .warning = Style.severityOf v ↔ v = .text "warning" := by
  constructor
  · intro h
    cases v with
    | text s =>
      rw [Style.severityOf, Severity.ofText] at h
      split at h
      · cases h
      · split at h
        · next hs => rw [eq_of_beq hs]
        · cases h
    | _ => cases h
  · rintro rfl
    rfl

theorem issues_of_applyFinding {root path : Path} {f : Finding} {is : List Issue} {w w₁ : World}
    (h : result (applyFinding root path f) w = (.ok is, w₁)) : is = f.issues := by
  unfold applyFinding at h
  cases hr : f.repaired with
  | none =>
    rw [hr] at h
    cases h
    rfl
  | some text =>
    rw [hr] at h
    obtain ⟨_, _, -, h⟩ := ok_of_bind h
    obtain ⟨_, _, -, h⟩ := ok_of_bind h
    obtain ⟨_, _, -, h⟩ := ok_of_bind h
    cases h
    rfl

theorem issues_of_judge {root path : Path} {r : Except Failure Finding} {is : List Issue}
    {w w₁ : World}
    (h : result (judge root path r) w = (.ok (.ok is), w₁)) : ∃ f, r = .ok f ∧ is = f.issues := by
  obtain ⟨f, rfl, is', w₂, hf⟩ := (judge_ok_iff root h).1 ⟨is, rfl⟩
  refine ⟨f, rfl, ?_⟩
  rw [judge, result_attempt, result_bind_ok (result_lift_ok id f w), result_map, hf] at h
  cases h
  exact issues_of_applyFinding hf

theorem issues_of_examine {c : Setting} {l : Settings.Linting} {t : FileTree} {h : Shared}
    {path : Path} {f : Finding} (hf : (examine c l t h path).2 = .ok f) :
    ∃ content cs style, FileTree.readText ((t.content? path).getD []) = .ok content ∧
      Comment.parseAll path.render content = .ok cs ∧
      Style.lintTemplate (lintConfig l) path.render content = .ok style ∧
      f.issues = ((Analysis.start h.engine c.order (some c.index) false).template h.registry
        path.render content).1.issues ++ style := by
  unfold examine at hf
  cases ht : FileTree.readText ((t.content? path).getD []) with
  | error e =>
    rw [ht] at hf
    cases hf
  | ok content =>
    rw [ht] at hf
    have hu := (Analysis.start h.engine c.order (some c.index) false).template_uninterrupted_iff
      h.registry path.render content
    rcases he : (Analysis.start h.engine c.order (some c.index) false).template h.registry
      path.render content with ⟨a, r, _ | i⟩
    · rw [he] at hu
      obtain ⟨cs, hcs, -⟩ := hu.1 rfl
      dsimp only at hf
      rw [he, lintTemplate_lintConfig] at hf
      cases hf
      exact ⟨content, cs, _, rfl, hcs, lintTemplate_lintConfig l _ _, by rw [he]⟩
    · dsimp only at hf
      rw [he] at hf
      cases hf

/-- The same settings under the key where the switches are looked up would be honoured. -/
theorem honours_lintTemplate_nested {l : Settings.Linting} {filename content : String}
    {style : List Issue}
    (h : Style.lintTemplate [("linting", .table (lintConfig l))] filename content = .ok style) :
    Honours l style := by
  obtain rfl := Except.ok.inj h
  exact (honours_lint_iff l _ filename content).2 ⟨fun hon _ => ⟨hon, rfl⟩, fun hon _ => hon⟩

/-- For every template that a check gets through, the findings of style are those that the settings
give under no key of their own. They honour the switches of the project exactly if unions are asked
for with a warning, or no line has one of the old style, and imports are watched or all used. -/
theorem honours_switches_iff {o : CheckOptions} {v : Survey} {vs : List Verdict} {x : Verdict}
    {is : List Issue}
    {w w₁ w₂ : World} (hv : result (survey o) w = (.ok v, w₁))
    (hvs : result v.verdicts w₁ = (.ok vs, w₂))
    (hx : x ∈ vs) (ho : x.outcome = .ok is) :
    let l := v.settings.linting
    (∃ file, settingsFile? w.tree (.top (w.tree.resolve (.ofText o.root))) = some file ∧
      Settings.loadFile w.tree file = .ok v.settings) ∧
    ∃ content cs style, FileTree.readText ((x.world.tree.content? x.path).getD []) = .ok content ∧
      Comment.parseAll x.path.render content = .ok cs ∧
      Style.lintTemplate (lintConfig l) x.path.render content = .ok style ∧
      is = ((x.analysis v.setting).template x.shared.registry x.path.render content).1.issues ++
        style ∧
      (Honours l style ↔
        ((∃ line ∈ Text.lines content.toList, Style.oldUnion? line ≠ none) →
          Settings.holds l.preferBarUnions = true ∧ l.unionStyle = .text "warning") ∧
        ((∃ c ∈ cs, ¬ Style.UsesImports content.toList c) →
          Settings.holds l.warnUnusedImports = true)) := by
  intro l
  refine ⟨(surveyed hv).loaded, ?_⟩
  obtain ⟨_, w₃, -, hj⟩ := ok_of_bind hvs
  obtain ⟨w₄, hx⟩ := (result_judge_of_mem _ _ _ hj).2 x hx
  rw [ho] at hx
  obtain ⟨f, hf, rfl⟩ := issues_of_judge hx
  obtain ⟨content, cs, style, ht, hcs, hstyle, hfound⟩ := issues_of_examine hf
  refine ⟨content, cs, style, ht, hcs, hstyle, hfound, ?_⟩
  have hcomments : Style.commentsOf x.path.render content = cs := by rw [Style.commentsOf, hcs]; rfl
  obtain rfl := Except.ok.inj ((lintTemplate_lintConfig l x.path.render content).symm.trans hstyle)
  rw [honours_lint_iff, hcomments]
  simp [Style.Settings.standard, severityOf_eq_warning_iff]

def configured (settings text : String) : World :=
  ⟨⟨[(["p"], .dir 0), (["p", "typja.toml"], .file (Text.Utf8.encode settings) 0),
    (["p", "templates"], .dir 0),
    (["p", "templates", "a.html"], .file (Text.Utf8.encode text) 0)], ["p"]⟩, "", [], 80,
      ⟨false, false, .colourless⟩, .ascending, [], 0⟩

def looking : CheckOptions := ⟨".", false, false⟩

def judged (asked : Survey → List Verdict → Bool) : Except Stop Survey × World → Bool
  | (.ok v, w) => (result v.verdicts w).1.toOption.any (asked v)
  | _ => false

theorem of_judged {asked : Survey → List Verdict → Bool} {r : Except Stop Survey × World}
    (h : judged asked r = true) :
    ∃ v w vs w', r = (.ok v, w) ∧ result v.verdicts w = (.ok vs, w') ∧ asked v vs = true := by
  rcases r with ⟨_ | v, w⟩
  · cases h
  dsimp only [judged] at h
  rcases hvs : result v.verdicts w with ⟨_ | vs, w'⟩
  · rw [hvs] at h
    cases h
  · rw [hvs] at h
    exact ⟨v, w, vs, w', rfl, hvs, h⟩

theorem honours_switches_iff_no_union :
    ∃ v w₁ vs w₂, result (survey looking) (configured "[linting]\nprefer_pep604_unions = false\n"
        "\x7b# typja:import shapes #\x7d") = (.ok v, w₁) ∧ result v.verdicts w₁ = (.ok vs, w₂) ∧
      Settings.holds v.settings.linting.preferBarUnions = false ∧
        ∃ x ∈ vs, ∃ is, x.outcome = .ok is ∧
      ∃ content style, FileTree.readText ((x.world.tree.content? x.path).getD []) = .ok content ∧
        Style.lintTemplate (lintConfig v.settings.linting) x.path.render content = .ok style ∧
        Honours v.settings.linting style := by
  have h : judged (fun v vs => !Settings.holds v.settings.linting.preferBarUnions &&
      Settings.holds v.settings.linting.warnUnusedImports &&
        vs.any fun x => x.outcome.toOption.isSome &&
        (FileTree.readText ((x.world.tree.content? x.path).getD [])).toOption.all fun content =>
          (Text.lines content.toList).all fun line => (Style.oldUnion? line).isNone)
      (result (survey looking) (configured "[linting]\nprefer_pep604_unions = false\n"
        "\x7b# typja:import shapes #\x7d")) = true := by
    decide +kernel
  obtain ⟨v, w₁, vs, w₂, hv, hvs, h⟩ := of_judged h
  simp only [Bool.and_eq_true, Bool.not_eq_true', List.any_eq_true] at h
  obtain ⟨⟨hoff, hon⟩, x, hx, hok, hnone⟩ := h
  cases ho : x.outcome with
  | error f => simp [ho, Except.toOption] at hok
  | ok is =>
    obtain ⟨content, cs, style, ht, -, hstyle, -, hiff⟩ := (honours_switches_iff hv hvs hx ho).2
    refine ⟨v, w₁, vs, w₂, hv, hvs, hoff, x, hx, is, ho, content, style, ht, hstyle,
      hiff.2 ⟨?_, fun _ => hon⟩⟩
    rintro ⟨line, hline, hold⟩
    simp only [ht, Except.toOption, Option.all_some, List.all_eq_true, Option.isNone_iff_eq_none]
      at hnone
    exact absurd (hnone line hline) hold

theorem switch_for_unions_ignored :
    ∃ v w₁ vs w₂, result (survey looking) (configured "[linting]\nprefer_pep604_unions = false\n"
        "\x7b# typja:var x: Optional[int] #\x7d") = (.ok v, w₁) ∧
          result v.verdicts w₁ = (.ok vs, w₂) ∧
      Settings.holds v.settings.linting.preferBarUnions = false ∧
      ∃ x ∈ vs, ∃ is, x.outcome = .ok is ∧ ∃ i ∈ is, Style.asksForBars i = true := by
  have h : judged (fun v vs => !Settings.holds v.settings.linting.preferBarUnions &&
      vs.any fun x => x.outcome.toOption.any fun is => is.any Style.asksForBars)
      (result (survey looking) (configured "[linting]\nprefer_pep604_unions = false\n"
        "\x7b# typja:var x: Optional[int] #\x7d")) = true := by
    decide +kernel
  obtain ⟨v, w₁, vs, w₂, hv, hvs, h⟩ := of_judged h
  simp only [Bool.and_eq_true, Bool.not_eq_true', List.any_eq_true] at h
  obtain ⟨hoff, x, hx, hany⟩ := h
  cases ho : x.outcome with
  | error f => simp [ho, Except.toOption] at hany
  | ok is =>
    simp only [ho, Except.toOption, Option.any_some, List.any_eq_true] at hany
    exact ⟨v, w₁, vs, w₂, hv, hvs, hoff, x, hx, is, ho, hany⟩

end Command

end TypedTemplate
