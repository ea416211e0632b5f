import TypedTemplate.Command.Check
import TypedTemplate.Proofs.Command.Session
import TypedTemplate.Proofs.Usage.Interruption

/-! What a clean exit of a check says about the templates. The exit code is made from the issues of
the templates that could be examined. A template that could not be is shown and has no say in it, so
that a clean exit covers all templates exactly where each of them is legible and, if it is repaired,
can be written and shown. -/
namespace TypedTemplate.Command
open Session

/-- What became of a template, with the state in which its turn came. -/
structure Verdict where
  path : Path
  shared : Shared
  world : World
  outcome : Except Failure (List Issue)

def collected (vs : List Verdict) : List Issue := vs.flatMap fun v => v.outcome.toOption.getD []

/-- The issues of a template, or the failure that is shown in their place. -/
def judge (root path : Path) (r : Except Failure Finding) : Session (Except Failure (List Issue)) :=
  attempt
    (do
      let f ← lift id r
      Except.ok <$> applyFinding root path f)
    fun f => do
      say ("[red]Error analyzing " ++ path.render ++ ":[/red] " ++ f.message)
      pure (.error f)

def judgeAll (c : Setting) (l : Settings.Linting) (root : Path) :
    Shared → List Path → Session (List Verdict)
  | _, [] => pure []
  | h, path :: paths => do
    let w ← get
    let (h', found) := examine c l w.tree h path
    let o ← judge root path found
    let vs ← judgeAll c l root h' paths
    pure (⟨path, h, w, o⟩ :: vs)

section Loop

variable (c : Setting) (l : Settings.Linting) (root : Path)

theorem result_checkTemplate (path : Path) (r : Except Failure Finding) (w : World) :
    result (checkTemplate root path r) w =
      ((result (judge root path r) w).1.map fun o => o.toOption.getD [],
        (result (judge root path r) w).2) := by
  rw [checkTemplate, judge, result_attempt, result_attempt]
  cases r with
  | error f =>
    rw [result_bind_error (result_lift_error id f w), result_bind_error (result_lift_error id f w)]
    dsimp only [id]
    rw [result_bind, result_bind]
    rcases result (say _) w with ⟨_ | _, w₁⟩ <;> rfl
  | ok f =>
    rw [result_bind_ok (result_lift_ok id f w), result_bind_ok (result_lift_ok id f w), result_map]
    rcases result (applyFinding root path f) w with ⟨(_ | _ | f) | is, w₁⟩
    · rfl
    · rfl
    · dsimp only [Except.map]
      rw [result_bind, result_bind]
      rcases result (say _) w₁ with ⟨_ | _, w₂⟩ <;> rfl
    · rfl

theorem result_checkTemplates (r : Shared) (paths : List Path) (w : World) :
    result (checkTemplates c l root r paths) w =
      ((result (judgeAll c l root r paths) w).1.map collected,
        (result (judgeAll c l root r paths) w).2) := by
  induction paths generalizing r w with
  | nil => rfl
  | cons path paths ih =>
    rw [checkTemplates, judgeAll, result_bind_ok (result_tree w),
      result_bind_ok (show result get w = (.ok w, w) from rfl)]
    dsimp only
    rw [result_bind, result_bind, result_checkTemplate]
    rcases result (judge root path (examine c l w.tree r path).2) w with ⟨e | o, w₁⟩
    · rfl
    · dsimp only [Except.map]
      rw [result_bind, result_bind, ih]
      rcases result (judgeAll c l root (examine c l w.tree r path).1 paths) w₁ with ⟨e | vs, w₂⟩ <;>
        rfl

theorem result_judge_of_mem {r : Shared} {paths : List Path} {vs : List Verdict} {w w₁ : World}
    (h : result (judgeAll c l root r paths) w = (.ok vs, w₁)) :
    vs.map Verdict.path = paths ∧ ∀ v ∈ vs,
      ∃ w₂, result (judge root v.path (examine c l v.world.tree v.shared v.path).2) v.world =
        (.ok v.outcome, w₂) := by
  induction paths generalizing r w vs with
  | nil =>
    rw [judgeAll, result_pure] at h
    cases h
    simp
  | cons path paths ih =>
    rw [judgeAll, result_bind_ok (show result get w = (.ok w, w) from rfl)] at h
    dsimp only at h
    rw [result_bind] at h
    rcases ho : result (judge root path (examine c l w.tree r path).2) w with ⟨e | o, w₂⟩
    · rw [ho] at h
      cases h
    · rw [ho] at h
      dsimp only at h
      rw [result_bind] at h
      rcases hs : result (judgeAll c l root (examine c l w.tree r path).1 paths) w₂
        with ⟨e | us, w₃⟩
      · rw [hs] at h
        cases h
      · rw [hs] at h
        cases h
        obtain ⟨hp, hm⟩ := ih hs
        refine ⟨by rw [List.map_cons, hp], fun v hv => ?_⟩
        rcases List.mem_cons.1 hv with rfl | hv
        · exact ⟨w₂, ho⟩
        · exact hm v hv

theorem noExit_applyFinding (path : Path) (f : Finding) : NoExit (applyFinding root path f) := by
  unfold applyFinding
  have hseen : NoExit (seenFrom root path) := by
    unfold seenFrom
    cases path.relativeTo? root with
    | none => exact fun w => .inr ⟨_, w, rfl⟩
    | some p => exact noExit_pure p
  cases f.repaired with
  | none => exact noExit_pure f.issues
  | some text =>
    refine (noExit_writeFile path text).bind fun _ => hseen.bind fun p => ?_
    exact (noExit_say _).bind fun _ => noExit_pure f.issues

theorem noExit_judge (path : Path) (r : Except Failure Finding) : NoExit (judge root path r) :=
  ((noExit_lift id r).bind fun f => (noExit_applyFinding root path f).map _).attempt
    fun _ => (noExit_say _).bind fun _ => noExit_pure _

theorem noExit_judgeAll (r : Shared) (paths : List Path) : NoExit (judgeAll c l root r paths) := by
  induction paths generalizing r with
  | nil => exact noExit_pure []
  | cons path paths ih =>
    refine noExit_get.bind fun w => ?_
    exact (noExit_judge root path _).bind fun o => (ih _).bind fun vs => noExit_pure _

end Loop

section Legible

variable (c : Setting) (l : Settings.Linting) (root : Path)

/-- No key of the settings is the one under which the switches are looked up. -/
theorem lintTemplate_lintConfig (filename content : String) :
    Style.lintTemplate (lintConfig l) filename content = .ok
      (Style.lint .standard filename content) :=
  rfl

/-- The analysis that a template begins with. -/
def Verdict.analysis (v : Verdict) : Analysis := .start v.shared.engine c.order (some c.index) false

/-- The template is a text, its comments can be read and, where no import fails, the engine gets
through it. -/
def Verdict.Legible (v : Verdict) : Prop :=
  ∃ content, FileTree.readText ((v.world.tree.content? v.path).getD []) = .ok content ∧
    ∃ cs, Comment.parseAll v.path.render content = .ok cs ∧
      ((v.analysis c).importsFail v.shared.registry v.path.render cs ∨
        (v.analysis c).engine.ReadsThrough v.path.render content)

theorem Verdict.legible_iff (v : Verdict) :
    v.Legible c ↔ ∃ f, (examine c l v.world.tree v.shared v.path).2 = .ok f := by
  unfold Verdict.Legible examine
  cases ht : FileTree.readText ((v.world.tree.content? v.path).getD []) with
  | error e => simp
  | ok content =>
    have hu := (v.analysis c).template_uninterrupted_iff v.shared.registry v.path.render content
    simp only [Except.ok.injEq, exists_eq_left', lintTemplate_lintConfig]
    refine hu.symm.trans ?_
    rw [Verdict.analysis]
    rcases Analysis.template _ v.shared.registry v.path.render content with ⟨a, r, _ | i⟩
    · simp
    · simp

/-- A new text for the template, if there is one, can be written, and the template shown from the
root. -/
def Verdict.Mended (v : Verdict) : Prop :=
  ∀ f, (examine c l v.world.tree v.shared v.path).2 = .ok f → f.repaired ≠ none →
    v.world.tree.isDir v.path = false ∧ ∃ p, v.path.relativeTo? root = some p ∧
      (Console.display (v.world.terminal.painter? none) v.world.columns
        [.line ("[green]✓[/green] Fixed " ++ p.render)]).2 = none

theorem applyFinding_ok_iff (path : Path) (f : Finding) (w : World) :
    (∃ is w₁, result (applyFinding root path f) w = (.ok is, w₁)) ↔
      (f.repaired ≠ none → w.tree.isDir path = false ∧ ∃ p, path.relativeTo? root = some p ∧
        (Console.display (w.terminal.painter? none) w.columns
          [.line ("[green]✓[/green] Fixed " ++ p.render)]).2 = none) := by
  unfold applyFinding
  cases hr : f.repaired with
  | none => simp
  | some text =>
    simp only [ne_eq, reduceCtorEq, not_false_eq_true, forall_const]
    cases hd : w.tree.isDir path with
    | true =>
      rw [result_bind_error (by rw [result_writeFile, if_pos hd])]
      simp
    | false =>
      rw [result_bind_ok (by rw [result_writeFile, if_neg (by simp [hd])])]
      simp only [true_and]
      cases hp : path.relativeTo? root with
      | none =>
        rw [result_bind_error
          (show result (seenFrom root path) _ = (.error (.failure (.outside path root)), _) by
          rw [seenFrom, hp]; rfl)]
        simp
      | some p =>
        rw [result_bind_ok (show result (seenFrom root path) _ = (.ok p, _) by
          rw [seenFrom, hp]; rfl), result_bind, say, print, result_printWith]
        cases he : (Console.display (w.terminal.painter? none) w.columns
          [.line ("[green]✓[/green] Fixed " ++ p.render)]).2 with
        | none => simp [he]
        | some e => simp [he]

theorem judge_ok_iff {path : Path} {r : Except Failure Finding} {o : Except Failure (List Issue)}
    {w w₁ : World} (h : result (judge root path r) w = (.ok o, w₁)) :
    (∃ is, o = .ok is) ↔ ∃ f, r = .ok f ∧ ∃ is w₂, result (applyFinding root path f) w =
    (.ok is, w₂) := by
  have shown {f : Failure} {w : World} (h : result (do
      say ("[red]Error analyzing " ++ path.render ++ ":[/red] " ++ f.message)
      pure (.error f)) w = (.ok o, w₁)) : o = .error f := by
    rw [result_bind] at h
    rcases hs : result (say ("[red]Error analyzing " ++ path.render ++ ":[/red] " ++ f.message)) w
      with ⟨_ | _, w₂⟩
    · rw [hs] at h
      cases h
    · rw [hs] at h
      cases h
      rfl
  rw [judge, result_attempt] at h
  cases r with
  | error f =>
    rw [result_bind_error (result_lift_error id f w)] at h
    simp [shown h]
  | ok f =>
    rw [result_bind_ok (result_lift_ok id f w), result_map] at h
    rcases ha : result (applyFinding root path f) w with ⟨(_ | _ | g) | is, w₂⟩
    · rw [ha] at h
      cases h
    · rw [ha] at h
      cases h
    · rw [ha] at h
      simp [shown h, ha]
    · rw [ha] at h
      cases h
      simp [ha]

theorem Verdict.checked_iff {v : Verdict} {w : World}
    (h : result (judge root v.path (examine c l v.world.tree v.shared v.path).2) v.world =
      (.ok v.outcome, w)) :
    (∃ is, v.outcome = .ok is) ↔ v.Legible c ∧ v.Mended c l root := by
  rw [judge_ok_iff root h, v.legible_iff c l]
  constructor
  · rintro ⟨f, hf, ha⟩
    refine ⟨⟨f, hf⟩, fun g hg => ?_⟩
    obtain rfl : f = g := Except.ok.inj (hf.symm.trans hg)
    exact (applyFinding_ok_iff root v.path f v.world).1 ha
  · rintro ⟨⟨f, hf⟩, hm⟩
    exact ⟨f, hf, (applyFinding_ok_iff root v.path f v.world).2 (hm f hf)⟩

end Legible

/-- All that a check works on, once its templates are found. -/
structure Survey where
  settings : Settings
  root : Path
  setting : Setting
  shared : Shared
  templates : List Path

def survey (o : CheckOptions) : Session Survey := do
  let dir ← rootDir o.root
  match settingsFile? (← tree) dir with
  | none => missingSettings dir " or specify the project root with --root"
  | some file =>
    let s ← loadSettings file
    let root ← lift .misuse s.rootPath
    let named ← engine s
    let order := (← get).order
    let paths ← lift .misuse (s.typePaths (← tree))
    let (index, r) ← collectClasses s root paths
    let dirs ← lift .misuse s.templateDirs
    let templates ← lift id (templatesOf (← tree) s dirs)
    pure ⟨s, root, ⟨order, index, o.fix⟩, ⟨named, r⟩, templates⟩

section Quiet

variable {I : FileTree → Prop}

theorem carries_missingSettings {α : Type} (dir : Path) (advice : String) :
    Carries I (missingSettings dir advice : Session α) :=
  (carries_say _).bind fun _ => carries_exit 1

theorem carries_badEngine {α : Type} (message : String) :
    Carries I (badEngine message : Session α) :=
  (carries_say _).bind fun _ => carries_exit 1

theorem carries_engineNamed (name : String) : Carries I (engineNamed name) := by
  unfold engineNamed
  split
  · exact carries_badEngine _
  · dsimp only
    split
    · exact carries_badEngine _
    · refine carries_get.bind fun w => ?_
      dsimp only
      split
      · exact carries_badEngine _
      · split
        · exact carries_badEngine _
        · exact carries_badEngine _
        · exact carries_pure _

theorem carries_engine (s : Settings) : Carries I (engine s) := by
  unfold engine
  dsimp only
  split
  · exact carries_pure _
  · split
    · exact (carries_engineNamed _).map some
    · split
      · split
        · exact carries_fail _
        · exact carries_badEngine _
      · exact carries_fail _

theorem carries_collectClasses (s : Settings) (root : Path) (paths : List Path) :
    Carries I (collectClasses s root paths) := by
  unfold collectClasses
  split
  · exact carries_pure _
  · refine (carries_say _).bind fun _ => carries_tree.bind fun t => (carries_lift _ _).bind
      fun exclude => ?_
    exact (carries_say _).bind fun _ => carries_pure _

theorem carries_survey (o : CheckOptions) : Carries I (survey o) := by
  refine (carries_tree.bind fun _ => carries_pure _).bind fun dir => carries_tree.bind fun t => ?_
  cases settingsFile? t dir with
  | none => exact carries_missingSettings _ _
  | some file =>
    refine (carries_tree.bind fun t => carries_lift _ _).bind fun s => (carries_lift _ _).bind
      fun root => ?_
    refine (carries_engine s).bind fun named => carries_get.bind fun w => ?_
    refine carries_tree.bind fun t => (carries_lift _ _).bind fun paths => ?_
    refine (carries_collectClasses s root paths).bind fun x =>
      (carries_lift _ _).bind fun dirs => ?_
    exact carries_tree.bind fun t => (carries_lift _ _).bind fun templates => carries_pure _

end Quiet

/-- What a survey has found in a tree. -/
structure Surveyed (o : CheckOptions) (t : FileTree) (v : Survey) : Prop where
  loaded : ∃ file, settingsFile? t (.top (t.resolve (.ofText o.root))) = some file ∧
    Settings.loadFile t file = .ok v.settings
  rooted : v.settings.rootPath = .ok v.root
  found : ∃ dirs, v.settings.templateDirs = .ok dirs ∧
    templatesOf t v.settings dirs = .ok v.templates
  fix : v.setting.fix = o.fix

theorem yields_rootDir (root : String) (t : FileTree) :
    Yields t (rootDir root) (· = .top (t.resolve (.ofText root))) :=
  yields_tree.bind fun u hu => yields_pure (by rw [hu])

theorem yields_loadSettings (file : Path) (t : FileTree) :
    Yields t (loadSettings file) fun s => Settings.loadFile t file = .ok s := by
  refine yields_tree.bind fun u hu => ?_
  subst hu
  exact yields_lift _ _

theorem yields_survey (o : CheckOptions) (t : FileTree) : Yields t (survey o) (Surveyed o t) := by
  refine (yields_rootDir o.root t).bind fun dir hdir => yields_tree.bind fun u hu => ?_
  subst hu
  cases hfile : settingsFile? u dir with
  | none => exact (yields_say _).bind fun _ _ => yields_exit 1
  | some file =>
    refine (yields_loadSettings file u).bind fun s hs => (yields_lift _ _).bind fun root hroot => ?_
    refine (Yields.of_carries fun _ => carries_engine s).bind fun named _ => ?_
    refine (Yields.of_carries fun _ => carries_get).bind fun w _ => ?_
    refine yields_tree.bind fun _ _ => (yields_lift _ _).bind fun paths _ => ?_
    refine (Yields.of_carries fun _ => carries_collectClasses s root paths).bind fun x _ => ?_
    refine (yields_lift _ _).bind fun dirs hdirs => yields_tree.bind fun u' hu' => ?_
    subst hu'
    refine (yields_lift _ _).bind fun templates htemplates => yields_pure ?_
    exact ⟨⟨file, hdir ▸ hfile, hs⟩, hroot, ⟨dirs, hdirs, htemplates⟩, rfl⟩

theorem surveyed {o : CheckOptions} {v : Survey} {w w₁ : World}
    (h : result (survey o) w = (.ok v, w₁)) :
    Surveyed o w.tree v :=
  (yields_survey o w.tree w v w₁ rfl h).2

namespace Survey

variable (v : Survey)

/-- Whether warnings fail the check. -/
def warningsFail (strict : Bool) : Bool := strict || Settings.holds v.settings.project.failOnWarning

def announce : Session Unit :=
  say ("[blue]Checking " ++ toString v.templates.length ++ " template(s)...[/blue]\n")

def verdicts : Session (List Verdict) := do
  v.announce
  judgeAll v.setting v.settings.linting v.root v.shared v.templates

/-- The check of what was found. -/
def finish (strict : Bool) : Session Unit :=
  if v.templates.isEmpty then do
    say "[yellow]No templates found to check.[/yellow]"
    exit 0
  else do
    v.announce
    let issues ← checkTemplates v.setting v.settings.linting v.root v.shared v.templates
    conclude v.settings strict v.templates.length issues

end Survey

theorem check_eq (o : CheckOptions) :
    check o = attempt (survey o >>= fun v => v.finish o.strict) (fun f =>
      say ("[red]Error checking templates:[/red] " ++ f.message) >>= fun _ => exit 1) := by
  unfold check survey
  congr 1
  simp only [bind_assoc]
  refine bind_congr fun dir => bind_congr fun t => ?_
  cases settingsFile? t dir with
  | none =>
    simp only [missingSettings, bind_assoc]
    rfl
  | some file => simp only [checkWith, bind_assoc, pure_bind, Survey.finish, Survey.announce]

theorem countOf_pos_iff (severity : Severity) (issues : List Issue) :
    countOf severity issues > 0 ↔ ∃ i ∈ issues, i.severity = severity := by
  simp [countOf, List.countP_pos_iff]

theorem exitCode_eq_zero_iff (failOnWarning : Bool) (issues : List Issue) :
    exitCode failOnWarning issues = 0 ↔
      (∀ i ∈ issues, i.severity ≠ .error) ∧
      (failOnWarning = true → ∀ i ∈ issues, i.severity ≠ .warning) := by
  have he := countOf_pos_iff .error issues
  have hw := countOf_pos_iff .warning issues
  rw [exitCode]
  split
  · next h =>
    simp only [Bool.or_eq_true, Bool.and_eq_true, decide_eq_true_eq, he, hw] at h
    simp only [Nat.one_ne_zero, false_iff, not_and]
    rintro hne hnw
    rcases h with ⟨i, hi, hs⟩ | ⟨hf, i, hi, hs⟩
    · exact hne i hi hs
    · exact hnw hf i hi hs
  · next h =>
    simp only [Bool.or_eq_true, Bool.and_eq_true, decide_eq_true_eq, he, hw, not_or, not_and,
      not_exists] at h
    simpa using h

theorem exitCode_of_conclude {s : Settings} {strict : Bool} {files code : Nat} {issues : List Issue}
    {w w₁ : World} (h : result (conclude s strict files issues) w = (.error (.exit code), w₁)) :
    exitCode (strict || Settings.holds s.project.failOnWarning) issues = code := by
  rw [conclude, result_bind_ok (result_tree w)] at h
  obtain ⟨_, w₂, -, h⟩ := (noExit_printWith _ _).exit_of_bind h
  obtain ⟨_, w₃, -, h⟩ := (noExit_printWith _ _).exit_of_bind h
  cases h
  rfl

theorem result_finish_of_check {o : CheckOptions} {v : Survey} {w w₁ w₂ : World}
    (hv : result (survey o) w = (.ok v, w₁)) (h : result (check o) w = (.error (.exit 0), w₂)) :
    result (v.finish o.strict) w₁ = (.error (.exit 0), w₂) := by
  rw [check_eq, result_attempt, result_bind_ok hv] at h
  split at h
  · obtain ⟨_, w₃, -, h⟩ := (noExit_say _).exit_of_bind h
    cases h
  · exact h

/-- After a clean exit no collected issue is an error, nor a warning where warnings fail the check.
All templates were checked exactly where all are legible and their repairs can be written and
shown. -/
theorem clean_exit_iff {o : CheckOptions} {v : Survey} {w w₁ w₂ : World}
    (hv : result (survey o) w = (.ok v, w₁))
    (hne : v.templates ≠ []) (h : result (check o) w = (.error (.exit 0), w₂)) :
    ∃ vs w₃, result v.verdicts w₁ = (.ok vs, w₃) ∧ vs.map Verdict.path = v.templates ∧
      (∀ i ∈ collected vs, i.severity ≠ .error) ∧
      (v.warningsFail o.strict = true → ∀ i ∈ collected vs, i.severity ≠ .warning) ∧
      ((∀ x ∈ vs, ∃ is, x.outcome = .ok is) ↔
        ∀ x ∈ vs, x.Legible v.setting ∧ x.Mended v.setting v.settings.linting v.root) := by
  have hf := result_finish_of_check hv h
  rw [Survey.finish, if_neg (by simpa using hne)] at hf
  have hsay : NoExit v.announce := noExit_say _
  obtain ⟨_, w₃, ha, hf⟩ := hsay.exit_of_bind hf
  rw [result_bind, result_checkTemplates] at hf
  rcases noExit_judgeAll v.setting v.settings.linting v.root v.shared v.templates w₃
    with ⟨vs, w₄, hj⟩ | ⟨g, w₄, hj⟩
  · rw [hj] at hf
    have hc := (exitCode_eq_zero_iff _ _).1 (exitCode_of_conclude hf)
    obtain ⟨hpaths, hall⟩ := result_judge_of_mem _ _ _ hj
    refine ⟨vs, w₄, by rw [Survey.verdicts, result_bind_ok ha, hj], hpaths, hc.1, hc.2, ?_⟩
    refine forall₂_congr fun x hx => ?_
    obtain ⟨w₅, hx⟩ := hall x hx
    exact x.checked_iff _ _ _ hx
  · rw [hj] at hf
    cases hf

def oneTemplate (text : String) : World :=
  ⟨⟨[(["p"], .dir 0), (["p", "typja.toml"], .file [] 0), (["p", "templates"], .dir 0),
    (["p", "templates", "a.html"], .file (Text.Utf8.encode text) 0)], ["p"]⟩, "", [], 80,
      ⟨false, false, .colourless⟩, .ascending, [], 0⟩

def strictRepair : CheckOptions := ⟨".", true, true⟩

def endsWell : Except Stop Unit → Bool
  | .error (.exit 0) => true
  | _ => false

theorem eq_of_endsWell {r : Except Stop Unit} (h : endsWell r = true) : r = .error (.exit 0) := by
  unfold endsWell at h
  split at h
  · rfl
  · cases h

def leavesUnread : Except Stop Survey × World → Bool
  | (.ok v, w₁) => (result v.verdicts w₁).1.toOption.any fun vs => vs.any fun x =>
    x.outcome.toOption.isNone
  | _ => false

theorem clean_exit_iff_one_declaration :
    let w := oneTemplate "\x7b# typja:var n: int #\x7d"
    ∃ v w₁ w₂, result (survey strictRepair) w = (.ok v, w₁) ∧ v.templates ≠ [] ∧
      result (check strictRepair) w = (.error (.exit 0), w₂) ∧
      ∃ vs w₃, result v.verdicts w₁ = (.ok vs, w₃) ∧ vs.map Verdict.path = v.templates ∧
        (∀ i ∈ collected vs, i.severity ≠ .error) ∧
        (v.warningsFail true = true → ∀ i ∈ collected vs, i.severity ≠ .warning) ∧
        ((∀ x ∈ vs, ∃ is, x.outcome = .ok is) ↔
          ∀ x ∈ vs, x.Legible v.setting ∧ x.Mended v.setting v.settings.linting v.root) := by
  intro w
  obtain ⟨hs, hc⟩ :
      ((result (survey strictRepair) w).1.toOption.any fun v => !v.templates.isEmpty) = true ∧
      endsWell (result (check strictRepair) w).1 = true := by
    decide +kernel
  rcases hv : result (survey strictRepair) w with ⟨e | v, w₁⟩
  · rw [hv] at hs
    cases hs
  rcases hx : result (check strictRepair) w with ⟨e, w₂⟩
  rw [hv] at hs
  rw [hx] at hc
  obtain rfl : e = .error (.exit 0) := eq_of_endsWell hc
  have hne : v.templates ≠ [] := by simpa [Except.toOption] using hs
  exact ⟨v, w₁, w₂, rfl, hne, rfl, clean_exit_iff hv hne hx⟩

theorem clean_exit_unread_template :
    let w := oneTemplate "\x7b# typja:var x #\x7d"
    ∃ v w₁ w₂, result (survey ⟨".", false, false⟩) w = (.ok v, w₁) ∧ v.templates ≠ [] ∧
      result (check ⟨".", false, false⟩) w = (.error (.exit 0), w₂) ∧
      ∃ vs w₃, result v.verdicts w₁ = (.ok vs, w₃) ∧ ∃ x ∈ vs, ∃ f, x.outcome = .error f := by
  intro w
  obtain ⟨hs, hc, hj⟩ :
      ((result (survey ⟨".", false, false⟩) w).1.toOption.any fun v => !v.templates.isEmpty) =
        true ∧
      endsWell (result (check ⟨".", false, false⟩) w).1 = true ∧
        leavesUnread (result (survey ⟨".", false, false⟩) w) = true := by
    decide +kernel
  rcases hv : result (survey ⟨".", false, false⟩) w with ⟨e | v, w₁⟩
  · rw [hv] at hs
    cases hs
  rcases hx : result (check ⟨".", false, false⟩) w with ⟨e, w₂⟩
  rw [hv] at hs hj
  rw [hx] at hc
  obtain rfl : e = .error (.exit 0) := eq_of_endsWell hc
  have hne : v.templates ≠ [] := by simpa [Except.toOption] using hs
  dsimp only [leavesUnread] at hj
  rcases hvs : result v.verdicts w₁ with ⟨e | vs, w₃⟩
  · rw [hvs] at hj
    cases hj
  · rw [hvs] at hj
    obtain ⟨x, hx, ho⟩ :=
      List.any_eq_true.1 (show (vs.any fun x => x.outcome.toOption.isNone) = true from hj)
    cases hf : x.outcome with
    | ok is => rw [hf] at ho; cases ho
    | error f => exact ⟨v, w₁, w₂, rfl, hne, rfl, vs, w₃, hvs, x, hx, f, hf⟩

end TypedTemplate.Command
