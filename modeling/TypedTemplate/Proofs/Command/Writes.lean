import TypedTemplate.Proofs.Command.CleanExit
import TypedTemplate.Proofs.FileTree.Contents
import TypedTemplate.Proofs.Style.Repair

/-! What a check writes. Without the repair the tree of files stays as it is. With it, a file
changes only if it is a template that was found and one of its lines has a union of the old style,
whatever issues there are and however the check ends. -/
namespace TypedTemplate

namespace Style
open Text

def ShowsOldUnion (line : List Char) : Prop := ∃ head ∈ heads, ∃ old inner, Closes head old inner ∧
    old <:+: line

theorem exists_of_repair_ne {content : String} {issues : List Issue}
    (h : repair content issues ≠ content) :
    ∃ line ∈ lines content.toList, ShowsOldUnion line := by
  by_contra hno
  refine h ?_
  have hnone : ∀ line ∈ lines content.toList, oldUnion? line = none := by
    intro line hline
    cases ho : oldUnion? line with
    | none => rfl
    | some old =>
      obtain ⟨head, hhead, inner, hclose, hinfix⟩ := oldUnion?_eq_some ho
      exact absurd ⟨line, hline, head, hhead, old, inner, hclose, hinfix⟩ hno
  have hstep : ∀ i ∈ issues, repairOne content.toList i = content.toList := by
    intro i _
    rw [repairOne]
    cases proposal? i with
    | none => rfl
    | some new =>
      dsimp only
      split
      · rfl
      · cases hl : (lines content.toList)[(i.line - 1).toNat]? with
        | none => rfl
        | some line =>
          have hr : repairLine new line = none := by
            rw [repairLine, hnone line (List.mem_of_getElem? hl)]; rfl
          rw [Option.bind_some, hr]
  rw [repair, foldl_eq_self hstep, String.ofList_toList]

end Style

namespace Command
open Session

/-- A path names a text of which a line has an old union. -/
def HasOldUnion (t : FileTree) (p : Path) : Prop :=
  ∃ bytes text, t.content? p = some bytes ∧ FileTree.readText bytes = .ok text ∧
    ∃ line ∈ Text.lines text.toList, Style.ShowsOldUnion line

/-- The templates that the settings lead to, from a root on. -/
def Finds (t : FileTree) (root : String) (templates : List Path) : Prop :=
  ∃ file s dirs, settingsFile? t (.top (t.resolve (.ofText root))) = some file ∧
    Settings.loadFile t file = .ok s ∧
    s.templateDirs = .ok dirs ∧ templatesOf t s dirs = .ok templates

theorem repaired_of_examine {c : Setting} {l : Settings.Linting} {t : FileTree} {s : Shared}
    {path : Path} {f : Finding}
    {text : String} (h : (examine c l t s path).2 = .ok f) (hr : f.repaired = some text) :
    c.fix = true ∧ HasOldUnion t path := by
  unfold examine at h
  cases hread : FileTree.readText ((t.content? path).getD []) with
  | error e =>
    rw [hread] at h
    cases h
  | ok content =>
    rw [hread] at h
    dsimp only at h
    split at h
    · cases h
    · rw [lintTemplate_lintConfig] at h
      cases h
      cases hfix : c.fix with
      | false => simp [hfix] at hr
      | true =>
        refine ⟨rfl, ?_⟩
        simp only [hfix, if_true, repaired?] at hr
        split at hr
        · cases hr
        · split at hr
          · cases hr
          · next hne =>
            obtain ⟨line, hline, hshows⟩ := Style.exists_of_repair_ne hne
            cases hc : t.content? path with
            | none =>
              rw [hc] at hread
              obtain rfl : "" = content := Except.ok.inj hread
              cases hline
            | some bytes =>
              rw [hc] at hread
              exact ⟨bytes, content, hc, hread, line, hline, hshows⟩

theorem finds_of_survey {o : CheckOptions} {v : Survey} {w w₁ : World}
    (h : result (survey o) w = (.ok v, w₁)) :
    Finds w.tree o.root v.templates := by
  obtain ⟨file, hfile, hload⟩ := (surveyed h).loaded
  obtain ⟨dirs, hdirs, htemplates⟩ := (surveyed h).found
  exact ⟨file, v.settings, dirs, hfile, hload, hdirs, htemplates⟩

section Loop

variable {I : FileTree → Prop} {c : Setting} {l : Settings.Linting} {root : Path} {w : World}

theorem tree_applyFinding {path : Path} {f : Finding} (hw : I w.tree)
    (hwrite : ∀ text, f.repaired = some text → I (result (writeFile path text) w).2.tree) :
    I (result (applyFinding root path f) w).2.tree := by
  unfold applyFinding
  cases hr : f.repaired with
  | none => exact hw
  | some text =>
    refine tree_bind (hwrite text hr) fun _ => Carries.bind ?_ fun p => (carries_say _).bind
      fun _ => carries_pure _
    unfold seenFrom
    split
    · exact carries_pure _
    · exact carries_fail _

theorem tree_checkTemplate {path : Path} {found : Except Failure Finding} (hw : I w.tree)
    (hwrite : ∀ f text, found = .ok f → f.repaired = some text →
      I (result (writeFile path text) w).2.tree) :
    I (result (checkTemplate root path found) w).2.tree := by
  refine tree_attempt ?_ fun f => (carries_say _).bind fun _ => carries_pure _
  cases found with
  | error f => exact hw
  | ok f =>
    rw [result_bind_ok (result_lift_ok id f w)]
    exact tree_applyFinding hw fun text => hwrite f text rfl

theorem carries_checkTemplates {paths : List Path}
    (hwrite : ∀ r, ∀ path ∈ paths, ∀ w f text, I w.tree → (examine c l w.tree r path).2 = .ok f →
      f.repaired = some text →
      I (result (writeFile path text) w).2.tree) (r : Shared) :
      Carries I (checkTemplates c l root r paths) := by
  induction paths generalizing r with
  | nil => exact carries_pure []
  | cons path paths ih =>
    intro w hw
    rw [checkTemplates, result_bind_ok (result_tree w)]
    dsimp only
    have hrest := ih fun r path hpath => hwrite r path (List.mem_cons_of_mem _ hpath)
    refine tree_bind ?_ fun issues => (hrest _).bind fun _ => carries_pure _
    exact tree_checkTemplate hw fun f text => hwrite r path List.mem_cons_self w f text hw

theorem tree_check {o : CheckOptions} (hw : I w.tree)
    (h : ∀ v w₁, result (survey o) w = (.ok v, w₁) →
      Carries I (checkTemplates v.setting v.settings.linting v.root v.shared v.templates)) :
    I (result (check o) w).2.tree := by
  have hbody : I (result (survey o >>= fun v => v.finish o.strict) w).2.tree := by
    have hsurvey := carries_survey o w hw
    rw [result_bind]
    rcases hv : result (survey o) w with ⟨e | v, w₁⟩
    · rwa [hv] at hsurvey
    · rw [hv] at hsurvey
      have hfinish : Carries I (v.finish o.strict) := by
        rw [Survey.finish]
        split
        · exact (carries_say _).bind fun _ => carries_exit 0
        · refine (carries_say _).bind fun _ => (h v w₁ hv).bind fun issues => carries_tree.bind
            fun t => ?_
          exact (carries_printWith _ _).bind fun _ => (carries_printWith _ _).bind fun _ =>
            carries_exit _
      exact hfinish w₁ hsurvey
  rw [check_eq]
  exact tree_attempt hbody fun f => (carries_say _).bind fun _ => carries_exit 1

end Loop

theorem tree_check_of_not_fix {o : CheckOptions} (ho : o.fix = false) (w : World) :
    (result (check o) w).2.tree = w.tree := by
  refine tree_check (I := (· = w.tree)) rfl fun v w₁ hv => carries_checkTemplates ?_ _
  intro r path _ w₂ f text _ hf hr
  have hfix := (repaired_of_examine hf hr).1
  rw [(surveyed hv).fix, ho] at hfix
  cases hfix

/-- A check leaves the tree as it is where no repair is asked for. Otherwise what changes is a file,
and one that a template with an old union in some line names. -/
theorem check_writes (o : CheckOptions) (w : World) :
    (o.fix = false → (result (check o) w).2.tree = w.tree) ∧
    ∀ a, (result (check o) w).2.tree.node? a ≠ w.tree.node? a →
      ∃ templates p, Finds w.tree o.root templates ∧ p ∈ templates ∧ w.tree.place? p = some a ∧
        HasOldUnion w.tree p := by
  refine ⟨fun ho => tree_check_of_not_fix ho w, ?_⟩
  let P (a : List String) : Prop :=
    ∃ templates p, Finds w.tree o.root templates ∧ p ∈ templates ∧ w.tree.place? p = some a ∧
      HasOldUnion w.tree p
  have hkept : FileTree.Rewritten P w.tree (result (check o) w).2.tree := by
    refine tree_check (.refl P w.tree) fun v w₁ hv => carries_checkTemplates ?_ _
    intro r path hpath w₂ f text hw₂ hf hr
    obtain ⟨-, bytes, content, hbytes, hread, hshows⟩ := repaired_of_examine hf hr
    obtain ⟨a, time, ha, hn⟩ := FileTree.exists_of_content? hbytes
    have hplace : w.tree.place? path = some a := (hw₂.place?_eq path).symm.trans ha
    rw [result_writeFile, FileTree.not_isDir_of_content? hbytes, if_neg (by simp),
      FileTree.resolve_of_place? ha]
    refine hw₂.put ?_ hn
    -- a file that was written before has been found to show an old union then
    rcases hw₂.node?_cases a with heq | ⟨hP, -⟩
    · have hfirst := FileTree.content?_of_node? hplace (heq ▸ hn)
      exact ⟨v.templates, path, finds_of_survey hv, hpath, hplace, bytes, content, hfirst, hread,
        hshows⟩
    · exact hP
  intro a hne
  exact ((hkept.node?_cases a).resolve_left hne).1

def sizeAt (t : FileTree) (a : List String) : Nat :=
  match t.node? a with
  | some (.file bytes _) => bytes.length
  | _ => 0

theorem check_writes_repaired_template :
    ∃ templates p, Finds (oneTemplate "\x7b# typja:var n: Optional[int] #\x7d").tree "." templates ∧
      p ∈ templates ∧
      (oneTemplate "\x7b# typja:var n: Optional[int] #\x7d").tree.place? p = some ["p", "templates",
        "a.html"] ∧
      HasOldUnion (oneTemplate "\x7b# typja:var n: Optional[int] #\x7d").tree p := by
  refine (check_writes strictRepair (oneTemplate "\x7b# typja:var n: Optional[int] #\x7d")).2 _
    fun heq => ?_
  have hsize :
      sizeAt (result (check strictRepair)
        (oneTemplate "\x7b# typja:var n: Optional[int] #\x7d")).2.tree
      ["p", "templates", "a.html"] =
        sizeAt (oneTemplate "\x7b# typja:var n: Optional[int] #\x7d").tree ["p", "templates",
          "a.html"] := by
    rw [sizeAt, sizeAt, heq]
  revert hsize
  decide +kernel

end Command

end TypedTemplate
