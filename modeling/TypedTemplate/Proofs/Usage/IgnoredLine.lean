import TypedTemplate.Proofs.Lists
import TypedTemplate.Proofs.Usage.Sites

/-! What ignoring a line does to the other lines. The loop variables and what is wrong with a part
do not depend on it, but a part on the line hides everything inside it. So an issue on another line
is lost exactly where its part stands inside a part on the ignored line. On the line itself nothing
is reported, as every part that is checked can be hidden by its own line. -/
namespace TypedTemplate

namespace Usage
open Template

variable (u : Usage)

def withIgnored (lines : List Int) : Usage := { u with ignored := lines }

def ignoring (line : Int) : Usage := u.withIgnored (line :: u.ignored)

def heeding (line : Int) : Usage := u.withIgnored (u.ignored.filter (· != line))

/-- The issues on other lines. -/
def elsewhere (line : Int) (found : List Issue) : List Issue := found.filter fun i => i.line != line

section Independence

variable {u} {loops : LoopVariables} {lines : List Int}

theorem typeOf?_withIgnored (e : Expr) :
    (u.withIgnored lines).typeOf? loops e = u.typeOf? loops e := by
  fun_induction typeOf? u loops e with
  | case1 line id => rfl
  | case2 line base attr ih => rw [typeOf?, ih]; rfl
  | case3 line base index ih => rw [typeOf?, ih]; rfl
  | case4 e hname hattr hitem =>
    cases e with
    | name line id => exact (hname _ _ rfl).elim
    | attr line base attr => exact (hattr _ _ _ rfl).elim
    | item line base index => exact (hitem _ _ _ rfl).elim
    | constant | compound | call | filter => rfl

theorem ownIssues_withIgnored (e : Expr) :
    (u.withIgnored lines).ownIssues loops e = u.ownIssues loops e := by
  cases e with
  | attr line base attr =>
    rw [ownIssues, ownIssues, checkAttr, checkAttr, typeOf?_withIgnored]
    rfl
  | item line base index =>
    rw [ownIssues, ownIssues]
    unfold checkItem
    rw [typeOf?_withIgnored]
    rfl
  | name | constant | compound | call | filter => rfl

theorem met_withIgnored (vs : List Event) :
    (u.withIgnored lines).met loops vs = u.met loops vs := by
  induction vs generalizing loops with
  | nil => rfl
  | cons v vs ih =>
    have hstep : (u.withIgnored lines).step loops v = u.step loops v := by cases v <;> rfl
    rw [met, met, hstep, ih]
    rfl

end Independence

section Elsewhere

variable {u} {loops : LoopVariables} {line : Int} {s : Site}

theorem isHidden_heeding : (u.heeding line).isHidden s = true ↔ ∃ l ∈ s.lines, (l : Int) ≠ line ∧
    u.isIgnored l = true := by
  simp [isHidden, isIgnored, heeding, withIgnored, and_comm]

theorem isHidden_ignoring :
    (u.ignoring line).isHidden s = true ↔ (∃ l ∈ s.lines, (l : Int) = line) ∨
    (u.heeding line).isHidden s = true := by
  have hsplit : (u.ignoring line).isHidden s = true ↔ ∃ l ∈ s.lines, (l : Int) = line ∨
    u.isIgnored l = true := by
    simp [isHidden, isIgnored, ignoring, withIgnored]
  rw [hsplit, isHidden_heeding]
  constructor
  · rintro ⟨l, hl, hon | hignored⟩
    · exact .inl ⟨l, hl, hon⟩
    · by_cases hon : (l : Int) = line
      · exact .inl ⟨l, hl, hon⟩
      · exact .inr ⟨l, hl, hon, hignored⟩
  · rintro (⟨l, hl, hon⟩ | ⟨l, hl, -, hignored⟩)
    · exact ⟨l, hl, .inl hon⟩
    · exact ⟨l, hl, .inr hignored⟩

theorem elsewhere_shownAt (is : List Int) :
    elsewhere line ((u.withIgnored is).shownAt loops s) =
      if (u.withIgnored is).isHidden s = true ∨ (s.part.line : Int) = line then []
        else u.ownIssues loops s.part := by
  rw [shownAt, ownIssues_withIgnored]
  by_cases hhidden : (u.withIgnored is).isHidden s = true
  · rw [if_pos hhidden, if_pos (.inl hhidden)]
    rfl
  · rw [if_neg hhidden]
    by_cases hline : (s.part.line : Int) = line
    · rw [if_pos (.inr hline)]
      exact List.filter_eq_nil_iff.2 fun i hi => by simp [line_ownIssues hi, hline]
    · rw [if_neg (by simp [hhidden, hline])]
      exact List.filter_eq_self.2 fun i hi => by simp [line_ownIssues hi, hline]

theorem elsewhere_shownAt_sublist :
    (elsewhere line ((u.ignoring line).shownAt loops s)).Sublist
    (elsewhere line ((u.heeding line).shownAt loops s)) := by
  rw [ignoring, heeding, elsewhere_shownAt, elsewhere_shownAt, ← ignoring, ← heeding]
  by_cases hlost : (u.ignoring line).isHidden s = true ∨ (s.part.line : Int) = line
  · rw [if_pos hlost]
    exact List.nil_sublist _
  · have hkept : ¬ ((u.heeding line).isHidden s = true ∨ (s.part.line : Int) = line) :=
      fun h => hlost (h.imp_left fun h => isHidden_ignoring.2 (.inr h))
    rw [if_neg hlost, if_neg hkept]

theorem elsewhere_shownAt_eq_iff :
    elsewhere line ((u.ignoring line).shownAt loops s) = elsewhere line
      ((u.heeding line).shownAt loops s) ↔
      ((∃ l ∈ s.lines, (l : Int) = line) →
        (∀ l ∈ s.lines, (l : Int) ≠ line → u.isIgnored l = false) →
        (s.part.line : Int) ≠ line → u.ownIssues loops s.part = []) := by
  rw [ignoring, heeding, elsewhere_shownAt, elsewhere_shownAt, ← ignoring, ← heeding]
  have hfree : (∀ l ∈ s.lines, (l : Int) ≠ line → u.isIgnored l = false) ↔
    ¬ (u.heeding line).isHidden s = true := by
    rw [isHidden_heeding]
    simp
  rw [hfree]
  by_cases hline : (s.part.line : Int) = line
  · rw [if_pos (.inr hline), if_pos (.inr hline)]
    exact iff_of_true rfl fun _ _ h => (h hline).elim
  by_cases hheeded : (u.heeding line).isHidden s = true
  · rw [if_pos (.inl (isHidden_ignoring.2 (.inr hheeded))), if_pos (.inl hheeded)]
    exact iff_of_true rfl fun _ h => (h hheeded).elim
  have hshown : ¬ ((u.heeding line).isHidden s = true ∨ (s.part.line : Int) = line) :=
    not_or.2 ⟨hheeded, hline⟩
  by_cases hon : ∃ l ∈ s.lines, (l : Int) = line
  · rw [if_pos (.inl (isHidden_ignoring.2 (.inl hon))), if_neg hshown]
    exact ⟨fun h _ _ _ => h.symm, fun h => (h hon hheeded hline).symm⟩
  · rw [if_neg fun h => hshown (h.imp_left fun h => (isHidden_ignoring.1 h).resolve_left hon),
      if_neg hshown]
    exact iff_of_true rfl fun h => (hon h).elim

end Elsewhere

/-- Ignoring a line adds nothing on the other lines. It leaves them as they are exactly if nothing
is wrong with any part that stands on another line, inside a part on the ignored one and in no part
on a further ignored line. -/
theorem elsewhere_ignoring_iff (loops : LoopVariables) (stmts : List Stmt) (line : Int) :
    let hidden := elsewhere line ((u.ignoring line).visitStmts loops stmts).1
    let shown := elsewhere line ((u.heeding line).visitStmts loops stmts).1
    hidden.Sublist shown ∧ (hidden = shown ↔
      ∀ p ∈ u.met loops (Stmt.traceOf stmts), (∃ l ∈ p.2.lines, (l : Int) = line) →
        (∀ l ∈ p.2.lines, (l : Int) ≠ line → u.isIgnored l = false) → (p.2.part.line : Int) ≠ line →
          u.ownIssues p.1 p.2.part = []) := by
  have hpieces (is : List Int) : elsewhere line ((u.withIgnored is).visitStmts loops stmts).1 =
      (u.met loops (Stmt.traceOf stmts)).flatMap fun p => elsewhere line
        ((u.withIgnored is).shownAt p.1 p.2) := by
    rw [visitStmts_eq_flatMap, met_withIgnored, elsewhere, List.filter_flatMap]
    rfl
  intro hidden shown
  have h := flatMap_eq_iff_of_sublist (l := u.met loops (Stmt.traceOf stmts)) fun p _ =>
    @elsewhere_shownAt_sublist u p.1 line p.2
  simp only [elsewhere_shownAt_eq_iff] at h
  rwa [show hidden = _ from hpieces _, show shown = _ from hpieces _]

def callOverLines : String := "\x7b# typja:ignore #\x7d\x7b\x7b f(\nx) \x7d\x7d\n"

theorem call_over_lines_hidden :
    let a := Analysis.start none .ascending (some .empty) false
    let u := a.usage .empty "t.html" callOverLines
    (Template.parse ⟨true, false⟩ callOverLines).toOption.map (fun stmts =>
        ((elsewhere 1 ((u.ignoring 1).visitStmts [] stmts).1).map Issue.message,
          (elsewhere 1 ((u.heeding 1).visitStmts [] stmts).1).map Issue.message)) = some
            ([], [undeclared "x"]) ∧
      (a.template .empty "t.html" callOverLines).1.ignored = [1] ∧
      (a.template .empty "t.html" callOverLines).1.issues.map Issue.message = [] := by
  decide +kernel

section OwnLine

mutual
theorem line_mem_of_mem_sites {s : Site} (around : List Nat) :
    (e : Expr) → s ∈ e.sites false around → s.part.line ∈ s.lines
  | .name line id, h => by
    rw [Expr.sites] at h
    obtain rfl := List.mem_singleton.1 h
    exact List.mem_cons_self
  | .constant _ _, h => by
    rw [Expr.sites] at h
    cases h
  | .compound _ _ parts, h => by
    rw [Expr.sites] at h
    exact line_mem_of_mem_sitesOf around parts h
  | .attr line base a, h => by
    rw [Expr.sites] at h
    rcases List.mem_cons.1 h with rfl | h
    · exact List.mem_cons_self
    · exact line_mem_of_mem_sites _ base h
  | .item line base index, h => by
    rw [Expr.sites, List.mem_cons, List.mem_append] at h
    rcases h with rfl | h | h
    · exact List.mem_cons_self
    · exact line_mem_of_mem_sites _ base h
    · exact line_mem_of_mem_sites _ index h
  | .call line callee shape args, h => by
    rw [Expr.sites, List.mem_cons, List.mem_append] at h
    rcases h with rfl | h | h
    · exact List.mem_cons_self
    · exact line_mem_of_mem_sites _ callee h
    · exact line_mem_of_mem_sitesOf _ args h
  | .filter line id shape parts, h => by
    rw [Expr.sites] at h
    rcases List.mem_cons.1 h with rfl | h
    · exact List.mem_cons_self
    · exact line_mem_of_mem_sitesOf _ parts h

theorem line_mem_of_mem_sitesOf {s : Site} (around : List Nat) :
    (es : List Expr) → s ∈ Expr.sitesOf false around es → s.part.line ∈ s.lines
  | [], h => by
    rw [Expr.sitesOf] at h
    cases h
  | e :: es, h => by
    rw [Expr.sitesOf] at h
    rcases List.mem_append.1 h with h | h
    · exact line_mem_of_mem_sites around e h
    · exact line_mem_of_mem_sitesOf around es h
end

variable {u}

theorem line_mem_of_mem_met (hreg : u.byRegistry = false) {loops : LoopVariables} {vs : List Event}
    {p : LoopVariables × Site} (h : p ∈ u.met loops vs) : p.2.part.line ∈ p.2.lines := by
  induction vs generalizing loops with
  | nil => cases h
  | cons v vs ih =>
    rw [met, hreg] at h
    rcases List.mem_append.1 h with h | h
    · obtain ⟨s, hs, rfl⟩ := List.mem_map.1 h
      cases v with
      | sees e => exact line_mem_of_mem_sites [] e hs
      | opens target iterable => cases hs
      | closes target => cases hs
    · exact ih h

theorem isHidden_eq_false_iff {s : Site} :
    u.isHidden s = false ↔ ∀ l ∈ s.lines, (l : Int) ∉ u.ignored := by
  simp [isHidden, isIgnored]

/-- No issue stands on an ignored line, whatever the tree and the loops around it; and what is wrong
with a part is reported where neither its line nor that of a part around it is ignored. -/
theorem line_not_mem_ignored (hreg : u.byRegistry = false) (loops : LoopVariables)
    (stmts : List Stmt) :
    (∀ i ∈ (u.visitStmts loops stmts).1, i.line ∉ u.ignored) ∧
      ∀ p ∈ u.met loops (Stmt.traceOf stmts), (∀ l ∈ p.2.lines, (l : Int) ∉ u.ignored) →
        ∀ i ∈ u.ownIssues p.1 p.2.part, i ∈ (u.visitStmts loops stmts).1 := by
  rw [visitStmts_eq_flatMap]
  constructor
  · intro i hi
    obtain ⟨p, hp, hi⟩ := List.mem_flatMap.1 hi
    rw [shownAt] at hi
    obtain ⟨hshown, hown⟩ := List.mem_ite_nil_left.1 hi
    have hfree := isHidden_eq_false_iff.1 (Bool.eq_false_iff.2 hshown)
    rw [line_ownIssues hown]
    exact hfree _ (line_mem_of_mem_met hreg hp)
  · intro p hp hfree i hi
    refine List.mem_flatMap.2 ⟨p, hp, ?_⟩
    rw [shownAt, isHidden_eq_false_iff.2 hfree]
    exact hi

theorem line_not_mem_ignored_loop :
    let u := ((Analysis.start none .ascending none false).usage .empty "t.html" "").withIgnored [1]
    let stmts : List Stmt :=
      [.loop (.name 1 "x") (.name 1 "xs") [.output (.name 1 "a")] [], .output (.name 2 "b")]
    u.byRegistry = false ∧ (u.visitStmts [] stmts).1.map Issue.line = [2] ∧
      ∀ i ∈ (u.visitStmts [] stmts).1, i.line ∉ u.ignored :=
  ⟨rfl, by decide, (line_not_mem_ignored rfl [] _).1⟩

end OwnLine

end Usage

end TypedTemplate
