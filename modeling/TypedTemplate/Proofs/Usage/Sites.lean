import TypedTemplate.Proofs.Usage.LoopScope

/-! The parts of a template at which something is checked. A visit goes through them in order, with
the loop variables that are known at each, and shows what is wrong with a part itself unless it or a
part around it is on an ignored line. -/
namespace TypedTemplate

namespace Template

/-- A part of an expression at which something is checked, and the lines that hide it once they are
ignored: its own and those of the parts around it. -/
structure Site where
  part : Expr
  lines : List Nat

mutual
/-- The sites of an expression inside parts on the given lines, in the order in which they are
checked. The line of an attribute that is looked up in the registry hides nothing. -/
def Expr.sites (byRegistry : Bool) (around : List Nat) : Expr → List Site
  | .name line id => [⟨.name line id, line :: around⟩]
  | .constant _ _ => []
  | .compound _ _ parts => sitesOf byRegistry around parts
  | .attr line base a =>
    let inside := if byRegistry then around else line :: around
    ⟨.attr line base a, inside⟩ :: base.sites byRegistry inside
  | .item line base index =>
    ⟨.item line base index, line :: around⟩ ::
      (base.sites byRegistry (line :: around) ++ index.sites byRegistry (line :: around))
  | .call line callee shape args =>
    ⟨.call line callee shape args, line :: around⟩ ::
      (callee.sites byRegistry (line :: around) ++ sitesOf byRegistry (line :: around) args)
  | .filter line id shape parts =>
    ⟨.filter line id shape parts, line :: around⟩ :: sitesOf byRegistry (line :: around) parts

def Expr.sitesOf (byRegistry : Bool) (around : List Nat) : List Expr → List Site
  | [] => []
  | e :: es => e.sites byRegistry around ++ sitesOf byRegistry around es
end

def Event.sites (byRegistry : Bool) : Event → List Site
  | .sees e => e.sites byRegistry []
  | .opens _ _ => []
  | .closes _ => []

end Template

namespace Usage
open Template

variable (u : Usage)

def unknownName (line : Nat) (id : String) : Issue :=
  u.issueUnder .warning line id (undeclared id)
    ("Add declaration: \x7b# typja:var " ++ id ++ ": <type> #\x7d")

/-- What is wrong with a part itself, its own parts left aside. -/
def ownIssues (loops : LoopVariables) : Expr → List Issue
  | .name line id => if loops.has id || u.varTypes.has id then [] else [u.unknownName line id]
  | .constant _ _ => []
  | .compound _ _ _ => []
  | .attr line base attr =>
    if u.byRegistry then u.checkAttrByRegistry line base attr else u.checkAttr loops line base attr
  | .item line base index => u.checkItem loops line base index
  | .call line callee shape _ => u.checkCall line callee shape
  | .filter line name shape _ => u.checkFilter line name shape

def isHidden (s : Site) : Bool := s.lines.any u.isIgnored

def shownAt (loops : LoopVariables) (s : Site) : List Issue :=
  if u.isHidden s then [] else u.ownIssues loops s.part

def behind (around : List Nat) (found : List Issue) : List Issue :=
  if around.any u.isIgnored then [] else found

section Visit

variable {u} {loops : LoopVariables} {around : List Nat}

theorem behind_append (found more : List Issue) :
    u.behind around (found ++ more) = u.behind around found ++ u.behind around more := by
  rw [behind, behind, behind]
  split <;> rfl

theorem behind_nil : u.behind around [] = [] := ite_self _

theorem behind_cons (line : Nat) (found : List Issue) :
    u.behind (line :: around) found = u.behind around (if u.isIgnored line then [] else found) := by
  rw [behind, behind, List.any_cons]
  cases u.isIgnored line <;> simp

theorem shownAt_mk (e : Expr) :
    u.shownAt loops ⟨e, around⟩ = u.behind around (u.ownIssues loops e) := rfl

theorem checkName_eq (line : Nat) (id : String) :
    u.checkName loops line id = if u.isIgnored line then []
      else u.ownIssues loops (.name line id) := by
  rw [checkName, ownIssues, Bool.or_assoc]
  cases u.isIgnored line <;> rfl

variable (u loops) in
mutual
theorem flatMap_sites (around : List Nat) :
    (e : Expr) → (e.sites u.byRegistry around).flatMap (u.shownAt loops) = u.behind around
    (u.visit loops e)
  | .name line id => by
    rw [Expr.sites, List.flatMap_singleton, shownAt_mk, behind_cons, visit, checkName_eq]
  | .constant _ _ => by
    rw [Expr.sites, visit, behind_nil]
    rfl
  | .compound _ _ parts => by rw [Expr.sites, visit, flatMap_sitesOf around parts]
  | .attr line base attr => by
    rw [Expr.sites, List.flatMap_cons, shownAt_mk, flatMap_sites _ base, ← behind_append, visit,
      ownIssues]
    cases u.byRegistry with
    | true => rfl
    | false => exact behind_cons line _
  | .item line base index => by
    rw [Expr.sites, List.flatMap_cons, List.flatMap_append, shownAt_mk, flatMap_sites _ base,
      flatMap_sites _ index,
      ← behind_append, ← behind_append, behind_cons, visit, ownIssues, List.append_assoc]
  | .call line callee shape args => by
    rw [Expr.sites, List.flatMap_cons, List.flatMap_append, shownAt_mk, flatMap_sites _ callee,
      flatMap_sitesOf _ args,
      ← behind_append, ← behind_append, behind_cons, visit, ownIssues, List.append_assoc]
  | .filter line name shape parts => by
    rw [Expr.sites, List.flatMap_cons, shownAt_mk, flatMap_sitesOf _ parts, ← behind_append,
      behind_cons, visit, ownIssues]

theorem flatMap_sitesOf (around : List Nat) :
    (es : List Expr) → (Expr.sitesOf u.byRegistry around es).flatMap (u.shownAt loops) =
      u.behind around (u.visitAll loops es)
  | [] => by
    rw [Expr.sitesOf, visitAll, behind_nil]
    rfl
  | e :: es => by
    rw [Expr.sitesOf, List.flatMap_append, flatMap_sites around e, flatMap_sitesOf around es,
      ← behind_append, visitAll]
end

end Visit

theorem line_ownIssues {u : Usage} {loops : LoopVariables} {i : Issue} {e : Expr}
    (h : i ∈ u.ownIssues loops e) : i.line = e.line := by
  cases e with
  | name line id =>
    obtain rfl := List.mem_singleton.1 (List.mem_ite_nil_left.1 h).2
    rfl
  | constant line text => cases h
  | compound line form parts => cases h
  | attr line base attr =>
    rw [ownIssues] at h
    split at h
    · exact (raised_checkAttrByRegistry h).1
    · exact (raised_checkAttr h).1
  | item line base index => exact (raised_checkItem h).1
  | call line callee shape args => exact (raised_checkCall h).1
  | filter line name shape parts => exact (raised_checkFilter h).1

/-- The sites that are met along a run, each with the loop variables that are known there. -/
def met (loops : LoopVariables) : List Event → List (LoopVariables × Site)
  | [] => []
  | v :: vs => (v.sites u.byRegistry).map (Prod.mk loops) ++ met (u.step loops v) vs

theorem shows_eq_flatMap (loops : LoopVariables) (v : Event) :
    u.shows loops v = (v.sites u.byRegistry).flatMap (u.shownAt loops) := by
  cases v with
  | opens target iterable => rfl
  | closes target => rfl
  | sees e => exact (u.flatMap_sites loops [] e).symm

theorem run_eq_flatMap (loops : LoopVariables) (vs : List Event) :
    u.run loops vs = (u.met loops vs).flatMap fun p => u.shownAt p.1 p.2 := by
  induction vs generalizing loops with
  | nil => rfl
  | cons v vs ih => rw [run, met, List.flatMap_append, List.flatMap_map, ih, shows_eq_flatMap]

theorem visitStmts_eq_flatMap (loops : LoopVariables) (stmts : List Stmt) :
    (u.visitStmts loops stmts).1 = (u.met loops (Stmt.traceOf stmts)).flatMap fun p =>
      u.shownAt p.1 p.2 := by
  rw [visitStmts_eq_run, run_eq_flatMap]

end Usage

end TypedTemplate
