import Mathlib.Data.List.Forall2
import TypedTemplate.Proofs.Lists
import TypedTemplate.Proofs.Text.Search
import TypedTemplate.Proofs.Usage.Sites

/-! Warnings about undeclared variables, when more variables are declared. The loops over them
bind their variables where they did not before, and no loop stops doing so. All loops end where
they ended, so that at each place more loop variables are known than before, and a warning is kept
or goes. -/
namespace TypedTemplate

def Issue.isUndeclared (i : Issue) : Bool :=
  (Text.after? "Variable '".toList i.message.toList).any fun rest =>
    Text.endsWith rest "' is not declared".toList

namespace Usage
open Template

theorem isUndeclared_iff {i : Issue} : i.isUndeclared = true ↔ ∃ x, i.message = undeclared x := by
  rw [Issue.isUndeclared, Option.any_eq_true]
  constructor
  · rintro ⟨rest, hrest, hend⟩
    rw [Text.endsWith, List.isSuffixOf_iff_suffix] at hend
    obtain ⟨x, rfl⟩ := hend
    have hx : (String.ofList x).toList = x := String.toList_ofList
    refine ⟨String.ofList x, String.toList_inj.1 ?_⟩
    rw [toList_undeclared, Text.after?_eq_some hrest, hx, List.append_assoc]
  · rintro ⟨x, hx⟩
    rw [hx, toList_undeclared, List.append_assoc, Text.after?_append]
    exact ⟨_, rfl, List.isSuffixOf_iff_suffix.2 (List.suffix_append _ _)⟩

/-- The warnings about undeclared variables. -/
def warnings (found : List Issue) : List Issue := found.filter Issue.isUndeclared

theorem warnings_eq_nil {found : List Issue} (h : ∀ i ∈ found, i.message.toList.head? ≠ some 'V') :
    warnings found = [] := by
  refine List.filter_eq_nil_iff.2 fun i hi htells => h i hi ?_
  obtain ⟨x, hx⟩ := isUndeclared_iff.1 htells
  rw [hx, toList_undeclared, List.append_assoc, List.head?_append]
  rfl

/-- The same template with other variables declared. -/
def declaring (u : Usage) (more : Table TypeExpr) : Usage := { u with varTypes := more }

def Within (loops loops' : LoopVariables) : Prop := ∀ x, loops.has x = true → loops'.has x = true

section More

variable {u : Usage} {more : Table TypeExpr} {loops loops' : LoopVariables}

theorem warnings_ownIssues_eq_nil {e : Expr} (h : e.name? = none) :
    warnings (u.ownIssues loops e) = [] := by
  cases e with
  | name line id => cases h
  | constant line text => rfl
  | compound line form parts => rfl
  | attr line base attr =>
    rw [ownIssues]
    split
    · exact warnings_eq_nil fun i hi => by simp [raised_checkAttrByRegistry hi]
    · exact warnings_eq_nil fun i hi => by simp [raised_checkAttr hi]
  | item line base index => exact warnings_eq_nil fun i hi => by rcases (raised_checkItem hi).2
    with h | h <;> simp [h]
  | call line callee shape args => exact warnings_eq_nil fun i hi => by simp [raised_checkCall hi]
  | filter line name shape parts => exact warnings_eq_nil fun i hi => by
                                                                        simp [raised_checkFilter hi]

variable (hmore : ∀ x t, u.varTypes.find? x = some t → more.find? x = some t)
include hmore

theorem itemType?_declaring {iterable : Expr} {t : TypeExpr} (h : u.itemType? iterable = some t) :
    (u.declaring more).itemType? iterable = some t := by
  obtain ⟨list, hlist, ht⟩ := Option.bind_eq_some_iff.1 h
  obtain ⟨id, hid, hfind⟩ := Option.bind_eq_some_iff.1 hlist
  rw [itemType?, hid]
  exact Option.bind_eq_some_iff.2 ⟨list, hmore id list hfind, ht⟩

theorem Within.step (h : Within loops loops') (v : Event) :
    Within (u.step loops v) ((u.declaring more).step loops' v) := by
  intro x hx
  rw [Table.has, find?_step] at hx ⊢
  cases v with
  | opens target iterable =>
    rw [remark] at hx ⊢
    by_cases hname : target.name? = some x
    · rw [if_pos hname] at hx ⊢
      cases ht : u.itemType? iterable with
      | some t =>
        rw [itemType?_declaring hmore ht]
        rfl
      | none =>
        rw [ht] at hx
        cases (u.declaring more).itemType? iterable with
        | some t => rfl
        | none => exact h x hx
    · rw [if_neg hname] at hx ⊢
      exact h x hx
  | closes target =>
    rw [remark] at hx ⊢
    by_cases hname : target.name? = some x
    · rw [if_pos hname] at hx
      cases hx
    · rw [if_neg hname] at hx ⊢
      exact h x hx
  | sees e => exact h x hx

theorem forall₂_met (h : Within loops loops') (vs : List Event) :
    List.Forall₂ (fun p p' => p.2 = p'.2 ∧ Within p.1 p'.1) (u.met loops vs)
      ((u.declaring more).met loops' vs) := by
  induction vs generalizing loops loops' with
  | nil => exact .nil
  | cons v vs ih =>
    rw [met, met]
    refine List.rel_append ?_ (ih (h.step hmore v))
    exact List.forall₂_map_left_iff.2
      (List.forall₂_map_right_iff.2 (List.forall₂_same.2 fun s _ => ⟨rfl, h⟩))

theorem warnings_ownIssues_sublist (h : Within loops loops') (e : Expr) :
    (warnings ((u.declaring more).ownIssues loops' e)).Sublist
    (warnings (u.ownIssues loops e)) := by
  cases hname : e.name? with
  | none =>
    rw [warnings_ownIssues_eq_nil hname]
    exact List.nil_sublist _
  | some id =>
    obtain ⟨line, rfl⟩ : ∃ line, e = .name line id := by
      cases e with
      | name line id' => exact ⟨line, by rw [Option.some.inj hname]⟩
      | constant | compound | attr | item | call | filter => cases hname
    refine List.Sublist.filter _ ?_
    rw [ownIssues, ownIssues]
    by_cases hknown : (loops'.has id || more.has id) = true
    · exact (if_pos hknown).symm ▸ List.nil_sublist _
    · -- a name that is unknown even now was unknown before
      have hbefore : ¬ (loops.has id || u.varTypes.has id) = true := by
        intro hor
        refine hknown
          (Bool.or_eq_true_iff.2 ((Bool.or_eq_true_iff.1 hor).imp (h id) fun hvar => ?_))
        obtain ⟨t, ht⟩ := Option.isSome_iff_exists.1 hvar
        rw [Table.has, hmore id t ht]
        rfl
      rw [if_neg hbefore]
      exact (if_neg hknown).symm ▸ List.Sublist.refl _

end More

/-- With more variables declared, the warnings about undeclared variables are some of those from
before, in the same order, and none is about a variable that is declared now. -/
theorem warnings_declaring_sublist (u : Usage) (loops : LoopVariables) (stmts : List Stmt)
    {more : Table TypeExpr} (hmore : ∀ x t, u.varTypes.find? x = some t → more.find? x = some t) :
    (warnings ((u.declaring more).visitStmts loops stmts).1).Sublist
    (warnings (u.visitStmts loops stmts).1) ∧
      ∀ x, more.has x = true → ∀ i ∈ ((u.declaring more).visitStmts loops stmts).1, i.message ≠
        undeclared x := by
  constructor
  · rw [visitStmts_eq_flatMap, visitStmts_eq_flatMap, warnings, warnings, List.filter_flatMap,
      List.filter_flatMap]
    refine flatMap_sublist_of_forall₂ (forall₂_met hmore (fun _ hx => hx) _) ?_
    rintro ⟨known, s⟩ ⟨known', s'⟩ ⟨rfl, hknown⟩
    rw [shownAt, shownAt, show (u.declaring more).isHidden s = u.isHidden s from rfl]
    cases u.isHidden s with
    | true => exact List.nil_sublist _
    | false => exact warnings_ownIssues_sublist hmore hknown s.part
  · intro x hx i hi hm
    rw [visitStmts_eq_run] at hi
    obtain ⟨_, _, _, _, _, _, hundeclared⟩ := tells_run_iff.1 ⟨i, hi, hm⟩
    exact nomatch hx.symm.trans hundeclared

def listOf (item : String) : TypeExpr :=
  .generic ("list[" ++ item ++ "]") "list" none [.named item item none]

/-- A template with one list declared. -/
def gridUsage : Usage where
  filename := "t.html"
  lines := []
  varTypes := [("rows", listOf "Row")]
  filters := []
  macros := []
  ignored := []
  registry := .empty
  index := none
  byRegistry := false

def gridLoops : List Stmt :=
  [.loop (.name 1 "row") (.name 1 "rows")
    [.loop (.name 2 "row") (.name 2 "cells") [.output (.name 3 "row")] [], .output (.name 4 "row"),
      .output (.name 5 "cells")] []]

theorem warnings_declaring_sublist_grid :
    let more := gridUsage.varTypes.insert "cells" (listOf "Cell")
    (∀ x t, gridUsage.varTypes.find? x = some t → more.find? x = some t) ∧
      (warnings ((gridUsage.declaring more).visitStmts [] gridLoops).1).Sublist
        (warnings (gridUsage.visitStmts [] gridLoops).1) ∧
      (warnings (gridUsage.visitStmts [] gridLoops).1).map Issue.line = [4, 5] ∧
      (warnings ((gridUsage.declaring more).visitStmts [] gridLoops).1).map Issue.line = [4] := by
  intro more
  have hmore : ∀ x t, gridUsage.varTypes.find? x = some t → more.find? x = some t := by
    intro x t hx
    have hne : x ≠ "cells" := by
      rintro rfl
      cases hx
    rw [Table.find?_insert, beq_eq_false_iff_ne.2 hne]
    exact hx
  exact ⟨hmore, (warnings_declaring_sublist gridUsage [] gridLoops hmore).1, by decide +kernel, by
    decide +kernel⟩

end Usage

end TypedTemplate
