import TypedTemplate.Proofs.TypeExpr.Callable
import TypedTemplate.Proofs.Usage.Declared

/-! Uses of filters in a template, and the reports on the number of their arguments. A use is looked
at unless it stands in the header of a loop or inside an expression on an ignored line, and the
reports are those on the uses that are looked at, in the order in which they stand. -/
namespace TypedTemplate

namespace Template

/-- What stands around a use and may keep it from being looked at. -/
inductive Guard where
  | header
  | access (line : Nat)
  | part (line : Nat)

structure FilterUse where
  line : Nat
  name : String
  shape : ArgShape
  around : List Guard

mutual
/-- The uses of filters in an expression with the given guards around it. -/
def Expr.filterUses (gs : List Guard) : Expr → List FilterUse
  | .name _ _ => []
  | .constant _ _ => []
  | .compound _ _ parts => filterUsesAll gs parts
  | .attr line base _ => base.filterUses (.access line :: gs)
  | .item line base index =>
    base.filterUses (.part line :: gs) ++ index.filterUses (.part line :: gs)
  | .call line callee _ args =>
    callee.filterUses (.part line :: gs) ++ filterUsesAll (.part line :: gs) args
  | .filter line id shape parts => ⟨line, id, shape, gs⟩ :: filterUsesAll (.part line :: gs) parts

def Expr.filterUsesAll (gs : List Guard) : List Expr → List FilterUse
  | [] => []
  | e :: es => e.filterUses gs ++ filterUsesAll gs es
end

mutual
def Stmt.filterUses : Stmt → List FilterUse
  | .text _ => []
  | .output e => e.filterUses []
  | .print es => Expr.filterUsesAll [] es
  | .evaluate e => e.filterUses []
  | .jump => []
  | .loop _ iterable body otherwise =>
    iterable.filterUses [.header] ++ (filterUsesOf body ++ filterUsesOf otherwise)
  | .conditional test body alternatives otherwise =>
    test.filterUses [] ++
      (filterUsesOf body ++ (filterUsesOf alternatives ++ filterUsesOf otherwise))
  | .block _ before body after =>
    Expr.filterUsesAll [] before ++ (filterUsesOf body ++ Expr.filterUsesAll [] after)

def Stmt.filterUsesOf : List Stmt → List FilterUse
  | [] => []
  | s :: ss => s.filterUses ++ filterUsesOf ss
end

end Template

def arityStart : List Char := ['F', 'i', 'l', 't', 'e', 'r', ' ', '\'']

def Issue.isArity (i : Issue) : Bool := Text.startsWith i.message.toList arityStart

namespace Usage
open Template

variable (u : Usage)

def passes : Guard → Bool
  | .header => false
  | .access line => u.byRegistry || !u.isIgnored line
  | .part line => !u.isIgnored line

def reaches (x : FilterUse) : Bool := x.around.all u.passes

/-- What is reported about one use. -/
def report (x : FilterUse) : List Issue :=
  if u.reaches x && !u.isIgnored x.line then u.checkFilter x.line x.name x.shape else []

section Kinds

theorem not_isArity {i : Issue} (h : i.message.toList.head? ≠ some 'F') : i.isArity = false := by
  rw [Issue.isArity]
  generalize i.message.toList = s at h
  cases s with
  | nil => rfl
  | cons c s =>
    have hc : ('F' == c) = false := beq_eq_false_iff_ne.2 fun hc => h (by rw [← hc]; rfl)
    rw [Text.startsWith, arityStart, List.isPrefixOf_cons_cons, hc, Bool.false_and]

theorem arity_eq_nil {is : List Issue} (h : ∀ i ∈ is, i.message.toList.head? ≠ some 'F') :
    is.filter Issue.isArity = [] :=
  List.filter_eq_nil_iff.2 fun i hi => by simp [not_isArity (h i hi)]

theorem arity_checkName (loops : LoopVariables) (line : Nat) (id : String) :
    (u.checkName loops line id).filter Issue.isArity = [] :=
  arity_eq_nil fun i hi => by simp [raised_checkName hi]

theorem arity_checkAttr (loops : LoopVariables) (line : Nat) (base : Expr) (attr : String) :
    (u.checkAttr loops line base attr).filter Issue.isArity = [] :=
  arity_eq_nil fun i hi => by simp [raised_checkAttr hi]

theorem arity_checkAttrByRegistry (line : Nat) (base : Expr) (attr : String) :
    (u.checkAttrByRegistry line base attr).filter Issue.isArity = [] :=
  arity_eq_nil fun i hi => by simp [raised_checkAttrByRegistry hi]

theorem arity_checkItem (loops : LoopVariables) (line : Nat) (base index : Expr) :
    (u.checkItem loops line base index).filter Issue.isArity = [] :=
  arity_eq_nil fun i hi => by rcases (raised_checkItem hi).2 with h | h <;> simp [h]

theorem arity_checkCall (line : Nat) (callee : Expr) (shape : ArgShape) :
    (u.checkCall line callee shape).filter Issue.isArity = [] :=
  arity_eq_nil fun i hi => by simp [raised_checkCall hi]

theorem arity_checkFilter (line : Nat) (name : String) (shape : ArgShape) :
    (u.checkFilter line name shape).filter Issue.isArity = u.checkFilter line name shape := by
  rw [List.filter_eq_self]
  intro i hi
  rw [checkFilter] at hi
  split at hi
  · cases hi
  · split at hi
    · obtain rfl := List.mem_singleton.1 (List.mem_ite_nil_left.1 hi).2
      rw [Issue.isArity, issueAt, Text.startsWith, List.isPrefixOf_iff_prefix]
      simp only [String.toList_append, List.append_assoc]
      exact List.prefix_append _ _
    · cases hi

end Kinds

def arityBehind (gs : List Guard) (found : List Issue) : List Issue :=
  if gs.all u.passes then found.filter Issue.isArity else []

section Behind

variable {u} {gs : List Guard} {found more : List Issue}

theorem arityBehind_append :
    u.arityBehind gs (found ++ more) = u.arityBehind gs found ++ u.arityBehind gs more := by
  rw [arityBehind, arityBehind, arityBehind]
  split
  · rw [List.filter_append]
  · rfl

theorem arityBehind_eq_nil (h : found.filter Issue.isArity = []) : u.arityBehind gs found = [] := by
  rw [arityBehind, h, ite_self]

theorem arityBehind_part {line : Nat} (gs : List Guard) (found : List Issue) :
    u.arityBehind (.part line :: gs) found = u.arityBehind gs
      (if u.isIgnored line then [] else found) := by
  rw [arityBehind, arityBehind, List.all_cons, passes]
  cases u.isIgnored line <;> simp

theorem arityBehind_access {line : Nat} (gs : List Guard) (found : List Issue) :
    u.arityBehind (.access line :: gs) found =
      u.arityBehind gs (if u.byRegistry then found else if u.isIgnored line then []
        else found) := by
  rw [arityBehind, arityBehind, List.all_cons, passes]
  cases u.byRegistry <;> cases u.isIgnored line <;> simp

theorem report_eq (line : Nat) (name : String) (shape : ArgShape) (gs : List Guard) :
    u.report ⟨line, name, shape, gs⟩ = u.arityBehind (.part line :: gs)
      (u.checkFilter line name shape) := by
  rw [report, arityBehind, arity_checkFilter, List.all_cons, reaches, passes, Bool.and_comm]

end Behind

mutual
theorem reports_visit (loops : LoopVariables) (gs : List Guard) :
    (e : Expr) → (e.filterUses gs).flatMap u.report = u.arityBehind gs (u.visit loops e)
  | .name line id => by
    rw [Expr.filterUses, visit, arityBehind_eq_nil (u.arity_checkName loops line id)]
    rfl
  | .constant _ _ => by
    rw [Expr.filterUses, visit, arityBehind_eq_nil rfl]
    rfl
  | .compound _ _ parts => by
    rw [Expr.filterUses, visit, reports_visitAll loops gs parts]
  | .attr line base attr => by
    rw [Expr.filterUses, visit, reports_visit loops (.access line :: gs) base, arityBehind_access]
    split
    · rw [arityBehind_append, arityBehind_eq_nil (u.arity_checkAttrByRegistry line base attr),
        List.nil_append]
    · split
      · rfl
      · rw [arityBehind_append, arityBehind_eq_nil (u.arity_checkAttr loops line base attr),
          List.nil_append]
  | .item line base index => by
    rw [Expr.filterUses, visit, List.flatMap_append, reports_visit loops (.part line :: gs) base,
      reports_visit loops (.part line :: gs) index, arityBehind_part, arityBehind_part]
    split
    · rw [arityBehind_eq_nil rfl, List.nil_append]
    · rw [arityBehind_append, arityBehind_append,
        arityBehind_eq_nil (u.arity_checkItem loops line base index), List.nil_append]
  | .call line callee shape args => by
    rw [Expr.filterUses, visit, List.flatMap_append, reports_visit loops (.part line :: gs) callee,
      reports_visitAll loops (.part line :: gs) args, arityBehind_part, arityBehind_part]
    split
    · rw [arityBehind_eq_nil rfl, List.nil_append]
    · rw [arityBehind_append, arityBehind_append,
        arityBehind_eq_nil (u.arity_checkCall line callee shape), List.nil_append]
  | .filter line name shape parts => by
    rw [Expr.filterUses, visit, List.flatMap_cons, report_eq,
      reports_visitAll loops (.part line :: gs) parts, arityBehind_part, arityBehind_part]
    split
    · rw [arityBehind_eq_nil rfl, List.nil_append]
    · rw [arityBehind_append]

theorem reports_visitAll (loops : LoopVariables) (gs : List Guard) :
    (es : List Expr) → (Expr.filterUsesAll gs es).flatMap u.report = u.arityBehind gs
      (u.visitAll loops es)
  | [] => by
    rw [Expr.filterUsesAll, visitAll, arityBehind_eq_nil rfl]
    rfl
  | e :: es => by
    rw [Expr.filterUsesAll, visitAll, List.flatMap_append, reports_visit loops gs e,
      reports_visitAll loops gs es, arityBehind_append]
end

theorem arityBehind_nil (found : List Issue) :
    u.arityBehind [] found = found.filter Issue.isArity := rfl

mutual
theorem reports_visitStmt (loops : LoopVariables) :
    (s : Stmt) → s.filterUses.flatMap u.report = (u.visitStmt loops s).1.filter Issue.isArity
  | .text _ => by
    rw [Stmt.filterUses, visitStmt]
    rfl
  | .output e => by rw [Stmt.filterUses, visitStmt, u.reports_visit loops [] e, arityBehind_nil]
  | .print es => by rw [Stmt.filterUses, visitStmt, u.reports_visitAll loops [] es, arityBehind_nil]
  | .evaluate e => by rw [Stmt.filterUses, visitStmt, u.reports_visit loops [] e, arityBehind_nil]
  | .jump => by
    rw [Stmt.filterUses, visitStmt]
    rfl
  | .loop target iterable body otherwise => by
    have hheader : (iterable.filterUses [.header]).flatMap u.report = [] :=
      u.reports_visit loops [.header] iterable
    rw [Stmt.filterUses, visitStmt, List.flatMap_append, hheader, List.nil_append,
      List.flatMap_append, List.filter_append]
    exact congr (congrArg _ (reports_visitStmts _ body)) (reports_visitStmts _ otherwise)
  | .conditional test body alternatives otherwise => by
    rw [Stmt.filterUses, visitStmt]
    simp only [List.flatMap_append, List.filter_append, List.append_assoc]
    rw [u.reports_visit loops [] test, reports_visitStmts loops body,
      reports_visitStmts (u.visitStmts loops body).2 alternatives, reports_visitStmts _ otherwise,
        arityBehind_nil]
  | .block kind before body after => by
    rw [Stmt.filterUses, visitStmt]
    simp only [List.flatMap_append, List.filter_append, List.append_assoc]
    rw [u.reports_visitAll loops [] before, reports_visitStmts loops body,
      u.reports_visitAll (u.visitStmts loops body).2 [] after, arityBehind_nil, arityBehind_nil]

theorem reports_visitStmts (loops : LoopVariables) :
    (ss : List Stmt) → (Stmt.filterUsesOf ss).flatMap u.report = (u.visitStmts loops ss).1.filter
      Issue.isArity
  | [] => by
    rw [Stmt.filterUsesOf, visitStmts]
    rfl
  | s :: ss => by
    rw [Stmt.filterUsesOf, visitStmts, List.flatMap_append, reports_visitStmt loops s,
      List.filter_append]
    exact congrArg _ (reports_visitStmts _ ss)
end

/-- The number of arguments that is expected of a filter with parameters of the given types, its
input among them. -/
def wanted : List TypeExpr → Nat
  | [t] => max 1 t.args.length
  | _ => 1

theorem length_checkFilter {f raw : String} {us : List TypeExpr} {v : TypeExpr} {shape : ArgShape}
    (line : Nat) (hf : u.filters.find? f = some (.generic raw "Callable" none (us ++ [v])))
    (hne : us ≠ [])
    (hfirst : ∀ w us', us = w :: us' → us' ≠ [] → w.args = []) (hs : shape.spread = false) :
    (u.checkFilter line f shape).length = if 1 + argCount shape = wanted us then 0 else 1 := by
  obtain ⟨w, us', rfl⟩ := List.exists_cons_of_ne_nil hne
  have hwant : (if w.args.isEmpty then 1 else w.args.length) = wanted (w :: us') := by
    cases us' with
    | nil =>
      rw [wanted]
      cases w.args <;> simp
    | cons w' us' => simp [wanted, hfirst w _ rfl (by simp)]
  obtain ⟨z, zs, hz⟩ : ∃ z zs, us' ++ [v] = z :: zs := List.exists_cons_of_ne_nil (by simp)
  have hname : ((TypeExpr.generic raw "Callable" none (w :: z :: zs)).name == "Callable") = true :=
    beq_self_eq_true "Callable"
  have hargs : (TypeExpr.generic raw "Callable" none (w :: z :: zs)).args = w :: z :: zs := rfl
  rw [checkFilter, hf, List.cons_append, hz]
  simp only [hname, hargs, hwant, hs, Bool.false_or, beq_iff_eq]
  split <;> rfl

end Usage

namespace Analysis
open Template Usage

/-- A report on the number of arguments of a filter is right if it is made exactly where the input
and the arguments are not as many as the parameters. The arguments are counted against those of the
first parameter type, or against one where it has none; of two or more parameters the first has
none. So the report on a use that is looked at is right exactly if the count meets both numbers or
neither. -/
theorem arity_report_right_iff {a : Analysis} {r : Registry} {filename content f result : String}
    {cs : List Comment}
    {stmts : List Stmt} {params : List String} {t : TypeExpr}
    (hcs : Comment.parseAll filename content = .ok cs)
    (hok : ¬ a.importsFail r filename cs) (hparse : a.engine.reading filename content = .tree stmts)
    (hdecl : Comment.filterType? f cs = some t)
    (ht : TypeExpr.parse (TypeExpr.callableText params result) = .ok t)
    (hne : params ≠ []) (hparams : ∀ s ∈ params, TypeExpr.Standalone s.toList)
    (hresult : TypeExpr.Standalone result.toList) :
    let u := a.textUsage r filename content cs
    (a.template r filename content).1.issues =
        (a.applyComments r.clearImports filename cs).1.issues ++ u.issues stmts ∧
      (u.issues stmts).filter Issue.isArity = (Stmt.filterUsesOf stmts).flatMap u.report ∧
      ∃ types v, List.Forall₂ (fun s w => TypeExpr.parse s = .ok w) params types ∧
        TypeExpr.parse result = .ok v ∧
        ∀ x ∈ Stmt.filterUsesOf stmts, x.name = f → x.shape.spread = false →
          u.isIgnored x.line = false → let got := 1 + argCount x.shape
          (u.report x).length = (if u.reaches x ∧ got ≠ wanted types then 1 else 0) ∧
            ((u.report x).length = (if got = params.length then 0 else 1) ↔
              if u.reaches x then (got = params.length ↔ got = wanted types)
                else got = params.length) := by
  intro u
  obtain ⟨types, v, htypes, hv, rfl, hfirst⟩ := TypeExpr.parse_callableText hparams hresult ht
  refine ⟨issues_template_eq hcs hok hparse, (u.reports_visitStmts [] stmts).symm, types, v, htypes,
    hv, ?_⟩
  rintro x - rfl hspread hline
  have hfilters : u.filters.find? x.name =
      some (.generic (TypeExpr.callableText params result) "Callable" none (types ++ [v])) := by
    have h := (applied_textUsage hok).filters x.name
    rw [hdecl] at h
    exact h
  have htypes_ne : types ≠ [] := by
    rintro rfl
    cases htypes
    exact hne rfl
  have hcount := u.length_checkFilter x.line hfilters htypes_ne hfirst hspread
  have hreport : (u.report x).length = if u.reaches x ∧ 1 + argCount x.shape ≠ wanted types then 1
    else 0 := by
    rw [Usage.report, hline]
    cases u.reaches x with
    | false => rfl
    | true =>
      rw [Bool.not_false, Bool.and_true, if_pos rfl, hcount]
      split <;> simp_all
  refine ⟨hreport, ?_⟩
  rw [hreport]
  cases u.reaches x with
  | false => by_cases hn : 1 + argCount x.shape = params.length <;> simp [hn]
  | true =>
    by_cases hn : 1 + argCount x.shape = params.length <;> by_cases hw :
      1 + argCount x.shape = wanted types <;> simp [hn, hw]

def loneParameter : String :=
  "\x7b# typja:filter f: Callable[[str], str] #\x7d\n\x7b\x7b 'a' | f \x7d\x7d\n"

def pairOfParameters : String :=
  "\x7b# typja:filter f: Callable[[str, int], str] #\x7d\n\x7b\x7b 'a' | f(3) \x7d\x7d\n"

def blank : Analysis := .start none .ascending (some .empty) false

def isTextToText : TypeExpr → Bool
  | .generic raw n m [.named r₁ n₁ m₁, .named r₂ n₂ m₂] =>
    raw == "Callable[[str], str]" && n == "Callable" && m == none && r₁ == "str" && n₁ == "str" &&
      m₁ == none && r₂ == "str" && n₂ == "str" && m₂ == none
  | _ => false

theorem eq_of_isTextToText {t : TypeExpr} (h : isTextToText t = true) :
    t = .generic "Callable[[str], str]" "Callable" none [.named "str" "str" none,
      .named "str" "str" none] := by
  unfold isTextToText at h
  split at h
  · simp_all
  · cases h

theorem arity_report_right_iff_lone :
    ∃ cs stmts, Comment.parseAll "t.html" loneParameter = .ok cs ∧
      Template.parse ⟨true, false⟩ loneParameter = .ok stmts ∧
      ∃ x ∈ Stmt.filterUsesOf stmts, x.name = "f" ∧
        ((blank.textUsage .empty "t.html" loneParameter cs).report x).length = 0 := by
  have hcomments : (Comment.parseAll "t.html" loneParameter).toOption.any (fun cs =>
      !(blank.applyComments Registry.empty.clearImports "t.html" cs).2.2.isSome &&
      !(blank.textUsage .empty "t.html" loneParameter cs).isIgnored 2 &&
      (Comment.filterType? "f" cs).any isTextToText) = true := by decide +kernel
  obtain ⟨cs, hcs, hcomments⟩ := exists_ok_of_any hcomments
  have htext : (Template.parse ⟨true, false⟩ loneParameter).toOption.any
    (fun stmts => (Stmt.filterUsesOf stmts).any fun x =>
      x.name == "f" && x.line == 2 && !x.shape.spread && argCount x.shape == 0) = true := by
        decide +kernel
  obtain ⟨stmts, hstmts, htext⟩ := exists_ok_of_any htext
  obtain ⟨x, hx, hshape⟩ := List.any_eq_true.1 htext
  have htype : (TypeExpr.parse (TypeExpr.callableText ["str"] "str")).toOption.any isTextToText =
    true := by decide +kernel
  obtain ⟨t, ht, htype⟩ := exists_ok_of_any htype
  have hplain : (TypeExpr.parse "str").toOption.any (fun w => w.args.isEmpty) = true := by
    decide +kernel
  obtain ⟨w, hw, hplain⟩ := exists_ok_of_any hplain
  simp only [Bool.and_eq_true, Bool.not_eq_true', beq_iff_eq] at hcomments hshape
  obtain ⟨⟨hok, hline⟩, hdecl⟩ := hcomments
  obtain ⟨⟨⟨hname, hx2⟩, hspread⟩, hcount⟩ := hshape
  obtain ⟨t', hdecl, htype'⟩ := (Option.any_eq_true _ _).1 hdecl
  obtain rfl : t' = t := (eq_of_isTextToText htype').trans (eq_of_isTextToText htype).symm
  have hstr : TypeExpr.Standalone "str".toList :=
    ⟨⟨by decide, by decide⟩, ⟨by decide, Text.sealed_of_not_mem (by decide) 0, by decide⟩,
      Text.nested_plain (by decide),
      show ∀ c ∈ "str".toList, (Text.isOpen c = true → c = '[') ∧
        (Text.isClose c = true → c = ']') by decide⟩
  obtain ⟨-, -, types, v, htypes, -, hreports⟩ :=
    arity_report_right_iff (a := blank) (r := .empty) hcs
    (by simp [importsFail, hok]) (reading_start_eq_tree_iff.2 hstmts) hdecl ht (by simp)
      (by simpa using hstr) hstr
  obtain ⟨w', us, hw', h, rfl⟩ := List.forall₂_cons_left_iff.1 htypes
  obtain rfl : us = [] := List.forall₂_nil_left_iff.1 h
  obtain rfl : w' = w := Except.ok.inj (hw'.symm.trans hw)
  have hwanted : wanted [w'] = 1 := by simp [wanted, List.isEmpty_iff.1 hplain]
  refine ⟨cs, stmts, hcs, hstmts, x, hx, hname, ?_⟩
  rw [(hreports x hx hname hspread (by rw [hx2]; exact hline)).1, hcount, hwanted, if_neg (by simp)]

theorem pair_of_parameters_reported :
    (TypeExpr.parse (TypeExpr.callableText ["str", "int"] "str")).toOption.isSome = true ∧
      (blank.template .empty "t.html" pairOfParameters).1.issues.map Issue.message =
        ["Filter 'f' expects 1 argument(s) but got 2"] := by
  decide +kernel

end Analysis

end TypedTemplate
