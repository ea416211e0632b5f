import TypedTemplate.Usage.Visit

/-! Where the issues of a template's text come from, and that no expression in braces is passed
over. -/
namespace TypedTemplate

namespace Template.Stmt

mutual
/-- The expressions that stand in braces of their own, at any depth of statements. -/
def outputs : Stmt → List Expr
  | text _ => []
  | output e => [e]
  | print _ => []
  | evaluate _ => []
  | jump => []
  | loop _ _ body otherwise => outputsOf body ++ outputsOf otherwise
  | conditional _ body alternatives otherwise =>
    outputsOf body ++ (outputsOf alternatives ++ outputsOf otherwise)
  | block _ _ body _ => outputsOf body

def outputsOf : List Stmt → List Expr
  | [] => []
  | s :: ss => s.outputs ++ outputsOf ss
end

end Template.Stmt

namespace Usage
open Template

variable (u : Usage)

/-- An issue and the check that raises it. -/
inductive Raised : Issue → Prop
  | name {loops line id i} (h : i ∈ u.checkName loops line id) : Raised i
  | attr {loops line base attr i} (h : i ∈ u.checkAttr loops line base attr) : Raised i
  | attrByRegistry {line base attr i} (h : i ∈ u.checkAttrByRegistry line base attr) : Raised i
  | item {loops line base index i} (h : i ∈ u.checkItem loops line base index) : Raised i
  | call {line callee shape i} (h : i ∈ u.checkCall line callee shape) : Raised i
  | filter {line name shape i} (h : i ∈ u.checkFilter line name shape) : Raised i

mutual
theorem raised_of_mem_visit (loops : LoopVariables) : (e : Expr) → ∀ i ∈ u.visit loops e, u.Raised i
  | .name line id, i, h => by
    rw [visit] at h
    exact .name h
  | .constant _ _, i, h => by
    rw [visit] at h
    cases h
  | .compound _ _ parts, i, h => by
    rw [visit] at h
    exact raised_of_mem_visitAll loops parts i h
  | .attr line base attr, i, h => by
    rw [visit] at h
    split at h
    · rcases List.mem_append.1 h with h | h
      · exact .attrByRegistry h
      · exact raised_of_mem_visit loops base i h
    · split at h
      · cases h
      · rcases List.mem_append.1 h with h | h
        · exact .attr h
        · exact raised_of_mem_visit loops base i h
  | .item line base index, i, h => by
    rw [visit] at h
    split at h
    · cases h
    · rw [List.mem_append, List.mem_append] at h
      rcases h with (h | h) | h
      · exact .item h
      · exact raised_of_mem_visit loops base i h
      · exact raised_of_mem_visit loops index i h
  | .call line callee shape args, i, h => by
    rw [visit] at h
    split at h
    · cases h
    · rw [List.mem_append, List.mem_append] at h
      rcases h with (h | h) | h
      · exact .call h
      · exact raised_of_mem_visit loops callee i h
      · exact raised_of_mem_visitAll loops args i h
  | .filter line name shape parts, i, h => by
    rw [visit] at h
    split at h
    · cases h
    · rcases List.mem_append.1 h with h | h
      · exact .filter h
      · exact raised_of_mem_visitAll loops parts i h

theorem raised_of_mem_visitAll (loops : LoopVariables) :
    (es : List Expr) → ∀ i ∈ u.visitAll loops es, u.Raised i
  | [], i, h => by
    rw [visitAll] at h
    cases h
  | e :: es, i, h => by
    rw [visitAll] at h
    rcases List.mem_append.1 h with h | h
    · exact raised_of_mem_visit loops e i h
    · exact raised_of_mem_visitAll loops es i h
end

mutual
theorem raised_of_mem_visitStmt (loops : LoopVariables) :
    (s : Stmt) → ∀ i ∈ (u.visitStmt loops s).1, u.Raised i
  | .text _, i, h => by
    rw [visitStmt] at h
    cases h
  | .output e, i, h => by
    rw [visitStmt] at h
    exact u.raised_of_mem_visit loops e i h
  | .print es, i, h => by
    rw [visitStmt] at h
    exact u.raised_of_mem_visitAll loops es i h
  | .evaluate e, i, h => by
    rw [visitStmt] at h
    exact u.raised_of_mem_visit loops e i h
  | .jump, i, h => by
    rw [visitStmt] at h
    cases h
  | .loop target iterable body otherwise, i, h => by
    rw [visitStmt] at h
    rcases List.mem_append.1 h with h | h
    · exact raised_of_mem_visitStmts _ body i h
    · exact raised_of_mem_visitStmts _ otherwise i h
  | .conditional test body alternatives otherwise, i, h => by
    rw [visitStmt] at h
    dsimp only at h
    rw [List.mem_append, List.mem_append, List.mem_append] at h
    rcases h with ((h | h) | h) | h
    · exact u.raised_of_mem_visit loops test i h
    · exact raised_of_mem_visitStmts _ body i h
    · exact raised_of_mem_visitStmts _ alternatives i h
    · exact raised_of_mem_visitStmts _ otherwise i h
  | .block kind before body after, i, h => by
    rw [visitStmt] at h
    dsimp only at h
    rw [List.mem_append, List.mem_append] at h
    rcases h with (h | h) | h
    · exact u.raised_of_mem_visitAll loops before i h
    · exact raised_of_mem_visitStmts _ body i h
    · exact u.raised_of_mem_visitAll _ after i h

theorem raised_of_mem_visitStmts (loops : LoopVariables) :
    (ss : List Stmt) → ∀ i ∈ (u.visitStmts loops ss).1, u.Raised i
  | [], i, h => by
    rw [visitStmts] at h
    cases h
  | s :: ss, i, h => by
    rw [visitStmts] at h
    rcases List.mem_append.1 h with h | h
    · exact raised_of_mem_visitStmt loops s i h
    · exact raised_of_mem_visitStmts _ ss i h
end

def Shown (e : Expr) (found : List Issue) : Prop := ∃ loops, ∀ i ∈ u.visit loops e, i ∈ found

variable {u}

theorem Shown.mono {e : Expr} {found more : List Issue} (h : u.Shown e found)
    (hsub : found ⊆ more) : u.Shown e more :=
  h.imp fun _ hi i hm => hsub (hi i hm)

mutual
theorem shown_visitStmt {e : Expr} (loops : LoopVariables) :
    (s : Stmt) → e ∈ s.outputs → u.Shown e (u.visitStmt loops s).1
  | .text _, h => by simp [Stmt.outputs] at h
  | .output e', h => by
    obtain rfl : e = e' := by simpa [Stmt.outputs] using h
    rw [visitStmt]
    exact ⟨loops, fun _ hi => hi⟩
  | .print _, h => by simp [Stmt.outputs] at h
  | .evaluate _, h => by simp [Stmt.outputs] at h
  | .jump, h => by simp [Stmt.outputs] at h
  | .loop target iterable body otherwise, h => by
    rw [Stmt.outputs] at h
    rw [visitStmt]
    rcases List.mem_append.1 h with h | h
    · exact (shown_visitStmts _ body h).mono (List.subset_append_left _ _)
    · exact (shown_visitStmts _ otherwise h).mono (List.subset_append_right _ _)
  | .conditional test body alternatives otherwise, h => by
    rw [Stmt.outputs, List.mem_append, List.mem_append] at h
    rw [visitStmt]
    dsimp only
    rcases h with h | h | h
    · exact (shown_visitStmts _ body h).mono fun _ hi =>
        List.mem_append_left _ (List.mem_append_left _ (List.mem_append_right _ hi))
    · exact (shown_visitStmts _ alternatives h).mono fun _ hi => List.mem_append_left _
        (List.mem_append_right _ hi)
    · exact (shown_visitStmts _ otherwise h).mono (List.subset_append_right _ _)
  | .block kind before body after, h => by
    rw [Stmt.outputs] at h
    rw [visitStmt]
    exact (shown_visitStmts _ body h).mono fun _ hi => List.mem_append_left _
      (List.mem_append_right _ hi)

theorem shown_visitStmts {e : Expr} (loops : LoopVariables) :
    (ss : List Stmt) → e ∈ Stmt.outputsOf ss → u.Shown e (u.visitStmts loops ss).1
  | [], h => by simp [Stmt.outputsOf] at h
  | s :: ss, h => by
    rw [Stmt.outputsOf] at h
    rw [visitStmts]
    rcases List.mem_append.1 h with h | h
    · exact (shown_visitStmt _ s h).mono (List.subset_append_left _ _)
    · exact (shown_visitStmts _ ss h).mono (List.subset_append_right _ _)
end

section Initials

variable {i : Issue}

theorem raised_checkName {loops : LoopVariables} {line : Nat} {id : String}
    (h : i ∈ u.checkName loops line id) :
    i.line = line ∧ i.message.toList.head? = some 'V' := by
  rw [checkName] at h
  split at h
  · cases h
  · obtain rfl := List.mem_singleton.1 h
    simp [issueUnder]

theorem raised_checkAttr {loops : LoopVariables} {line : Nat} {base : Expr} {attr : String}
    (h : i ∈ u.checkAttr loops line base attr) :
    i.line = line ∧ i.message.toList.head? = some 'T' := by
  rw [checkAttr] at h
  split at h
  · dsimp only at h
    split at h
    · cases h
    · split at h
      · cases h
      · obtain rfl := List.mem_singleton.1 h
        simp [issueUnder]
  · cases h

theorem raised_checkAttrByRegistry {line : Nat} {base : Expr} {attr : String}
    (h : i ∈ u.checkAttrByRegistry line base attr) :
    i.line = line ∧ i.message.toList.head? = some 'T' := by
  unfold checkAttrByRegistry at h
  split at h
  · split at h
    · split at h
      · cases h
      · obtain rfl := List.mem_singleton.1 h
        simp [issueAt]
    · cases h
  · cases h

theorem initial_attributeError (e : ClassIndex.AttributeError) :
    e.message.toList.head? = some 'A' ∨ e.message.toList.head? = some 'T' := by
  cases e with
  | ambiguous t candidates =>
    left
    change ("Ambiguous type '" ++ t ++ "' found in multiple files. Use qualified name: " ++
      Text.joinWith ", " candidates ++
      " or import explicitly with \x7b# typja:from <module> import " ++ t ++
        " #\x7d").toList.head? = some 'A'
    simp
  | noType t =>
    right
    change ("Type '" ++ t ++ "' not found").toList.head? = some 'T'
    simp
  | noAttribute t a =>
    left
    change ("Attribute '" ++ a ++ "' not found on type '" ++ t ++ "'").toList.head? = some 'A'
    simp

theorem raised_checkItem {loops : LoopVariables} {line : Nat} {base index : Expr}
    (h : i ∈ u.checkItem loops line base index) :
    i.line = line ∧ (i.message.toList.head? = some 'A' ∨ i.message.toList.head? = some 'T') := by
  unfold checkItem at h
  split at h
  · split at h
    · cases h
    · split at h
      · cases h
      · next e _ =>
        obtain rfl := List.mem_singleton.1 h
        exact ⟨rfl, initial_attributeError e⟩
  · cases h

theorem raised_checkCall {line : Nat} {callee : Expr} {shape : ArgShape}
    (h : i ∈ u.checkCall line callee shape) :
    i.line = line ∧ i.message.toList.head? = some 'M' := by
  rw [checkCall] at h
  split at h
  · cases h
  · split at h
    · cases h
    · rcases List.mem_append.1 h with h | h
      · split at h
        · obtain rfl := List.mem_singleton.1 h
          simp [issueAt]
        · split at h
          · obtain rfl := List.mem_singleton.1 h
            simp [issueAt]
          · cases h
      · obtain ⟨k, -, rfl⟩ := List.mem_map.1 h
        simp [issueAt]

theorem raised_checkFilter {line : Nat} {name : String} {shape : ArgShape}
    (h : i ∈ u.checkFilter line name shape) :
    i.line = line ∧ i.message.toList.head? = some 'F' := by
  rw [checkFilter] at h
  split at h
  · cases h
  · split at h
    · obtain rfl := List.mem_singleton.1 (List.mem_ite_nil_left.1 h).2
      simp [issueAt]
    · cases h

end Initials

section Attribute

def attributeMessage (type attr : String) : String :=
  "Type '" ++ type ++ "' has no attribute '" ++ attr ++ "'"

def attributeHint (type : String) : String :=
  "Check the definition of '" ++ type ++ "' for available attributes"

/-- The issue of an access to an attribute that a type does not have. -/
def missing (u : Usage) (line : Nat) (type attr : String) : Issue :=
  u.issueUnder .error line attr (attributeMessage type attr) (attributeHint type)

theorem toList_attributeHint (type : String) : (attributeHint type).toList =
    "Check the definition of '".toList ++ type.toList ++ "' for available attributes".toList := by
  change ("Check the definition of '" ++ type ++ "' for available attributes").toList = _
  rw [String.toList_append, String.toList_append]

theorem attributeHint_inj {s t : String} (h : attributeHint s = attributeHint t) : s = t := by
  have hl := congrArg String.toList h
  rw [toList_attributeHint, toList_attributeHint] at hl
  exact String.toList_inj.1 (List.append_cancel_left (List.append_cancel_right hl))

theorem attributeMessage_inj {type s t : String}
    (h : attributeMessage type s = attributeMessage type t) : s = t := by
  have toList (a : String) : (attributeMessage type a).toList =
      ("Type '" ++ type ++ "' has no attribute '").toList ++ a.toList ++ "'".toList := by
    change ("Type '" ++ type ++ "' has no attribute '" ++ a ++ "'").toList = _
    rw [String.toList_append, String.toList_append]
  have hl := congrArg String.toList h
  rw [toList, toList] at hl
  exact String.toList_inj.1 (List.append_cancel_left (List.append_cancel_right hl))

theorem head?_attributeHint (type : String) : (attributeHint type).toList.head? = some 'C' := by
  rw [toList_attributeHint, List.append_assoc, List.head?_append]
  rfl

theorem ne_attributeHint {s type : String} (h : s.toList.head? ≠ some 'C') :
    some s ≠ some (attributeHint type) := by
  intro heq
  rw [Option.some.inj heq] at h
  exact h (head?_attributeHint type)

theorem Raised.refused {x : ClassIndex} {i : Issue} {type attr : String} (h : u.Raised i)
    (hx : u.index = some x)
    (hhint : i.hint = some (attributeHint type)) (hm : i.message = attributeMessage type attr) :
    x.checkAttribute type attr ≠ .ok () := by
  cases h with
  | name h =>
    rw [checkName] at h
    split at h
    · cases h
    · obtain rfl := List.mem_singleton.1 h
      exact absurd hhint (ne_attributeHint (by simp))
  | @attr loops line base attr' _ h =>
    rw [checkAttr] at h
    split at h
    · next t index ht hi =>
      obtain rfl : x = index := Option.some.inj (hx.symm.trans hi)
      dsimp only at h
      split at h
      · cases h
      · split at h
        · cases h
        · next e he =>
          obtain rfl := List.mem_singleton.1 h
          obtain rfl : u.lookupName t = type := attributeHint_inj (Option.some.inj hhint)
          obtain rfl : attr' = attr := attributeMessage_inj hm
          rw [he]
          simp
    · cases h
  | attrByRegistry h =>
    unfold checkAttrByRegistry at h
    split at h
    · split at h
      · split at h
        · cases h
        · obtain rfl := List.mem_singleton.1 h
          cases hhint
      · cases h
    · cases h
  | item h =>
    unfold checkItem at h
    split at h
    · split at h
      · cases h
      · split at h
        · cases h
        · obtain rfl := List.mem_singleton.1 h
          exact absurd hhint (ne_attributeHint (by simp))
    · cases h
  | call h =>
    rw [checkCall] at h
    split at h
    · cases h
    · split at h
      · cases h
      · rcases List.mem_append.1 h with h | h
        · split at h
          · obtain rfl := List.mem_singleton.1 h
            exact absurd hhint (ne_attributeHint (by simp))
          · split at h
            · obtain rfl := List.mem_singleton.1 h
              cases hhint
            · cases h
        · obtain ⟨k, -, rfl⟩ := List.mem_map.1 h
          exact absurd hhint (ne_attributeHint (by simp))
  | filter h =>
    rw [checkFilter] at h
    split at h
    · cases h
    · split at h
      · obtain rfl := List.mem_singleton.1 (List.mem_ite_nil_left.1 h).2
        cases hhint
      · cases h

theorem missing_mem_issues_iff {x : ClassIndex} {t : TypeExpr} {stmts : List Stmt} {line l : Nat}
    {v attr : String}
    (hx : u.index = some x) (hreg : u.byRegistry = false) (hv : u.varTypes.find? v = some t)
    (hname : (u.lookupName t).isEmpty = false) (hline : u.isIgnored line = false)
    (haccess : .attr line (.name l v) attr ∈ Stmt.outputsOf stmts) :
    u.missing line (u.lookupName t) attr ∈ u.issues stmts ↔
      x.checkAttribute (u.lookupName t) attr ≠ .ok () := by
  constructor
  · intro h
    exact (u.raised_of_mem_visitStmts [] stmts _ h).refused hx rfl rfl
  · intro h
    obtain ⟨loops, hshown⟩ := shown_visitStmts (u := u) [] stmts haccess
    refine hshown _ ?_
    rw [visit, hreg, hline]
    refine List.mem_append_left _ ?_
    rw [checkAttr, typeOf?, hv, hx]
    dsimp only [Option.or]
    rw [hname]
    cases he : x.checkAttribute (u.lookupName t) attr with
    | ok a => exact absurd he h
    | error e => exact List.mem_singleton.2 rfl

end Attribute

end Usage

end TypedTemplate
