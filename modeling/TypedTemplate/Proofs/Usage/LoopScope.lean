import TypedTemplate.Proofs.Table
import TypedTemplate.Proofs.Usage.Raised
import TypedTemplate.Usage.Analysis

/-! The scope of loop variables. Visiting a template is a run over the beginnings and ends of its
loops and the expressions between them. Lexically the loops that are open form a stack, but the
visitor keeps one flat table: a loop over a plain name puts the name in where the type of its items
is known, and its end takes the name out, whoever put it in. Comparing the two tells exactly when a
loop variable is treated as one. -/
namespace TypedTemplate

namespace Template

mutual
/-- The names that an assignment to an expression binds. -/
def Expr.bound : Expr → List String
  | .name _ id => [id]
  | .compound _ .tuple parts => boundIn parts
  | _ => []

def Expr.boundIn : List Expr → List String
  | [] => []
  | e :: es => e.bound ++ boundIn es
end

/-- What a visitor meets. The header of a loop is not looked at. -/
inductive Event where
  | opens (target iterable : Expr)
  | closes (target : Expr)
  | sees (e : Expr)

mutual
/-- What is met in a statement, in the order of the text. -/
def Stmt.trace : Stmt → List Event
  | .text _ => []
  | .output e => [.sees e]
  | .print es => es.map .sees
  | .evaluate e => [.sees e]
  | .jump => []
  | .loop target iterable body otherwise =>
    .opens target iterable :: (traceOf body ++ .closes target :: traceOf otherwise)
  | .conditional test body alternatives otherwise =>
    .sees test :: (traceOf body ++ (traceOf alternatives ++ traceOf otherwise))
  | .block _ before body after => before.map .sees ++ (traceOf body ++ after.map .sees)

def Stmt.traceOf : List Stmt → List Event
  | [] => []
  | s :: ss => s.trace ++ traceOf ss
end

namespace Event

def enclose (around : List Expr) : Event → List Expr
  | opens target _ => target :: around
  | closes _ => around.tail
  | sees _ => around

def ended? : Event → Option String
  | closes target => target.name?
  | _ => none

end Event

def openLoops (before : List Event) : List Expr := before.foldl Event.enclose []

def endedIn (events : List Event) : List String := events.filterMap Event.ended?

theorem endedIn_cons (v : Event) (vs : List Event) :
    endedIn (v :: vs) = v.ended?.toList ++ endedIn vs := by
  cases h : v.ended? <;> simp [endedIn, h]

theorem endedIn_append (vs vs' : List Event) : endedIn (vs ++ vs') = endedIn vs ++ endedIn vs' :=
  List.filterMap_append

theorem endedIn_map_sees (es : List Expr) : endedIn (es.map .sees) = [] := by
  induction es with
  | nil => rfl
  | cons e es ih => exact ih

/-- Every end is that of the innermost open loop. -/
def Paired : List Expr → List Event → Prop
  | _, [] => True
  | around, .opens target _ :: rest => Paired (target :: around) rest
  | around, .closes target :: rest => around.head? = some target ∧ Paired around.tail rest
  | around, .sees _ :: rest => Paired around rest

theorem paired_map_sees (around : List Expr) (es : List Expr) (rest : List Event) :
    Paired around (es.map .sees ++ rest) ↔ Paired around rest := by
  induction es with
  | nil => rfl
  | cons e es ih => exact ih

mutual
theorem paired_trace (around : List Expr) (rest : List Event) :
    (s : Stmt) → (Paired around (s.trace ++ rest) ↔ Paired around rest)
  | .text _ => by rw [Stmt.trace, List.nil_append]
  | .output e => by rw [Stmt.trace, List.singleton_append, Paired]
  | .print es => by rw [Stmt.trace, paired_map_sees]
  | .evaluate e => by rw [Stmt.trace, List.singleton_append, Paired]
  | .jump => by rw [Stmt.trace, List.nil_append]
  | .loop target iterable body otherwise => by
    rw [Stmt.trace, List.cons_append, Paired, List.append_assoc, paired_traceOf _ _ body,
      List.cons_append, Paired, List.tail_cons, paired_traceOf _ _ otherwise, List.head?_cons]
    exact and_iff_right rfl
  | .conditional test body alternatives otherwise => by
    rw [Stmt.trace, List.cons_append, Paired, List.append_assoc, paired_traceOf _ _ body,
      List.append_assoc, paired_traceOf _ _ alternatives, paired_traceOf _ _ otherwise]
  | .block kind before body after => by
    rw [Stmt.trace, List.append_assoc, paired_map_sees, List.append_assoc, paired_traceOf _ _ body,
      paired_map_sees]

theorem paired_traceOf (around : List Expr) (rest : List Event) :
    (ss : List Stmt) → (Paired around (Stmt.traceOf ss ++ rest) ↔ Paired around rest)
  | [] => by rw [Stmt.traceOf, List.nil_append]
  | s :: ss => by rw [Stmt.traceOf, List.append_assoc, paired_trace _ _ s, paired_traceOf _ _ ss]
end

end Template

namespace Usage
open Template

variable (u : Usage)

def step (loops : LoopVariables) : Event → LoopVariables
  | .opens target iterable => u.enterLoop target.name? iterable loops
  | .closes target => leaveLoop target.name? loops
  | .sees _ => loops

def after (loops : LoopVariables) (events : List Event) : LoopVariables := events.foldl u.step loops

def shows (loops : LoopVariables) : Event → List Issue
  | .sees e => u.visit loops e
  | _ => []

def run (loops : LoopVariables) : List Event → List Issue
  | [] => []
  | v :: vs => u.shows loops v ++ run (u.step loops v) vs

section Run

variable {u} {loops : LoopVariables}

theorem after_cons (v : Event) (vs : List Event) :
    u.after loops (v :: vs) = u.after (u.step loops v) vs := rfl

theorem after_append (vs vs' : List Event) :
    u.after loops (vs ++ vs') = u.after (u.after loops vs) vs' :=
  List.foldl_append

theorem run_append (vs vs' : List Event) :
    u.run loops (vs ++ vs') = u.run loops vs ++ u.run (u.after loops vs) vs' := by
  induction vs generalizing loops with
  | nil => rfl
  | cons v vs ih => rw [List.cons_append, run, ih, run, List.append_assoc, after_cons]

theorem after_map_sees (es : List Expr) : u.after loops (es.map .sees) = loops := by
  induction es with
  | nil => rfl
  | cons e es ih => exact ih

theorem run_map_sees (es : List Expr) : u.run loops (es.map .sees) = u.visitAll loops es := by
  induction es with
  | nil => rfl
  | cons e es ih => rw [List.map_cons, run, visitAll, ← ih]; rfl

mutual
theorem visitStmt_eq_run (loops : LoopVariables) :
    (s : Stmt) → u.visitStmt loops s = (u.run loops s.trace, u.after loops s.trace)
  | .text _ => by rw [visitStmt, Stmt.trace]; rfl
  | .output e => by rw [visitStmt, Stmt.trace, run, run, List.append_nil]; rfl
  | .print es => by rw [visitStmt, Stmt.trace, run_map_sees, after_map_sees]
  | .evaluate e => by rw [visitStmt, Stmt.trace, run, run, List.append_nil]; rfl
  | .jump => by rw [visitStmt, Stmt.trace]; rfl
  | .loop target iterable body otherwise => by
    rw [visitStmt, visitStmts_eq_run _ body]
    dsimp only
    rw [visitStmts_eq_run _ otherwise, Stmt.trace, run, run_append, run, after_cons, after_append,
      after_cons]
    rfl
  | .conditional test body alternatives otherwise => by
    rw [visitStmt, visitStmts_eq_run _ body]
    dsimp only
    rw [visitStmts_eq_run _ alternatives]
    dsimp only
    rw [visitStmts_eq_run _ otherwise, Stmt.trace, run, run_append, run_append, after_cons,
      after_append, after_append, List.append_assoc, List.append_assoc]
    rfl
  | .block kind before body after => by
    rw [visitStmt, visitStmts_eq_run _ body]
    dsimp only
    rw [Stmt.trace, run_append, run_append, run_map_sees, run_map_sees, after_append, after_append,
      after_map_sees, after_map_sees, List.append_assoc]

theorem visitStmts_eq_run (loops : LoopVariables) :
    (ss : List Stmt) → u.visitStmts loops ss = (u.run loops (Stmt.traceOf ss),
      u.after loops (Stmt.traceOf ss))
  | [] => by rw [visitStmts, Stmt.traceOf]; rfl
  | s :: ss => by
    rw [visitStmts, visitStmt_eq_run _ s]
    dsimp only
    rw [visitStmts_eq_run _ ss, Stmt.traceOf, run_append, after_append]
end

theorem mem_run_iff {vs : List Event} {i : Issue} :
    i ∈ u.run loops vs ↔ ∃ before e rest, vs = before ++ .sees e :: rest ∧
      i ∈ u.visit (u.after loops before) e := by
  induction vs generalizing loops with
  | nil => simp [run]
  | cons v vs ih =>
    rw [run, List.mem_append, ih]
    constructor
    · rintro (h | ⟨before, e, rest, rfl, h⟩)
      · cases v with
        | sees e => exact ⟨[], e, vs, rfl, h⟩
        | opens target iterable => cases h
        | closes target => cases h
      · exact ⟨v :: before, e, rest, rfl, h⟩
    · rintro ⟨before, e, rest, heq, h⟩
      cases before with
      | nil =>
        obtain ⟨rfl, rfl⟩ := List.cons.inj heq
        exact .inl h
      | cons v' before =>
        obtain ⟨rfl, rfl⟩ := List.cons.inj heq
        exact .inr ⟨before, e, rest, rfl, h⟩

end Run

def remark (x : String) : Event → Option (Option TypeExpr)
  | .opens target iterable =>
    if target.name? = some x then (u.itemType? iterable).map some else none
  | .closes target => if target.name? = some x then some none else none
  | .sees _ => none

/-- What is said about a name last. -/
def latest (x : String) : List Event → Option (Option TypeExpr)
  | [] => none
  | v :: vs => (latest x vs).or (u.remark x v)

section Flat

variable {u} {loops : LoopVariables}

theorem find?_enterLoop (target : Option String) (iterable : Expr) (x : String) :
    (u.enterLoop target iterable loops).find? x =
      if target = some x then (u.itemType? iterable).or (loops.find? x) else loops.find? x := by
  cases target with
  | none => simp [enterLoop]
  | some id =>
    cases ht : u.itemType? iterable with
    | none => simp [enterLoop, ht]
    | some t =>
      simp only [enterLoop, ht, Table.find?_insert]
      by_cases h : x = id
      · simp [h]
      · simp [h, Ne.symm h]

theorem find?_leaveLoop (target : Option String) (x : String) :
    (leaveLoop target loops).find? x = if target = some x then none else loops.find? x := by
  cases target with
  | none => simp [leaveLoop]
  | some id =>
    rw [leaveLoop, Table.find?_erase]
    by_cases h : x = id
    · simp [h]
    · simp [h, Ne.symm h]

theorem find?_step (v : Event) (x : String) :
    (u.step loops v).find? x = (u.remark x v).getD (loops.find? x) := by
  cases v with
  | opens target iterable =>
    rw [step, find?_enterLoop, remark]
    by_cases h : target.name? = some x
    · rw [if_pos h, if_pos h]
      cases u.itemType? iterable <;> rfl
    · rw [if_neg h, if_neg h]
      rfl
  | closes target =>
    rw [step, find?_leaveLoop, remark]
    by_cases h : target.name? = some x
    · rw [if_pos h, if_pos h]
      rfl
    · rw [if_neg h, if_neg h]
      rfl
  | sees e => rfl

theorem find?_after (vs : List Event) (x : String) :
    (u.after loops vs).find? x = (u.latest x vs).getD (loops.find? x) := by
  induction vs generalizing loops with
  | nil => rfl
  | cons v vs ih =>
    rw [after_cons, ih, find?_step, latest]
    cases u.latest x vs <;> rfl

/-- Apart from the loops that are open, a table differs from the one at the start by the names whose
loops have ended. -/
def Differs (start : LoopVariables) (around : List Expr) (gone : List String)
    (loops : LoopVariables) : Prop :=
  ∀ x, (∀ target ∈ around, target.name? ≠ some x) → loops.find? x = if x ∈ gone then none
    else start.find? x

variable {start : LoopVariables} {around : List Expr} {gone : List String}

theorem Differs.step (h : Differs start around gone loops) {v : Event} {rest : List Event}
    (hn : Paired around (v :: rest)) :
    Differs start (v.enclose around) (gone ++ v.ended?.toList) (u.step loops v) := by
  intro x hx
  cases v with
  | opens target iterable =>
    have hne : target.name? ≠ some x := hx target (by simp [Event.enclose])
    rw [Usage.step, find?_enterLoop, if_neg hne, h x fun t ht => hx t (List.mem_cons_of_mem _ ht)]
    simp [Event.ended?]
  | closes target =>
    rw [Usage.step, find?_leaveLoop]
    by_cases hname : target.name? = some x
    · simp [hname, Event.ended?]
    · obtain ⟨inner, rfl⟩ : ∃ inner, around = target :: inner := List.head?_eq_some_iff.1 hn.1
      rw [if_neg hname, h x]
      · simp [Event.ended?, hname]
      · intro t ht
        rcases List.mem_cons.1 ht with rfl | ht
        · exact hname
        · exact hx t ht
  | sees e =>
    rw [Usage.step, h x hx]
    simp [Event.ended?]

theorem Differs.after (h : Differs start around gone loops) {before rest : List Event}
    (hn : Paired around (before ++ rest)) :
    Differs start (before.foldl Event.enclose around) (gone ++ endedIn before)
      (u.after loops before) := by
  induction before generalizing around gone loops with
  | nil =>
    rw [endedIn, List.filterMap_nil, List.append_nil]
    exact h
  | cons v before ih =>
    have hrest : Paired (v.enclose around) (before ++ rest) := by
      cases v with
      | opens target iterable => exact hn
      | closes target => exact hn.2
      | sees e => exact hn
    have hv := ih (h.step (u := u) hn) hrest
    rwa [List.append_assoc, ← endedIn_cons] at hv

theorem name?_ne_of_not_mem_bound {target : Expr} {x : String} (h : x ∉ target.bound) :
    target.name? ≠ some x := by
  cases target with
  | name line id =>
    intro heq
    exact h (by simp [Expr.bound, Option.some.inj heq])
  | constant | compound | attr | item | call | filter => simp [Expr.name?]

theorem find?_after_of_unbound {body : List Stmt} {before rest : List Event} {x : String}
    (hsplit : Stmt.traceOf body = before ++ rest)
    (hx : ∀ inner ∈ openLoops before, x ∉ inner.bound) :
    (u.after loops before).find? x = if x ∈ endedIn before then none else loops.find? x := by
  have hn : Paired [] (before ++ rest) := by
    rw [← hsplit, ← List.append_nil (Stmt.traceOf body), paired_traceOf]
    trivial
  have hstart : Differs loops [] [] loops := fun y _ => by simp
  simpa using hstart.after hn x fun inner hinner => name?_ne_of_not_mem_bound (hx inner hinner)

end Flat

def without (names : List String) (loops : LoopVariables) : LoopVariables :=
  loops.filter fun e => !names.contains e.1

section Restored

variable {u} {loops : LoopVariables}

@[simp] theorem without_nil : without [] loops = loops := List.filter_eq_self.2 fun _ _ => rfl

theorem without_append (names more : List String) :
    without (names ++ more) loops = without more (without names loops) := by
  simp [without, List.filter_filter, Bool.and_comm]

theorem without_comm (names more : List String) :
    without names (without more loops) = without more (without names loops) := by
  simp [without, List.filter_filter, Bool.and_comm]

theorem leaveLoop_eq_without (target : Option String) :
    leaveLoop target loops = without target.toList loops := by
  cases target with
  | none => exact without_nil.symm
  | some id => exact List.filter_congr fun e _ => by simp [bne, Bool.beq_eq_decide_eq]

theorem without_enterLoop (target : Option String) (iterable : Expr) :
    without target.toList (u.enterLoop target iterable loops) = without target.toList loops := by
  cases target with
  | none => rfl
  | some id =>
    rw [← leaveLoop_eq_without, ← leaveLoop_eq_without]
    cases ht : u.itemType? iterable with
    | none => simp only [enterLoop, ht]
    | some t =>
      simp only [enterLoop, ht]
      exact Table.erase_insert loops id t

mutual
theorem after_trace (loops : LoopVariables) :
    (s : Stmt) → u.after loops s.trace = without (endedIn s.trace) loops
  | .text _ => by rw [Stmt.trace]; exact without_nil.symm
  | .output e => by rw [Stmt.trace]; exact without_nil.symm
  | .print es => by rw [Stmt.trace, after_map_sees, endedIn_map_sees, without_nil]
  | .evaluate e => by rw [Stmt.trace]; exact without_nil.symm
  | .jump => by rw [Stmt.trace]; exact without_nil.symm
  | .loop target iterable body otherwise => by
    rw [Stmt.trace, after_cons, after_append, after_cons, after_traceOf _ body,
      after_traceOf _ otherwise, step, step,
      leaveLoop_eq_without, endedIn_cons, endedIn_append, endedIn_cons]
    change _ = without
      ([] ++ (endedIn (Stmt.traceOf body) ++
        (target.name?.toList ++ endedIn (Stmt.traceOf otherwise)))) loops
    rw [List.nil_append, without_append, without_append, without_comm target.name?.toList,
      without_enterLoop, without_comm target.name?.toList]
  | .conditional test body alternatives otherwise => by
    rw [Stmt.trace, after_cons, after_append, after_append, after_traceOf _ body,
      after_traceOf _ alternatives,
      after_traceOf _ otherwise, endedIn_cons, endedIn_append, endedIn_append, step]
    change _ = without ([] ++ (endedIn (Stmt.traceOf body) ++ _)) loops
    rw [List.nil_append, without_append, without_append]
  | .block kind before body after => by
    rw [Stmt.trace, after_append, after_append, after_map_sees, after_map_sees, endedIn_append,
      endedIn_append,
      endedIn_map_sees, endedIn_map_sees, List.nil_append, List.append_nil, after_traceOf _ body]

theorem after_traceOf (loops : LoopVariables) :
    (ss : List Stmt) → u.after loops (Stmt.traceOf ss) = without (endedIn (Stmt.traceOf ss)) loops
  | [] => by rw [Stmt.traceOf]; exact without_nil.symm
  | s :: ss => by
    rw [Stmt.traceOf, after_append, endedIn_append, without_append, after_trace _ s,
      after_traceOf _ ss]
end

theorem without_eq_self_iff (names : List String) :
    without names loops = loops ↔ ∀ x ∈ names, loops.has x = false := by
  rw [without, List.filter_eq_self]
  constructor
  · intro h x hx
    cases hf : loops.find? x with
    | none => simp [Table.has, hf]
    | some t => simpa [hx] using h _ (Table.mem_of_find? hf)
  · intro h e he
    have hhas : loops.has e.1 = true := Table.has_of_mem he
    simp only [Bool.not_eq_true', List.contains_eq_mem, decide_eq_false_iff_not]
    intro hx
    rw [h e.1 hx] at hhas
    cases hhas

end Restored

mutual
/-- The names that an expression loads where they are looked at. -/
def loads : Expr → List String
  | .name line id => if u.isIgnored line then [] else [id]
  | .constant _ _ => []
  | .compound _ _ parts => loadsOf parts
  | .attr line base _ => if !u.byRegistry && u.isIgnored line then [] else loads base
  | .item line base index => if u.isIgnored line then [] else loads base ++ loads index
  | .call line callee _ args => if u.isIgnored line then [] else loads callee ++ loadsOf args
  | .filter line _ _ parts => if u.isIgnored line then [] else loadsOf parts

def loadsOf : List Expr → List String
  | [] => []
  | e :: es => loads e ++ loadsOf es
end

def undeclared (x : String) : String := "Variable '" ++ x ++ "' is not declared"

def Tells (x : String) (found : List Issue) : Prop := ∃ i ∈ found, i.message = undeclared x

section Undeclared

variable {u} {loops : LoopVariables} {x : String}

theorem toList_undeclared (x : String) :
    (undeclared x).toList = "Variable '".toList ++ x.toList ++ "' is not declared".toList := by
  change ("Variable '" ++ x ++ "' is not declared").toList = _
  rw [String.toList_append, String.toList_append]

theorem undeclared_inj {y : String} (h : undeclared x = undeclared y) : x = y := by
  have hl := congrArg String.toList h
  rw [toList_undeclared, toList_undeclared] at hl
  exact String.toList_inj.1 (List.append_cancel_left (List.append_cancel_right hl))

@[simp] theorem not_tells_nil : ¬ Tells x [] := by rintro ⟨i, hi, -⟩; cases hi

@[simp] theorem tells_append {found more : List Issue} :
    Tells x (found ++ more) ↔ Tells x found ∨ Tells x more := by
  simp only [Tells, List.mem_append, or_and_right, exists_or]

theorem not_tells {found : List Issue} (h : ∀ i ∈ found, i.message.toList.head? ≠ some 'V') :
    ¬ Tells x found := by
  rintro ⟨i, hi, hm⟩
  refine h i hi ?_
  rw [hm, toList_undeclared, List.append_assoc, List.head?_append]
  rfl

theorem tells_checkName_iff {line : Nat} {id : String} :
    Tells x (u.checkName loops line id) ↔
      x ∈ u.loads (.name line id) ∧ loops.has x = false ∧ u.varTypes.has x = false := by
  rw [checkName, loads]
  cases u.isIgnored line with
  | true => simp
  | false =>
    simp only [Bool.false_or, Bool.false_eq_true, if_false, List.mem_singleton]
    constructor
    · intro h
      split at h
      · exact absurd h not_tells_nil
      · next hno =>
        obtain ⟨i, hi, hm⟩ := h
        obtain rfl := List.mem_singleton.1 hi
        obtain rfl : id = x := undeclared_inj hm
        simpa using hno
    · rintro ⟨rfl, hl, hv⟩
      rw [hl, hv]
      exact ⟨_, List.mem_singleton.2 rfl, rfl⟩

mutual
theorem tells_visit_iff : (e : Expr) →
    (Tells x (u.visit loops e) ↔ x ∈ u.loads e ∧ loops.has x = false ∧ u.varTypes.has x = false)
  | .name line id => by
    rw [visit]
    exact tells_checkName_iff
  | .constant _ _ => by simp [visit, loads]
  | .compound _ _ parts => by
    rw [visit, loads]
    exact tells_visitAll_iff parts
  | .attr line base attr => by
    rw [visit, loads]
    have hreg : ¬ Tells x (u.checkAttrByRegistry line base attr) :=
      not_tells fun i hi => by simp [raised_checkAttrByRegistry hi]
    have hattr : ¬ Tells x (u.checkAttr loops line base attr) :=
      not_tells fun i hi => by simp [raised_checkAttr hi]
    cases u.byRegistry with
    | true => simpa [hreg] using tells_visit_iff base
    | false =>
      cases u.isIgnored line with
      | true => simp
      | false => simpa [hattr] using tells_visit_iff base
  | .item line base index => by
    rw [visit, loads]
    have hitem : ¬ Tells x (u.checkItem loops line base index) :=
      not_tells fun i hi => by rcases (raised_checkItem hi).2 with h | h <;> simp [h]
    cases u.isIgnored line with
    | true => simp
    | false => simp [hitem, tells_visit_iff base, tells_visit_iff index, or_and_right]
  | .call line callee shape args => by
    rw [visit, loads]
    have hcall : ¬ Tells x (u.checkCall line callee shape) :=
      not_tells fun i hi => by simp [raised_checkCall hi]
    cases u.isIgnored line with
    | true => simp
    | false => simp [hcall, tells_visit_iff callee, tells_visitAll_iff args, or_and_right]
  | .filter line name shape parts => by
    rw [visit, loads]
    have hfilter : ¬ Tells x (u.checkFilter line name shape) :=
      not_tells fun i hi => by simp [raised_checkFilter hi]
    cases u.isIgnored line with
    | true => simp
    | false => simpa [hfilter] using tells_visitAll_iff parts

theorem tells_visitAll_iff : (es : List Expr) →
    (Tells x (u.visitAll loops es) ↔ x ∈ u.loadsOf es ∧ loops.has x = false ∧
      u.varTypes.has x = false)
  | [] => by simp [visitAll, loadsOf]
  | e :: es => by simp [visitAll, loadsOf, tells_visit_iff e, tells_visitAll_iff es, or_and_right]
end

theorem tells_run_iff {vs : List Event} :
    Tells x (u.run loops vs) ↔ ∃ before e rest, vs = before ++ .sees e :: rest ∧
      x ∈ u.loads e ∧ (u.after loops before).has x = false ∧ u.varTypes.has x = false := by
  constructor
  · rintro ⟨i, hi, hm⟩
    obtain ⟨before, e, rest, hvs, hi⟩ := mem_run_iff.1 hi
    exact ⟨before, e, rest, hvs, (tells_visit_iff e).1 ⟨i, hi, hm⟩⟩
  · rintro ⟨before, e, rest, hvs, h⟩
    obtain ⟨i, hi, hm⟩ := (tells_visit_iff e).2 h
    exact ⟨i, mem_run_iff.2 ⟨before, e, rest, hvs, hi⟩, hm⟩

theorem untold_body_iff (target iterable : Expr) (body : List Stmt) :
    (∀ i ∈ (u.visitStmts (u.enterLoop target.name? iterable loops) body).1, i.message ≠
      undeclared x) ↔
      (u.varTypes.has x = true ∨ ∀ before e rest, Stmt.traceOf body = before ++ .sees e :: rest →
        x ∈ u.loads e →
        ((u.latest x (.opens target iterable :: before)).getD (loops.find? x)).isSome = true) := by
  have hnot :
      (∀ i ∈ (u.visitStmts (u.enterLoop target.name? iterable loops) body).1, i.message ≠
        undeclared x) ↔
      ¬ Tells x (u.run (u.enterLoop target.name? iterable loops) (Stmt.traceOf body)) := by
    rw [visitStmts_eq_run, Tells]
    simp
  have hknown (before : List Event) :
      (u.latest x (.opens target iterable :: before)).getD (loops.find? x) =
      (u.after (u.enterLoop target.name? iterable loops) before).find? x := (find?_after _ x).symm
  rw [hnot, tells_run_iff]
  simp only [hknown]
  cases hv : u.varTypes.has x with
  | true => simp
  | false => simp [Table.has, Option.isSome_iff_ne_none]

end Undeclared

/-- The type of the items of an expression, as far as the declarations tell. -/
def elementType? (loops : LoopVariables) (iterable : Expr) : Option TypeExpr :=
  (u.typeOf? loops iterable).bind fun t => t.args.head?

/-- A loop is visited as its variables are scoped. Behind it the loop variables are those before it.
In its body no target name is reported as undeclared, and where no inner loop binds it, a plain
target name stands for the items. -/
structure Scoped (loops : LoopVariables) (target iterable : Expr) (body otherwise : List Stmt) :
    Prop where
  restored : (u.visitStmt loops (.loop target iterable body otherwise)).2 = loops
  declared :
      ∀ x ∈ target.bound, ∀ i ∈ (u.visitStmts (u.enterLoop target.name? iterable loops) body).1,
    i.message ≠ undeclared x
  typed : ∀ x t, target.name? = some x → u.elementType? loops iterable = some t →
    ∀ before e rest, Stmt.traceOf body = before ++ .sees e :: rest →
      (∀ inner ∈ openLoops before, x ∉ inner.bound) →
      ∀ line, u.typeOf? (u.after (u.enterLoop target.name? iterable loops) before) (.name line x) =
        some t

/-- A loop is visited as scoped exactly if no loop over a plain name, itself or one inside it, meets
that name among the loop variables before it; every target name is declared or, at each place of the
body that loads it, last spoken of by the beginning of a loop with a known type of items; and a
plain target name, where no inner loop binds it, is declared with the type of the items, or is not
declared, has that type from this loop and was not the name of an inner loop that has ended. -/
theorem scoped_iff (loops : LoopVariables) (target iterable : Expr) (body otherwise : List Stmt) :
    u.Scoped loops target iterable body otherwise ↔
      (∀ x ∈ endedIn (Stmt.loop target iterable body otherwise).trace, loops.has x = false) ∧
      (∀ x ∈ target.bound, u.varTypes.has x = true ∨
        ∀ before e rest, Stmt.traceOf body = before ++ .sees e :: rest → x ∈ u.loads e →
          ((u.latest x (.opens target iterable :: before)).getD (loops.find? x)).isSome = true) ∧
      (∀ x t, target.name? = some x → u.elementType? loops iterable = some t →
        ∀ before e rest, Stmt.traceOf body = before ++ .sees e :: rest →
          (∀ inner ∈ openLoops before, x ∉ inner.bound) →
          (u.varTypes.find? x).or
            (if x ∈ endedIn before then none else (u.itemType? iterable).or (loops.find? x)) =
              some t) := by
  have hrestored : (u.visitStmt loops (.loop target iterable body otherwise)).2 = loops ↔
      ∀ x ∈ endedIn (Stmt.loop target iterable body otherwise).trace, loops.has x = false := by
    rw [visitStmt_eq_run, after_trace, without_eq_self_iff]
  have htypeOf {x : String} {before rest : List Event} {e : Expr} (line : Nat)
      (hx : target.name? = some x)
      (hsplit : Stmt.traceOf body = before ++ .sees e :: rest)
        (hfree : ∀ inner ∈ openLoops before, x ∉ inner.bound) :
      u.typeOf? (u.after (u.enterLoop target.name? iterable loops) before) (.name line x) =
        (u.varTypes.find? x).or
          (if x ∈ endedIn before then none else (u.itemType? iterable).or (loops.find? x)) := by
    rw [typeOf?, find?_after_of_unbound hsplit hfree, find?_enterLoop, if_pos hx]
  constructor
  · intro h
    refine ⟨hrestored.1 h.restored,
      fun x hx => (untold_body_iff target iterable body).1 (h.declared x hx), ?_⟩
    intro x t hx ht before e rest hsplit hfree
    rw [← htypeOf 0 hx hsplit hfree]
    exact h.typed x t hx ht before e rest hsplit hfree 0
  · rintro ⟨hr, hd, ht⟩
    refine ⟨hrestored.2 hr, fun x hx => (untold_body_iff target iterable body).2 (hd x hx), ?_⟩
    intro x t hx hel before e rest hsplit hfree line
    rw [htypeOf line hx hsplit hfree]
    exact ht x t hx hel before e rest hsplit hfree

end Usage

namespace Analysis
open Template Usage

def dictionaryLoop : String :=
  "\x7b# typja:var mapping: dict[str, int] #\x7d\n\n\x7b% for key, value in mapping.items() %\x7d\n" ++
    "  <p>\x7b\x7b key \x7d\x7d: \x7b\x7b value \x7d\x7d</p>\n\x7b% endfor %\x7d\n"

def binds (x : String) : Stmt → Bool
  | .loop target _ _ _ => target.bound.contains x
  | _ => false

theorem dictionary_loop_reported :
    ∃ stmts, Template.parse ⟨true, false⟩ dictionaryLoop = .ok stmts ∧
      (∃ s ∈ stmts, binds "key" s = true) ∧
      ∃ i ∈ ((start none .ascending (some .empty) false).template .empty "t.html"
        dictionaryLoop).1.issues, i.message = undeclared "key" := by
  obtain ⟨hparse, hissues⟩ :
      (Template.parse ⟨true, false⟩ dictionaryLoop).toOption.any
        (fun stmts => stmts.any (binds "key")) = true ∧
        (((start none .ascending (some .empty) false).template .empty "t.html"
          dictionaryLoop).1.issues.any fun i => i.message == undeclared "key") = true := by
    decide +kernel
  cases hstmts : Template.parse ⟨true, false⟩ dictionaryLoop with
  | error e =>
    rw [hstmts] at hparse
    cases hparse
  | ok stmts =>
    rw [hstmts] at hparse
    refine ⟨stmts, rfl, List.any_eq_true.1 hparse, ?_⟩
    obtain ⟨i, hi, hm⟩ := List.any_eq_true.1 hissues
    exact ⟨i, hi, eq_of_beq hm⟩

end Analysis

end TypedTemplate
