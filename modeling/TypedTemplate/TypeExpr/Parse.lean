import TypedTemplate.Position
import TypedTemplate.TypeExpr.Basic

/-! Reading a type expression. A bar with a blank on each side makes a union wherever it stands,
also inside brackets; after that the text before the first bracket decides. -/
namespace TypedTemplate.TypeExpr
open Text

inductive Error where
  | union (text : String)
  | optional (text : String)
  | generic (text : String)
  | callable (text : String)

def Error.message : Error → String
  | .union t => "Invalid Union syntax: " ++ t
  | .optional t => "Invalid Optional syntax: " ++ t
  | .generic t => "Invalid generic syntax: " ++ t
  | .callable t => "Invalid Callable syntax: " ++ t

def bar : List Char := [' ', '|', ' ']

def unionStart : List Char := ['U', 'n', 'i', 'o', 'n', '[']

def optionalStart : List Char := ['O', 'p', 't', 'i', 'o', 'n', 'a', 'l', '[']

def paramsEnd : List Char := [']', ',', ' ']

def splitName (s : List Char) : Option String × String :=
  match cutLast? '.' s with
  | some (m, n) => (some (String.ofList m), String.ofList n)
  | none => (none, String.ofList s)

def inside (opening : Nat) (s : List Char) : List Char := trim (s.drop opening).dropLast

def isCallable (base : List Char) : Bool :=
  base == "Callable".toList || base == "typing.Callable".toList

def callableParts? (inner : List Char) : Option (List (List Char) × List Char) := do
  let (params, result) ← cut? paramsEnd inner
  let params ← after? ['['] (trim params)
  pure (splitArgs (trim params), result)

theorem length_inside_lt {k : Nat} {s : List Char} (h : 0 < k) (hs : s ≠ []) :
    (inside k s).length < s.length := by
  have h1 := length_trim_le (s.drop k).dropLast
  have h2 : 0 < s.length := List.length_pos_iff.2 hs
  simp only [List.length_dropLast, List.length_drop] at h1
  simp only [inside]
  omega

theorem length_after?_le {start s t : List Char} (h : after? start s = some t) :
    t.length ≤ s.length := by
  simp only [after?] at h
  split at h <;> simp_all
  subst h
  simp

theorem length_callableParts? {s r : List Char} {ps : List (List Char)}
    (h : callableParts? s = some (ps, r)) :
    (∀ p ∈ ps, p.length ≤ s.length) ∧ r.length ≤ s.length := by
  simp only [callableParts?, Option.bind_eq_bind, Option.pure_def, Option.bind_eq_some_iff,
    Prod.exists] at h
  obtain ⟨a, b, hc, q, hq, heq⟩ := h
  simp only [Option.some.injEq, Prod.mk.injEq] at heq
  obtain ⟨rfl, rfl⟩ := heq
  have hl := congrArg List.length (cut?_eq_append hc)
  simp only [List.length_append] at hl
  have h1 := length_after?_le hq
  have h2 := length_trim_le a
  refine ⟨fun p hp => ?_, by omega⟩
  have h3 := length_le_of_mem_splitArgs hp
  have h4 := length_trim_le q
  omega

/-- What the outer shape of a trimmed text says about it, with the texts of its parts. -/
inductive Shape where
  | union (style : UnionStyle) (members : List (List Char))
  | generic (base : List Char) (args : List (List Char))
  | name
  | invalid (cause : String → Error)

/-- The parts of a text by its outer shape. -/
def shape (s : List Char) : Shape :=
  if occurs bar s then .union .pipe (pieces bar s)
  else if startsWith s unionStart then
    if endsWith s [']'] then .union .union (splitArgs (inside 6 s)) else .invalid .union
  else if startsWith s optionalStart then
    if endsWith s [']'] then .union .optional [inside 9 s] else .invalid .optional
  else
    match cut? ['['] s with
    | none => .name
    | some (base, _) =>
      if endsWith s [']'] then
        let inner := inside (base.length + 1) s
        if isCallable (trim base) then
          match callableParts? inner with
          | some (params, result) => .generic (trim base) (params ++ [result])
          | none => .invalid .callable
        else .generic (trim base) (splitArgs inner)
      else .invalid .generic

def Shape.parts : Shape → List (List Char)
  | union _ ms => ms
  | generic _ as => as
  | name => []
  | invalid _ => []

theorem ne_nil_of_startsWith {s start : List Char} (hne : start ≠ [])
    (h : startsWith s start = true) : s ≠ [] := by
  rintro rfl
  cases start <;> simp_all [startsWith]

theorem ne_nil_of_cut? {sep s a b : List Char} (hne : sep ≠ []) (h : cut? sep s = some (a, b)) :
    s ≠ [] := by
  rintro rfl
  cases sep <;> simp_all [cut?]

theorem length_lt_of_mem_parts {s p : List Char} (h : p ∈ (shape s).parts) :
    p.length < s.length := by
  unfold shape at h
  split at h
  · next hb => exact length_lt_of_mem_pieces (by simp [bar]) hb h
  split at h
  · next hu =>
    have hs := ne_nil_of_startsWith (by simp [unionStart]) hu
    split at h
    · have := length_le_of_mem_splitArgs h
      have := length_inside_lt (k := 6) (by omega) hs
      omega
    · simp [Shape.parts] at h
  split at h
  · next ho =>
    have hs := ne_nil_of_startsWith (by simp [optionalStart]) ho
    split at h
    · simp only [Shape.parts, List.mem_singleton] at h
      subst h
      exact length_inside_lt (by omega) hs
    · simp [Shape.parts] at h
  split at h
  · simp [Shape.parts] at h
  · next base rest hc =>
    have hs := ne_nil_of_cut? (by simp) hc
    have hi := length_inside_lt (k := base.length + 1) (by omega) hs
    split at h
    · dsimp only at h
      split at h
      · split at h
        · next ps r hp =>
          obtain ⟨h1, h2⟩ := length_callableParts? hp
          simp only [Shape.parts, List.mem_append, List.mem_singleton] at h
          rcases h with h | rfl
          · have := h1 p h
            omega
          · omega
        · simp [Shape.parts] at h
      · have := length_le_of_mem_splitArgs h
        omega
    · simp [Shape.parts] at h

/-- A node of the given shape, from its text and its parts. -/
def build (s : List Char) (parts : List TypeExpr) : Shape → Except Error TypeExpr
  | .union .optional _ => .ok (.union (String.ofList s) .optional (parts ++ [noneType]))
  | .union style _ => .ok (.union (String.ofList s) style parts)
  | .generic base _ =>
    let (module, name) := splitName base
    .ok (.generic (String.ofList s) name module parts)
  | .name =>
    let (module, name) := splitName s
    .ok (.named (String.ofList s) name module)
  | .invalid cause => .error (cause (String.ofList s))

def parseChars (text : List Char) : Except Error TypeExpr := do
  let s := trim text
  let parts ← (shape s).parts.attach.mapM fun ⟨p, h⟩ =>
    have : p.length < text.length :=
      Nat.lt_of_lt_of_le (length_lt_of_mem_parts h) (length_trim_le text)
    parseChars p
  build s parts (shape s)
termination_by text.length

def parse (text : String) : Except Error TypeExpr := parseChars text.toList

structure Failure where
  position : Position
  cause : Error

/-- Reads a type for a place. All causes of a failure are reported at that place. -/
def parseAt (p : Position) (text : String) : Except Failure TypeExpr :=
  (parse text).mapError (Failure.mk p)

end TypedTemplate.TypeExpr
