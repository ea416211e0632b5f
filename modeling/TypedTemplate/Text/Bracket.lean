import TypedTemplate.Text.Lines

/-! Cutting a text at the delimiters that stand outside all brackets. The three kinds of brackets
count alike, and the depth may fall below zero. -/
namespace TypedTemplate.Text

def isOpen (c : Char) : Bool := c == '[' || c == '(' || c == '{'

def isClose (c : Char) : Bool := c == ']' || c == ')' || c == '}'

def depthAfter (depth : Int) (c : Char) : Int :=
  if isOpen c then depth + 1 else if isClose c then depth - 1 else depth

/-- The parts between the delimiters at depth zero. An empty last part is left out. -/
def splitTopFrom (d : Char) : Int → List Char → List (List Char)
  | _, [] => []
  | depth, c :: s =>
    if c = d ∧ depth = 0 ∧ isOpen c = false ∧ isClose c = false then [] :: splitTopFrom d depth s
    else extendHead c (splitTopFrom d (depthAfter depth c) s)

def splitTop (d : Char) (s : List Char) : List (List Char) := splitTopFrom d 0 s

/-- The loop over a text: the parts so far, the characters of the one that has begun, and the depth.
A delimiter of any other length than one is no character of the text. -/
def splitTopLoop (delimiter : List Char) (parts : List (List Char)) (current : List Char)
    (depth : Int) :
    List Char → List (List Char)
  | [] => if current.isEmpty then parts else parts ++ [current]
  | c :: s =>
    if isOpen c then splitTopLoop delimiter parts (current ++ [c]) (depth + 1) s
    else if isClose c then splitTopLoop delimiter parts (current ++ [c]) (depth - 1) s
    else if [c] = delimiter ∧ depth = 0 then splitTopLoop delimiter (parts ++ [current]) [] depth s
    else splitTopLoop delimiter parts (current ++ [c]) depth s

def splitTopOn (delimiter s : List Char) : List (List Char) := splitTopLoop delimiter [] [] 0 s

/-- The loop over the members of a union. Each is trimmed when it ends. -/
def splitTrimmedLoop (result : List (List Char)) (current : List Char) (depth : Int) :
    List Char → List (List Char)
  | [] => if current.isEmpty then result else result ++ [trim current]
  | c :: s =>
    if isOpen c then splitTrimmedLoop result (current ++ [c]) (depth + 1) s
    else if isClose c then splitTrimmedLoop result (current ++ [c]) (depth - 1) s
    else if c = ',' ∧ depth = 0 then splitTrimmedLoop (result ++ [trim current]) [] depth s
    else splitTrimmedLoop result (current ++ [c]) depth s

def splitTrimmed (s : List Char) : List (List Char) := splitTrimmedLoop [] [] 0 s

def splitArgsLoop (args : List (List Char)) (current : List Char) (depth : Int) :
    List Char → List (List Char)
  | [] => if current.isEmpty then args else args ++ [trim current]
  | c :: s =>
    if isOpen c then splitArgsLoop args (current ++ [c]) (depth + 1) s
    else if isClose c then splitArgsLoop args (current ++ [c]) (depth - 1) s
    else if c = ',' ∧ depth = 0 then splitArgsLoop (args ++ [trim current]) [] depth s
    else splitArgsLoop args (current ++ [c]) depth s

def splitArgs (s : List Char) : List (List Char) :=
  (splitArgsLoop [] [] 0 s).filter fun part => !part.isEmpty

section Loops

theorem foldr_extendHead_cons (p l : List Char) (ls : List (List Char)) :
    p.foldr extendHead (l :: ls) = (p ++ l) :: ls := by
  induction p with
  | nil => rfl
  | cons c p ih => rw [List.foldr_cons, ih]; rfl

theorem foldr_extendHead_nil {p : List Char} (h : p ≠ []) : p.foldr extendHead [] = [p] := by
  obtain ⟨q, c, rfl⟩ := List.eq_nil_or_concat p |>.resolve_left h
  simpa [extendHead] using foldr_extendHead_cons q [c] []

variable {d : Char} {finish : List Char → List Char}
  {loop : List (List Char) → List Char → Int → List Char → List (List Char)}

theorem loop_eq
    (hnil : ∀ parts current depth,
      loop parts current depth [] = if current.isEmpty then parts else parts ++ [finish current])
    (hcons : ∀ parts current depth c s, loop parts current depth (c :: s) =
      if isOpen c then loop parts (current ++ [c]) (depth + 1) s
      else if isClose c then loop parts (current ++ [c]) (depth - 1) s
      else if c = d ∧ depth = 0 then loop (parts ++ [finish current]) [] depth s
      else loop parts (current ++ [c]) depth s)
    (parts : List (List Char)) (current : List Char) (depth : Int) (s : List Char) :
    loop parts current depth s =
      parts ++ (current.foldr extendHead (splitTopFrom d depth s)).map finish := by
  induction s generalizing parts current depth with
  | nil =>
    rw [hnil, splitTopFrom]
    by_cases h : current = []
    · simp [h]
    · simp [h, foldr_extendHead_nil h]
  | cons c s ih =>
    rw [hcons, splitTopFrom, depthAfter]
    cases ho : isOpen c with
    | true => simp [ih, List.foldr_append]
    | false =>
      cases hc : isClose c with
      | true => simp [ih, List.foldr_append]
      | false =>
        by_cases hcut : c = d ∧ depth = 0
        · simp [hcut, ih, foldr_extendHead_cons]
        · simp [hcut, ih, List.foldr_append]

end Loops

theorem splitTopOn_singleton (d : Char) (s : List Char) : splitTopOn [d] s = splitTop d s := by
  have h : splitTopLoop [d] [] [] 0 s = (splitTopFrom d 0 s).map id :=
    loop_eq (fun _ _ _ => rfl)
      (fun _ _ _ _ _ => by simp only [splitTopLoop, List.cons.injEq, and_true]; rfl) [] [] 0 s
  rw [splitTopOn, h, List.map_id, splitTop]

theorem splitTrimmed_eq (s : List Char) : splitTrimmed s = (splitTop ',' s).map trim :=
  loop_eq (fun _ _ _ => rfl) (fun _ _ _ _ _ => rfl) [] [] 0 s

theorem splitArgs_eq (s : List Char) :
    splitArgs s = (splitTrimmed s).filter fun part => !part.isEmpty := by
  rw [splitTrimmed_eq]
  exact congrArg _ (loop_eq (fun _ _ _ => rfl) (fun _ _ _ _ _ => rfl) [] [] 0 s)

theorem length_le_of_mem_extendHead {c : Char} {ls : List (List Char)} {n : Nat}
    (h : ∀ l ∈ ls, l.length ≤ n) {p : List Char} (hp : p ∈ extendHead c ls) : p.length ≤ n + 1 := by
  cases ls with
  | nil => simp_all [extendHead]
  | cons l ls =>
    rcases List.mem_cons.1 hp with rfl | hp
    · simpa using h l (by simp)
    · exact Nat.le_trans (h p (by simp [hp])) (by omega)

theorem length_le_of_mem_splitTopFrom {d : Char} {k : Int} {s p : List Char}
    (h : p ∈ splitTopFrom d k s) :
    p.length ≤ s.length := by
  induction s generalizing k p with
  | nil => simp [splitTopFrom] at h
  | cons c s ih =>
    simp only [splitTopFrom] at h
    split at h
    · rcases List.mem_cons.1 h with rfl | h
      · simp
      · exact Nat.le_trans (ih h) (by simp)
    · exact length_le_of_mem_extendHead (fun l hl => ih hl) h

theorem length_le_of_mem_splitArgs {s p : List Char} (h : p ∈ splitArgs s) :
    p.length ≤ s.length := by
  simp only [splitArgs_eq, splitTrimmed_eq, List.mem_filter, List.mem_map] at h
  obtain ⟨⟨q, hq, rfl⟩, -⟩ := h
  exact Nat.le_trans (length_trim_le q) (length_le_of_mem_splitTopFrom hq)

end TypedTemplate.Text
