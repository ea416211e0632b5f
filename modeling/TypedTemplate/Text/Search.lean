import TypedTemplate.Text.Blank

/-! Cutting a text at a separator: at its first place, at its last place, at every place. -/
namespace TypedTemplate.Text

/-- What stands before and after the first place of `sep`. -/
def cut? (sep : List Char) : List Char → Option (List Char × List Char)
  | [] => if sep.isEmpty then some ([], []) else none
  | c :: s =>
    if sep.isPrefixOf (c :: s) then some ([], (c :: s).drop sep.length)
    else (cut? sep s).map fun (a, b) => (c :: a, b)

theorem cut?_eq_append {sep s a b : List Char} (h : cut? sep s = some (a, b)) :
    s = a ++ (sep ++ b) := by
  induction s generalizing a b with
  | nil =>
    simp only [cut?] at h
    split at h <;> simp_all
  | cons c s ih =>
    simp only [cut?] at h
    split at h
    · rename_i hp
      obtain ⟨t, ht⟩ := List.isPrefixOf_iff_prefix.1 hp
      cases h
      simp [← ht]
    · simp only [Option.map_eq_some_iff, Prod.exists, Prod.mk.injEq] at h
      obtain ⟨a', b', h', rfl, rfl⟩ := h
      simp [ih h']

def occurs (sep s : List Char) : Bool := (cut? sep s).isSome

/-- The parts of a text between the places of `sep`, found from left to right. An empty separator
cuts nothing. -/
def pieces (sep s : List Char) : List (List Char) :=
  match cut? sep s with
  | none => [s]
  | some (a, b) => if b.length < s.length then a :: pieces sep b else [s]
termination_by s.length

theorem length_le_of_mem_pieces {sep s p : List Char} (h : p ∈ pieces sep s) :
    p.length ≤ s.length := by
  fun_induction pieces sep s with
  | case1 s hc => simp_all
  | case2 s a b hc hlt ih =>
    have := congrArg List.length (cut?_eq_append hc)
    simp only [List.length_append] at this
    rcases List.mem_cons.1 h with rfl | h
    · omega
    · have := ih h
      omega
  | case3 s a b hc hlt => simp_all

theorem length_lt_of_mem_pieces {sep s p : List Char} (hne : sep ≠ []) (hs : occurs sep s = true)
    (h : p ∈ pieces sep s) : p.length < s.length := by
  obtain ⟨⟨a, b⟩, hc⟩ := Option.isSome_iff_exists.1 hs
  have hl := congrArg List.length (cut?_eq_append hc)
  have := List.length_pos_iff.2 hne
  simp only [List.length_append] at hl
  rw [pieces, hc] at h
  simp only [show b.length < s.length by omega, if_true] at h
  rcases List.mem_cons.1 h with rfl | h
  · omega
  · have := length_le_of_mem_pieces h
    omega

theorem infix_of_mem_pieces {sep s p : List Char} (h : p ∈ pieces sep s) : p <:+: s := by
  fun_induction pieces sep s with
  | case1 s hc => simp_all
  | case2 s a b hc hlt ih =>
    rw [cut?_eq_append hc]
    rcases List.mem_cons.1 h with rfl | h
    · exact (List.prefix_append _ _).isInfix
    · exact (ih h).trans ((List.suffix_append _ _).trans (List.suffix_append _ _)).isInfix
  | case3 s a b hc hlt => simp_all

def cutLast? (c : Char) : List Char → Option (List Char × List Char)
  | [] => none
  | d :: s =>
    match cutLast? c s with
    | some (a, b) => some (d :: a, b)
    | none => if d = c then some ([], s) else none

def replace (old new s : List Char) : List Char := new.intercalate (pieces old s)

def startsWith (s start : List Char) : Bool := start.isPrefixOf s

def endsWith (s tail : List Char) : Bool := tail.isSuffixOf s

def after? (start s : List Char) : Option (List Char) :=
  if start.isPrefixOf s then some (s.drop start.length) else none

def joinWith (sep : String) (parts : List String) : String := sep.intercalate parts

end TypedTemplate.Text
