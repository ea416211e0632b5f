import TypedTemplate.Proofs.Text.Bracket
import TypedTemplate.TypeExpr.Parse

/-! Names of types: components over letters, digits and underscores, with dots between them. A
name is divided again at its last dot, and none of its characters means anything to the reader of
types. -/
namespace TypedTemplate.TypeExpr
open Text

def isNameChar (c : Char) : Bool := c.isAlphanum || c == '_'

def IsComponent (s : String) : Prop := s ≠ "" ∧ ∀ c ∈ s.toList, isNameChar c = true

def IsDotted (s : String) : Prop :=
  ∃ cs : List String, cs ≠ [] ∧ (∀ c ∈ cs, IsComponent c) ∧ s = ".".intercalate cs

structure IsName (name : String) (module : Option String) : Prop where
  component : IsComponent name
  dotted : ∀ m ∈ module, IsDotted m

def Reserved (name : String) (module : Option String) : Prop :=
  (module = none ∧ name ∈ ["Union", "Optional", "Callable"]) ∨
    (module = some "typing" ∧ name = "Callable")

def isBaseChar (c : Char) : Bool := isNameChar c || c == '.'

theorem isNameChar_toNat {c : Char} (h : isNameChar c = true) :
    (48 ≤ c.toNat ∧ c.toNat ≤ 57) ∨ (65 ≤ c.toNat ∧ c.toNat ≤ 90) ∨ c.toNat = 95 ∨
    (97 ≤ c.toNat ∧ c.toNat ≤ 122) := by
  rw [isNameChar, Char.isAlphanum] at h
  delta Char.isAlpha Char.isUpper Char.isLower Char.isDigit at h
  simp only [Bool.or_eq_true, Bool.and_eq_true, decide_eq_true_eq, beq_iff_eq,
    UInt32.le_iff_toNat_le, Char.toNat_val] at h
  rcases h with ((h | h) | h) | rfl
  · exact .inr (.inl h)
  · exact .inr (.inr (.inr h))
  · exact .inl h
  · decide

theorem isBlank_of_isNameChar {c : Char} (h : isNameChar c = true) : isBlank c = false := by
  have hc := isNameChar_toNat h
  simp only [isBlank, Bool.or_eq_false_iff, Bool.and_eq_false_iff, decide_eq_false_iff_not,
    beq_eq_false_iff_ne]
  omega

theorem isBlank_of_isBaseChar {c : Char} (h : isBaseChar c = true) : isBlank c = false := by
  rcases Bool.or_eq_true_iff.1 h with h | h
  · exact isBlank_of_isNameChar h
  · rw [beq_iff_eq.1 h]
    decide

theorem dot_not_mem_component {s : String} (h : IsComponent s) : '.' ∉ s.toList := fun hd =>
  absurd (h.2 '.' hd) (by decide)

theorem isBaseChar_of_mem_component {s : String} (h : IsComponent s) :
    ∀ c ∈ s.toList, isBaseChar c = true :=
  fun c hc => by simp [isBaseChar, h.2 c hc]

theorem IsComponent.toList_ne_nil {s : String} (h : IsComponent s) : s.toList ≠ [] := by
  simpa using h.1

theorem isBaseChar_of_mem_dotted {s : String} (h : IsDotted s) :
    ∀ c ∈ s.toList, isBaseChar c = true := by
  obtain ⟨cs, -, hcs, rfl⟩ := h
  rw [String.toList_intercalate]
  induction cs with
  | nil => simp
  | cons d cs ih =>
    have hd := isBaseChar_of_mem_component (hcs d (by simp))
    cases cs with
    | nil => simpa using hd
    | cons e cs =>
      rw [List.map_cons, List.intercalate_cons_of_ne_nil (by simp)]
      intro c hc
      rcases List.mem_append.1 hc with hc | hc
      · rcases List.mem_append.1 hc with hc | hc
        · exact hd c hc
        · rw [show ".".toList = ['.'] from rfl, List.mem_singleton] at hc
          simp [isBaseChar, hc]
      · exact ih (fun x hx => hcs x (by simp [hx])) c hc

theorem IsDotted.ne_empty {s : String} (h : IsDotted s) : s ≠ "" := by
  obtain ⟨cs, hne, hcs, rfl⟩ := h
  obtain ⟨d, cs, rfl⟩ := List.exists_cons_of_ne_nil hne
  have hd := (hcs d (by simp)).toList_ne_nil
  intro h0
  have h0 := congrArg String.toList h0
  rw [String.toList_intercalate, List.map_cons] at h0
  cases cs with
  | nil => exact hd (by simpa using h0)
  | cons e cs =>
    rw [List.intercalate_cons_of_ne_nil (by simp)] at h0
    simp [hd] at h0

section Base

variable {n : String} {m : Option String}

theorem qualify_some {p : String} (h : IsDotted p) (n : String) :
    qualify (some p) n = p ++ "." ++ n := by
  rw [qualify, if_neg]
  simpa using h.ne_empty

theorem isBaseChar_of_mem_qualify (h : IsName n m) :
    ∀ c ∈ (qualify m n).toList, isBaseChar c = true := by
  cases m with
  | none => exact isBaseChar_of_mem_component h.component
  | some p =>
    have hp := h.dotted p rfl
    rw [qualify_some hp]
    intro c hc
    simp only [String.toList_append, List.mem_append] at hc
    rcases hc with (hc | hc) | hc
    · exact isBaseChar_of_mem_dotted hp c hc
    · rw [show ".".toList = ['.'] from rfl, List.mem_singleton] at hc
      simp [isBaseChar, hc]
    · exact isBaseChar_of_mem_component h.component c hc

theorem qualify_toList_ne_nil (h : IsName n m) : (qualify m n).toList ≠ [] := by
  cases m with
  | none => exact h.component.toList_ne_nil
  | some p =>
    rw [qualify_some (h.dotted p rfl)]
    simp

theorem trimmed_qualify (h : IsName n m) : Trimmed (qualify m n).toList := by
  refine ⟨fun c hc => ?_, fun c hc => ?_⟩
  · exact isBlank_of_isBaseChar (isBaseChar_of_mem_qualify h c (List.mem_of_mem_head? hc))
  · exact isBlank_of_isBaseChar (isBaseChar_of_mem_qualify h c (List.mem_of_mem_getLast? hc))

theorem splitName_qualify (h : IsName n m) : splitName (qualify m n).toList = (m, n) := by
  have hn := dot_not_mem_component h.component
  cases m with
  | none => simp [splitName, qualify, cutLast?_none hn]
  | some p =>
    have hp := qualify_some (h.dotted p rfl) n
    have hl : (qualify (some p) n).toList = p.toList ++ '.' :: n.toList := by
      rw [hp]
      simp
    rw [splitName, hl, cutLast?_append hn]
    simp

theorem qualify_inj {n' : String} {m' : Option String} (h : IsName n m) (h' : IsName n' m')
    (heq : (qualify m n).toList = (qualify m' n').toList) : n = n' ∧ m = m' := by
  have := splitName_qualify h
  rw [heq, splitName_qualify h'] at this
  simp_all

theorem isName_plain {s : String} (h : IsComponent s) : IsName s none := ⟨h, by simp⟩

theorem isCallable_qualify (h : IsName n m) (hr : ¬ Reserved n m) :
    isCallable (qualify m n).toList = false := by
  have hc : IsName "Callable" none := isName_plain ⟨by decide, by decide⟩
  have ht : IsName "Callable" (some "typing") :=
    ⟨⟨by decide, by decide⟩,
      fun p hp => ⟨["typing"], by decide, by simp [IsComponent]; decide, by simp_all⟩⟩
  rw [isCallable, Bool.or_eq_false_iff, beq_eq_false_iff_ne, beq_eq_false_iff_ne]
  refine ⟨fun heq => hr (.inl ?_), fun heq => hr (.inr ?_)⟩
  · obtain ⟨rfl, rfl⟩ := qualify_inj h hc heq
    exact ⟨rfl, by decide⟩
  · obtain ⟨rfl, rfl⟩ := qualify_inj h ht heq
    exact ⟨rfl, rfl⟩

end Base

end TypedTemplate.TypeExpr
