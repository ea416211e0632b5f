/-! Tables with text keys, in the order in which the keys were first put in. -/
namespace TypedTemplate

abbrev Table (α : Type) := List (String × α)

namespace Table

variable {α β : Type}

def find? (t : Table α) (k : String) : Option α := t.lookup k

def has (t : Table α) (k : String) : Bool := (t.find? k).isSome

/-- A known key keeps its place and gets the new value. -/
def insert (t : Table α) (k : String) (a : α) : Table α :=
  match t with
  | [] => [(k, a)]
  | (k', a') :: rest => if k == k' then (k', a) :: rest else (k', a') :: insert rest k a

def erase (t : Table α) (k : String) : Table α := t.filter fun e => e.1 != k

def keys (t : Table α) : List String := t.map (·.1)

def values (t : Table α) : List α := t.map (·.2)

def insertAll (t u : Table α) : Table α := u.foldl (fun t e => t.insert e.1 e.2) t

/-- Puts pairs in one after the other. -/
def ofPairs (es : List (String × α)) : Table α := insertAll [] es

def groups (key : β → String) (value : β → α) (es : List β) : Table (List α) :=
  es.foldl (fun t e => t.insert (key e) ((t.find? (key e)).getD [] ++ [value e])) []

theorem find?_insert (t : Table α) (k k' : String) (a : α) :
    (t.insert k a).find? k' = if k' == k then some a else t.find? k' := by
  induction t with
  | nil => by_cases h : k' == k <;> simp [insert, find?, List.lookup_cons, h]
  | cons e t ih =>
    obtain ⟨k₁, a₁⟩ := e
    simp only [insert]
    by_cases h : k = k₁
    · subst h
      by_cases h' : k' == k <;> simp [find?, List.lookup_cons, h']
    · simp only [beq_iff_eq, h, if_false]
      by_cases h' : k' = k₁
      · subst h'
        simp [find?, Ne.symm h]
      · have : (k' == k₁) = false := by simp [h']
        simpa [find?, List.lookup_cons, this] using ih

end Table

end TypedTemplate
