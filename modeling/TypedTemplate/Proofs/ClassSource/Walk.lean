import TypedTemplate.ClassSource.Stmt

/-! A walk comes by every statement of a body, at any depth. -/
namespace TypedTemplate.ClassSource.Stmt

variable {s t : Stmt} {body : List Stmt}

/-- The statements directly in a statement. -/
def inner : Stmt → List Stmt
  | classDef _ _ body => body
  | function _ _ _ _ body => body
  | block parts => parts
  | _ => []

inductive Within (s : Stmt) : List Stmt → Prop
  | here {body : List Stmt} (h : s ∈ body) : Within s body
  | inside {t : Stmt} {body : List Stmt} (ht : t ∈ body) (h : Within s t.inner) : Within s body

theorem mem_flatten_merge {α : Type} {a : α} (as bs : List (List α)) :
    a ∈ (merge as bs).flatten ↔ a ∈ as.flatten ∨ a ∈ bs.flatten := by
  fun_induction merge as bs with
  | case1 a' as b' bs ih => grind
  | case2 bs => simp
  | case3 as => simp

theorem layers_eq (t : Stmt) : layers t = [t] :: layersOf t.inner := by
  cases t <;> rfl

theorem mem_walk : s ∈ walk body ↔ ∃ t ∈ body, s = t ∨ s ∈ walk t.inner := by
  induction body with
  | nil => simp [walk, layersOf]
  | cons t body ih =>
    rw [walk, layersOf, mem_flatten_merge, layers_eq, List.flatten_cons, List.mem_append,
      List.mem_singleton, ← walk, ← walk, ih]
    simp only [List.mem_cons, exists_eq_or_imp]

theorem sizeOf_inner_lt (h : t ∈ body) : sizeOf t.inner < sizeOf body := by
  have ht := List.sizeOf_lt_of_mem h
  have hinner : sizeOf t.inner ≤ sizeOf t := by
    cases t <;> simp [inner] <;> omega
  omega

theorem mem_walk_iff : s ∈ walk body ↔ Within s body := by
  constructor
  · intro h
    induction hn : sizeOf body using Nat.strongRecOn generalizing body with
    | ind n ih =>
      obtain ⟨t, ht, rfl | hs⟩ := mem_walk.1 h
      · exact .here ht
      · exact .inside ht (ih _ (hn ▸ sizeOf_inner_lt ht) hs rfl)
  · intro h
    induction h with
    | here h => exact mem_walk.2 ⟨s, h, .inl rfl⟩
    | inside ht _ ih => exact mem_walk.2 ⟨_, ht, .inr ih⟩

end TypedTemplate.ClassSource.Stmt
