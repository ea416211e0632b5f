import TypedTemplate.FileTree.Basic

/-! Trees that differ in the contents of files alone. Paths lead to the same places in both, and
writing a file that is there makes such a tree. -/
namespace TypedTemplate.FileTree

/-- The second tree is the first, but for the contents and times of files at certain places. -/
structure Rewritten (P : List String → Prop) (t u : FileTree) : Prop where
  here_eq : u.here = t.here
  node?_cases : ∀ a, u.node? a = t.node? a ∨
    P a ∧ ∃ c c' time time', t.node? a = some (.file c time) ∧ u.node? a = some (.file c' time')

section Places

variable {P : List String → Prop} {t u : FileTree} {a b place segments : List String} {n : Nat}

theorem Rewritten.refl (P : List String → Prop) (t : FileTree) : Rewritten P t t :=
  ⟨rfl, fun _ => .inl rfl⟩

theorem Rewritten.walk_eq (h : Rewritten P t u) (n : Nat) (place segments : List String) :
    u.walk n place segments = t.walk n place segments := by
  induction n generalizing place segments with
  | zero => cases segments <;> rfl
  | succ n ih =>
    cases segments with
    | nil => rfl
    | cons s rest =>
      rw [walk, walk]
      split
      · exact ih _ _
      · rcases h.node?_cases (place ++ [s]) with heq | ⟨-, c, c', time, time', ht, hu⟩
        · rw [heq]
          simp only [ih]
        · rw [ht, hu]

theorem Rewritten.place?_eq (h : Rewritten P t u) (p : Path) : u.place? p = t.place? p := by
  rw [place?, place?, start, start, h.here_eq, h.walk_eq]

theorem Rewritten.resolveFrom_eq (h : Rewritten P t u) (n : Nat) (place segments : List String) :
    u.resolveFrom n place segments = t.resolveFrom n place segments := by
  induction n generalizing place segments with
  | zero => cases segments <;> rfl
  | succ n ih =>
    cases segments with
    | nil => rfl
    | cons s rest =>
      rw [resolveFrom, resolveFrom]
      split
      · exact ih _ _
      · rcases h.node?_cases (place ++ [s]) with heq | ⟨-, c, c', time, time', ht, hu⟩
        · rw [heq]
          simp only [ih]
        · rw [ht, hu]
          exact ih _ _

theorem Rewritten.resolve_eq (h : Rewritten P t u) (p : Path) : u.resolve p = t.resolve p := by
  rw [resolve, resolve, start, start, h.here_eq, h.resolveFrom_eq]

theorem resolveFrom_of_walk (h : t.walk n place segments = some a) :
    t.resolveFrom n place segments = a := by
  induction n generalizing place segments with
  | zero =>
    cases segments with
    | nil => exact Option.some.inj h
    | cons s rest => cases h
  | succ n ih =>
    cases segments with
    | nil => exact Option.some.inj h
    | cons s rest =>
      rw [walk] at h
      rw [resolveFrom]
      split at h
      · next hs => rw [if_pos hs, ih h]
      · next hs =>
        rw [if_neg hs]
        split at h
        · next hn => rw [hn]; exact ih h
        · next hn =>
          rw [hn]
          split at h
          · next hrest =>
            obtain rfl := List.isEmpty_iff.1 hrest
            rw [resolveFrom, Option.some.inj h]
          · cases h
        · next hn => rw [hn]; exact ih h
        · cases h

theorem resolve_of_place? {p : Path} (h : t.place? p = some a) :
    t.resolve p = a := resolveFrom_of_walk h

theorem exists_of_content? {p : Path} {bytes : List UInt8} (h : t.content? p = some bytes) :
    ∃ a time, t.place? p = some a ∧ t.node? a = some (.file bytes time) := by
  rw [content?] at h
  split at h
  · next content time hat =>
    obtain rfl := Option.some.inj h
    obtain ⟨a, ha, hn⟩ := Option.bind_eq_some_iff.1 hat
    exact ⟨a, time, ha, hn⟩
  · cases h

theorem content?_of_node? {p : Path} {bytes : List UInt8} {time : Int} (h : t.place? p = some a)
    (hn : t.node? a = some (.file bytes time)) : t.content? p = some bytes := by
  rw [content?, at?, h, Option.bind_some, hn]

theorem not_isDir_of_content? {p : Path} {bytes : List UInt8} (h : t.content? p = some bytes) :
    t.isDir p = false := by
  obtain ⟨a, time, ha, hn⟩ := exists_of_content? h
  rw [isDir, at?, ha, Option.bind_some, hn]

theorem lookup_replace (nodes : List (List String × FileNode)) (a b : List String)
    (node : FileNode) :
    (nodes.map fun e => if e.1 == a then (a, node) else e).lookup b =
      if b = a then (nodes.lookup a).map fun _ => node else nodes.lookup b := by
  induction nodes with
  | nil => simp
  | cons e nodes ih =>
    obtain ⟨k, old⟩ := e
    simp only [beq_iff_eq] at ih ⊢
    rw [List.map_cons]
    by_cases hk : k = a
    · by_cases hb : b = a
      · simp [hk, hb]
      · have hba : (b == a) = false := by simpa using hb
        simp [hk, hb, hba, ih, List.lookup_cons]
    · by_cases hb : b = a
      · have hak : (a == k) = false := by simpa using Ne.symm hk
        simpa [hk, hb, hak, List.lookup_cons] using ih
      · simp [hk, hb, ih, List.lookup_cons]

theorem node?_put {c : List UInt8} {time : Int} (h : t.node? a = some (.file c time))
    (node : FileNode) (b : List String) :
    (t.put a node).node? b = if b = a then some node else t.node? b := by
  have ha : a.isEmpty = false := by
    cases a with
    | nil => cases h
    | cons _ _ => rfl
  rw [node?, ha, if_neg (by simp)] at h
  have hany : t.nodes.any (·.1 == a) = true := by
    cases hno : t.nodes.any (·.1 == a) with
    | true => rfl
    | false =>
      have hnone : t.nodes.lookup a = none := by
        rw [List.lookup_eq_none_iff]
        intro e he
        have hne : ¬ e.1 = a := by simpa using List.any_eq_false.1 hno e he
        simpa using Ne.symm hne
      cases hnone.symm.trans h
  rw [put, if_pos hany, node?, node?, lookup_replace, h, Option.map_some]
  by_cases hb : b = a
  · simp [hb, ha]
  · simp [hb]

theorem Rewritten.put {c c' : List UInt8} {time time' : Int} (h : Rewritten P t u) (hP : P a)
    (hn : u.node? a = some (.file c time)) : Rewritten P t (u.put a (.file c' time')) := by
  refine ⟨?_, fun b => ?_⟩
  · rw [FileTree.put]
    split <;> exact h.here_eq
  · rw [node?_put hn]
    split
    · next hb =>
      subst hb
      refine .inr ⟨hP, ?_⟩
      rcases h.node?_cases b with heq | ⟨-, c₀, _, time₀, _, ht, -⟩
      · exact ⟨c, c', time, time', heq ▸ hn, rfl⟩
      · exact ⟨c₀, c', time₀, time', ht, rfl⟩
    · exact h.node?_cases b

theorem content?_put {p : Path} {bytes new : List UInt8} {time : Int} (h : t.place? p = some a)
    (hn : t.node? a = some (.file bytes time)) (time' : Int) :
    (t.put a (.file new time')).content? p = some new := by
  have hwrites : Rewritten (· = a) t (t.put a (.file new time')) := (Rewritten.refl _ _).put rfl hn
  exact content?_of_node? ((hwrites.place?_eq p).trans h) (by rw [node?_put hn, if_pos rfl])

end Places

end TypedTemplate.FileTree
