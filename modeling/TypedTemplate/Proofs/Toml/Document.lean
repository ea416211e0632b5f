import TypedTemplate.Proofs.Table
import TypedTemplate.Toml.Parse

/-! Documents that differ in one text. Whatever is read into both of them next, it fails in both for
the same reason, or it leaves documents that differ in the same way. So a text stays as it was first
written, and no other entry depends on it. -/
namespace TypedTemplate.Toml
open Document

variable {x y k : String} {ks key path : Key} {t t' : Table Value} {d d' : Document} {n : Nat}
  {s s' : List Char}

/-- Two tables are alike, but one has the text `x` under a key where the other has `y`. -/
inductive Swapped (x y : String) : Key → Table Value → Table Value → Prop
  | here {k : String} {t : Table Value} (h : t.find? k = some (.text x)) :
  Swapped x y [k] t (t.insert k (.text y))
  | inside {k : String} {ks : Key} {t u u' : Table Value} (h : t.find? k = some (.table u))
    (hu : Swapped x y ks u u') :
      Swapped x y (k :: ks) t (t.insert k (.table u'))

/-- Two results are the same failure, or values that are related. -/
inductive Alike {ε α : Type} (R : α → α → Prop) : Except ε α → Except ε α → Prop
  | error (e : ε) : Alike R (.error e) (.error e)
  | ok {a b : α} (h : R a b) : Alike R (.ok a) (.ok b)

theorem Alike.bind {ε α β : Type} {R : α → α → Prop} {S : β → β → Prop} {r r' : Except ε α}
    {f f' : α → Except ε β}
    (h : Alike R r r') (hf : ∀ a b, R a b → Alike S (f a) (f' b)) :
    Alike S (r >>= f) (r' >>= f') := by
  cases h with
  | error e => exact .error e
  | ok h => exact hf _ _ h

theorem Alike.refl {ε α : Type} {R : α → α → Prop} (h : ∀ a, R a a) (r : Except ε α) :
    Alike R r r := by
  cases r with
  | error e => exact .error e
  | ok a => exact .ok (h a)

theorem Alike.guard {ε α : Type} {R : α → α → Prop} {r r' : Except ε α} {c : Prop} [Decidable c]
    {e : ε} (h : Alike R r r') :
    Alike R (if c then .error e else r) (if c then .error e else r') := by
  split
  · exact .error e
  · exact h

section Tables

theorem Swapped.exists_entry (h : Swapped x y key t t') :
    ∃ k v v', t.find? k = some v ∧ t' = t.insert k v' ∧ (∀ vs, v ≠ .list vs ∧ v' ≠ .list vs) ∧
      ∀ u, u.find? k = some v → Swapped x y key u (u.insert k v') := by
  cases h with
  | here h => exact ⟨_, _, _, h, rfl, by simp, fun _ => .here⟩
  | inside h hu => exact ⟨_, _, _, h, rfl, by simp, fun _ hk => .inside hk hu⟩

theorem Swapped.eq (h : Swapped x x key t t') : t' = t := by
  induction h with
  | here h => exact Table.insert_eq_self h
  | inside h _ ih =>
    subst ih
    exact Table.insert_eq_self h

theorem swapped_two_iff {k' : String} : Swapped x y [k, k'] t t' ↔
    ∃ u, t.find? k = some (.table u) ∧ Table.find? u k' = some (.text x) ∧
      t' = t.insert k (.table (Table.insert u k' (.text y))) := by
  constructor
  · intro h
    cases h with
    | inside h hu =>
      cases hu with
      | here h' => exact ⟨_, h, h', rfl⟩
      | inside _ hu => cases hu
  · rintro ⟨u, h, h', rfl⟩
    exact .inside h (.here h')

def Keeps (x y : String) (f : Table Value → Except Cause (Table Value)) : Prop :=
  ∀ {key t t'}, Swapped x y key t t' → Alike (Swapped x y key) (f t) (f t')

theorem keeps_ok : Keeps x y .ok := fun h => .ok h

theorem has_insert_of_find? {v : Value} (h : t.find? k = some v) (v' : Value) (k' : String) :
    (t.insert k v').has k' = t.has k' := by
  rw [Bool.eq_iff_iff, Table.has_insert, or_iff_right_of_imp]
  rintro rfl
  rw [Table.has, h]
  rfl

theorem insert_swapped {v v' : Value} (hv : t.find? k = some v)
    (hswap : ∀ u, u.find? k = some v → Swapped x y key u (u.insert k v')) {k₁ : String}
    (hne : k₁ ≠ k) (v₁ : Value) :
    Swapped x y key (t.insert k₁ v₁) ((t.insert k v').insert k₁ v₁) := by
  rw [Table.insert_comm (by rw [Table.has, hv]; rfl) (Ne.symm hne)]
  refine hswap _ ?_
  rw [Table.find?_insert, if_neg (by simpa using Ne.symm hne), hv]

theorem keeps_addEntry (taken : Cause) (k : String) (v : Value) :
    Keeps x y (addEntry taken k v) := by
  intro key t t' h
  obtain ⟨k₀, v₀, v₀', hv, rfl, -, hswap⟩ := h.exists_entry
  rw [addEntry, addEntry, has_insert_of_find? hv]
  split
  · exact .error _
  · next hnot =>
    refine .ok (insert_swapped hv hswap ?_ v)
    rintro rfl
    simp [Table.has, hv] at hnot

theorem keeps_addElement (k : String) : Keeps x y (addElement k) := by
  intro key t t' h
  obtain ⟨k₀, v₀, v₀', hv, rfl, hlist, hswap⟩ := h.exists_entry
  rw [addElement, addElement, Table.find?_insert]
  by_cases hk : k = k₀
  · subst hk
    rw [hv, if_pos (by simp)]
    split
    · next h => cases h
    · next vs h => exact absurd (Option.some.inj h) (hlist vs).1
    · split
      · next h => cases h
      · next vs h => exact absurd (Option.some.inj h) (hlist vs).2
      · exact .error _
  · rw [if_neg (by simpa using hk)]
    split
    · exact .ok (insert_swapped hv hswap hk _)
    · exact .ok (insert_swapped hv hswap hk _)
    · exact .error _

theorem changeNest_insert {f : Table Value → Except Cause (Table Value)} {through : Bool}
    {v v' : Value} {k₁ : String}
    (hv : t.find? k = some v) (hswap : ∀ u, u.find? k = some v → Swapped x y key u (u.insert k v'))
    (hne : k₁ ≠ k) :
    Alike (Swapped x y key) (changeNest through f (k₁ :: ks) t)
      (changeNest through f (k₁ :: ks) (t.insert k v')) := by
  have hsame (r : Except Cause (Table Value)) (w : Table Value → Value) : Alike (Swapped x y key)
      (do let u ← r; pure (t.insert k₁ (w u)))
        (do let u ← r; pure ((t.insert k v').insert k₁ (w u))) :=
    (Alike.refl (fun _ => rfl) r).bind fun u u' hu => .ok (hu ▸ insert_swapped hv hswap hne _)
  rw [changeNest, changeNest, Table.find?_insert, if_neg (by simpa using hne)]
  split
  · exact hsame _ _
  · exact hsame _ _
  · split
    · split
      · exact hsame _ _
      · exact .error _
    · exact .error _
  · exact .error _

theorem keeps_changeNest {f : Table Value → Except Cause (Table Value)} (hf : Keeps x y f)
    (through : Bool) (path : Key) :
    Keeps x y (changeNest through f path) := by
  induction path with
  | nil => exact hf
  | cons k₁ ks ih =>
    intro key t t' h
    cases h with
    | @here k t h =>
      by_cases hk : k₁ = k
      · subst hk
        rw [changeNest, changeNest, Table.find?_insert, if_pos (by simp), h]
        exact .error _
      · exact changeNest_insert h (fun _ => .here) hk
    | @inside k _ t u u' h hu =>
      by_cases hk : k₁ = k
      · subst hk
        rw [changeNest, changeNest, Table.find?_insert, if_pos (by simp), h]
        refine (ih hu).bind fun a b hab => ?_
        rw [Table.insert_insert, ← Table.insert_insert t k₁ (.table a) (.table b)]
        refine .ok (.inside ?_ hab)
        rw [Table.find?_insert, if_pos (by simp)]
      · exact changeNest_insert h (fun _ hv => .inside hv hu) hk

end Tables

section Documents

def DiffersIn (x y : String) (key : Key) (d d' : Document) : Prop :=
  ∃ root, d' = { d with root := root } ∧ Swapped x y key d.root root

def Respects (x y : String) (key : Key) (f : Document → Except Cause Document) : Prop :=
  ∀ d d', DiffersIn x y key d d' → Alike (DiffersIn x y key) (f d) (f d')

theorem DiffersIn.settle (h : DiffersIn x y key d d') : DiffersIn x y key d.settle d'.settle := by
  obtain ⟨root, rfl, h⟩ := h
  exact ⟨root, rfl, h⟩

theorem alike_root {root : Table Value} {f : Table Value → Except Cause (Table Value)}
    (hf : Keeps x y f) (h : Swapped x y key d.root root) (g : Table Value → Document)
    (hg : ∀ t t', { g t with root := t' } = g t' ∧ (g t).root = t) :
    Alike (DiffersIn x y key) (do let root ← f d.root; pure (g root))
      (do let root ← f root; pure (g root)) := by
  refine (hf h).bind fun t t' ht => .ok ⟨t', (hg t t').1.symm, ?_⟩
  rwa [(hg t t').2]

theorem respects_openTable (k : Key) : Respects x y key (·.openTable k) := by
  rintro d _ ⟨root, rfl, h⟩
  exact .guard (alike_root (keeps_changeNest keeps_ok _ _) h _ fun _ _ => ⟨rfl, rfl⟩)

theorem respects_openElement (k : Key) : Respects x y key (·.openElement k) := by
  rintro d _ ⟨root, rfl, h⟩
  exact .guard (alike_root (keeps_changeNest (keeps_addElement _) _ _) h _ fun _ _ => ⟨rfl, rfl⟩)

theorem respects_put (k : Key) (v : Value) : Respects x y key (·.put k v) := by
  rintro d _ ⟨root, rfl, h⟩
  simp only [Document.put, show isDeclared { d with root := root } = isDeclared d from rfl]
  cases (passed d.header k).find? d.isDeclared with
  | some _ => exact .error _
  | none =>
    exact .guard (alike_root (keeps_changeNest (keeps_addEntry _ _ _) _ _) h _ fun _ _ =>
      ⟨rfl, rfl⟩)

end Documents

section Statements

def goOn (next : Document → List Char → Except Fault Document) (p : Document × List Char) :
  Except Fault Document := do match ← skipComment (skipBlanks p.2) with
  | [] => pure p.1
  | '\n' :: s => next p.1 s
  | s => throw ⟨.statementEnd, s⟩

theorem statements_of_ne {c : Char} (h : skipBlanks s = c :: s') (hc : c ≠ '\n') :
    statements (n + 1) d s = statement d (c :: s') >>= goOn (statements n) := by
  rw [statements, h]
  split
  · next h => cases h
  · next h => exact absurd (List.cons.inj h).1 hc
  · rfl

def DiffersThere (x y : String) (key : Key) (a b : Document × List Char) : Prop :=
  DiffersIn x y key a.1 b.1 ∧ a.2 = b.2

theorem alike_within {f : Document → Except Cause Document} (hf : Respects x y key f)
    (h : DiffersIn x y key d d')
    (rest : List Char) : Alike (DiffersIn x y key) (within rest (f d)) (within rest (f d')) := by
  have halike := hf d d' h
  generalize f d = r, f d' = r' at halike ⊢
  cases halike with
  | error e => exact .error _
  | ok h => exact .ok h

theorem alike_header (h : DiffersIn x y key d d') (s : List Char) :
    Alike (DiffersThere x y key) (header d s) (header d' s) := by
  simp only [header]
  split
  · refine (Alike.refl (fun _ => rfl) _).bind fun p p' hp => ?_
    subst hp
    refine (alike_within (respects_openElement _) h.settle _).bind fun e e' he => ?_
    split
    · exact .ok ⟨he, rfl⟩
    · exact .error _
  · refine (Alike.refl (fun _ => rfl) _).bind fun p p' hp => ?_
    subst hp
    refine (alike_within (respects_openTable _) h.settle _).bind fun e e' he => ?_
    split
    · exact .ok ⟨he, rfl⟩
    · exact .error _

theorem alike_statement (h : DiffersIn x y key d d') (s : List Char) :
    Alike (DiffersThere x y key) (statement d s) (statement d' s) := by
  rw [statement.eq_def, statement.eq_def]
  split
  · exact .ok ⟨h, rfl⟩
  · exact alike_header h _
  · exact .ok ⟨h, rfl⟩
  · split
    · refine (Alike.refl (fun _ => rfl) _).bind fun p p' hp => ?_
      subst hp
      exact (alike_within (respects_put _ _) h _).bind fun e e' he => .ok ⟨he, rfl⟩
    · exact .error _

theorem alike_goOn {next : Document → List Char → Except Fault Document}
    {p p' : Document × List Char}
    (hnext : ∀ {d d'}, DiffersIn x y key d d' →
      ∀ s, Alike (DiffersIn x y key) (next d s) (next d' s))
    (h : DiffersThere x y key p p') : Alike (DiffersIn x y key) (goOn next p) (goOn next p') := by
  obtain ⟨hd, hrest⟩ := h
  rw [goOn, goOn, hrest]
  refine (Alike.refl (fun _ => rfl) _).bind fun r r' hr => ?_
  subst hr
  split
  · exact .ok hd
  · exact hnext hd _
  · exact .error _

theorem alike_statements (h : DiffersIn x y key d d') (n : Nat) (s : List Char) :
    Alike (DiffersIn x y key) (statements n d s) (statements n d' s) := by
  induction n generalizing d d' s with
  | zero => exact .ok h
  | succ n ih =>
    rw [statements, statements]
    split
    · exact .ok h
    · exact ih h _
    · exact (alike_statement h _).bind fun p p' hp => alike_goOn ih hp

theorem swapped_of_goOn (h : Swapped x x key d.root d.root)
    (hok : goOn (statements n) (d, s) = .ok d') :
    Swapped x x key d'.root d'.root := by
  have hd : DiffersIn x x key d d := ⟨d.root, rfl, h⟩
  have halike := alike_goOn (p := (d, s)) (fun h => alike_statements h n) ⟨hd, rfl⟩
  rw [hok] at halike
  cases halike with
  | ok hd =>
    obtain ⟨root, -, hroot⟩ := hd
    rwa [hroot.eq] at hroot

end Statements

section Fuel

/-- Reading comes to an end before the fuel does. -/
def ends : Nat → Document → List Char → Bool
  | 0, _, _ => false
  | n + 1, d, s =>
    match skipBlanks s with
    | [] => true
    | '\n' :: s => ends n d s
    | s =>
      match statement d s with
      | .error _ => true
      | .ok (d, s) =>
        match skipComment (skipBlanks s) with
        | .ok ('\n' :: s) => ends n d s
        | _ => true

theorem statements_add (h : ends n d s = true) (m : Nat) :
    statements (n + m) d s = statements n d s := by
  induction n generalizing d s with
  | zero => cases h
  | succ n ih =>
    rw [ends] at h
    rw [Nat.add_right_comm]
    cases hs : skipBlanks s with
    | nil => rw [statements, statements, hs]
    | cons c s' =>
      by_cases hc : c = '\n'
      · subst hc
        rw [hs] at h
        rw [statements, statements, hs]
        exact ih h
      · rw [statements_of_ne hs hc, statements_of_ne hs hc]
        rw [hs] at h
        split at h
        · next hnil => cases hnil
        · next hline => exact absurd (List.cons.inj hline).1 hc
        · split at h
          · next hfail => rw [hfail]; rfl
          · next hdone =>
            rw [hdone]
            simp only [bind, Except.bind, goOn]
            split at h
            · next hnext =>
              rw [hnext]
              exact ih h
            · next hnext =>
              split
              · rfl
              · next hrest =>
                split
                · rfl
                · exact absurd hrest (hnext _)
                · rfl

end Fuel

end TypedTemplate.Toml
