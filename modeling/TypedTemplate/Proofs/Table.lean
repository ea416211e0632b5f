import Mathlib.Data.List.Induction
import Mathlib.Data.List.Nodup
import TypedTemplate.Table

/-! What tables hold after an insertion. -/
namespace TypedTemplate.Table

variable {α : Type}

def All (P : α → Prop) (t : Table α) : Prop := ∀ e ∈ t, P e.2

theorem mem_of_find? {t : Table α} {k : String} {a : α} (h : t.find? k = some a) : (k, a) ∈ t := by
  obtain ⟨front, back, rfl, -⟩ := List.lookup_eq_some_iff.1 h
  simp

theorem All.find? {P : α → Prop} {t : Table α} (h : All P t) {k : String} {a : α}
    (ha : t.find? k = some a) : P a :=
  h _ (mem_of_find? ha)

theorem All.insert {P : α → Prop} {t : Table α} (h : All P t) (k : String) {a : α} (ha : P a) :
    All P (t.insert k a) := by
  induction t with
  | nil => simpa [All, Table.insert] using ha
  | cons e t ih =>
    obtain ⟨k', a'⟩ := e
    have ht : All P t := fun p hp => h p (by simp [hp])
    rw [Table.insert]
    split
    · exact fun p hp => (List.mem_cons.1 hp).elim (fun hp => hp ▸ ha) (ht p)
    · exact fun p hp => (List.mem_cons.1 hp).elim (fun hp => hp ▸ h _ (by simp)) (ih ht p)

section Keys

variable {t : Table α} {k : String} {a : α}

theorem keys_cons (e : String × α) (t : Table α) : keys (e :: t) = e.1 :: keys t := rfl

theorem mem_keys_of_has (h : t.has k = true) : k ∈ t.keys := by
  obtain ⟨a, ha⟩ := Option.isSome_iff_exists.1 h
  exact List.mem_map.2 ⟨(k, a), mem_of_find? ha, rfl⟩

theorem mem_keys_insert {k' : String} (h : k' ∈ (t.insert k a).keys) : k' = k ∨ k' ∈ t.keys := by
  induction t with
  | nil => exact .inl (List.mem_singleton.1 h)
  | cons e t ih =>
    obtain ⟨k₁, a₁⟩ := e
    rw [insert] at h
    split at h
    · exact .inr h
    · rw [keys_cons] at h ⊢
      rcases List.mem_cons.1 h with rfl | h
      · simp
      · exact (ih h).imp_right (List.mem_cons_of_mem _)

theorem nodup_keys_insert (h : t.keys.Nodup) (k : String) (a : α) : (t.insert k a).keys.Nodup := by
  induction t with
  | nil => simp [insert, keys]
  | cons e t ih =>
    obtain ⟨k₁, a₁⟩ := e
    obtain ⟨hk₁, ht⟩ := List.nodup_cons.1 h
    rw [insert]
    split
    · exact h
    · next hne =>
      refine List.nodup_cons.2 ⟨fun hmem => ?_, ih ht⟩
      rcases mem_keys_insert hmem with rfl | hmem
      · simp at hne
      · exact hk₁ hmem

theorem has_insert {k' : String} : (t.insert k a).has k' = true ↔ k' = k ∨ t.has k' = true := by
  rw [has, find?_insert]
  by_cases h : k' = k <;> simp [h, has]

theorem has_foldl {β : Type} {step : Table α → β → Table α} (key : β → String)
    (hstep : ∀ t b, (step t b).has k = true ↔ k = key b ∨ t.has k = true) (bs : List β)
    (t : Table α) :
    (bs.foldl step t).has k = true ↔ t.has k = true ∨ k ∈ bs.map key := by
  induction bs generalizing t with
  | nil => simp
  | cons b bs ih =>
    rw [List.foldl_cons, ih, hstep, List.map_cons, List.mem_cons, or_comm (a := k = key b),
      or_assoc]

theorem has_insertAll {u : Table α} : (t.insertAll u).has k = true ↔ t.has k = true ∨ k ∈ u.keys :=
  has_foldl Prod.fst (fun _ _ => has_insert) u t

theorem find?_erase (t : Table α) (k k' : String) :
    (t.erase k).find? k' = if k' = k then none else t.find? k' := by
  induction t with
  | nil => simp [erase, find?]
  | cons e t ih =>
    obtain ⟨k₁, a₁⟩ := e
    rw [erase] at ih ⊢
    by_cases h : k₁ = k
    · rw [List.filter_cons_of_neg (by simp [h]), ih]
      by_cases h' : k' = k
      · simp [h']
      · simp [find?, List.lookup_cons, h, h', beq_eq_false_iff_ne.2 h']
    · rw [List.filter_cons_of_pos (by simpa using h)]
      by_cases h' : k' = k₁
      · simp [find?, h', h]
      · simpa [find?, List.lookup_cons, beq_eq_false_iff_ne.2 h'] using ih

theorem erase_insert (t : Table α) (k : String) (a : α) : (t.insert k a).erase k = t.erase k := by
  induction t with
  | nil => simp [insert, erase]
  | cons e t ih =>
    obtain ⟨k₁, a₁⟩ := e
    rw [insert]
    split
    · next h => simp [erase, eq_of_beq h]
    · rw [erase, List.filter_cons, ← erase, ih, erase, erase, List.filter_cons]

theorem find?_eq_some_iff_mem (h : t.keys.Nodup) : t.find? k = some a ↔ (k, a) ∈ t := by
  refine ⟨mem_of_find?, fun hmem => ?_⟩
  induction t with
  | nil => cases hmem
  | cons e t ih =>
    obtain ⟨k', a'⟩ := e
    obtain ⟨hk', ht⟩ := List.nodup_cons.1 h
    rcases List.mem_cons.1 hmem with heq | htail
    · cases heq
      simp [find?]
    · have hne : k ≠ k' := by
        rintro rfl
        exact hk' (List.mem_map.2 ⟨_, htail, rfl⟩)
      rw [find?, List.lookup_cons, (beq_eq_false_iff_ne).2 hne]
      exact ih ht htail

theorem find?_insertAll {u : Table α} (h : u.keys.Nodup) (t : Table α) (k : String) :
    (t.insertAll u).find? k = (u.find? k).or (t.find? k) := by
  induction u generalizing t with
  | nil => rfl
  | cons e u ih =>
    obtain ⟨k', a⟩ := e
    obtain ⟨hk', hu⟩ := List.nodup_cons.1 h
    rw [insertAll, List.foldl_cons, ← insertAll, ih hu, find?_insert]
    by_cases hk : k = k'
    · subst hk
      have hnone : find? u k = none := by
        refine List.lookup_eq_none_iff.2 fun p hp => ?_
        rw [bne_iff_ne]
        rintro rfl
        exact hk' (List.mem_map.2 ⟨p, hp, rfl⟩)
      rw [hnone]
      simp [find?]
    · simp [find?, List.lookup_cons, beq_eq_false_iff_ne.2 hk]

theorem find?_insertAll_cases (u t : Table α) (k : String) :
    k ∉ u.keys ∧ (t.insertAll u).find? k = t.find? k ∨ ∃ a, (k, a) ∈ u ∧
      (t.insertAll u).find? k = some a := by
  induction u generalizing t with
  | nil => exact .inl ⟨List.not_mem_nil, rfl⟩
  | cons e u ih =>
    rw [insertAll, List.foldl_cons, ← insertAll]
    rcases ih (t.insert e.1 e.2) with ⟨hkeys, hfind⟩ | ⟨a, hmem, hfind⟩
    · rw [hfind, find?_insert]
      by_cases hk : k = e.1
      · subst hk
        exact .inr ⟨e.2, List.mem_cons_self, by simp⟩
      · refine .inl ⟨?_, by simp [hk]⟩
        rw [keys_cons, List.mem_cons]
        exact not_or.2 ⟨hk, hkeys⟩
    · exact .inr ⟨a, List.mem_cons_of_mem _ hmem, hfind⟩

theorem find?_map {β : Type} (f : String → α → β) (t : Table α) (k : String) :
    find? (t.map fun p => (p.1, f p.1 p.2)) k = (t.find? k).map (f k) := by
  induction t with
  | nil => rfl
  | cons p t ih =>
    obtain ⟨k', a⟩ := p
    rw [List.map_cons, find?, find?, List.lookup_cons, List.lookup_cons]
    cases hk : k == k' with
    | true =>
      obtain rfl : k = k' := by simpa using hk
      rfl
    | false => exact ih

theorem has_of_mem (h : (k, a) ∈ t) : t.has k = true := by
  rw [has, find?, Option.isSome_iff_ne_none, Ne, List.lookup_eq_none_iff]
  exact fun hnone => by simpa using hnone (k, a) h

theorem countP_values_eq_one_iff (h : t.keys.Nodup) (P : α → Bool) :
    t.values.countP P = 1 ↔
      ∃ k a, t.find? k = some a ∧ P a = true ∧ ∀ k' a', t.find? k' = some a' → P a' = true →
        k' = k := by
  rw [values, List.countP_map, List.countP_eq_length_filter, List.length_eq_one_iff]
  constructor
  · rintro ⟨⟨k, a⟩, hone⟩
    obtain ⟨hmem, hP⟩ := List.mem_filter.1 (hone ▸ List.mem_singleton_self (k, a))
    refine ⟨k, a, (find?_eq_some_iff_mem h).2 hmem, hP, fun k' a' hfind hP' => ?_⟩
    have hmem' : (k', a') ∈ t.filter (P ∘ Prod.snd) := List.mem_filter.2 ⟨mem_of_find? hfind, hP'⟩
    rw [hone] at hmem'
    exact congrArg Prod.fst (List.mem_singleton.1 hmem')
  · rintro ⟨k, a, hfind, hP, hunique⟩
    have hnodup : (t.filter (P ∘ Prod.snd)).Nodup := (List.Nodup.of_map _ h).filter _
    refine ⟨(k, a),
      List.perm_singleton.1 ((List.perm_ext_iff_of_nodup hnodup (List.nodup_singleton _)).2
        fun p => ?_)⟩
    rw [List.mem_filter, List.mem_singleton]
    constructor
    · rintro ⟨hmem, hP'⟩
      have hfind' := (find?_eq_some_iff_mem h).2 hmem
      obtain rfl := hunique p.1 p.2 hfind' hP'
      exact Prod.ext rfl (Option.some.inj (hfind'.symm.trans hfind))
    · rintro rfl
      exact ⟨mem_of_find? hfind, hP⟩

end Keys

section Repeated

variable {t u : Table α} {k k' : String} {a b : α}

theorem insert_eq_self (h : t.find? k = some a) : t.insert k a = t := by
  induction t with
  | nil => cases h
  | cons e t ih =>
    obtain ⟨k₁, a₁⟩ := e
    rw [find?, List.lookup_cons] at h
    rw [insert]
    cases hk : k == k₁ with
    | true =>
      rw [hk] at h
      rw [Option.some.inj h]
      rfl
    | false =>
      rw [hk] at h
      rw [ih h]
      rfl

theorem insert_insert (t : Table α) (k : String) (a b : α) :
    (t.insert k a).insert k b = t.insert k b := by
  induction t with
  | nil => simp [insert]
  | cons e t ih => by_cases hk : k = e.1 <;> simp [insert, hk, ih]

theorem insert_comm (h : t.has k = true) (hne : k ≠ k') :
    (t.insert k a).insert k' b = (t.insert k' b).insert k a := by
  induction t with
  | nil => cases h
  | cons e t ih =>
    by_cases hk : k = e.1
    · simp [insert, hk, hk ▸ hne.symm]
    · have ht : has t k = true := by simpa [has, find?, hk] using h
      by_cases hk' : k' = e.1
      · simp [insert, hk', hk' ▸ hne]
      · simp [insert, hk, hk', ih ht]

theorem find?_reverse_cons (e : String × α) (u : Table α) (k : String) :
    find? (e :: u).reverse k = (find? u.reverse k).or (if k == e.1 then some e.2 else none) := by
  rw [List.reverse_cons, find?, List.lookup_append, show [e] = [(e.1, e.2)] from rfl,
    List.lookup_cons]
  cases k == e.1 <;> rfl

theorem find?_insertAll_last (u t : Table α) (k : String) :
    (t.insertAll u).find? k = (find? u.reverse k).or (t.find? k) := by
  induction u generalizing t with
  | nil => rfl
  | cons e u ih =>
    rw [insertAll, List.foldl_cons, ← insertAll, ih, find?_insert, find?_reverse_cons,
      Option.or_assoc]
    cases k == e.1 <;> rfl

theorem insertAll_insert (h : t.has k = true) (hk : k ∈ u.keys) :
    (t.insert k a).insertAll u = t.insertAll u := by
  induction u generalizing t with
  | nil => cases hk
  | cons e u ih =>
    rw [insertAll, insertAll, List.foldl_cons, List.foldl_cons]
    by_cases he : k = e.1
    · rw [← he, insert_insert]
    · rw [insert_comm h he]
      exact ih (has_insert.2 (.inr h)) ((List.mem_cons.1 hk).resolve_left he)

theorem insertAll_eq_self_iff :
    t.insertAll u = t ↔ ∀ k a, find? u.reverse k = some a → t.find? k = some a := by
  constructor
  · intro h k a ha
    rw [← h, find?_insertAll_last, ha]
    rfl
  · intro h
    induction u with
    | nil => rfl
    | cons e u ih =>
      simp only [find?_reverse_cons] at h
      have hu : t.insertAll u = t := ih fun k a ha => h k a (by rw [ha]; rfl)
      change (t.insert e.1 e.2).insertAll u = t
      cases hlater : find? u.reverse e.1 with
      | some a =>
        have hmem : e.1 ∈ keys u :=
          List.mem_map.2 ⟨_, List.mem_reverse.1 (mem_of_find? hlater), rfl⟩
        have hhas : t.has e.1 = true := by
          rw [has, h e.1 a (by rw [hlater]; rfl)]
          rfl
        rw [insertAll_insert hhas hmem, hu]
      | none =>
        have hstands : t.find? e.1 = some e.2 := h _ _ (by simp [hlater])
        rw [insert_eq_self hstands, hu]

end Repeated

section Grouped

variable {β : Type} {key : β → String} {value : β → α}

theorem groups_concat (es : List β) (e : β) :
    groups key value (es ++ [e]) =
      (groups key value es).insert (key e)
      (((groups key value es).find? (key e)).getD [] ++ [value e]) :=
  List.foldl_concat ..

theorem find?_groups (es : List β) (k : String) :
    ((groups key value es).find? k).getD [] = (es.filter fun e => key e == k).map value := by
  induction es using List.reverseRecOn with
  | nil => rfl
  | append_singleton es e ih =>
    rw [groups_concat, find?_insert, List.filter_append, List.map_append, ← ih]
    by_cases hk : k = key e
    · simp [hk]
    · simp [hk, Ne.symm hk]

theorem mem_keys_groups {es : List β} {k : String} :
    k ∈ (groups key value es).keys ↔ ∃ e ∈ es, key e = k := by
  have hhas : (groups key value es).has k = true ↔ has ([] : Table (List α)) k = true ∨
    k ∈ es.map key :=
    has_foldl key (fun _ _ => has_insert) es []
  have hkeys : k ∈ (groups key value es).keys ↔ (groups key value es).has k = true :=
    ⟨fun h => by
      obtain ⟨e, he, rfl⟩ := List.mem_map.1 h
      exact has_of_mem he, mem_keys_of_has⟩
  rw [hkeys, hhas, List.mem_map]
  simp [has, find?]

theorem nodup_keys_groups (es : List β) : (groups key value es).keys.Nodup :=
  List.foldlRecOn (motive := fun t => (keys t).Nodup) es _ List.nodup_nil fun _ ht _ _ =>
    nodup_keys_insert ht _ _

theorem flatMap_insert_perm {γ : Type} {f : String × List α → List γ} {k : String} {added : List γ}
    (hnil : f (k, []) = [])
    (t : Table (List α)) (as : List α) (has : f (k, as) = f (k, (t.find? k).getD []) ++ added) :
    ((t.insert k as).flatMap f).Perm (t.flatMap f ++ added) := by
  induction t with
  | nil =>
    have hadded : f (k, as) = added := by simpa [find?, hnil] using has
    simp [insert, hadded]
  | cons e t ih =>
    obtain ⟨k', as'⟩ := e
    rw [insert]
    split
    · next hk =>
      obtain rfl : k = k' := eq_of_beq hk
      have hgroup : f (k, as) = f (k, as') ++ added := by simpa [find?] using has
      rw [List.flatMap_cons, List.flatMap_cons, hgroup, List.append_assoc, List.append_assoc]
      exact List.perm_append_comm.append_left _
    · next hk =>
      have hrest := ih (by simpa [find?, List.lookup_cons, hk] using has)
      rw [List.flatMap_cons, List.flatMap_cons, List.append_assoc]
      exact hrest.append_left _

end Grouped

section Nested

variable {t : Table (Table α)} {m n m' n' : String} {a : α}

def insertAt (t : Table (Table α)) (m n : String) (a : α) : Table (Table α) :=
  t.insert m (((t.find? m).getD []).insert n a)

def findIn? (t : Table (Table α)) (m n : String) : Option α := ((t.find? m).getD []).find? n

def insertAllAt (t : Table (Table α)) (l : List (String × String × α)) : Table (Table α) :=
  l.foldl (fun t q => t.insertAt q.1 q.2.1 q.2.2) t

theorem findIn?_insertAt :
    findIn? (insertAt t m n a) m' n' = if m == m' && n == n' then some a else findIn? t m' n' := by
  rw [findIn?, findIn?, insertAt, find?_insert]
  by_cases hm : m' = m
  · subst hm
    by_cases hn : n' = n
    · simp [find?_insert, hn]
    · simp [find?_insert, hn, Ne.symm hn]
  · simp [hm, Ne.symm hm]

theorem findIn?_insertAllAt (l : List (String × String × α)) (t : Table (Table α)) (m n : String) :
    findIn? (insertAllAt t l) m n =
      ((l.reverse.find? fun q => q.1 == m && q.2.1 == n).map fun q => q.2.2).or
      (findIn? t m n) := by
  induction l generalizing t with
  | nil => rfl
  | cons q l ih =>
    rw [insertAllAt, List.foldl_cons, ← insertAllAt, ih, findIn?_insertAt, List.reverse_cons,
      List.find?_append]
    cases l.reverse.find? fun q => q.1 == m && q.2.1 == n with
    | some q' => rfl
    | none => cases hq : q.1 == m && q.2.1 == n <;> simp [hq]

theorem mem_of_findIn?_insertAllAt {l : List (String × String × α)}
    (h : findIn? (insertAllAt [] l) m n = some a) :
    (m, n, a) ∈ l := by
  rw [findIn?_insertAllAt, show findIn? ([] : Table (Table α)) m n = none from rfl, Option.or_none,
    Option.map_eq_some_iff] at h
  obtain ⟨⟨m', n', a'⟩, hfind, rfl⟩ := h
  have hkeys : m' = m ∧ n' = n := by simpa using List.find?_some hfind
  have hmem := List.mem_reverse.1 (List.mem_of_find?_eq_some hfind)
  rwa [hkeys.1, hkeys.2] at hmem

theorem exists_findIn?_insertAllAt {l : List (String × String × α)} (h : (m, n, a) ∈ l)
    (t : Table (Table α)) :
    ∃ a', findIn? (insertAllAt t l) m n = some a' := by
  refine Option.isSome_iff_exists.1 ?_
  rw [findIn?_insertAllAt, Option.isSome_or, Option.isSome_map, Bool.or_eq_true, List.find?_isSome]
  exact .inl ⟨_, List.mem_reverse.2 h, by simp⟩

theorem has_insertAllAt {l : List (String × String × α)} :
    (insertAllAt t l).has m = true ↔ t.has m = true ∨ ∃ q ∈ l, q.1 = m := by
  induction l generalizing t with
  | nil => simp [insertAllAt]
  | cons q l ih =>
    rw [insertAllAt, List.foldl_cons, ← insertAllAt, ih, insertAt, has_insert]
    simp only [List.mem_cons, exists_eq_or_imp]
    rw [eq_comm (a := m), ← or_assoc, or_comm (a := q.1 = m)]

theorem nodup_keys_insertAllAt (h : t.keys.Nodup) (l : List (String × String × α)) :
    (insertAllAt t l).keys.Nodup :=
  List.foldlRecOn (motive := fun t => (keys t).Nodup) l _ h fun _ ht _ _ => nodup_keys_insert ht _ _

end Nested

end TypedTemplate.Table
