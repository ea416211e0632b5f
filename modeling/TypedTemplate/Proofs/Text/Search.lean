import Mathlib.Algebra.GroupWithZero.Nat
import TypedTemplate.Text.Search

/-! Laws of trimming and of cutting a text at a separator. Searching is tied to the infix order: a
separator is found exactly where it is an infix, and the first place found has no earlier start. -/
namespace TypedTemplate.Text

/-- What holds of the characters of a text is decided by going through the text, and not through all
characters. -/
instance (priority := 2000) decidableForallMem (p : Char → Prop) [DecidablePred p] (s : List Char) :
    Decidable (∀ c ∈ s, p c) :=
  List.decidableBAll p s

instance (priority := 2000) decidableForallMemOption (p : Char → Prop) [DecidablePred p]
    (o : Option Char) :
    Decidable (∀ c ∈ o, p c) :=
  Option.decidableForallMem o

def Trimmed (s : List Char) : Prop :=
  (∀ c ∈ s.head?, isBlank c = false) ∧ ∀ c ∈ s.getLast?, isBlank c = false

theorem dropWhile_eq_self {p : Char → Bool} {s : List Char} (h : ∀ c ∈ s.head?, p c = false) :
    s.dropWhile p = s := by
  cases s with
  | nil => rfl
  | cons c s =>
    have hc : p c = false := h c (by simp)
    simp [hc]

theorem head?_dropWhile {p : Char → Bool} {s : List Char} :
    ∀ c ∈ (s.dropWhile p).head?, p c = false := by
  intro c hc
  have := List.head?_dropWhile_not p s
  rw [Option.mem_def.1 hc] at this
  simpa using this

theorem trimEnd_eq_self {s : List Char} (h : ∀ c ∈ s.getLast?, isBlank c = false) :
    trimEnd s = s := by
  rw [trimEnd, dropWhile_eq_self (by simpa using h), List.reverse_reverse]

theorem trim_eq_self {s : List Char} (h : Trimmed s) : trim s = s := by
  rw [trim, trimStart, dropWhile_eq_self h.1, trimEnd_eq_self h.2]

theorem trimStart_suffix (s : List Char) : trimStart s <:+ s := List.dropWhile_suffix _

theorem trimEnd_isPrefix (s : List Char) : trimEnd s <+: s := by
  have h : s.reverse.dropWhile isBlank <:+ s.reverse := List.dropWhile_suffix _
  rw [← List.reverse_prefix, List.reverse_reverse] at h
  exact h

theorem trim_isInfix (s : List Char) : trim s <:+: s :=
  (trimEnd_isPrefix _).isInfix.trans (trimStart_suffix s).isInfix

theorem trimmed_trim (s : List Char) : Trimmed (trim s) := by
  refine ⟨fun c hc => ?_, fun c hc => ?_⟩
  · obtain ⟨t, ht⟩ := trimEnd_isPrefix (trimStart s)
    apply head?_dropWhile (s := s) (p := isBlank) c
    change c ∈ (trimStart s).head?
    rw [← ht]
    cases h : trimEnd (trimStart s) with
    | nil => simp [trim, h] at hc
    | cons d u => simpa [trim, h] using hc
  · apply head?_dropWhile (s := (trimStart s).reverse) (p := isBlank) c
    simpa [trim, trimEnd] using hc

@[simp] theorem trim_trim (s : List Char) : trim (trim s) = trim s := trim_eq_self (trimmed_trim s)

theorem dropWhile_append_of_all {p : Char → Bool} {b s : List Char} (h : ∀ c ∈ b, p c = true) :
    (b ++ s).dropWhile p = s.dropWhile p := by
  induction b with
  | nil => rfl
  | cons c b ih =>
    have hc : p c = true := h c (by simp)
    simp [hc, ih fun d hd => h d (by simp [hd])]

theorem trim_blank_append {b s : List Char} (h : ∀ c ∈ b, isBlank c = true) :
    trim (b ++ s) = trim s := by
  rw [trim, trimStart, dropWhile_append_of_all h, ← trimStart, ← trim]

theorem trim_space (s : List Char) : trim (' ' :: s) = trim s :=
  @trim_blank_append [' '] s (by decide)

theorem trimEnd_append_blank {b s : List Char} (h : ∀ c ∈ b, isBlank c = true) :
    trimEnd (s ++ b) = trimEnd s := by
  rw [trimEnd, List.reverse_append, dropWhile_append_of_all (by simpa using h), ← trimEnd]

theorem trim_append_blank {b s : List Char} (h : ∀ c ∈ b, isBlank c = true) :
    trim (s ++ b) = trim s := by
  induction s with
  | nil =>
    have hb : b.dropWhile isBlank = [] := by
      simpa using dropWhile_append_of_all (s := []) h
    simp [trim, trimStart, hb]
  | cons c s ih =>
    by_cases hc : isBlank c = true
    · simpa [trim, trimStart, List.dropWhile_cons, hc] using ih
    · simp only [trim, trimStart, List.cons_append, List.dropWhile_cons, hc, Bool.false_eq_true,
        if_false]
      exact trimEnd_append_blank (s := c :: s) h

theorem exists_eq_trimEnd (s : List Char) :
    ∃ b, s = trimEnd s ++ b ∧ ∀ c ∈ b, isBlank c = true := by
  refine ⟨(s.reverse.takeWhile isBlank).reverse, ?_, fun c hc => ?_⟩
  · have h :=
      congrArg List.reverse (List.takeWhile_append_dropWhile (p := isBlank) (l := s.reverse))
    rw [List.reverse_append, List.reverse_reverse] at h
    exact h.symm
  · exact List.all_eq_true.1 List.all_takeWhile c (List.mem_reverse.1 hc)

theorem exists_eq_trim (s : List Char) :
    ∃ a b, s = a ++ (trim s ++ b) ∧ (∀ c ∈ a, isBlank c = true) ∧ ∀ c ∈ b, isBlank c = true := by
  obtain ⟨b, hs, hb⟩ := exists_eq_trimEnd (trimStart s)
  refine ⟨s.takeWhile isBlank, b, ?_, List.all_eq_true.1 List.all_takeWhile, hb⟩
  rw [trim, ← hs, trimStart, List.takeWhile_append_dropWhile]

theorem trim_cons {c : Char} (h : isBlank c = false) (s : List Char) :
    trim (c :: s) = c :: trimEnd s := by
  obtain ⟨b, hs, hb⟩ := exists_eq_trimEnd s
  have hlast : ∀ d ∈ (c :: trimEnd s).getLast?, isBlank d = false := by
    intro d hd
    cases ht : trimEnd s with
    | nil =>
      obtain rfl : c = d := by simpa [ht] using hd
      exact h
    | cons e u =>
      apply head?_dropWhile (s := s.reverse) (p := isBlank) d
      have : d ∈ (trimEnd s).getLast? := by simpa [ht, List.getLast?_cons_cons] using hd
      simpa [trimEnd] using this
  calc trim (c :: s) = trim ((c :: trimEnd s) ++ b) := by rw [List.cons_append, ← hs]
    _ = trim (c :: trimEnd s) := trim_append_blank hb
    _ = c :: trimEnd s := trim_eq_self ⟨by simpa using h, hlast⟩

theorem trimEnd_append_cons {c : Char} (h : isBlank c = false) (u v : List Char) :
    trimEnd (u ++ c :: v) = u ++ c :: trimEnd v := by
  obtain ⟨b, hv, hb⟩ := exists_eq_trimEnd v
  have heq : u ++ c :: v = (u ++ c :: trimEnd v) ++ b := by
    conv => lhs; rw [hv]
    simp
  rw [heq, trimEnd_append_blank hb, trimEnd_eq_self]
  intro d hd
  have hlast := (trim_cons h v) ▸ (trimmed_trim (c :: v)).2
  exact hlast d (by simpa [List.getLast?_append, List.getLast?_cons] using hd)

theorem trim_append_cons {c : Char} (h : isBlank c = false) (u v : List Char) :
    trim (u ++ c :: v) = trimStart u ++ c :: trimEnd v := by
  have hu : u = u.takeWhile isBlank ++ trimStart u := List.takeWhile_append_dropWhile.symm
  have hblank : ∀ d ∈ u.takeWhile isBlank, isBlank d = true := List.all_eq_true.1 List.all_takeWhile
  conv => lhs; rw [hu, List.append_assoc, trim_blank_append hblank]
  have hstart : ∀ d ∈ (trimStart u ++ c :: v).head?, isBlank d = false := by
    intro d hd
    cases hs : trimStart u with
    | nil =>
      obtain rfl : c = d := by simpa [hs] using hd
      exact h
    | cons e w =>
      exact head?_dropWhile (s := u) d (by change d ∈ (trimStart u).head?; simpa [hs] using hd)
  rw [trim, trimStart, dropWhile_eq_self hstart, trimEnd_append_cons h]

theorem trim_trimStart (s : List Char) : trim (trimStart s) = trim s := by
  have hblank : ∀ c ∈ s.takeWhile isBlank, isBlank c = true := List.all_eq_true.1 List.all_takeWhile
  have h := trim_blank_append (s := s.dropWhile isBlank) hblank
  rw [List.takeWhile_append_dropWhile] at h
  exact h.symm

theorem trim_trimEnd (s : List Char) : trim (trimEnd s) = trim s := by
  obtain ⟨b, hs, hb⟩ := exists_eq_trimEnd s
  have h := trim_append_blank (s := trimEnd s) hb
  rw [← hs] at h
  exact h.symm

theorem count_trim {c : Char} (h : isBlank c = false) (s : List Char) :
    (trim s).count c = s.count c := by
  have drop (u : List Char) : (u.dropWhile isBlank).count c = u.count c := by
    induction u with
    | nil => rfl
    | cons d u ih =>
      by_cases hd : isBlank d = true
      · have hne : d ≠ c := by
          rintro rfl
          simp [h] at hd
        simpa [List.dropWhile_cons, hd, List.count_cons, hne] using ih
      · simp [hd]
  rw [trim, trimEnd, List.count_reverse, drop, List.count_reverse, trimStart, drop]

theorem trim_ne_nil_of_mem {c : Char} {s : List Char} (hc : isBlank c = false) (h : c ∈ s) :
    trim s ≠ [] := fun h0 => by
  have hn := count_trim hc s
  rw [h0, List.count_nil, eq_comm, List.count_eq_zero] at hn
  exact hn h

theorem trimmed_append {a b : List Char} (ha : Trimmed a) (hb : Trimmed b) (hne : a ≠ [])
    (hne' : b ≠ []) (c : List Char) : Trimmed (a ++ (c ++ b)) := by
  refine ⟨fun d hd => ha.1 d ?_, fun d hd => hb.2 d ?_⟩
  · obtain ⟨e, u, rfl⟩ := List.exists_cons_of_ne_nil hne
    simpa using hd
  · obtain ⟨u, e, rfl⟩ := List.eq_nil_or_concat b |>.resolve_left hne'
    simpa [List.getLast?_append] using hd

theorem trimmed_intercalate {sep : List Char} {ps : List (List Char)} (hps : ps ≠ [])
    (h : ∀ p ∈ ps, p ≠ [] ∧ Trimmed p) :
    sep.intercalate ps ≠ [] ∧ Trimmed (sep.intercalate ps) := by
  induction ps with
  | nil => exact absurd rfl hps
  | cons p ps ih =>
    have hp := h p (by simp)
    cases ps with
    | nil => simpa using hp
    | cons q ps =>
      obtain ⟨hne, ht⟩ := ih (by simp) fun r hr => h r (by simp [hr])
      rw [List.intercalate_cons_of_ne_nil (by simp), List.append_assoc]
      exact ⟨by simp [hp.1], trimmed_append hp.2 ht hp.1 hne sep⟩

theorem mem_intercalate {sep : List Char} {ps : List (List Char)} {c : Char}
    (h : c ∈ sep.intercalate ps) :
    c ∈ sep ∨ ∃ p ∈ ps, c ∈ p := by
  induction ps with
  | nil => simp at h
  | cons p ps ih =>
    cases ps with
    | nil => exact .inr ⟨p, by simp, by simpa using h⟩
    | cons q ps =>
      rw [List.intercalate_cons_of_ne_nil (by simp), List.mem_append, List.mem_append] at h
      rcases h with (h | h) | h
      · exact .inr ⟨p, by simp, h⟩
      · exact .inl h
      · rcases ih h with h | ⟨r, hr, hc⟩
        · exact .inl h
        · exact .inr ⟨r, List.mem_cons_of_mem _ hr, hc⟩

@[simp] theorem joinWith_singleton (sep s : String) : joinWith sep [s] = s := by
  rw [← String.toList_inj, joinWith, String.toList_intercalate]
  simp

theorem mem_joinWith {sep : String} {ss : List String} {c : Char}
    (h : c ∈ (joinWith sep ss).toList) :
    c ∈ sep.toList ∨ ∃ s ∈ ss, c ∈ s.toList := by
  rw [joinWith, String.toList_intercalate] at h
  refine (mem_intercalate h).imp_right fun ⟨p, hp, hc⟩ => ?_
  obtain ⟨s, hs, rfl⟩ := List.mem_map.1 hp
  exact ⟨s, hs, hc⟩

def spaced : List (List Char) → List (List Char)
  | [] => []
  | p :: ps => p :: ps.map (' ' :: ·)

theorem intercalate_blank (p : List Char) (ps : List (List Char)) :
    [','].intercalate (p :: ps.map (' ' :: ·)) = [',', ' '].intercalate (p :: ps) := by
  induction ps generalizing p with
  | nil => simp
  | cons q ps ih =>
    have hhead : [','].intercalate ((' ' :: q) :: ps.map (' ' :: ·)) = ' ' :: [','].intercalate
      (q :: ps.map (' ' :: ·)) := by
      cases ps with
      | nil => simp
      | cons r ps => simp [List.intercalate_cons_of_ne_nil]
    have hp : [',', ' '].intercalate (p :: q :: ps) = p ++ [',', ' '] ++ [',', ' '].intercalate
      (q :: ps) :=
      List.intercalate_cons_of_ne_nil (by simp)
    rw [List.map_cons, List.intercalate_cons_of_ne_nil (by simp), hhead, ih, hp]
    simp

theorem intercalate_spaced (ps : List (List Char)) :
    [','].intercalate (spaced ps) = [',', ' '].intercalate ps := by
  cases ps with
  | nil => rfl
  | cons p ps => exact intercalate_blank p ps

theorem map_trim_spaced (ps : List (List Char)) : (spaced ps).map trim = ps.map trim := by
  cases ps with
  | nil => rfl
  | cons p ps => simp [spaced, trim_space]

theorem forall_mem_spaced {P : List Char → Prop} {ps : List (List Char)} :
    (∀ p ∈ spaced ps, P (trim p)) ↔ ∀ p ∈ ps, P (trim p) := by
  have h := map_trim_spaced ps
  rw [← List.forall_mem_map, h, List.forall_mem_map]

theorem count_intercalate (c : Char) (sep : List Char) (ps : List (List Char)) :
    (sep.intercalate ps).count c = (ps.map (List.count c)).sum + (ps.length - 1) * sep.count c := by
  induction ps with
  | nil => simp
  | cons p ps ih =>
    cases ps with
    | nil => simp
    | cons q ps =>
      rw [List.intercalate_cons_of_ne_nil (by simp), List.count_append, List.count_append, ih]
      simp only [List.map_cons, List.sum_cons, List.length_cons, Nat.add_sub_cancel, Nat.succ_mul]
      omega

theorem intercalate_concat_append (sep : List Char) (ps : List (List Char)) (q w : List Char) :
    sep.intercalate (ps ++ [q]) ++ w = sep.intercalate (ps ++ [q ++ w]) := by
  induction ps with
  | nil => simp
  | cons p ps ih =>
    rw [List.cons_append, List.cons_append, List.intercalate_cons_of_ne_nil (by simp),
      List.intercalate_cons_of_ne_nil (by simp), List.append_assoc, ih]

theorem prefix_append_cases {u a b : List Char} (h : u <+: a ++ b) :
    u <+: a ∨ ∃ v, u = a ++ v ∧ v <+: b := by
  rcases List.prefix_or_prefix_of_prefix h (List.prefix_append a b) with hu | ⟨v, rfl⟩
  · exact .inl hu
  · exact .inr ⟨v, rfl, (List.prefix_append_right_inj a).1 h⟩

theorem after?_append (start s : List Char) : after? start (start ++ s) = some s := by
  rw [after?, if_pos (List.isPrefixOf_iff_prefix.2 (List.prefix_append _ _)), List.drop_left]

theorem after?_eq_some {start s rest : List Char} (h : after? start s = some rest) :
    s = start ++ rest := by
  rw [after?] at h
  split at h
  · next hp =>
    obtain ⟨t, rfl⟩ := List.isPrefixOf_iff_prefix.1 hp
    rw [List.drop_left, Option.some.injEq] at h
    rw [h]
  · simp at h

theorem infix_append_cons {c : Char} {x u v : List Char} (hc : c ∉ x) (h : x <:+: u ++ c :: v) :
    x <:+: u ∨ x <:+: v := by
  obtain ⟨p, q, hpq⟩ := h
  rcases List.append_eq_append_iff.1 hpq with ⟨a, rfl, -⟩ | ⟨a, hpx, ha⟩
  · exact .inl ⟨p, a, rfl⟩
  · cases a with
    | nil => exact .inl ⟨p, [], by simpa using hpx⟩
    | cons d a =>
      rw [List.cons_append, List.cons.injEq] at ha
      obtain ⟨rfl, rfl⟩ := ha
      rcases List.append_eq_append_iff.1 hpx with ⟨b, -, rfl⟩ | ⟨b, -, hx⟩
      · exact absurd (List.mem_append_right b List.mem_cons_self) hc
      · cases b with
        | nil =>
          rw [List.nil_append] at hx
          exact absurd (hx ▸ List.mem_cons_self) hc
        | cons e b =>
          rw [List.cons_append, List.cons.injEq] at hx
          exact .inr ⟨b, q, by rw [hx.2]⟩

section Cut

variable {sep s a b : List Char}

theorem cut?_eq_none_iff : cut? sep s = none ↔ ¬ sep <:+: s := by
  induction s with
  | nil => cases sep <;> simp [cut?]
  | cons c s ih =>
    rw [List.infix_cons_iff, not_or, cut?]
    split
    · next hp => simp [List.isPrefixOf_iff_prefix.1 hp]
    · next hp =>
      have hp : ¬ sep <+: c :: s := fun h => hp (List.isPrefixOf_iff_prefix.2 h)
      simp [hp, ih]

theorem occurs_iff : occurs sep s = true ↔ sep <:+: s := by
  rw [occurs, Option.isSome_iff_ne_none, ne_eq, cut?_eq_none_iff, Classical.not_not]

theorem occurs_eq_false_iff : occurs sep s = false ↔ ¬ sep <:+: s := by
  rw [← occurs_iff, Bool.not_eq_true]

theorem cut?_append (h : ∀ u, u ≠ [] → u <:+ a → ¬ sep <+: u ++ s) :
    cut? sep (a ++ s) = (cut? sep s).map fun p => (a ++ p.1, p.2) := by
  induction a with
  | nil => simp
  | cons c a ih =>
    have hc : ¬ sep.isPrefixOf (c :: (a ++ s)) = true := fun hp =>
      h (c :: a) (by simp) List.suffix_rfl (List.isPrefixOf_iff_prefix.1 hp)
    rw [List.cons_append, cut?, if_neg hc,
      ih fun u hu hs => h u hu (hs.trans (List.suffix_cons _ _))]
    cases cut? sep s <;> rfl

theorem cut?_self (hne : sep ≠ []) : cut? sep (sep ++ b) = some ([], b) := by
  cases sep with
  | nil => exact absurd rfl hne
  | cons c sep => simp [cut?]

theorem cut?_eq_some (hne : sep ≠ []) (h : ∀ u, u ≠ [] → u <:+ a → ¬ sep <+: u ++ (sep ++ b)) :
    cut? sep (a ++ (sep ++ b)) = some (a, b) := by
  rw [cut?_append h, cut?_self hne]
  simp

theorem cut?_of_not_mem {c : Char} (h : c ∉ a) :
    cut? (c :: sep) (a ++ (c :: sep ++ b)) = some (a, b) := by
  refine @cut?_eq_some (c :: sep) a b (by simp) fun u hu hs hp => h ?_
  cases u with
  | nil => exact absurd rfl hu
  | cons d u =>
    obtain ⟨t, ht⟩ := hp
    obtain rfl : c = d := by simpa using congrArg List.head? ht
    exact hs.subset (by simp)

theorem cut?_single {c : Char} (h : c ∉ a) : cut? [c] (a ++ c :: b) = some (a, b) :=
  cut?_of_not_mem h

theorem append_cons_inj {c : Char} {a b x y : List Char} (ha : c ∉ a) (hb : c ∉ b)
    (h : a ++ c :: x = b ++ c :: y) :
    a = b ∧ x = y := by
  have h1 := cut?_single (b := x) ha
  have h2 := cut?_single (b := y) hb
  rw [h, h2, Option.some.injEq, Prod.mk.injEq] at h1
  exact ⟨h1.1.symm, h1.2.symm⟩

theorem suffix_of_append_cons {c : Char} {a w x y : List Char} (hw : c ∉ w)
    (h : a ++ c :: x = w ++ c :: y) : x <:+ y := by
  rcases List.append_eq_append_iff.1 h with ⟨z, rfl, hz⟩ | ⟨z, rfl, hz⟩
  · cases z with
    | nil =>
      obtain ⟨-, rfl⟩ := List.cons.inj hz
      exact List.suffix_rfl
    | cons d z =>
      rw [List.cons_append, List.cons.injEq] at hz
      exact absurd (by simp [hz.1]) hw
  · cases z with
    | nil =>
      obtain ⟨-, rfl⟩ := List.cons.inj hz
      exact List.suffix_rfl
    | cons d z =>
      rw [List.cons_append, List.cons.injEq] at hz
      rw [hz.2]
      exact (List.suffix_cons _ _).trans (List.suffix_append _ _)

theorem not_infix_of_cut? (h : cut? sep s = some (a, b)) (hne : sep ≠ []) : ¬ sep <:+: a := by
  induction s generalizing a b with
  | nil =>
    cases sep <;> simp_all [cut?]
  | cons c s ih =>
    rw [cut?] at h
    split at h
    · simp only [Option.some.injEq, Prod.mk.injEq] at h
      rw [← h.1]
      simpa using hne
    · next hp =>
      obtain ⟨⟨a', b'⟩, hc, heq⟩ := Option.map_eq_some_iff.1 h
      simp only [Prod.mk.injEq] at heq
      obtain ⟨rfl, rfl⟩ := heq
      rw [List.infix_cons_iff, not_or]
      refine ⟨fun hpre => hp (List.isPrefixOf_iff_prefix.2 ?_), ih hc⟩
      rw [cut?_eq_append hc, ← List.cons_append]
      exact hpre.trans (List.prefix_append _ _)

end Cut

section CutLast

variable {c : Char} {s a b : List Char}

theorem cutLast?_none (h : c ∉ s) : cutLast? c s = none := by
  induction s with
  | nil => rfl
  | cons d s ih =>
    rw [List.mem_cons, not_or] at h
    rw [cutLast?, ih h.2]
    simp [Ne.symm h.1]

theorem cutLast?_append (h : c ∉ b) (a : List Char) : cutLast? c (a ++ c :: b) = some (a, b) := by
  induction a with
  | nil => simp [cutLast?, cutLast?_none h]
  | cons d a ih => rw [List.cons_append, cutLast?, ih]

theorem cutLast?_eq_append (h : cutLast? c s = some (a, b)) : s = a ++ c :: b := by
  induction s generalizing a with
  | nil => simp [cutLast?] at h
  | cons d s ih =>
    rw [cutLast?] at h
    split at h
    · next x y hs =>
      cases h
      rw [ih hs, List.cons_append]
    · split at h
      · next hd =>
        cases h
        rw [hd, List.nil_append]
      · cases h

theorem not_mem_of_cutLast?_none (h : cutLast? c s = none) : c ∉ s := by
  induction s with
  | nil => exact List.not_mem_nil
  | cons d s ih =>
    rw [cutLast?] at h
    split at h
    · cases h
    · next hs =>
      split at h
      · cases h
      · next hd => exact List.not_mem_cons_of_ne_of_not_mem (Ne.symm hd) (ih hs)

theorem not_mem_of_cutLast? (h : cutLast? c s = some (a, b)) : c ∉ b := by
  induction s generalizing a with
  | nil => cases h
  | cons d s ih =>
    rw [cutLast?] at h
    split at h
    · next x y hs =>
      cases h
      exact ih hs
    · next hs =>
      split at h
      · cases h
        exact not_mem_of_cutLast?_none hs
      · cases h

end CutLast

section Pieces

variable {sep s a b : List Char}

theorem length_lt_of_cut? (hne : sep ≠ []) (h : cut? sep s = some (a, b)) :
    b.length < s.length := by
  have hl := congrArg List.length (cut?_eq_append h)
  have := List.length_pos_iff.2 hne
  simp only [List.length_append] at hl
  omega

theorem pieces_of_cut? (hne : sep ≠ []) (h : cut? sep s = some (a, b)) :
    pieces sep s = a :: pieces sep b := by
  rw [pieces, h]
  simp [length_lt_of_cut? hne h]

theorem pieces_of_absent (h : ¬ sep <:+: s) : pieces sep s = [s] := by
  rw [pieces, cut?_eq_none_iff.2 h]

theorem pieces_ne_nil (sep s : List Char) : pieces sep s ≠ [] := by
  rw [pieces]
  split
  · simp
  · split <;> simp

theorem intercalate_pieces (sep s : List Char) : sep.intercalate (pieces sep s) = s := by
  fun_induction pieces sep s with
  | case1 s hc => simp
  | case2 s a b hc hlt ih =>
    rw [List.intercalate_cons_of_ne_nil (pieces_ne_nil sep b), ih, cut?_eq_append hc,
      List.append_assoc]
  | case3 s a b hc hlt => simp

theorem not_infix_of_mem_pieces (hne : sep ≠ []) {p : List Char} (h : p ∈ pieces sep s) :
    ¬ sep <:+: p := by
  fun_induction pieces sep s with
  | case1 s hc =>
    rw [List.mem_singleton.1 h]
    exact cut?_eq_none_iff.1 hc
  | case2 s a b hc hlt ih =>
    rcases List.mem_cons.1 h with rfl | h
    · exact not_infix_of_cut? hc hne
    · exact ih h
  | case3 s a b hc hlt => exact absurd (length_lt_of_cut? hne hc) hlt

theorem pieces_intercalate {c : Char} {ps : List (List Char)} (hne : ps ≠ [])
    (h : ∀ p ∈ ps, c ∉ p) :
    pieces [c] ([c].intercalate ps) = ps := by
  induction ps with
  | nil => exact absurd rfl hne
  | cons p ps ih =>
    have hp := h p (by simp)
    cases ps with
    | nil => simpa using pieces_of_absent fun hin => hp (hin.subset (by simp))
    | cons q ps =>
      rw [List.intercalate_cons_of_ne_nil (by simp), List.append_assoc,
        pieces_of_cut? (by simp) (cut?_of_not_mem hp), ih (by simp) fun r hr => h r (by simp [hr])]

theorem sum_count_pieces {c : Char} (h : c ∉ sep) (s : List Char) :
    ((pieces sep s).map (List.count c)).sum = s.count c := by
  fun_induction pieces sep s with
  | case1 s hc => simp
  | case2 s a b hc hlt ih => simp [cut?_eq_append hc, ih, List.count_eq_zero.2 h]
  | case3 s a b hc hlt => simp

theorem replace_of_cut? {new : List Char} (hne : sep ≠ []) (h : cut? sep s = some (a, b)) :
    replace sep new s = a ++ (new ++ replace sep new b) := by
  rw [replace, pieces_of_cut? hne h, List.intercalate_cons_of_ne_nil (pieces_ne_nil sep b),
    List.append_assoc]
  rfl

theorem replace_of_absent {new : List Char} (h : ¬ sep <:+: s) : replace sep new s = s := by
  rw [replace, pieces_of_absent h, List.intercalate_singleton]

theorem mem_replace {new : List Char} {c : Char} (h : c ∈ replace sep new s) : c ∈ new ∨ c ∈ s := by
  rcases mem_intercalate h with h | ⟨p, hp, hc⟩
  · exact .inl h
  · exact .inr ((infix_of_mem_pieces hp).subset hc)

theorem two_le_length_pieces (hne : sep ≠ []) (h : sep <:+: s) : 2 ≤ (pieces sep s).length := by
  cases hc : cut? sep s with
  | none => exact absurd h (cut?_eq_none_iff.1 hc)
  | some p =>
    obtain ⟨a, b⟩ := p
    have := List.length_pos_iff.2 (pieces_ne_nil sep b)
    rw [pieces_of_cut? hne hc, List.length_cons]
    omega

theorem count_replace_lt {new : List Char} {c : Char} (h : sep <:+: s) (hc : c ∈ sep)
    (hn : c ∉ new) :
    (replace sep new s).count c < s.count c := by
  have hs := congrArg (List.count c) (intercalate_pieces sep s)
  have hlen := two_le_length_pieces (List.ne_nil_of_mem hc) h
  have hpos : 0 < ((pieces sep s).length - 1) * sep.count c :=
    Nat.mul_pos (by omega) (List.count_pos_iff.2 hc)
  rw [count_intercalate] at hs
  rw [replace, count_intercalate, List.count_eq_zero.2 hn]
  omega

theorem replace_append {new : List Char} (hne : sep ≠ [])
    (h : ∀ u, u ≠ [] → u <:+ a → ¬ sep <+: u ++ s) :
    replace sep new (a ++ s) = a ++ replace sep new s := by
  cases hc : cut? sep s with
  | none =>
    have hn : cut? sep (a ++ s) = none := by rw [cut?_append h, hc]; rfl
    rw [replace_of_absent (cut?_eq_none_iff.1 hn), replace_of_absent (cut?_eq_none_iff.1 hc)]
  | some p =>
    obtain ⟨x, y⟩ := p
    have hs : cut? sep (a ++ s) = some (a ++ x, y) := by rw [cut?_append h, hc]; rfl
    rw [replace_of_cut? hne hs, replace_of_cut? hne hc, List.append_assoc]

/-- Where no place of the separator goes on from one text into the next, the first place in the
first text is the first in both. -/
theorem cut?_append_left {x y : List Char} (hne : sep ≠ [])
    (h : ∀ u, u ≠ [] → u <:+ a → sep <+: u ++ b → sep <+: u)
    (hc : cut? sep a = some (x, y)) : cut? sep (a ++ b) = some (x, y ++ b) := by
  induction a generalizing x with
  | nil => cases sep <;> simp_all [cut?]
  | cons c a ih =>
    rw [cut?] at hc
    split at hc
    · next hp =>
      obtain ⟨t, ht⟩ := List.isPrefixOf_iff_prefix.1 hp
      simp only [Option.some.injEq, Prod.mk.injEq] at hc
      obtain ⟨rfl, rfl⟩ := hc
      rw [← ht, List.append_assoc, cut?_self hne, List.drop_left]
    · next hp =>
      have hp' : ¬ sep.isPrefixOf (c :: (a ++ b)) = true := fun hab =>
        hp (List.isPrefixOf_iff_prefix.2
          (h (c :: a) (by simp) List.suffix_rfl (List.isPrefixOf_iff_prefix.1 hab)))
      obtain ⟨⟨x', y'⟩, hc', heq⟩ := Option.map_eq_some_iff.1 hc
      simp only [Prod.mk.injEq] at heq
      obtain ⟨rfl, rfl⟩ := heq
      rw [List.cons_append, cut?, if_neg hp',
        ih (fun u hu hs => h u hu (hs.trans (List.suffix_cons _ _))) hc']
      rfl

theorem replace_append_append {new : List Char} (hne : sep ≠ [])
    (h : ∀ u, u ≠ [] → u <:+ a → sep <+: u ++ b → sep <+: u) :
    replace sep new (a ++ b) = replace sep new a ++ replace sep new b := by
  induction hn : a.length using Nat.strongRecOn generalizing a with
  | _ n ih =>
    cases hc : cut? sep a with
    | none =>
      have habsent : ¬ sep <:+: a := cut?_eq_none_iff.1 hc
      rw [replace_append hne fun u hu hs hp => habsent ((h u hu hs hp).isInfix.trans hs.isInfix),
        replace_of_absent habsent]
    | some p =>
      obtain ⟨x, y⟩ := p
      have hy : y <:+ a := by
        rw [cut?_eq_append hc]
        exact (List.suffix_append _ _).trans (List.suffix_append _ _)
      rw [replace_of_cut? hne (cut?_append_left hne h hc), replace_of_cut? hne hc,
        ih y.length (hn ▸ length_lt_of_cut? hne hc) (fun u hu hs => h u hu (hs.trans hy)) rfl]
      simp only [List.append_assoc]

end Pieces

end TypedTemplate.Text
