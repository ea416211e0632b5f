import TypedTemplate.Proofs.Text.Search
import TypedTemplate.Text.Bracket

/-! Laws of cutting at delimiters outside brackets. A text is sealed when it has no delimiter at
depth zero; what is cut off at a delimiter is always sealed and ends at depth zero. -/
namespace TypedTemplate.Text

def depthOf (k : Int) (s : List Char) : Int := s.foldl depthAfter k

@[simp] theorem depthOf_nil (k : Int) : depthOf k [] = k := rfl

@[simp] theorem depthOf_cons (k : Int) (c : Char) (s : List Char) :
    depthOf k (c :: s) = depthOf (depthAfter k c) s := rfl

@[simp] theorem depthOf_append (k : Int) (a b : List Char) :
    depthOf k (a ++ b) = depthOf (depthOf k a) b :=
  List.foldl_append

theorem depthAfter_add (j k : Int) (c : Char) : depthAfter (j + k) c = j + depthAfter k c := by
  simp only [depthAfter]
  split
  · omega
  · split <;> omega

theorem depthOf_add (j k : Int) (s : List Char) : depthOf (j + k) s = j + depthOf k s := by
  induction s generalizing k with
  | nil => rfl
  | cons c s ih => rw [depthOf_cons, depthOf_cons, depthAfter_add, ih]

def Sealed (d : Char) : Int → List Char → Prop
  | _, [] => True
  | k, c :: s => ¬(c = d ∧ k = 0) ∧ Sealed d (depthAfter k c) s

theorem sealed_append {d : Char} {k : Int} {a b : List Char} :
    Sealed d k (a ++ b) ↔ Sealed d k a ∧ Sealed d (depthOf k a) b := by
  induction a generalizing k with
  | nil => simp [Sealed]
  | cons c a ih => simp only [List.cons_append, Sealed, ih, depthOf_cons, and_assoc]

theorem sealed_of_not_mem {d : Char} {s : List Char} (h : d ∉ s) (k : Int) : Sealed d k s := by
  induction s generalizing k with
  | nil => trivial
  | cons c s ih =>
    rw [List.mem_cons, not_or] at h
    exact ⟨fun hc => h.1 hc.1.symm, ih h.2 _⟩

theorem exists_of_not_sealed {d : Char} {k : Int} {s : List Char} (h : ¬ Sealed d k s) :
    ∃ x v, s = x ++ d :: v ∧ depthOf k x = 0 ∧ Sealed d k x := by
  induction s generalizing k with
  | nil => exact absurd trivial h
  | cons c s ih =>
    by_cases hc : c = d ∧ k = 0
    · exact ⟨[], s, by rw [hc.1, List.nil_append], hc.2, trivial⟩
    · obtain ⟨x, v, rfl, hdepth, hx⟩ := ih fun hs => h ⟨hc, hs⟩
      exact ⟨c :: x, v, rfl, hdepth, hc, hx⟩

theorem splitTopFrom_sealed {d : Char} {k : Int} {p : List Char} (h : Sealed d k p)
    (s : List Char) :
    splitTopFrom d k (p ++ s) = p.foldr extendHead (splitTopFrom d (depthOf k p) s) := by
  induction p generalizing k with
  | nil => rfl
  | cons c p ih =>
    rw [List.cons_append, splitTopFrom, if_neg fun hc => h.1 ⟨hc.1, hc.2.1⟩, ih h.2]
    rfl

theorem splitTop_delimiter {d : Char} (hd : isOpen d = false ∧ isClose d = false) {p : List Char}
    (h : Sealed d 0 p)
    (hp : depthOf 0 p = 0) (s : List Char) : splitTop d (p ++ d :: s) = p :: splitTop d s := by
  rw [splitTop, splitTopFrom_sealed h, hp, splitTopFrom, if_pos ⟨rfl, rfl, hd⟩,
    foldr_extendHead_cons, List.append_nil]
  rfl

theorem splitTop_sealed {d : Char} {p : List Char} (h : Sealed d 0 p) (hne : p ≠ []) :
    splitTop d p = [p] := by
  have := splitTopFrom_sealed h []
  rw [List.append_nil] at this
  rw [splitTop, this, splitTopFrom, foldr_extendHead_nil hne]

theorem splitTopFrom_eq_nil {d : Char} {k : Int} {s : List Char} (h : splitTopFrom d k s = []) :
    s = [] := by
  cases s with
  | nil => rfl
  | cons c s =>
    rw [splitTopFrom] at h
    split at h
    · cases h
    · cases hs : splitTopFrom d (depthAfter k c) s <;> simp [hs, extendHead] at h

theorem parts_splitTopFrom {d : Char} {k : Int} {s l : List Char} {ls : List (List Char)}
    (h : splitTopFrom d k s = l :: ls) : l <+: s ∧ ∀ p ∈ ls, p <:+: s := by
  induction s generalizing k l ls with
  | nil => simp [splitTopFrom] at h
  | cons c s ih =>
    have later {k : Int} {p : List Char} (hp : p ∈ splitTopFrom d k s) : p <:+: c :: s := by
      obtain ⟨m, ms, hm⟩ := List.exists_cons_of_ne_nil (List.ne_nil_of_mem hp)
      obtain ⟨hpre, hin⟩ := ih hm
      rw [hm] at hp
      rcases List.mem_cons.1 hp with rfl | hp
      · exact hpre.isInfix.trans (List.suffix_cons _ _).isInfix
      · exact (hin p hp).trans (List.suffix_cons _ _).isInfix
    rw [splitTopFrom] at h
    split at h
    · obtain ⟨rfl, rfl⟩ := List.cons.inj h
      exact ⟨List.nil_prefix, fun p hp => later hp⟩
    · cases hs : splitTopFrom d (depthAfter k c) s with
      | nil =>
        rw [hs] at h
        obtain ⟨rfl, rfl⟩ := List.cons.inj h
        exact ⟨List.cons_prefix_cons.2 ⟨rfl, List.nil_prefix⟩, by simp⟩
      | cons m ms =>
        rw [hs] at h
        obtain ⟨rfl, rfl⟩ := List.cons.inj h
        exact ⟨List.cons_prefix_cons.2 ⟨rfl, (ih hs).1⟩,
          fun p hp => later (k := depthAfter k c) (by rw [hs]; exact List.mem_cons_of_mem _ hp)⟩

theorem sealed_of_splitTopFrom {k : Int} {s l : List Char} {ls : List (List Char)}
    (h : splitTopFrom ',' k s = l :: ls) :
    Sealed ',' k l ∧ ∀ p ∈ ls, Sealed ',' 0 p := by
  induction s generalizing k l ls with
  | nil => simp [splitTopFrom] at h
  | cons c s ih =>
    rw [splitTopFrom] at h
    split at h
    · next hc =>
      obtain ⟨rfl, rfl⟩ := List.cons.inj h
      refine ⟨trivial, fun p hp => ?_⟩
      obtain ⟨m, ms, hm⟩ := List.exists_cons_of_ne_nil (List.ne_nil_of_mem hp)
      obtain ⟨hfirst, hlater⟩ := ih hm
      rw [hm] at hp
      rcases List.mem_cons.1 hp with rfl | hp
      · rwa [hc.2.1] at hfirst
      · exact hlater p hp
    · next hc =>
      have hcut : ¬ (c = ',' ∧ k = 0) :=
        fun h => hc ⟨h.1, h.2, by rw [h.1]; decide, by rw [h.1]; decide⟩
      cases hs : splitTopFrom ',' (depthAfter k c) s with
      | nil =>
        rw [hs] at h
        obtain ⟨rfl, rfl⟩ := List.cons.inj h
        exact ⟨⟨hcut, trivial⟩, by simp⟩
      | cons m ms =>
        rw [hs] at h
        obtain ⟨rfl, rfl⟩ := List.cons.inj h
        exact ⟨⟨hcut, (ih hs).1⟩, (ih hs).2⟩

theorem sealed_of_mem_splitTop {s p : List Char} (hp : p ∈ splitTop ',' s) : Sealed ',' 0 p := by
  obtain ⟨l, ls, hl⟩ := List.exists_cons_of_ne_nil (List.ne_nil_of_mem hp)
  obtain ⟨hfirst, hlater⟩ := sealed_of_splitTopFrom hl
  rw [hl] at hp
  rcases List.mem_cons.1 hp with rfl | hp
  · exact hfirst
  · exact hlater p hp

theorem infix_of_mem_splitTrimmed {s p : List Char} (hp : p ∈ splitTrimmed s) : p <:+: s := by
  rw [splitTrimmed_eq, splitTop] at hp
  obtain ⟨q, hq, rfl⟩ := List.mem_map.1 hp
  obtain ⟨l, ls, hl⟩ := List.exists_cons_of_ne_nil (List.ne_nil_of_mem hq)
  obtain ⟨hpre, hin⟩ := parts_splitTopFrom hl
  rw [hl] at hq
  rcases List.mem_cons.1 hq with rfl | hq
  · exact (trim_isInfix q).trans hpre.isInfix
  · exact (trim_isInfix q).trans (hin q hq)

theorem isBracket_of_isBlank {c : Char} (h : isBlank c = true) :
    isOpen c = false ∧ isClose c = false ∧ c ≠ ',' := by
  have bracket {p : Bool} (hp : p = true → c ∈ ['[', '(', '{', ']', ')', '}', ',']) :
      p = false := by
    cases p with
    | false => rfl
    | true =>
      have hb : ∀ d ∈ ['[', '(', '{', ']', ')', '}', ','], isBlank d = false := by decide
      exact absurd h (by simp [hb c (hp rfl)])
  refine ⟨bracket fun hc => ?_, bracket fun hc => ?_, fun hc => ?_⟩
  · simp only [isOpen, Bool.or_eq_true, beq_iff_eq] at hc
    rcases hc with (rfl | rfl) | rfl <;> decide
  · simp only [isClose, Bool.or_eq_true, beq_iff_eq] at hc
    rcases hc with (rfl | rfl) | rfl <;> decide
  · exact absurd (bracket (p := true) fun _ => by simp [hc]) (by decide)

section Blank

def filled (ls : List (List Char)) : List (List Char) :=
  (ls.map trim).filter fun part => !part.isEmpty

theorem splitArgs_eq_filled (s : List Char) : splitArgs s = filled (splitTop ',' s) := by
  rw [splitArgs_eq, splitTrimmed_eq, filled]

theorem trim_blank {b : List Char} (h : ∀ c ∈ b, isBlank c = true) : trim b = [] := by
  simpa [trim, trimStart, trimEnd] using trim_append_blank (s := []) h

theorem splitTopFrom_blank {c : Char} (h : isBlank c = true) (k : Int) (s : List Char) :
    splitTopFrom ',' k (c :: s) = extendHead c (splitTopFrom ',' k s) := by
  obtain ⟨ho, hc, hne⟩ := isBracket_of_isBlank h
  have hk : depthAfter k c = k := by simp [depthAfter, ho, hc]
  rw [splitTopFrom, if_neg fun hd => hne hd.1, hk]

theorem filled_blank_append {a : List Char} (h : ∀ c ∈ a, isBlank c = true) (s : List Char) :
    filled (splitTop ',' (a ++ s)) = filled (splitTop ',' s) := by
  induction a with
  | nil => rfl
  | cons c a ih =>
    have hc : isBlank c = true := h c (by simp)
    rw [← ih fun d hd => h d (by simp [hd]), List.cons_append, splitTop, splitTopFrom_blank hc,
      ← splitTop]
    cases splitTop ',' (a ++ s) with
    | nil => simp [filled, extendHead, trim_blank (b := [c]) (by simpa using hc)]
    | cons l ls =>
      have ht : trim (c :: l) = trim l := trim_blank_append (b := [c]) (by simpa using hc)
      simp [filled, extendHead, ht]

theorem splitTopFrom_append_blank {b : List Char} (hb : ∀ c ∈ b, isBlank c = true) (hne : b ≠ [])
    (k : Int) (s : List Char) :
    splitTopFrom ',' k (s ++ b) = splitTopFrom ',' k s ++ [b] ∨
      ∃ init p, splitTopFrom ',' k s = init ++ [p] ∧
        splitTopFrom ',' k (s ++ b) = init ++ [p ++ b] := by
  induction s generalizing k with
  | nil =>
    have hs : Sealed ',' k b :=
      sealed_of_not_mem (fun h => (isBracket_of_isBlank (hb _ h)).2.2 rfl) k
    have := splitTopFrom_sealed hs []
    rw [List.append_nil] at this
    exact .inl (by rw [List.nil_append, this, splitTopFrom, foldr_extendHead_nil hne, splitTopFrom,
      List.nil_append])
  | cons c s ih =>
    rw [List.cons_append, splitTopFrom, splitTopFrom]
    split
    · rcases ih k with h | ⟨init, p, h, h'⟩
      · exact .inl (by rw [h, List.cons_append])
      · exact .inr ⟨[] :: init, p, by rw [h, List.cons_append], by rw [h', List.cons_append]⟩
    · rcases ih (depthAfter k c) with h | ⟨init, p, h, h'⟩
      · rw [h]
        cases splitTopFrom ',' (depthAfter k c) s with
        | nil => exact .inr ⟨[], [c], rfl, rfl⟩
        | cons l ls => exact .inl rfl
      · rw [h, h']
        cases init with
        | nil => exact .inr ⟨[], c :: p, rfl, rfl⟩
        | cons l ls => exact .inr ⟨(c :: l) :: ls, p, rfl, rfl⟩

theorem filled_append_blank {b : List Char} (h : ∀ c ∈ b, isBlank c = true) (s : List Char) :
    filled (splitTop ',' (s ++ b)) = filled (splitTop ',' s) := by
  by_cases hne : b = []
  · rw [hne, List.append_nil]
  rw [splitTop]
  rcases splitTopFrom_append_blank h hne 0 s with heq | ⟨init, p, heq, heq'⟩
  · simp [filled, heq, splitTop, trim_blank h]
  · rw [splitTop, heq', heq]
    simp [filled, trim_append_blank h]

theorem splitTopFrom_append_comma {k : Int} {p : List Char} (h : depthOf k p = 0) (s : List Char) :
    ∃ ls, ls ≠ [] ∧ splitTopFrom ',' k (p ++ ',' :: s) = ls ++ splitTop ',' s ∧
      (ls = splitTopFrom ',' k p ∨ ls = splitTopFrom ',' k p ++ [[]]) := by
  induction p generalizing k with
  | nil =>
    obtain rfl : k = 0 := h
    exact ⟨[[]], by simp, by rw [List.nil_append, splitTopFrom, if_pos (by decide)]; rfl, .inr rfl⟩
  | cons c p ih =>
    rw [List.cons_append, splitTopFrom, splitTopFrom]
    split
    · next hc =>
      obtain ⟨ls, hne, heq, hls⟩ := ih (k := k) (by simpa [depthAfter, hc.2.2.1, hc.2.2.2] using h)
      refine ⟨[] :: ls, by simp, by rw [heq]; rfl, ?_⟩
      rcases hls with rfl | rfl
      · exact .inl rfl
      · exact .inr rfl
    · obtain ⟨ls, hne, heq, hls⟩ := ih h
      rw [heq]
      rcases hls with rfl | rfl
      · cases hl : splitTopFrom ',' (depthAfter k c) p with
        | nil => exact absurd hl hne
        | cons l ls => exact ⟨(c :: l) :: ls, by simp, rfl, .inl rfl⟩
      · cases hl : splitTopFrom ',' (depthAfter k c) p with
        | nil => exact ⟨[[c]], by simp, rfl, .inl rfl⟩
        | cons l ls => exact ⟨(c :: l) :: ls ++ [[]], by simp, rfl, .inr rfl⟩

theorem splitArgs_append_comma {p : List Char} (h : depthOf 0 p = 0) (s : List Char) :
    splitArgs (p ++ ',' :: s) = splitArgs p ++ splitArgs s := by
  have hempty : filled [[]] = [] := by decide
  have happend (ls ms : List (List Char)) : filled (ls ++ ms) = filled ls ++ filled ms := by
    simp [filled]
  obtain ⟨ls, -, heq, hls⟩ := splitTopFrom_append_comma h s
  have hsplit : filled (splitTop ',' (p ++ ',' :: s)) = filled (ls ++ splitTop ',' s) :=
    congrArg filled heq
  rw [splitArgs_eq_filled, splitArgs_eq_filled, splitArgs_eq_filled, hsplit, happend]
  rcases hls with rfl | rfl
  · rfl
  · rw [happend, hempty, List.append_nil]
    rfl

theorem splitArgs_flatMap {ps : List (List Char)} (h : ∀ p ∈ ps, depthOf 0 p = 0) :
    splitArgs ([','].intercalate ps) = ps.flatMap splitArgs := by
  induction ps with
  | nil => rfl
  | cons p ps ih =>
    cases ps with
    | nil => simp
    | cons q ps =>
      rw [List.intercalate_cons_of_ne_nil (by simp), List.append_assoc, List.singleton_append,
        splitArgs_append_comma (h p (by simp)), ih fun r hr => h r (by simp [hr])]
      rfl

theorem splitArgs_trim (s : List Char) : splitArgs (trim s) = splitArgs s := by
  obtain ⟨a, b, hs, ha, hb⟩ := exists_eq_trim s
  have h : filled (splitTop ',' s) = filled (splitTop ',' (trim s)) := by
    conv => lhs; rw [hs, filled_blank_append ha, filled_append_blank hb]
  rw [splitArgs_eq_filled, splitArgs_eq_filled, h]

end Blank

/-- A part that stands between delimiters: it is not blank, has no delimiter outside brackets and
leaves none open. -/
structure Part (p : List Char) : Prop where
  not_blank : trim p ≠ []
  isSealed : Sealed ',' 0 p
  closed : depthOf 0 p = 0

theorem Part.ne_nil {p : List Char} (h : Part p) : p ≠ [] := by
  rintro rfl
  exact h.not_blank rfl

/-- Parts with a comma behind each. -/
def lead (ps : List (List Char)) : List Char := ps.flatMap (· ++ [','])

theorem intercalate_concat (ps : List (List Char)) (q : List Char) :
    [','].intercalate (ps ++ [q]) = lead ps ++ q := by
  induction ps with
  | nil => simp [lead]
  | cons p ps ih =>
    rw [List.cons_append, List.intercalate_cons_of_ne_nil (by simp), ih]
    simp [lead]

theorem intercalate_append_cons (sep x v : List Char) (ps : List (List Char)) :
    sep.intercalate ((x ++ v) :: ps) = x ++ sep.intercalate (v :: ps) := by
  cases ps with
  | nil => simp
  | cons p ps =>
    rw [List.intercalate_cons_of_ne_nil (by simp),
      @List.intercalate_cons_of_ne_nil _ sep v _ (by simp)]
    simp only [List.append_assoc]

theorem intercalate_eq_append {c : Char} (hc : c ≠ ',') {ps : List (List Char)} {q q' : List Char}
    (hq : c ∉ q) (h : [','].intercalate ps = q ++ c :: q') :
    ∃ init u v post, ps = init ++ (u ++ c :: v) :: post ∧ q = lead init ++ u ∧
      q' = [','].intercalate (v :: post) := by
  induction ps generalizing q with
  | nil => simp at h
  | cons p ps ih =>
    cases ps with
    | nil =>
      obtain rfl : p = q ++ c :: q' := by simpa using h
      exact ⟨[], q, q', [], rfl, rfl, by simp⟩
    | cons r ps =>
      rw [List.intercalate_cons_of_ne_nil (by simp), List.append_assoc, List.singleton_append] at h
      rcases List.append_eq_append_iff.1 h with ⟨z, rfl, hz⟩ | ⟨z, rfl, hz⟩
      · cases z with
        | nil => exact absurd (List.cons.inj hz).1.symm hc
        | cons d z =>
          rw [List.cons_append, List.cons.injEq] at hz
          obtain ⟨rfl, hz⟩ := hz
          obtain ⟨init, u, v, post, hps, rfl, hq'⟩ := ih (fun hm => hq (by simp [hm])) hz
          exact ⟨p :: init, u, v, post, by rw [hps, List.cons_append], by simp [lead], hq'⟩
      · cases z with
        | nil => exact absurd (List.cons.inj hz).1 hc
        | cons d z =>
          rw [List.cons_append, List.cons.injEq] at hz
          obtain ⟨rfl, rfl⟩ := hz
          refine ⟨[], q, z, r :: ps, rfl, rfl, ?_⟩
          rw [@List.intercalate_cons_of_ne_nil _ [','] z _ (by simp), List.append_assoc,
            List.singleton_append]

theorem splitTop_lead {ps : List (List Char)} {q : List Char}
    (hps : ∀ p ∈ ps, Sealed ',' 0 p ∧ depthOf 0 p = 0)
    (hq : Sealed ',' 0 q) (hne : q ≠ []) : splitTop ',' (lead ps ++ q) = ps ++ [q] := by
  induction ps with
  | nil => exact splitTop_sealed hq hne
  | cons p ps ih =>
    obtain ⟨hs, hd⟩ := hps p (by simp)
    rw [lead, List.flatMap_cons, ← lead, List.append_assoc, List.append_assoc,
      List.singleton_append,
      splitTop_delimiter (by decide) hs hd, ih fun r hr => hps r (by simp [hr])]
    rfl

theorem splitTrimmed_lead {ps : List (List Char)} {q : List Char} (hps : ∀ p ∈ ps, Part p)
    (hq : Sealed ',' 0 q)
    (hne : q ≠ []) : splitTrimmed (lead ps ++ q) = ps.map trim ++ [trim q] := by
  rw [splitTrimmed_eq, splitTop_lead (fun p hp => ⟨(hps p hp).isSealed, (hps p hp).closed⟩) hq hne,
    List.map_append]
  rfl

theorem splitArgs_lead {ps : List (List Char)} {q : List Char} (hps : ∀ p ∈ ps, Part p)
    (hq : Sealed ',' 0 q)
    (hb : trim q ≠ []) : splitArgs (lead ps ++ q) = ps.map trim ++ [trim q] := by
  have hne : q ≠ [] := by
    rintro rfl
    exact hb rfl
  rw [splitArgs_eq, splitTrimmed_lead hps hq hne, List.filter_eq_self]
  intro p hp
  rcases List.mem_append.1 hp with hp | hp
  · obtain ⟨r, hr, rfl⟩ := List.mem_map.1 hp
    simpa using (hps r hr).not_blank
  · rw [List.mem_singleton.1 hp]
    simpa using hb

theorem splitTrimmed_intercalate {ps : List (List Char)} (hne : ps ≠ []) (h : ∀ p ∈ ps, Part p) :
    splitTrimmed ([','].intercalate ps) = ps.map trim := by
  obtain ⟨init, q, rfl⟩ := (List.eq_nil_or_concat ps).resolve_left hne
  rw [List.concat_eq_append] at h ⊢
  have hq := h q (by simp)
  rw [intercalate_concat, splitTrimmed_lead (fun p hp => h p (by simp [hp])) hq.isSealed hq.ne_nil,
    List.map_append]
  rfl

theorem splitArgs_intercalate {ps : List (List Char)} (h : ∀ p ∈ ps, Part p) :
    splitArgs ([','].intercalate ps) = ps.map trim := by
  by_cases hne : ps = []
  · rw [hne]
    rfl
  rw [splitArgs_eq, splitTrimmed_intercalate hne h, List.filter_eq_self]
  intro p hp
  obtain ⟨r, hr, rfl⟩ := List.mem_map.1 hp
  simpa using (h r hr).not_blank

/-- Every bracket that a text closes it has opened before, and it leaves none open. -/
structure Nested (s : List Char) : Prop where
  closed : depthOf 0 s = 0
  nonneg : ∀ u, u <+: s → 0 ≤ depthOf 0 u

theorem depthOf_plain {s : List Char} (h : ∀ c ∈ s, isOpen c = false ∧ isClose c = false)
    (k : Int) :
    depthOf k s = k := by
  induction s generalizing k with
  | nil => rfl
  | cons c s ih =>
    have hc := h c (by simp)
    rw [depthOf_cons, depthAfter, if_neg (by simp [hc.1]), if_neg (by simp [hc.2]),
      ih fun d hd => h d (by simp [hd])]

theorem nested_plain {s : List Char} (h : ∀ c ∈ s, isOpen c = false ∧ isClose c = false) :
    Nested s where
  closed := depthOf_plain h 0
  nonneg _ hu := Int.le_of_eq (depthOf_plain (fun c hc => h c (hu.subset hc)) 0).symm

theorem Nested.append {a b : List Char} (ha : Nested a) (hb : Nested b) : Nested (a ++ b) where
  closed := by rw [depthOf_append, ha.closed, hb.closed]
  nonneg u hu := by
    rcases prefix_append_cases hu with h | ⟨v, rfl, hv⟩
    · exact ha.nonneg u h
    · rw [depthOf_append, ha.closed]
      exact hb.nonneg v hv

theorem Nested.depthOf_eq {s : List Char} (h : Nested s) (k : Int) : depthOf k s = k := by
  have := depthOf_add k 0 s
  rw [h.closed] at this
  simpa using this

theorem Nested.le_depthOf {s u : List Char} (h : Nested s) (hu : u <+: s) (k : Int) :
    k ≤ depthOf k u := by
  have := depthOf_add k 0 u
  have := h.nonneg u hu
  simp only [Int.add_zero] at *
  omega

theorem Nested.bracket {s : List Char} (h : Nested s) : Nested ('[' :: (s ++ [']'])) where
  closed := by
    rw [depthOf_cons, depthOf_append, h.depthOf_eq]
    rfl
  nonneg u hu := by
    cases u with
    | nil => exact Int.le_refl 0
    | cons c u =>
      obtain ⟨rfl, ht⟩ := List.cons_prefix_cons.1 hu
      rw [depthOf_cons, show depthAfter 0 '[' = 1 from rfl]
      rcases List.prefix_concat_iff.1 ht with rfl | hs
      · rw [depthOf_append, h.depthOf_eq]
        decide
      · have := h.le_depthOf hs 1
        omega

theorem Nested.depthOf_pos {q q' z : List Char} (h : Nested (q ++ ']' :: q')) (hz : z <+: q') :
    0 < depthOf 0 (q ++ z) := by
  have hpre : q ++ ']' :: z <+: q ++ ']' :: q' :=
    (List.prefix_append_right_inj q).2 (List.cons_prefix_cons.2 ⟨rfl, hz⟩)
  have hn := h.nonneg _ hpre
  have hclose : depthAfter (depthOf 0 q) ']' = -1 + depthOf 0 q := by
    rw [depthAfter, if_neg (by decide), if_pos (by decide)]
    omega
  rw [depthOf_append, depthOf_cons, hclose, depthOf_add] at hn
  rw [depthOf_append]
  omega

theorem nested_intercalate {sep : List Char} {ps : List (List Char)} (hsep : Nested sep)
    (h : ∀ p ∈ ps, Nested p) :
    Nested (sep.intercalate ps) := by
  induction ps with
  | nil => exact nested_plain (by simp)
  | cons p ps ih =>
    have hp := h p (by simp)
    cases ps with
    | nil => simpa using hp
    | cons q ps =>
      rw [List.intercalate_cons_of_ne_nil (by simp)]
      exact (hp.append hsep).append (ih fun r hr => h r (by simp [hr]))

theorem sealed_of_pos {d : Char} {k : Int} {s : List Char} (h : ∀ u, u <+: s → 0 < depthOf k u) :
    Sealed d k s := by
  induction s generalizing k with
  | nil => trivial
  | cons c s ih =>
    have h0 : 0 < k := h [] (by simp)
    exact ⟨fun hc => by omega, ih fun u hu => h (c :: u) (List.cons_prefix_cons.2 ⟨rfl, hu⟩)⟩

theorem Nested.isSealed {s : List Char} (h : Nested s) (d : Char) {k : Int} (hk : 0 < k) :
    Sealed d k s :=
  sealed_of_pos fun _ hu => Int.lt_of_lt_of_le hk (h.le_depthOf hu k)

def Square (s : List Char) : Prop :=
  ∀ c ∈ s, (isOpen c = true → c = '[') ∧ (isClose c = true → c = ']')

theorem Square.depthOf_eq {s : List Char} (h : Square s) (k : Int) :
    depthOf k s = k + s.count '[' - s.count ']' := by
  induction s generalizing k with
  | nil => simp
  | cons c s ih =>
    obtain ⟨ho, hc⟩ := h c (by simp)
    rw [depthOf_cons, ih fun d hd => h d (by simp [hd]), depthAfter]
    by_cases h1 : isOpen c = true
    · obtain rfl := ho h1
      simp [isOpen]
      omega
    · by_cases h2 : isClose c = true
      · obtain rfl := hc h2
        simp [isOpen, isClose]
        omega
      · have h3 : c ≠ '[' := by
          rintro rfl
          exact h1 (by decide)
        have h4 : c ≠ ']' := by
          rintro rfl
          exact h2 (by decide)
        simp [h1, h2, h3, h4]

section Count

variable {c : Char}

theorem sum_count_extendHead (d : Char) (ls : List (List Char)) :
    ((extendHead d ls).map (List.count c)).sum = [d].count c + (ls.map (List.count c)).sum := by
  cases ls with
  | nil => simp [extendHead]
  | cons l ls =>
    simp only [extendHead, List.map_cons, List.sum_cons, List.count_cons, List.count_nil]
    omega

theorem sum_count_splitTopFrom {d : Char} (h : c ≠ d) (k : Int) (s : List Char) :
    ((splitTopFrom d k s).map (List.count c)).sum = s.count c := by
  induction s generalizing k with
  | nil => rfl
  | cons e s ih =>
    rw [splitTopFrom]
    split
    · next he =>
      obtain ⟨rfl, -⟩ := he
      simp [ih, h.symm]
    · rw [sum_count_extendHead, ih]
      simp only [List.count_cons, List.count_nil]
      omega

theorem sum_count_splitTrimmed (hc : c ≠ ',') (hb : isBlank c = false) (s : List Char) :
    ((splitTrimmed s).map (List.count c)).sum = s.count c := by
  have trimmed (ls : List (List Char)) :
      ((ls.map trim).map (List.count c)).sum = (ls.map (List.count c)).sum := by
    simp [Function.comp_def, count_trim hb]
  rw [splitTrimmed_eq, trimmed, splitTop, sum_count_splitTopFrom hc]

theorem sum_count_splitArgs (hc : c ≠ ',') (hb : isBlank c = false) (s : List Char) :
    ((splitArgs s).map (List.count c)).sum = s.count c := by
  have filtered (ls : List (List Char)) :
      ((ls.filter fun p => !p.isEmpty).map (List.count c)).sum = (ls.map (List.count c)).sum := by
    induction ls with
    | nil => rfl
    | cons l ls ih =>
      cases l with
      | nil => simpa using ih
      | cons e l => simpa using ih
  rw [splitArgs_eq, filtered, sum_count_splitTrimmed hc hb]

end Count

end TypedTemplate.Text
