import Mathlib.Data.List.Forall2
import Mathlib.Data.List.Range
import TypedTemplate.Proofs.Directive.Comment
import TypedTemplate.Proofs.Lists

/-! Where the comments of a text are found. An offset holds a comment if the text reads as one from
there on. The scan finds exactly these offsets, in order, and gives each its line and its column; no
comment reaches into the next. -/
namespace TypedTemplate.Comment
open Text

/-- A comment stands at an offset of a text: `{#`, blanks, the keyword, a body of at least one
character without `#`, and `#}`. -/
def StandsAt (s : List Char) (p : Nat) (raw body : List Char) : Prop :=
  ∃ w rest, raw = written w body ∧ Begins (s.drop p) w body rest

section Places

def lastFeed (u : List Char) : Int :=
  match cutLast? '\n' u with
  | some (front, _) => front.length
  | none => -1

/-- The place behind a text: lines are counted by line feeds, columns from the last of them. -/
def placeAfter (u : List Char) : Position := ⟨1 + u.count '\n', u.length - lastFeed u⟩

theorem cutLast?_concat {c d : Char} (h : d ≠ c) (u : List Char) :
    cutLast? c (u ++ [d]) = (cutLast? c u).map fun (a, b) => (a, b ++ [d]) := by
  induction u with
  | nil => simp [cutLast?, h]
  | cons e u ih =>
    rw [List.cons_append, cutLast?, ih, cutLast?]
    cases cutLast? c u with
    | none => by_cases he : e = c <;> simp [he]
    | some found => rfl

theorem lastFeed_concat (u : List Char) (c : Char) :
    lastFeed (u ++ [c]) = if c = '\n' then (u.length : Int) else lastFeed u := by
  by_cases hc : c = '\n'
  · rw [if_pos hc, hc, lastFeed, cutLast?_append (b := []) (by simp)]
  · rw [if_neg hc, lastFeed, lastFeed, cutLast?_concat hc]
    cases cutLast? '\n' u <;> rfl

theorem placeAfter_concat (u : List Char) (c : Char) :
    placeAfter (u ++ [c]) = (placeAfter u).advance c := by
  rw [placeAfter, placeAfter, Position.advance, lastFeed_concat]
  by_cases hc : c = '\n'
  · simp only [hc, if_true, List.count_append, List.count_singleton_self, List.length_append,
      List.length_singleton, Position.mk.injEq]
    omega
  · simp only [hc, if_false, List.count_append, List.count_singleton, beq_iff_eq,
      List.length_append, List.length_singleton, Position.mk.injEq]
    omega

theorem placeAfter_append (u v : List Char) :
    placeAfter (u ++ v) = v.foldl Position.advance (placeAfter u) := by
  induction v generalizing u with
  | nil => rw [List.append_nil]; rfl
  | cons c v ih => rw [List.append_cons, ih, placeAfter_concat, List.foldl_cons]

def Before (a b : Position) : Prop := a.line < b.line ∨ a.line = b.line ∧ a.col < b.col

theorem before_advance (a : Position) (c : Char) : Before a (a.advance c) := by
  rw [Position.advance]
  split
  · exact .inl (Int.lt_succ a.line)
  · exact .inr ⟨rfl, Int.lt_succ a.col⟩

theorem before_placeAfter (u : List Char) {v : List Char} (hv : v ≠ []) :
    Before (placeAfter u) (placeAfter (u ++ v)) := by
  induction v using List.reverseRecOn with
  | nil => exact absurd rfl hv
  | append_singleton v c ih =>
    have hstep := before_advance (placeAfter (u ++ v)) c
    rw [← List.append_assoc, placeAfter_concat]
    by_cases hempty : v = []
    · simpa [hempty] using hstep
    · have hbefore := ih hempty
      unfold Before at *
      omega

theorem placeAfter_take_inj {s : List Char} {p q : Nat} (hp : p ≤ s.length) (hq : q ≤ s.length)
    (h : placeAfter (s.take p) = placeAfter (s.take q)) : p = q := by
  have hlt : ∀ {p q : Nat}, p < q → q ≤ s.length →
    placeAfter (s.take p) ≠ placeAfter (s.take q) := by
    intro p q hpq hq heq
    obtain ⟨v, hv⟩ : s.take p <+: s.take q := List.take_prefix_take_left hpq.le
    have hne : v ≠ [] := by
      rintro rfl
      have := congrArg List.length hv
      simp only [List.append_nil, List.length_take] at this
      omega
    have hbefore := before_placeAfter (s.take p) hne
    rw [hv, heq, Before] at hbefore
    omega
  rcases Nat.lt_trichotomy p q with hpq | hpq | hqp
  · exact absurd h (hlt hpq hq)
  · exact hpq
  · exact absurd h.symm (hlt hqp hp)

end Places

section Offsets

variable {s raw raw' body body' w b rest : List Char} {p q : Nat}

theorem standsAt_iff : StandsAt s p raw body ↔ atStart? (s.drop p) = some (raw, body) := by
  constructor
  · rintro ⟨w, rest, rfl, hbegin⟩
    exact hbegin.atStart?_eq
  · exact atStart?_eq_some

theorem StandsAt.lt_length (h : StandsAt s p raw body) : p < s.length := by
  obtain ⟨w, rest, -, hbegin⟩ := h
  have hlen := congrArg List.length hbegin.eq
  simp only [List.length_drop, written, List.cons_append, List.length_cons] at hlen
  omega

theorem written_eq (w b : List Char) :
    written w b = '{' :: '#' :: ((w ++ (keyword ++ b)) ++ ['#', '}']) := by
  simp [written]

theorem Begins.body?_drop_eq_none (h : Begins s w b rest) {k : Nat} (hk : 0 < k)
    (hlen : k < (written w b).length) :
    body? (s.drop k) = none := by
  have hno : '#' ∉ w ++ (keyword ++ b) := by
    simp only [List.mem_append, not_or]
    exact ⟨fun hm => absurd (h.blank _ hm) (by decide), by decide, h.unclosed⟩
  rw [written_eq] at hlen
  have hs : s = '{' :: '#' :: ((w ++ (keyword ++ b)) ++ '#' :: '}' :: rest) := by
    rw [h.eq, written_eq]
    simp
  generalize w ++ (keyword ++ b) = z at hno hlen hs
  have hfirst {c : Char} {t : List Char} (hc : c ≠ '{') : body? (c :: t) = none :=
    body?_eq_none fun e r ht => absurd (List.cons.inj ht).1 hc
  match k, hk with
  | 1, _ =>
    rw [hs]
    exact hfirst (by decide)
  | k + 2, _ =>
    simp only [List.length_cons, List.length_append, List.length_nil] at hlen
    rw [hs, List.drop_succ_cons, List.drop_succ_cons, List.drop_append]
    rcases Nat.lt_or_ge z.length k with hlt | hle
    · obtain rfl : k = z.length + 1 := by omega
      rw [List.drop_eq_nil_of_le (Nat.le_succ _), Nat.add_sub_cancel_left]
      exact hfirst (by decide)
    · rw [Nat.sub_eq_zero_of_le hle]
      exact body?_append_close (fun hm => hno (List.mem_of_mem_drop hm)) rest

theorem StandsAt.add_length_le (h : StandsAt s p raw body) (h' : StandsAt s q raw' body')
    (hpq : p < q) :
    p + raw.length ≤ q := by
  by_contra hlt
  obtain ⟨w, rest, rfl, hbegin⟩ := h
  obtain ⟨w', rest', rfl, hbegin'⟩ := h'
  have hnone := hbegin.body?_drop_eq_none (k := q - p) (by omega) (by omega)
  rw [List.drop_drop, Nat.add_sub_cancel' hpq.le, hbegin'.body?_eq] at hnone
  cases hnone

end Offsets

def foundAt (s : List Char) (p : Nat) : Option (Position × List Char × List Char) :=
  (atStart? (s.drop p)).map fun found => (placeAfter (s.take p), found)

theorem foundAt_eq_some_iff {s : List Char} {p : Nat} {found : Position × List Char × List Char} :
    foundAt s p = some found ↔ StandsAt s p found.2.1 found.2.2 ∧
      found.1 = placeAfter (s.take p) := by
  obtain ⟨place, raw, body⟩ := found
  rw [standsAt_iff, foundAt, Option.map_eq_some_iff]
  constructor
  · rintro ⟨found, hfound, heq⟩
    cases heq
    exact ⟨hfound, rfl⟩
  · rintro ⟨hfound, rfl⟩
    exact ⟨_, hfound, rfl⟩

theorem Begins.filterMap_range {s w b rest : List Char} (h : Begins s w b rest)
    (f : Nat → List Char × List Char → Position × List Char × List Char) :
    ((List.range (written w b).length).filterMap fun i => (atStart? (s.drop i)).map (f i)) =
    [f 0 (written w b, b)] := by
  have hnone : ∀ i ∈ List.range ((written w b).length - 1), (atStart? (s.drop (i + 1))).map
    (f (i + 1)) = none := by
    intro i hi
    have hinside := h.body?_drop_eq_none (Nat.succ_pos i) (by have := List.mem_range.1 hi; omega)
    rw [Option.map_eq_none_iff]
    simpa [body?] using hinside
  rw [show (written w b).length = (written w b).length - 1 + 1 from rfl, List.range_succ_eq_map,
    List.filterMap_cons, List.filterMap_map, List.drop_zero, h.atStart?_eq]
  exact congrArg _ (List.filterMap_eq_nil_iff.2 hnone)

theorem scan_placeAfter (u s : List Char) :
    scan (placeAfter u) s =
      (List.range s.length).filterMap fun i => (atStart? (s.drop i)).map fun found =>
        (placeAfter (u ++ s.take i), found) := by
  induction s using scan_induction generalizing u with
  | nil => rfl
  | plain c s hat ih =>
    rw [scan_cons_of_none hat, ← placeAfter_concat, ih, List.length_cons, List.range_succ_eq_map,
      List.filterMap_cons, List.filterMap_map]
    simp [hat, Function.comp_def]
  | comment s w b rest hbegin ih =>
    have hfirst := hbegin.filterMap_range fun i found => (placeAfter (u ++ s.take i), found)
    rw [hbegin.scan_eq_cons, ← placeAfter_append, ih]
    conv => rhs; rw [hbegin.eq, List.length_append, List.range_add, List.filterMap_append,
      ← hbegin.eq]
    rw [hfirst, List.filterMap_map]
    simp [hbegin.eq, List.take_length_add_append]

theorem scan_start (s : List Char) : scan .start s = (List.range s.length).filterMap (foundAt s) :=
  scan_placeAfter [] s

theorem read_eq_ok_iff {filename : String} {found : Position × List Char × List Char}
    {c : Comment} :
    read filename found = .ok c ↔
      c.position = found.1 ∧ c.raw = String.ofList found.2.1 ∧
        Directive.parse (trim found.2.2) = .ok c.directive := by
  obtain ⟨position, raw, directive⟩ := c
  rw [read]
  cases Directive.parse (trim found.2.2) with
  | error e => simp
  | ok d => simp [eq_comm]

theorem read_eq_error_iff {filename : String} {found : Position × List Char × List Char}
    {e : Failure} :
    read filename found = .error e ↔
      e.filename = filename ∧ e.position = found.1 ∧
        Directive.parse (trim found.2.2) = .error e.cause := by
  obtain ⟨name, position, cause⟩ := e
  rw [read]
  cases Directive.parse (trim found.2.2) with
  | error e => simp [eq_comm]
  | ok d => simp

theorem exists_foundAt_iff {s : List Char} {p : Nat} :
    p < s.length ∧ (foundAt s p).isSome ↔ ∃ raw body, StandsAt s p raw body := by
  rw [Option.isSome_iff_exists]
  constructor
  · rintro ⟨-, found, hfound⟩
    exact ⟨_, _, (foundAt_eq_some_iff.1 hfound).1⟩
  · rintro ⟨raw, body, hp⟩
    exact ⟨hp.lt_length, (_, raw, body), foundAt_eq_some_iff.2 ⟨hp, rfl⟩⟩

theorem mem_front_of_lt {n p q : Nat} {front back : List Nat}
    (h : List.range n = front ++ p :: back) (hq : q < n) (hqp : q < p) : q ∈ front := by
  have hsorted : (front ++ p :: back).Pairwise (· < ·) := h ▸ List.pairwise_lt_range
  have hback := (List.pairwise_cons.1 (List.pairwise_append.1 hsorted).2.1).1
  have hmem : q ∈ front ++ p :: back := h ▸ List.mem_range.2 hq
  rcases List.mem_append.1 hmem with hmem | hmem
  · exact hmem
  · rcases List.mem_cons.1 hmem with rfl | hmem
    · exact absurd hqp (Nat.lt_irrefl _)
    · exact absurd hqp (Nat.lt_asymm (hback q hmem))

/-- The comments of a template are those that stand at its offsets, each once and in order, with its
text, its line and its column, or the first of them that cannot be read is named. No two overlap,
and a line and a column name one offset. -/
theorem parseAll_places (filename content : String) :
    (∀ cs, parseAll filename content = .ok cs →
      ∃ ps : List Nat, ps.Pairwise (· < ·) ∧
        (∀ p, p ∈ ps ↔ ∃ raw body, StandsAt content.toList p raw body) ∧
        List.Forall₂ (fun p c => ∃ raw body, StandsAt content.toList p raw body ∧
          c.raw = String.ofList raw ∧
          c.position = placeAfter (content.toList.take p) ∧
            Directive.parse (trim body) = .ok c.directive) ps cs) ∧
    (∀ e, parseAll filename content = .error e → e.filename = filename ∧
      ∃ p raw body, StandsAt content.toList p raw body ∧ e.position = placeAfter
        (content.toList.take p) ∧ Directive.parse (trim body) = .error e.cause ∧
        ∀ q < p, ∀ raw' body', StandsAt content.toList q raw' body' →
          ∃ d, Directive.parse (trim body') = .ok d) ∧
    ∀ p q raw raw' body body', StandsAt content.toList p raw body →
      StandsAt content.toList q raw' body' →
      (p = q → raw = raw' ∧ body = body') ∧ (p < q → p + raw.length ≤ q) ∧
        (placeAfter (content.toList.take p) = placeAfter (content.toList.take q) → p = q) := by
  have hparse : parseAll filename content =
      ((List.range content.toList.length).filterMap (foundAt content.toList)).mapM
        (read filename) := by
    rw [parseAll, scan_start]
  generalize content.toList = s at hparse ⊢
  refine ⟨fun cs hcs => ?_, fun e he => ?_,
    fun p q raw raw' body body' hp hq => ⟨?_, hp.add_length_le hq, ?_⟩⟩
  · refine ⟨_, List.pairwise_lt_range.filter _, fun p => ?_,
      (forall₂_of_mapM_filterMap (hparse ▸ hcs)).imp ?_⟩
    · rw [List.mem_filter, List.mem_range, exists_foundAt_iff]
    · rintro p c ⟨found, hfound, hread⟩
      obtain ⟨hp, hplace⟩ := foundAt_eq_some_iff.1 hfound
      obtain ⟨hposition, hraw, hdirective⟩ := read_eq_ok_iff.1 hread
      exact ⟨_, _, hp, hraw, hposition.trans hplace, hdirective⟩
  · obtain ⟨front, p, back, hrange, hfront, found, hfound, hread⟩ :=
      exists_of_mapM_filterMap (hparse ▸ he)
    obtain ⟨hp, hplace⟩ := foundAt_eq_some_iff.1 hfound
    obtain ⟨hname, hposition, hcause⟩ := read_eq_error_iff.1 hread
    refine ⟨hname, p, _, _, hp, hposition.trans hplace, hcause, fun q hqp raw' body' hq => ?_⟩
    obtain ⟨c, hc⟩ := hfront q (mem_front_of_lt hrange hq.lt_length hqp) _
      (foundAt_eq_some_iff.2 ⟨hq, rfl⟩ : foundAt s q = some (_, raw', body'))
    exact ⟨_, (read_eq_ok_iff.1 hc).2.2⟩
  · rintro rfl
    simpa using (standsAt_iff.1 hp).symm.trans (standsAt_iff.1 hq)
  · exact placeAfter_take_inj hp.lt_length.le hq.lt_length.le

-- an opening sign before a comment or at its end opens none
example :
    (scan .start "\x7b# \x7b#typja:a\x7b#\x7d\n\x7b# typja:b #\x7d".toList).map
      (fun found => (found.1.line, found.1.col)) = [(1, 4), (2, 1)] := by
  decide +kernel

end TypedTemplate.Comment
