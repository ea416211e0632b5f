import TypedTemplate.Proofs.Directive.Places

/-! Comments that are meant as annotations, and which of them are overlooked. A comment runs from
its opening sign to the next closing sign, whatever stands between them. One that begins with the
keyword is found exactly if no `#` stands in its body, so that any other is passed over in silence
unless some comment of the template cannot be read. -/
namespace TypedTemplate.Comment
open Text

def contentAt? (s : List Char) (p : Nat) : Option (List Char) :=
  (after? ['{', '#'] (s.drop p)).bind fun rest => (cut? ['#', '}'] rest).map Prod.fst

def annotation? (content : List Char) : Option (List Char) :=
  (after? keyword (trimStart content)).bind fun body => if body.isEmpty then none else some body

/-- The comment at an offset is meant as an annotation. -/
structure MeantAt (s : List Char) (p : Nat) (content body : List Char) : Prop where
  content_eq : contentAt? s p = some content
  body_eq : annotation? content = some body

/-- The reader reports a failure, or gives the comment at the offset with its whole text and what
its body says. -/
def Answered (filename text : String) (p : Nat) (content body : List Char) : Prop :=
  (∃ e, parseAll filename text = .error e) ∨
    ∃ cs, parseAll filename text = .ok cs ∧ ∃ c ∈ cs, c.position = placeAfter (text.toList.take p) ∧
      c.raw = String.ofList ('{' :: '#' :: (content ++ ['#', '}'])) ∧
        Directive.parse (trim body) = .ok c.directive

section Found

variable {s raw body content : List Char} {p : Nat}

theorem annotation?_append {w : List Char} (hw : ∀ c ∈ w, isBlank c = true) (hb : body ≠ []) :
    annotation? (w ++ (keyword ++ body)) = some body := by
  have hkey : trimStart (w ++ (keyword ++ body)) = keyword ++ body := by
    rw [trimStart, dropWhile_append_of_all hw]
    rfl
  rw [annotation?, hkey, after?_append, Option.bind_some, if_neg (by simpa using hb)]

theorem annotation?_eq_some (h : annotation? content = some body) :
    ∃ w, content = w ++ (keyword ++ body) ∧ (∀ c ∈ w, isBlank c = true) ∧ body ≠ [] := by
  obtain ⟨rest, hrest, hbody⟩ := Option.bind_eq_some_iff.1 h
  split at hbody
  · cases hbody
  · next hne =>
    obtain rfl := Option.some.inj hbody
    refine ⟨content.takeWhile isBlank, ?_, fun c hc => List.mem_takeWhile_imp hc, by
      simpa using hne⟩
    rw [← after?_eq_some hrest, trimStart, List.takeWhile_append_dropWhile]

theorem StandsAt.meantAt (h : StandsAt s p raw body) :
    ∃ content, MeantAt s p content body ∧ raw = '{' :: '#' :: (content ++ ['#', '}']) := by
  obtain ⟨w, rest, rfl, hbegin⟩ := h
  have hno : '#' ∉ w ++ (keyword ++ body) := by
    simp only [List.mem_append, not_or]
    exact ⟨fun hm => absurd (hbegin.blank _ hm) (by decide), by decide, hbegin.unclosed⟩
  have hdrop : s.drop p = ['{', '#'] ++ ((w ++ (keyword ++ body)) ++ ('#' :: ['}'] ++ rest)) := by
    rw [hbegin.eq, written_eq]
    simp
  refine ⟨w ++ (keyword ++ body), ⟨?_, annotation?_append hbegin.blank hbegin.filled⟩,
    written_eq w body⟩
  rw [contentAt?, hdrop, after?_append, Option.bind_some, cut?_of_not_mem hno]
  rfl

theorem MeantAt.standsAt (h : MeantAt s p content body) (hbody : '#' ∉ body) :
    StandsAt s p ('{' :: '#' :: (content ++ ['#', '}'])) body := by
  obtain ⟨rest, hrest, hfirst⟩ := Option.bind_eq_some_iff.1 h.content_eq
  obtain ⟨⟨before, tail⟩, hcut, hbefore⟩ := Option.map_eq_some_iff.1 hfirst
  obtain rfl : before = content := hbefore
  obtain ⟨w, rfl, hblank, hne⟩ := annotation?_eq_some h.body_eq
  refine ⟨w, tail, (written_eq w body).symm, ?_, hblank, hbody, hne⟩
  rw [after?_eq_some hrest, cut?_eq_append hcut, written_eq]
  simp

theorem MeantAt.hash_not_mem (h : MeantAt s p content body) {b : List Char}
    (hp : StandsAt s p raw b) : '#' ∉ body := by
  obtain ⟨content', hmeant, -⟩ := hp.meantAt
  obtain rfl : content' = content := Option.some.inj (hmeant.content_eq.symm.trans h.content_eq)
  obtain rfl : b = body := Option.some.inj (hmeant.body_eq.symm.trans h.body_eq)
  obtain ⟨w, rest, -, hbegin⟩ := hp
  exact hbegin.unclosed

end Found

section Reader

variable {filename text : String}

theorem mem_scan_start {s : List Char} {found : Position × List Char × List Char} :
    found ∈ scan .start s ↔ ∃ q, StandsAt s q found.2.1 found.2.2 ∧
      found.1 = placeAfter (s.take q) := by
  rw [scan_start, List.mem_filterMap]
  constructor
  · rintro ⟨q, -, hq⟩
    exact ⟨q, foundAt_eq_some_iff.1 hq⟩
  · rintro ⟨q, hq⟩
    exact ⟨q, List.mem_range.2 hq.1.lt_length, foundAt_eq_some_iff.2 hq⟩

theorem mem_of_parseAll {cs : List Comment} (h : parseAll filename text = .ok cs) (c : Comment) :
    c ∈ cs ↔ ∃ q raw body, StandsAt text.toList q raw body ∧
      c.position = placeAfter (text.toList.take q) ∧
      c.raw = String.ofList raw ∧ Directive.parse (trim body) = .ok c.directive := by
  have hmap := map_eq_of_mapM h
  have hmem : c ∈ cs ↔ ∃ found ∈ scan .start text.toList, read filename found = .ok c := by
    rw [← List.mem_map, hmap, List.mem_map]
    simp
  rw [hmem]
  constructor
  · rintro ⟨found, hfound, hread⟩
    obtain ⟨q, hq, hplace⟩ := mem_scan_start.1 hfound
    obtain ⟨hposition, hraw, hdirective⟩ := read_eq_ok_iff.1 hread
    exact ⟨q, _, _, hq, hposition.trans hplace, hraw, hdirective⟩
  · rintro ⟨q, raw, body, hq, hposition, hraw, hdirective⟩
    exact ⟨(_, raw, body), mem_scan_start.2 ⟨q, hq, rfl⟩,
      read_eq_ok_iff.2 ⟨hposition, hraw, hdirective⟩⟩

/-- Some comment stands in the text and cannot be read. -/
def Unreadable (text : String) : Prop :=
  ∃ q raw body e, StandsAt text.toList q raw body ∧ Directive.parse (trim body) = .error e

theorem parseAll_error_iff : (∃ e, parseAll filename text = .error e) ↔ Unreadable text := by
  constructor
  · rintro ⟨e, he⟩
    rw [parseAll, scan_start] at he
    obtain ⟨_, q, _, -, -, found, hfound, hread⟩ := exists_of_mapM_filterMap he
    exact ⟨q, _, _, _, (foundAt_eq_some_iff.1 hfound).1, (read_eq_error_iff.1 hread).2.2⟩
  · rintro ⟨q, raw, body, e, hq, he⟩
    cases h : parseAll filename text with
    | error f => exact ⟨f, rfl⟩
    | ok cs =>
      have hfound : (placeAfter (text.toList.take q), raw, body) ∈ scan .start text.toList :=
        mem_scan_start.2 ⟨q, hq, rfl⟩
      have hread := List.mem_map_of_mem (f := read filename) hfound
      rw [map_eq_of_mapM h] at hread
      obtain ⟨c, -, hc⟩ := List.mem_map.1 hread
      have hboth := he.symm.trans (read_eq_ok_iff.1 hc.symm).2.2
      cases hboth

end Reader

/-- A comment that is meant as an annotation is answered exactly if its body holds no `#`, or some
comment that is found cannot be read. -/
theorem answered_iff {filename text : String} {p : Nat} {content body : List Char}
    (h : MeantAt text.toList p content body) :
    Answered filename text p content body ↔ '#' ∉ body ∨ Unreadable text := by
  rw [Answered, parseAll_error_iff, or_comm]
  by_cases hu : Unreadable text
  · simp [hu]
  obtain ⟨cs, hcs⟩ : ∃ cs, parseAll filename text = .ok cs := by
    cases hp : parseAll filename text with
    | ok cs => exact ⟨cs, rfl⟩
    | error e => exact absurd (parseAll_error_iff.1 ⟨e, hp⟩) hu
  simp only [hu, or_false, hcs, Except.ok.injEq, exists_eq_left', mem_of_parseAll hcs]
  constructor
  · rintro ⟨c, ⟨q, raw, b, hq, hposition, -, -⟩, hplace, -, -⟩
    -- a place is that of one offset, so that the comment stands where it is meant
    have hp : p < text.toList.length := by
      obtain ⟨rest, hrest, -⟩ := Option.bind_eq_some_iff.1 h.content_eq
      have hlen := congrArg List.length (after?_eq_some hrest)
      simp only [List.length_drop, List.length_append, List.length_cons] at hlen
      omega
    obtain rfl : q = p := placeAfter_take_inj hq.lt_length.le hp.le (hposition.symm.trans hplace)
    exact h.hash_not_mem hq
  · intro hbody
    have hstands := h.standsAt hbody
    cases hd : Directive.parse (trim body) with
    | error e => exact absurd ⟨p, _, body, e, hstands, hd⟩ hu
    | ok d =>
      exact ⟨⟨_, _, d⟩, ⟨p, _, body, hstands, rfl, rfl, hd⟩, rfl, rfl, rfl⟩

def secondLine : String := "\x7b#\n\x7b# typja:var n: int #\x7d"

theorem answered_iff_secondLine :
    MeantAt secondLine.toList 3 " typja:var n: int ".toList "var n: int ".toList ∧
      (Answered "t.html" secondLine 3 " typja:var n: int ".toList "var n: int ".toList ↔
        '#' ∉ "var n: int ".toList ∨ Unreadable secondLine) := by
  have h : MeantAt secondLine.toList 3 " typja:var n: int ".toList "var n: int ".toList :=
    ⟨by decide, by decide⟩
  exact ⟨h, answered_iff h⟩

def colourDefault : String := "\x7b# typja:macro tag(c: str = '#fff') -> str #\x7d"

theorem colourDefault_not_answered :
    MeantAt colourDefault.toList 0 " typja:macro tag(c: str = '#fff') -> str ".toList
        "macro tag(c: str = '#fff') -> str ".toList ∧
      ¬ Answered "t.html" colourDefault 0 " typja:macro tag(c: str = '#fff') -> str ".toList
        "macro tag(c: str = '#fff') -> str ".toList := by
  have hscan : scan .start colourDefault.toList = [] := by decide +kernel
  have hparse : parseAll "t.html" colourDefault = .ok [] := by
    rw [parseAll, hscan]
    rfl
  refine ⟨⟨by decide, by decide⟩, ?_⟩
  rintro (⟨e, he⟩ | ⟨cs, hcs, c, hc, -⟩)
  · cases hparse.symm.trans he
  · obtain rfl : [] = cs := Except.ok.inj (hparse.symm.trans hcs)
    cases hc

end TypedTemplate.Comment
