import TypedTemplate.Proofs.Directive.Comment
import TypedTemplate.Proofs.Style.Row

/-! Templates as prose and declaring comments. The text of a sheet is a text of cells in which the
heads of old unions stand in places only, so the repair of its lines is a repair of the places of
its types. -/
namespace TypedTemplate.Style
open Text TypeExpr Directive

/-- A comment with a declaration: blanks, the keyword, blanks and the declaration. -/
structure Note where
  gap : List Char
  pad : List Char
  decl : Declaration

/-- Notes with prose before each of them, and prose behind the last. Prose may have places too. -/
structure Sheet where
  notes : List (List Cell × Note)
  rest : List Cell

def Note.text (n : Note) : List Char := Comment.written n.gap (n.pad ++ n.decl.text)

namespace Sheet

def text (s : Sheet) : List Char :=
  s.notes.flatMap (fun p => textOf p.1 ++ p.2.text) ++ textOf s.rest

/-- The places of the declared types. -/
def slots (s : Sheet) : List Slot := s.notes.flatMap fun p => p.2.decl.slots

/-- A sheet with other texts in its places. -/
def map (g : Slot → Slot) (s : Sheet) : Sheet where
  notes := s.notes.map fun p => (p.1.map (Cell.map g), { p.2 with decl := p.2.decl.map g })
  rest := s.rest.map (Cell.map g)

end Sheet

def chars (x : List Char) : List Cell := x.map .char

def slotCells (s : Slot) : List Cell := if Quiet s.text then chars s.text else [.place s]

def fieldCells (f : Field) : List Cell :=
  chars (f.name ++ ':' :: f.gap) ++ (slotCells f.slot ++ chars f.rest)

def fieldsCells (fs : List Field) : List Cell := (chars [',']).intercalate (fs.map fieldCells)

def declarationCells : Declaration → List Cell
  | .vars fs => chars varWord ++ fieldsCells fs
  | .filter f => chars filterWord ++ fieldCells f
  | .signature n ps mid gap r rest => chars (macroWord ++ (n ++ ['('])) ++ (fieldsCells ps ++
      (chars (')' :: (mid ++ (arrow ++ gap))) ++ (slotCells r ++ chars rest)))

def Note.cells (n : Note) : List Cell :=
  chars ('{' :: '#' :: (n.gap ++ (Comment.keyword ++ n.pad))) ++
    (declarationCells n.decl ++ chars ['#', '}'])

def Sheet.cells (s : Sheet) : List Cell := s.notes.flatMap (fun p => p.1 ++ p.2.cells) ++ s.rest

theorem fieldsCells_cons (f f' : Field) (fs : List Field) :
    fieldsCells (f :: f' :: fs) = fieldCells f ++ (chars [','] ++ fieldsCells (f' :: fs)) := by
  rw [fieldsCells, List.map_cons, List.intercalate_cons_of_ne_nil (by simp), List.append_assoc]
  rfl

section Text

variable {g : Slot → Slot}

theorem map_chars (x : List Char) : (chars x).map (Cell.map g) = chars x := by
  rw [chars, List.map_map]
  rfl

theorem textOf_chars (x : List Char) : textOf (chars x) = x := by
  induction x with
  | nil => rfl
  | cons c x ih => exact congrArg (c :: ·) ih

theorem textOf_map_append (cs ds : List Cell) :
    textOf ((cs ++ ds).map (Cell.map g)) = textOf (cs.map (Cell.map g)) ++ textOf
      (ds.map (Cell.map g)) := by
  rw [List.map_append, textOf_append]

variable (hg : ∀ s : Slot, Quiet s.text → (g s).text = s.text)
include hg

theorem textOf_slotCells (s : Slot) : textOf ((slotCells s).map (Cell.map g)) = (g s).text := by
  rw [slotCells]
  split
  · next hq => rw [map_chars, textOf_chars, hg s hq]
  · simp [textOf, Cell.map, Cell.text]

theorem textOf_fieldCells (f : Field) :
    textOf ((fieldCells f).map (Cell.map g)) = (f.map g).text := by
  rw [fieldCells, textOf_map_append, textOf_map_append, map_chars, map_chars, textOf_chars,
    textOf_chars, textOf_slotCells hg]
  simp [Field.text, Field.map]

theorem textOf_fieldsCells (fs : List Field) :
    textOf ((fieldsCells fs).map (Cell.map g)) = [','].intercalate
      ((fs.map (Field.map g)).map Field.text) := by
  induction fs with
  | nil => rfl
  | cons f fs ih =>
    cases fs with
    | nil => simpa [fieldsCells] using textOf_fieldCells hg f
    | cons f' fs =>
      rw [fieldsCells_cons, textOf_map_append, textOf_map_append, map_chars, textOf_chars,
        textOf_fieldCells hg, ih,
        List.map_cons (a := f), List.map_cons (a := f.map g),
          List.intercalate_cons_of_ne_nil (by simp), List.append_assoc]

theorem textOf_declarationCells (d : Declaration) :
    textOf ((declarationCells d).map (Cell.map g)) = (d.map g).text := by
  cases d with
  | vars fs =>
    rw [declarationCells, textOf_map_append, map_chars, textOf_chars, textOf_fieldsCells hg]; rfl
  | filter f =>
    rw [declarationCells, textOf_map_append, map_chars, textOf_chars, textOf_fieldCells hg]; rfl
  | signature n ps mid gap r rest =>
    simp only [declarationCells, textOf_map_append, map_chars, textOf_chars, textOf_fieldsCells hg,
      textOf_slotCells hg]
    simp [Declaration.map, Declaration.text]

theorem Note.textOf_cells (n : Note) :
    textOf (n.cells.map (Cell.map g)) = Comment.written n.gap (n.pad ++ (n.decl.map g).text) := by
  simp only [Note.cells, textOf_map_append, map_chars, textOf_chars, textOf_declarationCells hg]
  simp [Comment.written]

theorem Sheet.textOf_cells (s : Sheet) : textOf (s.cells.map (Cell.map g)) = (s.map g).text := by
  obtain ⟨notes, rest⟩ := s
  rw [Sheet.cells, textOf_map_append, Sheet.text]
  refine congrArg (· ++ textOf (rest.map (Cell.map g))) ?_
  induction notes with
  | nil => rfl
  | cons p notes ih =>
    rw [List.flatMap_cons, textOf_map_append, textOf_map_append, Note.textOf_cells hg, ih]
    rfl

end Text

section Clear

variable {cs : List Cell}

def Apart (cs : List Cell) : Prop := ∀ c ∈ (textOf cs).head?, isHeadChar c = false

theorem Apart.append {ds : List Cell} (hd : Apart ds) (ha : Apart cs) : Apart (ds ++ cs) := by
  intro c hc
  rw [textOf_append, List.head?_append] at hc
  rcases Option.or_eq_some_iff.1 hc with hc | ⟨-, hc⟩
  · exact hd c hc
  · exact ha c hc

theorem isHeadChar_of_isBlank {c : Char} (h : isBlank c = true) : isHeadChar c = false := by
  by_contra hc
  have hmem : c ∈ heads.flatten := by simpa [isHeadChar] using hc
  have hblank : ∀ d ∈ heads.flatten, isBlank d = false := by decide
  rw [hblank c hmem] at h
  exact absurd h (by decide)

theorem textOf_chars_append (x : List Char) (cs : List Cell) :
    textOf (chars x ++ cs) = x ++ textOf cs := by
  rw [textOf_append, textOf_chars]

theorem not_prefix_append {head x y : List Char} (hh : head ∈ heads) (hne : x ≠ [])
    (hx : ¬ head <+: x)
    (h : (∀ c ∈ x.getLast?, isHeadChar c = false) ∨ ∀ c ∈ y.head?, isHeadChar c = false) :
    ¬ head <+: x ++ y := by
  intro hp
  rcases prefix_append_cases hp with hp | ⟨v, rfl, hv⟩
  · exact hx hp
  · cases v with
    | nil => exact hx (by rw [List.append_nil])
    | cons d v =>
      rcases h with hlast | hy
      · have hfalse := hlast (x.getLast hne) (List.getLast?_eq_getLast_of_ne_nil hne)
        rw [isHeadChar_of_mem hh (List.mem_append_left _ (List.getLast_mem hne))] at hfalse
        exact absurd hfalse (by decide)
      · obtain ⟨t, ht⟩ := hv
        have hfalse := hy d (by simp [← ht])
        rw [isHeadChar_of_mem hh (by simp)] at hfalse
        exact absurd hfalse (by decide)

theorem clear_chars {x : List Char} (hq : Quiet x)
    (hend : (∀ c ∈ x.getLast?, isHeadChar c = false) ∨ Apart cs)
    (h : Clear cs) : Clear (chars x ++ cs) := by
  induction x with
  | nil => exact h
  | cons c x ih =>
    refine ⟨fun head hh => ?_,
      ih (fun head hh hin => hq head hh (hin.trans (List.suffix_cons _ _).isInfix)) ?_⟩
    · have := not_prefix_append hh (by simp) (fun hp => hq head hh hp.isInfix) hend
      rw [List.cons_append, ← textOf_chars_append] at this
      exact this
    · refine hend.imp_left fun hlast d hd => hlast d ?_
      rw [List.getLast?_cons, Option.mem_def.1 hd]
      rfl

theorem Clear.append {ds : List Cell} (hd : Clear ds) (ha : Apart cs) (h : Clear cs) :
    Clear (ds ++ cs) := by
  induction ds with
  | nil => exact h
  | cons e ds ih =>
    cases e with
    | char c =>
      refine ⟨fun head hh => ?_, ih hd.2⟩
      have := not_prefix_append hh (by simp) (hd.1 head hh) (.inr ha)
      rw [List.cons_append, ← textOf_append] at this
      exact this
    | place t =>
      have happ : Apart (ds ++ cs) := Apart.append hd.1.2 ha
      exact ⟨⟨hd.1.1, happ⟩, ih hd.2⟩

theorem quiet_of_not_mem {x : List Char} (h : '[' ∉ x) : Quiet x := fun head hh hin => by
  have hopen : ∀ head ∈ heads, '[' ∈ head := by decide
  exact h (hin.subset (hopen head hh))

theorem shut_spelling {t : TypeExpr} {x : List Char} (h : Spelling t x) : Shut x := by
  intro head hh u hu
  by_contra hclose
  obtain ⟨p, rfl⟩ := hu
  have hsq := square_of_chars (chars_spelling h)
  have hnonneg := (nested_spelling h).nonneg p (List.prefix_append _ _)
  have hclosed := (nested_spelling h).closed
  have hhead : ∀ d ∈ heads, d.count '[' = 1 ∧ d.count ']' = 0 := by decide
  have hopen := hhead head hh
  rw [Square.depthOf_eq fun c hc => hsq c (by simp [hc])] at hnonneg
  rw [hsq.depthOf_eq, List.count_append, List.count_append, List.count_append, List.count_append,
    hopen.1, hopen.2, List.count_eq_zero.2 hclose] at hclosed
  omega

theorem clear_slotCells {s : Slot} (hs : Typed s.text) (ha : Apart cs) (h : Clear cs) :
    Clear (slotCells s ++ cs) := by
  rw [slotCells]
  split
  · next hq => exact clear_chars hq (.inr ha) h
  · next hq =>
    cases hs with
    | quiet hs => exact absurd hs hq
    | spelling ht => exact ⟨⟨shut_spelling ht, ha⟩, h⟩

theorem apart_chars {x : List Char} (hx : ∀ c ∈ x.head?, isHeadChar c = false) (ha : Apart cs) :
    Apart (chars x ++ cs) := by
  refine Apart.append ?_ ha
  rwa [Apart, textOf_chars]

theorem last_apart {c : Char} {b : List Char} (hc : isHeadChar c = false)
    (hb : ∀ d ∈ b, isBlank d = true) (u : List Char) :
    ∀ d ∈ (u ++ c :: b).getLast?, isHeadChar d = false := by
  intro d hd
  rw [List.getLast?_append, List.getLast?_cons, Option.some_or, Option.mem_some_iff] at hd
  cases hl : b.getLast? with
  | none => simpa [hl, ← hd] using hc
  | some e =>
    have := isHeadChar_of_isBlank (hb e (List.mem_of_getLast? hl))
    simpa [hl, ← hd] using this

theorem apart_cons {c : Char} (hc : isHeadChar c = false) (x : List Char) :
    Apart (chars (c :: x) ++ cs) := by
  intro d hd
  rw [textOf_chars_append, List.cons_append, List.head?_cons, Option.mem_some_iff] at hd
  rwa [← hd]

theorem head_apart_of_blank {b : List Char} (hb : ∀ c ∈ b, isBlank c = true) :
    ∀ c ∈ b.head?, isHeadChar c = false :=
  fun c hc => isHeadChar_of_isBlank (hb c (List.mem_of_mem_head? hc))

theorem head_apart_of_rest {r : List Char} (h : Rest r) : ∀ c ∈ r.head?, isHeadChar c = false := by
  cases h with
  | blank hb => exact head_apart_of_blank hb
  | @fallback b d hb =>
    intro c hc
    rw [List.head?_append] at hc
    rcases Option.or_eq_some_iff.1 hc with hc | ⟨-, hc⟩
    · exact head_apart_of_blank hb c hc
    · obtain rfl := Option.some.inj hc
      decide

theorem quiet_of_blank {b : List Char} (hb : ∀ c ∈ b, isBlank c = true) : Quiet b :=
  quiet_of_not_mem (bracket_not_mem_blank hb (by decide))

section Fields

/-- A field whose type and fallback can stand in a sheet. -/
structure FieldOk (f : Field) : Prop where
  framed : f.Framed
  typed : Typed f.slot.text
  rest : Rest f.rest
  quiet : Quiet f.rest

theorem clear_fieldCells {f : Field} (hf : FieldOk f) (ha : Apart cs) (h : Clear cs) :
    Clear (fieldCells f ++ cs) := by
  rw [fieldCells, List.append_assoc, List.append_assoc]
  refine clear_chars (quiet_of_not_mem ?_) (.inl (last_apart (by decide) hf.framed.gap _)) ?_
  · simp only [List.mem_append, List.mem_cons, not_or]
    exact ⟨fun hm => absurd (hf.framed.name '[' hm) (by decide), by decide,
      bracket_not_mem_blank hf.framed.gap (by decide)⟩
  · exact clear_slotCells hf.typed (apart_chars (head_apart_of_rest hf.rest) ha)
      (clear_chars hf.quiet (.inr ha) h)

theorem clear_fieldsCells {fs : List Field} (hf : ∀ f ∈ fs, FieldOk f) (ha : Apart cs)
    (h : Clear cs) :
    Clear (fieldsCells fs ++ cs) := by
  induction fs with
  | nil => exact h
  | cons f fs ih =>
    cases fs with
    | nil => simpa [fieldsCells] using clear_fieldCells (hf f (by simp)) ha h
    | cons f' fs =>
      rw [fieldsCells_cons, List.append_assoc, List.append_assoc]
      have hrest := ih fun g hg => hf g (by simp [hg])
      exact clear_fieldCells (hf f (by simp)) (apart_cons (by decide) [])
        (clear_chars (by decide) (.inl (by decide)) hrest)

end Fields

def fallbacks : Declaration → List (List Char)
  | .signature _ ps _ _ _ _ => ps.map Field.rest
  | _ => []

/-- A declaration that can stand in a sheet. -/
structure DeclarationOk (d : Declaration) : Prop where
  framed : d.Framed
  typed : ∀ s ∈ d.slots, Typed s.text
  quiet : ∀ r ∈ fallbacks d, Quiet r

theorem clear_declarationCells {d : Declaration} (hd : DeclarationOk d) (ha : Apart cs)
    (h : Clear cs) :
    Clear (declarationCells d ++ cs) := by
  have hplain {x : List Char} (hx : Plain x) : '[' ∉ x := fun hm => absurd (hx '[' hm) (by decide)
  obtain ⟨hf, ht, hq⟩ := hd
  cases d with
  | vars fs =>
    rw [declarationCells, List.append_assoc]
    refine clear_chars (by decide) (.inl (by decide)) (clear_fieldsCells (fun f hm => ?_) ha h)
    exact ⟨(hf f hm).1, ht _ (List.mem_map_of_mem hm), .blank (hf f hm).2,
      quiet_of_blank (hf f hm).2⟩
  | filter f =>
    rw [declarationCells, List.append_assoc]
    refine clear_chars (by decide) (.inl (by decide)) (clear_fieldCells ?_ ha h)
    exact ⟨hf.1, ht _ (by simp [Declaration.slots]), .blank hf.2, quiet_of_blank hf.2⟩
  | signature n ps mid gap r rest =>
    obtain ⟨⟨hn, hmid⟩, hps, hgap, hrest⟩ := hf
    simp only [declarationCells, List.append_assoc]
    refine clear_chars (quiet_of_not_mem ?_) (.inl ?_)
      (clear_fieldsCells (fun f hm => ?_) (apart_cons (by decide) _) ?_)
    · simp only [List.mem_append, not_or]
      exact ⟨by decide, hplain hn, by decide⟩
    · rw [← List.append_assoc]
      exact last_apart (by decide) (by simp) _
    · exact ⟨(hps f hm).1, ht _ (List.mem_append_left _ (List.mem_map_of_mem hm)), (hps f hm).2,
        hq _ (List.mem_map_of_mem hm)⟩
    · refine clear_chars (quiet_of_not_mem ?_) (.inl ?_)
        (clear_slotCells (ht r (by simp [Declaration.slots]))
        (apart_chars (head_apart_of_blank hrest) ha)
          (clear_chars (quiet_of_blank hrest) (.inr ha) h))
      · simp only [List.mem_append, List.mem_cons, not_or]
        exact ⟨by decide, hplain hmid, by decide, bracket_not_mem_blank hgap (by decide)⟩
      · have := last_apart (c := '>') (by decide) hgap (')' :: (mid ++ ['-']))
        simpa [arrow] using this

/-- A comment that can stand in a sheet. -/
structure Note.Sound (n : Note) : Prop where
  gap : ∀ c ∈ n.gap, isBlank c = true
  pad : ∀ c ∈ n.pad, isBlank c = true
  unclosed : '#' ∉ n.decl.text
  decl : DeclarationOk n.decl

theorem clear_noteCells {n : Note} (hn : n.Sound) (h : Clear cs) : Clear (n.cells ++ cs) := by
  simp only [Note.cells, List.append_assoc]
  refine clear_chars (quiet_of_not_mem ?_) (.inl ?_) ?_
  · simp only [List.mem_append, List.mem_cons, not_or]
    exact ⟨by decide, by decide, bracket_not_mem_blank hn.gap (by decide), by decide,
      bracket_not_mem_blank hn.pad (by decide)⟩
  · have :=
      last_apart (c := ':') (by decide) hn.pad ('{' :: '#' :: (n.gap ++ ['t', 'y', 'p', 'j', 'a']))
    simpa [Comment.keyword] using this
  · exact clear_declarationCells hn.decl (apart_cons (by decide) _)
      (clear_chars (by decide) (.inl (by decide)) h)

theorem apart_noteCells (n : Note) : Apart (n.cells ++ cs) := by
  simp only [Note.cells, List.append_assoc]
  exact apart_cons (by decide) _

theorem Sheet.clear_cells {s : Sheet} (hx : ∀ p ∈ s.notes, Clear p.1) (hr : Clear s.rest)
    (hn : ∀ p ∈ s.notes, p.2.Sound) : Clear s.cells := by
  obtain ⟨notes, rest⟩ := s
  induction notes with
  | nil => exact hr
  | cons p notes ih =>
    have hrest := ih (fun q hq => hx q (by simp [hq])) hr fun q hq => hn q (by simp [hq])
    have := (hx p (by simp)).append (apart_noteCells p.2) (clear_noteCells (hn p (by simp)) hrest)
    simpa [Sheet.cells] using this

end Clear

end TypedTemplate.Style
