import TypedTemplate.Proofs.Style.Slot

/-! Texts as characters and places of types. Where the heads of old unions stand in places only, and
every bracket of a place is closed in it, repairing a line repairs each of its places and nothing
else. -/
namespace TypedTemplate.Style
open Text TypeExpr Directive

def mendSlot (s : Slot) : Slot := { s with text := mendedIn s.line s.text }

inductive Cell where
  | char (c : Char)
  | place (s : Slot)

namespace Cell

def text : Cell → List Char
  | char c => [c]
  | place s => s.text

def isLineFeed : Cell → Bool
  | char c => c == '\n'
  | place _ => false

def map (g : Slot → Slot) : Cell → Cell
  | char c => char c
  | place s => place (g s)

/-- A place that stands within the given line, or a character. -/
def LiesIn (line : List Char) : Cell → Prop
  | char _ => True
  | place s => s.line = line ∧ '\n' ∉ s.text

instance (line : List Char) : DecidablePred (LiesIn line)
  | char _ => inferInstanceAs (Decidable True)
  | place s => inferInstanceAs (Decidable (s.line = line ∧ '\n' ∉ s.text))

end Cell

def textOf (cs : List Cell) : List Char := cs.flatMap Cell.text

def isHeadChar (c : Char) : Bool := heads.any fun head => head.contains c

/-- Behind every head in a text comes a closing bracket. -/
def Shut (x : List Char) : Prop := ∀ head ∈ heads, ∀ u, head ++ u <:+ x → ']' ∈ u

/-- No head begins at a character, and none goes on behind a place. -/
def Clear : List Cell → Prop
  | [] => True
  | .char c :: cs => (∀ head ∈ heads, ¬ head <+: c :: textOf cs) ∧ Clear cs
  | .place s :: cs => (Shut s.text ∧ ∀ c ∈ (textOf cs).head?, isHeadChar c = false) ∧ Clear cs

theorem isHeadChar_of_mem {head : List Char} {c : Char} (hh : head ∈ heads) (hc : c ∈ head) :
    isHeadChar c = true := by
  simp only [isHeadChar, List.any_eq_true]
  exact ⟨head, hh, by simpa using hc⟩

section Replace

variable {head old inner : List Char}

theorem prefix_of_shut (hh : head ∈ heads) (hc : Closes head old inner) {x y u : List Char}
    (hx : Shut x)
    (hy : ∀ c ∈ y.head?, isHeadChar c = false) (hne : u ≠ []) (hu : u <:+ x) (ho : old <+: u ++ y) :
    old <+: u := by
  rw [hc.eq] at ho ⊢
  rcases prefix_append_cases ((List.prefix_append _ _).trans ho) with ⟨w, rfl⟩ | ⟨v, rfl, hv⟩
  · have hclose := hx head hh w hu
    rw [List.append_assoc] at ho
    have ho := (List.prefix_append_right_inj _).1 ho
    refine (List.prefix_append_right_inj _).2 ?_
    rcases prefix_append_cases ho with ho | ⟨v, hv, -⟩
    · exact ho
    · rcases List.eq_nil_or_concat v with rfl | ⟨v, d, rfl⟩
      · exact ⟨[], by simpa using hv⟩
      · rw [List.concat_eq_append, ← List.append_assoc] at hv
        exact absurd (by rw [(List.append_inj' hv rfl).1]; simp [hclose]) hc.inner_open
  · cases v with
    | nil => exact absurd (hx _ hh [] (by simpa using hu)) (by simp)
    | cons c v =>
      obtain ⟨t, ht⟩ := hv
      have hapart := hy c (by simp [← ht])
      rw [isHeadChar_of_mem hh (by simp)] at hapart
      exact absurd hapart (by decide)

def replaceSlot (old new : List Char) (s : Slot) : Slot := { s with text := replace old new s.text }

theorem replace_textOf (hh : head ∈ heads) (hc : Closes head old inner) (new : List Char)
    {cs : List Cell} (h : Clear cs) :
    replace old new (textOf cs) = textOf (cs.map (Cell.map (replaceSlot old new))) := by
  have hne : old ≠ [] := by simp [hc.eq]
  induction cs with
  | nil => exact replace_of_absent (by simpa [textOf] using hne)
  | cons c cs ih =>
    cases c with
    | char c =>
      have hstart : ∀ u, u ≠ [] → u <:+ [c] → ¬ old <+: u ++ textOf cs := fun u hu hs ho => by
        obtain rfl : u = [c] :=
          (List.suffix_cons_iff.1 hs).resolve_right fun h => hu (List.suffix_nil.1 h)
        exact h.1 head hh (List.IsPrefix.trans (by rw [hc.eq]; exact List.prefix_append _ _) ho)
      have hrest : replace old new ([c] ++ textOf cs) = [c] ++ replace old new (textOf cs) :=
        replace_append hne hstart
      rw [ih h.2] at hrest
      exact hrest
    | place s =>
      have hstart : ∀ u, u ≠ [] → u <:+ s.text → old <+: u ++ textOf cs → old <+: u :=
        fun u hu hs => prefix_of_shut hh hc h.1.1 h.1.2 hu hs
      have hrest : replace old new (s.text ++ textOf cs) = replace old new s.text ++ replace old new
        (textOf cs) :=
        replace_append_append hne hstart
      rw [ih h.2] at hrest
      exact hrest

end Replace

theorem Cell.map_id : Cell.map id = id := by
  funext c
  cases c <;> rfl

def rows (cs : List Cell) : List (List Cell) := cs.splitOnP Cell.isLineFeed

theorem rows_cons (c : Cell) (cs : List Cell) :
    rows (c :: cs) = if c.isLineFeed then [] :: rows cs else (rows cs).modifyHead (c :: ·) :=
  List.splitOnP_cons_eq_if_modifyHead c cs

theorem exists_rows (cs : List Cell) : ∃ r rs, rows cs = r :: rs := by
  cases h : rows cs with
  | nil => exact absurd h (List.splitOnP_ne_nil _ _)
  | cons r rs => exact ⟨r, rs, rfl⟩

theorem textOf_rows (cs : List Cell) : unlines ((rows cs).map textOf) = textOf cs := by
  induction cs with
  | nil => rfl
  | cons c cs ih =>
    obtain ⟨r, rs, hr⟩ := exists_rows cs
    rw [hr] at ih
    rw [rows_cons, hr]
    cases hc : c.isLineFeed with
    | true =>
      obtain rfl : c = .char '\n' := by
        cases c with
        | char c => rw [beq_iff_eq.1 hc]
        | place s => cases hc
      rw [if_pos rfl, List.map_cons, unlines, List.intercalate_cons_of_ne_nil (by simp)]
      exact congrArg ('\n' :: ·) ih
    | false =>
      have hcons : unlines (((r :: rs).modifyHead (c :: ·)).map textOf) = c.text ++ unlines
        ((r :: rs).map textOf) :=
        intercalate_append_cons _ _ _ _
      exact hcons.trans (congrArg (c.text ++ ·) ih)

theorem rows_map (g : Slot → Slot) (cs : List Cell) :
    rows (cs.map (Cell.map g)) = (rows cs).map (List.map (Cell.map g)) := by
  induction cs with
  | nil => rfl
  | cons c cs ih =>
    obtain ⟨r, rs, hr⟩ := exists_rows cs
    have hc : (c.map g).isLineFeed = c.isLineFeed := by cases c <;> rfl
    rw [List.map_cons, rows_cons, rows_cons, ih, hr, hc]
    split <;> rfl

theorem rows_parts (cs : List Cell) : ∃ r rs, rows cs = r :: rs ∧ r <+: cs ∧ (∀ q ∈ rs, q <:+: cs) ∧
    ∀ q ∈ r :: rs, ∀ c ∈ q, c.isLineFeed = false := by
  induction cs with
  | nil => exact ⟨[], [], rfl, List.prefix_rfl, by simp, by simp⟩
  | cons c cs ih =>
    obtain ⟨r, rs, hr, hfirst, hrest, hfeed⟩ := ih
    rw [rows_cons, hr]
    cases hc : c.isLineFeed with
    | true =>
      refine ⟨[], r :: rs, rfl, List.nil_prefix, fun q hq => ?_, fun q hq => ?_⟩
      · refine List.IsInfix.trans ?_ (List.suffix_cons c cs).isInfix
        exact (List.mem_cons.1 hq).elim (fun h => h ▸ hfirst.isInfix) (hrest q)
      · rcases List.mem_cons.1 hq with rfl | hq
        · simp
        · exact hfeed q hq
    | false =>
      refine ⟨c :: r, rs, rfl, (List.prefix_cons_inj c).2 hfirst, fun q hq => ?_, fun q hq => ?_⟩
      · exact (hrest q hq).trans (List.suffix_cons c cs).isInfix
      · rcases List.mem_cons.1 hq with rfl | hq
        · exact List.forall_mem_cons.2 ⟨hc, hfeed r (by simp)⟩
        · exact hfeed q (by simp [hq])

theorem infix_of_mem_rows {cs r : List Cell} (h : r ∈ rows cs) : r <:+: cs := by
  obtain ⟨q, qs, hr, hfirst, hrest, -⟩ := rows_parts cs
  rw [hr] at h
  exact (List.mem_cons.1 h).elim (fun h => h ▸ hfirst.isInfix) (hrest r)

theorem isLineFeed_of_mem_rows {cs r : List Cell} (h : r ∈ rows cs) :
    ∀ c ∈ r, c.isLineFeed = false := by
  obtain ⟨q, qs, hr, -, -, hfeed⟩ := rows_parts cs
  exact hfeed r (hr ▸ h)

theorem textOf_append (cs ds : List Cell) : textOf (cs ++ ds) = textOf cs ++ textOf ds :=
  List.flatMap_append

theorem Clear.of_prefix {cs ds : List Cell} (h : Clear (cs ++ ds)) : Clear cs := by
  induction cs with
  | nil => trivial
  | cons c cs ih =>
    rw [List.cons_append] at h
    cases c with
    | char c =>
      rw [Clear, textOf_append] at h
      exact ⟨fun head hh hp => h.1 head hh (hp.trans (List.prefix_append (c :: textOf cs) _)),
        ih h.2⟩
    | place s =>
      rw [Clear, textOf_append] at h
      refine ⟨⟨h.1.1, fun c hc => h.1.2 c ?_⟩, ih h.2⟩
      rw [List.head?_append, Option.mem_def.1 hc]
      rfl

theorem Clear.of_suffix {cs ds : List Cell} (h : Clear (cs ++ ds)) : Clear ds := by
  induction cs with
  | nil => exact h
  | cons c cs ih =>
    cases c with
    | char c => exact ih h.2
    | place s => exact ih h.2

theorem Clear.row {cs r : List Cell} (h : Clear cs) (hr : r ∈ rows cs) : Clear r := by
  obtain ⟨a, b, rfl⟩ := infix_of_mem_rows hr
  exact h.of_prefix.of_suffix

theorem textOf_map_congr {g h : Slot → Slot} {cs : List Cell}
    (hs : ∀ s, .place s ∈ cs → (g s).text = (h s).text) :
    textOf (cs.map (Cell.map g)) = textOf (cs.map (Cell.map h)) := by
  rw [textOf, textOf, List.flatMap_map, List.flatMap_map]
  refine List.flatMap_congr fun c hc => ?_
  cases c with
  | char c => rfl
  | place s => exact hs s hc

theorem mended_textOf {cs : List Cell} (h : Clear cs) (hl : ∀ e ∈ cs, e.LiesIn (textOf cs)) :
    mended (textOf cs) = textOf (cs.map (Cell.map mendSlot)) := by
  have hl (s : Slot) (hs : .place s ∈ cs) : s.line = textOf cs := (hl (.place s) hs).1
  cases ho : oldUnion? (textOf cs) with
  | none =>
    rw [mended, ho, Option.elim_none, textOf_map_congr (h := id), Cell.map_id, List.map_id]
    intro s hs
    simp [mendSlot, mendedIn, hl s hs, ho]
  | some old =>
    obtain ⟨head, hh, inner, hc, -⟩ := oldUnion?_eq_some ho
    rw [mended, ho, Option.elim_some, replace_textOf hh hc _ h]
    refine textOf_map_congr fun s hs => ?_
    simp [mendSlot, mendedIn, replaceSlot, hl s hs, ho]

end TypedTemplate.Style
