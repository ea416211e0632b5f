import Mathlib.Data.List.Basic
import TypedTemplate.Console.Print

/-! Markup that can be printed. A text without brackets and backslashes holds no tag, so that it can
be put into a colour whatever it says. -/
namespace TypedTemplate.Console

section Display

variable {painter : Option Painter} {limit : Nat} {ps qs : List Part}

def ended (lines : List (List Char)) : List Char := lines.flatMap (· ++ ['\n'])

theorem text_append (o o' : Output) : Output.text (o ++ o') = o.text ++ o'.text :=
  List.flatMap_append

theorem text_flatMap {α : Type} (l : List α) (f : α → Output) :
    Output.text (l.flatMap f) = l.flatMap fun a => (f a).text := List.flatMap_assoc

theorem map_text_painted (painter : Option Painter) (p : Part) (lines : List (List Char)) :
    (painted painter p lines).map Output.text = lines := by
  cases painter with
  | none => exact Painter.colourless.text_paint p lines
  | some q => exact q.text_paint p lines

theorem text_endedLines (painter : Option Painter) (blocks : List (Part × List (List Char))) :
    (endedLines painter blocks).text = blocks.flatMap fun b => ended b.2 := by
  have hblock (o : List Output) :
      Output.text (o.flatMap (· ++ [.bare ['\n']])) = ended (o.map Output.text) := by
    rw [text_flatMap, ended, List.flatMap_map]
    exact List.flatMap_congr fun l _ => text_append l _
  rw [endedLines, text_flatMap]
  exact List.flatMap_congr fun b _ => by rw [hblock, map_text_painted]

theorem display_cons_ok {p : Part} {blocks : List (Part × List (List Char))}
    (h : p.lines limit = .ok blocks) (painter : Option Painter) (ps : List Part) :
    display painter limit (p :: ps) =
      (endedLines painter blocks ++ (display painter limit ps).1,
        (display painter limit ps).2) := by
  rw [display, h]

theorem display_cons_error {p : Part} {e : MarkupError} (h : p.lines limit = .error e)
    (painter : Option Painter) (ps : List Part) :
    display painter limit (p :: ps) = ([], some e) := by
  rw [display, h]

theorem display_snd_eq_none_iff :
    (display painter limit ps).2 = none ↔ ∀ p ∈ ps, ∃ blocks, p.lines limit = .ok blocks := by
  induction ps with
  | nil => simp [display]
  | cons p ps ih =>
    rw [List.forall_mem_cons, ← ih]
    cases hp : p.lines limit with
    | error e => simp [display_cons_error hp]
    | ok blocks => simp [display_cons_ok hp]

theorem display_append (h : (display painter limit ps).2 = none) :
    (display painter limit (ps ++ qs)).1 =
      (display painter limit ps).1 ++ (display painter limit qs).1 := by
  induction ps with
  | nil => rfl
  | cons p ps ih =>
    cases hp : p.lines limit with
    | error e => simp [display_cons_error hp] at h
    | ok blocks =>
      rw [display_cons_ok hp] at h ⊢
      rw [List.cons_append, display_cons_ok hp, ih h, List.append_assoc]

theorem display_flatMap {α : Type} {f : α → List Part} {l : List α}
    (h : (display painter limit (l.flatMap f)).2 = none) :
    (display painter limit (l.flatMap f)).1 = l.flatMap fun a =>
      (display painter limit (f a)).1 := by
  induction l with
  | nil => rfl
  | cons a l ih =>
    rw [List.flatMap_cons, display_snd_eq_none_iff, List.forall_mem_append,
      ← display_snd_eq_none_iff, ← display_snd_eq_none_iff] at h
    rw [List.flatMap_cons, List.flatMap_cons, display_append h.1, ih h.2]

/-- Colours change neither the text nor the error that may end it. -/
theorem display_colours (painter : Option Painter) (limit : Nat) (ps : List Part) :
    (display painter limit ps).1.text = (display none limit ps).1.text ∧
      (display painter limit ps).2 = (display none limit ps).2 := by
  induction ps with
  | nil => exact ⟨rfl, rfl⟩
  | cons p ps ih =>
    cases hp : p.lines limit with
    | error e => simp [display_cons_error hp]
    | ok blocks =>
      simp only [display_cons_ok hp, text_append, text_endedLines]
      exact ⟨congrArg _ ih.1, ih.2⟩

theorem sent_display_none (limit : Nat) (ps : List Part) :
    (display none limit ps).1.sent = (display none limit ps).1.text := by
  have hbare : ∀ s ∈ (display none limit ps).1, s.opening = [] ∧ s.ending = [] := by
    induction ps with
    | nil => exact List.forall_mem_nil _
    | cons p ps ih =>
      cases hp : p.lines limit with
      | error e =>
        rw [display_cons_error hp]
        exact List.forall_mem_nil _
      | ok blocks =>
        rw [display_cons_ok hp]
        refine List.forall_mem_append.2 ⟨fun s hs => ?_, ih⟩
        simp only [endedLines, painted, bareLines, List.mem_flatMap, List.mem_map,
          List.mem_append, List.mem_singleton] at hs
        obtain ⟨b, -, o, ⟨l, -, rfl⟩, hs | rfl⟩ := hs
        · rw [List.mem_singleton.1 hs]
          exact ⟨rfl, rfl⟩
        · exact ⟨rfl, rfl⟩
  refine List.flatMap_congr fun s hs => ?_
  rw [(hbare s hs).1, (hbare s hs).2, List.nil_append, List.append_nil]

end Display

/-- Nothing in a text can be taken for a tag. -/
def Untagged (u : List Char) : Prop := ∀ c ∈ u, c ≠ '[' ∧ c ≠ '\\'
deriving Decidable

theorem tagHere?_cons {c : Char} (hc : c ≠ '[' ∧ c ≠ '\\') (s : List Char) :
    tagHere? (c :: s) = none := by
  have hslash : (c == '\\') = false := beq_false_of_ne hc.2
  rw [tagHere?, List.takeWhile_cons, hslash]
  dsimp only [Bool.false_eq_true, if_false, List.length_nil, List.drop_zero]
  split
  · next rest heq => exact absurd (List.cons.inj heq).1 hc.1
  · rfl

theorem piecesFrom_append {u : List Char} (hu : Untagged u) (n position : Nat)
    (reversed s : List Char) :
    piecesFrom (u.length + n) position reversed (u ++ s) = piecesFrom n (position + u.length)
      (u.reverse ++ reversed) s := by
  induction u generalizing position reversed with
  | nil => simp
  | cons c u ih =>
    obtain ⟨hc, hu⟩ := List.forall_mem_cons.1 hu
    rw [List.length_cons, Nat.add_right_comm, List.cons_append, piecesFrom, tagHere?_cons hc]
    dsimp only
    rw [ih hu, Nat.add_assoc, Nat.add_comm 1, List.reverse_cons, List.append_assoc]
    rfl

/-- A style that its tags open and close. -/
structure Opens (style : List Char) (o : OpenTag) : Prop where
  opening : ∀ s, tagHere? ('[' :: (style ++ ']' :: s)) = some (0, style, s)
  closing : ∀ s, tagHere? ('[' :: '/' :: (style ++ ']' :: s)) = some (0, '/' :: style, s)
  opened : ∀ position, applyTag position (.ofBody style) [] = .ok [o]
  closed : ∀ position, applyTag position (.ofBody ('/' :: style)) [o] = .ok []

theorem opens_of_name {c : Char} {style : List Char} {name : String} (hc : c ≠ '/')
    (hbody : Tag.ofBody (c :: style) = ⟨c :: style, none⟩ ∧
      Tag.ofBody ('/' :: c :: style) = ⟨'/' :: c :: style, none⟩)
    (htrim : Text.trim (c :: style) = c :: style) (hname : normalName? (c :: style) = some name)
    (opening : ∀ s, tagHere? ('[' :: (c :: style ++ ']' :: s)) = some (0, c :: style, s))
    (closing : ∀ s, tagHere? ('[' :: '/' :: (c :: style ++ ']' :: s)) = some (0, '/' :: c :: style,
      s)) :
    Opens (c :: style) ⟨name, none⟩ where
  opening := opening
  closing := closing
  opened position := by simp [hbody.1, applyTag, hc, tagName, hname, Except.map]
  closed position := by
    simp [hbody.2, applyTag, htrim, tagName, hname, OpenTag.close, bind, Except.bind, Except.map]

theorem plainFrom_textPiece (opened : List OpenTag) (reversed : List Char) (ps : List Piece) :
    plainFrom opened (textPiece reversed ++ ps) =
      (plainFrom opened ps).map (printed (unescapeBrackets reversed.reverse) ++ ·) := by
  cases reversed with
  | nil => cases h :
      plainFrom opened ps <;> simp [textPiece, unescapeBrackets, printed, withEmoji, h, Except.map]
  | cons c reversed =>
    change plainFrom opened (.text (c :: reversed).reverse :: ps) = _
    rw [plainFrom]
    cases plainFrom opened ps <;> rfl

theorem plainFrom_styled {style u : List Char} {o : OpenTag} (h : Opens style o) (hu : Untagged u)
    (n position : Nat) (reversed s : List Char) :
    ∃ position', plainFrom [] (piecesFrom (u.length + n + 2) position reversed
        ('[' :: (style ++ ']' :: (u ++ '[' :: '/' :: (style ++ ']' :: s))))) =
      (plainFrom [] (piecesFrom n position' [] s)).map fun out =>
        printed (unescapeBrackets reversed.reverse) ++ (printed (unescapeBrackets u) ++ out) := by
  refine ⟨position + 0 + style.length + 2 + u.length + 0 + ('/' :: style).length + 2, ?_⟩
  rw [piecesFrom, h.opening]
  dsimp only
  rw [show u.length + n + 1 = u.length + (n + 1) from rfl, piecesFrom_append hu, piecesFrom,
    h.closing]
  dsimp only
  have htag (position : Nat) (body : List Char) :
      tagPieces position 0 body = [.tag (position + 0) (.ofBody body)] := rfl
  rw [htag, htag, List.append_assoc, plainFrom_textPiece, List.singleton_append, plainFrom,
    h.opened]
  simp only [bind, Except.bind]
  rw [List.append_nil, List.append_assoc, plainFrom_textPiece, List.singleton_append, plainFrom,
    h.closed]
  simp only [bind, Except.bind, List.reverse_reverse]
  cases plainFrom [] _ <;> rfl

theorem exists_plain_styled {style u v : List Char} {o : OpenTag} (h : Opens style o)
    (hv : Untagged v) (hu : Untagged u) :
    ∃ shown, plain (v ++ '[' :: (style ++ ']' :: (u ++ '[' :: '/' :: (style ++ [']'])))) =
      .ok shown := by
  have hlength : (v ++ '[' :: (style ++ ']' :: (u ++ '[' :: '/' :: (style ++ [']'])))).length + 1 =
      v.length + (u.length + (style.length + style.length + 4) + 2) := by
    simp only [List.length_append, List.length_cons, List.length_nil]
    omega
  rw [plain, if_pos (by simp), pieces, hlength, piecesFrom_append hv]
  obtain ⟨position, hshown⟩ :=
    plainFrom_styled h hu (style.length + style.length + 4) (0 + v.length) (v.reverse ++ []) []
  exact ⟨_, hshown⟩

theorem exists_plain_yellow {u : List Char} (hu : Untagged u) :
    ∃ shown, plain ("[yellow]".toList ++ (u ++ "[/yellow]".toList)) = .ok shown :=
  have hopens : Opens "yellow".toList ⟨"yellow", none⟩ :=
    opens_of_name (by decide) ⟨rfl, rfl⟩ (by decide +kernel) (by decide +kernel) (fun _ => rfl)
      fun _ => rfl
  exists_plain_styled hopens (List.forall_mem_nil _) hu

theorem exists_plain_iff (painter : Option Painter) (limit : Nat) (markup : String) :
    (display painter limit [.line markup]).2 = none ↔ ∃ shown, plain markup.toList = .ok shown := by
  rw [display, Part.lines]
  cases plain markup.toList with
  | error e => simp [bind, Except.bind]
  | ok s => simp [bind, Except.bind, pure, Except.pure, display]

end TypedTemplate.Console
