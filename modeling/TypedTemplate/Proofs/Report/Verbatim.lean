import TypedTemplate.Proofs.Console.Literal
import TypedTemplate.Proofs.Report.Order

/-! What a report says of its issues. The message of an issue is put into markup as it stands, so
that it comes out whole exactly if nothing in it is markup. -/
namespace TypedTemplate

namespace Console

variable {painter : Option Painter} {limit : Nat}

theorem infix_display {p : Part} {ps : List Part} {blocks : List (Part × List (List Char))}
    (h : (display painter limit ps).2 = none) (hp : p ∈ ps) (hblocks : p.lines limit = .ok blocks) :
    (blocks.flatMap fun b => ended b.2) <:+: (display painter limit ps).1.text := by
  obtain ⟨front, back, rfl⟩ := List.append_of_mem hp
  have hfront : (display painter limit front).2 = none :=
    display_snd_eq_none_iff.2 fun q hq => display_snd_eq_none_iff.1 h q (List.mem_append_left _ hq)
  rw [display_append hfront, display_cons_ok hblocks, text_append, text_append, text_endedLines]
  exact ⟨(display painter limit front).1.text, (display painter limit back).1.text,
    List.append_assoc ..⟩

theorem exists_line_of_infix {x s : List Char} (hx : '\n' ∉ x) (h : x <:+: s) :
    ∃ line ∈ Text.pieces ['\n'] s, x <:+: line := by
  have hlines {ls : List (List Char)} (h : x <:+: ['\n'].intercalate ls) (hne : ls ≠ []) :
      ∃ line ∈ ls, x <:+: line := by
    induction ls with
    | nil => exact absurd rfl hne
    | cons l ls ih =>
      cases ls with
      | nil => exact ⟨l, by simp, by simpa using h⟩
      | cons l' ls =>
        rw [List.intercalate_cons_of_ne_nil (by simp), List.append_assoc] at h
        rcases Text.infix_append_cons hx h with h | h
        · exact ⟨l, by simp, h⟩
        · obtain ⟨line, hline, h⟩ := ih h (by simp)
          exact ⟨line, .tail _ hline, h⟩
  exact hlines (by rwa [Text.intercalate_pieces]) (Text.pieces_ne_nil _ _)

end Console

namespace Report
open Console

variable {s : Settings.Errors} {t : FileTree} {limit : Nat} {i : Issue} {is : List Issue}

def styles : List String := ["line_number", "error", "warning", "info", "path", "hint"]

theorem opens_style {style : String} (h : style ∈ styles) : Opens style.toList ⟨style, none⟩ := by
  simp only [styles, List.mem_cons, List.not_mem_nil, or_false] at h
  rcases h with rfl | rfl | rfl | rfl | rfl | rfl <;>
    exact opens_of_name (by decide) ⟨rfl, rfl⟩ (by decide +kernel) (by decide +kernel)
      (fun _ => rfl) fun _ => rfl

theorem toList_announcement (s : Settings.Errors) (i : Issue) :
    (announcement s i).toList = '[' ::
    ("line_number".toList ++ ']' :: ((place i).toList ++ '[' :: '/' ::
      ("line_number".toList ++ ']' ::
        ([' '] ++ '[' :: ((look i.severity).1.toList ++ ']' :: ((label s i).toList ++
        '[' :: '/' :: ((look i.severity).1.toList ++ ']' :: ' ' :: i.message.toList))))))) := by
  unfold announcement
  simp

/-- What stands in front of the message of an issue. -/
def lead (s : Settings.Errors) (i : Issue) : List Char :=
  (place i).toList ++ ' ' :: (label s i).toList

/-- Signs but no colon. -/
def Mute (u : List Char) : Prop := ∀ c ∈ u, isSign c = true ∧ c ≠ ':'
deriving Decidable

theorem Mute.append {u v : List Char} (hu : Mute u) (hv : Mute v) :
    Mute (u ++ v) := List.forall_mem_append.2 ⟨hu, hv⟩

theorem Mute.count_eq_zero {u : List Char} (hu : Mute u) :
    u.count ':' = 0 := List.count_eq_zero.2 fun h => (hu _ h).2 rfl

theorem Mute.smooth {u : List Char} (hu : Mute u) : Smooth u :=
  ⟨fun c hc => (hu c hc).1, by rw [hu.count_eq_zero]; exact Nat.zero_le 1⟩

theorem Mute.smooth_colon {u v : List Char} (hu : Mute u) (hv : Mute v) :
    Smooth (u ++ ':' :: v) := by
  refine ⟨List.forall_mem_append.2 ⟨hu.smooth.1, List.forall_mem_cons.2 ⟨rfl, hv.smooth.1⟩⟩, ?_⟩
  have hu0 := hu.count_eq_zero
  have hv0 := hv.count_eq_zero
  rw [List.count_append, List.count_cons_self]
  omega

theorem mute_toString (n : Int) : Mute (toString n).toList := by
  have hdigits (m : Nat) : Mute (Nat.repr m).toList := fun c hc => by
    rw [Nat.repr, String.toList_ofList] at hc
    obtain ⟨hlo, hhi⟩ :=
      Char.isDigit_iff_toNat.1 (Nat.isDigit_of_mem_toDigits (by decide) (by decide) hc)
    change 48 ≤ c.toNat at hlo
    change c.toNat ≤ 57 at hhi
    refine ⟨?_, by rintro rfl; exact absurd hhi (by decide)⟩
    simp only [isSign, isSignCode, Bool.and_eq_true, Bool.or_eq_true, beq_iff_eq, decide_eq_true_eq,
      bne_iff_ne]
    omega
  cases n with
  | ofNat m => exact hdigits m
  | negSucc m =>
    change Mute ("-" ++ Nat.repr (m + 1)).toList
    rw [String.toList_append]
    exact Mute.append (by decide) (hdigits (m + 1))

theorem smooth_place (i : Issue) : Smooth (place i).toList := by
  have hfront : Mute ("  ".toList ++ (toString i.line).toList) :=
    Mute.append (by decide) (mute_toString i.line)
  rw [place, String.toList_append, String.toList_append]
  split
  · simpa using hfront.smooth
  · rw [String.toList_append]
    exact hfront.smooth_colon (mute_toString i.col)

theorem smooth_label (h : Mute i.severity.text.toList) : Smooth (label s i).toList := by
  have hicon : Mute (look i.severity).2.toList := by
    have hicons : ∀ icon ∈ ["✗", "⚠", "ℹ"], Mute icon.toList := by decide
    refine hicons _ ?_
    cases i.severity <;> simp [look]
  rw [label]
  split
  · exact hicon.smooth
  · rw [String.toList_append, String.toList_append, String.toList_append]
    exact ((hicon.append (by decide)).append h).smooth_colon (List.forall_mem_nil _)

theorem exists_plain_announcement (h : Mute i.severity.text.toList) :
    ∃ n position, (' ' :: i.message.toList).length < n ∧ plain (announcement s i).toList =
      (plainFrom [] (piecesFrom n position [] (' ' :: i.message.toList))).map (lead s i ++ ·) := by
  have hstyle : (look i.severity).1 ∈ styles := by cases i.severity <;> simp [look, styles]
  rw [toList_announcement]
  exact exists_plain_behind (opens_style (by simp [styles])) (opens_style hstyle) (smooth_place i)
    (smooth_label h) _

theorem render_announcement_iff (h : Mute i.severity.text.toList) (hm : '\n' ∉ i.message.toList)
    (hfits : ∀ x, plain (announcement s i).toList = .ok x → Fits limit x) :
    render limit (announcement s i) = .ok (lead s i ++ ' ' :: i.message.toList ++ ['\n']) ↔
      Literal i.message.toList := by
  obtain ⟨n, position, hn, hplain⟩ := exists_plain_announcement (s := s) h
  refine render_eq_iff hn hplain (List.forall_mem_append.2 ⟨(smooth_place i).1, ?_⟩) hm hfits
  exact List.forall_mem_cons.2 ⟨rfl, (smooth_label h).1⟩

def hintParts (s : Settings.Errors) (i : Issue) : List Part :=
  match s.verbosity with
  | .text "normal" => hintLine s "" i
  | .text "verbose" => hintLine s "Hint: " i
  | _ => []

/-- What is printed around the line of an issue is markup that can be printed. -/
def Framed (limit : Nat) (s : Settings.Errors) (i : Issue) : Prop :=
  (Console.display none limit (headingParts i.filename ++ hintParts s i)).2 = none

theorem exists_lines_line {markup : String} :
    (∃ blocks, (Part.line markup).lines limit = .ok blocks) ↔
      ∃ out, render limit markup = .ok out := by
  rw [Part.lines, render]
  cases plain markup.toList <;> simp [bind, Except.bind, pure, Except.pure, Except.map]

theorem display_issueParts_snd (hs : Telling s) :
    (Console.display none limit (issueParts s t i)).2 = none ↔
      (∃ out, render limit (announcement s i) = .ok out) ∧
      (Console.display none limit (hintParts s i)).2 = none := by
  have hexcerpt (marks : List String) :
      ∀ p ∈ excerpt t i marks, ∃ blocks, p.lines limit = .ok blocks := by
    rw [excerpt]
    split <;> simp [Part.lines]
  have hblank : ∃ blocks, (Part.line "").lines limit = .ok blocks := ⟨_, rfl⟩
  obtain ⟨v, hv, hs⟩ := hs
  simp only [List.mem_cons, List.not_mem_nil, or_false] at hv
  rw [← exists_lines_line]
  simp only [display_snd_eq_none_iff]
  rcases hv with rfl | rfl | rfl
  · simp [issueParts, hintParts, hs, shortLine_eq hs]
  · simp only [issueParts, hintParts, hs, List.forall_mem_cons, List.forall_mem_append,
      fullLine_eq (s := s) (by simp [hs])]
    exact and_congr_right fun _ => and_iff_right (hexcerpt _)
  · simp only [issueParts, hintParts, hs, List.forall_mem_cons, List.forall_mem_append,
      fullLine_eq (s := s) (by simp [hs])]
    refine and_congr_right fun _ =>
      ⟨fun h => h.1.2, fun h => ⟨⟨?_, h⟩, hblank, List.forall_mem_nil _⟩⟩
    split
    · exact hexcerpt _
    · simp

/-- The block of an issue begins with a line exactly if the line of the issue is that line. -/
theorem feedless_lead (h : Mute i.severity.text.toList) (hm : '\n' ∉ i.message.toList) :
    '\n' ∉ lead s i ++ ' ' :: i.message.toList := by
  rw [lead, List.mem_append, List.mem_append, List.mem_cons, List.mem_cons]
  rintro ((h' | h' | h') | h' | h')
  · exact absurd ((smooth_place i).1 _ h') (by decide)
  · exact absurd h' (by decide)
  · exact absurd ((smooth_label h).1 _ h') (by decide)
  · exact absurd h' (by decide)
  · exact hm h'

theorem feedless_announcement (h : Mute i.severity.text.toList) (hm : '\n' ∉ i.message.toList)
    {x : List Char} (hx : plain (announcement s i).toList = .ok x) : '\n' ∉ x := by
  obtain ⟨n, position, -, hplain⟩ := exists_plain_announcement (s := s) h
  rw [hx] at hplain
  cases hout : plainFrom [] (piecesFrom n position [] (' ' :: i.message.toList)) with
  | error e =>
    rw [hout] at hplain
    cases hplain
  | ok out =>
    rw [hout] at hplain
    obtain rfl : x = lead s i ++ out := Except.ok.inj hplain
    have hlead := feedless_lead (s := s) h hm
    rw [List.mem_append, not_or] at hlead ⊢
    exact ⟨hlead.1, fun hmem => hm (by simpa using mem_of_mem_shown hout rfl hmem)⟩

theorem prefix_block_iff (hs : Telling s) {line : List Char} (hline : '\n' ∉ line)
    (h : (Console.display none limit (issueParts s t i)).2 = none)
    (hfits : ∀ x, plain (announcement s i).toList = .ok x → '\n' ∉ x ∧ Fits limit x) :
    line ++ ['\n'] <+: (Console.display none limit (issueParts s t i)).1.text ↔
      render limit (announcement s i) = .ok (line ++ ['\n']) := by
  obtain ⟨details, hparts, -⟩ := hs.issueParts_eq t i
  rw [hparts] at h ⊢
  obtain ⟨shown, hshown, htext⟩ := display_line_cons h
  obtain ⟨hfeed, hfit⟩ := hfits shown hshown
  have hrender := render_of_fits hshown hfeed hfit
  have hblock : ended (wrap limit shown) = expandTabs shown ++ ['\n'] := by
    rw [render, hshown] at hrender
    exact Except.ok.inj hrender
  rw [htext, hblock, hrender, Except.ok.injEq, List.append_left_inj]
  constructor
  · rintro ⟨rest, hrest⟩
    rw [List.append_assoc, List.append_assoc] at hrest
    exact (Text.append_cons_inj hline (fun h => hfeed (feed_of_mem_expandTabs h)) hrest).1.symm
  · rintro rfl
    exact List.prefix_append _ _

theorem framed_of_untagged (hname : Untagged i.filename.toList)
    (hhint : ∀ h ∈ i.hint, Untagged h.toList) :
    Framed limit s i := by
  have hstyled {style text : String} (front : String) (hstyle : style ∈ styles)
      (hfront : Untagged front.toList) (htext : Untagged text.toList) :
      ∃ blocks, (Part.line (front ++ styled style text)).lines limit = .ok blocks := by
    obtain ⟨shown, hshown⟩ := exists_plain_styled (opens_style hstyle) hfront htext
    refine ⟨_, lines_line_eq_ok.2 ⟨shown, ?_, rfl⟩⟩
    rw [← hshown]
    simp [styled]
  have hhints {lead : String} (hlead : Untagged lead.toList) :
      ∀ p ∈ hintLine s lead i, ∃ blocks, p.lines limit = .ok blocks := by
    rw [hintLine]
    split
    · next h hh =>
      split
      · refine List.forall_mem_singleton.2 (hstyled "    " (by simp [styles]) (by decide) ?_)
        rw [String.toList_append, String.toList_append]
        exact List.forall_mem_append.2 ⟨List.forall_mem_append.2 ⟨by decide, hlead⟩, hhint h hh⟩
      · exact List.forall_mem_nil _
    · exact List.forall_mem_nil _
  refine display_snd_eq_none_iff.2 (List.forall_mem_append.2 ⟨?_, ?_⟩)
  · refine List.forall_mem_cons.2 ⟨⟨_, rfl⟩, List.forall_mem_singleton.2 ?_⟩
    have hpath : "" ++ styled "path" i.filename = "[path]" ++ i.filename ++ "[/path]" := by
      rw [String.empty_append]
      exact styled_eq (by decide) (by decide) _
    rw [← hpath]
    exact hstyled "" (by simp [styles]) (by decide) hname
  · rw [hintParts]
    split
    · exact hhints (by decide)
    · exact hhints (by decide)
    · exact List.forall_mem_nil _

/-- A report comes to its end and begins the block of each issue with its message as it is exactly
if each message is literal and the markup around it can be printed, which it always can where file
names and hints have no brackets and backslashes. Then each message stands in a line of the text.
Without colours nothing but the text is sent. -/
theorem print_issues_verbatim_iff (terminal : Terminal) (s : Settings.Errors) (t : FileTree)
    (limit : Nat) (is : List Issue) (hs : Telling s)
    (hwords : ∀ i ∈ is, Mute i.severity.text.toList)
    (hlines : ∀ i ∈ is, '\n' ∉ i.message.toList)
    (hfits : ∀ i ∈ is, ∀ x, plain (announcement s i).toList = .ok x → Fits limit x) :
    let shown := display terminal s limit (issues s t is)
    ((shown.2 = none ∧ ∀ i ∈ is, lead s i ++ ' ' :: i.message.toList ++ ['\n'] <+:
        (Console.display none limit (issueParts s t i)).1.text) ↔
      ∀ i ∈ is, Framed limit s i ∧ Literal i.message.toList) ∧
    ((∀ i ∈ is, Framed limit s i ∧ Literal i.message.toList) →
      ∀ i ∈ is, ∃ line ∈ Text.pieces ['\n'] shown.1.text, i.message.toList <:+: line) ∧
    (terminal.painter? (forced? s) = none → shown.1.sent = shown.1.text) ∧
    ∀ i, Untagged i.filename.toList → (∀ h ∈ i.hint, Untagged h.toList) → Framed limit s i := by
  intro shown
  have hline (i : Issue) (hi : i ∈ is) :=
    render_announcement_iff (hwords i hi) (hlines i hi) (hfits i hi)
  have hblock (i : Issue) (hi : i ∈ is)
      (h : (Console.display none limit (issueParts s t i)).2 = none) :=
    prefix_block_iff hs (feedless_lead (s := s) (hwords i hi) (hlines i hi)) h
      fun x hx => ⟨feedless_announcement (hwords i hi) (hlines i hi) hx, hfits i hi x hx⟩
  have hframed (i : Issue) (h : ∃ out, render limit (announcement s i) = .ok out) :
      Framed limit s i ↔ (Console.display none limit (headingParts i.filename)).2 = none ∧
        (Console.display none limit (issueParts s t i)).2 = none := by
    rw [display_issueParts_snd hs, and_iff_right h, Framed]
    simp only [display_snd_eq_none_iff, List.forall_mem_append]
  have hended :
      shown.2 = none ↔ ∀ i ∈ is, (Console.display none limit (headingParts i.filename)).2 = none ∧
      (Console.display none limit (issueParts s t i)).2 = none := by
    rw [show shown.2 = _ from (display_colours _ _ _).2, display_issues_snd]
  have hprinted (h : ∀ i ∈ is, Framed limit s i ∧ Literal i.message.toList) : shown.2 = none :=
    hended.2 fun i hi => (hframed i ⟨_, (hline i hi).2 (h i hi).2⟩).1 (h i hi).1
  refine ⟨⟨fun h i hi => ?_, fun h => ⟨hprinted h, fun i hi => ?_⟩⟩, fun h i hi => ?_,
    fun hplain => ?_, fun i => framed_of_untagged⟩
  · have hend := hended.1 h.1 i hi
    have hrender := (hblock i hi hend.2).1 (h.2 i hi)
    exact ⟨(hframed i ⟨_, hrender⟩).2 hend, (hline i hi).1 hrender⟩
  · exact (hblock i hi (hended.1 (hprinted h) i hi).2).2 ((hline i hi).2 (h i hi).2)
  · obtain ⟨details, hparts, -⟩ := hs.issueParts_eq t i
    have hpart : Part.line (announcement s i) ∈ issues s t is := by
      refine List.mem_flatMap.2 ⟨i.filename, mem_fileNames.2 ⟨i, hi, rfl⟩, .tail _ (.tail _ ?_)⟩
      exact List.mem_flatMap.2 ⟨i, mem_ofFile.2 ⟨hi, rfl⟩, by rw [hparts]; exact .head _⟩
    obtain ⟨x, hx, htext⟩ := render_eq_ok_iff.1 ((hline i hi).2 (h i hi).2)
    have hinfix := infix_display (hprinted h) hpart (lines_line_eq_ok.2 ⟨x, hx, rfl⟩)
    rw [List.flatMap_singleton, htext] at hinfix
    refine exists_line_of_infix (hlines i hi)
      (List.IsInfix.trans ⟨lead s i ++ [' '], ['\n'], ?_⟩ hinfix)
    simp
  · change (Console.display (terminal.painter? (forced? s)) limit (issues s t is)).1.sent = _
    rw [hplain, sent_display_none]
    exact (congrArg (fun q => (Console.display q limit (issues s t is)).1.text) hplain).symm

def unusedImport : Issue :=
  ⟨.warning, "Unused import: 'Any'", "a.html", 2, 3, none, some "Remove it"⟩

def normalSettings : Settings.Errors := ⟨.text "normal", .truth true, .truth true, .text "auto"⟩

theorem print_issues_verbatim_unusedImport :
    let shown :=
      display boldTerminal normalSettings 1000 (issues normalSettings ⟨[], []⟩ [unusedImport])
    shown.2 = none ∧ ∃ line ∈ Text.pieces ['\n'] shown.1.text, unusedImport.message.toList <:+:
      line := by
  have hfits : ((plain (announcement normalSettings unusedImport).toList).toOption.all
      fun x => decide (Fits 1000 x)) = true := by decide +kernel
  obtain ⟨hiff, hline, -, hframed⟩ :=
    print_issues_verbatim_iff boldTerminal normalSettings ⟨[], []⟩ 1000
    [unusedImport] ⟨"normal", by simp, rfl⟩ (by decide) (by decide)
    (List.forall_mem_singleton.2 fun x hx => by simpa [hx, Except.toOption] using hfits)
  have hmessage : ∀ i ∈ [unusedImport], Framed 1000 normalSettings i ∧ Literal i.message.toList :=
    List.forall_mem_singleton.2 ⟨hframed _ (by decide) (by decide),
      Smooth.literal ⟨by decide, by decide⟩⟩
  exact ⟨(hiff.2 hmessage).1, hline hmessage _ (.head _)⟩

def optionalUsed : Issue :=
  ⟨.warning, "Use PEP 604 union syntax (X | Y) instead of Optional[str]", "a.html", 1, 0, none,
    none⟩

def closesStyle : Issue := ⟨.error, "Closes [/b]", "a.html", 1, 0, none, none⟩

/-- A message that looks like markup is not shown as it is, or ends the report. -/
theorem print_issues_optionalUsed :
    (∀ terminal : Terminal,
      let shown :=
        display terminal normalSettings 1000 (issues normalSettings ⟨[], []⟩ [optionalUsed])
      shown.2 = none ∧ ¬ optionalUsed.message.toList <:+: shown.1.text) ∧
    ∀ terminal : Terminal,
      (display terminal normalSettings 1000 (issues normalSettings ⟨[], []⟩ [closesStyle])).2 ≠
        none := by
  have hrun : (Console.display none 1000 (issues normalSettings ⟨[], []⟩ [optionalUsed])).2.isNone =
      true ∧ Text.occurs optionalUsed.message.toList
        (Console.display none 1000 (issues normalSettings ⟨[], []⟩ [optionalUsed])).1.text = false ∧
      (Console.display none 1000 (issues normalSettings ⟨[], []⟩ [closesStyle])).2.isSome =
        true := by
    decide +kernel
  refine ⟨fun terminal => ?_, fun terminal => ?_⟩
  · simp only [display, (display_colours (terminal.painter? (forced? normalSettings)) _ _).1,
      (display_colours (terminal.painter? (forced? normalSettings)) _ _).2]
    exact ⟨Option.isNone_iff_eq_none.1 hrun.1, Text.occurs_eq_false_iff.1 hrun.2.1⟩
  · rw [display, (display_colours _ _ _).2]
    exact Option.isSome_iff_ne_none.1 hrun.2.2

end Report

end TypedTemplate
