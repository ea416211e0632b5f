import Mathlib.Data.List.Nodup
import TypedTemplate.Proofs.Console.Markup
import TypedTemplate.Proofs.Lists
import TypedTemplate.Proofs.Table
import TypedTemplate.Proofs.Text.Search
import TypedTemplate.Report

/-! The order of a report. The issues are put into groups by their files, the files sorted and each
group sorted by lines; this is one stable sort by file and line, cut where the file changes. -/
namespace TypedTemplate

namespace Report
open Console

def byPlace (i j : Issue) : Bool :=
  decide (i.filename < j.filename ∨ i.filename = j.filename ∧ i.line ≤ j.line)

def byLine (i j : Issue) : Bool := decide (i.line ≤ j.line)

theorem byPlace_iff {i j : Issue} :
    byPlace i j = true ↔ i.filename < j.filename ∨ i.filename = j.filename ∧ i.line ≤ j.line :=
      decide_eq_true_iff

theorem byPlace_trans (i j k : Issue) (hij : byPlace i j = true) (hjk : byPlace j k = true) :
    byPlace i k = true := by
  rw [byPlace_iff] at *
  rcases hij with hij | ⟨hij, hline⟩ <;> rcases hjk with hjk | ⟨hjk, hline'⟩
  · exact .inl (String.lt_trans hij hjk)
  · exact .inl (hjk ▸ hij)
  · exact .inl (hij ▸ hjk)
  · exact .inr ⟨hij.trans hjk, Int.le_trans hline hline'⟩

theorem byPlace_total (i j : Issue) : (byPlace i j || byPlace j i) = true := by
  rw [Bool.or_eq_true, byPlace_iff, byPlace_iff]
  by_cases hij : i.filename < j.filename
  · exact .inl (.inl hij)
  by_cases hji : j.filename < i.filename
  · exact .inr (.inl hji)
  have heq : i.filename = j.filename :=
    String.le_antisymm (String.not_lt.1 hji) (String.not_lt.1 hij)
  exact (Int.le_total i.line j.line).imp (fun h => .inr ⟨heq, h⟩) fun h => .inr ⟨heq.symm, h⟩

theorem level_byPlace (i j : Issue) :
    level byPlace i j = (j.filename == i.filename && level byLine i j) := by
  rw [Bool.eq_iff_iff, level, level, Bool.and_eq_true, Bool.and_eq_true, Bool.and_eq_true,
    byPlace_iff, byPlace_iff, beq_iff_eq, byLine, byLine, decide_eq_true_iff, decide_eq_true_iff]
  constructor
  · rintro ⟨hij | ⟨hij, hline⟩, hji | ⟨hji, hline'⟩⟩
    · exact absurd (String.lt_trans hij hji) (String.lt_irrefl _)
    · exact absurd (hji ▸ hij) (String.lt_irrefl _)
    · exact absurd (hij ▸ hji) (String.lt_irrefl _)
    · exact ⟨hji, hline, hline'⟩
  · rintro ⟨heq, hline, hline'⟩
    exact ⟨.inr ⟨heq.symm, hline⟩, .inr ⟨heq, hline'⟩⟩

variable {is : List Issue} {name : String} {i : Issue}

theorem mem_fileNames : name ∈ fileNames is ↔ ∃ i ∈ is, i.filename = name := by
  rw [fileNames, List.mem_mergeSort, byFile, Table.mem_keys_groups]

/-- A group holds the issues of its file. -/
theorem ofFile_eq (is : List Issue) (name : String) :
    ofFile is name =
      (is.filter (·.filename == name)).mergeSort fun a b => decide (a.line ≤ b.line) := by
  rw [ofFile, byFile, Table.find?_groups, List.map_id]

theorem mem_ofFile : i ∈ ofFile is name ↔ i ∈ is ∧ i.filename = name := by
  rw [ofFile_eq, List.mem_mergeSort, List.mem_filter, beq_iff_eq]

theorem pairwise_fileNames (is : List Issue) : (fileNames is).Pairwise (· < ·) := by
  have hnodup : (fileNames is).Nodup :=
    (List.mergeSort_perm _ _).nodup_iff.2 (Table.nodup_keys_groups _)
  refine ((pairwise_mergeSort_key id _).and hnodup).imp fun {a b} h => ?_
  by_contra hlt
  exact h.2 (String.le_antisymm h.1 (String.not_lt.1 hlt))

theorem byLine_trans (i j k : Issue) (hij : byLine i j = true) (hjk : byLine j k = true) :
    byLine i k = true := by
  simp only [byLine, decide_eq_true_iff] at *
  omega

theorem byLine_total (i j : Issue) : (byLine i j || byLine j i) = true := by
  simpa [byLine] using Int.le_total i.line j.line

theorem filter_ofFile (is : List Issue) (name : String) (i : Issue) :
    (ofFile is name).filter (level byPlace i) =
      if name = i.filename then is.filter (level byPlace i) else [] := by
  have hlevel : (ofFile is name).filter (level byLine i) = (is.filter (·.filename == name)).filter
    (level byLine i) :=
    ofFile_eq is name ▸ filter_level_mergeSort byLine_trans byLine_total _ i
  have hfile : ∀ j ∈ ofFile is name, level byPlace i j = (name == i.filename && level byLine i j) :=
    fun j hj => by
    rw [level_byPlace, (mem_ofFile.1 hj).2]
  rw [List.filter_congr hfile]
  split
  · next heq =>
    simp only [heq, beq_self_eq_true, Bool.true_and]
    rw [← heq, hlevel, List.filter_filter]
    exact List.filter_congr fun j _ => by rw [level_byPlace, heq, Bool.and_comm]
  · next hne => simp [hne]

theorem flatMap_ite {names : List String} (h : names.Nodup) (l : List Issue) :
    (names.flatMap fun n => if n = name then l else []) = if name ∈ names then l else [] := by
  induction names with
  | nil => rfl
  | cons n names ih =>
    obtain ⟨hn, hnames⟩ := List.nodup_cons.1 h
    rw [List.flatMap_cons, ih hnames]
    by_cases heq : n = name
    · simp [heq, heq ▸ hn]
    · simp [heq, Ne.symm heq]

theorem flatMap_ofFile (is : List Issue) :
    (fileNames is).flatMap (ofFile is) = is.mergeSort byPlace := by
  refine eq_mergeSort byPlace_trans byPlace_total (List.pairwise_flatMap.2 ⟨fun n _ => ?_, ?_⟩)
    fun i => ?_
  · have hlines : (ofFile is n).Pairwise fun i j => byLine i j = true :=
      ofFile_eq is n ▸ List.pairwise_mergeSort byLine_trans byLine_total _
    refine hlines.imp_of_mem fun hi hj hline => byPlace_iff.2 (.inr ⟨?_, of_decide_eq_true hline⟩)
    rw [(mem_ofFile.1 hi).2, (mem_ofFile.1 hj).2]
  · refine (pairwise_fileNames is).imp fun hlt i hi j hj => byPlace_iff.2 (.inl ?_)
    rwa [(mem_ofFile.1 hi).2, (mem_ofFile.1 hj).2]
  · have hnodup : (fileNames is).Nodup := (pairwise_fileNames is).imp String.ne_of_lt
    simp only [List.filter_flatMap, filter_ofFile]
    rw [flatMap_ite hnodup, ite_eq_left_iff, mem_fileNames]
    intro hnone
    refine (List.filter_eq_nil_iff.2 fun j hj hlevel => hnone ⟨j, hj, ?_⟩).symm
    rw [level_byPlace, Bool.and_eq_true, beq_iff_eq] at hlevel
    exact hlevel.1

section Shown

def place (i : Issue) : String :=
  "  " ++ toString i.line ++ if i.col = 0 then "" else ":" ++ toString i.col

def look : Severity → String × String
  | .error => ("error", "✗")
  | .warning => ("warning", "⚠")
  | _ => ("info", "ℹ")

def label (s : Settings.Errors) (i : Issue) : String :=
  match s.verbosity with
  | .text "minimal" => (look i.severity).2
  | _ => (look i.severity).2 ++ " " ++ i.severity.text ++ ":"

/-- The markup of the line that says what an issue is. -/
def announcement (s : Settings.Errors) (i : Issue) : String :=
  "[line_number]" ++ place i ++ "[/line_number]" ++ " " ++
    ("[" ++ (look i.severity).1 ++ "]" ++ label s i ++ "[/" ++ (look i.severity).1 ++ "]") ++ " " ++
      i.message

/-- One of the three levels of detail that show anything. -/
def Telling (s : Settings.Errors) : Prop :=
  ∃ v ∈ ["minimal", "normal", "verbose"], s.verbosity = .text v

/-- What may follow the line of an issue: its source line with marks below it, its hint, and a
gap. -/
inductive Detail (t : FileTree) (i : Issue) : Part → Prop
  | source (line : String) (marks : List String) (hline : sourceLine? t i = some line)
      (hmarks : ∀ m ∈ marks, ∃ e : Int, m = squiggles i.col e ∨ m = squiggles i.col e ++ "\n") :
      Detail t i (.excerpt (("    " ++ line) :: marks))
  | hint (lead h : String) (hlead : lead ∈ ["", "Hint: "]) (hhint : i.hint = some h) :
      Detail t i (.line ("    [hint]💡 " ++ lead ++ h ++ "[/hint]"))
  | gap : Detail t i (.line "")

variable {s : Settings.Errors} {t : FileTree}

theorem styled_eq {style opening ending : String} (hopening : "[" ++ style ++ "]" = opening)
    (hending : "[/" ++ style ++ "]" = ending) (text : String) :
    styled style text = opening ++ text ++ ending := by
  rw [styled, hopening, ← hending]
  simp only [String.append_assoc]

theorem location_eq (i : Issue) : location i = "[line_number]" ++ place i ++ "[/line_number]" :=
  styled_eq (by decide) (by decide) _

theorem styleOf_eq (v : Severity) : styleOf v = (look v).1 := by
  cases v <;> rfl

theorem iconOf_eq (v : Severity) : iconOf v = (look v).2 := by
  cases v <;> rfl

theorem shortLine_eq (hs : s.verbosity = .text "minimal") (i : Issue) :
    shortLine i = announcement s i := by
  have hlabel : label s i = (look i.severity).2 := by simp [label, hs]
  unfold shortLine announcement styled
  rw [hlabel, location_eq, styleOf_eq, iconOf_eq]

theorem fullLine_eq (hs : s.verbosity ≠ .text "minimal") (i : Issue) :
    fullLine i = announcement s i := by
  have hlabel : label s i = (look i.severity).2 ++ " " ++ i.severity.text ++ ":" := by
    rw [label]
    split
    · next h => exact absurd h hs
    · rfl
  unfold fullLine announcement styled
  rw [hlabel, location_eq, styleOf_eq, iconOf_eq]

theorem detail_excerpt {marks : List String}
    (hmarks : ∀ m ∈ marks, ∃ e : Int, m = squiggles i.col e ∨ m = squiggles i.col e ++ "\n") :
    ∀ p ∈ excerpt t i marks, Detail t i p := by
  rw [excerpt]
  split
  · next line hline => exact List.forall_mem_singleton.2 (.source line marks hline hmarks)
  · exact List.forall_mem_nil _

theorem detail_hintLine {lead : String} (hlead : lead ∈ ["", "Hint: "]) :
    ∀ p ∈ hintLine s lead i, Detail t i p := by
  rw [hintLine]
  split
  · next h hh =>
    split
    · refine List.forall_mem_singleton.2 ?_
      have hfront : "    " ++ "[hint]" ++ "💡 " = "    [hint]💡 " := by decide
      have htext : styled "hint" ("💡 " ++ lead ++ h) = "[hint]" ++ ("💡 " ++ lead ++ h) ++
        "[/hint]" :=
        styled_eq (by decide) (by decide) _
      have hline : "    " ++ styled "hint" ("💡 " ++ lead ++ h) = "    [hint]💡 " ++ lead ++ h ++
        "[/hint]" := by
        rw [htext, ← hfront]
        simp only [String.append_assoc]
      rw [hline]
      exact .hint lead h hlead hh
    · exact List.forall_mem_nil _
  · exact List.forall_mem_nil _

theorem Telling.issueParts_eq (h : Telling s) (t : FileTree) (i : Issue) :
    ∃ details, issueParts s t i = .line (announcement s i) :: details ∧
      ∀ p ∈ details, Detail t i p := by
  have hloose : ∀ m ∈ looseMarks i,
      ∃ e : Int, m = squiggles i.col e ∨ m = squiggles i.col e ++ "\n" := by
    intro m hm
    obtain ⟨e, -, rfl⟩ := List.mem_map.1 hm
    exact ⟨e, .inr rfl⟩
  have htight : ∀ m ∈ tightMarks i,
      ∃ e : Int, m = squiggles i.col e ∨ m = squiggles i.col e ++ "\n" := by
    intro m hm
    rw [tightMarks] at hm
    split at hm
    · cases hm
    · obtain ⟨e, -, rfl⟩ := List.mem_map.1 hm
      exact ⟨e, .inl rfl⟩
  obtain ⟨v, hv, hs⟩ := h
  simp only [List.mem_cons, List.not_mem_nil, or_false] at hv
  rcases hv with rfl | rfl | rfl
  · exact ⟨[], by simp [issueParts, hs, shortLine_eq hs], List.forall_mem_nil _⟩
  · refine ⟨excerpt t i (looseMarks i) ++ hintLine s "" i, by
      simp [issueParts, hs, fullLine_eq (s := s)], ?_⟩
    exact List.forall_mem_append.2 ⟨detail_excerpt hloose, detail_hintLine (by simp)⟩
  · refine ⟨(if Settings.holds s.showSnippets then excerpt t i (tightMarks i) else []) ++
      hintLine s "Hint: " i ++ [.line ""], by simp [issueParts, hs, fullLine_eq (s := s)], ?_⟩
    refine List.forall_mem_append.2 ⟨List.forall_mem_append.2 ⟨?_, detail_hintLine (by simp)⟩,
      List.forall_mem_singleton.2 .gap⟩
    split
    · exact detail_excerpt htight
    · exact List.forall_mem_nil _

end Shown

/-- A report in sections, one for each file, with a heading and a block for each of its issues. The
issues follow each other in the order of the stable sort. A block begins with the line that says
what its issue is. -/
structure Sections (s : Settings.Errors) (t : FileTree) (limit : Nat) (is : List Issue)
    (out : List Char)
    (sections : List (String × List Issue)) (heading : String → List Char)
    (block : Issue → List Char) : Prop where
  printed : out = sections.flatMap fun e => heading e.1 ++ e.2.flatMap block
  names : (sections.map (·.1)).Pairwise (· < ·)
  files : ∀ e ∈ sections, e.2 ≠ [] ∧ ∀ i ∈ e.2, i.filename = e.1
  sorted : sections.flatMap (·.2) = is.mergeSort byPlace
  headings : ∀ e ∈ sections, ∃ shown, plain ("[path]" ++ e.1 ++ "[/path]").toList = .ok shown ∧
    heading e.1 = '\n' :: ended (wrap limit shown)
  blocks : Telling s → ∀ i ∈ is, ∃ shown details, plain (announcement s i).toList = .ok shown ∧
    (∀ p ∈ details, Detail t i p) ∧
    block i = ended (wrap limit shown) ++ (Console.display none limit details).1.text

section Print

variable {s : Settings.Errors} {t : FileTree} {painter : Option Painter} {limit : Nat}

def headingParts (name : String) : List Part := [.line "", .line ("[path]" ++ name ++ "[/path]")]

theorem fileParts_eq (s : Settings.Errors) (t : FileTree) (is : List Issue) (name : String) :
    fileParts s t is name = headingParts name ++ (ofFile is name).flatMap (issueParts s t) := by
  have hpath : styled "path" name = "[path]" ++ name ++ "[/path]" :=
    styled_eq (by decide) (by decide) name
  rw [fileParts, hpath]
  rfl

theorem display_issues_snd :
    (Console.display painter limit (issues s t is)).2 = none ↔
      ∀ i ∈ is, (Console.display painter limit (headingParts i.filename)).2 = none ∧
        (Console.display painter limit (issueParts s t i)).2 = none := by
  simp only [display_snd_eq_none_iff]
  constructor
  · intro h i hi
    have hpart {p : Part} (hp : p ∈ fileParts s t is i.filename) :
        ∃ blocks, p.lines limit = .ok blocks :=
      h p (List.mem_flatMap.2 ⟨i.filename, mem_fileNames.2 ⟨i, hi, rfl⟩, hp⟩)
    rw [fileParts_eq] at hpart
    refine ⟨fun p hp => hpart (List.mem_append_left _ hp),
      fun p hp => hpart (List.mem_append_right _ ?_)⟩
    exact List.mem_flatMap.2 ⟨i, mem_ofFile.2 ⟨hi, rfl⟩, hp⟩
  · intro h p hp
    obtain ⟨name, hname, hp⟩ := List.mem_flatMap.1 hp
    rw [fileParts_eq] at hp
    rcases List.mem_append.1 hp with hp | hp
    · obtain ⟨i, hi, rfl⟩ := mem_fileNames.1 hname
      exact (h i hi).1 p hp
    · obtain ⟨i, hi, hp⟩ := List.mem_flatMap.1 hp
      exact (h i (mem_ofFile.1 hi).1).2 p hp

theorem display_issues_fst (h : (Console.display painter limit (issues s t is)).2 = none) :
    (Console.display painter limit (issues s t is)).1 = (fileNames is).flatMap fun name =>
      (Console.display painter limit (headingParts name)).1 ++
        (ofFile is name).flatMap fun i => (Console.display painter limit (issueParts s t i)).1 := by
  have hok := display_issues_snd.1 h
  rw [issues] at h ⊢
  rw [display_flatMap h]
  refine List.flatMap_congr fun name hname => ?_
  obtain ⟨i, hi, rfl⟩ := mem_fileNames.1 hname
  have hparts :
      (Console.display painter limit ((ofFile is i.filename).flatMap (issueParts s t))).2 = none :=
    display_snd_eq_none_iff.2 fun p hp => by
      obtain ⟨j, hj, hp⟩ := List.mem_flatMap.1 hp
      exact display_snd_eq_none_iff.1 (hok j (mem_ofFile.1 hj).1).2 p hp
  rw [← display_flatMap hparts, ← display_append (hok i hi).1, fileParts_eq]

theorem wrap_nil (limit : Nat) : wrap limit [] = [[]] := by
  rw [wrap, Text.pieces_of_absent (by simp), List.flatMap_singleton, wrapLine]
  simp [expandTabs, width]

theorem lines_line_eq_ok {markup : String} {blocks : List (Part × List (List Char))} :
    (Part.line markup).lines limit = .ok blocks ↔
      ∃ shown, plain markup.toList = .ok shown ∧ blocks = [(.line markup, wrap limit shown)] := by
  rw [Part.lines]
  cases plain markup.toList with
  | error e => simp [bind, Except.bind]
  | ok shown => simp [bind, Except.bind, pure, Except.pure, eq_comm]

/-- What is shown first is the text of the first line. -/
theorem display_line_cons {markup : String} {ps : List Part}
    (h : (Console.display painter limit (.line markup :: ps)).2 = none) :
    ∃ shown, plain markup.toList = .ok shown ∧
      (Console.display painter limit (.line markup :: ps)).1.text =
      ended (wrap limit shown) ++ (Console.display painter limit ps).1.text := by
  obtain ⟨blocks, hblocks⟩ := display_snd_eq_none_iff.1 h _ (List.mem_cons_self ..)
  obtain ⟨shown, hshown, rfl⟩ := lines_line_eq_ok.1 hblocks
  refine ⟨shown, hshown, ?_⟩
  rw [display_cons_ok hblocks, text_append, text_endedLines, List.flatMap_singleton]

end Print

/-- A report that can be printed shows each issue once, in the order of files and lines, with one
heading for each file. Colours change nothing in the text. -/
theorem exists_sections {terminal : Terminal} {s : Settings.Errors} {t : FileTree} {limit : Nat}
    {is : List Issue} (h : (display terminal s limit (issues s t is)).2 = none) :
    ∃ sections heading block,
      Sections s t limit is (display terminal s limit (issues s t is)).1.text sections heading
        block := by
  rw [display, (display_colours _ _ _).2] at h
  have hok := display_issues_snd.1 h
  refine ⟨(fileNames is).map fun name => (name, ofFile is name),
    fun name => (Console.display none limit (headingParts name)).1.text,
    fun i => (Console.display none limit (issueParts s t i)).1.text, ?_, ?_, ?_, ?_, ?_, ?_⟩
  · rw [display, (display_colours _ _ _).1, display_issues_fst h, text_flatMap, List.flatMap_map]
    exact List.flatMap_congr fun name _ => by rw [text_append, text_flatMap]
  · simpa [Function.comp_def] using pairwise_fileNames is
  · rintro e he
    obtain ⟨name, hname, rfl⟩ := List.mem_map.1 he
    obtain ⟨i, hi, hfile⟩ := mem_fileNames.1 hname
    exact ⟨List.ne_nil_of_mem (mem_ofFile.2 ⟨hi, hfile⟩), fun j hj => (mem_ofFile.1 hj).2⟩
  · rw [List.flatMap_map, flatMap_ofFile]
  · rintro e he
    obtain ⟨name, hname, rfl⟩ := List.mem_map.1 he
    obtain ⟨i, hi, rfl⟩ := mem_fileNames.1 hname
    obtain ⟨blank, hblank, hfirst⟩ := display_line_cons (hok i hi).1
    have hpath := (hok i hi).1
    rw [headingParts, display_snd_eq_none_iff, List.forall_mem_cons, ← display_snd_eq_none_iff]
      at hpath
    obtain ⟨shown, hshown, hsecond⟩ := display_line_cons hpath.2
    obtain rfl : blank = [] := (Except.ok.inj hblank).symm
    refine ⟨shown, hshown, ?_⟩
    rw [headingParts, hfirst, hsecond, wrap_nil]
    exact congrArg _ (List.append_nil _)
  · intro hs i hi
    obtain ⟨details, hparts, hdetails⟩ := hs.issueParts_eq t i
    have hblock := (hok i hi).2
    rw [hparts] at hblock
    obtain ⟨shown, hshown, htext⟩ := display_line_cons hblock
    exact ⟨shown, details, hshown, hdetails, by rw [hparts, htext]⟩

def mixedIssues : List Issue :=
  [⟨.error, "first", "b.html", 7, 0, none, none⟩, ⟨.warning, "second", "a.html", 2, 0, none, none⟩,
    ⟨.error, "third", "a.html", 2, 0, none, none⟩]

def boldTerminal : Terminal where
  interactive := true
  dumb := false
  painter := {
    paint _ lines := lines.map fun l => [⟨"\x1b[1m".toList, l, "\x1b[0m".toList⟩]
    text_paint _ lines := by simp [Output.text, Function.comp_def] }

theorem exists_sections_mixedIssues :
    let s : Settings.Errors := ⟨.text "minimal", .truth true, .truth true, .text "always"⟩
    (display boldTerminal s 80 (issues s ⟨[], []⟩ mixedIssues)).2 = none ∧ ∃ sections heading block,
      Sections s ⟨[], []⟩ 80 mixedIssues
        (display boldTerminal s 80 (issues s ⟨[], []⟩ mixedIssues)).1.text sections
        heading block := by
  intro s
  have hok : (display boldTerminal s 80 (issues s ⟨[], []⟩ mixedIssues)).2 = none :=
    display_issues_snd.2 (by decide +kernel)
  exact ⟨hok, exists_sections hok⟩

end Report

end TypedTemplate
