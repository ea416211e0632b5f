import TypedTemplate.Command.Init
import TypedTemplate.Proofs.Text.Search
import TypedTemplate.Proofs.Toml.Document
import TypedTemplate.Proofs.Toml.Quote

/-! What a new settings file says when it is read. The root stands in it between quotes as it was
given, so it is read back just where it is plain. -/
namespace TypedTemplate.Command
open Toml Settings

variable {d : Document} {n : Nat} {s : List Char}

section Lines

def linesText (lines : List String) : List Char := lines.flatMap fun line => line.toList ++ ['\n']

theorem linesText_append (lines lines' : List String) :
    linesText (lines ++ lines') = linesText lines ++ linesText lines' :=
  List.flatMap_append

def isIdle : List Char → Bool
  | [] => true
  | c :: text => c == '#' && text.all fun c => !isIllegal c

theorem skipComment_append (h : ∀ c ∈ s, isIllegal c = false) (rest : List Char) :
    skipComment ('#' :: (s ++ '\n' :: rest)) = .ok ('\n' :: rest) := by
  have hbreak : ∀ c ∈ s, (c != '\n') = true := by
    intro c hc
    simp only [bne_iff_ne, ne_eq]
    rintro rfl
    cases h _ hc
  have htext : (s ++ '\n' :: rest).takeWhile (· != '\n') = s := by
    rw [List.takeWhile_append_of_pos hbreak]
    simp
  have hrest : (s ++ '\n' :: rest).dropWhile (· != '\n') = '\n' :: rest := by
    rw [List.dropWhile_append_of_pos hbreak]
    simp
  have hlegal : s.dropWhile (fun c => !isIllegal c) = [] := by
    have hall : ∀ c ∈ s, (!isIllegal c) = true := by simpa using h
    rw [← List.append_nil s, List.dropWhile_append_of_pos hall]
    rfl
  rw [skipComment]
  simp only [htext, hrest, firstIllegal, hlegal]

theorem statements_idle (h : isIdle s = true) (rest : List Char) :
    statements (n + 1) d (s ++ '\n' :: rest) = statements n d rest := by
  cases s with
  | nil => rfl
  | cons c text =>
    obtain ⟨hc, htext⟩ := Bool.and_eq_true_iff.1 h
    obtain rfl : c = '#' := eq_of_beq hc
    have hskip : skipComment ('#' :: (text ++ '\n' :: rest)) = .ok ('\n' :: rest) :=
      skipComment_append (by simpa using htext) rest
    rw [List.cons_append,
      statements_of_ne (show skipBlanks ('#' :: _) = '#' :: _ from rfl) (by decide)]
    change goOn (statements n) (d, '#' :: (text ++ '\n' :: rest)) = _
    rw [goOn, show skipBlanks ('#' :: (text ++ '\n' :: rest)) = '#' :: (text ++ '\n' :: rest)
      from rfl, hskip]
    rfl

theorem statements_idleLines {lines : List String} (h : ∀ line ∈ lines, isIdle line.toList = true)
    (rest : List Char) :
    statements (n + lines.length) d (linesText lines ++ rest) = statements n d rest := by
  induction lines with
  | nil => rfl
  | cons line lines ih =>
    have htext :
        linesText (line :: lines) ++ rest = line.toList ++ '\n' :: (linesText lines ++ rest) := by
      simp [linesText]
    rw [htext, List.length_cons, ← Nat.add_assoc, statements_idle (h line List.mem_cons_self),
      ih fun l hl => h l (List.mem_cons_of_mem _ hl)]

end Lines

section Starter

theorem toList_starter : starter.toList = linesText starterLines := by
  rw [starter, linesText, String.toList_join]
  simp [List.flatMap, Function.comp_def]

theorem toList_eq_of_eq {text : String} (h : text = String.ofList s) : text.toList = s := by
  rw [h, String.toList_ofList]

def backLines : List String := starterLines.drop 9

theorem pieces_starter : Text.pieces "root = \".\"".toList (linesText starterLines) =
    [linesText (starterLines.take 8), '\n' :: linesText backLines] := by
  simp (disch := with_reducible rfl) only [linesText, backLines, starterLines, List.take_succ_cons,
    List.take_zero,
    List.drop_succ_cons, List.drop_zero, List.flatMap_cons, List.flatMap_nil, toList_eq_of_eq]
  decide +kernel

theorem toList_starterFor (root : String) : (starterFor root).toList =
    linesText (starterLines.take 8) ++
      ("root = ".toList ++ '"' :: (root.toList ++ '"' :: '\n' :: linesText backLines)) := by
  rw [starterFor]
  split
  · next hroot =>
    obtain rfl : root = "." := eq_of_beq hroot
    rw [toList_starter, show starterLines = starterLines.take 8 ++ "root = \".\"" :: backLines
      from rfl, linesText_append]
    rfl
  · rw [String.toList_ofList, Text.replace, toList_starter, pieces_starter]
    simp [List.intercalate]

theorem idle_front :
    ∀ line ∈ starterLines.take 6 ++ (starterLines.drop 7).take 1, isIdle line.toList = true := by
  simp (disch := with_reducible rfl) only [starterLines, List.take_succ_cons, List.take_zero,
    List.drop_succ_cons,
    List.drop_zero, List.cons_append, List.nil_append, List.forall_mem_cons, toList_eq_of_eq]
  decide +kernel

def opened : Document := ⟨[("project", .table [])], [["project"]], [], [], ["project"]⟩

def rooted (root : String) : Document :=
  ⟨[("project", .table [("root", .text root)])], [["project"]], [], [], ["project"]⟩

theorem statements_project (s : List Char) :
    statements (n + 1) .empty ("[project]".toList ++ '\n' :: s) = statements n opened s := by
  have hstatement :
      statement .empty ('[' :: ("project]".toList ++ '\n' :: s)) = .ok (opened, '\n' :: s) := rfl
  rw [show "[project]".toList ++ '\n' :: s = '[' :: ("project]".toList ++ '\n' :: s) from rfl,
    statements_of_ne (show skipBlanks ('[' :: _) = '[' :: _ from rfl) (by decide), hstatement]
  rfl

theorem value_of_quotedText? {r : Except Fault (List Char × List Char)}
    (h : quotedText? s = some r) :
    value s = r.map fun p => (.text (String.ofList p.1), p.2) := by
  rw [value, valueFrom.eq_def]
  dsimp only
  rw [h]
  cases r <;> rfl

theorem statement_root {r : Except Fault (List Char × List Char)}
    (h : quotedText? ('"' :: s) = some r) :
    statement opened ("root = ".toList ++ '"' :: s) = r.map fun p => (rooted (String.ofList p.1),
      p.2) := by
  have hpair : pair value ("root = ".toList ++ '"' :: s) = value ('"' :: s) >>=
    fun p => pure ((["root"], p.1), p.2) := rfl
  change (pair value ("root = ".toList ++ '"' :: s) >>= fun p =>
    within p.2 (opened.put p.1.1 p.1.2) >>= fun d => pure (d, p.2)) = _
  rw [hpair, value_of_quotedText? h]
  cases r <;> rfl

theorem exists_quotedText? (s : List Char) : ∃ r, quotedText? ('"' :: s) = some r := by
  by_cases h : ['"', '"'] <+: s
  · obtain ⟨u, rfl⟩ := h
    exact ⟨_, rfl⟩
  · exact ⟨_, quotedText?_line h⟩

theorem statements_root {r : Except Fault (List Char × List Char)}
    (h : quotedText? ('"' :: s) = some r) :
    statements (n + 1) opened ("root = ".toList ++ '"' :: s) =
      r >>= fun p => goOn (statements n) (rooted (String.ofList p.1), p.2) := by
  have hroot := statement_root h
  rw [show "root = ".toList ++ '"' :: s = 'r' :: ("oot = ".toList ++ '"' :: s) from rfl] at hroot ⊢
  rw [statements_of_ne (show skipBlanks ('r' :: _) = 'r' :: _ from rfl) (by decide), hroot]
  cases r <;> rfl

theorem statements_starterFor {r : Except Fault (List Char × List Char)}
    (h : quotedText? ('"' :: s) = some r) :
    statements (n + 9) .empty (linesText (starterLines.take 8) ++ ("root = ".toList ++ '"' :: s)) =
      r >>= fun p => goOn (statements n) (rooted (String.ofList p.1), p.2) := by
  have htop : linesText (starterLines.take 8) ++ ("root = ".toList ++ '"' :: s) = linesText
    (starterLines.take 6) ++
      ("[project]".toList ++ '\n' ::
        (linesText ((starterLines.drop 7).take 1) ++ ("root = ".toList ++ '"' :: s))) := by
    rw [show starterLines.take 8 = starterLines.take 6 ++
      ("[project]" :: (starterLines.drop 7).take 1) from rfl, linesText_append]
    simp [linesText]
  obtain ⟨hhead, hcomment⟩ := List.forall_mem_append.1 idle_front
  rw [htop, show n + 9 = n + 3 + (starterLines.take 6).length from rfl, statements_idleLines hhead,
    statements_project,
    show n + 2 = n + 1 + ((starterLines.drop 7).take 1).length from rfl,
      statements_idleLines hcomment, statements_root h]

end Starter

section Breaks

theorem joinBreaks_append_of_not_mem {a : List Char} (h : '\r' ∉ a) (s : List Char) :
    joinBreaks (a ++ s) = a ++ joinBreaks s := by
  induction a with
  | nil => rfl
  | cons c a ih =>
    rw [List.mem_cons, not_or] at h
    rw [List.cons_append, joinBreaks.eq_def]
    split
    · next hc => exact absurd (List.cons.inj hc).1.symm h.1
    · next hc =>
      obtain ⟨rfl, rfl⟩ := List.cons.inj hc
      rw [ih h.2]
      rfl
    · next hc => cases hc

theorem joinBreaks_append {c : Char} (hc : c ≠ '\n') (s u : List Char) :
    joinBreaks (s ++ c :: u) = joinBreaks s ++ joinBreaks (c :: u) := by
  fun_induction joinBreaks s with
  | case1 s ih => exact congrArg ('\n' :: ·) ih
  | case2 b s hb ih =>
    rw [List.cons_append, List.cons_append, ← ih, joinBreaks.eq_2]
    intro s' hreturn hbreak
    cases s with
    | nil => exact hc (List.cons.inj hbreak).1
    | cons e s => exact hb s hreturn (by rw [(List.cons.inj hbreak).1])
  | case3 => rfl

theorem length_joinBreaks_le (s : List Char) : (joinBreaks s).length ≤ s.length := by
  fun_induction joinBreaks s with
  | case1 s ih => simp; omega
  | case2 c s _ ih => simpa using ih
  | case3 => simp

theorem joinBreaks_plain (h : Plain s) : joinBreaks s = s := by
  have hreturn : '\r' ∉ s := fun hmem => by cases (h _ hmem).2.2
  rw [← List.append_nil s, joinBreaks_append_of_not_mem hreturn]
  rfl

end Breaks

section Reading

/-- The same settings for another root. -/
def withRoot (d : Settings) (root : Value) : Settings :=
  { d with project := { d.project with root := root } }

theorem read_insert {t u : Table Value} (h : t.find? "project" = some (.table u)) (v : Value) :
    Settings.read (t.insert "project" (.table (Table.insert u "root" v))) = (Settings.read t).map
      (withRoot · v) := by
  have hproject : readProject (.table (Table.insert u "root" v)) = (readProject (.table u)).map
    ({ · with root := v }) := by
    simp only [readProject, entry, Table.find?_insert]
    rfl
  have hother (name : String) (hname : name ≠ "project") :
      (t.insert "project" (.table (Table.insert u "root" v))).find? name = t.find? name := by
    rw [Table.find?_insert, if_neg (by simpa using hname)]
  have hthis : (t.insert "project" (.table (Table.insert u "root" v))).find? "project" =
      some (.table (Table.insert u "root" v)) := by
    rw [Table.find?_insert, if_pos (by simp)]
  simp only [Settings.read, hthis, h, hother "environment" (by decide),
    hother "linting" (by decide),
    hother "formatting" (by decide), hother "errors" (by decide), Option.getD_some, hproject]
  cases readProject (.table u) with
  | error m => rfl
  | ok project =>
    cases readEnvironment ((t.find? "environment").getD (.table [])) with
    | error m => rfl
    | ok environment =>
      cases readLinting ((t.find? "linting").getD (.table [])) with
      | error m => rfl
      | ok linting =>
        cases readFormatting ((t.find? "formatting").getD (.table [])) with
        | error m => rfl
        | ok formatting => cases readErrors ((t.find? "errors").getD (.table [])) <;> rfl

theorem read_swapped {x y : String} {t t' : Table Value}
    (h : Swapped x y ["project", "root"] t t') :
    Settings.read t' = (Settings.read t).map (withRoot · (.text y)) := by
  obtain ⟨u, hproject, -, rfl⟩ := swapped_two_iff.1 h
  exact read_insert hproject _

theorem root_of_read {x : String} {t : Table Value} {settings : Settings}
    (h : Swapped x x ["project", "root"] t t)
    (hread : Settings.read t = .ok settings) : settings.project.root = .text x := by
  have hself := read_swapped h
  rw [hread] at hself
  rw [Except.ok.inj hself]
  rfl

/-- A text is a document that gives settings. -/
def Gives (text : List Char) (settings : Settings) : Prop :=
  ∃ t, Toml.parse text = .ok t ∧ Settings.read t = .ok settings

def isSound (s : List Char) : Bool :=
  ends 120 (rooted ".") s &&
    ((statements 120 (rooted ".") s).toOption.any fun d => (Settings.read d.root).isOk) &&
    !Text.occurs ['"', '"'] s && decide (128 ≤ s.length)

theorem isSound_iff : isSound s = true ↔ ends 120 (rooted ".") s = true ∧
    (∃ d settings, statements 120 (rooted ".") s = .ok d ∧ Settings.read d.root = .ok settings) ∧
      ¬ ['"', '"'] <:+: s ∧ 128 ≤ s.length := by
  simp only [isSound, Bool.and_eq_true, and_assoc, decide_eq_true_eq, Bool.not_eq_true',
    Text.occurs_eq_false_iff]
  refine and_congr_right fun _ => and_congr_left fun _ => ?_
  cases statements 120 (rooted ".") s with
  | error e => simp [Except.toOption]
  | ok d => cases hread :
      Settings.read d.root <;> simp [Except.toOption, Except.isOk, Except.toBool, hread]

theorem isSound_backLines : isSound (linesText backLines) = true := by
  simp (disch := with_reducible rfl) only [linesText, backLines, starterLines, List.drop_succ_cons,
    List.drop_zero, List.flatMap_cons, List.flatMap_nil, toList_eq_of_eq]
  decide +kernel

theorem return_not_mem : '\r' ∉ linesText starterLines := by
  simp (disch := with_reducible rfl) only [linesText, starterLines, List.flatMap_cons,
    List.flatMap_nil, toList_eq_of_eq]
  decide +kernel

theorem joinBreaks_starterFor (root : String) : joinBreaks (starterFor root).toList =
    linesText (starterLines.take 8) ++
      ("root = ".toList ++ '"' ::
        (joinBreaks root.toList ++ '"' :: '\n' :: linesText backLines)) := by
  have hlines : '\r' ∉ linesText (starterLines.take 8) ∧ '\r' ∉ linesText backLines := by
    have hall := return_not_mem
    rw [show starterLines = starterLines.take 8 ++ (["root = \".\""] ++ backLines) from rfl,
      linesText_append, linesText_append, List.mem_append, List.mem_append, not_or, not_or] at hall
    exact ⟨hall.1, hall.2.2⟩
  rw [toList_starterFor]
  -- the lines themselves do not matter from here on
  generalize linesText (starterLines.take 8) = front, linesText backLines = back at hlines ⊢
  have hfront : '\r' ∉ front ++ "root = \"".toList := by
    rw [List.mem_append, not_or]
    exact ⟨hlines.1, by decide⟩
  have hback : '\r' ∉ '"' :: '\n' :: back := by simpa using hlines.2
  have hself : joinBreaks ('"' :: '\n' :: back) = '"' :: '\n' :: back := by
    simpa [joinBreaks] using joinBreaks_append_of_not_mem hback []
  have hmiddle := joinBreaks_append_of_not_mem hfront (root.toList ++ '"' :: '\n' :: back)
  rw [joinBreaks_append (by decide), hself, List.append_assoc, List.append_assoc] at hmiddle
  exact hmiddle

theorem parse_eq_ok {text : List Char} {t : Table Value} : Toml.parse text = .ok t ↔
    ∃ d, statements ((joinBreaks text).length + 1) .empty (joinBreaks text) = .ok d ∧
      d.root = t := by
  rw [Toml.parse]
  cases statements ((joinBreaks text).length + 1) .empty (joinBreaks text) <;> simp

theorem statements_joinBreaks {root : String} {r : Except Fault (List Char × List Char)}
    (h : quotedText? ('"' :: (joinBreaks root.toList ++ '"' :: '\n' :: linesText backLines)) =
      some r) :
    ∃ n, statements ((joinBreaks (starterFor root).toList).length + 1) .empty
      (joinBreaks (starterFor root).toList) =
      r >>= fun p => goOn (statements (120 + n)) (rooted (String.ofList p.1), p.2) := by
  have hlonger (front back : List Char) (h : 128 ≤ back.length) :
      128 ≤ (front ++
        ("root = ".toList ++ '"' :: (joinBreaks root.toList ++ '"' :: '\n' :: back))).length := by
    simp only [List.length_append, List.length_cons]
    omega
  have hlength : 128 ≤ (joinBreaks (starterFor root).toList).length := by
    rw [joinBreaks_starterFor]
    exact hlonger _ _ (isSound_iff.1 isSound_backLines).2.2.2
  obtain ⟨n, hn⟩ := Nat.exists_eq_add_of_le hlength
  replace hn : (joinBreaks (starterFor root).toList).length + 1 = 120 + n + 9 := by omega
  refine ⟨n, ?_⟩
  rw [hn, joinBreaks_starterFor, statements_starterFor h]

theorem statements_plain {root : String} (h : Plain root.toList) :
    ∃ n, statements ((joinBreaks (starterFor root).toList).length + 1) .empty
      (joinBreaks (starterFor root).toList) =
      statements (120 + n) (rooted root) (linesText backLines) := by
  have hquoted := quotedText?_plain (q := linesText backLines) h
  rw [← joinBreaks_plain h] at hquoted
  obtain ⟨n, hn⟩ := statements_joinBreaks hquoted
  refine ⟨n, hn.trans ?_⟩
  rw [joinBreaks_plain h]
  change goOn (statements (120 + n)) (rooted (String.ofList root.toList),
    '\n' :: linesText backLines) = _
  rw [String.ofList_toList]
  rfl

theorem differsIn_rooted (root : String) :
    DiffersIn "." root ["project", "root"] (rooted ".") (rooted root) :=
  ⟨(rooted root).root, rfl, swapped_two_iff.2 ⟨_, rfl, rfl, rfl⟩⟩

theorem gives_of_plain {root : String} (h : Plain root.toList) :
    ∃ settings, Gives starter.toList settings ∧
      Gives (starterFor root).toList (withRoot settings (.text root)) := by
  obtain ⟨hends, ⟨d, settings, hback, hread⟩, -⟩ := isSound_iff.1 isSound_backLines
  replace hback (n : Nat) : statements (120 + n) (rooted ".") (linesText backLines) = .ok d :=
    (statements_add hends n).trans hback
  refine ⟨settings, ?_, ?_⟩
  · obtain ⟨n, hn⟩ := statements_plain (show Plain ".".toList by decide)
    rw [show starterFor "." = starter from rfl] at hn
    exact ⟨d.root, parse_eq_ok.2 ⟨d, hn.trans (hback n), rfl⟩, hread⟩
  · obtain ⟨n, hn⟩ := statements_plain h
    have halike := alike_statements (differsIn_rooted root) (120 + n) (linesText backLines)
    rw [hback, ← hn] at halike
    cases hstatements : statements _ .empty (joinBreaks (starterFor root).toList) with
    | error e =>
      rw [hstatements] at halike
      cases halike
    | ok d' =>
      rw [hstatements] at halike
      cases halike with
      | ok hd =>
        obtain ⟨root', rfl, hswapped⟩ := hd
        refine ⟨root', parse_eq_ok.2 ⟨_, hstatements, rfl⟩, ?_⟩
        rw [read_swapped hswapped, hread]
        rfl

theorem plain_of_gives {root : String} {settings : Settings}
    (h : Gives (starterFor root).toList settings)
    (hroot : settings.project.root = .text root) : Plain root.toList := by
  obtain ⟨t, hparse, hread⟩ := h
  obtain ⟨d, hd, rfl⟩ := parse_eq_ok.1 hparse
  obtain ⟨r, hquoted⟩ :=
    exists_quotedText? (joinBreaks root.toList ++ '"' :: '\n' :: linesText backLines)
  obtain ⟨n, hn⟩ := statements_joinBreaks hquoted
  rw [hn] at hd
  cases r with
  | error e => cases hd
  | ok p =>
    have hswapped : Swapped _ _ ["project", "root"] d.root d.root :=
      swapped_of_goOn (swapped_two_iff.2 ⟨_, rfl, rfl, rfl⟩) hd
    have htext : p.1 = root.toList := by
      have heq := (root_of_read hswapped hread).symm.trans hroot
      rw [← Value.text.inj heq, String.toList_ofList]
    have hlength : (joinBreaks root.toList).length ≤ p.1.length := by
      rw [htext]
      exact length_joinBreaks_le _
    obtain ⟨hp, hplain⟩ :=
      plain_of_quotedText? hquoted (isSound_iff.1 isSound_backLines).2.2.1 hlength
    rwa [← hp, htext] at hplain

end Reading

end TypedTemplate.Command
