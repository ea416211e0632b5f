import TypedTemplate.Proofs.Style.Union
import TypedTemplate.Proofs.Text.Lines
import TypedTemplate.Style.Repair

/-! Repairing what the rules find. Only findings about unions change a content, each of them one
line, and no line has two of them. So one pass over the findings replaces the first union of every
line, and a second pass with the same findings changes something exactly where a union is left in a
line that had one. -/
namespace TypedTemplate.Style
open Text

abbrev Edit := Nat × List Char

def edits (ls : List (List Char)) : List Edit :=
  ls.zipIdx.filterMap fun (l, k) => (oldUnion? l).map fun old => (k, withBars old)

def edit (content : List Char) (e : Edit) : List Char :=
  match ((lines content)[e.1]?).bind (repairLine e.2) with
  | some line => unlines ((lines content).set e.1 line)
  | none => content

def mend (new line : List Char) : List Char := (repairLine new line).getD line

/-- A line after the repair of its own finding. -/
def mended (line : List Char) : List Char :=
  (oldUnion? line).elim line fun old => replace old (withBars old) line

section Findings

variable {severity : Severity} {filename : String}

theorem proposal?_union (n : Int) (shown : String) (new : List Char) :
    proposal? (finding severity filename n (Rule.barUnions.message shown)
      ("Use: " ++ String.ofList new)) = some new := by
  have hp : "Use PEP 604".toList <+: "Use PEP 604 union syntax (X | Y) instead of ".toList := by
    decide
  have hm : "Use PEP 604".toList <:+: "Use PEP 604 union syntax (X | Y) instead of ".toList ++
    shown.toList :=
    (hp.trans (List.prefix_append _ _)).isInfix
  have hmessage : (Rule.barUnions.message shown).toList = _ ++ shown.toList := String.toList_append
  simp only [proposal?, finding, hmessage, occurs_iff.2 hm, if_true, Option.bind_some,
    String.toList_append, String.toList_ofList, after?_append]

theorem repairOne_of_proposal {i : Issue} {new : List Char} {k : Nat} (hp : proposal? i = some new)
    (hl : i.line = (k : Int) + 1) (content : List Char) :
    repairOne content i = edit content (k, new) := by
  have hpos : ¬ i.line ≤ 0 := by omega
  have hplace : (i.line - 1).toNat = k := by omega
  rw [repairOne, hp]
  dsimp only
  rw [if_neg hpos, hplace]
  rfl

theorem repairOne_union (content : List Char) (k : Nat) (shown : String) (new : List Char) :
    repairOne content (finding severity filename ((k : Int) + 1) (Rule.barUnions.message shown)
      ("Use: " ++ String.ofList new)) = edit content (k, new) :=
  repairOne_of_proposal (proposal?_union _ _ _) rfl content

theorem repairOne_hint {i : Issue} {h : String} (hi : i.hint = some h)
    (hp : h.toList.head? ≠ some 'U') (content : List Char) : repairOne content i = content := by
  have ha : after? "Use: ".toList h.toList = none := by
    cases hc : after? "Use: ".toList h.toList with
    | none => rfl
    | some rest =>
      rw [after?_eq_some hc] at hp
      exact absurd rfl hp
  have : proposal? i = none := by
    rw [proposal?, hi, Option.bind_some, ha, ite_self]
  rw [repairOne, this]

/-- All that was found is about some block of imports. -/
def ImportScan.Judges (filename : String) (k : ImportScan) : Prop :=
  ∀ i ∈ k.found, ∃ block, i ∈ unsortedBlock filename block

theorem ImportScan.Judges.close {k : ImportScan} (h : k.Judges filename) :
    (k.close filename).Judges filename := by
  rw [ImportScan.close]
  split
  · exact h
  · exact List.forall_mem_append.2 ⟨h, fun i hi => ⟨k.block, hi⟩⟩

theorem ImportScan.Judges.add {k : ImportScan} (h : k.Judges filename) (l : ImportLine) :
    (k.add filename l).Judges filename := by
  rw [ImportScan.add]
  split
  · exact h.close
  · exact h

theorem exists_block_of_mem_unsorted {cs : List Comment} {i : Issue}
    (hi : i ∈ unsorted filename cs) :
    ∃ block, i ∈ unsortedBlock filename block := by
  have hscan : (cs.foldl (ImportScan.step filename) .start).Judges filename := by
    refine List.foldlRecOn (motive := ImportScan.Judges filename) cs _ (List.forall_mem_nil _)
      fun k hk c _ => ?_
    rw [ImportScan.step]
    split
    · exact hk.add _
    · exact hk.add _
    · exact hk
  exact hscan.close i hi

def Rule.opening : Rule → List Char
  | barUnions => "Use PEP 604 union syntax (X | Y) instead of ".toList
  | unusedImports => "Import '".toList
  | duplicates => "Duplicate declaration of '".toList
  | sortedImports => "Imports should be sorted alphabetically".toList
  | redundantNone => "Redundant None in union type".toList

theorem Rule.opening_message (rule : Rule) (subject : String) :
    rule.opening <+: (rule.message subject).toList := by
  cases rule with
  | barUnions =>
    change _ <+: ("Use PEP 604 union syntax (X | Y) instead of " ++ subject).toList
    rw [String.toList_append]
    exact List.prefix_append _ _
  | unusedImports =>
    change _ <+: ("Import '" ++ subject ++ "' is unused").toList
    rw [String.toList_append, String.toList_append, List.append_assoc]
    exact List.prefix_append _ _
  | duplicates =>
    change _ <+: ("Duplicate declaration of '" ++ subject ++ "'").toList
    rw [String.toList_append, String.toList_append, List.append_assoc]
    exact List.prefix_append _ _
  | sortedImports => exact List.prefix_rfl
  | redundantNone => exact List.prefix_rfl

theorem Rule.eq_of_opening {rule rule' : Rule} {m : List Char} (h : rule.opening <+: m)
    (h' : rule'.opening <+: m) :
    rule = rule' := by
  have hapart : ∀ r ∈ all, ∀ r' ∈ all, r.opening <+: r'.opening → r = r' := by decide +kernel
  have hall (r : Rule) : r ∈ all := by cases r <;> decide
  rcases List.prefix_or_prefix_of_prefix h h' with h | h
  · exact hapart _ (hall _) _ (hall _) h
  · exact (hapart _ (hall _) _ (hall _) h).symm

theorem told_of_mem_apply {s : Settings} {source : List Char} {cs : List Comment} {rule : Rule}
    {i : Issue} (hi : i ∈ apply s filename source cs rule) : rule.opening <+: i.message.toList ∧
      ∃ h, i.hint = some h ∧ (rule.repairs = false → h.toList.head? ≠ some 'U') := by
  cases rule with
  | barUnions =>
    rw [apply] at hi
    split at hi
    · obtain ⟨p, -, hp⟩ := List.mem_filterMap.1 hi
      obtain ⟨old, -, rfl⟩ := Option.map_eq_some_iff.1 hp
      exact ⟨Rule.opening_message _ _, _, rfl, fun hr => absurd hr (by decide)⟩
    · simp at hi
  | unusedImports =>
    rw [apply] at hi
    split at hi
    · obtain ⟨c, -, hi⟩ := List.mem_flatMap.1 hi
      simp only [unusedIn] at hi
      split at hi
      · split at hi
        · simp at hi
        · rw [List.mem_singleton.1 hi]
          exact ⟨Rule.opening_message _ _, _, rfl, by simp⟩
      · obtain ⟨n, -, rfl⟩ := List.mem_map.1 hi
        refine ⟨?_, _, rfl, by simp⟩
        change _ <+: ("Import '" ++ n.name ++ "' from '" ++ _ ++ "' is unused").toList
        simp only [String.toList_append, List.append_assoc]
        exact List.prefix_append _ _
      · simp at hi
    · simp at hi
  | duplicates =>
    obtain ⟨g, -, hi⟩ := List.mem_flatMap.1 hi
    simp only [repeated] at hi
    split at hi
    · simp at hi
    · obtain ⟨l, -, rfl⟩ := List.mem_map.1 hi
      exact ⟨Rule.opening_message _ _, _, rfl, by simp⟩
  | sortedImports =>
    rw [apply] at hi
    split at hi
    · obtain ⟨block, hi⟩ := exists_block_of_mem_unsorted hi
      unfold unsortedBlock at hi
      split at hi
      · split at hi
        · simp at hi
        · rw [List.mem_singleton.1 hi]
          exact ⟨Rule.opening_message .sortedImports "", _, rfl, by simp⟩
      · simp at hi
    · simp at hi
  | redundantNone =>
    obtain ⟨c, -, hi⟩ := List.mem_flatMap.1 hi
    obtain ⟨t, -, rfl⟩ := List.mem_map.1 hi
    exact ⟨Rule.opening_message .redundantNone "", _, rfl, by simp⟩

theorem repairOne_of_repairs {s : Settings} {source content : List Char} {cs : List Comment}
    {rule : Rule} {i : Issue}
    (hr : rule.repairs = false) (hi : i ∈ apply s filename source cs rule) :
    repairOne content i = content := by
  obtain ⟨-, h, hh, hp⟩ := told_of_mem_apply hi
  exact repairOne_hint hh (hp hr) content

theorem foldl_eq_self {α β : Type} {f : β → α → β} {b : β} {l : List α} (h : ∀ a ∈ l, f b a = b) :
    l.foldl f b = b := by
  induction l with
  | nil => rfl
  | cons a l ih => rw [List.foldl_cons, h a (by simp), ih fun x hx => h x (by simp [hx])]

theorem foldl_repairOne_oldUnions (source content : List Char) :
    (oldUnions severity filename source).foldl repairOne content = (edits (lines source)).foldl edit
      content := by
  have step (ps : List (List Char × Nat)) :
      ((ps.map fun p => ((p.2 : Int) + 1, p.1)).filterMap fun p =>
      (oldUnion? p.2).map fun old => finding severity filename p.1
        (Rule.barUnions.message (String.ofList old))
        ("Use: " ++ String.ofList (withBars old))).foldl repairOne content =
      (ps.filterMap fun p => (oldUnion? p.1).map fun old => (p.2, withBars old)).foldl edit
        content := by
    induction ps generalizing content with
    | nil => rfl
    | cons p ps ih =>
      obtain ⟨l, k⟩ := p
      cases h : oldUnion? l with
      | none => simpa [h] using ih content
      | some old => simpa [h, repairOne_union] using ih (edit content (k, withBars old))
  exact step (lines source).zipIdx

theorem foldl_repairOne_lint (filename source : String) (content : List Char) :
    (lint .standard filename source).foldl repairOne content = (edits (lines source.toList)).foldl
      edit content := by
  rw [lint, Rule.all, List.flatMap_cons, List.foldl_append]
  change List.foldl repairOne (List.foldl repairOne content (oldUnions _ _ _)) _ = _
  rw [foldl_repairOne_oldUnions]
  refine foldl_eq_self fun i hi => ?_
  obtain ⟨rule, hrule, hi⟩ := List.mem_flatMap.1 hi
  refine repairOne_of_repairs ?_ hi
  have : ∀ r ∈ [Rule.unusedImports, .duplicates, .sortedImports, .redundantNone],
    r.repairs = false := by decide
  exact this rule hrule

end Findings

section Edits

variable {content new : List Char} {es : List Edit} {k j : Nat}

theorem mem_edits {ls : List (List Char)} {e : Edit} :
    e ∈ edits ls ↔ ∃ l old, ls[e.1]? = some l ∧ oldUnion? l = some old ∧ withBars old = e.2 := by
  obtain ⟨k, new⟩ := e
  simp only [edits, List.mem_filterMap, Option.map_eq_some_iff, Prod.exists,
    List.mem_zipIdx_iff_getElem?, Prod.mk.injEq]
  constructor
  · rintro ⟨l, n, hl, old, ho, rfl, rfl⟩
    exact ⟨l, old, hl, ho, rfl⟩
  · rintro ⟨l, old, hl, ho, rfl⟩
    exact ⟨l, k, hl, old, ho, rfl, rfl⟩

theorem sorted_edits (ls : List (List Char)) : (edits ls).Pairwise fun d e => d.1 < e.1 := by
  have hz : ls.zipIdx.Pairwise fun p q => p.2 < q.2 := by
    rw [← List.pairwise_map (f := Prod.snd) (R := (· < ·)), List.zipIdx_map_snd]
    exact List.pairwise_lt_range'
  refine List.Pairwise.filterMap _ (fun p q hpq d hd e he => ?_) hz
  obtain ⟨_, -, rfl⟩ := Option.map_eq_some_iff.1 hd
  obtain ⟨_, -, rfl⟩ := Option.map_eq_some_iff.1 he
  exact hpq

theorem pairwise_edits (ls : List (List Char)) : (edits ls).Pairwise fun d e => d.1 ≠ e.1 :=
  (sorted_edits ls).imp Nat.ne_of_lt

/-- A spelling that stays within a line and closes no bracket. -/
structure Fits (new : List Char) : Prop where
  unbroken : Unbroken new
  opens : ']' ∉ new

theorem unbroken_withBars {l old : List Char} (hl : Unbroken l) (ho : oldUnion? l = some old) :
    Unbroken (withBars old) := by
  obtain ⟨head, hh, inner, hin, hs⟩ := oldUnion?_eq_some ho
  intro c hc
  rcases mem_withBars hh hin hc with hc | hc
  · exact hl c (hs.subset (by simp [hin.eq, hc]))
  · have : ∀ c ∈ " | None".toList, isLineEnd c = false := by decide
    exact this c hc

theorem fits_of_mem_edits {s : List Char} {e : Edit} (h : e ∈ edits (lines s)) : Fits e.2 := by
  obtain ⟨l, old, hl, ho, hn⟩ := mem_edits.1 h
  rw [← hn]
  obtain ⟨head, hh, inner, hin, -⟩ := oldUnion?_eq_some ho
  exact ⟨unbroken_withBars (unbroken_of_mem_lines (List.mem_of_getElem? hl)) ho,
    bracket_not_mem_withBars hh hin⟩

theorem unbroken_repairLine {l l' : List Char} (hn : Unbroken new) (hl : Unbroken l)
    (h : repairLine new l = some l') :
    Unbroken l' := by
  obtain ⟨old, -, rfl⟩ := Option.map_eq_some_iff.1 h
  intro c hc
  rcases mem_replace hc with hc | hc
  · exact hn c hc
  · exact hl c hc

theorem lineAt_edit (hn : Unbroken new) (j : Nat) :
    lineAt (edit content (k, new)) j = if j = k then mend new (lineAt content k)
      else lineAt content j := by
  cases hk : (lines content)[k]? with
  | none =>
    have he : edit content (k, new) = content := by simp [edit, hk]
    have hl : lineAt content k = [] := by simp [lineAt, hk]
    rw [he, hl]
    split
    · next h => rw [h, hl]; rfl
    · rfl
  | some l =>
    have hl : lineAt content k = l := by simp [lineAt, hk]
    have hb : Unbroken l := unbroken_of_mem_lines (List.mem_of_getElem? hk)
    cases hr : repairLine new l with
    | none =>
      have he : edit content (k, new) = content := by simp [edit, hk, hr]
      rw [he, hl, mend, hr]
      split
      · next h => rw [h, hl]; rfl
      · rfl
    | some l' =>
      have he : edit content (k, new) = unlines ((lines content).set k l') := by simp [edit, hk, hr]
      rw [he, lineAt_unlines, hl, mend, hr, List.getElem?_set]
      · split
        · next h =>
          subst h
          simp [(List.getElem?_eq_some_iff.1 hk).1]
        · next h => rw [if_neg fun hj => h hj.symm, lineAt]
      · intro m hm
        rcases List.mem_or_eq_of_mem_set hm with hm | rfl
        · exact unbroken_of_mem_lines hm
        · exact unbroken_repairLine hn hb hr

theorem edit_eq_self (h : oldUnion? (lineAt content k) = none) :
    edit content (k, new) = content := by
  cases hk : (lines content)[k]? with
  | none => simp [edit, hk]
  | some l =>
    have hr : repairLine new l = none := by simpa [lineAt, hk, repairLine] using h
    simp [edit, hk, hr]

theorem oldUnion?_eq_none_of_mend {l : List Char} (hn : ']' ∉ new) (h : mend new l = l) :
    oldUnion? l = none := by
  cases ho : oldUnion? l with
  | none => rfl
  | some old =>
    obtain ⟨head, -, inner, hin, hs⟩ := oldUnion?_eq_some ho
    have hlt := count_replace_lt hs (by simp [hin.eq]) hn
    have hm : mend new l = replace old new l := by simp [mend, repairLine, ho]
    rw [← hm, h] at hlt
    omega

theorem lineAt_foldl_of_ne (hf : ∀ e ∈ es, Fits e.2) (h : ∀ e ∈ es, e.1 ≠ j) (content : List Char) :
    lineAt (es.foldl edit content) j = lineAt content j := by
  induction es generalizing content with
  | nil => rfl
  | cons e es ih =>
    have hj : j ≠ e.1 := (h e (by simp)).symm
    rw [List.foldl_cons, ih (fun d hd => hf d (by simp [hd])) (fun d hd => h d (by simp [hd])),
      lineAt_edit (hf e (by simp)).unbroken, if_neg hj]

theorem lineAt_foldl (hd : es.Pairwise fun d e => d.1 ≠ e.1) (hf : ∀ e ∈ es, Fits e.2)
    (h : (k, new) ∈ es)
    (content : List Char) : lineAt (es.foldl edit content) k = mend new (lineAt content k) := by
  induction es generalizing content with
  | nil => simp at h
  | cons e es ih =>
    obtain ⟨hne, hd⟩ := List.pairwise_cons.1 hd
    have hrest : ∀ d ∈ es, Fits d.2 := fun d hd => hf d (by simp [hd])
    have he := (hf e (by simp)).unbroken
    rw [List.foldl_cons]
    rcases List.mem_cons.1 h with rfl | h
    · rw [lineAt_foldl_of_ne hrest fun d hd => (hne d hd).symm, lineAt_edit he, if_pos rfl]
    · have hk : k ≠ e.1 := (hne (k, new) h).symm
      rw [ih hd hrest h, lineAt_edit he, if_neg hk]

theorem foldl_edit_eq_self_iff (hd : es.Pairwise fun d e => d.1 ≠ e.1) (hf : ∀ e ∈ es, Fits e.2) :
    es.foldl edit content = content ↔ ∀ e ∈ es, oldUnion? (lineAt content e.1) = none := by
  constructor
  · intro h e he
    have hl := lineAt_foldl hd hf he content
    rw [h] at hl
    exact oldUnion?_eq_none_of_mend (hf e he).opens hl.symm
  · intro h
    exact foldl_eq_self fun e he => edit_eq_self (h e he)

end Edits

theorem unbroken_mended {l : List Char} (hl : Unbroken l) : Unbroken (mended l) := by
  cases ho : oldUnion? l with
  | none => rwa [mended, ho]
  | some old =>
    rw [mended, ho, Option.elim_some]
    exact unbroken_repairLine (unbroken_withBars hl ho) hl (by rw [repairLine, ho]; rfl)

theorem lineAt_repaired (content : List Char) (k : Nat) :
    lineAt ((edits (lines content)).foldl edit content) k = mended (lineAt content k) := by
  have hf : ∀ e ∈ edits (lines content), Fits e.2 := fun e he => fits_of_mem_edits he
  cases ho : oldUnion? (lineAt content k) with
  | none =>
    rw [lineAt_foldl_of_ne hf, mended, ho, Option.elim_none]
    rintro e he rfl
    obtain ⟨l, old, hl, hold, -⟩ := mem_edits.1 he
    simp [lineAt, hl, hold] at ho
  | some old =>
    obtain ⟨l, hl⟩ : ∃ l, (lines content)[k]? = some l := by
      refine Option.ne_none_iff_exists'.1 fun hn => ?_
      simp [lineAt, hn, oldUnion?, bracketed?] at ho
    have hline : lineAt content k = l := by simp [lineAt, hl]
    rw [hline] at ho
    rw [lineAt_foldl (pairwise_edits _) hf (mem_edits.2 ⟨l, old, hl, ho, rfl⟩), hline, mend,
      repairLine, ho, mended, ho]
    rfl

theorem lineFed_edit {e : Edit} (he : Fits e.2) {content : List Char} (h : LineFed content) :
    LineFed (edit content e) := by
  rw [edit]
  split
  · next line hline =>
    obtain ⟨l, hl, hr⟩ := Option.bind_eq_some_iff.1 hline
    refine lineFed_unlines fun m hm => ?_
    rcases List.mem_or_eq_of_mem_set hm with hm | rfl
    · exact unbroken_of_mem_lines hm
    · exact unbroken_repairLine he.unbroken (unbroken_of_mem_lines (List.mem_of_getElem? hl)) hr
  · exact h

theorem lineFed_foldl {es : List Edit} (hf : ∀ e ∈ es, Fits e.2) {content : List Char}
    (h : LineFed content) :
    LineFed (es.foldl edit content) := by
  induction es generalizing content with
  | nil => exact h
  | cons e es ih => exact ih (fun d hd => hf d (by simp [hd])) (lineFed_edit (hf e (by simp)) h)

theorem oldUnion?_mended {l : List Char} (h : oldUnion? l = none) :
    oldUnion? (mended l) = none := by
  simp [mended, h]

/-- Repairing with the same findings a second time changes nothing exactly where no line is left
with a union of the old style. -/
theorem repair_twice_iff (filename content : String) :
    repair content (lint .standard filename content ++ lint .standard filename content) =
      repair content (lint .standard filename content) ↔
      ∀ line ∈ lines content.toList, oldUnion? (mended line) = none := by
  have hd := pairwise_edits (lines content.toList)
  have hf : ∀ e ∈ edits (lines content.toList), Fits e.2 := fun e he => fits_of_mem_edits he
  rw [repair, repair, List.foldl_append, String.ofList_inj, foldl_repairOne_lint,
    foldl_repairOne_lint, foldl_edit_eq_self_iff hd hf]
  simp only [lineAt_repaired]
  constructor
  · intro h l hl
    obtain ⟨k, hk⟩ := List.mem_iff_getElem?.1 hl
    cases ho : oldUnion? l with
    | none => exact oldUnion?_mended ho
    | some old => simpa [lineAt, hk] using h (k, withBars old) (mem_edits.2 ⟨l, old, hk, ho, rfl⟩)
  · intro h e he
    obtain ⟨l, old, hl, ho, -⟩ := mem_edits.1 he
    simpa [lineAt, hl] using h l (List.mem_of_getElem? hl)

theorem repair_twice_two_unions :
    let content := "\x7b# typja:var a: Optional[int], b: Optional[str] #\x7d"
    let found := lint .standard "t.html" content
    repair content found = "\x7b# typja:var a: int | None, b: Optional[str] #\x7d" ∧
      repair content (found ++ found) = "\x7b# typja:var a: int | None, b: int | None #\x7d" := by
  intro content found
  simp only [repair, List.foldl_append, foldl_repairOne_lint, found]
  decide +kernel

end TypedTemplate.Style
