import TypedTemplate.Proofs.Style.Sheet

/-! What the repair of a template keeps. The comments of a sheet mean the same after the repair
exactly if, in every type that the first union of its line stands in, this union begins the type and
brackets only close behind it. -/
namespace TypedTemplate.Style
open Text TypeExpr Directive

namespace Sheet

variable {s : Sheet}

def Outside : (before : List Char) → List Cell → Prop
  | _, [] => True
  | x, .char c :: cs => Outside (x ++ [c]) cs
  | x, .place t :: cs => ¬ Comment.Open x ∧ '{' ∉ t.text ∧ Outside [] cs

structure ProseOk (cs : List Cell) : Prop where
  clear : Clear cs
  outside : Outside [] cs

/-- Old unions stand in places only, and every place stands within a line that it knows. So no sheet
has an old union in another comment or in the default of a parameter, or a line end that is no line
feed. -/
structure Sound (s : Sheet) : Prop where
  prose : ∀ p ∈ s.notes, ProseOk p.1
  ending : ProseOk s.rest
  notes : ∀ p ∈ s.notes, p.2.Sound
  lineFed : LineFed s.text
  located : ∀ r ∈ rows s.cells, ∀ e ∈ r, e.LiesIn (textOf r)

theorem map_id (s : Sheet) : s.map id = s := by
  simp only [Sheet.map, Declaration.map_id, Cell.map_id, List.map_id]
  simp

theorem textOf_cells_eq (s : Sheet) : textOf s.cells = s.text := by
  have := @Sheet.textOf_cells id (fun _ _ => rfl) s
  rwa [Cell.map_id, List.map_id, map_id] at this

theorem Sound.unbroken_row (h : s.Sound) {r : List Cell} (hr : r ∈ rows s.cells) :
    Unbroken (textOf r) := by
  intro c hc
  obtain ⟨e, he, hc⟩ := List.mem_flatMap.1 hc
  have hcell : e ∈ s.cells := (infix_of_mem_rows hr).subset he
  have hmem : c ∈ s.text := by
    rw [← textOf_cells_eq]
    exact List.mem_flatMap.2 ⟨e, hcell, hc⟩
  by_contra hend
  obtain rfl := h.lineFed c hmem (by simpa using hend)
  cases e with
  | char d =>
    obtain rfl : '\n' = d := List.mem_singleton.1 hc
    exact absurd (isLineFeed_of_mem_rows hr _ he) (by decide)
  | place t => exact (h.located r hr _ he).2 hc

theorem text_eq (s : Sheet) : s.text = unlines ((rows s.cells).map textOf) := by
  rw [textOf_rows, textOf_cells_eq]

theorem mendSlot_quiet (t : Slot) (ht : Quiet t.text) : (mendSlot t).text = t.text :=
  ht.mendedIn t.line

theorem Sound.text_mend (h : s.Sound) :
    (s.map mendSlot).text = unlines ((rows s.cells).map fun r => mended (textOf r)) := by
  have hclear := Sheet.clear_cells (fun p hp => (h.prose p hp).clear) h.ending.clear h.notes
  rw [← Sheet.textOf_cells mendSlot_quiet, ← textOf_rows, rows_map, List.map_map]
  refine congrArg unlines (List.map_congr_left fun r hr => ?_)
  exact (mended_textOf (hclear.row hr) (h.located r hr)).symm

theorem Sound.bodies_repaired (h : s.Sound) :
    Comment.bodies ((edits (lines s.text)).foldl edit s.text) = Comment.bodies
      (s.map mendSlot).text := by
  have hrows : ∀ l ∈ (rows s.cells).map textOf, Unbroken l :=
    List.forall_mem_map.2 fun r hr => h.unbroken_row hr
  have hmended : ∀ l ∈ (rows s.cells).map fun r => mended (textOf r), Unbroken l :=
    List.forall_mem_map.2 fun r hr => unbroken_mended (h.unbroken_row hr)
  refine Comment.bodies_congr (lineFed_foldl (fun e he => fits_of_mem_edits he) h.lineFed) ?_
    fun k => ?_
  · rw [h.text_mend]
    exact lineFed_unlines hmended
  · rw [lineAt_repaired, h.text_mend, lineAt_unlines hmended, text_eq, lineAt_unlines hrows]
    cases hk : (rows s.cells)[k]? with
    | none => simp [hk, mended, oldUnion?, bracketed?]
    | some r => simp [hk]

theorem begins_note {n : Note} (hg : ∀ c ∈ n.gap, isBlank c = true)
    (hp : ∀ c ∈ n.pad, isBlank c = true)
    (hd : '#' ∉ n.decl.text) (rest : List Char) :
    Comment.Begins (n.text ++ rest) n.gap (n.pad ++ n.decl.text) rest := by
  refine ⟨rfl, hg, ?_, ?_⟩
  · simp only [List.mem_append, not_or]
    exact ⟨fun hm => absurd (hp _ hm) (by decide), hd⟩
  · cases n.decl <;> simp [Declaration.text, varWord, filterWord, macroWord]

theorem bodies_text (h : ∀ p ∈ s.notes, (∀ c ∈ p.2.gap, isBlank c = true) ∧
      (∀ c ∈ p.2.pad, isBlank c = true) ∧ '#' ∉ p.2.decl.text) :
    Comment.bodies s.text =
      s.notes.flatMap (fun p => Comment.bodies (textOf p.1) ++ [p.2.pad ++ p.2.decl.text]) ++
        Comment.bodies (textOf s.rest) := by
  obtain ⟨notes, rest⟩ := s
  induction notes with
  | nil => rfl
  | cons p notes ih =>
    obtain ⟨hg, hp, hd⟩ := h p (by simp)
    have hbegin := begins_note hg hp hd (Sheet.mk notes rest).text
    have htext : (Sheet.mk (p :: notes) rest).text = textOf p.1 ++
      (p.2.text ++ (Sheet.mk notes rest).text) := by
      simp [Sheet.text]
    rw [htext, hbegin.bodies_append, hbegin.bodies_eq, ih fun q hq => h q (by simp [hq])]
    simp

theorem mem_textOf_map {g : Slot → Slot} {cs : List Cell} {c : Char}
    (h : c ∈ textOf (cs.map (Cell.map g))) :
    c ∈ textOf cs ∨ ∃ t, .place t ∈ cs ∧ c ∈ (g t).text := by
  rw [textOf, List.flatMap_map, List.mem_flatMap] at h
  obtain ⟨e, he, hc⟩ := h
  cases e with
  | char d => exact .inl (List.mem_flatMap.2 ⟨_, he, hc⟩)
  | place t => exact .inr ⟨t, he, hc⟩

theorem mem_mendedIn {line x : List Char} {c : Char} (h : c ∈ mendedIn line x) :
    c ∈ x ∨ c ∈ " | None".toList := by
  by_cases hx : ∀ old, oldUnion? line = some old → ¬ old <:+: x
  · rw [mendedIn_eq_self hx] at h
    exact .inl h
  · simp only [not_forall, not_not] at hx
    obtain ⟨old, ho, hin⟩ := hx
    obtain ⟨head, hh, inner, hc, -⟩ := oldUnion?_eq_some ho
    rw [mendedIn, ho, Option.elim_some] at h
    rcases mem_replace h with h | h
    · exact (mem_withBars hh hc h).imp_left fun h => hin.subset (by rw [hc.eq]; simp [h])
    · exact .inl h

theorem Outside.bodies_mend {x : List Char} {cs : List Cell} (h : Outside x cs) :
    Comment.bodies (x ++ textOf (cs.map (Cell.map mendSlot))) = Comment.bodies
      (x ++ textOf cs) := by
  induction cs generalizing x with
  | nil => rfl
  | cons e cs ih =>
    cases e with
    | char c =>
      have := ih h
      rwa [List.append_assoc, List.append_assoc] at this
    | place t =>
      obtain ⟨hopen, hbrace, hrest⟩ := h
      have hmended : '{' ∉ (mendSlot t).text :=
        fun hm => hbrace ((mem_mendedIn hm).resolve_right (by decide))
      change Comment.bodies (x ++ ((mendSlot t).text ++ textOf (cs.map (Cell.map mendSlot)))) =
        Comment.bodies (x ++ (t.text ++ textOf cs))
      rw [Comment.bodies_append_of_not_open hopen, Comment.bodies_append_of_not_open hopen,
        Comment.bodies_append_of_not_mem hmended, Comment.bodies_append_of_not_mem hbrace]
      exact congrArg _ (ih hrest)

theorem hash_not_mem_mend {d : Declaration} (h : '#' ∉ d.text) : '#' ∉ (d.map mendSlot).text := by
  have htext : textOf (declarationCells d) = d.text := by
    have := @textOf_declarationCells id (fun _ _ => rfl) d
    rwa [Cell.map_id, List.map_id, Declaration.map_id] at this
  rw [← htext] at h
  rw [← textOf_declarationCells mendSlot_quiet]
  intro hm
  rcases mem_textOf_map hm with hm | ⟨t, ht, hm⟩
  · exact h hm
  · exact h (List.mem_flatMap.2 ⟨_, ht, (mem_mendedIn hm).resolve_right (by decide)⟩)

theorem map_flatMap_eq_iff {α β γ : Type} {f : β → γ} {a : α → List β} {b b' : α → β} {r : List β}
    {l : List α} :
    (l.flatMap (fun p => a p ++ [b' p]) ++ r).map f = (l.flatMap (fun p => a p ++ [b p]) ++ r).map
      f ↔ ∀ p ∈ l, f (b' p) = f (b p) := by
  induction l with
  | nil => simp
  | cons p l ih =>
    rw [List.forall_mem_cons, ← ih]
    simp

theorem Sound.senses_iff (h : s.Sound) (hs : ∀ b ∈ Comment.bodies s.text, sense b ≠ none) :
    (Comment.bodies (s.map mendSlot).text).map sense = (Comment.bodies s.text).map sense ↔
      ∀ t ∈ s.slots, KeptIn t.line t.text := by
  have hnotes : ∀ p ∈ s.notes, (∀ c ∈ p.2.gap, isBlank c = true) ∧
    (∀ c ∈ p.2.pad, isBlank c = true) ∧
      '#' ∉ p.2.decl.text :=
        fun p hp => ⟨(h.notes p hp).gap, (h.notes p hp).pad, (h.notes p hp).unclosed⟩
  have hmended : ∀ p ∈ (s.map mendSlot).notes, (∀ c ∈ p.2.gap, isBlank c = true) ∧
      (∀ c ∈ p.2.pad, isBlank c = true) ∧ '#' ∉ p.2.decl.text :=
    List.forall_mem_map.2 fun p hp => ⟨(hnotes p hp).1, (hnotes p hp).2.1,
      hash_not_mem_mend (hnotes p hp).2.2⟩
  have hbodies := bodies_text hnotes
  have hprose : ∀ p ∈ s.notes, Comment.bodies (textOf (p.1.map (Cell.map mendSlot))) =
    Comment.bodies (textOf p.1) :=
    fun p hp => (h.prose p hp).outside.bodies_mend
  have hnotes' :
      (s.map mendSlot).notes.flatMap
        (fun p => Comment.bodies (textOf p.1) ++ [p.2.pad ++ p.2.decl.text]) =
      s.notes.flatMap fun p => Comment.bodies (textOf p.1) ++
        [p.2.pad ++ (p.2.decl.map mendSlot).text] := by
    rw [Sheet.map, List.flatMap_map]
    exact List.flatMap_congr fun p hp => by rw [hprose p hp]
  have hending : Comment.bodies (textOf (s.map mendSlot).rest) = Comment.bodies (textOf s.rest) :=
    h.ending.outside.bodies_mend
  rw [bodies_text hmended, hbodies, hnotes', hending, map_flatMap_eq_iff]
  rw [hbodies] at hs
  have hnote (p : List Cell × Note) (hp : p ∈ s.notes) :
      sense (p.2.pad ++ (p.2.decl.map mendSlot).text) = sense (p.2.pad ++ p.2.decl.text) ↔
        ∀ t ∈ p.2.decl.slots, KeptIn t.line t.text := by
    obtain ⟨-, hpad, -, hdecl⟩ := h.notes p hp
    have hsense : sense (p.2.pad ++ p.2.decl.text) ≠ none :=
      hs _ (List.mem_append_left _ (List.mem_flatMap.2 ⟨p, hp, by simp⟩))
    rw [Declaration.sense_map_iff hpad hdecl.framed (fun t ht => (hdecl.typed t ht).placed)
      (fun t ht => fills_mendedIn (hdecl.typed t ht)) hsense]
    exact forall₂_congr fun t ht => meaning_mendedIn_iff (hdecl.typed t ht)
  rw [Sheet.slots, List.forall_mem_flatMap]
  exact forall₂_congr hnote

theorem exists_ok_iff {ε α β : Type} {x : Except ε α} {f : α → β} {b : β} :
    (∃ a, x = .ok a ∧ f a = b) ↔ x.toOption.map f = some b := by
  cases x <;> simp [Except.toOption]

/-- A template whose unions of the old style stand in declared types means the same after its repair
exactly if the first union of every line begins each type that it occurs in, has a bar, and is
followed there by closing brackets only. -/
theorem parseAll_repair_iff (h : s.Sound) {filename content : String} (hs : content.toList = s.text)
    {cs : List Comment} (hc : Comment.parseAll filename content = .ok cs) :
    (∃ cs', Comment.parseAll filename (repair content (lint .standard filename content)) = .ok cs' ∧
      Comment.meanings cs' = Comment.meanings cs) ↔ ∀ t ∈ s.slots, KeptIn t.line t.text := by
  have hmeant : (Comment.bodies s.text).map sense = (Comment.meanings cs).map some := by
    have := Comment.toOption_parseAll filename content
    rw [hc, hs] at this
    exact mapM_eq_some_iff.1 this.symm
  have hread : ∀ b ∈ Comment.bodies s.text, sense b ≠ none := fun b hb hnone => by
    have : sense b ∈ (Comment.meanings cs).map some := hmeant ▸ List.mem_map_of_mem hb
    simp [hnone] at this
  have hrepaired : (repair content (lint .standard filename content)).toList =
      (edits (lines s.text)).foldl edit s.text := by
    rw [repair, String.toList_ofList, foldl_repairOne_lint, hs]
  rw [exists_ok_iff, Comment.toOption_parseAll, hrepaired, h.bodies_repaired, mapM_eq_some_iff,
    ← hmeant, h.senses_iff hread]

end Sheet

def nestedUnion : Sheet :=
  let type := "Union[int, list[str]]".toList
  let line := "\x7b# typja:var a: Union[int, list[str]] #\x7d".toList
  ⟨[([], ⟨[' '], [], .vars [⟨" a".toList, [' '], ⟨type, line⟩, [' ']⟩]⟩)], chars ['\n']⟩

theorem typed_nestedUnion : Typed "Union[int, list[str]]".toList := by
  have name (s : List Char) (hp : Plain s) (ht : Trimmed s) (hne : s ≠ []) :
      Spelled (ofName s) (trim s) := by
    rw [trim_eq_self ht]
    exact .name hp ht hne
  have hstr := name "str".toList (by decide) ⟨by decide, by decide⟩ (by decide)
  have hint := name "int".toList (by decide) ⟨by decide, by decide⟩ (by decide)
  have hbase : Base "list".toList := ⟨by decide, by decide⟩
  have hlist := @Spelled.generic _ [⟨_, "str".toList⟩] hbase (by decide) (by decide) (by decide)
    (by simp) (by simpa using hstr)
  have hunion := @Spelled.union [⟨_, "int".toList⟩, ⟨_, " list[str]".toList⟩] (by simp)
      (by simpa using ⟨hint, hlist⟩)
  exact .spelling (.single hunion)

theorem sound_nestedUnion : nestedUnion.Sound where
  prose p hp := by
    obtain rfl := List.mem_singleton.1 hp
    exact ⟨trivial, trivial⟩
  ending := ⟨⟨by decide, trivial⟩, trivial⟩
  notes p hp := by
    obtain rfl := List.mem_singleton.1 hp
    refine ⟨by decide, by decide, by decide, ?_, ?_, ?_⟩
    · intro f hf
      obtain rfl := List.mem_singleton.1 hf
      exact ⟨⟨by decide, by decide, by decide⟩, by decide⟩
    · intro s hs
      obtain rfl := List.mem_singleton.1 hs
      exact typed_nestedUnion
    · simp [fallbacks]
  lineFed := by
    unfold LineFed
    decide +kernel
  located := by decide +kernel

theorem keptIn_nestedUnion : ∀ t ∈ nestedUnion.slots, KeptIn t.line t.text := by
  intro t ht
  obtain rfl := List.mem_singleton.1 ht
  intro old ho _
  obtain rfl : "Union[int, list[str]".toList = old := Option.some.inj (Eq.trans (by decide) ho)
  refine ⟨by decide, ?_, by decide, by decide⟩
  unfold Closing
  decide

theorem parseAll_repair_iff_nestedUnion :
    let content := String.ofList nestedUnion.text
    nestedUnion.Sound ∧ (∀ t ∈ nestedUnion.slots, KeptIn t.line t.text) ∧
      ∃ cs, Comment.parseAll "t.html" content = .ok cs ∧
      ((∃ cs', Comment.parseAll "t.html" (repair content (lint .standard "t.html" content)) =
        .ok cs' ∧
        Comment.meanings cs' = Comment.meanings cs) ↔
          ∀ t ∈ nestedUnion.slots, KeptIn t.line t.text) := by
  intro content
  have hread : (Comment.parseAll "t.html" content).toOption.isSome = true := by decide +kernel
  refine ⟨sound_nestedUnion, keptIn_nestedUnion, ?_⟩
  cases hc : Comment.parseAll "t.html" content with
  | error e =>
    rw [hc] at hread
    cases hread
  | ok cs =>
    exact ⟨cs, rfl, Sheet.parseAll_repair_iff sound_nestedUnion (String.toList_ofList ..) hc⟩

theorem repair_unreadable_optional_list :
    let content := "\x7b# typja:var x: Optional[list[int]] #\x7d"
    let repaired := repair content (lint .standard "t.html" content)
    (Comment.parseAll "t.html" content).toOption.isSome = true ∧
      repaired = "\x7b# typja:var x: list[int | None] #\x7d" ∧
      (Comment.parseAll "t.html" repaired).toOption.isSome = false := by
  intro content repaired
  have hrepaired : repaired = "\x7b# typja:var x: list[int | None] #\x7d" := by
    simp only [repaired, repair, foldl_repairOne_lint]
    decide +kernel
  rw [hrepaired]
  decide +kernel

end TypedTemplate.Style
