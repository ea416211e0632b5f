import TypedTemplate.Proofs.Style.Union
import TypedTemplate.Proofs.TypeExpr.Reading

/-! Whole unions of the old styles, spelled with bars. The text between the brackets is cut at the
same places whether the union is read as it stands or in its new spelling, so both are read with the
same members, or neither is. -/
namespace TypedTemplate.Style
open Text TypeExpr

/-- A whole union of an old style without bars: an optional of something, or a union of two or more
parts between commas outside all brackets, none of them blank. -/
inductive Whole : List Char → Prop
  | optional {inner : List Char} (hbar : '|' ∉ inner) (hfilled : trim inner ≠ []) :
  Whole (bracketed optionalName inner)
  | union {inner : List Char} (hbar : '|' ∉ inner) (htwo : 2 ≤ (splitTop ',' inner).length)
      (hfilled : ∀ p ∈ splitTop ',' inner, trim p ≠ []) : Whole (bracketed unionName inner)

theorem withBars_bracketed_optional (inner : List Char) :
    withBars (bracketed optionalName inner) = inner ++ (bar ++ "None".toList) := by
  rw [withBars, show bracketed optionalName inner = optionalHead ++ (inner ++ [']']) from rfl,
    after?_append]
  simp only [List.dropLast_concat]
  rfl

theorem withBars_bracketed_union (inner : List Char) :
    withBars (bracketed unionName inner) = bar.intercalate (splitTrimmed inner) := by
  rw [withBars, show bracketed unionName inner = unionHead ++ (inner ++ [']']) from rfl,
    after?_optionalHead_union, after?_append]
  simp only [List.dropLast_concat]
  rfl

section Read

variable {inner s : List Char}

theorem bar_absent_bracketed {base : List Char} (hbase : '|' ∉ base) (hbar : '|' ∉ inner) :
    ¬ bar <:+: bracketed base inner := bar_absent (by simp [bracketed, hbase, hbar])

theorem parseChars_union {style : UnionStyle} {ps : List (List Char)} (ht : Trimmed s)
    (hs : shape s = .union style ps) (hstyle : style ≠ .optional) :
    parseChars s = (ps.mapM parseChars).map (.union (String.ofList s) style) := by
  rw [parseChars_eq, trim_eq_self ht, hs, Shape.parts]
  cases ps.mapM parseChars with
  | error e => rfl
  | ok ts =>
    cases style with
    | optional => exact absurd rfl hstyle
    | pipe | union => rfl

theorem parseChars_bracketed_union (hbar : '|' ∉ inner) :
    parseChars (bracketed unionName inner) =
      ((splitArgs inner).mapM parseChars).map
      (.union (String.ofList (bracketed unionName inner)) .union) := by
  have hshape :=
    @shape_bracketed unionName inner (by decide) (bar_absent_bracketed (by decide) hbar)
  rw [if_pos rfl, splitArgs_trim] at hshape
  exact parseChars_union (trimmed_bracketed (by decide) inner) hshape (by decide)

theorem parseChars_bracketed_optional (hbar : '|' ∉ inner) :
    parseChars (bracketed optionalName inner) =
      (parseChars inner).map fun t => .union (String.ofList (bracketed optionalName inner))
        .optional [t, noneType] := by
  have hshape :=
    @shape_bracketed optionalName inner (by decide) (bar_absent_bracketed (by decide) hbar)
  rw [if_neg (by decide), if_pos rfl] at hshape
  rw [parseChars_eq, trim_eq_self (trimmed_bracketed (by decide) inner), hshape, Shape.parts,
    List.mapM_cons, List.mapM_nil, parseChars_trim]
  cases parseChars inner <;> rfl

theorem parseChars_bars {ps : List (List Char)} (htwo : 2 ≤ ps.length) (hbar : ∀ p ∈ ps, '|' ∉ p)
    (ht : Trimmed (bar.intercalate ps)) :
    parseChars (bar.intercalate ps) =
      (ps.mapM parseChars).map (.union (String.ofList (bar.intercalate ps)) .pipe) := by
  have hshape := shape_bars (bar_infix_intercalate htwo)
  rw [pieces_bars (List.ne_nil_of_length_pos (by omega)) hbar] at hshape
  exact parseChars_union ht hshape (by decide)

end Read

theorem splitArgs_eq_splitTrimmed {s : List Char} (h : ∀ p ∈ splitTop ',' s, trim p ≠ []) :
    splitArgs s = splitTrimmed s := by
  rw [splitArgs_eq, splitTrimmed_eq]
  refine List.filter_eq_self.2 fun p hp => ?_
  obtain ⟨q, hq, rfl⟩ := List.mem_map.1 hp
  simpa using h q hq

theorem parseChars_withBars_optional {inner : List Char} (hbar : '|' ∉ inner)
    (hfilled : trim inner ≠ []) :
    ∃ raw, parseChars (withBars (bracketed optionalName inner)) =
      (parseChars inner).map fun t => .union raw .pipe [t, noneType] := by
  -- blanks before the part fall away, and those behind it stay with it
  obtain ⟨a, b, hinner, ha, hb⟩ := exists_eq_trim inner
  have hnew : withBars (bracketed optionalName inner) = a ++ bar.intercalate [trim inner ++ b,
    "None".toList] := by
    rw [withBars_bracketed_optional]
    conv => lhs; rw [hinner]
    simp
  have htrimmed : Trimmed (bar.intercalate [trim inner ++ b, "None".toList]) := by
    have := trimmed_append (trimmed_trim inner) (b := "None".toList) ⟨by decide, by decide⟩ hfilled
        (by decide) (b ++ bar)
    simpa using this
  have hplain : ∀ p ∈ [trim inner ++ b, "None".toList], '|' ∉ p := by
    simp only [List.mem_cons, List.not_mem_nil, or_false, forall_eq_or_imp, forall_eq]
    exact ⟨fun hm => hbar (by rw [hinner]; exact List.mem_append_right _ hm), by decide⟩
  have hpart : parseChars (trim inner ++ b) = parseChars inner := by
    rw [← parseChars_trim, trim_append_blank hb, trim_trim, parseChars_trim]
  have hnone : parseChars "None".toList = .ok noneType := by
    have hshape : shape "None".toList = .name := shape_name (by decide) (bar_absent (by decide))
    rw [parseChars_of_shape ⟨by decide, by decide⟩ hshape rfl]
    rfl
  refine ⟨String.ofList (bar.intercalate [trim inner ++ b, "None".toList]), ?_⟩
  rw [hnew, ← parseChars_trim, trim_blank_append ha, parseChars_trim,
    parseChars_bars (by simp) hplain htrimmed,
    List.mapM_cons, List.mapM_cons, List.mapM_nil, hpart, hnone]
  cases parseChars inner <;> rfl

theorem parseChars_whole {s : List Char} (h : Whole s) :
    ∃ ms : Except TypeExpr.Error (List TypeExpr), ∃ style raw raw',
      parseChars s = ms.map (.union raw style) ∧
        parseChars (withBars s) = ms.map (.union raw' .pipe) := by
  cases h with
  | @union inner hbar htwo hfilled =>
    have hparts : ∀ p ∈ splitTrimmed inner, p ≠ [] ∧ Trimmed p := by
      intro p hp
      rw [splitTrimmed_eq] at hp
      obtain ⟨q, hq, rfl⟩ := List.mem_map.1 hp
      exact ⟨hfilled q hq, trimmed_trim q⟩
    have hlength : 2 ≤ (splitTrimmed inner).length := by simpa [splitTrimmed_eq] using htwo
    have hold := parseChars_bracketed_union hbar
    have hnew :=
      parseChars_bars hlength (fun p hp hm => hbar ((infix_of_mem_splitTrimmed hp).subset hm))
      (trimmed_intercalate (List.ne_nil_of_length_pos (by omega)) hparts).2
    rw [splitArgs_eq_splitTrimmed hfilled] at hold
    rw [← withBars_bracketed_union] at hnew
    exact ⟨_, _, _, _, hold, hnew⟩
  | @optional inner hbar hfilled =>
    obtain ⟨raw, hnew⟩ := parseChars_withBars_optional hbar hfilled
    rw [parseChars_bracketed_optional hbar, hnew]
    refine ⟨(parseChars inner).map fun t => [t, noneType], .optional,
      String.ofList (bracketed optionalName inner), raw, ?_⟩
    cases parseChars inner <;> exact ⟨rfl, rfl⟩

/-- A whole union can be read exactly if its spelling with bars can, and both are unions of the same
members. -/
theorem members_withBars {s : List Char} (h : Whole s) :
    ((∃ t, parseChars (withBars s) = .ok t) ↔ ∃ t, parseChars s = .ok t) ∧
      ∀ t t', parseChars s = .ok t → parseChars (withBars s) = .ok t' →
        ∃ ms, t.members? = some ms ∧ t'.members? = some ms := by
  obtain ⟨ms, style, raw, raw', hs, hbars⟩ := parseChars_whole h
  rw [hs, hbars]
  cases ms with
  | error e => exact ⟨by simp [Except.map], fun t t' ht => by cases ht⟩
  | ok ms =>
    refine ⟨iff_of_true ⟨_, rfl⟩ ⟨_, rfl⟩, fun t t' ht ht' => ?_⟩
    cases ht
    cases ht'
    exact ⟨ms, rfl, rfl⟩

def unionOfUnions : List Char :=
  bracketed unionName " Optional[int],dict[str, Union[a, b]] , (x".toList

theorem whole_unionOfUnions : Whole unionOfUnions := .union (by decide) (by decide) (by decide)

theorem members_withBars_nested :
    Whole unionOfUnions ∧ ∃ t t' ms, parseChars unionOfUnions = .ok t ∧
      parseChars (withBars unionOfUnions) = .ok t' ∧
      t.members? = some ms ∧ t'.members? = some ms := by
  have hread : (parseChars unionOfUnions).toOption.isSome = true := by decide +kernel
  obtain ⟨hiff, hsame⟩ := members_withBars whole_unionOfUnions
  cases ht : parseChars unionOfUnions with
  | error e => simp [ht, Except.toOption] at hread
  | ok t =>
    obtain ⟨t', ht'⟩ := hiff.2 ⟨t, ht⟩
    obtain ⟨ms, hms⟩ := hsame t t' ht ht'
    exact ⟨whole_unionOfUnions, t, t', ms, rfl, ht', hms⟩

end TypedTemplate.Style
