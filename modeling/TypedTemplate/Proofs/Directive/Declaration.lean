import Mathlib.Data.List.Infix
import TypedTemplate.Directive.Parse
import TypedTemplate.Proofs.Style.Place

/-! Declarations as they are written, with the types in them as places that may hold other texts.
Reading a declaration is reading the texts in its places, as long as no comma stands outside
brackets in one of them. -/
namespace TypedTemplate
open Text TypeExpr Style

def TypedName.barred (d : TypedName) : TypedName := { d with type := d.type.barred }

def Parameter.barred (p : Parameter) : Parameter := { p with type := p.type.barred }

def MacroSignature.barred (m : MacroSignature) : MacroSignature :=
  { m with params := m.params.map Parameter.barred, result := m.result.barred }

namespace Directive

def barred : Directive → Directive
  | varTypes ds => varTypes (ds.map TypedName.barred)
  | filter d => filter d.barred
  | macroSignature m => macroSignature m.barred
  | d => d

/-- What the body of a comment means, if it can be read. -/
def sense (body : List Char) : Option Directive := (parse (trim body)).toOption.map barred

structure Slot where
  text : List Char
  line : List Char

/-- A name with a type. What follows the type is blank or a fallback. -/
structure Field where
  name : List Char
  gap : List Char
  slot : Slot
  rest : List Char

inductive Declaration where
  | vars (fields : List Field)
  | filter (field : Field)
  | signature (name : List Char) (params : List Field) (mid gap : List Char) (result : Slot)
    (rest : List Char)

def varWord : List Char := ['v', 'a', 'r']

def filterWord : List Char := ['f', 'i', 'l', 't', 'e', 'r', ' ']

def macroWord : List Char := ['m', 'a', 'c', 'r', 'o', ' ']

def Field.text (f : Field) : List Char := f.name ++ ':' :: (f.gap ++ (f.slot.text ++ f.rest))

namespace Declaration

def text : Declaration → List Char
  | vars fs => varWord ++ [','].intercalate (fs.map Field.text)
  | filter f => filterWord ++ f.text
  | signature n ps mid gap r rest =>
    macroWord ++ (n ++ '(' :: ([','].intercalate (ps.map Field.text) ++
      ')' :: (mid ++ (arrow ++ (gap ++ (r.text ++ rest))))))

def slots : Declaration → List Slot
  | vars fs => fs.map Field.slot
  | filter f => [f.slot]
  | signature _ ps _ _ r _ => ps.map Field.slot ++ [r]

end Declaration

section Option

variable {ε α β γ : Type}

theorem toOption_map (f : α → β) (x : Except ε α) : (f <$> x).toOption = x.toOption.map f := by
  cases x <;> rfl

theorem toOption_mapM (f : α → Except ε β) (l : List α) :
    (l.mapM f).toOption = l.mapM fun a => (f a).toOption := by
  induction l with
  | nil => rfl
  | cons a l ih =>
    rw [List.mapM_cons, List.mapM_cons, ← ih]
    cases f a with
    | error e => rfl
    | ok b => cases l.mapM f <;> rfl

theorem map_mapM (g : β → γ) (f : α → Option β) (l : List α) :
    (l.mapM f).map (List.map g) = l.mapM fun a => (f a).map g := by
  induction l with
  | nil => rfl
  | cons a l ih =>
    rw [List.mapM_cons, List.mapM_cons, ← ih]
    cases f a with
    | none => rfl
    | some b => cases l.mapM f <;> rfl

theorem mapM_congr_mem {f g : α → Option β} {l : List α} (h : ∀ a ∈ l, f a = g a) :
    l.mapM f = l.mapM g := by
  induction l with
  | nil => rfl
  | cons a l ih =>
    rw [List.mapM_cons, List.mapM_cons, h a (by simp), ih fun b hb => h b (by simp [hb])]

theorem mapM_eq_none {f : α → Option β} {l : List α} {a : α} (ha : a ∈ l) (h : f a = none) :
    l.mapM f = none := by
  induction l with
  | nil => simp at ha
  | cons b l ih =>
    rw [List.mapM_cons]
    rcases List.mem_cons.1 ha with rfl | ha
    · rw [h]
      rfl
    · rw [ih ha]
      cases f b <;> rfl

end Option

theorem parseType_congr {x y : List Char} (h : trim y = trim x) : parseType y = parseType x := by
  rw [parseType, parseType, ← parseChars_trim y, h, parseChars_trim]

theorem toOption_parseType (x : List Char) :
    (parseType x).toOption.map TypeExpr.barred = meaning x := by
  rw [meaning, parseType]
  cases parseChars x <;> rfl

section Field

variable {f : Field}

/-- A name of a declaration and the blanks before its type. -/
structure Field.Framed (f : Field) : Prop where
  name : Plain f.name
  named : trim f.name ≠ []
  gap : ∀ c ∈ f.gap, isBlank c = true

def Field.typedName? (f : Field) : Option TypedName :=
  (meaning f.slot.text).map fun t => ⟨String.ofList (trim f.name), t⟩

theorem parseTypedName_eq {n : List Char} (h : ':' ∉ n) (missing : Error) (y : List Char) :
    parseTypedName missing (n ++ ':' :: y) = (fun t => ⟨String.ofList (trim n), t⟩) <$>
      parseType y := by
  rw [parseTypedName, cut?_single h]
  rfl

theorem colon_not_mem {n : List Char} (h : Plain n) : ':' ∉ trimStart n := fun hm =>
  absurd (h ':' ((trimStart_suffix n).subset hm)) (by decide)

theorem Field.trim_text (f : Field) :
    trim f.text = trimStart f.name ++ ':' :: trimEnd (f.gap ++ (f.slot.text ++ f.rest)) :=
  trim_append_cons (by decide) _ _

theorem Field.Framed.parseVariable_eq (h : f.Framed) (hr : ∀ c ∈ f.rest, isBlank c = true) :
    parseVariable (trim f.text) = (fun t => ⟨String.ofList (trim f.name), t⟩) <$>
      parseType f.slot.text := by
  have htype : trim (trimEnd (f.gap ++ (f.slot.text ++ f.rest))) = trim f.slot.text := by
    rw [trim_trimEnd, trim_blank_append h.gap, trim_append_blank hr]
  rw [f.trim_text, Directive.parseVariable, cut?_single (colon_not_mem h.name)]
  simp only [trim_trimStart, List.isEmpty_iff, h.named, if_false]
  rw [parseTypedName_eq (colon_not_mem h.name), parseType_congr htype, trim_trimStart]

theorem Field.Framed.parseVariable (h : f.Framed) (hr : ∀ c ∈ f.rest, isBlank c = true) :
    (parseVariable (trim f.text)).toOption.map TypedName.barred = f.typedName? := by
  rw [h.parseVariable_eq hr, toOption_map, Field.typedName?, ← toOption_parseType, Option.map_map,
    Option.map_map]
  rfl

/-- What may follow the type of a parameter. -/
inductive Rest : List Char → Prop
  | blank {r : List Char} (h : ∀ c ∈ r, isBlank c = true) : Rest r
  | fallback {b d : List Char} (hb : ∀ c ∈ b, isBlank c = true) (hs : Sealed ',' 0 d)
      (hd : depthOf 0 d = 0) (ha : ¬ arrow <:+: d) : Rest (b ++ '=' :: d)

def fallback? (r : List Char) : Option String :=
  (cut? ['='] r).map fun p => String.ofList (trim p.2)

def Field.parameter? (f : Field) : Option Parameter :=
  (meaning f.slot.text).map fun t => ⟨String.ofList (trim f.name), t, fallback? f.rest⟩

theorem equals_not_mem_plain {n : List Char} (h : Plain n) :
    '=' ∉ n := fun hm => absurd (h '=' hm) (by decide)

theorem equals_not_mem_blank {b : List Char} (h : ∀ c ∈ b, isBlank c = true) : '=' ∉ b := fun hm =>
  absurd (h '=' hm) (by decide)

theorem parameter_eq {n y x : List Char} (hn : ':' ∉ n) (hy : trim y = trim x) (missing : Error)
    (fallback : Option String) :
    (do
      let named ← parseTypedName missing (n ++ ':' :: y)
      pure (⟨named.name, named.type, fallback⟩ : Parameter)) =
      (fun t => ⟨String.ofList (trim n), t, fallback⟩) <$> parseType x := by
  rw [parseTypedName_eq hn, parseType_congr hy]
  cases parseType x <;> rfl

theorem Field.Framed.parseParameter_eq (h : f.Framed) (hx : '=' ∉ f.slot.text) (hr : Rest f.rest) :
    parseParameter (trim f.text) =
      (fun t => ⟨String.ofList (trim f.name), t, fallback? f.rest⟩) <$> parseType f.slot.text := by
  have hname : '=' ∉ trimStart f.name :=
    fun hm => equals_not_mem_plain h.name ((trimStart_suffix _).subset hm)
  have hgap := equals_not_mem_blank h.gap
  rw [f.trim_text]
  generalize f.rest = r at hr ⊢
  cases hr with
  | blank hb =>
    have hno : ¬ ['='] <:+: trimStart f.name ++ ':' :: trimEnd (f.gap ++ (f.slot.text ++ r)) :=
      fun hin => by
      have hm := hin.subset (List.mem_singleton.2 rfl)
      rw [List.mem_append, List.mem_cons] at hm
      rcases hm with hm | hm | hm
      · exact hname hm
      · exact absurd hm (by decide)
      · have hm := (trimEnd_isPrefix _).subset hm
        simp only [List.mem_append] at hm
        rcases hm with hm | hm | hm
        · exact hgap hm
        · exact hx hm
        · exact equals_not_mem_blank hb hm
    have hrest : fallback? r = none := by
      rw [fallback?, cut?_eq_none_iff.2 fun hin => equals_not_mem_blank hb (hin.subset (by simp))]
      rfl
    have htype : trim (trimEnd (f.gap ++ (f.slot.text ++ r))) = trim f.slot.text := by
      rw [trim_trimEnd, trim_blank_append h.gap, trim_append_blank hb]
    rw [Directive.parseParameter, cut?_eq_none_iff.2 hno, hrest, ← trim_trimStart f.name]
    exact parameter_eq (colon_not_mem h.name) htype _ _
  | @fallback b d hb hs hd ha =>
    have hend : trimEnd (f.gap ++ (f.slot.text ++ (b ++ '=' :: d))) =
        f.gap ++ (f.slot.text ++ b) ++ '=' :: trimEnd d := by
      have heq : f.gap ++ (f.slot.text ++ (b ++ '=' :: d)) = f.gap ++ (f.slot.text ++ b) ++ '=' ::
        d := by simp
      rw [heq, trimEnd_append_cons (by decide)]
    have hcut : trimStart f.name ++ ':' :: trimEnd (f.gap ++ (f.slot.text ++ (b ++ '=' :: d))) =
        (trimStart f.name ++ ':' :: (f.gap ++ (f.slot.text ++ b))) ++ '=' :: trimEnd d := by
      rw [hend]
      simp
    have hno : '=' ∉ trimStart f.name ++ ':' :: (f.gap ++ (f.slot.text ++ b)) := by
      simp only [List.mem_append, List.mem_cons, not_or]
      exact ⟨hname, by decide, hgap, hx, equals_not_mem_blank hb⟩
    have hrest : fallback? (b ++ '=' :: d) = some (String.ofList (trim (trimEnd d))) := by
      rw [fallback?, cut?_single (equals_not_mem_blank hb), trim_trimEnd]
      rfl
    have htype : trim (trimEnd (f.gap ++ (f.slot.text ++ b))) = trim f.slot.text := by
      rw [trim_trimEnd, trim_blank_append h.gap, trim_append_blank hb]
    rw [hcut, Directive.parseParameter, cut?_single hno, hrest, ← trim_trimStart f.name,
      ← trim_trimStart (trimStart f.name)]
    simp only [trim_append_cons (show isBlank ':' = false by decide)]
    exact parameter_eq (fun hm => colon_not_mem h.name ((trimStart_suffix _).subset hm)) htype _ _

theorem Field.Framed.parseParameter (h : f.Framed) (hx : '=' ∉ f.slot.text) (hr : Rest f.rest) :
    (parseParameter (trim f.text)).toOption.map Parameter.barred = f.parameter? := by
  rw [h.parseParameter_eq hx hr, toOption_map, Field.parameter?, ← toOption_parseType,
    Option.map_map, Option.map_map]
  rfl

theorem Rest.isSealed {r : List Char} (h : Rest r) : Sealed ',' 0 r ∧ depthOf 0 r = 0 := by
  have hblank {b : List Char} (hb : ∀ c ∈ b, isBlank c = true) : depthOf 0 b = 0 :=
    depthOf_plain (fun c hm => (isBracket_of_isBlank (hb c hm)).imp_right And.left) 0
  have hcomma {b : List Char} (hb : ∀ c ∈ b, isBlank c = true) : ',' ∉ b :=
    bracket_not_mem_blank hb (by decide)
  cases h with
  | blank hb => exact ⟨sealed_of_not_mem (hcomma hb) 0, hblank hb⟩
  | fallback hb hs hd =>
    refine ⟨?_, by rw [depthOf_append, hblank hb, depthOf_cons]; exact hd⟩
    rw [sealed_append, hblank hb]
    exact ⟨sealed_of_not_mem (hcomma hb) 0, by decide, hs⟩

theorem Field.Framed.depthOf_lead (h : f.Framed) : depthOf 0 (f.name ++ ':' :: f.gap) = 0 := by
  rw [depthOf_append, (nested_of_plain h.name).closed, depthOf_cons]
  exact depthOf_plain (fun c hm => (isBracket_of_isBlank (h.gap c hm)).imp_right And.left) 0

theorem Field.text_eq (f : Field) : f.text = f.name ++ ':' :: f.gap ++ (f.slot.text ++ f.rest) := by
  simp [Field.text]

theorem Field.Framed.closed (h : f.Framed) (hx : depthOf 0 f.slot.text = 0) (hr : Rest f.rest) :
    depthOf 0 f.text = 0 := by
  rw [f.text_eq, depthOf_append, h.depthOf_lead, depthOf_append, hx, hr.isSealed.2]

theorem Field.Framed.part (h : f.Framed) (hx : depthOf 0 f.slot.text = 0)
    (hs : Sealed ',' 0 f.slot.text) (hr : Rest f.rest) : Part f.text := by
  have hcomma : ',' ∉ f.name ++ ':' :: f.gap := by
    simp only [List.mem_append, List.mem_cons, not_or]
    exact ⟨fun hm => absurd (h.name ',' hm) (by decide), by decide,
      bracket_not_mem_blank h.gap (by decide)⟩
  refine ⟨trim_ne_nil_of_mem (c := ':') (by decide) (by simp [Field.text]), ?_, h.closed hx hr⟩
  rw [f.text_eq]
  refine sealed_append.2 ⟨sealed_of_not_mem hcomma 0, ?_⟩
  rw [h.depthOf_lead, sealed_append, hx]
  exact ⟨hs, hr.isSealed.1⟩

/-- A part without a name: no colon stands before its fallback. -/
def Untyped (p : List Char) : Prop := ∀ u v, p = u ++ ':' :: v → '=' ∈ u

theorem untyped_of_not_mem {p : List Char} (h : ':' ∉ p) : Untyped p := by
  rintro u v rfl
  exact absurd (by simp) h

theorem Rest.untyped {v r : List Char} (hr : Rest r) (hv : ':' ∉ v) : Untyped (v ++ r) := by
  intro u w hu
  cases hr with
  | blank hb =>
    have hm : ':' ∈ v ++ r := by simp [hu]
    exact absurd hm (by simp [hv, bracket_not_mem_blank hb (c := ':') (by decide)])
  | @fallback b d hb =>
    have hno : ':' ∉ v ++ b := by simp [hv, bracket_not_mem_blank hb (c := ':') (by decide)]
    rw [← List.append_assoc] at hu
    rcases List.append_eq_append_iff.1 hu with ⟨a, rfl, ha⟩ | ⟨a, ha, hw⟩
    · cases a with
      | nil => simp at ha
      | cons e a =>
        rw [List.cons_append, List.cons.injEq] at ha
        simp [← ha.1]
    · cases a with
      | nil => simp at hw
      | cons e a =>
        rw [List.cons_append, List.cons.injEq] at hw
        exact absurd (by simp [ha, ← hw.1]) hno

theorem Untyped.trim {p : List Char} (h : Untyped p) : Untyped (trim p) := by
  intro u v hu
  obtain ⟨a, b, hp, ha, -⟩ := exists_eq_trim p
  rw [hu] at hp
  have hm := h (a ++ u) (v ++ b) (by rw [hp]; simp)
  exact (List.mem_append.1 hm).resolve_left (bracket_not_mem_blank ha (by decide))

theorem exists_untyped {v r : List Char} (hv : ':' ∉ v ∧ '=' ∉ v) (hd : depthOf 0 v = 0)
    (hb : '|' ∈ v) (hr : Rest r) :
    ∃ p ∈ splitArgs (v ++ r), Untyped p ∧ ('=' ∈ p → '=' ∈ r) := by
  induction hlen : v.length using Nat.strongRecOn generalizing v with
  | _ n ih =>
    by_cases hs : Sealed ',' 0 v
    · have hpart : Part (v ++ r) :=
        ⟨trim_ne_nil_of_mem (c := '|') (by decide) (by simp [hb]),
          sealed_append.2 ⟨hs, by rw [hd]; exact hr.isSealed.1⟩,
          by rw [depthOf_append, hd, hr.isSealed.2]⟩
      have hargs := @splitArgs_intercalate [v ++ r] (by simpa using hpart)
      rw [List.intercalate_singleton, List.map_singleton] at hargs
      refine ⟨trim (v ++ r), by simp [hargs], (hr.untyped hv.1).trim, fun hm => ?_⟩
      exact (List.mem_append.1 ((trim_isInfix _).subset hm)).resolve_left hv.2
    · obtain ⟨y, w, rfl, hy, -⟩ := exists_of_not_sealed hs
      simp only [List.mem_append, List.mem_cons, not_or] at hv
      have hargs := splitArgs_append_comma hy (w ++ r)
      rw [List.append_assoc, List.cons_append, hargs]
      rcases List.mem_append.1 hb with hb | hb
      · obtain ⟨p, hp⟩ : ∃ p, p ∈ splitArgs y := by
          refine List.exists_mem_of_ne_nil _ fun h0 => ?_
          have hsum := sum_count_splitArgs (c := '|') (by decide) (by decide) y
          rw [h0, List.map_nil, List.sum_nil, eq_comm, List.count_eq_zero] at hsum
          exact hsum hb
        have hsub := (infix_of_mem_splitArgs hp).subset
        exact ⟨p, List.mem_append_left _ hp, untyped_of_not_mem fun hm => hv.1.1 (hsub hm),
          fun hm => absurd (hsub hm) hv.2.1⟩
      · have hw : depthOf 0 w = 0 := by
          rw [depthOf_append, hy, depthOf_cons] at hd
          exact hd
        obtain ⟨p, hp, h⟩ :=
          ih w.length (by simp [← hlen]; omega) ⟨hv.1.2.2, hv.2.2.2⟩ hw (by simpa using hb) rfl
        exact ⟨p, List.mem_append_right _ hp, h⟩

theorem Field.Framed.untyped_part (h : f.Framed) (hx : Placed f.slot.text) (ht : Torn 0 f.slot.text)
    (hr : Rest f.rest) :
    ∃ p ∈ splitArgs f.text, Untyped p ∧ ('=' ∈ p → '=' ∈ f.rest) := by
  obtain ⟨x, v, hxv, hdepth, hbar⟩ := ht
  have heq : f.text = (f.name ++ ':' :: f.gap ++ x) ++ ',' :: (v ++ f.rest) := by
    rw [f.text_eq, hxv]
    simp
  have hv (c : Char) (hc : isTypeChar c = false) (hb : c ≠ '|') : c ∉ v := fun hm =>
    hx.not_mem hc hb (by rw [hxv]; simp [hm])
  have hclosed : depthOf 0 v = 0 := by
    have := hx.closed
    rw [hxv, depthOf_append, hdepth, depthOf_cons] at this
    exact this
  obtain ⟨p, hp, hun⟩ :=
    exists_untyped ⟨hv ':' (by decide) (by decide), hv '=' (by decide) (by decide)⟩ hclosed hbar hr
  refine ⟨p, ?_, hun⟩
  rw [heq, splitArgs_append_comma (by rw [depthOf_append, h.depthOf_lead, hdepth])]
  exact List.mem_append_right _ hp

end Field

section Fields

variable {fs : List Field}

theorem splitArgs_fields (hf : ∀ f ∈ fs, f.Framed) (hx : ∀ f ∈ fs, Placed f.slot.text)
    (hr : ∀ f ∈ fs, Rest f.rest) (hs : ∀ f ∈ fs, Sealed ',' 0 f.slot.text) :
    splitArgs ([','].intercalate (fs.map Field.text)) = fs.map fun f => trim f.text := by
  rw [splitArgs_intercalate, List.map_map]
  · rfl
  · intro p hp
    obtain ⟨f, hm, rfl⟩ := List.mem_map.1 hp
    exact (hf f hm).part (hx f hm).closed (hs f hm) (hr f hm)

theorem exists_untyped_part (hf : ∀ f ∈ fs, f.Framed) (hx : ∀ f ∈ fs, Placed f.slot.text)
    (hr : ∀ f ∈ fs, Rest f.rest) {f : Field} (hm : f ∈ fs) (hs : ¬ Sealed ',' 0 f.slot.text) :
    ∃ p ∈ splitArgs ([','].intercalate (fs.map Field.text)), Untyped p ∧
      ('=' ∈ p → '=' ∈ f.rest) := by
  obtain ⟨p, hp, hc⟩ :=
    (hf f hm).untyped_part (hx f hm) ((hx f hm).sealed_or_torn.resolve_left hs) (hr f hm)
  refine ⟨p, ?_, hc⟩
  rw [splitArgs_flatMap, List.mem_flatMap]
  · exact ⟨f.text, List.mem_map_of_mem hm, hp⟩
  · intro q hq
    obtain ⟨g, hg, rfl⟩ := List.mem_map.1 hq
    exact (hf g hg).closed (hx g hg).closed (hr g hg)

theorem colon_absent {p : List Char} (h : ':' ∉ p) : cut? [':'] p = none :=
  cut?_eq_none_iff.2 fun hin => h (hin.subset (by simp))

theorem Untyped.not_mem {p : List Char} (h : Untyped p) (he : '=' ∉ p) : ':' ∉ p := fun hm => by
  obtain ⟨u, v, rfl⟩ := List.append_of_mem hm
  exact he (List.mem_append_left _ (h u v rfl))

theorem parseVariable_untyped {p : List Char} (h : Untyped p) (he : '=' ∉ p) :
    (parseVariable p).toOption = none := by
  rw [parseVariable, colon_absent (h.not_mem he)]
  rfl

theorem parseParameter_untyped {p : List Char} (h : Untyped p) :
    (parseParameter p).toOption = none := by
  rw [parseParameter]
  cases hc : cut? ['='] p with
  | none =>
    have hno : ':' ∉ p :=
      h.not_mem fun hm => cut?_eq_none_iff.1 hc ((List.singleton_infix_iff _ _).2 hm)
    simp only [parseTypedName, colon_absent hno]
    rfl
  | some q =>
    obtain ⟨d, e⟩ := q
    have hd : ':' ∉ trim d := fun hm => by
      obtain ⟨u, v, rfl⟩ := List.append_of_mem ((trim_isInfix d).subset hm)
      have hin := h u (v ++ '=' :: e) (by rw [cut?_eq_append hc]; simp)
      exact not_infix_of_cut? hc (by simp) ((List.singleton_infix_iff _ _).2 (by simp [hin]))
    simp only [parseTypedName, colon_absent hd]
    rfl

theorem declarationParts_eq (s : List Char) : declarationParts s = splitArgs s := by
  rw [declarationParts, splitTopOn_singleton, splitArgs_eq, splitTrimmed_eq]

theorem parse_var (s : List Char) : parse (varWord ++ s) = varTypes <$> parseVariables s := rfl

theorem parse_filter (s : List Char) : parse (filterWord ++ s) = filter <$> parseFilter s := rfl

theorem parse_macro (s : List Char) : parse (macroWord ++ s) = macroSignature <$> parseMacro s :=
  rfl

end Fields

end Directive

end TypedTemplate
