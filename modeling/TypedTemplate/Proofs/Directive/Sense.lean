import TypedTemplate.Proofs.Directive.Declaration

/-! What a declaration means by the texts in its places. Other texts in the places keep its meaning
exactly if each of them keeps its own; a text with a comma outside brackets would move into a part
without a name. -/
namespace TypedTemplate.Directive
open Text TypeExpr Style

section Sense

variable {pad : List Char}

theorem trim_var (hp : ∀ c ∈ pad, isBlank c = true) (s : List Char) :
    trim (pad ++ (varWord ++ s)) = varWord ++ trimEnd s := by
  rw [trim_blank_append hp]
  exact trim_append_cons (c := 'r') (by decide) ['v', 'a'] s

theorem trim_filter (hp : ∀ c ∈ pad, isBlank c = true) {c : Char} (hc : isBlank c = false)
    (s t : List Char) :
    trim (pad ++ (filterWord ++ (s ++ c :: t))) = filterWord ++ (s ++ c :: trimEnd t) := by
  rw [trim_blank_append hp, ← List.append_assoc, trim_append_cons hc]
  rfl

theorem trim_macroWord (hp : ∀ c ∈ pad, isBlank c = true) {c : Char} (hc : isBlank c = false)
    (s t : List Char) :
    trim (pad ++ (macroWord ++ (s ++ c :: t))) = macroWord ++ (s ++ c :: trimEnd t) := by
  rw [trim_blank_append hp, ← List.append_assoc, trim_append_cons hc]
  rfl

theorem sense_var_eq (hp : ∀ c ∈ pad, isBlank c = true) (s : List Char) :
    sense (pad ++ (varWord ++ s)) =
      ((splitArgs s).mapM fun p => (parseVariable p).toOption.map TypedName.barred).map
        varTypes := by
  have hargs : splitArgs (trim (trimEnd s)) = splitArgs s := by rw [trim_trimEnd, splitArgs_trim]
  rw [sense, trim_var hp, parse_var, toOption_map, parseVariables, declarationParts_eq, hargs,
    toOption_mapM, ← map_mapM, Option.map_map, Option.map_map]
  rfl

theorem sense_vars {fs : List Field} (hp : ∀ c ∈ pad, isBlank c = true) (hf : ∀ f ∈ fs, f.Framed)
    (hx : ∀ f ∈ fs, Placed f.slot.text) (hr : ∀ f ∈ fs, ∀ c ∈ f.rest, isBlank c = true)
    (hs : ∀ f ∈ fs, Sealed ',' 0 f.slot.text) :
    sense (pad ++ (Declaration.vars fs).text) = (fs.mapM Field.typedName?).map varTypes := by
  rw [Declaration.text, sense_var_eq hp, splitArgs_fields hf hx (fun f hm => .blank (hr f hm)) hs,
    List.mapM_map]
  exact congrArg _ (mapM_congr_mem fun f hm => (hf f hm).parseVariable (hr f hm))

theorem sense_vars_torn {fs : List Field} (hp : ∀ c ∈ pad, isBlank c = true)
    (hf : ∀ f ∈ fs, f.Framed)
    (hx : ∀ f ∈ fs, Placed f.slot.text) (hr : ∀ f ∈ fs, ∀ c ∈ f.rest, isBlank c = true)
    {f : Field} (hm : f ∈ fs) (hs : ¬ Sealed ',' 0 f.slot.text) :
    sense (pad ++ (Declaration.vars fs).text) = none := by
  obtain ⟨p, hp', hun, he⟩ := exists_untyped_part hf hx (fun f hm => .blank (hr f hm)) hm hs
  have hno : '=' ∉ p := fun hin => equals_not_mem_blank (hr f hm) (he hin)
  rw [Declaration.text, sense_var_eq hp,
    mapM_eq_none hp' (by rw [parseVariable_untyped hun hno]; rfl)]
  rfl

theorem sense_filter {f : Field} (hp : ∀ c ∈ pad, isBlank c = true) (hf : f.Framed)
    (hr : ∀ c ∈ f.rest, isBlank c = true) :
    sense (pad ++ (Declaration.filter f).text) = f.typedName?.map Directive.filter := by
  have htype : trim (trimEnd (trimEnd (f.gap ++ (f.slot.text ++ f.rest)))) = trim f.slot.text := by
    rw [trim_trimEnd, trim_trimEnd, trim_blank_append hf.gap, trim_append_blank hr]
  rw [sense, Declaration.text, Field.text, trim_filter hp (by decide), parse_filter, toOption_map,
    parseFilter]
  simp only [trim_append_cons (show isBlank ':' = false by decide)]
  rw [parseTypedName_eq (colon_not_mem hf.name), toOption_map, Field.typedName?,
    ← toOption_parseType, parseType_congr htype, trim_trimStart]
  cases parseType f.slot.text <;> rfl

theorem cut?_arrow {a b : List Char} (h : ¬ arrow <:+: a) :
    cut? arrow (a ++ (arrow ++ b)) = some (a, b) := by
  refine cut?_eq_some (by decide) fun u hu hs hp => ?_
  obtain ⟨t, ht⟩ := hp
  match u, hu with
  | [c], _ => simp [arrow] at ht
  | c :: d :: u, _ =>
    refine h (List.IsInfix.trans ?_ hs.isInfix)
    simp only [arrow, List.cons_append, List.cons.injEq, List.nil_append] at ht
    obtain ⟨rfl, rfl, -⟩ := ht
    exact ⟨[], u, rfl⟩

section Signature

variable {n j mid w : List Char}

structure Signed (n j mid w : List Char) : Prop where
  name : Plain n
  params : ¬ arrow <:+: j
  mid : Plain mid
  result : ')' ∉ w

theorem trimEnd_signature (j mid w : List Char) :
    trimEnd (j ++ ')' :: (mid ++ (arrow ++ w))) = j ++ ')' :: (mid ++ (arrow ++ trimEnd w)) := by
  have hend : trimEnd (mid ++ (arrow ++ w)) = mid ++ (arrow ++ trimEnd w) := by
    have := trimEnd_append_cons (c := '>') (by decide) (mid ++ ['-']) w
    simpa [arrow] using this
  rw [trimEnd_append_cons (by decide), hend]

theorem parseMacro_of_cut (hn : Plain n) (hmid : Plain mid) (hw : ')' ∉ w) {x b : List Char}
    (hcut : cut? arrow (trimStart n ++ '(' :: (j ++ ')' :: (mid ++ (arrow ++ trimEnd w)))) =
      some (x, b)) :
    parseMacro (n ++ '(' :: (j ++ ')' :: (mid ++ (arrow ++ w)))) =
      if (trim b).isEmpty then
        .error (.macroResult
          (String.ofList (trimStart n ++ '(' :: (j ++ ')' :: (mid ++ (arrow ++ trimEnd w))))))
      else (do
        let params ← (splitArgs j).mapM parseParameter
        let result ← parseType (trim b)
        pure ⟨String.ofList (trim n), params, result⟩) := by
  have hopen : '(' ∉ trimStart n :=
    fun hm => absurd (hn '(' ((trimStart_suffix n).subset hm)) (by decide)
  have hclose : ')' ∉ mid ++ (arrow ++ trimEnd w) := by
    simp only [List.mem_append, not_or]
    exact ⟨fun hm => absurd (hmid ')' hm) (by decide), by decide,
      fun hm => hw ((trimEnd_isPrefix w).subset hm)⟩
  have hlast : cutLast? ')' (trimStart n ++ '(' :: (j ++ ')' :: (mid ++ (arrow ++ trimEnd w)))) =
      some (trimStart n ++ '(' :: j, mid ++ (arrow ++ trimEnd w)) := by
    have := cutLast?_append hclose (trimStart n ++ '(' :: j)
    simpa using this
  have hdrop : (trimStart n ++ '(' :: j).drop ((trimStart n).length + 1) = j := by
    rw [List.drop_append]
    simp
  have hocc : occurs arrow (')' :: (mid ++ (arrow ++ trimEnd w))) = true :=
    occurs_iff.2 ⟨')' :: mid, trimEnd w, by simp⟩
  rw [parseMacro, trim_append_cons (by decide), trimEnd_signature]
  simp only [cut?_single hopen, hlast, resultText?, hocc, if_true, hcut]
  by_cases hb : (trim b).isEmpty
  · simp only [hb, if_true]
  · simp only [hb, hdrop, declarationParts_eq, splitArgs_trim, trim_trimStart]
    rfl

theorem Signed.cut?_arrow (h : Signed n j mid w) :
    cut? arrow (trimStart n ++ '(' :: (j ++ ')' :: (mid ++ (arrow ++ trimEnd w)))) =
      some (trimStart n ++ '(' :: (j ++ ')' :: mid), trimEnd w) := by
  have hplain {u : List Char} (hu : Plain u) : ¬ arrow <:+: u := fun hin =>
    absurd (hu '>' (hin.subset (by decide))) (by decide)
  have hno : ¬ arrow <:+: trimStart n ++ '(' :: (j ++ ')' :: mid) := fun hin => by
    rcases infix_append_cons (by decide) hin with hin | hin
    · exact hplain h.name (hin.trans (trimStart_suffix n).isInfix)
    · rcases infix_append_cons (by decide) hin with hin | hin
      · exact h.params hin
      · exact hplain h.mid hin
  simpa using Directive.cut?_arrow (b := trimEnd w) hno

theorem Signed.parseMacro (h : Signed n j mid w) :
    (parseMacro (n ++ '(' :: (j ++ ')' :: (mid ++ (arrow ++ w))))).toOption =
      if (trim w).isEmpty then none
      else (do
        let params ← (splitArgs j).mapM parseParameter
        let result ← parseType (trim w)
        pure (⟨String.ofList (trim n), params, result⟩ : MacroSignature)).toOption := by
  rw [parseMacro_of_cut h.name h.mid h.result h.cut?_arrow, trim_trimEnd]
  split <;> rfl

theorem Signed.parse (hp : ∀ c ∈ pad, isBlank c = true) (h : Signed n j mid w) :
    (parse (trim
      (pad ++ (macroWord ++ (n ++ '(' :: (j ++ ')' :: (mid ++ (arrow ++ w)))))))).toOption =
      if (trim w).isEmpty then none
      else (do
        let params ← (splitArgs j).mapM parseParameter
        let result ← parseType w
        pure (macroSignature ⟨String.ofList (trim n), params, result⟩)).toOption := by
  have hend : Signed n j mid (trimEnd w) :=
    ⟨h.name, h.params, h.mid, fun hm => h.result ((trimEnd_isPrefix w).subset hm)⟩
  rw [trim_macroWord hp (by decide), trimEnd_signature, parse_macro, toOption_map, hend.parseMacro,
    trim_trimEnd, parseType_congr (trim_trim w)]
  by_cases hw : (trim w).isEmpty
  · simp only [hw, if_true]
    rfl
  · simp only [hw]
    cases (splitArgs j).mapM parseParameter with
    | error e => rfl
    | ok ps => cases parseType w <;> rfl

theorem Signed.sense (hp : ∀ c ∈ pad, isBlank c = true) (h : Signed n j mid w) :
    sense (pad ++ (macroWord ++ (n ++ '(' :: (j ++ ')' :: (mid ++ (arrow ++ w)))))) =
      if (trim w).isEmpty then none
      else ((splitArgs j).mapM fun p => (parseParameter p).toOption.map Parameter.barred).bind
        fun ps => (meaning w).map fun t => macroSignature ⟨String.ofList (trim n), ps, t⟩ := by
  rw [Directive.sense, h.parse hp, ← toOption_parseType, ← map_mapM, ← toOption_mapM]
  by_cases hw : (trim w).isEmpty
  · simp only [hw, if_true]
    rfl
  · simp only [hw]
    cases (splitArgs j).mapM parseParameter with
    | error e => rfl
    | ok ps => cases parseType w <;> rfl

end Signature

theorem mapM_parseParameter {fs : List Field} (hf : ∀ f ∈ fs, f.Framed)
    (hx : ∀ f ∈ fs, Placed f.slot.text)
    (hr : ∀ f ∈ fs, Rest f.rest) (hs : ∀ f ∈ fs, Sealed ',' 0 f.slot.text) :
    ((splitArgs ([','].intercalate (fs.map Field.text))).mapM fun p =>
      (parseParameter p).toOption.map Parameter.barred) = fs.mapM Field.parameter? := by
  rw [splitArgs_fields hf hx hr hs, List.mapM_map]
  exact mapM_congr_mem fun f hm => (hf f hm).parseParameter
    ((hx f hm).not_mem (by decide) (by decide)) (hr f hm)

theorem mapM_parseParameter_torn {fs : List Field} (hf : ∀ f ∈ fs, f.Framed)
    (hx : ∀ f ∈ fs, Placed f.slot.text)
    (hr : ∀ f ∈ fs, Rest f.rest) {f : Field} (hm : f ∈ fs) (hs : ¬ Sealed ',' 0 f.slot.text) :
    ((splitArgs ([','].intercalate (fs.map Field.text))).mapM fun p =>
      (parseParameter p).toOption.map Parameter.barred) = none := by
  obtain ⟨p, hp, hun, -⟩ := exists_untyped_part hf hx hr hm hs
  exact mapM_eq_none hp (by rw [parseParameter_untyped hun]; rfl)

theorem Field.Framed.arrow_absent {f : Field} (h : f.Framed) (hx : Placed f.slot.text)
    (hr : Rest f.rest) :
    ¬ arrow <:+: f.text := fun hin => by
  have hopen {u : List Char} (hu : '>' ∉ u) : ¬ arrow <:+: u :=
    fun hin => hu (hin.subset (by decide))
  have hslot : '>' ∉ f.slot.text := hx.not_mem (by decide) (by decide)
  have hgap : '>' ∉ f.gap := bracket_not_mem_blank h.gap (by decide)
  rcases infix_append_cons (by decide) hin with hin | hin
  · exact hopen (fun hm => absurd (h.name '>' hm) (by decide)) hin
  · generalize f.rest = r at hr hin
    cases hr with
    | blank hb =>
      exact hopen (by simp [hgap, hslot, bracket_not_mem_blank hb (c := '>') (by decide)]) hin
    | @fallback b d hb hs hd ha =>
      have heq : f.gap ++ (f.slot.text ++ (b ++ '=' :: d)) = (f.gap ++ (f.slot.text ++ b)) ++ '=' ::
        d := by simp
      rw [heq] at hin
      rcases infix_append_cons (by decide) hin with hin | hin
      · exact hopen (by simp [hgap, hslot, bracket_not_mem_blank hb (c := '>') (by decide)]) hin
      · exact ha hin

theorem arrow_absent_fields {fs : List Field} (hf : ∀ f ∈ fs, f.Framed)
    (hx : ∀ f ∈ fs, Placed f.slot.text)
    (hr : ∀ f ∈ fs, Rest f.rest) : ¬ arrow <:+: [','].intercalate (fs.map Field.text) := by
  induction fs with
  | nil => decide
  | cons f fs ih =>
    have hfirst := (hf f (by simp)).arrow_absent (hx f (by simp)) (hr f (by simp))
    have hrest := ih (fun g hg => hf g (by simp [hg])) (fun g hg => hx g (by simp [hg])) fun g hg =>
      hr g (by simp [hg])
    cases fs with
    | nil => simpa using hfirst
    | cons g fs =>
      rw [List.map_cons, List.intercalate_cons_of_ne_nil (by simp), List.append_assoc]
      intro hin
      rcases infix_append_cons (by decide) hin with hin | hin
      · exact hfirst hin
      · exact hrest hin

end Sense

namespace Declaration

/-- What stands around the types is as in a declaration that can be read. -/
def Framed : Declaration → Prop
  | vars fs => ∀ f ∈ fs, f.Framed ∧ ∀ c ∈ f.rest, isBlank c = true
  | filter f => f.Framed ∧ ∀ c ∈ f.rest, isBlank c = true
  | signature n ps mid gap _ rest => (Plain n ∧ Plain mid) ∧ (∀ f ∈ ps, f.Framed ∧ Rest f.rest) ∧
      (∀ c ∈ gap, isBlank c = true) ∧ ∀ c ∈ rest, isBlank c = true

/-- Every type in a list stays in its place, and the result of a signature is not blank. -/
def Whole : Declaration → Prop
  | vars fs => ∀ f ∈ fs, Sealed ',' 0 f.slot.text
  | filter _ => True
  | signature _ ps _ _ r _ => (∀ f ∈ ps, Sealed ',' 0 f.slot.text) ∧ trim r.text ≠ []

def sense? : Declaration → Option Directive
  | vars fs => (fs.mapM Field.typedName?).map varTypes
  | filter f => f.typedName?.map Directive.filter
  | signature n ps _ _ r _ => (ps.mapM Field.parameter?).bind fun params =>
      (meaning r.text).map fun t => macroSignature ⟨String.ofList (trim n), params, t⟩

section Sense

variable {d : Declaration} {pad : List Char}

theorem placed_vars {fs : List Field} (hx : ∀ s ∈ (vars fs).slots, Placed s.text) :
    ∀ f ∈ fs, Placed f.slot.text :=
  fun _ hm => hx _ (List.mem_map_of_mem hm)

section Signature

variable {n mid gap rest : List Char} {ps : List Field} {r : Slot}

theorem placed_signature (hx : ∀ s ∈ (signature n ps mid gap r rest).slots, Placed s.text) :
    (∀ f ∈ ps, Placed f.slot.text) ∧ Placed r.text :=
  ⟨fun _ hm => hx _ (List.mem_append_left _ (List.mem_map_of_mem hm)), hx r (by simp [slots])⟩

theorem signed (hf : (signature n ps mid gap r rest).Framed)
    (hx : ∀ s ∈ (signature n ps mid gap r rest).slots, Placed s.text) :
    Signed n ([','].intercalate (ps.map Field.text)) mid (gap ++ (r.text ++ rest)) := by
  obtain ⟨⟨hn, hmid⟩, hps, hgap, hrest⟩ := hf
  obtain ⟨hx, hr⟩ := placed_signature hx
  refine ⟨hn, arrow_absent_fields (fun f hm => (hps f hm).1) hx fun f hm => (hps f hm).2, hmid, ?_⟩
  simp only [List.mem_append, not_or]
  exact ⟨bracket_not_mem_blank hgap (by decide), hr.not_mem (by decide) (by decide),
    bracket_not_mem_blank hrest (by decide)⟩

theorem trim_result (hf : (signature n ps mid gap r rest).Framed) :
    trim (gap ++ (r.text ++ rest)) = trim r.text := by
  rw [trim_blank_append hf.2.2.1, trim_append_blank hf.2.2.2]

end Signature

theorem sense_eq (hp : ∀ c ∈ pad, isBlank c = true) (hf : d.Framed)
    (hx : ∀ s ∈ d.slots, Placed s.text) (hw : d.Whole) :
    sense (pad ++ d.text) = d.sense? := by
  cases d with
  | vars fs =>
    exact sense_vars hp (fun f hm => (hf f hm).1) (placed_vars hx) (fun f hm => (hf f hm).2) hw
  | filter f => exact sense_filter hp hf.1 hf.2
  | signature n ps mid gap r rest =>
    obtain ⟨hs, hne⟩ := hw
    have hparams := mapM_parseParameter (fun f hm => (hf.2.1 f hm).1) (placed_signature hx).1
      (fun f hm => (hf.2.1 f hm).2) hs
    have hresult := trim_result hf
    rw [text, (signed hf hx).sense hp, hparams, hresult, if_neg (by simpa using hne), sense?,
      meaning_congr hresult]

theorem sense_eq_none (hp : ∀ c ∈ pad, isBlank c = true) (hf : d.Framed)
    (hx : ∀ s ∈ d.slots, Placed s.text) (hw : ¬ d.Whole) : sense (pad ++ d.text) = none := by
  cases d with
  | vars fs =>
    simp only [Whole, not_forall] at hw
    obtain ⟨f, hm, hs⟩ := hw
    exact sense_vars_torn hp (fun f hm => (hf f hm).1) (placed_vars hx) (fun f hm => (hf f hm).2) hm
      hs
  | filter f => exact absurd trivial hw
  | signature n ps mid gap r rest =>
    rw [text, (signed hf hx).sense hp, trim_result hf]
    by_cases hblank : trim r.text = []
    · rw [if_pos (by simp [hblank])]
    · have hw : ¬ ∀ f ∈ ps, Sealed ',' 0 f.slot.text := fun hs => hw ⟨hs, hblank⟩
      simp only [not_forall] at hw
      obtain ⟨f, hm, hs⟩ := hw
      rw [mapM_parseParameter_torn (fun f hm => (hf.2.1 f hm).1) (placed_signature hx).1
        (fun f hm => (hf.2.1 f hm).2) hm hs, Option.bind_none, ite_self]

end Sense

end Declaration

def Field.map (g : Slot → Slot) (f : Field) : Field := { f with slot := g f.slot }

namespace Declaration

/-- A declaration with other texts in the places of its types. -/
def map (g : Slot → Slot) : Declaration → Declaration
  | vars fs => vars (fs.map (Field.map g))
  | filter f => filter (f.map g)
  | signature n ps mid gap r rest => signature n (ps.map (Field.map g)) mid gap (g r) rest

section Map

variable {d : Declaration} {g : Slot → Slot}

theorem map_id (d : Declaration) : d.map id = d := by
  have hfields (fs : List Field) : fs.map (Field.map id) = fs := List.map_id' fs
  cases d with
  | vars fs => rw [map, hfields]
  | filter f => rfl
  | signature n ps mid gap r rest => rw [map, hfields]; rfl

theorem framed_field {f : Field} (h : f.Framed) : (f.map g).Framed := ⟨h.name, h.named, h.gap⟩

theorem framed_map (h : d.Framed) : (d.map g).Framed := by
  cases d with
  | vars fs => simpa [map, Framed] using fun f hm => ⟨framed_field (h f hm).1, (h f hm).2⟩
  | filter f => exact ⟨framed_field h.1, h.2⟩
  | signature n ps mid gap r rest =>
    exact ⟨h.1, by simpa using fun f hm => ⟨framed_field (h.2.1 f hm).1, (h.2.1 f hm).2⟩, h.2.2⟩

theorem slots_map : (d.map g).slots = d.slots.map g := by
  cases d <;> simp [map, slots, Field.map, Function.comp_def]

end Map

end Declaration

section Option

variable {α β : Type} {f g : α → Option β} {l : List α}

theorem mapM_eq_some_iff {bs : List β} : l.mapM f = some bs ↔ l.map f = bs.map some := by
  induction l generalizing bs with
  | nil => cases bs <;> simp
  | cons a l ih =>
    rw [List.mapM_cons]
    cases bs with
    | nil => cases f a <;> cases l.mapM f <;> simp
    | cons b bs =>
      rw [List.map_cons, List.map_cons, List.cons.injEq, ← ih]
      cases f a <;> cases l.mapM f <;> simp

theorem mapM_eq_iff (h : l.mapM f ≠ none) : l.mapM g = l.mapM f ↔ ∀ a ∈ l, g a = f a := by
  refine ⟨fun heq => ?_, mapM_congr_mem⟩
  obtain ⟨bs, hbs⟩ := Option.ne_none_iff_exists'.1 h
  rw [hbs] at heq
  exact List.map_inj_left.1 ((mapM_eq_some_iff.1 heq).trans (mapM_eq_some_iff.1 hbs).symm)

end Option

section Map

variable {d : Declaration} {g : Slot → Slot}

theorem typedName?_map_iff {f : Field} :
    (f.map g).typedName? = f.typedName? ↔ meaning (g f.slot).text = meaning f.slot.text :=
  Option.map_inj_right fun _ _ h => (TypedName.mk.inj h).2

theorem parameter?_map_iff {f : Field} :
    (f.map g).parameter? = f.parameter? ↔ meaning (g f.slot).text = meaning f.slot.text :=
  Option.map_inj_right fun _ _ h => (Parameter.mk.inj h).2.1

namespace Declaration

theorem sense?_map_iff (h : d.sense? ≠ none) :
    (d.map g).sense? = d.sense? ↔ ∀ s ∈ d.slots, meaning (g s).text = meaning s.text := by
  cases d with
  | vars fs =>
    have hne : fs.mapM Field.typedName? ≠ none := fun h0 => h (by rw [sense?, h0]; rfl)
    rw [map, sense?, sense?, Option.map_inj_right fun _ _ => varTypes.inj, List.mapM_map,
      mapM_eq_iff hne]
    simp only [slots, List.forall_mem_map, Function.comp_apply, typedName?_map_iff]
  | filter f =>
    rw [map, sense?, sense?, Option.map_inj_right fun _ _ => Directive.filter.inj,
      typedName?_map_iff]
    simp [slots]
  | signature n ps mid gap r rest =>
    rw [sense?] at h
    obtain ⟨params, hps⟩ : ∃ params, ps.mapM Field.parameter? = some params :=
      Option.ne_none_iff_exists'.1 fun h0 => h (by rw [h0]; rfl)
    obtain ⟨t, ht⟩ : ∃ t, meaning r.text = some t :=
      Option.ne_none_iff_exists'.1 fun h0 => h (by rw [hps, h0]; rfl)
    have hparams : (ps.map (Field.map g)).mapM Field.parameter? = some params ↔
        ∀ f ∈ ps, meaning (g f.slot).text = meaning f.slot.text := by
      rw [List.mapM_map, ← hps, mapM_eq_iff (by simp [hps])]
      exact forall₂_congr fun f _ => parameter?_map_iff
    have hslots :
        (∀ s ∈ (signature n ps mid gap r rest).slots, meaning (g s).text = meaning s.text) ↔
        (ps.map (Field.map g)).mapM Field.parameter? = some params ∧
          meaning (g r).text = some t := by
      rw [hparams, slots, List.forall_mem_append, List.forall_mem_map, List.forall_mem_singleton,
        ht]
    rw [hslots, map, sense?, sense?, hps, ht]
    cases (ps.map (Field.map g)).mapM Field.parameter? with
    | none => simp
    | some params' => cases meaning (g r).text <;> simp [and_comm]

structure Fills (x y : List Char) : Prop where
  placed : Placed y
  isSealed : meaning y = meaning x → Sealed ',' 0 x → Sealed ',' 0 y
  nonblank : meaning y = meaning x → trim x ≠ [] → trim y ≠ []

theorem whole_map (hw : d.Whole) (hg : ∀ s ∈ d.slots, Fills s.text (g s).text)
    (h : ∀ s ∈ d.slots, meaning (g s).text = meaning s.text) : (d.map g).Whole := by
  have hsealed {f : Field} (hm : f.slot ∈ d.slots) (hs : Sealed ',' 0 f.slot.text) :
      Sealed ',' 0 (f.map g).slot.text :=
    (hg _ hm).isSealed (h _ hm) hs
  cases d with
  | vars fs => exact List.forall_mem_map.2 fun f hm => hsealed (List.mem_map_of_mem hm) (hw f hm)
  | filter f => trivial
  | signature n ps mid gap r rest =>
    have hr : r ∈ (signature n ps mid gap r rest).slots := by simp [slots]
    exact ⟨List.forall_mem_map.2 fun f hm =>
      hsealed (List.mem_append_left _ (List.mem_map_of_mem hm)) (hw.1 f hm),
      (hg r hr).nonblank (h r hr) hw.2⟩

theorem sense_map_iff {pad : List Char} (hp : ∀ c ∈ pad, isBlank c = true) (hf : d.Framed)
    (hx : ∀ s ∈ d.slots, Placed s.text) (hg : ∀ s ∈ d.slots, Fills s.text (g s).text)
    (h : sense (pad ++ d.text) ≠ none) :
    sense (pad ++ (d.map g).text) = sense (pad ++ d.text) ↔
      ∀ s ∈ d.slots, meaning (g s).text = meaning s.text := by
  have hw : d.Whole := by_contra fun hw => h (sense_eq_none hp hf hx hw)
  have hx' : ∀ s ∈ (d.map g).slots, Placed s.text := by
    rw [slots_map]
    exact List.forall_mem_map.2 fun s hm => (hg s hm).placed
  rw [sense_eq hp hf hx hw] at h ⊢
  constructor
  · intro heq
    have hw' : (d.map g).Whole :=
      by_contra fun hw' => h (heq ▸ sense_eq_none hp (framed_map hf) hx' hw')
    rwa [sense_eq hp (framed_map hf) hx' hw', sense?_map_iff h] at heq
  · intro hm
    rw [sense_eq hp (framed_map hf) hx' (whole_map hw hg hm)]
    exact (sense?_map_iff h).2 hm

end Declaration

end Map

end TypedTemplate.Directive
