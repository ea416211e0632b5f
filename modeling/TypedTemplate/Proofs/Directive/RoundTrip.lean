import TypedTemplate.Proofs.Directive.Comment
import TypedTemplate.Proofs.Directive.Import
import TypedTemplate.Proofs.Directive.Sense

/-! Declarations that are printed into a comment and read from it. The printed types are spellings,
so each stays in the place where it was printed, and what is read differs only in the texts that its
types carry. -/
namespace TypedTemplate
open Text TypeExpr Style

namespace Directive

def mapTypes (g : TypeExpr → TypeExpr) : Directive → Directive
  | varTypes ds => varTypes (ds.map fun d => { d with type := g d.type })
  | filter d => filter { d with type := g d.type }
  | macroSignature m =>
    macroSignature { m with params := m.params.map fun p => { p with type := g p.type },
                                                              result := g m.result }
  | d => d

/-- A directive without the texts of its types. -/
def bare : Directive → Directive := mapTypes TypeExpr.bare

/-- The same directive, each type in it with the printed forms as its texts. -/
def reprint : Directive → Directive := mapTypes TypeExpr.reprint

theorem mapTypes_mapTypes (g k : TypeExpr → TypeExpr) (d : Directive) :
    (d.mapTypes k).mapTypes g = d.mapTypes fun t => g (k t) := by
  cases d <;> simp [mapTypes, Function.comp_def]

theorem bare_reprint (d : Directive) : d.reprint.bare = d.bare := by
  rw [reprint, bare, mapTypes_mapTypes]
  simp only [TypeExpr.bare_reprint]

/-- What stands between the keyword and the end of a comment. Only variables have a word before
their list. -/
def body (d : Directive) : String :=
  (match d with
    | varTypes _ => "var "
    | _ => "") ++ joinWith ", " d.renderDeclarations

def comment (d : Directive) : String := "\x7b# typja:" ++ d.body ++ " #\x7d"

end Directive

structure IsFallback (s : List Char) : Prop where
  nonempty : s ≠ []
  trimmed : Trimmed s
  unclosed : '#' ∉ s
  arrow : ¬ Directive.arrow <:+: s
  closed : depthOf 0 s = 0
  isSealed : Sealed ',' 0 s

structure TypedName.Printable (d : TypedName) : Prop where
  name : isIdentifier d.name.toList = true
  type : d.type.Printable

structure Parameter.Printable (p : Parameter) : Prop where
  name : isIdentifier p.name.toList = true
  type : p.type.Printable
  fallback : ∀ d ∈ p.fallback, IsFallback d.toList

/-- The directives that make declarations, with names and types that can be printed and read. -/
inductive Directive.Printable : Directive → Prop
  | importModule {m} (h : isModuleName m.toList = true) : Printable (importModule m)
  | importFrom {m ns} (hm : isRelativeModule m.toList = true) (hne : ns ≠ [])
    (h : ∀ n ∈ ns, n.Printable) :
      Printable (importFrom m ns)
  | varTypes {ds} (hne : ds ≠ []) (h : ∀ d ∈ ds, d.Printable) : Printable (varTypes ds)
  | filter {d} (h : d.Printable) : Printable (filter d)
  | macroSignature {m} (hn : isIdentifier m.name.toList = true) (hp : ∀ p ∈ m.params, p.Printable)
      (hr : m.result.Printable) : Printable (macroSignature m)

theorem parseType_render {t : TypeExpr} (ht : t.Printable) :
    Directive.parseType t.render.toList = .ok t.reprint := by
  rw [Directive.parseType, parseChars_spelling ht.spelling]
  rfl

def TypedName.parameter (d : TypedName) : Parameter := ⟨d.name, d.type, none⟩

theorem TypedName.Printable.parameter {d : TypedName} (h : d.Printable) : d.parameter.Printable :=
  ⟨h.name, h.type, by simp [TypedName.parameter]⟩

theorem TypedName.render_parameter (d : TypedName) : d.parameter.render = d.render := by
  simp [TypedName.parameter, Parameter.render, TypedName.render]

namespace Parameter
open Directive

variable {p : Parameter} {lead : List Char}

def tail (p : Parameter) : List Char :=
  match p.fallback with
  | none => []
  | some d => [' '] ++ '=' :: (' ' :: d.toList)

def field (lead : List Char) (p : Parameter) : Field :=
  ⟨lead ++ p.name.toList, [' '], ⟨p.type.render.toList, []⟩, p.tail⟩

theorem text_field (lead : List Char) (p : Parameter) :
    (p.field lead).text = lead ++ p.render.toList := by
  obtain ⟨name, type, _ | d⟩ := p <;> simp [field, tail, Field.text, render]

namespace Printable

theorem word (h : p.Printable) : Word p.name.toList := .of_isIdentifier h.name

theorem trim_name (h : p.Printable) (hl : ∀ c ∈ lead, isBlank c = true) :
    String.ofList (trim (p.field lead).name) = p.name := by
  rw [field, h.word.trim_eq hl, String.ofList_toList]

theorem framed (h : p.Printable) (hl : ∀ c ∈ lead, isBlank c = true) : (p.field lead).Framed where
  name := List.forall_mem_append.2 ⟨fun c hc => isPlain_of_isBlank (hl c hc), h.word.plain⟩
  named := by
    rw [field, h.word.trim_eq hl]
    exact h.word.nonempty
  gap := show ∀ c ∈ [' '], isBlank c = true by decide

theorem placed (h : p.Printable) : Placed (p.field lead).slot.text :=
  placed_spelling h.type.spelling

theorem isSealed (h : p.Printable) : Sealed ',' 0 (p.field lead).slot.text :=
  sealed_spelling h.type.spelling

theorem rest (h : p.Printable) : Rest p.tail := by
  obtain ⟨name, type, _ | d⟩ := p
  · exact .blank (by simp [tail])
  · have hd := h.fallback d rfl
    refine .fallback (by decide) (show Sealed ',' 0 ([' '] ++ d.toList) from ?_) hd.closed
      fun hin => ?_
    · exact sealed_append.2 ⟨sealed_of_not_mem (by decide) 0, hd.isSealed⟩
    · rcases List.infix_cons_iff.1 hin with hin | hin
      · simp [arrow] at hin
      · exact hd.arrow hin

theorem fallback?_tail (h : p.Printable) : fallback? p.tail = p.fallback := by
  obtain ⟨name, type, _ | d⟩ := p
  · rfl
  · have hd := h.fallback d rfl
    rw [tail, fallback?, cut?_single (by decide), Option.map_some, trim_space,
      trim_eq_self hd.trimmed, String.ofList_toList]

theorem parseVariable (h : p.Printable) (hl : ∀ c ∈ lead, isBlank c = true)
    (hf : p.fallback = none) :
    parseVariable (trim (p.field lead).text) = .ok ⟨p.name, p.type.reprint⟩ := by
  have hread := (h.framed hl).parseVariable_eq (by simp [field, tail, hf])
  rw [h.trim_name hl] at hread
  rw [hread, field, parseType_render h.type]
  rfl

theorem parseParameter (h : p.Printable) (hl : ∀ c ∈ lead, isBlank c = true) :
    parseParameter (trim (p.field lead).text) = .ok { p with type := p.type.reprint } := by
  have hread := (h.framed hl).parseParameter_eq (h.placed.not_mem (by decide) (by decide)) h.rest
  rw [h.trim_name hl] at hread
  rw [hread, field, parseType_render h.type, h.fallback?_tail]
  rfl

end Printable

/-- The fields of a printed list, with a blank behind each comma. -/
def fields (lead : List Char) : List Parameter → List Field
  | [] => []
  | p :: ps => p.field lead :: ps.map (field [' '])

variable {ps : List Parameter}

theorem text_fields (hl : ps = [] → lead = []) :
    [','].intercalate ((fields lead ps).map Field.text) = lead ++
    (joinWith ", " (ps.map render)).toList := by
  cases ps with
  | nil => simp [fields, hl rfl, joinWith]
  | cons p ps =>
    have hblank := intercalate_blank p.render.toList (ps.map fun q => q.render.toList)
    rw [List.map_map] at hblank
    rw [fields, List.map_cons, text_field, intercalate_append_cons, List.map_map, joinWith,
      String.toList_intercalate, List.map_map]
    simpa [Function.comp_def, text_field] using hblank

theorem exists_of_mem_fields (hl : ∀ c ∈ lead, isBlank c = true) {x : Field}
    (h : x ∈ fields lead ps) :
    ∃ l, (∀ c ∈ l, isBlank c = true) ∧ ∃ p ∈ ps, x = p.field l := by
  cases ps with
  | nil => cases h
  | cons p ps =>
    rcases List.mem_cons.1 h with rfl | h
    · exact ⟨lead, hl, p, by simp, rfl⟩
    · obtain ⟨q, hq, rfl⟩ := List.mem_map.1 h
      exact ⟨[' '], by decide, q, by simp [hq], rfl⟩

theorem mapM_fields {α ε : Type} {k : List Char → Except ε α} {g : Parameter → α}
    (hl : ∀ c ∈ lead, isBlank c = true)
    (h : ∀ l, (∀ c ∈ l, isBlank c = true) → ∀ p ∈ ps, k (trim (p.field l).text) = .ok (g p)) :
    ((fields lead ps).map fun x => trim x.text).mapM k = .ok (ps.map g) := by
  cases ps with
  | nil => rfl
  | cons p ps =>
    have hrest : (ps.map fun q => trim (q.field [' ']).text).mapM k = .ok (ps.map g) := by
      rw [List.mapM_map]
      exact mapM_eq_ok fun q hq => h [' '] (by decide) q (by simp [hq])
    rw [fields, List.map_cons, List.map_map, List.mapM_cons, h lead hl p (by simp)]
    exact congrArg (fun y => do let qs ← y; pure (g p :: qs)) hrest

section Fields

variable (hl : ∀ c ∈ lead, isBlank c = true) (h : ∀ p ∈ ps, p.Printable)
include hl h

theorem framed_fields : ∀ x ∈ fields lead ps, x.Framed := fun x hx => by
  obtain ⟨l, hb, p, hp, rfl⟩ := exists_of_mem_fields hl hx
  exact (h p hp).framed hb

theorem placed_fields : ∀ x ∈ fields lead ps, Placed x.slot.text := fun x hx => by
  obtain ⟨l, -, p, hp, rfl⟩ := exists_of_mem_fields hl hx
  exact (h p hp).placed

theorem rest_fields : ∀ x ∈ fields lead ps, Rest x.rest := fun x hx => by
  obtain ⟨l, -, p, hp, rfl⟩ := exists_of_mem_fields hl hx
  exact (h p hp).rest

theorem splitArgs_printed :
    splitArgs ([','].intercalate ((fields lead ps).map Field.text)) = (fields lead ps).map fun x =>
      trim x.text := by
  refine splitArgs_fields (framed_fields hl h) (placed_fields hl h) (rest_fields hl h)
    fun x hx => ?_
  obtain ⟨l, -, p, hp, rfl⟩ := exists_of_mem_fields hl hx
  exact (h p hp).isSealed

end Fields

end Parameter

namespace Directive

section Variables

variable {ds : List TypedName}

theorem parse_varTypes (hne : ds ≠ []) (h : ∀ d ∈ ds, d.Printable) :
    parse (trim (varTypes ds).body.toList) = .ok (varTypes ds).reprint := by
  have hp : ∀ p ∈ ds.map TypedName.parameter, p.Printable :=
    List.forall_mem_map.2 fun d hd => (h d hd).parameter
  have hbody : (varTypes ds).body.toList =
      varWord ++ [','].intercalate
        ((Parameter.fields [' '] (ds.map TypedName.parameter)).map Field.text) := by
    rw [Parameter.text_fields fun h0 => absurd (List.map_eq_nil_iff.1 h0) hne, List.map_map]
    simp [body, renderDeclarations, varWord, Function.comp_def, TypedName.render_parameter]
  have hread := @Parameter.mapM_fields [' '] (ds.map TypedName.parameter) _ _ parseVariable
    (fun p => ⟨p.name, p.type.reprint⟩) (by decide) fun l hl => List.forall_mem_map.2 fun d hd =>
      (h d hd).parameter.parseVariable hl rfl
  rw [hbody, ← List.nil_append (varWord ++ _), trim_var (by simp), parse_var, parseVariables,
    declarationParts_eq, trim_trimEnd, splitArgs_trim, Parameter.splitArgs_printed (by decide) hp,
    hread, List.map_map]
  rfl

end Variables

theorem parse_filterType {d : TypedName} (h : d.Printable) :
    parse (trim (filter d).body.toList) = .ok (filter d).reprint := by
  have hword := Word.of_isIdentifier h.name
  have hcolon : ':' ∉ trimStart d.name.toList := colon_not_mem hword.plain
  have hbody :
      (filter d).body.toList = filterWord ++
        (d.name.toList ++ ':' :: (' ' :: d.type.render.toList)) := by
    simp [body, renderDeclarations, TypedName.render, filterWord]
  have htype :
      trim (trimEnd (trimEnd (' ' :: d.type.render.toList))) = trim d.type.render.toList := by
    rw [trim_trimEnd, trim_trimEnd, trim_space]
  rw [hbody, ← List.nil_append (filterWord ++ _), trim_filter (by simp) (by decide), parse_filter,
    parseFilter]
  simp only [trim_append_cons (show isBlank ':' = false by decide)]
  rw [parseTypedName_eq hcolon, parseType_congr htype, parseType_render h.type, trim_trimStart,
    trim_eq_self hword.trimmed, String.ofList_toList]
  rfl

section Signature

variable {m : MacroSignature}

theorem ok_of_toOption {ε α : Type} {x : Except ε α} {a : α} (h : x.toOption = some a) :
    x = .ok a := by
  cases x with
  | error e => cases h
  | ok b => exact congrArg _ (Option.some.inj h)

theorem signed_printed (hn : isIdentifier m.name.toList = true) (hp : ∀ p ∈ m.params, p.Printable)
    (hr : m.result.Printable) :
    Signed m.name.toList ([','].intercalate ((Parameter.fields [] m.params).map Field.text)) [' ']
      (' ' :: m.result.render.toList) where
  name := (Word.of_isIdentifier hn).plain
  params := arrow_absent_fields (Parameter.framed_fields (by simp) hp)
    (Parameter.placed_fields (by simp) hp) (Parameter.rest_fields (by simp) hp)
  mid := by decide
  result := by
    have hclose := (placed_spelling hr.spelling).not_mem (c := ')') (by decide) (by decide)
    simpa using hclose

theorem parse_macroSignature (hn : isIdentifier m.name.toList = true)
    (hp : ∀ p ∈ m.params, p.Printable)
    (hr : m.result.Printable) :
    parse (trim (macroSignature m).body.toList) = .ok (macroSignature m).reprint := by
  have hbody : (macroSignature m).body.toList = macroWord ++ (m.name.toList ++ '(' ::
      ([','].intercalate ((Parameter.fields [] m.params).map Field.text) ++
        ')' :: ([' '] ++ (arrow ++ ' ' :: m.result.render.toList)))) := by
    rw [Parameter.text_fields fun _ => rfl]
    simp [body, renderDeclarations, MacroSignature.render, macroWord, arrow]
  have hread := @Parameter.mapM_fields [] m.params _ _ parseParameter
      (fun p => { p with type := p.type.reprint })
    (by simp) fun l hl p hm => (hp p hm).parseParameter hl
  have hresult : parseType (' ' :: m.result.render.toList) = .ok m.result.reprint :=
    (parseType_congr (trim_space _)).trans (parseType_render hr)
  have hfilled : trim (' ' :: m.result.render.toList) ≠ [] := by
    rw [trim_space, trim_eq_self hr.spelling.trimmed.2]
    exact hr.spelling.trimmed.1
  have hparse := (signed_printed hn hp hr).parse (show ∀ c ∈ [], isBlank c = true by simp)
  rw [if_neg (by simpa using hfilled), Parameter.splitArgs_printed (by simp) hp, hread, hresult,
    trim_eq_self (Word.of_isIdentifier hn).trimmed, String.ofList_toList] at hparse
  rw [hbody, ← List.nil_append (macroWord ++ _)]
  exact ok_of_toOption hparse

end Signature

theorem Printable.parse_body {d : Directive} (h : d.Printable) :
    parse (trim d.body.toList) = .ok d.reprint := by
  cases h with
  | @importModule m h =>
    have hbody : (Directive.importModule m).body.toList = importWord ++ ' ' :: m.toList := by
      simp [body, renderDeclarations, importWord]
    rw [hbody, parse_importModule h, String.ofList_toList]
    rfl
  | @importFrom m ns hm hne h =>
    have hbody : (Directive.importFrom m ns).body.toList =
        fromWord ++ ' ' :: (m.toList ++ ' ' :: (importWord ++ ' ' :: ImportedName.listed ns)) := by
      simp [body, renderDeclarations, importWord, fromWord, ImportedName.listed]
    rw [hbody, parse_importFrom hm hne h, String.ofList_toList]
    rfl
  | varTypes hne h => exact parse_varTypes hne h
  | filter h => exact parse_filterType h
  | macroSignature hn hp hr => exact parse_macroSignature hn hp hr

end Directive

section Hash

theorem TypeExpr.Simple.chars {t : TypeExpr} (h : Simple t) :
    ∀ c ∈ t.render.toList, isBaseChar c = true ∨ c ∈ ['[', ']', ',', ' '] := by
  induction h with
  | named hn =>
    rw [render]
    exact fun c hc => .inl (isBaseChar_of_mem_qualify hn c hc)
  | @generic r n m args hn hr hne ha ih =>
    obtain ⟨a, as, rfl⟩ := List.exists_cons_of_ne_nil hne
    intro c hc
    rw [render, renderAll_eq_map] at hc
    simp only [String.toList_append, List.mem_append] at hc
    rcases hc with ((hc | hc) | hc) | hc
    · exact .inl (isBaseChar_of_mem_qualify hn c hc)
    · exact .inr (by simp_all)
    · rcases mem_joinWith hc with hc | ⟨s, hs, hc⟩
      · exact .inr (by simp_all)
      · obtain ⟨b, hb, rfl⟩ := List.mem_map.1 hs
        exact ih b hb c hc
    · exact .inr (by simp_all)

theorem TypeExpr.Printable.hash_not_mem {t : TypeExpr} (h : Printable t) :
    '#' ∉ t.render.toList := by
  have hsimple {u : TypeExpr} (hu : Simple u) : '#' ∉ u.render.toList := fun hm =>
    (hu.chars '#' hm).elim (fun hc => absurd hc (by decide)) fun hc => absurd hc (by decide)
  cases h with
  | simple h => exact hsimple h
  | @bars r ms hlen hm =>
    obtain ⟨u, ms, rfl⟩ :=
      List.exists_cons_of_ne_nil (List.ne_nil_of_length_pos (Nat.lt_of_lt_of_le (by decide) hlen))
    rw [render, renderAll_eq_map]
    intro hc
    rcases mem_joinWith hc with hc | ⟨s, hs, hc⟩
    · exact absurd hc (by decide)
    · obtain ⟨v, hv, rfl⟩ := List.mem_map.1 hs
      exact hsimple (hm v hv) hc

theorem Parameter.Printable.hash_not_mem {p : Parameter} (h : p.Printable) :
    '#' ∉ p.render.toList := by
  have hname := h.word.not_mem (c := '#') (by decide)
  have htype := h.type.hash_not_mem
  obtain ⟨name, type, _ | d⟩ := p
  · simpa [Parameter.render] using ⟨hname, htype⟩
  · simpa [Parameter.render] using ⟨hname, htype, (h.fallback d rfl).unclosed⟩

namespace Directive

theorem hash_not_mem_joinWith {ss : List String} (h : ∀ s ∈ ss, '#' ∉ s.toList) :
    '#' ∉ (joinWith ", " ss).toList :=
  fun hc => (mem_joinWith hc).elim (fun hc => absurd hc (by decide)) fun ⟨s, hs, hc⟩ => h s hs hc

theorem Printable.hash_not_mem {d : Directive} (h : d.Printable) : '#' ∉ d.body.toList := by
  have htyped {d : TypedName} (hd : d.Printable) : '#' ∉ d.render.toList := by
    rw [← d.render_parameter]
    exact hd.parameter.hash_not_mem
  cases h with
  | importModule h =>
    have hm := (Word.of_isModuleName h).not_mem (c := '#') (by decide)
    simpa [body, renderDeclarations] using hm
  | @importFrom m ns hm hne h =>
    have hmodule := (Word.of_isRelativeModule hm).not_mem (c := '#') (by decide)
    have hnames : '#' ∉ (joinWith ", " (ns.map ImportedName.render)).toList := fun hc => by
      rcases ImportedName.chars_listed h _ hc with hc | hc | hc <;> exact absurd hc (by decide)
    simpa [body, renderDeclarations] using ⟨hmodule, hnames⟩
  | varTypes hne h =>
    have hdecls := hash_not_mem_joinWith (List.forall_mem_map.2 fun d hd => htyped (h d hd))
    simpa [body, renderDeclarations] using hdecls
  | filter h => simpa [body, renderDeclarations] using htyped h
  | @macroSignature m hn hp hr =>
    have hname := (Word.of_isIdentifier hn).not_mem (c := '#') (by decide)
    have hparams := hash_not_mem_joinWith (List.forall_mem_map.2 fun p hm => (hp p hm).hash_not_mem)
    simpa [body, renderDeclarations, MacroSignature.render] using ⟨hname, hparams, hr.hash_not_mem⟩

end Directive

end Hash

namespace Comment
open Directive

/-- A directive that is printed into a comment is read back from it, the texts of its types
apart. -/
theorem parseAll_comment {d : Directive} (h : d.Printable) (filename : String) :
    ∃ c, parseAll filename d.comment = .ok [c] ∧ c.position = ⟨1, 1⟩ ∧
      c.directive.bare = d.bare := by
  have hbegins : Begins d.comment.toList [' '] (d.body.toList ++ [' ']) [] :=
    ⟨by simp [comment, written, keyword], by decide, by simpa using h.hash_not_mem, by simp⟩
  obtain ⟨raw, hscan⟩ := hbegins.scan_eq (by simp) .start
  have hparse : Directive.parse (trim (d.body.toList ++ [' '])) = .ok d.reprint := by
    rw [trim_append_blank (by decide), h.parse_body]
  refine ⟨⟨.start, String.ofList raw, d.reprint⟩, ?_, rfl, bare_reprint d⟩
  rw [parseAll, hscan, List.mapM_cons, List.mapM_nil, read, hparse]
  rfl

theorem parseAll_comment_button :
    let d : Directive := .macroSignature ⟨"button",
      [⟨"label", .union "" .pipe [.named "" "str" none, .named "" "None" none], some "pick(a, b)"⟩,
        ⟨"size", .generic "" "list" none [.named "" "int" none], none⟩],
          .named "" "Markup" (some "ui")⟩
    d.Printable ∧
      ∃ c, parseAll "page.html" d.comment = .ok [c] ∧ c.position = ⟨1, 1⟩ ∧
        c.directive.bare = d.bare := by
  intro d
  have plain {s : String} (h : IsComponent s) : Simple (.named "" s none) := .named (isName_plain h)
  have markup : Simple (.named "" "Markup" (some "ui")) := by
    refine .named ⟨⟨by decide, by decide⟩, fun p hp => ⟨["ui"], by decide, ?_, by simp_all⟩⟩
    simpa using ⟨by decide, by decide⟩
  have list : Simple (.generic "" "list" none [.named "" "int" none]) :=
    .generic (isName_plain ⟨by decide, by decide⟩) (by simp [Reserved]) (by simp)
      (by simpa using plain ⟨by decide, by decide⟩)
  have label : TypeExpr.Printable (.union "" .pipe [.named "" "str" none, .named "" "None" none]) :=
    .bars (by decide) (by simpa using ⟨plain ⟨by decide, by decide⟩, plain ⟨by decide, by decide⟩⟩)
  have pick : IsFallback "pick(a, b)".toList :=
    ⟨by decide, ⟨by decide, by decide⟩, by decide, occurs_eq_false_iff.1 (by decide), by decide,
      by simp [Sealed, depthAfter, isOpen, isClose]⟩
  have hd : d.Printable := .macroSignature (by decide)
    (by simpa using ⟨⟨by decide, label, by simpa using pick⟩, ⟨by decide, .simple list, by simp⟩⟩)
      (.simple markup)
  exact ⟨hd, parseAll_comment hd "page.html"⟩

end Comment

end TypedTemplate
