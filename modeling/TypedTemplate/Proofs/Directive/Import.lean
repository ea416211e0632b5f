import Mathlib.Data.List.TakeDrop
import TypedTemplate.Directive.Parse
import TypedTemplate.Proofs.TypeExpr.RoundTrip
import TypedTemplate.Text.Identifier

/-! Words in a directive, and imports as they are printed. An identifier and the name of a module
hold no blank and no sign that separates, so the blanks, commas and words between them are found
where they were printed. -/
namespace TypedTemplate
open Text TypeExpr

namespace Directive

def isInert (c : Char) : Bool := isPlain c && !isBlank c && c != '#'

structure Word (s : List Char) : Prop where
  nonempty : s ≠ []
  inert : ∀ c ∈ s, isInert c = true

section Inert

variable {c : Char}

theorem isInert_iff : isInert c = true ↔ isPlain c = true ∧ isBlank c = false ∧ c ≠ '#' := by
  simp [isInert, and_assoc]

theorem isInert_of_isBaseChar (h : isBaseChar c = true) : isInert c = true := by
  refine isInert_iff.2 ⟨isPlain_of_isBaseChar h, isBlank_of_isBaseChar h, ?_⟩
  rintro rfl
  exact absurd h (by decide)

theorem isInert_of_wide (h : 128 ≤ c.toNat) (hb : isBlank c = false) : isInert c = true := by
  have hsep : ∀ d ∈ ['[', '(', '{', ']', ')', '}', ',', '|', ':', '=', '>', '#'],
    d.toNat < 128 := by decide
  have hne : c ∉ ['[', '(', '{', ']', ')', '}', ',', '|', ':', '=', '>', '#'] := fun hm => by
    have := hsep c hm
    omega
  simp only [List.mem_cons, List.not_mem_nil, or_false, not_or] at hne
  simp [isInert, isPlain, isOpen, isClose, hne, hb]

def wideBlanks : List Nat :=
  [0x85, 0xa0, 0x1680, 0x2000, 0x2001, 0x2002, 0x2003, 0x2004, 0x2005, 0x2006, 0x2007, 0x2008,
    0x2009, 0x200a, 0x2028, 0x2029, 0x202f, 0x205f, 0x3000]

theorem mem_wideBlanks (h : isBlank c = true) (hc : 128 ≤ c.toNat) : c.toNat ∈ wideBlanks := by
  simp only [isBlank, Bool.or_eq_true, Bool.and_eq_true, decide_eq_true_eq, beq_iff_eq] at h
  simp only [wideBlanks, List.mem_cons, List.not_mem_nil, or_false]
  omega

theorem absent_wideBlanks : ∀ n ∈ wideBlanks, inRanges identifierStartRanges n = false ∧
    followsWide n = false := by
  decide +kernel

theorem isInert_of_absent {p : Nat → Bool} (hp : ∀ n ∈ wideBlanks, p n = false) (hc : 128 ≤ c.toNat)
    (h : p c.toNat = true) : isInert c = true := by
  refine isInert_of_wide hc (Bool.eq_false_iff.2 fun hb => ?_)
  rw [hp _ (mem_wideBlanks hb hc)] at h
  cases h

theorem isInert_of_isIdentifierStart (h : isIdentifierStart c = true) : isInert c = true := by
  rw [isIdentifierStart] at h
  split at h
  · refine isInert_of_isBaseChar ?_
    simp only [isBaseChar, isNameChar, Char.isAlphanum, Bool.or_eq_true] at h ⊢
    exact .inl (h.imp_left .inl)
  · exact isInert_of_absent (fun n hn => (absent_wideBlanks n hn).1) (by omega) h

theorem isInert_of_isIdentifierChar (h : isIdentifierChar c = true) : isInert c = true := by
  rw [isIdentifierChar] at h
  split at h
  · exact isInert_of_isBaseChar (by rw [isBaseChar, isNameChar, h, Bool.true_or])
  · exact isInert_of_absent (fun n hn => (absent_wideBlanks n hn).2) (by omega) h

end Inert

section Word

variable {s : List Char}

theorem Word.of_isIdentifier (h : isIdentifier s = true) : Word s := by
  cases s with
  | nil => cases h
  | cons c s =>
    rw [isIdentifier, Bool.and_eq_true, List.all_eq_true] at h
    exact ⟨by simp, List.forall_mem_cons.2
      ⟨isInert_of_isIdentifierStart h.1, fun d hd => isInert_of_isIdentifierChar (h.2 d hd)⟩⟩

theorem Word.of_isModuleName (h : isModuleName s = true) : Word s := by
  cases s with
  | nil => cases h
  | cons c s =>
    rw [isModuleName, Bool.and_eq_true, List.all_eq_true] at h
    refine ⟨by simp, List.forall_mem_cons.2 ⟨?_, fun d hd => isInert_of_isBaseChar (h.2 d hd)⟩⟩
    have hc := h.1
    refine isInert_of_isBaseChar ?_
    simp only [isNameStart, isBaseChar, isNameChar, Char.isAlphanum, Bool.or_eq_true] at hc ⊢
    exact .inl (hc.imp_left .inl)

theorem Word.of_isRelativeModule (h : isRelativeModule s = true) : Word s := by
  rw [isRelativeModule, Bool.or_eq_true, Bool.and_eq_true] at h
  rcases h with h | ⟨-, h⟩
  · exact .of_isModuleName h
  · have hrest := Word.of_isModuleName h
    have hs : s.takeWhile (· == '.') ++ s.dropWhile (· == '.') = s :=
      List.takeWhile_append_dropWhile
    refine ⟨fun h0 => hrest.nonempty (by rw [h0]; rfl), fun c hc => ?_⟩
    rw [← hs, List.mem_append] at hc
    rcases hc with hc | hc
    · have := List.all_eq_true.1 List.all_takeWhile c hc
      rw [beq_iff_eq.1 this]
      decide
    · exact hrest.inert c hc

theorem Word.plain (h : Word s) : Plain s := fun c hc => (isInert_iff.1 (h.inert c hc)).1

theorem Word.not_blank (h : Word s) : ∀ c ∈ s, isBlank c = false :=
  fun c hc => (isInert_iff.1 (h.inert c hc)).2.1

theorem Word.not_mem (h : Word s) {c : Char} (hc : isInert c = false) : c ∉ s := fun hm => by
  simp [h.inert c hm] at hc

theorem Word.trimmed (h : Word s) : Trimmed s :=
  ⟨fun c hc => h.not_blank c (List.mem_of_mem_head? hc),
    fun c hc => h.not_blank c (List.mem_of_mem_getLast? hc)⟩

theorem Word.trim_eq (h : Word s) {b : List Char} (hb : ∀ c ∈ b, isBlank c = true) :
    trim (b ++ s) = s := by
  rw [trim_blank_append hb, trim_eq_self h.trimmed]

end Word

theorem afterWord?_append {word s : List Char} (h : Trimmed s) :
    afterWord? word (word ++ ' ' :: s) = some s := by
  have hs : trimStart (' ' :: s) = s :=
    (dropWhile_append_of_all (b := [' ']) (by decide)).trans (dropWhile_eq_self h.1)
  have hblank : isBlank ' ' = true := by decide
  rw [afterWord?, after?_append]
  simp [hs, hblank]

def importWord : List Char := ['i', 'm', 'p', 'o', 'r', 't']

def fromWord : List Char := ['f', 'r', 'o', 'm']

theorem parse_import (s : List Char) :
    parse (importWord ++ ' ' :: s) = importModule <$> parseImportModule (importWord ++ ' ' :: s) :=
      rfl

theorem parse_from (s : List Char) :
    parse (fromWord ++ ' ' :: s) = (fun (m, ns) => importFrom m ns) <$> parseImportFrom
      (fromWord ++ ' ' :: s) := rfl

theorem Word.trimmed_append {word s : List Char} (hw : Word word) (hs : Trimmed s) (hne : s ≠ []) :
    Trimmed (word ++ ' ' :: s) := Text.trimmed_append hw.trimmed hs hw.nonempty hne [' ']

theorem parse_importModule {m : List Char} (h : isModuleName m = true) :
    parse (trim (importWord ++ ' ' :: m)) = .ok (importModule (String.ofList m)) := by
  have hword := Word.of_isModuleName h
  have htrim : trim (importWord ++ ' ' :: m) = importWord ++ ' ' :: m :=
    trim_eq_self (Word.trimmed_append ⟨by decide, by decide⟩ hword.trimmed hword.nonempty)
  have hafter : afterWord? "import".toList (importWord ++ ' ' :: m) = some m :=
    afterWord?_append hword.trimmed
  rw [htrim, parse_import, parseImportModule, htrim, hafter]
  simp only [h, if_true]
  rfl

end Directive

namespace ImportedName
open Directive

variable {n : ImportedName}

/-- An identifier, with or without another as its alias. -/
structure Printable (n : ImportedName) : Prop where
  name : isIdentifier n.name.toList = true
  renamed : ∀ a ∈ n.alias, isIdentifier a.toList = true

theorem Printable.render_cases (h : n.Printable) :
    (n.alias = none ∧ n.render.toList = n.name.toList) ∨
      ∃ a, n.alias = some a ∧ Word a.toList ∧
        n.render.toList = n.name.toList ++ (asWord ++ a.toList) := by
  obtain ⟨name, «alias»⟩ := n
  cases «alias» with
  | none => exact .inl ⟨rfl, rfl⟩
  | some a =>
    have ha := Word.of_isIdentifier (h.renamed a rfl)
    have hne : a.isEmpty = false := by simpa [String.isEmpty_iff] using ha.nonempty
    refine .inr ⟨a, rfl, ha, ?_⟩
    simp [render, hne, asWord]

theorem Printable.word (h : n.Printable) : Word n.name.toList := .of_isIdentifier h.name

theorem Printable.trimmed (h : n.Printable) : n.render.toList ≠ [] ∧ Trimmed n.render.toList := by
  rcases h.render_cases with ⟨-, hr⟩ | ⟨a, -, ha, hr⟩
  · rw [hr]
    exact ⟨h.word.nonempty, h.word.trimmed⟩
  · rw [hr]
    exact ⟨by simp [h.word.nonempty],
      trimmed_append h.word.trimmed ha.trimmed h.word.nonempty ha.nonempty asWord⟩

theorem Printable.chars (h : n.Printable) : ∀ c ∈ n.render.toList, isInert c = true ∨ c = ' ' := by
  have hword {s : List Char} (hs : Word s) : ∀ c ∈ s, isInert c = true ∨ c = ' ' :=
    fun c hc => .inl (hs.inert c hc)
  rcases h.render_cases with ⟨-, hr⟩ | ⟨a, -, ha, hr⟩
  · rw [hr]
    exact hword h.word
  · rw [hr]
    refine List.forall_mem_append.2 ⟨hword h.word, List.forall_mem_append.2 ⟨?_, hword ha⟩⟩
    decide

theorem parseImportedName_trim (p : List Char) :
    parseImportedName (trim p) = parseImportedName p := by
  rw [parseImportedName, parseImportedName, trim_trim]

theorem Printable.parseImportedName_eq (h : n.Printable) :
    parseImportedName n.render.toList = n := by
  rw [parseImportedName, trim_eq_self h.trimmed.2]
  have hblank : ' ' ∉ n.name.toList := h.word.not_mem (by decide)
  rcases h.render_cases with ⟨hn, hr⟩ | ⟨a, hn, ha, hr⟩
  · have hcut : cut? asWord n.name.toList = none :=
      cut?_eq_none_iff.2 fun hin => hblank (hin.subset (by decide))
    rw [hr, hcut]
    simp [← hn]
  · have hcut :
        cut? asWord (n.name.toList ++ (asWord ++ a.toList)) = some (n.name.toList, a.toList) :=
      cut?_of_not_mem hblank
    rw [hr, hcut]
    simp [trim_eq_self h.word.trimmed, trim_eq_self ha.trimmed, ← hn]

variable {ns : List ImportedName}

/-- The printed names of an import. -/
def listed (ns : List ImportedName) : List Char := (joinWith ", " (ns.map render)).toList

theorem listed_eq (ns : List ImportedName) :
    listed ns = [','].intercalate (spaced (ns.map fun n => n.render.toList)) := by
  rw [intercalate_spaced, listed, joinWith, String.toList_intercalate, List.map_map]
  rfl

theorem chars_listed (h : ∀ n ∈ ns, n.Printable) :
    ∀ c ∈ listed ns, isInert c = true ∨ c = ' ' ∨ c = ',' := by
  intro c hc
  rw [listed_eq, intercalate_spaced] at hc
  rcases mem_intercalate hc with hc | ⟨p, hp, hc⟩
  · have : ∀ c ∈ [',', ' '], isInert c = true ∨ c = ' ' ∨ c = ',' := by decide
    exact this c hc
  · obtain ⟨n, hn, rfl⟩ := List.mem_map.1 hp
    exact ((h n hn).chars c hc).imp_right .inl

theorem trimmed_listed (hne : ns ≠ []) (h : ∀ n ∈ ns, n.Printable) :
    listed ns ≠ [] ∧ Trimmed (listed ns) := by
  rw [listed_eq, intercalate_spaced]
  exact trimmed_intercalate (by simpa using hne)
    (List.forall_mem_map.2 fun n hn => (h n hn).trimmed)

theorem comma_not_mem_spaced (h : ∀ n ∈ ns, n.Printable) :
    ∀ p ∈ spaced (ns.map fun n => n.render.toList), ',' ∉ p := by
  have hrender : ∀ n ∈ ns, ',' ∉ n.render.toList := fun n hn hm => by
    rcases (h n hn).chars ',' hm with hc | hc <;> exact absurd hc (by decide)
  cases ns with
  | nil => simp [spaced]
  | cons n ns => simpa [spaced] using hrender

theorem map_parseImportedName (hne : ns ≠ []) (h : ∀ n ∈ ns, n.Printable) :
    (pieces [','] (listed ns)).map parseImportedName = ns := by
  have hread (ps : List (List Char)) :
      ps.map parseImportedName = (ps.map trim).map parseImportedName := by
    simp [Function.comp_def, parseImportedName_trim]
  have hspaced : spaced (ns.map fun n => n.render.toList) ≠ [] := by
    obtain ⟨n, ns, rfl⟩ := List.exists_cons_of_ne_nil hne
    simp [spaced]
  rw [listed_eq, pieces_intercalate hspaced (comma_not_mem_spaced h), hread, map_trim_spaced,
    ← hread, List.map_map]
  exact (List.map_congr_left fun n hn => (h n hn).parseImportedName_eq).trans (List.map_id ns)

end ImportedName

namespace Directive

theorem Word.span_blank {s : List Char} (h : Word s) (rest : List Char) :
    (s ++ ' ' :: rest).span (fun c => !isBlank c) = (s, ' ' :: rest) := by
  have hall : ∀ c ∈ s, (!isBlank c) = true := fun c hc => by simp [h.not_blank c hc]
  have hblank : isBlank ' ' = true := by decide
  rw [List.span_eq_takeWhile_dropWhile, List.takeWhile_append_of_pos hall,
    List.dropWhile_append_of_pos hall]
  simp [hblank]

theorem importFromParts?_printed {m names : List Char} (hm : isRelativeModule m = true)
    (hne : names ≠ []) (ht : Trimmed names) (hl : '\n' ∉ names) :
    importFromParts? (fromWord ++ ' ' :: (m ++ ' ' :: (importWord ++ ' ' :: names))) = some
      (m, names) := by
  have hword := Word.of_isRelativeModule hm
  have himport : Trimmed (importWord ++ ' ' :: names) :=
    Word.trimmed_append ⟨by decide, by decide⟩ ht hne
  have hfrom :
      afterWord? "from".toList (fromWord ++ ' ' :: (m ++ ' ' :: (importWord ++ ' ' :: names))) =
      some (m ++ ' ' :: (importWord ++ ' ' :: names)) :=
    afterWord?_append (hword.trimmed_append himport (by simp))
  have hnames : afterWord? "import".toList (trimStart (' ' :: (importWord ++ ' ' :: names))) =
    some names :=
    (congrArg _ (dropWhile_append_of_all (b := [' ']) (by decide))).trans (afterWord?_append ht)
  rw [importFromParts?, hfrom]
  simp only [Option.bind_eq_bind, Option.bind_some, hword.span_blank, hm, if_true, hnames]
  simp [hne, hl]

theorem parse_importFrom {m : List Char} {ns : List ImportedName} (hm : isRelativeModule m = true)
    (hne : ns ≠ []) (h : ∀ n ∈ ns, n.Printable) :
    parse (trim (fromWord ++ ' ' :: (m ++ ' ' :: (importWord ++ ' ' :: ImportedName.listed ns)))) =
      .ok (importFrom (String.ofList m) ns) := by
  obtain ⟨hnames, ht⟩ := ImportedName.trimmed_listed hne h
  have hl : '\n' ∉ ImportedName.listed ns := fun hin => by
    rcases ImportedName.chars_listed h _ hin with hc | hc | hc <;> exact absurd hc (by decide)
  have himport : Trimmed (importWord ++ ' ' :: ImportedName.listed ns) :=
    Word.trimmed_append ⟨by decide, by decide⟩ ht hnames
  have htrim := trim_eq_self (@Word.trimmed_append fromWord _ ⟨by decide, by decide⟩
    ((Word.of_isRelativeModule hm).trimmed_append himport (by simp)) (by simp))
  rw [htrim, parse_from, parseImportFrom, htrim, importFromParts?_printed hm hnames ht hl]
  simp only [ImportedName.map_parseImportedName hne h]
  rfl

end Directive

end TypedTemplate
