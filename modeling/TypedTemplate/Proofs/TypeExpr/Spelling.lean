import TypedTemplate.Proofs.Text.Bracket
import TypedTemplate.TypeExpr.Parse

/-! How types are written. A spelling of a type is any text that the grammar of types gives for it:
names of characters that separate nothing, arguments in brackets with commas between them and blanks
around them, and two or more types with bars between them, but no bars inside brackets. -/
namespace TypedTemplate.TypeExpr
open Text

def isPlain (c : Char) : Bool :=
  !(isOpen c || isClose c || c == ',' || c == '|' || c == ':' || c == '=' || c == '>')

def Plain (s : List Char) : Prop := ∀ c ∈ s, isPlain c = true

instance (s : List Char) : Decidable (Plain s) :=
  inferInstanceAs (Decidable (∀ c ∈ s, isPlain c = true))

def unionName : List Char := ['U', 'n', 'i', 'o', 'n']

def optionalName : List Char := ['O', 'p', 't', 'i', 'o', 'n', 'a', 'l']

def bracketed (base inner : List Char) : List Char := base ++ '[' :: (inner ++ [']'])

/-- A type and the text that it is written as, with the blanks around it. -/
structure Arg where
  type : TypeExpr
  text : List Char

def joined (as : List Arg) : List Char := [','].intercalate (as.map Arg.text)

def signature (ps : List Arg) (r : Arg) : List Char := '[' :: (joined ps ++ (paramsEnd ++ r.text))

def ofName (s : List Char) : TypeExpr := .named (String.ofList s) (splitName s).2 (splitName s).1

def ofGeneric (base inner : List Char) (args : List TypeExpr) : TypeExpr :=
  .generic (String.ofList (bracketed base inner)) (splitName (trim base)).2
    (splitName (trim base)).1 args

/-- What may stand before a bracket. -/
structure Base (base : List Char) : Prop where
  plain : Plain base
  start : ∀ c ∈ base.head?, isBlank c = false

/-- The spellings of a type without bars. -/
inductive Spelled : TypeExpr → List Char → Prop
  | name {s : List Char} (hp : Plain s) (ht : Trimmed s) (hne : s ≠ []) : Spelled (ofName s) s
  | generic {base : List Char} {as : List Arg} (hb : Base base) (hu : base ≠ unionName)
    (ho : base ≠ optionalName)
      (hc : isCallable (trim base) = false) (hne : as ≠ [])
      (ha : ∀ a ∈ as, Spelled a.type (trim a.text)) :
      Spelled (ofGeneric base (joined as) (as.map Arg.type)) (bracketed base (joined as))
  | callable {base : List Char} {ps : List Arg} {r : Arg} (hb : Base base)
    (hc : isCallable (trim base) = true)
      (hend : ¬ paramsEnd <:+: joined ps) (hps : ∀ a ∈ ps, Spelled a.type (trim a.text))
      (hr : Spelled r.type r.text) :
      Spelled (ofGeneric base (signature ps r) (ps.map Arg.type ++ [r.type]))
        (bracketed base (signature ps r))
  | union {as : List Arg} (hne : as ≠ []) (ha : ∀ a ∈ as, Spelled a.type (trim a.text)) :
      Spelled (.union (String.ofList (bracketed unionName (joined as))) .union (as.map Arg.type))
        (bracketed unionName (joined as))
  | optional {a : Arg} (ha : Spelled a.type (trim a.text)) :
      Spelled (.union (String.ofList (bracketed optionalName a.text)) .optional [a.type, noneType])
        (bracketed optionalName a.text)

/-- The spellings of a type, with bars between two or more types or without. -/
inductive Spelling : TypeExpr → List Char → Prop
  | single {t : TypeExpr} {s : List Char} (h : Spelled t s) : Spelling t s
  | bars {as : List Arg} (hlen : 2 ≤ as.length) (ht : Trimmed (bar.intercalate (as.map Arg.text)))
      (ha : ∀ a ∈ as, Spelled a.type (trim a.text)) :
      Spelling (.union (String.ofList (bar.intercalate (as.map Arg.text))) .pipe (as.map Arg.type))
        (bar.intercalate (as.map Arg.text))

theorem isPlain_iff {c : Char} :
    isPlain c = true ↔ isOpen c = false ∧ isClose c = false ∧ c ≠ ',' ∧ c ≠ '|' ∧ c ≠ ':' ∧
      c ≠ '=' ∧ c ≠ '>' := by
  simp [isPlain, and_assoc]

theorem isPlain_of_isBlank {c : Char} (h : isBlank c = true) : isPlain c = true := by
  obtain ⟨ho, hc, hcomma⟩ := isBracket_of_isBlank h
  have hsep : ∀ d ∈ ['|', ':', '=', '>'], isBlank d = false := by decide
  have hne (d : Char) (hd : d ∈ ['|', ':', '=', '>']) : c ≠ d := by
    rintro rfl
    simp [hsep c hd] at h
  exact isPlain_iff.2 ⟨ho, hc, hcomma, hne _ (by simp), hne _ (by simp), hne _ (by simp),
    hne _ (by simp)⟩

theorem nested_of_plain {s : List Char} (h : Plain s) : Nested s :=
  nested_plain fun c hc => ⟨(isPlain_iff.1 (h c hc)).1, (isPlain_iff.1 (h c hc)).2.1⟩

theorem nested_of_trim {s : List Char} (h : Nested (trim s)) : Nested s := by
  obtain ⟨a, b, hs, ha, hb⟩ := exists_eq_trim s
  rw [hs]
  exact (nested_of_plain fun c hc => isPlain_of_isBlank (ha c hc)).append
    (h.append (nested_of_plain fun c hc => isPlain_of_isBlank (hb c hc)))

theorem part_of_trim {s : List Char} (h : Part (trim s)) : Part s := by
  obtain ⟨a, b, hs, ha, hb⟩ := exists_eq_trim s
  have hcomma {u : List Char} (hu : ∀ c ∈ u, isBlank c = true) : ',' ∉ u := fun hm =>
    absurd (hu _ hm) (by decide)
  have hdepth {u : List Char} (hu : ∀ c ∈ u, isBlank c = true) (k : Int) : depthOf k u = k :=
    (nested_of_plain fun c hc => isPlain_of_isBlank (hu c hc)).depthOf_eq k
  refine ⟨by rw [← trim_trim]; exact h.not_blank, ?_, ?_⟩
  · rw [hs, sealed_append, sealed_append, hdepth ha]
    exact ⟨sealed_of_not_mem (hcomma ha) 0, h.isSealed, sealed_of_not_mem (hcomma hb) _⟩
  · rw [hs, depthOf_append, depthOf_append, hdepth ha, h.closed, hdepth hb]

section Spelled

def isTypeChar (c : Char) : Bool := isPlain c || c == '[' || c == ']' || c == ','

theorem isTypeChar_of_plain {s : List Char} (h : Plain s) : ∀ c ∈ s, isTypeChar c = true :=
  fun c hc => by
  simp [isTypeChar, h c hc]

theorem isTypeChar_of_trim {s : List Char} (h : ∀ c ∈ trim s, isTypeChar c = true) :
    ∀ c ∈ s, isTypeChar c = true := by
  obtain ⟨a, b, hs, ha, hb⟩ := exists_eq_trim s
  intro c hc
  rw [hs, List.mem_append, List.mem_append] at hc
  rcases hc with hc | hc | hc
  · simp [isTypeChar, isPlain_of_isBlank (ha c hc)]
  · exact h c hc
  · simp [isTypeChar, isPlain_of_isBlank (hb c hc)]

theorem isTypeChar_of_joined {as : List Arg}
    (h : ∀ a ∈ as, ∀ c ∈ trim a.text, isTypeChar c = true) :
    ∀ c ∈ joined as, isTypeChar c = true := by
  intro c hc
  rcases mem_intercalate hc with hc | ⟨p, hp, hc⟩
  · rw [List.mem_singleton.1 hc]
    decide
  · obtain ⟨a, ha, rfl⟩ := List.mem_map.1 hp
    exact isTypeChar_of_trim (h a ha) c hc

theorem isTypeChar_of_bracketed {base inner : List Char} (hb : ∀ c ∈ base, isTypeChar c = true)
    (hi : ∀ c ∈ inner, isTypeChar c = true) : ∀ c ∈ bracketed base inner, isTypeChar c = true := by
  intro c hc
  simp only [bracketed, List.mem_append, List.mem_cons, List.not_mem_nil, or_false] at hc
  rcases hc with hc | rfl | hc | rfl
  · exact hb c hc
  · decide
  · exact hi c hc
  · decide

theorem square_of_isTypeChar {s : List Char} (h : ∀ c ∈ s, isTypeChar c = true) : Square s := by
  intro c hc
  have hcases : isPlain c = true ∨ c = '[' ∨ c = ']' ∨ c = ',' := by
    simpa [isTypeChar, or_assoc] using h c hc
  rcases hcases with hp | rfl | rfl | rfl
  · obtain ⟨ho, hcl, -⟩ := isPlain_iff.1 hp
    simp [ho, hcl]
  · decide
  · decide
  · decide

theorem depthOf_eq_count {s : List Char} (h : ∀ c ∈ s, isTypeChar c = true) (k : Int) :
    depthOf k s = k + s.count '[' - s.count ']' := (square_of_isTypeChar h).depthOf_eq k

theorem Spelled.isTypeChar {t : TypeExpr} {s : List Char} (h : Spelled t s) :
    ∀ c ∈ s, isTypeChar c = true := by
  induction h with
  | name hp ht hne => exact isTypeChar_of_plain hp
  | generic hb hu ho hc hne ha ih =>
    exact isTypeChar_of_bracketed (isTypeChar_of_plain hb.plain) (isTypeChar_of_joined ih)
  | callable hb hc hend hps hr ihp ihr =>
    refine isTypeChar_of_bracketed (isTypeChar_of_plain hb.plain) fun c hc => ?_
    simp only [signature, List.mem_cons, List.mem_append] at hc
    rcases hc with rfl | hc | hc | hc
    · decide
    · exact isTypeChar_of_joined ihp c hc
    · have : ∀ c ∈ paramsEnd, TypeExpr.isTypeChar c = true := by decide
      exact this c hc
    · exact ihr c hc
  | union hne ha ih => exact isTypeChar_of_bracketed (by decide) (isTypeChar_of_joined ih)
  | optional ha ih => exact isTypeChar_of_bracketed (by decide) (isTypeChar_of_trim ih)

theorem Spelled.not_mem {t : TypeExpr} {s : List Char} (h : Spelled t s) {c : Char}
    (hc : TypeExpr.isTypeChar c = false) : c ∉ s := fun hm => by
  simp [h.isTypeChar c hm] at hc

theorem nested_joined {as : List Arg} (h : ∀ a ∈ as, Nested (trim a.text)) :
    Nested (joined as) := by
  refine nested_intercalate (nested_plain (by decide)) fun p hp => ?_
  obtain ⟨a, ha, rfl⟩ := List.mem_map.1 hp
  exact nested_of_trim (h a ha)

theorem nested_bracketed {base inner : List Char} (hb : Nested base) (hi : Nested inner) :
    Nested (bracketed base inner) := hb.append hi.bracket

theorem nested_signature {ps : List Arg} {r : Arg} (hp : Nested (joined ps)) (hr : Nested r.text) :
    Nested (signature ps r) := by
  have hsep : Nested [',', ' '] := nested_plain (by decide)
  have heq : signature ps r = '[' :: (joined ps ++ [']']) ++ ([',', ' '] ++ r.text) := by
    simp [signature, paramsEnd]
  rw [heq]
  exact hp.bracket.append (hsep.append hr)

theorem Spelled.nested {t : TypeExpr} {s : List Char} (h : Spelled t s) : Nested s := by
  induction h with
  | name hp ht hne => exact nested_of_plain hp
  | generic hb hu ho hc hne ha ih =>
    exact nested_bracketed (nested_of_plain hb.plain) (nested_joined ih)
  | callable hb hc hend hps hr ihp ihr =>
    exact nested_bracketed (nested_of_plain hb.plain) (nested_signature (nested_joined ihp) ihr)
  | union hne ha ih => exact nested_bracketed (nested_plain (by decide)) (nested_joined ih)
  | optional ha ih => exact nested_bracketed (nested_plain (by decide)) (nested_of_trim ih)

theorem trimmed_bracketed {base : List Char} (hb : ∀ c ∈ base.head?, isBlank c = false)
    (inner : List Char) :
    Trimmed (bracketed base inner) := by
  refine ⟨fun c hc => ?_, fun c hc => ?_⟩
  · cases base with
    | nil =>
      obtain rfl : '[' = c := by simpa [bracketed] using hc
      decide
    | cons d base =>
      obtain rfl : d = c := by simpa [bracketed] using hc
      exact hb d (by simp)
  · obtain rfl : ']' = c := by simpa [bracketed, List.getLast?_append, List.getLast?_cons] using hc
    decide

theorem Spelled.trimmed {t : TypeExpr} {s : List Char} (h : Spelled t s) : Trimmed s := by
  cases h with
  | name hp ht hne => exact ht
  | generic hb => exact trimmed_bracketed hb.start _
  | callable hb => exact trimmed_bracketed hb.start _
  | union => exact trimmed_bracketed (by decide) _
  | optional => exact trimmed_bracketed (by decide) _

theorem Spelled.ne_nil {t : TypeExpr} {s : List Char} (h : Spelled t s) : s ≠ [] := by
  cases h with
  | name hp ht hne => exact hne
  | _ => simp [bracketed]

theorem sealed_bracketed {base inner : List Char} (hb : Plain base) (hi : Nested inner) :
    Sealed ',' 0 (bracketed base inner) := by
  have hcomma : ',' ∉ base := fun h => absurd (hb ',' h) (by decide)
  rw [bracketed, sealed_append, (nested_of_plain hb).depthOf_eq]
  refine ⟨sealed_of_not_mem hcomma 0, by decide, ?_⟩
  rw [sealed_append]
  exact ⟨hi.isSealed ',' (by decide), sealed_of_not_mem (by decide) _⟩

theorem Spelled.isSealed {t : TypeExpr} {s : List Char} (h : Spelled t s) : Sealed ',' 0 s := by
  cases h with
  | name hp ht hne => exact sealed_of_not_mem (fun hm => absurd (hp ',' hm) (by decide)) 0
  | generic hb hu ho hc hne ha =>
    exact sealed_bracketed hb.plain (nested_joined fun a hm => (ha a hm).nested)
  | callable hb hc hend hps hr =>
    exact sealed_bracketed hb.plain
      (nested_signature (nested_joined fun a hm => (hps a hm).nested) hr.nested)
  | union hne ha => exact sealed_bracketed (by decide) (nested_joined fun a hm => (ha a hm).nested)
  | optional ha => exact sealed_bracketed (by decide) (nested_of_trim ha.nested)

theorem Spelled.part {t : TypeExpr} {s : List Char} (h : Spelled t s) : Part s :=
  ⟨by rw [trim_eq_self h.trimmed]; exact h.ne_nil, h.isSealed, h.nested.closed⟩

theorem Spelling.trimmed {t : TypeExpr} {s : List Char} (h : Spelling t s) :
    s ≠ [] ∧ Trimmed s := by
  cases h with
  | single h => exact ⟨h.ne_nil, h.trimmed⟩
  | @bars as hlen ht ha =>
    refine ⟨?_, ht⟩
    match as, hlen with
    | a :: b :: as, _ =>
      rw [List.map_cons, List.intercalate_cons_of_ne_nil (by simp)]
      simp [bar]

theorem splitArgs_joined {as : List Arg} (h : ∀ a ∈ as, Spelled a.type (trim a.text)) :
    splitArgs (trim (joined as)) = as.map fun a => trim a.text := by
  rw [splitArgs_trim, joined, splitArgs_intercalate, List.map_map]
  · rfl
  · intro p hp
    obtain ⟨a, ha, rfl⟩ := List.mem_map.1 hp
    exact part_of_trim (h a ha).part

end Spelled

end TypedTemplate.TypeExpr
