import TypedTemplate.Proofs.ClassIndex.Keys

/-! The questions to a class index and its table. A plain key is looked up in the table; a dotted
one is compared with the file names and class names of the entries, whatever its own entry is. -/
namespace TypedTemplate.ClassIndex

section Questions

variable {x : ClassIndex} {k : String}

theorem checkAttribute_eq_ok_iff (hopen : k ∉ openTypes) {a : String} :
    x.checkAttribute k a = .ok () ↔ ∃ q, x.find? k = some q ∧
      (q.hasMember a = true ∨ a ∈ commonAttributes) := by
  rw [checkAttribute, if_neg (by simpa using hopen)]
  cases x.find? k with
  | none =>
    simp only [reduceCtorEq, false_and, exists_false, iff_false]
    split <;> simp
  | some q =>
    simp only [Option.some.injEq, exists_eq_left']
    split
    · next h => simpa using h
    · next h => simpa using h

theorem find?_dotted (h : isDotted k = true) : x.find? k = x.qualified? k := by
  rw [find?, h]
  rfl

theorem exists_find?_of_spelled {e : ClassEntry} {attr : String} (he : e ∈ x.entries.values)
    (hk : e.qualifiedName = k)
    (hagree : ∀ q ∈ x.entries.values, q.qualifiedName = k → q.hasMember attr = e.hasMember attr) :
    ∃ q, x.find? k = some q ∧ q.hasMember attr = e.hasMember attr := by
  have hdot : isDotted k = true := by
    rw [← hk, isDotted, ClassEntry.qualifiedName]
    simp
  obtain ⟨q, hq⟩ : ∃ q, x.qualified? k = some q :=
    Option.isSome_iff_exists.1 (List.find?_isSome.2 ⟨e, he, by simpa using hk⟩)
  refine ⟨q, ?_, hagree q (List.mem_of_find?_eq_some hq) (by simpa using List.find?_some hq)⟩
  rw [find?_dotted hdot, hq]

/-- The questions about a type are answered from an entry. -/
structure Answers (x : ClassIndex) (k : String) (e : ClassEntry) : Prop where
  known : x.knows k = true
  member : ∀ a, x.checkAttribute k a = .ok () ↔ e.hasMember a = true ∨ a ∈ commonAttributes
  annotation : ∀ a, x.attributeType? k a = e.fields.find? a

/-- No question about attributes tells the entries apart. -/
structure Alike (q e : ClassEntry) : Prop where
  members : ∀ a, a ∉ commonAttributes → q.hasMember a = e.hasMember a
  fields : ∀ a, q.fields.find? a = e.fields.find? a

theorem answers_plain {e : ClassEntry} (hplain : isDotted k = false)
    (hk : x.entries.find? k = some e) (hopen : k ∉ openTypes) : Answers x k e := by
  have hfind : x.find? k = some e := by rw [find?, hplain]; exact hk
  refine ⟨by simp [knows, hfind], fun a => ?_, fun a => ?_⟩
  · simp [checkAttribute_eq_ok_iff hopen, hfind]
  · simp [attributeType?, hplain, hk]

theorem answers_dotted_iff {e : ClassEntry} (hdot : isDotted k = true) (hopen : k ∉ openTypes) :
    Answers x k e ↔ ∃ q, x.qualified? k = some q ∧ Alike q e := by
  have hfind : x.find? k = x.qualified? k := find?_dotted hdot
  constructor
  · intro h
    -- a common attribute is answered, so some entry is found
    obtain ⟨q, hq, -⟩ :=
      (checkAttribute_eq_ok_iff hopen).1 ((h.member "__class__").2 (.inr (by decide)))
    rw [hfind] at hq
    refine ⟨q, hq, fun a ha => ?_, fun a => ?_⟩
    · have hmember := h.member a
      rw [checkAttribute_eq_ok_iff hopen, hfind] at hmember
      rw [Bool.eq_iff_iff]
      simpa [hq, ha] using hmember
    · rw [← h.annotation a, attributeType?, hdot, if_pos rfl, hq]
  · rintro ⟨q, hq, hmembers, hfields⟩
    refine ⟨by simp [knows, hfind, hq], fun a => ?_, fun a => ?_⟩
    · by_cases ha : a ∈ commonAttributes
      · simp [checkAttribute_eq_ok_iff hopen, hfind, hq, ha]
      · simp [checkAttribute_eq_ok_iff hopen, hfind, hq, ha, hmembers a ha]
    · rw [attributeType?, hdot, if_pos rfl, hq]
      exact hfields a

end Questions

/-- The questions about a key are answered from its own entry exactly if the key is plain or the
first class that is spelled like it, by the name of its file and its own, is like that entry. So a
dotted key is known only if a file and a class in it have such names. -/
theorem answers_iff (t : FileTree) (root : Path) (exclude : List String) (paths : List Path)
    (x₀ : ClassIndex)
    {k : String} {e : ClassEntry} (hk : (collect t root exclude paths x₀).entries.find? k = some e)
    (hopen : k ∉ openTypes) :
    let x := collect t root exclude paths x₀
    (Answers x k e ↔ isDotted k = false ∨ ∃ q, x.qualified? k = some q ∧ Alike q e) ∧
    (Answers x k e → isDotted k = true →
      ∃ f ∈ paths.flatMap (filesOf t root exclude), ∃ o ∈ outlines t f, f.stem ++ "." ++ o.name =
        k) := by
  intro x
  cases hdot : isDotted k with
  | false => simpa using answers_plain hdot hk hopen
  | true =>
    rw [answers_dotted_iff hdot hopen]
    refine ⟨by simp, ?_⟩
    rintro ⟨q, hq, -⟩ -
    obtain ⟨p, hp, rfl⟩ := List.mem_map.1 (List.mem_of_find?_eq_some hq)
    obtain ⟨hf, o, ho, heq⟩ := all_collect t root exclude paths x₀ p hp
    refine ⟨p.2.file, hf, o, ho, ?_⟩
    have hname : p.2.qualifiedName = k := by simpa using List.find?_some hq
    rw [← hname, ClassEntry.qualifiedName, heq.1]

def userTree : FileTree :=
  ⟨[(["p"], .dir 0), (["p", "models"], .dir 0),
    (["p", "models", "user.py"], .file (Text.Utf8.encode "class User:\n    name: str\n") 0)], ["p"]⟩

def userIndex : ClassIndex := collect userTree .here [] [.relative ["models"]] .empty

theorem answers_iff_user :
    ∃ e, userIndex.entries.find? "models.user.User" = some e ∧
      ¬ Answers userIndex "models.user.User" e := by
  obtain ⟨hfound, hnone⟩ : (userIndex.entries.find? "models.user.User").isSome = true ∧
      (userIndex.qualified? "models.user.User").isSome = false := by
    decide +kernel
  obtain ⟨e, he⟩ := Option.isSome_iff_exists.1 hfound
  refine ⟨e, he, fun h => ?_⟩
  have hq :=
    ((answers_iff userTree .here [] [.relative ["models"]] .empty he (by decide)).1.1
      h).resolve_left
    (by decide +kernel)
  obtain ⟨q, hq, -⟩ := hq
  rw [userIndex, hq] at hnone
  cases hnone

theorem user_answers_differ :
    userIndex.entries.has "models.user.User" = true ∧ userIndex.knows "models.user.User" = false ∧
      (match userIndex.checkAttribute "models.user.User" "name" with
        | .ok _ => none
        | .error e => some e.message) = some "Type 'models.user.User' not found" ∧
      userIndex.attributeType? "models.user.User" "name" = some "str" := by
  decide +kernel

end TypedTemplate.ClassIndex
