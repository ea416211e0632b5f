import Mathlib.Data.List.Dedup
import TypedTemplate.Proofs.Table
import TypedTemplate.Proofs.Text.Search
import TypedTemplate.Style.Lint

/-! Which declarations the rule on duplicates reports. They are grouped by a key in which kind and
name are put together; the kinds are words without a colon, so that a key has one kind and one name,
whatever colons the name holds. -/
namespace TypedTemplate.Style
open Text

variable {d d' : Declared}

section Keys

theorem cut?_key (d : Declared) :
    cut? [':'] d.key.toList = some (d.kind.word.toList, d.name.toList) := by
  have hword : ':' ∉ d.kind.word.toList := by cases d.kind <;> decide
  rw [← cut?_single hword]
  simp [Declared.key]

theorem keyName_key (d : Declared) : keyName d.key = d.name := by
  simp [keyName, cut?_key]

theorem Kind.word_inj {k k' : Kind} (h : k.word = k'.word) : k = k' := by
  cases k <;> cases k' <;> first | rfl | exact absurd h (by decide)

theorem key_eq_iff : d.key = d'.key ↔ d.kind = d'.kind ∧ d.name = d'.name := by
  constructor
  · intro h
    have hcut := cut?_key d
    rw [h, cut?_key, Option.some.injEq, Prod.mk.injEq, String.toList_inj, String.toList_inj] at hcut
    exact ⟨(Kind.word_inj hcut.1).symm, hcut.2.symm⟩
  · rintro ⟨hkind, hname⟩
    rw [Declared.key, Declared.key, hkind, hname]

end Keys

section Declarations

def introduced : Directive → List (Kind × String)
  | .importModule _ => []
  | .importFrom _ _ => []
  | .varTypes ds => ds.map fun d => (.variable_, d.name)
  | .filter d => [(.filter, d.name)]
  | .macroSignature d => [(.macro_, d.name)]
  | .ignore => []

/-- The declarations of comments in their order, each at the line of its comment. -/
def declarations (cs : List Comment) : List Declared :=
  cs.flatMap fun c => (introduced c.directive).map fun e => ⟨e.1, e.2, c.position.line⟩

theorem flatMap_declared (cs : List Comment) : cs.flatMap declared = declarations cs := by
  refine List.flatMap_congr fun c _ => ?_
  rw [declared]
  cases c.directive <;> simp [introduced]

end Declarations

def Declared.clashes (d d' : Declared) : Bool := decide (d.kind = d'.kind ∧ d.name = d'.name)

theorem clashes_iff : d.clashes d' = true ↔ d.kind = d'.kind ∧ d.name = d'.name :=
  decide_eq_true_iff

def repetition (filename : String) (d first : Declared) : Issue :=
  ⟨.error, "Duplicate declaration of '" ++ d.name ++ "'", filename, d.line, 0, none,
    some ("'" ++ d.name ++ "' was already declared at line " ++ toString first.line)⟩

/-- The findings at those declarations that follow another of their kind and name, in the order of
the declarations. -/
def repetitions (filename : String) (ds : List Declared) : List Issue :=
  ds.zipIdx.filterMap fun p => ((ds.take p.2).find? p.1.clashes).map (repetition filename p.1)

theorem repetitions_concat (filename : String) (ds : List Declared) (d : Declared) :
    repetitions filename (ds ++ [d]) =
      repetitions filename ds ++ ((ds.find? d.clashes).map (repetition filename d)).toList := by
  have hfront : ∀ p ∈ ds.zipIdx, (ds ++ [d]).take p.2 = ds.take p.2 := fun p hp =>
    List.take_append_of_le_length (by have := List.snd_lt_of_mem_zipIdx hp; omega)
  rw [repetitions, List.zipIdx_append, List.filterMap_append,
    List.filterMap_congr fun p hp => by rw [hfront p hp], ← repetitions]
  cases hfirst : ds.find? d.clashes <;> simp [hfirst]

theorem repeated_concat (filename : String) (k : String) (lines : List Int) (line : Int) :
    repeated filename (k, lines ++ [line]) = repeated filename (k, lines) ++
      (lines.head?.map fun first => finding Rule.duplicates.severity filename line
        (Rule.duplicates.message (keyName k))
        ("'" ++ keyName k ++ "' was already declared at line " ++ toString first)).toList := by
  cases lines <;> simp [repeated]

section Groups

variable (filename : String)

theorem head?_lines (ds : List Declared) (d : Declared) :
    (((grouped ds).find? d.key).getD []).head? = (ds.find? d.clashes).map Declared.line := by
  have hkeys : (fun e => e.key == d.key) = d.clashes := by
    funext e
    rw [Bool.eq_iff_iff, beq_iff_eq, clashes_iff, eq_comm, key_eq_iff]
  rw [grouped, Table.find?_groups, hkeys, List.head?_map, List.head?_filter]

/-- The findings of the groups are those at the declarations. Only the order differs: a group's
findings stand together. -/
theorem flatMap_repeated_perm (ds : List Declared) :
    ((grouped ds).flatMap (repeated filename)).Perm (repetitions filename ds) := by
  induction ds using List.reverseRecOn with
  | nil => exact .refl _
  | append_singleton ds d ih =>
    have hstep : ((grouped (ds ++ [d])).flatMap (repeated filename)).Perm
        ((grouped ds).flatMap (repeated filename) ++
          ((ds.find? d.clashes).map (repetition filename d)).toList) := by
      rw [grouped, Table.groups_concat, ← grouped]
      refine Table.flatMap_insert_perm rfl _ _ ?_
      rw [repeated_concat, head?_lines, keyName_key, Option.map_map]
      rfl
    rw [repetitions_concat]
    exact hstep.trans (ih.append_right _)

theorem length_repetitions (ds : List Declared) :
    (repetitions filename ds).length + (ds.map fun d => (d.kind, d.name)).dedup.length =
      ds.length := by
  induction ds using List.reverseRecOn with
  | nil => rfl
  | append_singleton ds d ih =>
    have hdedup :=
      (List.perm_append_singleton (d.kind, d.name)
        (ds.map fun d => (d.kind, d.name))).dedup.length_eq
    rw [repetitions_concat, List.length_append, List.map_append, List.map_singleton, hdedup,
      List.length_append]
    cases hfirst : ds.find? d.clashes with
    | some first =>
      have hmem : (d.kind, d.name) ∈ ds.map fun d => (d.kind, d.name) := by
        obtain ⟨hkind, hname⟩ := clashes_iff.1 (List.find?_some hfirst)
        exact List.mem_map.2 ⟨first, List.mem_of_find?_eq_some hfirst, by rw [hkind, hname]⟩
      rw [List.dedup_cons_of_mem hmem]
      simp only [Option.map_some, Option.toList_some, List.length_singleton]
      omega
    | none =>
      have hnew : (d.kind, d.name) ∉ ds.map fun d => (d.kind, d.name) := by
        rw [List.mem_map]
        rintro ⟨e, he, heq⟩
        obtain ⟨hkind, hname⟩ := Prod.mk.injEq .. ▸ heq
        exact List.find?_eq_none.1 hfirst e he (clashes_iff.2 ⟨hkind.symm, hname.symm⟩)
      rw [List.dedup_cons_of_notMem hnew]
      simp only [Option.map_none, Option.toList_none, List.length_nil, List.length_cons]
      omega

end Groups

theorem duplicates_eq_nil_iff (filename : String) (cs : List Comment) :
    duplicates filename cs = [] ↔ Rule.duplicates.accepts (grouped (cs.flatMap declared)) =
      true := by
  rw [duplicates, List.flatMap_eq_nil_iff, Rule.accepts, List.all_eq_true]
  refine forall₂_congr fun g _ => ?_
  rw [decide_eq_true_iff, repeated]
  cases g.2 <;> simp

/-- The rule has one finding for each declaration of a variable, a filter or a macro that follows
another of the same kind and name, at its own line and with the line of the first of them, and no
other finding. So there are as many as there are declarations beyond the first of each kind and
name. -/
theorem duplicates_perm (filename : String) (cs : List Comment) :
    (duplicates filename cs).Perm (repetitions filename (declarations cs)) ∧
      (duplicates filename cs).length +
      ((declarations cs).map fun d => (d.kind, d.name)).dedup.length =
        (declarations cs).length := by
  have hperm : (duplicates filename cs).Perm (repetitions filename (declarations cs)) := by
    rw [duplicates, flatMap_declared]
    exact flatMap_repeated_perm filename _
  exact ⟨hperm, hperm.length_eq ▸ length_repetitions filename _⟩

theorem duplicates_perm_of_each_kind :
    let content := "\x7b# typja:var x: int #\x7d\n\x7b# typja:filter x: int #\x7d\n" ++
      "\x7b# typja:macro x(a: int) -> int #\x7d\n\x7b# typja:macro x(a: int) -> int #\x7d\n" ++
      "\x7b# typja:var y: int, x: str #\x7d\n\x7b# typja:filter x: str #\x7d"
    let found (line first : Int) : Issue :=
      ⟨.error, "Duplicate declaration of 'x'", "t.html", line, 0, none,
        some ("'x' was already declared at line " ++ toString first)⟩
    ∃ cs, Comment.parseAll "t.html" content = .ok cs ∧
      (duplicates "t.html" cs).Perm [found 4 3, found 5 1, found 6 2] := by
  intro content found
  have hread : (Comment.parseAll "t.html" content).toOption.map declarations =
      some [⟨.variable_, "x", 1⟩, ⟨.filter, "x", 2⟩, ⟨.macro_, "x", 3⟩, ⟨.macro_, "x", 4⟩,
        ⟨.variable_, "y", 5⟩, ⟨.variable_, "x", 5⟩, ⟨.filter, "x", 6⟩] := by decide +kernel
  cases hc : Comment.parseAll "t.html" content with
  | error e =>
    rw [hc] at hread
    cases hread
  | ok cs =>
    rw [hc] at hread
    have h := (duplicates_perm "t.html" cs).1
    rw [Option.some.inj hread] at h
    exact ⟨cs, rfl, h⟩

end TypedTemplate.Style
