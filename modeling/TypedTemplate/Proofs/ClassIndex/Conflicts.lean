import Mathlib.Data.List.TakeWhile
import TypedTemplate.Proofs.ClassIndex.Keys

/-! The names that an index reports as conflicts. Dotted keys keep the classes of different modules
apart, and what a package makes known keeps its file, so that a name is a conflict exactly if two
files have recorded classes of it. A file records its classes up to the first that cannot be written
out. -/
namespace TypedTemplate

namespace ClassSource

def Stmt.className? : Stmt → Option String
  | classDef name _ _ => some name.text
  | _ => none

/-- The statement defines a class that cannot be written out. -/
def Stmt.isUnwritable : Stmt → Bool
  | classDef name bases body => (Outline.ofClass name.text bases body).isNone
  | _ => false

theorem Outline.names_collect (ss : List Stmt) :
    (collect ss).1.map Outline.name = (ss.takeWhile fun s => !s.isUnwritable).filterMap
      Stmt.className? := by
  fun_induction collect ss with
  | case1 => rfl
  | case2 name bases body rest o ho os complete hrest ih =>
    rw [hrest] at ih
    simp [Stmt.isUnwritable, Stmt.className?, ho, name_ofClass ho, ih]
  | case3 name bases body rest ho => simp [Stmt.isUnwritable, ho]
  | case4 s rest hs ih =>
    have hwritable : s.isUnwritable = false := by
      cases s <;> first | rfl | exact (hs _ _ _ rfl).elim
    have hname : s.className? = none := by
      cases s <;> first | rfl | exact (hs _ _ _ rfl).elim
    simpa [hwritable, hname] using ih

end ClassSource

namespace ClassIndex
open ClassSource

section Detection

variable {x : ClassIndex} {n : String}

theorem find?_byName (es : List ClassEntry) (n : String) :
    ((byName es).find? n).getD [] = es.filter fun e => e.name == n := by
  rw [byName, Table.find?_groups, List.map_id]

theorem nodup_keys_byName (es : List ClassEntry) : (byName es).keys.Nodup :=
  Table.nodup_keys_groups es

theorem severalFiles_iff {es : List ClassEntry} :
    severalFiles es = true ↔ ∃ e ∈ es, ∃ e' ∈ es, e.file ≠ e'.file := by
  cases es with
  | nil => simp [severalFiles]
  | cons e₀ es =>
    rw [severalFiles, List.any_eq_true]
    constructor
    · rintro ⟨e', he', hne⟩
      exact ⟨e', List.mem_cons_of_mem _ he', e₀, List.mem_cons_self, by simpa using hne⟩
    · rintro ⟨e, he, e', he', hne⟩
      -- if the first entry is in the file of one of the two, it is not in that of the other
      by_cases hfirst : e.file = e₀.file
      · have hne' : e'.file ≠ e₀.file := fun h => hne (hfirst.trans h.symm)
        exact ⟨e', (List.mem_cons.1 he').resolve_left fun h => hne' (h ▸ rfl), by simpa using hne'⟩
      · exact ⟨e, (List.mem_cons.1 he).resolve_left fun h => hfirst (h ▸ rfl), by
          simpa using hfirst⟩

theorem has_detectConflicts :
    x.detectConflicts.conflicts.has n = true ↔ x.conflicts.has n = true ∨
      ∃ e ∈ x.entries.values, ∃ e' ∈ x.entries.values, e.name = n ∧ e'.name = n ∧
        e.file ≠ e'.file := by
  rw [detectConflicts, Table.has_insertAll]
  refine or_congr_right ?_
  have hlisted : n ∈ Table.keys ((byName x.entries.values).filter fun e => severalFiles e.2) ↔
      severalFiles (((byName x.entries.values).find? n).getD []) = true := by
    rw [Table.keys, List.mem_map]
    constructor
    · rintro ⟨⟨k, es⟩, hmem, rfl⟩
      obtain ⟨hmem, hseveral⟩ := List.mem_filter.1 hmem
      rwa [(Table.find?_eq_some_iff_mem (nodup_keys_byName _)).2 hmem]
    · intro hseveral
      cases hfind : (byName x.entries.values).find? n with
      | none =>
        rw [hfind] at hseveral
        cases hseveral
      | some es =>
        rw [hfind] at hseveral
        exact ⟨(n, es), List.mem_filter.2 ⟨Table.mem_of_find? hfind, hseveral⟩, rfl⟩
  rw [hlisted, find?_byName, severalFiles_iff]
  simp only [List.mem_filter, beq_iff_eq]
  constructor
  · rintro ⟨e, ⟨he, hname⟩, e', ⟨he', hname'⟩, hne⟩
    exact ⟨e, he, e', he', hname, hname', hne⟩
  · rintro ⟨e, he, e', he', hname, hname', hne⟩
    exact ⟨e, ⟨he, hname⟩, e', ⟨he', hname'⟩, hne⟩

end Detection

section Files

variable {t : FileTree} {root : Path} {files : List Path}

/-- The dotted name of the module that a file is. A file outside the root has none. -/
def moduleOf? (root file : Path) : Option String := (file.relativeTo? root).map modulePath

/-- All files have module paths, none of which is empty, and no two files have the same. -/
structure DistinctModules (root : Path) (files : List Path) : Prop where
  named : ∀ f ∈ files, moduleOf? root f ≠ none ∧ moduleOf? root f ≠ some ""
  inj : ∀ f ∈ files, ∀ g ∈ files, moduleOf? root f = moduleOf? root g → f = g

/-- All statements of a file, at any depth. A file that is no readable source has none. -/
def sourceOf (t : FileTree) (file : Path) : List Stmt := Stmt.walk ((statements? t file).getD [])

def definedNames (t : FileTree) (file : Path) : List String :=
  (sourceOf t file).filterMap Stmt.className?

/-- The names of the class definitions before the first that cannot be written out. -/
def recordedNames (t : FileTree) (file : Path) : List String :=
  ((sourceOf t file).takeWhile fun s => !s.isUnwritable).filterMap Stmt.className?

def Shared (names : Path → List String) (files : List Path) (n : String) : Prop :=
  ∃ f ∈ files, ∃ g ∈ files, f ≠ g ∧ n ∈ names f ∧ n ∈ names g

instance (names : Path → List String) (files : List Path) (n : String) :
    Decidable (Shared names files n) :=
  inferInstanceAs (Decidable (∃ f ∈ files, ∃ g ∈ files, f ≠ g ∧ n ∈ names f ∧ n ∈ names g))

theorem names_outlines (t : FileTree) (file : Path) :
    (outlines t file).map Outline.name = recordedNames t file := by
  rw [recordedNames, ← Outline.names_collect, outlines, sourceOf]
  cases statements? t file <;> rfl

theorem undotted_of_recorded {file : Path} {n : String} (h : n ∈ recordedNames t file) :
    '.' ∉ n.toList := by
  rw [← names_outlines] at h
  obtain ⟨o, ho, rfl⟩ := List.mem_map.1 h
  exact undotted_of_mem_outlines ho

theorem definedNames_of_recorded {file : Path} {n : String} (h : n ∈ recordedNames t file) :
    n ∈ definedNames t file :=
  ((List.takeWhile_sublist _).filterMap _).subset h

theorem Shared.mono {names names' : Path → List String} {n : String}
    (hnames : ∀ f, n ∈ names f → n ∈ names' f)
    (h : Shared names files n) : Shared names' files n := by
  obtain ⟨f, hf, g, hg, hne, hn, hn'⟩ := h
  exact ⟨f, hf, g, hg, hne, hnames f hn, hnames g hn'⟩

theorem recorded_of_find? {k : String} {e : ClassEntry}
    (h : (classEntries t root files).find? k = some e) :
    e.file ∈ files ∧ moduleOf? root e.file = some e.modulePath ∧
      e.name ∈ recordedNames t e.file := by
  obtain ⟨file, hfile, hentry⟩ := List.mem_flatMap.1 (mem_of_find?_classEntries h).1
  obtain ⟨relative, hrelative, o, ho, rfl⟩ := mem_fileEntries.1 hentry
  refine ⟨hfile, congrArg (Option.map modulePath) hrelative, ?_⟩
  rw [← names_outlines]
  exact List.mem_map_of_mem ho

theorem recorded_of_find?_dotted {module name : String} {e : ClassEntry} (hname : '.' ∉ name.toList)
    (h : (classEntries t root files).find? (module ++ "." ++ name) = some e) :
    e.name = name ∧ e.file ∈ files ∧ moduleOf? root e.file = some module ∧
      name ∈ recordedNames t e.file := by
  obtain ⟨-, rfl, rfl⟩ := (sound_classEntries t root files).of_find?_dotted hname h
  exact ⟨rfl, recorded_of_find? h⟩

theorem exists_entry_of_recorded {f : Path} {module name : String} (hf : f ∈ files)
    (hm : moduleOf? root f = some module) (hname : name ∈ recordedNames t f) :
    ∃ e ∈ files.flatMap (fileEntries t root), e.name = name ∧ e.modulePath = module := by
  rw [← names_outlines] at hname
  obtain ⟨o, ho, rfl⟩ := List.mem_map.1 hname
  obtain ⟨relative, hrelative, rfl⟩ := Option.map_eq_some_iff.1 hm
  exact ⟨entryOf (modulePath relative) f o,
    List.mem_flatMap.2 ⟨f, hf, mem_fileEntries.2 ⟨relative, hrelative, o, ho, rfl⟩⟩, rfl, rfl⟩

theorem exists_find?_dotted_iff {module name : String} (hname : '.' ∉ name.toList)
    (hmodule : module ≠ "") :
    (∃ e, (classEntries t root files).find? (module ++ "." ++ name) = some e) ↔
      ∃ f ∈ files, moduleOf? root f = some module ∧ name ∈ recordedNames t f := by
  constructor
  · rintro ⟨e, he⟩
    obtain ⟨-, hfile, hm, hrecorded⟩ := recorded_of_find?_dotted hname he
    exact ⟨e.file, hfile, hm, hrecorded⟩
  · rintro ⟨f, hf, hm, hrecorded⟩
    obtain ⟨e, he, rfl, rfl⟩ := exists_entry_of_recorded hf hm hrecorded
    exact exists_find?_classEntries he (.inr ⟨hmodule, rfl⟩)

theorem DistinctModules.find?_dotted (h : DistinctModules root files) {f : Path}
    {module name : String} (hf : f ∈ files)
    (hm : moduleOf? root f = some module) (hname : name ∈ recordedNames t f) :
    ∃ e, (classEntries t root files).find? (module ++ "." ++ name) = some e ∧ e.name = name ∧
      e.file = f := by
  have hundotted := undotted_of_recorded hname
  have hne : module ≠ "" := fun hempty => (h.named f hf).2 (hempty ▸ hm)
  obtain ⟨e, he⟩ := (exists_find?_dotted_iff hundotted hne).2 ⟨f, hf, hm, hname⟩
  obtain ⟨hown, hfile, hmodule, -⟩ := recorded_of_find?_dotted hundotted he
  exact ⟨e, he, hown, h.inj _ hfile f hf (hmodule.trans hm.symm)⟩

end Files

variable {t : FileTree} {root : Path} {exclude : List String} {paths : List Path}

theorem exists_entries_iff (h : DistinctModules root (paths.flatMap (filesOf t root exclude)))
    (n : String) :
    (∃ e ∈ (collect t root exclude paths .empty).entries.values,
      ∃ e' ∈ (collect t root exclude paths .empty).entries.values,
      e.name = n ∧ e'.name = n ∧ e.file ≠ e'.file) ↔
      Shared (recordedNames t) (paths.flatMap (filesOf t root exclude)) n := by
  constructor
  · rintro ⟨e, he, e', he', rfl, hname, hne⟩
    have hrecorded : ∀ e ∈ (collect t root exclude paths .empty).entries.values,
        e.file ∈ paths.flatMap (filesOf t root exclude) ∧ e.name ∈ recordedNames t e.file := by
      intro e he
      obtain ⟨p, hp, rfl⟩ := List.mem_map.1 he
      obtain ⟨hf, o, ho, heq⟩ := all_collect t root exclude paths .empty p hp
      refine ⟨hf, ?_⟩
      rw [← names_outlines, heq.1]
      exact List.mem_map_of_mem ho
    exact ⟨_, (hrecorded e he).1, _, (hrecorded e' he').1, hne, (hrecorded e he).2,
      hname ▸ (hrecorded e' he').2⟩
  · rintro ⟨f, hf, g, hg, hne, hn, hn'⟩
    have hentry : ∀ f ∈ paths.flatMap (filesOf t root exclude), n ∈ recordedNames t f →
        ∃ e ∈ (collect t root exclude paths .empty).entries.values, e.name = n ∧ e.file = f := by
      intro f hf hn
      obtain ⟨module, hmodule⟩ := Option.ne_none_iff_exists'.1 (h.named f hf).1
      obtain ⟨e, he, hname, hfile⟩ := h.find?_dotted hf hmodule hn
      refine ⟨e, List.mem_map.2 ⟨(module ++ "." ++ n, e), Table.mem_of_find? ?_, rfl⟩, hname, hfile⟩
      rw [collect_eq]
      exact find?_serveAll_of_some he
    obtain ⟨e, he, hname, rfl⟩ := hentry f hf hn
    obtain ⟨e', he', hname', rfl⟩ := hentry g hg hn'
    exact ⟨e, he, e', he', hname, hname', hne⟩

/-- Where the files have distinct module paths, a name is a conflict exactly if two files have
recorded classes of it, whatever packages make known. So the conflicts are the names that two
files define exactly if two files have recorded each name that two files define, as they have
where every class can be written out. -/
theorem conflict_iff (h : DistinctModules root (paths.flatMap (filesOf t root exclude)))
    (n : String) :
    let files := paths.flatMap (filesOf t root exclude)
    let conflicts := (collect t root exclude paths .empty).detectConflicts.conflicts
    let Exact := conflicts.has n = true ↔ Shared (definedNames t) files n
    (conflicts.has n = true ↔ Shared (recordedNames t) files n) ∧
      (Exact ↔ (Shared (definedNames t) files n → Shared (recordedNames t) files n)) ∧
      ((∀ f ∈ files, ∀ s ∈ sourceOf t f, s.isUnwritable = false) → Exact) := by
  intro files conflicts Exact
  have hrecorded : conflicts.has n = true ↔ Shared (recordedNames t) files n := by
    rw [has_detectConflicts, exists_entries_iff h]
    exact or_iff_right (by simp [collect, empty, Table.has, Table.find?])
  have hdefined : Shared (recordedNames t) files n → Shared (definedNames t) files n :=
    .mono fun f => definedNames_of_recorded
  have hexact : Exact ↔ (Shared (definedNames t) files n → Shared (recordedNames t) files n) := by
    rw [show Exact ↔ (_ ↔ _) from Iff.rfl, hrecorded]
    exact ⟨Iff.mpr, fun h => ⟨hdefined, h⟩⟩
  refine ⟨hrecorded, hexact, fun hall => hexact.2 ?_⟩
  rintro ⟨f, hf, g, hg, hne, hn, hn'⟩
  have hsame : ∀ f ∈ files, recordedNames t f = definedNames t f := by
    intro f hf
    rw [recordedNames, definedNames, List.takeWhile_eq_self_iff.2 fun s hs => by
      simp [hall f hf s hs]]
  exact ⟨f, hf, g, hg, hne, (hsame f hf).symm ▸ hn, (hsame g hg).symm ▸ hn'⟩

def accountTree : FileTree :=
  ⟨[(["p"], .dir 0), (["p", "shop"], .dir 0),
    (["p", "shop", "__init__.py"],
      .file (Text.Utf8.encode "from .user import *\nfrom .user import Cart\n") 0),
    (["p", "shop", "user.py"],
      .file (Text.Utf8.encode "class User:\n    name: str\n\nclass Cart:\n    total: int\n") 0),
    (["p", "admin.py"], .file (Text.Utf8.encode "class User:\n    level: int\n") 0)], ["p"]⟩

def accountPaths : List Path :=
  [.relative ["shop", "__init__.py"], .relative ["shop", "user.py"], .relative ["admin.py"]]

theorem conflict_iff_accounts :
    let conflicts := (collect accountTree .here [] accountPaths .empty).detectConflicts.conflicts
    DistinctModules .here (accountPaths.flatMap (filesOf accountTree .here [])) ∧
      conflicts.has "User" = true ∧ conflicts.has "Cart" = false := by
  have hmodules : DistinctModules .here (accountPaths.flatMap (filesOf accountTree .here [])) :=
    ⟨by decide +kernel, by decide +kernel⟩
  have hsources :
      let files := accountPaths.flatMap (filesOf accountTree .here [])
      (∀ f ∈ files, ∀ s ∈ sourceOf accountTree f, s.isUnwritable = false) ∧
        Shared (definedNames accountTree) files "User" ∧
          ¬ Shared (definedNames accountTree) files "Cart" := by
    decide +kernel
  obtain ⟨hwritable, huser, hcart⟩ := hsources
  refine ⟨hmodules, ((conflict_iff hmodules "User").2.2 hwritable).2 huser, ?_⟩
  rw [← Bool.not_eq_true]
  exact mt ((conflict_iff hmodules "Cart").2.2 hwritable).1 hcart

def obscuredTree : FileTree :=
  ⟨[(["p"], .dir 0),
    (["p", "a.py"], .file (Text.Utf8.encode
      "class Order:\n    total: int\n\nclass Odd:\n    mark: f\"\x7bb'\t'\x7d\"\n\nclass User:\n    name: str\n") 0),
    (["p", "b.py"], .file (Text.Utf8.encode "class User:\n    name: str\n") 0)], ["p"]⟩

def obscuredPaths : List Path := [.relative ["a.py"], .relative ["b.py"]]

theorem conflict_obscured :
    let files := obscuredPaths.flatMap (filesOf obscuredTree .here [])
    let x := (collect obscuredTree .here [] obscuredPaths .empty).detectConflicts
    DistinctModules .here files ∧ Shared (definedNames obscuredTree) files "User" ∧
      x.conflicts.has "User" = false ∧ x.entries.keys = ["Order", "a.Order", "User", "b.User"] := by
  exact ⟨⟨by decide +kernel, by decide +kernel⟩, by decide +kernel⟩

end ClassIndex

end TypedTemplate
