import TypedTemplate.Proofs.ClassIndex.Lookup
import TypedTemplate.Proofs.ClassIndex.Reexport
import TypedTemplate.Proofs.ClassIndex.Retention

/-! What the list of a conflict is good for. It has an entry for each key of a class of the name, so
a class that is known under several keys comes several times, and the qualified names in it have
only the stems of the files. The class that was read last is always known by the plain name as well
as by its module, if it has one. -/
namespace TypedTemplate.ClassIndex

theorem listing_of_conflict {t : FileTree} {root : Path} {exclude : List String} {paths : List Path}
    {n : String}
    {es : List ClassEntry}
    (h : (collect t root exclude paths .empty).detectConflicts.conflicts.find? n = some es) :
    (es = (gathered t root (paths.flatMap (filesOf t root exclude))).values.filter fun e =>
      e.name == n) ∧ severalFiles es = true := by
  have hkeys := nodup_keys_byName (collect t root exclude paths .empty).entries.values
  have hnodup :
      (Table.keys ((byName (collect t root exclude paths .empty).entries.values).filter fun e =>
      severalFiles e.2)).Nodup := hkeys.sublist (List.filter_sublist.map _)
  rw [detectConflicts, Table.find?_insertAll hnodup, Option.or_eq_some_iff] at h
  rcases h with h | ⟨-, h⟩
  · obtain ⟨hmem, hseveral⟩ := List.mem_filter.1 (Table.mem_of_find? h)
    refine ⟨?_, hseveral⟩
    rw [← entries_collect t root exclude paths .empty, ← find?_byName,
      (Table.find?_eq_some_iff_mem hkeys).2 hmem, Option.getD_some]
  · cases h

section Names

variable {x : ClassIndex} {n : String} {es : List ClassEntry}

/-- The questions about the attributes of the qualified names are answered from the classes that
bear them. -/
def AnswersByName (x : ClassIndex) (es : List ClassEntry) : Prop :=
  ∀ e ∈ es, ∀ a, x.checkAttribute e.qualifiedName a = .ok () ↔ e.hasMember a = true ∨
    a ∈ commonAttributes

theorem qualifiedName_notMem_openTypes (e : ClassEntry) : e.qualifiedName ∉ openTypes := by
  have hplain : ∀ k ∈ openTypes, isDotted k = false := by decide
  intro h
  have hdotted : isDotted e.qualifiedName = true := isDotted_append _ _
  exact absurd (hplain _ h) (by simp [hdotted])

theorem answersByName_iff (hundotted : ∀ e ∈ x.entries.values, '.' ∉ e.name.toList)
    (hes : es = x.entries.values.filter fun e => e.name == n) :
    AnswersByName x es ↔
      ∀ e ∈ es, ∀ e' ∈ es, e.file.stem = e'.file.stem →
        ∀ a ∉ commonAttributes, e.hasMember a = e'.hasMember a := by
  have hmem {e : ClassEntry} : e ∈ es ↔ e ∈ x.entries.values ∧ e.name = n := by simp [hes]
  constructor
  · intro h e he e' he' hstem a ha
    have hname : e.qualifiedName = e'.qualifiedName := by
      rw [ClassEntry.qualifiedName, ClassEntry.qualifiedName, hstem, (hmem.1 he).2, (hmem.1 he').2]
    have hsame := (h e he a).symm.trans (hname ▸ h e' he' a)
    simpa [ha, ← Bool.eq_iff_iff] using hsame
  · intro h e he a
    have hvalue := (hmem.1 he).1
    obtain ⟨q, hq⟩ : ∃ q, x.qualified? e.qualifiedName = some q :=
      Option.isSome_iff_exists.1 (List.find?_isSome.2 ⟨e, hvalue, beq_self_eq_true _⟩)
    have hqvalue := List.mem_of_find?_eq_some hq
    -- the class that is found has the name as well, so it is one of the list
    have hspelled : q.qualifiedName = e.qualifiedName := by simpa using List.find?_some hq
    obtain ⟨hstem, hname⟩ := dotted_inj (hundotted q hqvalue) (hundotted e hvalue) hspelled
    have hqmem : q ∈ es := hmem.2 ⟨hqvalue, hname.trans (hmem.1 he).2⟩
    have hdotted : isDotted e.qualifiedName = true := isDotted_append _ _
    rw [checkAttribute_eq_ok_iff (qualifiedName_notMem_openTypes e), find?_dotted hdotted, hq]
    simp only [Option.some.injEq, exists_eq_left']
    by_cases ha : a ∈ commonAttributes
    · simp [ha]
    · rw [h q hqmem e he hstem a ha]

end Names

section Given

variable {t : FileTree} {root : Path} {files : List Path} {n k k' : String} {e e' : ClassEntry}

def Defines (t : FileTree) (root : Path) (n : String) (f : Path) : Prop :=
  (moduleOf? root f).isSome = true ∧ n ∈ recordedNames t f

instance (t : FileTree) (root : Path) (n : String) : DecidablePred (Defines t root n) :=
  fun _ => inferInstanceAs (Decidable (_ ∧ _))

theorem defines_of_find? (h : (classEntries t root files).find? k = some e) :
    e.file ∈ files ∧ Defines t root e.name e.file ∧ moduleOf? root e.file = some e.modulePath := by
  obtain ⟨hfile, hmodule, hrecorded⟩ := recorded_of_find? h
  exact ⟨hfile, ⟨Option.isSome_iff_exists.2 ⟨_, hmodule⟩, hrecorded⟩, hmodule⟩

def Sourced (given es : Table ClassEntry) : Prop :=
  ∀ k e, es.find? k = some e → ∃ k' e', given.find? k' = some e' ∧ e'.file = e.file ∧
    e'.name = e.name

theorem Sourced.serve {given es : Table ClassEntry} (h : Sourced given es) (hes : Sound t files es)
    (r : Request) :
    Sourced given (r.serve es) := by
  intro k e hk
  rcases (Request.find?_serve_eq_some_iff hes.nodup).1 hk with hold | ⟨-, q, hq, -, rfl⟩
  · exact h k e hold
  · obtain ⟨k', hk'⟩ := (hes.of_mem_found hq).2
    exact h k' q.2 hk'

theorem key_eq_of_module
    (hlast : ∀ e, (classEntries t root files).find? n = some e → e.modulePath = "")
    (h : (classEntries t root files).find? k = some e)
    (h' : (classEntries t root files).find? k' = some e')
    (hname : e.name = n) (hname' : e'.name = n) (hmodule : e.modulePath = e'.modulePath) :
    k = k' := by
  have hsound := sound_classEntries t root files
  rcases hsound.isKey h with hk | ⟨hnamed, hk⟩
  · rcases hsound.isKey h' with hk' | ⟨hnamed', -⟩
    · rw [hk, hk', hname, hname']
    · subst hk
      exact absurd (hmodule ▸ hlast e (hname ▸ h)) hnamed'
  · rcases hsound.isKey h' with hk' | ⟨-, hk'⟩
    · subst hk'
      exact absurd (hmodule ▸ hlast e' (hname' ▸ h')) hnamed
    · rw [hk, hk', hmodule, hname, hname']

end Given

/-- Each class of a name is known under one key, and the files of such classes are told apart by
their stems: the last is in the file of the root itself, packages supply none that they have not,
and no two files share a module path or a stem. -/
structure Separate (t : FileTree) (root : Path) (files : List Path) (n : String) : Prop where
  last : ∀ e, (classEntries t root files).find? n = some e → e.modulePath = ""
  supplied : ∀ q ∈ requests t root files, ∀ package, q.Supplies (classEntries t root files) package
    n → (classEntries t root files).has (package ++ "." ++ n) = true
  apart : ∀ f ∈ files, ∀ g ∈ files, Defines t root n f → Defines t root n g → f ≠ g →
    moduleOf? root f ≠ moduleOf? root g ∧ f.stem ≠ g.stem

/-- The list of a conflict has each class once, all under different names, and by these names
their attributes are known. -/
structure Disambiguates (t : FileTree) (root : Path) (files : List Path) (x : ClassIndex)
    (n : String) (es : List ClassEntry) : Prop where
  once : ∀ f ∈ files, Defines t root n f → es.countP (fun e => e.file == f) = 1
  distinct : (es.map ClassEntry.qualifiedName).Nodup
  answers : AnswersByName x es

section Gathered

variable {t : FileTree} {root : Path} {files : List Path} {n k k' : String} {e e' : ClassEntry}
  {es : List ClassEntry}

theorem sourced_gathered (t : FileTree) (root : Path) (files : List Path) :
    Sourced (classEntries t root files) (gathered t root files) := by
  refine (List.foldlRecOn (motive := fun es => Sound t files es ∧
    Sourced (classEntries t root files) es) _ _
    ⟨sound_classEntries t root files, fun k e hk => ⟨k, e, hk, rfl, rfl⟩⟩ fun es hes r hr => ?_).2
  exact ⟨hes.1.serve (package_ne_of_mem_requests hr), hes.2.serve hes.1 r⟩

theorem find?_given_of_gathered
    (hsupplied : ∀ q ∈ requests t root files, ∀ package, q.Supplies (classEntries t root files)
      package n → (classEntries t root files).has (package ++ "." ++ n) = true)
    (h : (gathered t root files).find? k = some e) (hname : e.name = n) :
    (classEntries t root files).find? k = some e := by
  have hsound := sound_gathered t root files
  subst hname
  rcases hsound.isKey h with rfl | ⟨-, rfl⟩
  · rwa [← (grown_gathered t root files).plain (hsound.undotted h)]
  · rcases (find?_gathered_dotted_iff (hsound.undotted h)).1 h
      with h | ⟨hnone, before, r, ⟨⟨after, hsplit⟩, hr, -⟩, -⟩
    · exact h
    · have hhas := hsupplied r (hsplit ▸ List.mem_append_right _ List.mem_cons_self) _ hr
      rw [Table.has, hnone] at hhas
      cases hhas

variable (hes : es = (gathered t root files).values.filter fun e => e.name == n)
include hes

theorem countP_eq_one_iff (f : Path) :
    es.countP (fun e => e.file == f) = 1 ↔ ∃ k e, (gathered t root files).find? k = some e ∧
      (e.name = n ∧ e.file = f) ∧
      ∀ k' e', (gathered t root files).find? k' = some e' → e'.name = n ∧ e'.file = f → k' = k := by
  rw [hes, List.countP_filter, Table.countP_values_eq_one_iff (sound_gathered t root files).nodup]
  simp only [Bool.and_eq_true, beq_iff_eq, and_comm]

theorem mem_listing_iff : e ∈ es ↔ e.name = n ∧ ∃ k, (gathered t root files).find? k = some e := by
  have hvalue : e ∈ (gathered t root files).values ↔
    ∃ k, (gathered t root files).find? k = some e := by
    simp [Table.values, Table.find?_eq_some_iff_mem (sound_gathered t root files).nodup]
  rw [hes, List.mem_filter, hvalue, beq_iff_eq, and_comm]

section Once

variable (honce : ∀ f ∈ files, Defines t root n f → es.countP (fun e => e.file == f) = 1)
include honce

theorem key_eq_of_once (h : (classEntries t root files).find? k = some e)
    (h' : (gathered t root files).find? k' = some e')
    (hname : e.name = n) (hname' : e'.name = n) (hfile : e'.file = e.file) : k' = k := by
  obtain ⟨hf, hdefines, -⟩ := defines_of_find? h
  obtain ⟨k₀, -, -, -, hunique⟩ :=
    (countP_eq_one_iff hes e.file).1 (honce e.file hf (hname ▸ hdefines))
  exact (hunique k' e' h' ⟨hname', hfile⟩).trans
    (hunique k e (find?_gathered_of_given h) ⟨hname, rfl⟩).symm

theorem modulePath_eq_of_once (hundotted : '.' ∉ n.toList)
    (h : (classEntries t root files).find? n = some e) :
    e.modulePath = "" := by
  by_contra hnamed
  have hname : n = e.name := ((sound_classEntries t root files).isKey h).eq_name hundotted
  have hkey := key_eq_of_once hes honce (dotted_classEntries t root files n e h hnamed)
    (find?_gathered_of_given h) hname.symm hname.symm rfl
  refine hundotted ?_
  rw [hkey, dottedName]
  simp

theorem has_of_once (hundotted : '.' ∉ n.toList) {q : Request} (hq : q ∈ requests t root files)
    {package : String} (h : q.Supplies (classEntries t root files) package n) :
    (classEntries t root files).has (package ++ "." ++ n) = true := by
  have hpackage : package ≠ "" := h.1 ▸ package_ne_of_mem_requests hq
  obtain ⟨e, he⟩ := (exists_gathered_dotted_iff hundotted hpackage).2 (.inr ⟨q, hq, h⟩)
  obtain ⟨-, -, hname⟩ := (sound_gathered t root files).of_find?_dotted hundotted he
  -- the files have given the class under another key, unless they have given this one
  obtain ⟨k, e', he', hfile, hname'⟩ := sourced_gathered t root files _ e he
  rw [key_eq_of_once hes honce he' he (hname'.trans hname) hname hfile.symm, Table.has, he']
  rfl

theorem separate_of_once (hundotted : '.' ∉ n.toList)
    (hdistinct : (es.map ClassEntry.qualifiedName).Nodup) :
    Separate t root files n := by
  have hlast : ∀ e, (classEntries t root files).find? n = some e → e.modulePath = "" := fun e =>
    modulePath_eq_of_once hes honce hundotted
  have hsupplied :
      ∀ q ∈ requests t root files, ∀ package, q.Supplies (classEntries t root files) package n →
      (classEntries t root files).has (package ++ "." ++ n) = true := fun q hq package =>
    has_of_once hes honce hundotted hq
  refine ⟨hlast, hsupplied, fun f hf g hg hdf hdg hne => ?_⟩
  obtain ⟨k, e, he, ⟨hname, rfl⟩, -⟩ := (countP_eq_one_iff hes f).1 (honce f hf hdf)
  obtain ⟨k', e', he', ⟨hname', rfl⟩, -⟩ := (countP_eq_one_iff hes g).1 (honce g hg hdg)
  have hgiven := find?_given_of_gathered hsupplied he hname
  have hgiven' := find?_given_of_gathered hsupplied he' hname'
  constructor
  · intro hmodule
    rw [(defines_of_find? hgiven).2.2, (defines_of_find? hgiven').2.2, Option.some.injEq] at hmodule
    obtain rfl := key_eq_of_module hlast hgiven hgiven' hname hname' hmodule
    exact hne (congrArg ClassEntry.file (Option.some.inj (he.symm.trans he')))
  · intro hstem
    refine hne (congrArg ClassEntry.file (List.inj_on_of_nodup_map hdistinct ?_ ?_ ?_))
    · exact (mem_listing_iff hes).2 ⟨hname, k, he⟩
    · exact (mem_listing_iff hes).2 ⟨hname', k', he'⟩
    · rw [ClassEntry.qualifiedName, ClassEntry.qualifiedName, hstem, hname, hname']

end Once

end Gathered

namespace Separate

variable {t : FileTree} {root : Path} {files : List Path} {n k k' : String} {e e' : ClassEntry}
  {es : List ClassEntry}

theorem exists_find? (h : Separate t root files n) {f : Path} (hf : f ∈ files)
    (hdefines : Defines t root n f) :
    ∃ k e, (classEntries t root files).find? k = some e ∧ e.name = n ∧ e.file = f := by
  have hundotted := undotted_of_recorded hdefines.2
  obtain ⟨m, hm⟩ := Option.isSome_iff_exists.1 hdefines.1
  -- an entry of the module is from this file, because no other file of the name has the module path
  have hsame {k : String} {e : ClassEntry} (he : (classEntries t root files).find? k = some e)
      (hname : e.name = n) (hmodule : e.modulePath = m) : e.file = f := by
    obtain ⟨hfile, hown, hpath⟩ := defines_of_find? he
    by_contra hne
    exact (h.apart e.file hfile f hf (hname ▸ hown) hdefines hne).1 (by rw [hpath, hm, hmodule])
  by_cases hnamed : m = ""
  · obtain ⟨e₀, he₀, hname₀, -⟩ := exists_entry_of_recorded hf hm hdefines.2
    obtain ⟨e, he⟩ := exists_find?_classEntries he₀ (.inl hname₀.symm)
    have hname : e.name = n := (((sound_classEntries t root files).isKey he).eq_name hundotted).symm
    exact ⟨_, e, he, hname, hsame he hname ((h.last e he).trans hnamed.symm)⟩
  · obtain ⟨e, he⟩ := (exists_find?_dotted_iff hundotted hnamed).2 ⟨f, hf, hm, hdefines.2⟩
    obtain ⟨-, hmodule, hname⟩ := (sound_classEntries t root files).of_find?_dotted hundotted he
    exact ⟨_, e, he, hname, hsame he hname hmodule⟩

theorem key_eq (h : Separate t root files n) (he : (gathered t root files).find? k = some e)
    (he' : (gathered t root files).find? k' = some e') (hname : e.name = n) (hname' : e'.name = n)
    (hstem : e.file.stem = e'.file.stem) : k = k' := by
  have hgiven := find?_given_of_gathered h.supplied he hname
  have hgiven' := find?_given_of_gathered h.supplied he' hname'
  obtain ⟨hf, hdefines, hmodule⟩ := defines_of_find? hgiven
  obtain ⟨hf', hdefines', hmodule'⟩ := defines_of_find? hgiven'
  have hfile : e.file = e'.file := by
    by_contra hne
    exact (h.apart _ hf _ hf' (hname ▸ hdefines) (hname' ▸ hdefines') hne).2 hstem
  rw [hfile, hmodule', Option.some.injEq] at hmodule
  exact key_eq_of_module h.last hgiven hgiven' hname hname' hmodule.symm

theorem once (h : Separate t root files n)
    (hes : es = (gathered t root files).values.filter fun e => e.name == n)
    {f : Path} (hf : f ∈ files) (hdefines : Defines t root n f) :
        es.countP (fun e => e.file == f) = 1 := by
  obtain ⟨k, e, he, hname, rfl⟩ := h.exists_find? hf hdefines
  refine (countP_eq_one_iff hes e.file).2 ⟨k, e, find?_gathered_of_given he, ⟨hname, rfl⟩, ?_⟩
  rintro k' e' he' ⟨hname', hfile⟩
  exact h.key_eq he' (find?_gathered_of_given he) hname' hname (by rw [hfile])

theorem distinct (h : Separate t root files n)
    (hes : es = (gathered t root files).values.filter fun e => e.name == n) :
    (es.map ClassEntry.qualifiedName).Nodup := by
  have hsound := sound_gathered t root files
  have hpairs : (gathered t root files).Nodup := List.Nodup.of_map _ hsound.nodup
  rw [hes, Table.values, List.filter_map, List.map_map]
  refine (hpairs.filter _).map_on fun p hp p' hp' hspelled => ?_
  obtain ⟨hmem, hname⟩ : p ∈ gathered t root files ∧ p.2.name = n := by simpa using hp
  obtain ⟨hmem', hname'⟩ : p' ∈ gathered t root files ∧ p'.2.name = n := by simpa using hp'
  have hfind := (Table.find?_eq_some_iff_mem hsound.nodup).2 hmem
  have hfind' := (Table.find?_eq_some_iff_mem hsound.nodup).2 hmem'
  have hkey :=
    h.key_eq hfind hfind' hname hname'
      (dotted_inj (hsound.undotted hfind) (hsound.undotted hfind') hspelled).1
  rw [hkey] at hfind
  exact Prod.ext hkey (Option.some.inj (hfind.symm.trans hfind'))

theorem eq_of_stem (h : Separate t root files n)
    (hes : es = (gathered t root files).values.filter fun e => e.name == n)
    (he : e ∈ es) (he' : e' ∈ es) (hstem : e.file.stem = e'.file.stem) : e = e' := by
  obtain ⟨hname, k, hk⟩ := (mem_listing_iff hes).1 he
  obtain ⟨hname', k', hk'⟩ := (mem_listing_iff hes).1 he'
  obtain rfl := h.key_eq hk hk' hname hname' hstem
  exact Option.some.inj (hk.symm.trans hk')

end Separate

/-- The list of a conflict has each class once, under different names by which the attributes are
known, exactly if each class of the name has one key and a stem of its own. By themselves, the names
give the attributes of the classes that bear them exactly if classes in files of one stem have the
same. -/
theorem disambiguates_iff (t : FileTree) (root : Path) (exclude : List String) (paths : List Path)
    {n : String}
    {es : List ClassEntry}
    (h : (collect t root exclude paths .empty).detectConflicts.conflicts.find? n = some es) :
    let files := paths.flatMap (filesOf t root exclude)
    let x := (collect t root exclude paths .empty).detectConflicts
    (Disambiguates t root files x n es ↔ Separate t root files n) ∧
      (AnswersByName x es ↔
        ∀ e ∈ es, ∀ e' ∈ es, e.file.stem = e'.file.stem →
          ∀ a ∉ commonAttributes, e.hasMember a = e'.hasMember a) := by
  intro files x
  obtain ⟨hes, hseveral⟩ := listing_of_conflict h
  have hsound := sound_gathered t root files
  have hentries : x.entries = gathered t root files := entries_collect t root exclude paths .empty
  have hundotted : ∀ e ∈ x.entries.values, '.' ∉ e.name.toList := by
    intro e he
    rw [hentries] at he
    obtain ⟨p, hp, rfl⟩ := List.mem_map.1 he
    exact hsound.undotted ((Table.find?_eq_some_iff_mem hsound.nodup).2 hp)
  have hanswers := answersByName_iff hundotted (hentries.symm ▸ hes)
  refine ⟨⟨fun hd => ?_, fun hs => ⟨fun f => hs.once hes, hs.distinct hes, hanswers.2 ?_⟩⟩,
    hanswers⟩
  · obtain ⟨e, he, -⟩ := severalFiles_iff.1 hseveral
    obtain ⟨rfl, k, hk⟩ := (mem_listing_iff hes).1 he
    exact separate_of_once hes hd.once (hsound.undotted hk) hd.distinct
  · intro e he e' he' hstem a _
    rw [hs.eq_of_stem hes he he' hstem]

def rootTree : FileTree :=
  ⟨[(["p"], .dir 0), (["p", "a.py"], .file (Text.Utf8.encode "class User:\n    name: str\n") 0),
    (["p", "__init__.py"], .file (Text.Utf8.encode "class User:\n    level: int\n") 0)], ["p"]⟩

def rootPaths : List Path := [.relative ["a.py"], .relative ["__init__.py"]]

theorem disambiguates_iff_root :
    ∃ es, (collect rootTree .here [] rootPaths .empty).detectConflicts.conflicts.find? "User" =
      some es ∧ Disambiguates rootTree .here (rootPaths.flatMap (filesOf rootTree .here []))
        (collect rootTree .here [] rootPaths .empty).detectConflicts "User" es := by
  have hsources :
      let files := rootPaths.flatMap (filesOf rootTree .here [])
      ((collect rootTree .here [] rootPaths .empty).detectConflicts.conflicts.find? "User").isSome =
        true ∧
        ((classEntries rootTree .here files).find? "User").all (fun e => e.modulePath == "") =
          true ∧
        (requests rootTree .here files).isEmpty = true ∧
        ∀ f ∈ files, ∀ g ∈ files, Defines rootTree .here "User" f →
          Defines rootTree .here "User" g → f ≠ g →
          moduleOf? .here f ≠ moduleOf? .here g ∧ f.stem ≠ g.stem := by
    decide +kernel
  obtain ⟨hconflict, hlast, hrequests, hapart⟩ := hsources
  obtain ⟨es, hes⟩ := Option.isSome_iff_exists.1 hconflict
  refine ⟨es, hes, (disambiguates_iff rootTree .here [] rootPaths hes).1.2 ⟨fun e he => ?_,
    fun q hq => ?_, hapart⟩⟩
  · rw [he] at hlast
    simpa using hlast
  · rw [List.isEmpty_iff.1 hrequests] at hq
    cases hq

def rivalTree : FileTree :=
  ⟨[(["p"], .dir 0), (["p", "a.py"], .file (Text.Utf8.encode "class User:\n    name: str\n") 0),
    (["p", "b.py"], .file (Text.Utf8.encode "class User:\n    level: int\n") 0)], ["p"]⟩

def rivalPaths : List Path := [.relative ["a.py"], .relative ["b.py"]]

theorem rival_listed_twice :
    ((collect rivalTree .here [] rivalPaths .empty).detectConflicts.conflicts.find? "User").map
      (List.map ClassEntry.qualifiedName) = some ["b.User", "a.User", "b.User"] := by
  decide +kernel

end TypedTemplate.ClassIndex
