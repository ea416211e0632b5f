import Mathlib.Data.List.Nodup
import TypedTemplate.ClassIndex.Collect
import TypedTemplate.Proofs.Table
import TypedTemplate.Proofs.Text.Search

/-! How an index grows: first by the classes of the files, one after the other, then by the requests
of the packages, one after the other. Each step is told by what is found under a key after it. -/
namespace TypedTemplate

namespace ClassSource.Outline

theorem name_add {enum : Bool} {o o' : Outline} {s : Stmt} (h : add enum o s = some o') :
    o'.name = o.name := by
  fun_cases add enum o s with
  | case1 target a value n hn =>
    simp only [add, hn] at h
    obtain ⟨-, -, rfl⟩ := Option.map_eq_some_iff.1 h
    rfl
  | case2 target a value hn => grind [add]
  | case3 targets value members hm =>
    rw [add] at h
    rw [if_pos hm] at h
    obtain ⟨-, -, rfl⟩ := Option.map_eq_some_iff.1 h
    rfl
  | case4 targets value members hm => grind [add]
  | case5 name params returns body =>
    rw [add] at h
    obtain ⟨sig, -, h⟩ := Option.bind_eq_some_iff.1 h
    dsimp only at h
    split at h
    · obtain ⟨fields, -, h⟩ := Option.bind_eq_some_iff.1 h
      cases h
      rfl
    · cases h
      rfl
  | case6 => grind [add]

theorem name_foldlM {enum : Bool} {o o' : Outline} {body : List Stmt}
    (h : body.foldlM (add enum) o = some o') :
    o'.name = o.name := by
  induction body generalizing o with
  | nil => cases h; rfl
  | cons s body ih =>
    obtain ⟨o₁, hs, h⟩ := Option.bind_eq_some_iff.1 h
    exact (ih h).trans (name_add hs)

theorem name_ofClass {name : String} {bases : List Expr} {body : List Stmt} {o : Outline}
    (h : ofClass name bases body = some o) : o.name = name := by
  obtain ⟨names, -, h⟩ := Option.bind_eq_some_iff.1 h
  exact name_foldlM h

theorem undotted_of_mem_collect {ss : List Stmt} {o : Outline} (h : o ∈ (collect ss).1) :
    '.' ∉ o.name.toList := by
  fun_induction collect ss with
  | case1 => cases h
  | case2 name bases body rest o' ho os complete hrest ih =>
    rcases List.mem_cons.1 h with rfl | h
    · rw [name_ofClass ho]
      exact name.undotted
    · exact ih (by rw [hrest]; exact h)
  | case3 => cases h
  | case4 s rest hs ih => exact ih h

end ClassSource.Outline

namespace ClassIndex
open ClassSource

section Dots

variable {a a' b b' : String}

theorem isDotted_eq_false_iff {k : String} : isDotted k = false ↔ '.' ∉ k.toList := by
  simp [isDotted]

theorem isDotted_append (a b : String) : isDotted (a ++ "." ++ b) = true := by
  simp [isDotted]

theorem dotted_inj (hb : '.' ∉ b.toList) (hb' : '.' ∉ b'.toList)
    (h : a ++ "." ++ b = a' ++ "." ++ b') :
    a = a' ∧ b = b' := by
  have hcut : Text.cutLast? '.' (a.toList ++ '.' :: b.toList) = Text.cutLast? '.'
    (a'.toList ++ '.' :: b'.toList) := by
    have := congrArg String.toList h
    simp only [String.toList_append] at this
    simpa using congrArg (Text.cutLast? '.') this
  rw [Text.cutLast?_append hb, Text.cutLast?_append hb'] at hcut
  simpa [String.toList_inj] using hcut

end Dots

section Files

variable {t : FileTree} {root : Path}

/-- The classes of a file, as far as they can be written out. -/
def outlines (t : FileTree) (file : Path) : List Outline :=
  ((statements? t file).map fun body => (Outline.collect (Stmt.walk body)).1).getD []

/-- The entry is a class of one of the files, under any module path. -/
def ClassOf (t : FileTree) (files : List Path) (e : ClassEntry) : Prop :=
  e.file ∈ files ∧ ∃ o ∈ outlines t e.file,
    e.name = o.name ∧ e.fields = o.fields ∧ e.methods = o.methods ∧ e.bases = o.bases

theorem ClassOf.moved {files : List Path} {e : ClassEntry} (h : ClassOf t files e)
    (module : String) :
    ClassOf t files { e with modulePath := module } :=
  h

theorem undotted_of_mem_outlines {file : Path} {o : Outline} (h : o ∈ outlines t file) :
    '.' ∉ o.name.toList := by
  rw [outlines] at h
  cases hs : statements? t file with
  | none => simp [hs] at h
  | some body => exact Outline.undotted_of_mem_collect (by simpa [hs] using h)

theorem ClassOf.undotted {files : List Path} {e : ClassEntry} (h : ClassOf t files e) :
    '.' ∉ e.name.toList := by
  obtain ⟨-, o, ho, hname, -⟩ := h
  rw [hname]
  exact undotted_of_mem_outlines ho

def fileEntries (t : FileTree) (root file : Path) : List ClassEntry :=
  match file.relativeTo? root with
  | some relative => (outlines t file).map (entryOf (modulePath relative) file)
  | none => []

theorem mem_fileEntries {file : Path} {e : ClassEntry} :
    e ∈ fileEntries t root file ↔
      ∃ relative, file.relativeTo? root = some relative ∧
        ∃ o ∈ outlines t file, entryOf (modulePath relative) file o = e := by
  rw [fileEntries]
  cases file.relativeTo? root <;> simp

/-- The package that a file is, if it is one. -/
def package? (t : FileTree) (root file : Path) : Option Package := (addFile t root file []).2

theorem addFile_eq (file : Path) (es : Table ClassEntry) :
    addFile t root file es = ((fileEntries t root file).foldl addEntry es,
      package? t root file) := by
  rw [package?]
  unfold addFile fileEntries outlines
  cases statements? t file with
  | none => cases file.relativeTo? root <;> rfl
  | some body =>
    cases file.relativeTo? root with
    | none => rfl
    | some relative =>
      simp only [Option.map_some, Option.getD_some, List.foldl_map]
      split <;> rfl

theorem addFiles_eq (files : List Path) :
    addFiles t root files [] =
      ((files.flatMap (fileEntries t root)).foldl addEntry [],
        files.filterMap (package? t root)) := by
  have hfold : ∀ (es : Table ClassEntry) (ps : List Package),
      files.foldl (fun x f => ((addFile t root f x.1).1, x.2 ++ (addFile t root f x.1).2.toList))
        (es, ps) =
        ((files.flatMap (fileEntries t root)).foldl addEntry es,
          ps ++ files.filterMap (package? t root)) := by
    induction files with
    | nil => simp
    | cons f files ih =>
      intro es ps
      rw [List.foldl_cons]
      dsimp only
      rw [addFile_eq]
      dsimp only
      rw [ih, List.flatMap_cons, List.foldl_append]
      cases hp : package? t root f <;> simp [hp]
  exact hfold [] []

theorem package?_path_ne {file : Path} {p : Package} (h : package? t root file = some p) :
    p.path ≠ "" := by
  rw [package?, addFile] at h
  split at h
  · dsimp only at h
    split at h
    · next hpackage =>
      cases h
      simpa using (Bool.and_eq_true_iff.1 hpackage).2
    · cases h
  · cases h

end Files

section Requests

structure Request where
  package : String
  source : String
  name : PlainName

def PackageImport.requests (package : String) (i : PackageImport) : List Request :=
  match i.source with
  | none => []
  | some s => i.names.map fun (n, _) => ⟨package, if i.level > 0 then package ++ "." ++ s else s, n⟩

def Package.requests (p : Package) : List Request :=
  p.imports.flatMap (PackageImport.requests p.path)

variable (r : Request) (es : Table ClassEntry)

/-- The classes that a request finds, each with the name that it gets in the package. -/
def Request.found : List (String × ClassEntry) :=
  if r.name.text == "*" then es.filter fun (key, e) => e.modulePath == r.source && !isDotted key
  else ((es.find? (r.source ++ "." ++ r.name.text)).or (es.find? r.name.text)).toList.map fun e =>
    (r.name.text, e)

def Request.serve : Table ClassEntry :=
  (r.found es).foldl (fun es (n, e) => addToPackage r.package n e es) es

theorem Request.serve_eq :
    r.serve es =
      if r.name.text == "*" then importAll r.package r.source es
        else importName r.package r.source r.name.text es := by
  rw [serve, found, importName]
  split
  · rfl
  · cases (es.find? (r.source ++ "." ++ r.name.text)).or (es.find? r.name.text) <;> rfl

theorem importNames_eq (package : String) (i : PackageImport) :
    importNames package i es = (i.requests package).foldl (fun es r => r.serve es) es := by
  rw [importNames, PackageImport.requests]
  cases i.source with
  | none => rfl
  | some s => simp only [List.foldl_map, Request.serve_eq]

theorem addPackage_eq (p : Package) :
    addPackage es p = p.requests.foldl (fun es r => r.serve es) es := by
  rw [addPackage, Package.requests, List.foldl_flatMap]
  simp only [importNames_eq]

end Requests

section Steps

variable {es : Table ClassEntry} {k : String}

def IsKey (k : String) (e : ClassEntry) : Prop :=
  k = e.name ∨ e.modulePath ≠ "" ∧ k = e.modulePath ++ "." ++ e.name

instance (k : String) : DecidablePred (IsKey k) := fun _ => inferInstanceAs (Decidable (_ ∨ _))

theorem find?_addEntry (es : Table ClassEntry) (e : ClassEntry) (k : String) :
    (addEntry es e).find? k = if IsKey k e then some e else es.find? k := by
  simp only [addEntry, IsKey]
  by_cases hm : e.modulePath = ""
  · by_cases hk : k = e.name <;> simp [hm, hk, Table.find?_insert]
  · by_cases hk : k = e.name <;> by_cases hd : k = e.modulePath ++ "." ++ e.name <;>
      simp_all [Table.find?_insert]

theorem find?_foldl_addEntry (l : List ClassEntry) (es : Table ClassEntry) (k : String) :
    (l.foldl addEntry es).find? k = (l.reverse.find? fun e => IsKey k e).or (es.find? k) := by
  induction l generalizing es with
  | nil => rfl
  | cons e l ih =>
    rw [List.foldl_cons, ih, find?_addEntry, List.reverse_cons, List.find?_append, Option.or_assoc]
    by_cases hk : IsKey k e <;> simp [hk]

theorem find?_addToPackage (package n : String) (e : ClassEntry) :
    (addToPackage package n e es).find? k =
      (es.find? k).or (if package ++ "." ++ n == k then some { e with modulePath := package }
        else none) := by
  simp only [addToPackage]
  by_cases hhas : es.has (package ++ "." ++ n) = true
  · obtain ⟨e', he'⟩ := Option.isSome_iff_exists.1 hhas
    rw [if_pos hhas]
    by_cases hk : package ++ "." ++ n = k
    · simp [← hk, he']
    · simp [hk]
  · rw [if_neg hhas, Table.find?_insert]
    by_cases hk : package ++ "." ++ n = k
    · simp [← hk, Option.not_isSome_iff_eq_none.1 hhas]
    · simp [hk, Ne.symm hk]

theorem Request.find?_serve (r : Request) (es : Table ClassEntry) (k : String) :
    (r.serve es).find? k =
      (es.find? k).or (((r.found es).find? fun q => r.package ++ "." ++ q.1 == k).map
        fun q => { q.2 with modulePath := r.package }) := by
  rw [serve]
  generalize r.found es = l
  induction l generalizing es with
  | nil => simp
  | cons q l ih =>
    rw [List.foldl_cons, ih, find?_addToPackage, Option.or_assoc, List.find?_cons]
    cases r.package ++ "." ++ q.1 == k <;> simp

theorem nodup_serve (h : es.keys.Nodup) (r : Request) : (r.serve es).keys.Nodup := by
  refine List.foldlRecOn (motive := fun es => (Table.keys es).Nodup) _ _ h fun es hes q _ => ?_
  dsimp only [addToPackage]
  split
  · exact hes
  · exact Table.nodup_keys_insert hes _ _

theorem mem_found_all (h : es.keys.Nodup) {r : Request} (hr : r.name.text = "*")
    {q : String × ClassEntry} :
    q ∈ r.found es ↔ es.find? q.1 = some q.2 ∧ q.2.modulePath = r.source ∧ '.' ∉ q.1.toList := by
  rw [Request.found, hr, Table.find?_eq_some_iff_mem h]
  simp [isDotted_eq_false_iff]

theorem mem_found_name {r : Request} (hr : r.name.text ≠ "*") {q : String × ClassEntry} :
    q ∈ r.found es ↔
      q.1 = r.name.text ∧ (es.find? (r.source ++ "." ++ r.name.text)).or (es.find? r.name.text) =
        some q.2 := by
  obtain ⟨n, e⟩ := q
  rw [Request.found, if_neg (by simpa using hr), List.mem_map]
  simp only [Option.mem_toList, Prod.mk.injEq]
  constructor
  · rintro ⟨e', he', rfl, rfl⟩
    exact ⟨rfl, he'⟩
  · rintro ⟨rfl, he⟩
    exact ⟨e, he, rfl, rfl⟩

theorem nodup_found (h : es.keys.Nodup) (r : Request) : ((r.found es).map Prod.fst).Nodup := by
  rw [Request.found]
  split
  · exact h.sublist (List.filter_sublist.map _)
  · cases (es.find? (r.source ++ "." ++ r.name.text)).or (es.find? r.name.text) <;> simp

theorem Request.find?_serve_eq_some_iff (h : es.keys.Nodup) {r : Request} {e : ClassEntry} :
    (r.serve es).find? k = some e ↔ es.find? k = some e ∨ es.find? k = none ∧
      ∃ q ∈ r.found es, k = r.package ++ "." ++ q.1 ∧ e = { q.2 with modulePath := r.package } := by
  rw [find?_serve, Option.or_eq_some_iff, Option.map_eq_some_iff]
  have hfirst {q : String × ClassEntry}
      (hq : (r.found es).find? (fun q => r.package ++ "." ++ q.1 == k) = some q) :
      q ∈ r.found es ∧ r.package ++ "." ++ q.1 = k :=
    ⟨List.mem_of_find?_eq_some hq, by simpa using List.find?_some hq⟩
  refine or_congr_right (and_congr_right fun _ => ⟨?_, ?_⟩)
  · rintro ⟨q, hq, rfl⟩
    exact ⟨q, (hfirst hq).1, (hfirst hq).2.symm, rfl⟩
  · rintro ⟨q, hq, rfl, rfl⟩
    -- the names found are distinct, so the first class with this name is the only one
    obtain ⟨q', hq'⟩ :
        ∃ q', (r.found es).find? (fun p => r.package ++ "." ++ p.1 == r.package ++ "." ++ q.1) =
          some q' :=
      Option.isSome_iff_exists.1 (List.find?_isSome.2 ⟨q, hq, beq_self_eq_true _⟩)
    have hname : q'.1 = q.1 := (String.append_right_inj _).1 (hfirst hq').2
    obtain rfl : q' = q := List.inj_on_of_nodup_map (nodup_found h r) (hfirst hq').1 hq hname
    exact ⟨q', hq', rfl⟩

end Steps

/-- The entries of the files, before any package adds to them. -/
def classEntries (t : FileTree) (root : Path) (files : List Path) : Table ClassEntry :=
  (files.flatMap (fileEntries t root)).foldl addEntry []

def requests (t : FileTree) (root : Path) (files : List Path) : List Request :=
  (files.filterMap (package? t root)).flatMap Package.requests

theorem collect_eq (t : FileTree) (root : Path) (exclude : List String) (paths : List Path)
    (x : ClassIndex) :
    let files := paths.flatMap (filesOf t root exclude)
    (collect t root exclude paths x).entries =
      (requests t root files).foldl (fun es r => r.serve es) (classEntries t root files) := by
  intro files
  have hadd : addPackage = fun es p => p.requests.foldl (fun es r => r.serve es) es := by
    funext es p
    exact addPackage_eq es p
  rw [collect, addFiles_eq, hadd]
  dsimp only
  rw [← List.foldl_flatMap]
  rfl

end ClassIndex

end TypedTemplate
