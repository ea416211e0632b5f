import TypedTemplate.Proofs.ClassIndex.Growth

/-! The keys of an index. A plain key is the name of its class, a dotted one has the module path
before the name; packages only add keys of their own, and no entry that is there before is lost or
changed. -/
namespace TypedTemplate.ClassIndex

section Keys

variable {k : String} {e : ClassEntry}

theorem IsKey.eq_name (h : IsKey k e) (hk : '.' ∉ k.toList) : k = e.name := by
  rcases h with h | ⟨-, rfl⟩
  · exact h
  · exact absurd hk (by simp)

theorem IsKey.eq_dotted (h : IsKey k e) (hname : '.' ∉ e.name.toList) (hk : isDotted k = true) :
    e.modulePath ≠ "" ∧ k = e.modulePath ++ "." ++ e.name := by
  rcases h with rfl | h
  · exact absurd hk (by simpa [isDotted] using hname)
  · exact h

end Keys

/-- What is true of a table of classes at any time: a key has one entry, it is a key of that entry,
and the entry is a class of the files. -/
structure Sound (t : FileTree) (files : List Path) (es : Table ClassEntry) : Prop where
  nodup : es.keys.Nodup
  isKey : ∀ {k e}, es.find? k = some e → IsKey k e
  classOf : ∀ {k e}, es.find? k = some e → ClassOf t files e

variable {t : FileTree} {root : Path} {files : List Path} {es : Table ClassEntry}

theorem classOf_of_mem_fileEntries {e : ClassEntry} (h : e ∈ files.flatMap (fileEntries t root)) :
    ClassOf t files e := by
  obtain ⟨file, hfile, he⟩ := List.mem_flatMap.1 h
  obtain ⟨relative, -, o, ho, rfl⟩ := mem_fileEntries.1 he
  exact ⟨hfile, o, ho, rfl, rfl, rfl, rfl⟩

theorem mem_of_find?_classEntries {k : String} {e : ClassEntry}
    (h : (classEntries t root files).find? k = some e) :
    e ∈ files.flatMap (fileEntries t root) ∧ IsKey k e := by
  rw [classEntries, find?_foldl_addEntry] at h
  have hfound : (files.flatMap (fileEntries t root)).reverse.find? (fun e => IsKey k e) =
    some e := by
    simpa [Table.find?] using h
  exact ⟨List.mem_reverse.1 (List.mem_of_find?_eq_some hfound), by
    simpa using List.find?_some hfound⟩

theorem exists_find?_classEntries {k : String} {e : ClassEntry}
    (he : e ∈ files.flatMap (fileEntries t root))
    (hk : IsKey k e) : ∃ e', (classEntries t root files).find? k = some e' := by
  refine Option.isSome_iff_exists.1 ?_
  rw [classEntries, find?_foldl_addEntry, Option.isSome_or, Bool.or_eq_true, List.find?_isSome]
  exact .inl ⟨e, List.mem_reverse.2 he, decide_eq_true hk⟩

theorem sound_classEntries (t : FileTree) (root : Path) (files : List Path) :
    Sound t files (classEntries t root files) where
  nodup := by
    refine List.foldlRecOn (motive := fun es => (Table.keys es).Nodup) _ _ (by simp [Table.keys])
      fun es hes e _ => ?_
    dsimp only [addEntry]
    split
    · exact Table.nodup_keys_insert hes _ _
    · exact Table.nodup_keys_insert (Table.nodup_keys_insert hes _ _) _ _
  isKey h := (mem_of_find?_classEntries h).2
  classOf h := classOf_of_mem_fileEntries (mem_of_find?_classEntries h).1

namespace Sound

variable {r : Request} {q : String × ClassEntry}

theorem undotted (h : Sound t files es) {k : String} {e : ClassEntry} (he : es.find? k = some e) :
    '.' ∉ e.name.toList :=
  (h.classOf he).undotted

theorem of_find?_dotted (h : Sound t files es) {m n : String} {e : ClassEntry} (hn : '.' ∉ n.toList)
    (he : es.find? (m ++ "." ++ n) = some e) : m ≠ "" ∧ e.modulePath = m ∧ e.name = n := by
  obtain ⟨hnamed, hkey⟩ := (h.isKey he).eq_dotted (h.undotted he) (isDotted_append _ _)
  obtain ⟨rfl, rfl⟩ := dotted_inj hn (h.undotted he) hkey
  exact ⟨hnamed, rfl, rfl⟩

theorem of_mem_found (h : Sound t files es) (hq : q ∈ r.found es) :
    q.1 = q.2.name ∧ ∃ k, es.find? k = some q.2 := by
  by_cases hr : r.name.text = "*"
  · obtain ⟨hfind, -, hplain⟩ := (mem_found_all h.nodup hr).1 hq
    exact ⟨(h.isKey hfind).eq_name hplain, q.1, hfind⟩
  · obtain ⟨hname, hfind⟩ := (mem_found_name hr).1 hq
    rw [hname]
    rcases Option.or_eq_some_iff.1 hfind with hfind | ⟨-, hfind⟩
    · have hdotted := (h.isKey hfind).eq_dotted (h.undotted hfind) (isDotted_append _ _)
      exact ⟨(dotted_inj r.name.undotted (h.undotted hfind) hdotted.2).2, _, hfind⟩
    · exact ⟨(h.isKey hfind).eq_name r.name.undotted, _, hfind⟩

theorem serve (h : Sound t files es) (hr : r.package ≠ "") : Sound t files (r.serve es) where
  nodup := nodup_serve h.nodup r
  isKey hk := by
    rcases (Request.find?_serve_eq_some_iff h.nodup).1 hk with hk | ⟨-, q, hq, rfl, rfl⟩
    · exact h.isKey hk
    · exact .inr ⟨hr, by rw [(h.of_mem_found hq).1]⟩
  classOf hk := by
    rcases (Request.find?_serve_eq_some_iff h.nodup).1 hk with hk | ⟨-, q, hq, rfl, rfl⟩
    · exact h.classOf hk
    · obtain ⟨k', hk'⟩ := (h.of_mem_found hq).2
      exact (h.classOf hk').moved r.package

theorem serveAll (h : Sound t files es) {rs : List Request} (hrs : ∀ r ∈ rs, r.package ≠ "") :
    Sound t files (rs.foldl (fun es r => r.serve es) es) :=
  List.foldlRecOn (motive := Sound t files) rs _ h fun _ hes r hr => hes.serve (hrs r hr)

end Sound

section Requests

variable {rs : List Request} {k : String} {e : ClassEntry}

theorem find?_serveAll_of_some (h : es.find? k = some e) :
    (rs.foldl (fun es r => r.serve es) es).find? k = some e :=
  List.foldlRecOn (motive := fun es => Table.find? es k = some e) rs _ h fun es hes r _ => by
    rw [Request.find?_serve, hes, Option.some_or]

theorem added_of_find?_serveAll (h : (rs.foldl (fun es r => r.serve es) es).find? k = some e) :
    es.find? k = some e ∨ isDotted k = true ∧ ∃ r ∈ rs, e.modulePath = r.package := by
  refine List.foldlRecOn
    (motive := fun es' => ∀ k e, Table.find? es' k = some e →
      es.find? k = some e ∨ isDotted k = true ∧ ∃ r ∈ rs, e.modulePath = r.package)
    rs _ (fun _ _ => .inl) (fun es' hes' r hr k e hk => ?_) k e h
  rw [Request.find?_serve, Option.or_eq_some_iff, Option.map_eq_some_iff] at hk
  rcases hk with hk | ⟨-, q, hq, rfl⟩
  · exact hes' k e hk
  · have hkey : r.package ++ "." ++ q.1 = k := by simpa using List.find?_some hq
    exact .inr ⟨hkey ▸ isDotted_append _ _, r, hr, rfl⟩

theorem package_eq_of_mem_requests {p : Package} {r : Request} (h : r ∈ p.requests) :
    r.package = p.path := by
  obtain ⟨i, -, hr⟩ := List.mem_flatMap.1 h
  rw [PackageImport.requests] at hr
  split at hr
  · cases hr
  · obtain ⟨n, -, rfl⟩ := List.mem_map.1 hr
    rfl

end Requests

section Packages

variable {p : Package} {packages : List Package} {k : String} {e : ClassEntry}

theorem Sound.addPackage (h : Sound t files es) (hp : p.path ≠ "") :
    Sound t files (addPackage es p) := by
  rw [addPackage_eq]
  exact h.serveAll fun r hr => package_eq_of_mem_requests hr ▸ hp

theorem Sound.addPackages (h : Sound t files es) (hpackages : ∀ p ∈ packages, p.path ≠ "") :
    Sound t files (packages.foldl ClassIndex.addPackage es) :=
  List.foldlRecOn (motive := Sound t files) packages _ h fun _ hes p hp => hes.addPackage
    (hpackages p hp)

theorem find?_addPackage_of_some (h : es.find? k = some e) :
    (addPackage es p).find? k = some e := by
  rw [addPackage_eq]
  exact find?_serveAll_of_some h

theorem find?_addPackages_of_some (h : es.find? k = some e) :
    (packages.foldl addPackage es).find? k = some e :=
  List.foldlRecOn (motive := fun es => Table.find? es k = some e) packages _ h fun _ hes _ _ =>
    find?_addPackage_of_some hes

theorem Sound.added_of_find?_addPackage (h : Sound t files es) (hp : p.path ≠ "")
    (hk : (ClassIndex.addPackage es p).find? k = some e) :
    es.find? k = some e ∨ es.find? k = none ∧ e.modulePath = p.path ∧
      k = p.path ++ "." ++ e.name := by
  cases hold : es.find? k with
  | some e' => exact .inl ((find?_addPackage_of_some hold).symm.trans hk)
  | none =>
    have hadded := hk
    rw [addPackage_eq] at hadded
    obtain h' | ⟨hdotted, r, hr, hpath⟩ := added_of_find?_serveAll hadded
    · exact nomatch hold.symm.trans h'
    · have hsound := h.addPackage hp
      rw [package_eq_of_mem_requests hr] at hpath
      refine .inr ⟨rfl, hpath, ?_⟩
      rw [← hpath]
      exact ((hsound.isKey hk).eq_dotted (hsound.undotted hk) hdotted).2

end Packages

theorem path_ne_of_mem_packages {p : Package} (h : p ∈ files.filterMap (package? t root)) :
    p.path ≠ "" := by
  obtain ⟨file, -, hfile⟩ := List.mem_filterMap.1 h
  exact package?_path_ne hfile

theorem sound_collect (t : FileTree) (root : Path) (exclude : List String) (paths : List Path)
    (x : ClassIndex) :
    Sound t (paths.flatMap (filesOf t root exclude)) (collect t root exclude paths x).entries := by
  rw [collect, addFiles_eq]
  exact (sound_classEntries t root _).addPackages fun p hp => path_ne_of_mem_packages hp

theorem all_collect (t : FileTree) (root : Path) (exclude : List String) (paths : List Path)
    (x : ClassIndex) :
    (collect t root exclude paths x).entries.All
    (ClassOf t (paths.flatMap (filesOf t root exclude))) := by
  have h := sound_collect t root exclude paths x
  exact fun p hp => h.classOf ((Table.find?_eq_some_iff_mem h.nodup).2 hp)

/-- A plain key of an index is the name of its class and a dotted one the module path and the name;
the class is one of a file that was read. The packages change nothing that the files gave, and what
a package adds is under its own path. -/
theorem collect_keys (t : FileTree) (root : Path) (exclude : List String) (paths : List Path)
    (x : ClassIndex) :
    let files := paths.flatMap (filesOf t root exclude)
    let (given, packages) := addFiles t root files []
    let entries := (collect t root exclude paths x).entries
    entries.keys.Nodup ∧
      (∀ k e, entries.find? k = some e →
        (isDotted k = false → k = e.name) ∧
          (isDotted k = true → e.modulePath ≠ "" ∧ k = e.modulePath ++ "." ++ e.name) ∧
            ClassOf t files e) ∧
      (∀ k e, given.find? k = some e → entries.find? k = some e) ∧
      ∀ done p rest, packages = done ++ p :: rest →
        let before := done.foldl addPackage given
        ∀ k e, (addPackage before p).find? k = some e →
          before.find? k = some e ∨ before.find? k = none ∧ e.modulePath = p.path ∧
            k = p.path ++ "." ++ e.name := by
  intro files
  rw [addFiles_eq]
  have h := sound_collect t root exclude paths x
  refine ⟨h.nodup, fun k e hk => ⟨fun hplain => ?_, fun hdotted => ?_, h.classOf hk⟩,
    fun k e hk => ?_, ?_⟩
  · exact (h.isKey hk).eq_name (isDotted_eq_false_iff.1 hplain)
  · exact (h.isKey hk).eq_dotted (h.undotted hk) hdotted
  · rw [collect, addFiles_eq]
    exact find?_addPackages_of_some hk
  · intro done p rest hpackages before k e hk
    have hpath : ∀ p' ∈ done ++ p :: rest, p'.path ≠ "" :=
      fun p' hp' => path_ne_of_mem_packages (hpackages ▸ hp')
    have hbefore : Sound t files before :=
      (sound_classEntries t root files).addPackages fun p' hp' => hpath p' (by simp [hp'])
    exact hbefore.added_of_find?_addPackage (hpath p (by simp)) hk

end TypedTemplate.ClassIndex
