import TypedTemplate.ClassIndex.Register
import TypedTemplate.Proofs.ClassIndex.Keys

/-! What a registry keeps of an index. Entries are first put under their module paths, one after the
other; then whole tables are put in for the stems of the files and the plain module paths. A table
that is replaced so lists every entry that it had, and where no stem has a dot, the table of a
dotted module path stays as it is. -/
namespace TypedTemplate.ClassIndex

section DottedKeys

variable {t : FileTree} {files : List Path} {es : Table ClassEntry}

def dottedName (e : ClassEntry) : String := e.modulePath ++ "." ++ e.name

/-- An entry of a named module is found under its dotted name, whatever key it was found under. -/
def Dotted (es : Table ClassEntry) : Prop :=
  ∀ k e, es.find? k = some e → e.modulePath ≠ "" → es.find? (dottedName e) = some e

theorem dotted_classEntries (t : FileTree) (root : Path) (files : List Path) :
    Dotted (classEntries t root files) := by
  intro k e hk hpath
  have hlist : ∀ k, (classEntries t root files).find? k =
      (files.flatMap (fileEntries t root)).reverse.find? fun e => IsKey k e := by
    intro k
    rw [classEntries, find?_foldl_addEntry]
    exact Option.or_none
  have hundotted : ∀ b ∈ (files.flatMap (fileEntries t root)).reverse, '.' ∉ b.name.toList :=
    fun b hb => (classOf_of_mem_fileEntries (List.mem_reverse.1 hb)).undotted
  rw [hlist, List.find?_eq_some_iff_append] at hk
  obtain ⟨hkey, later, earlier, hsplit, hlater⟩ := hk
  rw [hlist, List.find?_eq_some_iff_append]
  refine ⟨decide_eq_true (.inr ⟨hpath, rfl⟩), later, earlier, hsplit, fun b hb => ?_⟩
  -- a later class with the dotted name would have the other key as well
  have hb' := hundotted b (hsplit ▸ List.mem_append_left _ hb)
  have he := hundotted e (hsplit ▸ List.mem_append_right _ List.mem_cons_self)
  have hnot : ¬ IsKey k b := by simpa using hlater b hb
  simp only [Bool.not_eq_true', decide_eq_false_iff_not]
  intro hkey'
  obtain ⟨hmodule, hname⟩ := dotted_inj he hb' (hkey'.eq_dotted hb' (isDotted_append _ _)).2
  refine hnot ?_
  rw [IsKey, ← hmodule, ← hname]
  exact of_decide_eq_true hkey

theorem Dotted.serve (hd : Dotted es) (h : Sound t files es) (r : Request) :
    Dotted (r.serve es) := by
  intro k e hk hpath
  rcases (Request.find?_serve_eq_some_iff h.nodup).1 hk with hold | ⟨-, q, hq, rfl, rfl⟩
  · exact (Request.find?_serve_eq_some_iff h.nodup).2 (.inl (hd k e hold hpath))
  · rwa [(h.of_mem_found hq).1] at hk

theorem dotted_collect (t : FileTree) (root : Path) (exclude : List String) (paths : List Path)
    (x : ClassIndex) :
    Dotted (collect t root exclude paths x).entries := by
  rw [collect_eq]
  refine (List.foldlRecOn (motive := fun es => Sound t (paths.flatMap (filesOf t root exclude)) es ∧
    Dotted es) _ _
    ⟨sound_classEntries t root _, dotted_classEntries t root _⟩ fun es hes r hr => ?_).2
  have hpackage : r.package ≠ "" := by
    obtain ⟨p, hp, hr⟩ := List.mem_flatMap.1 hr
    rw [package_eq_of_mem_requests hr]
    exact path_ne_of_mem_packages hp
  exact ⟨hes.1.serve hpackage, hes.2.serve hes.1 r⟩

end DottedKeys

theorem find?_definitions (es : Table ClassEntry) (k : String) :
    (definitions es).find? k = (es.find? k).map fun e => definition (owner (moduleListings es) k e)
      e :=
  Table.find?_map (fun k e => definition (owner (moduleListings es) k e) e) es k

def titled (defs : Table Definition) (es : Table ClassEntry) : Table Definition :=
  es.filterMap fun p => (defs.find? p.1).map fun d => (p.2.name, d)

def filed (defs : Table Definition) (es : Table ClassEntry) : List (String × String × Definition) :=
  es.filterMap fun p =>
    if p.2.modulePath.isEmpty then none else (defs.find? p.1).map fun d =>
      (p.2.modulePath, p.2.name, d)

theorem registerEntries_eq (x : ClassIndex) (defs : Table Definition) (r : Registry) :
    registerEntries x defs r =
      { r with
        types := r.types.insertAll (titled defs x.entries)
        modules := r.modules.insertAllAt (filed defs x.entries) } := by
  rw [registerEntries]
  generalize x.entries = es
  induction es generalizing r with
  | nil => rfl
  | cons p es ih =>
    obtain ⟨k, e⟩ := p
    simp only [List.foldl_cons, ih, titled, filed, List.filterMap_cons]
    cases defs.find? k with
    | none => cases e.modulePath.isEmpty <;> rfl
    | some d => cases e.modulePath.isEmpty <;> rfl

/-- The definitions that are listed by their keys. -/
def listed (defs : Table Definition) (names : Table String) : Table Definition :=
  names.filterMap fun p => (defs.find? p.2).map fun d => (p.1, d)

theorem registerListings_eq (listings : Table (Table String)) (defs : Table Definition)
    (r : Registry) :
    registerListings listings defs r =
      { r with
        types :=
          r.types.insertAll
            (listings.flatMap fun l => (listed defs l.2).map fun p => (p.2.name, p.2))
        modules := r.modules.insertAll (listings.map fun l => (l.1, listed defs l.2)) } := by
  rw [registerListings]
  induction listings generalizing r with
  | nil => rfl
  | cons l listings ih =>
    rw [List.foldl_cons, ih]
    simp [Table.insertAll, listed, List.foldl_map, List.foldl_append]

theorem moduleListings_eq (es : Table ClassEntry) :
    moduleListings es =
      Table.insertAllAt []
        (es.flatMap fun p => (listingModules p.2).map fun m => (m, p.2.name, p.1)) := by
  rw [moduleListings, Table.insertAllAt, List.foldl_flatMap]
  simp only [List.foldl_map]
  rfl

theorem register_tables (x : ClassIndex) :
    let defs := definitions x.entries
    let listings := moduleListings x.entries
    let r := (x.register .empty).2
    r.types = (Table.insertAll [] (titled defs x.entries)).insertAll
        (listings.flatMap fun l => (listed defs l.2).map fun p => (p.2.name, p.2)) ∧
      r.modules = (Table.insertAllAt [] (filed defs x.entries)).insertAll
        (listings.map fun l => (l.1, listed defs l.2)) := by
  intro defs listings r
  have htop : ∀ (x : ClassIndex) (r : Registry),
      (importTopLevel x r).types = r.types ∧ (importTopLevel x r).modules = r.modules := by
    intro x r
    refine List.foldlRecOn (motive := fun r' => Registry.types r' = r.types ∧
      Registry.modules r' = r.modules) x.entries _ ⟨rfl, rfl⟩ fun r' hr' p _ => ?_
    dsimp only
    split <;> exact hr'
  obtain ⟨htypes, hmodules⟩ := htop x.detectConflicts
    (registerListings listings defs (registerEntries x.detectConflicts defs .empty))
  refine ⟨htypes.trans ?_, hmodules.trans ?_⟩
  · rw [registerListings_eq, registerEntries_eq]
    rfl
  · rw [registerListings_eq, registerEntries_eq]
    rfl

section Types

variable {t : Table Definition}

def Named (t : Table Definition) : Prop := ∀ n d, t.find? n = some d → d.name = n

theorem Named.insertAll (h : Named t) {u : Table Definition} (hu : ∀ p ∈ u, p.2.name = p.1) :
    Named (Table.insertAll t u) := by
  refine List.foldlRecOn (motive := Named) u _ h fun t ht p hp n d hd => ?_
  rw [Table.find?_insert] at hd
  split at hd
  · next hn =>
    cases hd
    rw [hu p hp, beq_iff_eq.1 hn]
  · exact ht n d hd

theorem exists_type_of_entry {x : ClassIndex} (hnodup : x.entries.keys.Nodup) {k : String}
    {e : ClassEntry}
    (h : x.entries.find? k = some e) : ∃ d, (x.register .empty).2.types.find? e.name = some d ∧
      d.name = e.name := by
  have hnamed : Named (x.register .empty).2.types := by
    rw [(register_tables x).1]
    have hempty : Named [] := fun _ _ hd => by cases hd
    refine (hempty.insertAll fun p hp => ?_).insertAll fun p hp => ?_
    · obtain ⟨⟨k, e⟩, hmem, hp⟩ := List.mem_filterMap.1 hp
      rw [find?_definitions, (Table.find?_eq_some_iff_mem hnodup).2 hmem] at hp
      cases hp
      rfl
    · obtain ⟨l, -, hp⟩ := List.mem_flatMap.1 hp
      obtain ⟨q, -, rfl⟩ := List.mem_map.1 hp
      rfl
  have hhas : (x.register .empty).2.types.has e.name = true := by
    have hmem : (e.name, definition (owner (moduleListings x.entries) k e) e) ∈ titled
      (definitions x.entries) x.entries := by
      refine List.mem_filterMap.2 ⟨(k, e), Table.mem_of_find? h, ?_⟩
      rw [find?_definitions, h]
      rfl
    rw [(register_tables x).1, Table.has_insertAll, Table.has_insertAll]
    exact .inl (.inr (List.mem_map_of_mem hmem))
  obtain ⟨d, hd⟩ := Option.isSome_iff_exists.1 hhas
  exact ⟨d, hd, hnamed _ _ hd⟩

end Types

section Modules

variable {es : Table ClassEntry} {defs : Table Definition} {k m : String} {e : ClassEntry}

theorem find?_listed {names : Table String} (h : names.All fun key => defs.has key = true)
    (n : String) :
    (listed defs names).find? n = (names.find? n).bind defs.find? := by
  induction names with
  | nil => rfl
  | cons p names ih =>
    obtain ⟨n', key⟩ := p
    obtain ⟨d, hd⟩ := Option.isSome_iff_exists.1 (h (n', key) List.mem_cons_self)
    have ih := ih fun p hp => h p (List.mem_cons_of_mem _ hp)
    rw [listed, List.filterMap_cons_some (b := (n', d)) (by simp [hd]), Table.find?, Table.find?,
      List.lookup_cons, List.lookup_cons]
    cases hn : n == n' with
    | true => simp [hd]
    | false => exact ih

theorem all_moduleListings (es : Table ClassEntry) :
    (moduleListings es).All fun names => names.All fun key => es.has key = true := by
  rw [moduleListings_eq]
  refine List.foldlRecOn (motive := Table.All fun names : Table String => names.All fun key =>
    es.has key = true) _ _
    (fun _ hp => nomatch hp) fun t ht q hq => Table.All.insert ht _ (Table.All.insert ?_ _ ?_)
  · cases hfind : t.find? q.1 with
    | none => exact fun _ hp => nomatch hp
    | some names => exact ht.find? hfind
  · obtain ⟨⟨k, e⟩, hmem, hq⟩ := List.mem_flatMap.1 hq
    obtain ⟨m, -, rfl⟩ := List.mem_map.1 hq
    exact Table.has_of_mem hmem

/-- The modules of the registry: whole tables for those that are listed, and for all others what was
put in for the entries. -/
theorem find?_modules_register (x : ClassIndex) (m : String) :
    (x.register .empty).2.modules.find? m =
      (((moduleListings x.entries).find? m).map (listed (definitions x.entries))).or
        ((Table.insertAllAt [] (filed (definitions x.entries) x.entries)).find? m) := by
  have hkeys :
      Table.keys
        ((moduleListings x.entries).map fun l => (l.1, listed (definitions x.entries) l.2)) =
      (moduleListings x.entries).keys := by
    simp [Table.keys]
  have hnodup : (moduleListings x.entries).keys.Nodup := by
    rw [moduleListings_eq]
    exact Table.nodup_keys_insertAllAt (t := []) List.nodup_nil _
  rw [(register_tables x).2, Table.find?_insertAll (hkeys ▸ hnodup),
    Table.find?_map fun _ names => listed (definitions x.entries) names]

theorem has_listed_of_entry {x : ClassIndex} (h : (k, e) ∈ x.entries) (hm : m ∈ listingModules e) :
    ((x.register .empty).2.moduleTypes m).has e.name = true := by
  have hlines : (m, e.name, k) ∈ x.entries.flatMap fun p => (listingModules p.2).map fun m =>
    (m, p.2.name, p.1) :=
    List.mem_flatMap.2 ⟨(k, e), h, List.mem_map_of_mem hm⟩
  obtain ⟨key, hkey⟩ := Table.exists_findIn?_insertAllAt hlines []
  rw [← moduleListings_eq, Table.findIn?] at hkey
  cases hnames : (moduleListings x.entries).find? m with
  | none =>
    rw [hnames] at hkey
    cases hkey
  | some names =>
    rw [hnames] at hkey
    have hall : names.All fun key => (definitions x.entries).has key = true := by
      intro p hp
      have hentry : x.entries.has p.2 = true := (all_moduleListings x.entries).find? hnames p hp
      change (definitions x.entries).has p.2 = true
      rwa [Table.has, find?_definitions, Option.isSome_map]
    rw [Option.getD_some] at hkey
    rw [Registry.moduleTypes, find?_modules_register, hnames, Option.map_some, Option.some_or,
      Option.getD_some, Table.has, find?_listed hall, hkey]
    exact hall.find? hkey

theorem moduleListings_dotted (hstems : ∀ e ∈ es.values, isDotted e.file.stem = false)
    (hm : isDotted m = true) :
    (moduleListings es).find? m = none := by
  rw [← Option.not_isSome_iff_eq_none]
  change ¬ (moduleListings es).has m = true
  rw [moduleListings_eq, Table.has_insertAllAt]
  rintro (hempty | ⟨q, hq, rfl⟩)
  · cases hempty
  · obtain ⟨p, hp, hq⟩ := List.mem_flatMap.1 hq
    obtain ⟨m, hlisting, rfl⟩ := List.mem_map.1 hq
    have hstem := hstems p.2 (List.mem_map_of_mem hp)
    rw [listingModules, List.mem_cons] at hlisting
    rcases hlisting with rfl | hpath
    · exact absurd hm (by simp [hstem])
    · split at hpath
      · cases hpath
      · next hplain =>
        rw [List.mem_singleton.1 hpath] at hm
        exact hplain (by simp [hm])

theorem exists_filed_of_entry {x : ClassIndex} (hnodup : x.entries.keys.Nodup)
    (hdotted : Dotted x.entries)
    (hstems : ∀ e ∈ x.entries.values, isDotted e.file.stem = false) (h : x.entries.find? k = some e)
    (hm : isDotted e.modulePath = true) :
    ∃ d e', ((x.register .empty).2.moduleTypes e.modulePath).find? e.name = some d ∧
      x.entries.find? (dottedName e) = some e' ∧ d.fields = e'.fields ∧
        d.methods = some e'.methods := by
  have hne : e.modulePath.isEmpty = false := by
    cases hempty : e.modulePath.isEmpty with
    | false => rfl
    | true =>
      rw [String.isEmpty_iff.1 hempty] at hm
      exact absurd hm (by decide)
  have hfound : ∀ n, ((x.register .empty).2.moduleTypes e.modulePath).find? n =
      Table.findIn? (Table.insertAllAt [] (filed (definitions x.entries) x.entries)) e.modulePath
        n := by
    intro n
    rw [Registry.moduleTypes, find?_modules_register, moduleListings_dotted hstems hm]
    rfl
  have hfiled : (e.modulePath, e.name, definition (owner (moduleListings x.entries) k e) e) ∈
      filed (definitions x.entries) x.entries := by
    refine List.mem_filterMap.2 ⟨(k, e), Table.mem_of_find? h, ?_⟩
    rw [find?_definitions, h, hne]
    rfl
  obtain ⟨d, hd⟩ := Table.exists_findIn?_insertAllAt hfiled []
  -- the definition may be that of another entry of the same module and name, which has the same
  -- dotted key
  obtain ⟨⟨k', e'⟩, hmem, hd'⟩ := List.mem_filterMap.1 (Table.mem_of_findIn?_insertAllAt hd)
  have hfind := (Table.find?_eq_some_iff_mem hnodup).2 hmem
  rw [find?_definitions, hfind] at hd'
  split at hd'
  · cases hd'
  · next hpath =>
    obtain ⟨hmodule, hname, rfl⟩ : e'.modulePath = e.modulePath ∧ e'.name = e.name ∧
        definition (owner (moduleListings x.entries) k' e') e' = d := by simpa using hd'
    refine ⟨_, e', (hfound e.name).trans hd, ?_, rfl, rfl⟩
    rw [dottedName, ← hmodule, ← hname]
    exact hdotted k' e' hfind (by simpa using hpath)

end Modules

/-- After an index was made known to a new registry, the name of each entry has a definition of that
name, and the table of the stem of its file and that of its module path list it, provided that no
stem has a dot. In the table of a dotted module path its definition has the fields and the methods
of the entry with the dotted key. -/
theorem register_keeps (t : FileTree) (root : Path) (exclude : List String) (paths : List Path)
    (x₀ : ClassIndex)
    (hstems : ∀ f ∈ paths.flatMap (filesOf t root exclude), isDotted f.stem = false) :
    let x := collect t root exclude paths x₀
    let r := (x.register .empty).2
    ∀ e ∈ x.entries.values,
      (∃ d, r.types.find? e.name = some d ∧ d.name = e.name) ∧
      (r.moduleTypes e.file.stem).has e.name = true ∧
      (e.modulePath ≠ "" → (r.moduleTypes e.modulePath).has e.name = true) ∧
      (isDotted e.modulePath = true →
        ∃ d e', (r.moduleTypes e.modulePath).find? e.name = some d ∧
          x.entries.find? (e.modulePath ++ "." ++ e.name) = some e' ∧ d.fields = e'.fields ∧
            d.methods = some e'.methods) := by
  intro x r e he
  have hnodup : x.entries.keys.Nodup := (sound_collect t root exclude paths x₀).nodup
  have hfiles : ∀ e ∈ x.entries.values, isDotted e.file.stem = false := by
    intro e he
    obtain ⟨p, hp, rfl⟩ := List.mem_map.1 he
    exact hstems _ (all_collect t root exclude paths x₀ p hp).1
  obtain ⟨⟨k, e⟩, hmem, rfl⟩ := List.mem_map.1 he
  have hfind := (Table.find?_eq_some_iff_mem hnodup).2 hmem
  have hfiled := exists_filed_of_entry hnodup (dotted_collect t root exclude paths x₀) hfiles hfind
  refine ⟨exists_type_of_entry hnodup hfind, has_listed_of_entry hmem List.mem_cons_self,
    fun hpath => ?_, hfiled⟩
  cases hdotted : isDotted e.modulePath with
  | true =>
    obtain ⟨d, -, hd, -⟩ := hfiled hdotted
    exact Option.isSome_iff_exists.2 ⟨d, hd⟩
  | false =>
    refine has_listed_of_entry hmem ?_
    rw [listingModules, if_neg (by simpa [hdotted] using hpath)]
    exact List.mem_cons_of_mem _ List.mem_cons_self

def namesakeTree : FileTree :=
  ⟨[(["p"], .dir 0), (["p", "user"], .dir 0), (["p", "models"], .dir 0),
    (["p", "user", "__init__.py"], .file (Text.Utf8.encode "class Token:\n    id: int\n") 0),
    (["p", "models", "user.py"], .file (Text.Utf8.encode "class User:\n    name: str\n") 0)], ["p"]⟩

def namesakePaths : List Path :=
  [.relative ["models", "user.py"], .relative ["user", "__init__.py"]]

theorem register_keeps_namesakes :
    let x := collect namesakeTree .here [] namesakePaths .empty
    let r := (x.register .empty).2
    (∀ f ∈ namesakePaths.flatMap (filesOf namesakeTree .here []), isDotted f.stem = false) ∧
      (r.moduleTypes "user").has "User" = true ∧ (r.moduleTypes "models.user").has "User" =
        true := by
  intro x r
  have hstems : ∀ f ∈ namesakePaths.flatMap (filesOf namesakeTree .here []), isDotted f.stem =
    false := by decide +kernel
  have huser : (x.entries.find? "User").any (fun e =>
      e.name == "User" && e.file.stem == "user" && e.modulePath == "models.user") = true := by
        decide +kernel
  obtain ⟨e, he, hshape⟩ := (Option.any_eq_true _ _).1 huser
  simp only [Bool.and_eq_true, beq_iff_eq] at hshape
  obtain ⟨⟨hname, hstem⟩, hpath⟩ := hshape
  obtain ⟨-, hlisted, hfiled, -⟩ :=
    register_keeps namesakeTree .here [] namesakePaths .empty hstems e
    (List.mem_map.2 ⟨_, Table.mem_of_find? he, rfl⟩)
  rw [hname, hstem] at hlisted
  rw [hname, hpath] at hfiled
  exact ⟨hstems, hlisted, hfiled (by decide)⟩

end TypedTemplate.ClassIndex
