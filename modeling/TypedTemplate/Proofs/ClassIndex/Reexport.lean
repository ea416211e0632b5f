import TypedTemplate.Proofs.ClassIndex.Conflicts
import TypedTemplate.Proofs.ClassSource.Walk
import TypedTemplate.Proofs.ClassIndex.Order

/-! What packages make known of other modules. A name that a package imports becomes a key below its
path, with the class that the first request for the name finds: by the module that the request
spells, among all that is known by then, or else by the plain name alone. The request spells the
module right where the import has at most one leading dot; more dots count as one, a second name
after the first is not looked at, and dots without a name ask for nothing. -/
namespace TypedTemplate.ClassIndex
open ClassSource

def ancestor? : Nat → String → Option String
  | 0, package => some package
  | k + 1, package =>
    (Text.cutLast? '.' package.toList).bind fun cut => ancestor? k (String.ofList cut.1)

theorem length_ancestor?_le {k : Nat} {package base : String}
    (h : ancestor? k package = some base) :
    base.toList.length + k ≤ package.toList.length := by
  induction k generalizing package with
  | zero =>
    obtain rfl : package = base := Option.some.inj h
    exact Nat.le_refl _
  | succ k ih =>
    obtain ⟨⟨front, back⟩, hcut, hbase⟩ := Option.bind_eq_some_iff.1 h
    have hlen := congrArg List.length (Text.cutLast?_eq_append hcut)
    have hfront := ih hbase
    simp only [String.toList_ofList, List.length_append, List.length_cons] at hlen hfront
    omega

namespace PackageImport

/-- The module that an import names. One leading dot stands for the package, each further one for
the package above. -/
def module? (package : String) (i : PackageImport) : Option String :=
  match i.level with
  | 0 => i.source
  | k + 1 => (ancestor? k package).map fun base => i.source.elim base fun s => base ++ "." ++ s

/-- The module that the requests of an import name. -/
def spelled? (package : String) (i : PackageImport) : Option String :=
  i.source.map fun s => if i.level > 0 then package ++ "." ++ s else s

theorem spelled?_eq_iff {package m : String} {i : PackageImport} (hm : i.module? package = some m) :
    i.spelled? package = some m ↔ i.source ≠ none ∧ i.level ≤ 1 := by
  cases hs : i.source with
  | none => simp [spelled?, hs]
  | some s =>
    rw [module?, hs] at hm
    rw [spelled?, hs]
    cases hl : i.level with
    | zero => simpa [hl] using hm
    | succ k =>
      rw [hl] at hm
      obtain ⟨base, hbase, rfl⟩ := Option.map_eq_some_iff.1 hm
      have hlen := length_ancestor?_le hbase
      simp only [Option.map_some, gt_iff_lt, Nat.zero_lt_succ, if_true, Option.some.injEq,
        Option.elim_some, String.append_left_inj, ne_eq, reduceCtorEq, not_false_eq_true, true_and]
      constructor
      · rintro rfl
        omega
      · intro hk
        obtain rfl : k = 0 := by omega
        exact Option.some.inj hbase

theorem mem_requests_of_spelled {package m : String} {i : PackageImport} {n : PlainName}
    {other : Option PlainName}
    (h : i.spelled? package = some m) (hn : (n, other) ∈ i.names) :
    ⟨package, m, n⟩ ∈ i.requests package := by
  obtain ⟨s, hs, rfl⟩ := Option.map_eq_some_iff.1 h
  rw [requests, hs]
  exact List.mem_map.2 ⟨(n, other), hn, rfl⟩

end PackageImport

/-- The classes that are known after some requests. -/
def served (given : Table ClassEntry) (before : List Request) : Table ClassEntry :=
  before.foldl (fun es r => r.serve es) given

namespace Request

def Supplies (given : Table ClassEntry) (package name : String) (r : Request) : Prop :=
  r.package = package ∧ ∃ e, r.AsksFor given e ∧ e.name = name

/-- The class that a request finds for a name. -/
def taken? (r : Request) (es : Table ClassEntry) (name : String) : Option ClassEntry :=
  if r.name.text = "*" then es.find? name else (es.find? (r.source ++ "." ++ name)).or
    (es.find? name)

end Request

/-- The first request that supplies a name, behind some others. -/
def First (given : Table ClassEntry) (rs : List Request) (package name : String)
    (before : List Request) (r : Request) :
    Prop :=
  (∃ after, rs = before ++ r :: after) ∧ r.Supplies given package name ∧
    ∀ q ∈ before, ¬ q.Supplies given package name

section First

variable {given : Table ClassEntry} {rs before : List Request} {package name : String}
  {q r : Request}

theorem first_cons_of_supplies (h : q.Supplies given package name) :
    First given (q :: rs) package name before r ↔ before = [] ∧ r = q := by
  constructor
  · rintro ⟨⟨after, hsplit⟩, hr, hbefore⟩
    cases before with
    | nil => exact ⟨rfl, (List.cons.inj hsplit).1.symm⟩
    | cons q' before =>
      obtain ⟨rfl, -⟩ := List.cons.inj hsplit
      exact absurd h (hbefore q (by simp))
  · rintro ⟨rfl, rfl⟩
    exact ⟨⟨rs, rfl⟩, h, by simp⟩

theorem first_cons_of_not_supplies (h : ¬ q.Supplies given package name) :
    First given (q :: rs) package name before r ↔
      ∃ before', before = q :: before' ∧ First given rs package name before' r := by
  constructor
  · rintro ⟨⟨after, hsplit⟩, hr, hbefore⟩
    cases before with
    | nil =>
      obtain ⟨rfl, -⟩ := List.cons.inj hsplit
      exact absurd hr h
    | cons q' before =>
      obtain ⟨rfl, rfl⟩ := List.cons.inj hsplit
      exact ⟨before, rfl, ⟨after, rfl⟩, hr, fun q' hq' => hbefore q' (by simp [hq'])⟩
  · rintro ⟨before', rfl, ⟨after, rfl⟩, hr, hbefore⟩
    exact ⟨⟨after, rfl⟩, hr, by simpa [h] using hbefore⟩

theorem exists_first (hq : q ∈ rs) (h : q.Supplies given package name) :
    ∃ before r, First given rs package name before r := by
  induction rs with
  | nil => cases hq
  | cons q' rs ih =>
    by_cases hq' : q'.Supplies given package name
    · exact ⟨[], q', (first_cons_of_supplies hq').2 ⟨rfl, rfl⟩⟩
    · have hmem : q ∈ rs := (List.mem_cons.1 hq).resolve_left fun heq => hq' (heq ▸ h)
      obtain ⟨before, r, hfirst⟩ := ih hmem
      exact ⟨q' :: before, r, (first_cons_of_not_supplies hq').2 ⟨before, rfl, hfirst⟩⟩

end First

section Serving

variable {t : FileTree} {root : Path} {files : List Path} {given es : Table ClassEntry}
  {package name : String} {r : Request}

theorem grown_classEntries (t : FileTree) (root : Path) (files : List Path) :
    Grown (classEntries t root files) (classEntries t root files) where
  plain _ := rfl
  known h := exists_find?_classEntries (mem_of_find?_classEntries h).1 (.inl rfl)

theorem Grown.serve (h : Grown given es) (hes : Sound t files es) (r : Request) :
    Grown given (r.serve es) where
  plain {k} hk := by
    rw [← h.plain hk]
    refine Option.ext fun e => (Request.find?_serve_eq_some_iff hes.nodup).trans (or_iff_left ?_)
    rintro ⟨-, q, -, rfl, -⟩
    exact hk (by simp)
  known hk := by
    rcases (Request.find?_serve_eq_some_iff hes.nodup).1 hk with hk | ⟨-, q, hq, -, rfl⟩
    · exact h.known hk
    · obtain ⟨k', hk'⟩ := (hes.of_mem_found hq).2
      obtain ⟨e₀, he₀⟩ := h.known hk'
      exact ⟨e₀, he₀⟩

variable (hes : Sound t files es) (hgiven : Sound t files given) (hgrown : Grown given es)
include hes hgrown

theorem exists_taken? (hname : '.' ∉ name.toList) (h : r.Supplies given package name) :
    ∃ e, r.taken? es name = some e ∧ (name, e) ∈ r.found es := by
  obtain ⟨-, e₀, ⟨hfind, hasked⟩, rfl⟩ := h
  have hplain : es.find? e₀.name = some e₀ := by rw [hgrown.plain hname, hfind]
  by_cases hr : r.name.text = "*"
  · rw [if_pos hr] at hasked
    exact ⟨e₀, by rw [Request.taken?, if_pos hr, hplain],
      (mem_found_all hes.nodup hr).2 ⟨hplain, hasked, hname⟩⟩
  · rw [if_neg hr] at hasked
    obtain ⟨e, he⟩ : ∃ e, (es.find? (r.source ++ "." ++ e₀.name)).or (es.find? e₀.name) =
      some e := by
      rw [hplain]
      cases es.find? (r.source ++ "." ++ e₀.name) <;> simp
    exact ⟨e, by rw [Request.taken?, if_neg hr, he], (mem_found_name hr).2 ⟨hasked, hasked ▸ he⟩⟩

include hgiven in
theorem find?_serve_of_not_supplies (hname : '.' ∉ name.toList)
    (h : ¬ r.Supplies given package name) :
    (r.serve es).find? (package ++ "." ++ name) = es.find? (package ++ "." ++ name) := by
  refine Option.ext fun e => (Request.find?_serve_eq_some_iff hes.nodup).trans (or_iff_left ?_)
  rintro ⟨-, q, hq, hkey, -⟩
  obtain ⟨hown, k', hk'⟩ := hes.of_mem_found hq
  have hundotted : '.' ∉ q.1.toList := hown ▸ hes.undotted hk'
  obtain ⟨rfl, rfl⟩ := dotted_inj hname hundotted hkey
  refine h ⟨rfl, ?_⟩
  by_cases hr : r.name.text = "*"
  · obtain ⟨hfind, hsource, -⟩ := (mem_found_all hes.nodup hr).1 hq
    rw [hgrown.plain hundotted, hown] at hfind
    exact ⟨q.2, ⟨hfind, by rwa [if_pos hr]⟩, hown.symm⟩
  · obtain ⟨e₀, he₀⟩ := hgrown.known hk'
    have hname₀ : q.2.name = e₀.name := (hgiven.isKey he₀).eq_name (hes.undotted hk')
    refine ⟨e₀, ⟨hname₀ ▸ he₀, ?_⟩, (hown.trans hname₀).symm⟩
    rw [if_neg hr, ← hname₀, ← hown]
    exact ((mem_found_name hr).1 hq).1

end Serving

section Run

variable {t : FileTree} {root : Path} {files : List Path} {given es : Table ClassEntry}
  {package name : String} {rs : List Request} {e : ClassEntry}

theorem find?_served_iff (hgiven : Sound t files given) (hes : Sound t files es)
    (hgrown : Grown given es) (hrs : ∀ r ∈ rs, r.package ≠ "") (hname : '.' ∉ name.toList) :
    (served es rs).find? (package ++ "." ++ name) = some e ↔
      es.find? (package ++ "." ++ name) = some e ∨ es.find? (package ++ "." ++ name) = none ∧
        ∃ before r, First given rs package name before r ∧
          ∃ e₀, r.taken? (served es before) name = some e₀ ∧
            e = { e₀ with modulePath := package } := by
  induction rs generalizing es with
  | nil =>
    refine (or_iff_left ?_).symm
    rintro ⟨-, before, r, ⟨⟨after, hsplit⟩, -⟩, -⟩
    simp at hsplit
  | cons q rs ih =>
    have hq : q.package ≠ "" := hrs q (by simp)
    have ih := ih (hes.serve hq) (hgrown.serve hes q) fun r hr => hrs r (by simp [hr])
    change (served (q.serve es) rs).find? (package ++ "." ++ name) = some e ↔ _
    by_cases hsupplies : q.Supplies given package name
    · cases hold : es.find? (package ++ "." ++ name) with
      | some e' =>
        have hkept : (served (q.serve es) rs).find? (package ++ "." ++ name) = some e' :=
          find?_serveAll_of_some (by rw [Request.find?_serve, hold, Option.some_or])
        simp [hkept]
      | none =>
        obtain ⟨e₀, htaken, hmem⟩ := exists_taken? hes hgrown hname hsupplies
        have hkept : (served (q.serve es) rs).find? (package ++ "." ++ name) = some
          { e₀ with modulePath := package } := by
          refine find?_serveAll_of_some
            ((Request.find?_serve_eq_some_iff hes.nodup).2 (.inr ⟨hold, _, hmem, ?_⟩))
          rw [hsupplies.1]
          exact ⟨rfl, rfl⟩
        rw [hkept]
        constructor
        · intro he
          exact .inr ⟨rfl, [], q, (first_cons_of_supplies hsupplies).2 ⟨rfl, rfl⟩, e₀, htaken,
            (Option.some.inj he).symm⟩
        · rintro (he | ⟨-, before, r, hfirst, e₁, htaken', rfl⟩)
          · cases he
          · obtain ⟨rfl, rfl⟩ := (first_cons_of_supplies hsupplies).1 hfirst
            obtain rfl : e₀ = e₁ := Option.some.inj (htaken.symm.trans htaken')
            rfl
    · rw [ih, find?_serve_of_not_supplies hes hgiven hgrown hname hsupplies]
      refine or_congr_right (and_congr_right fun _ => ?_)
      constructor
      · rintro ⟨before, r, hfirst, hfound⟩
        exact ⟨q :: before, r, (first_cons_of_not_supplies hsupplies).2 ⟨before, rfl, hfirst⟩,
          hfound⟩
      · rintro ⟨before, r, hfirst, hfound⟩
        obtain ⟨before', rfl, hrest⟩ := (first_cons_of_not_supplies hsupplies).1 hfirst
        exact ⟨before', r, hrest, hfound⟩

end Run

section Files

variable {t : FileTree} {root : Path} {files : List Path}

theorem package_ne_of_mem_requests {r : Request} (h : r ∈ requests t root files) :
    r.package ≠ "" := by
  obtain ⟨p, hp, hr⟩ := List.mem_flatMap.1 h
  rw [package_eq_of_mem_requests hr]
  exact path_ne_of_mem_packages hp

theorem moduleOf?_of_package? {file : Path} {p : Package} (h : package? t root file = some p) :
    moduleOf? root file = some p.path := by
  rw [package?, addFile] at h
  split at h
  · next body relative _ hrelative =>
    dsimp only at h
    split at h
    · cases h
      rw [moduleOf?, hrelative]
      rfl
    · cases h
  · cases h

end Files

section TopLevel

/-- The names of the classes that a file defines at its top. -/
def topNames (t : FileTree) (file : Path) : List String :=
  ((statements? t file).getD []).filterMap Stmt.className?

theorem recorded_of_topNames {t : FileTree} {file : Path} {n : String}
    (hwritable : ∀ s ∈ sourceOf t file, s.isUnwritable = false) (h : n ∈ topNames t file) :
    n ∈ recordedNames t file := by
  rw [recordedNames, List.takeWhile_eq_self_iff.2 fun s hs => by simp [hwritable s hs]]
  obtain ⟨s, hs, hname⟩ := List.mem_filterMap.1 h
  exact List.mem_filterMap.2 ⟨s, Stmt.mem_walk_iff.2 (.here hs), hname⟩

end TopLevel

section Statements

variable {t : FileTree} {root : Path} {files : List Path} {given es : Table ClassEntry}

theorem Grown.served (h : Grown given es) (hes : Sound t files es) {rs : List Request}
    (hrs : ∀ r ∈ rs, r.package ≠ "") :
    Grown given (served es rs) := by
  induction rs generalizing es with
  | nil => exact h
  | cons q rs ih =>
    exact ih (h.serve hes q) (hes.serve (hrs q (by simp))) fun r hr => hrs r (by simp [hr])

theorem file_of_taken? (h : DistinctModules root files) {f : Path} {m package name : String}
    {before : List Request}
    {r : Request} {e : ClassEntry} (hf : f ∈ files) (hm : moduleOf? root f = some m)
    (hname : name ∈ recordedNames t f)
    (hbefore : ∀ q ∈ before, q.package ≠ "")
    (hr : r.Supplies (classEntries t root files) package name)
    (hsource : r.source = m)
    (he : r.taken? (served (classEntries t root files) before) name = some e) : e.file = f := by
  obtain ⟨-, e₀, ⟨hfind, hasked⟩, rfl⟩ := hr
  have hsound := sound_classEntries t root files
  rw [Request.taken?] at he
  by_cases hall : r.name.text = "*"
  · rw [if_pos hall, ((grown_classEntries t root files).served hsound hbefore).plain
      (hsound.undotted hfind), hfind] at he
    rw [if_pos hall, hsource] at hasked
    obtain rfl : e₀ = e := Option.some.inj he
    obtain ⟨file, hfile, hentry⟩ := List.mem_flatMap.1 (mem_of_find?_classEntries hfind).1
    obtain ⟨relative, hrelative, o, -, rfl⟩ := mem_fileEntries.1 hentry
    refine h.inj file hfile f hf ?_
    rw [hm, ← hasked]
    exact congrArg (Option.map modulePath) hrelative
  · obtain ⟨e₁, he₁, -, hfile⟩ := h.find?_dotted hf hm hname
    have hserved : (served (classEntries t root files) before).find? (m ++ "." ++ e₀.name) =
      some e₁ :=
      find?_serveAll_of_some he₁
    rw [if_neg hall, hsource, hserved, Option.some_or] at he
    rw [← Option.some.inj he, hfile]

end Statements

section Gathered

variable {t : FileTree} {root : Path} {files : List Path} {k package name : String} {e : ClassEntry}

def gathered (t : FileTree) (root : Path) (files : List Path) : Table ClassEntry :=
  served (classEntries t root files) (requests t root files)

theorem entries_collect (t : FileTree) (root : Path) (exclude : List String) (paths : List Path)
    (x : ClassIndex) :
    (collect t root exclude paths x).entries = gathered t root
    (paths.flatMap (filesOf t root exclude)) :=
  collect_eq t root exclude paths x

theorem sound_gathered (t : FileTree) (root : Path) (files : List Path) :
    Sound t files (gathered t root files) :=
  (sound_classEntries t root files).serveAll fun _ hr => package_ne_of_mem_requests hr

theorem grown_gathered (t : FileTree) (root : Path) (files : List Path) :
    Grown (classEntries t root files) (gathered t root files) :=
  (grown_classEntries t root files).served (sound_classEntries t root files) fun _ hr =>
    package_ne_of_mem_requests hr

theorem find?_gathered_of_given (h : (classEntries t root files).find? k = some e) :
    (gathered t root files).find? k = some e :=
  find?_serveAll_of_some h

theorem find?_gathered_dotted_iff (hname : '.' ∉ name.toList) :
    (gathered t root files).find? (package ++ "." ++ name) = some e ↔
      (classEntries t root files).find? (package ++ "." ++ name) = some e ∨
        (classEntries t root files).find? (package ++ "." ++ name) = none ∧
          ∃ before r, First (classEntries t root files) (requests t root files) package name before
            r ∧ ∃ e₀, r.taken? (served (classEntries t root files) before) name = some e₀ ∧
              e = { e₀ with modulePath := package } :=
  find?_served_iff (sound_classEntries t root files) (sound_classEntries t root files)
    (grown_classEntries t root files) (fun _ hr => package_ne_of_mem_requests hr) hname

theorem exists_gathered_dotted_iff (hname : '.' ∉ name.toList) (hpackage : package ≠ "") :
    (∃ e, (gathered t root files).find? (package ++ "." ++ name) = some e) ↔
      (∃ f ∈ files, moduleOf? root f = some package ∧ name ∈ recordedNames t f) ∨
        ∃ q ∈ requests t root files, q.Supplies (classEntries t root files) package name := by
  rw [← exists_find?_dotted_iff hname hpackage]
  constructor
  · rintro ⟨e, he⟩
    rcases (find?_gathered_dotted_iff hname).1 he
      with hgiven | ⟨-, before, r, ⟨⟨after, hsplit⟩, hr, -⟩, -⟩
    · exact .inl ⟨e, hgiven⟩
    · exact .inr ⟨r, hsplit ▸ List.mem_append_right _ List.mem_cons_self, hr⟩
  · rintro (⟨e, he⟩ | ⟨q, hq, hsupplies⟩)
    · exact ⟨e, find?_gathered_of_given he⟩
    · obtain ⟨before, r, hfirst⟩ := exists_first hq hsupplies
      have hbefore : ∀ q ∈ before, q.package ≠ "" := by
        obtain ⟨after, hsplit⟩ := hfirst.1
        exact fun q hq => package_ne_of_mem_requests (hsplit ▸ List.mem_append_left _ hq)
      have hsound := sound_classEntries t root files
      obtain ⟨e, he, -⟩ := exists_taken? (hsound.serveAll hbefore)
        ((grown_classEntries t root files).served hsound hbefore) hname hfirst.2.1
      cases hgiven : (classEntries t root files).find? (package ++ "." ++ name) with
      | some e' => exact ⟨e', find?_gathered_of_given hgiven⟩
      | none =>
        exact ⟨_,
          (find?_gathered_dotted_iff hname).2 (.inr ⟨hgiven, before, r, hfirst, e, he, rfl⟩)⟩

end Gathered

section Collected

variable {t : FileTree} {root : Path} {exclude : List String} {paths : List Path}

theorem find?_collect_dotted_iff (x : ClassIndex) {package name : String}
    (hname : '.' ∉ name.toList) {e : ClassEntry} :
    let given := classEntries t root (paths.flatMap (filesOf t root exclude))
    (collect t root exclude paths x).entries.find? (package ++ "." ++ name) = some e ↔
      given.find? (package ++ "." ++ name) = some e ∨ given.find? (package ++ "." ++ name) = none ∧
        ∃ before r, First given (requests t root (paths.flatMap (filesOf t root exclude))) package
          name before r ∧
          ∃ e₀, r.taken? (served given before) name = some e₀ ∧
            e = { e₀ with modulePath := package } := by
  rw [entries_collect]
  exact find?_gathered_dotted_iff hname

theorem exists_collect_file_iff (x : ClassIndex) {package name : String} (hname : '.' ∉ name.toList)
    {f : Path} :
    let given := classEntries t root (paths.flatMap (filesOf t root exclude))
    (∃ e, (collect t root exclude paths x).entries.find? (package ++ "." ++ name) = some e ∧
      e.file = f) ↔
      ∃ e, e.file = f ∧ (given.find? (package ++ "." ++ name) = some e ∨
        given.find? (package ++ "." ++ name) = none ∧
        ∃ before r, First given (requests t root (paths.flatMap (filesOf t root exclude))) package
          name before r ∧ r.taken? (served given before) name = some e) := by
  intro given
  constructor
  · rintro ⟨e, he, hfile⟩
    rcases (find?_collect_dotted_iff x hname).1 he with hgiven | ⟨hnone, before, r, hfirst, e₀, he₀,
      rfl⟩
    · exact ⟨e, hfile, .inl hgiven⟩
    · exact ⟨e₀, hfile, .inr ⟨hnone, before, r, hfirst, he₀⟩⟩
  · rintro ⟨e, hfile, hgiven | ⟨hnone, before, r, hfirst, he⟩⟩
    · exact ⟨e, (find?_collect_dotted_iff x hname).2 (.inl hgiven), hfile⟩
    · exact ⟨{ e with modulePath := package },
        (find?_collect_dotted_iff x hname).2 (.inr ⟨hnone, before, r, hfirst, e, he, rfl⟩), hfile⟩

theorem find?_package_eq_none {files : List Path} (h : DistinctModules root files) {init : Path}
    {p : Package}
    (hinit : init ∈ files) (hp : package? t root init = some p) {n : PlainName}
    (hown : n.text ∉ definedNames t init) :
    (classEntries t root files).find? (p.path ++ "." ++ n.text) = none := by
  refine Option.eq_none_iff_forall_ne_some.2 fun e he => ?_
  obtain ⟨-, hfile, hmodule, hname⟩ := recorded_of_find?_dotted n.undotted he
  obtain rfl := h.inj _ hfile init hinit (hmodule.trans (moduleOf?_of_package? hp).symm)
  exact hown (definedNames_of_recorded hname)

theorem supplies_of_recorded {files : List Path} (h : DistinctModules root files) {f : Path}
    {m : String}
    (hf : f ∈ files) (hfm : moduleOf? root f = some m) {n : PlainName} (hstar : n.text ≠ "*")
    (hrecorded : n.text ∈ recordedNames t f) (package : String) :
    Request.Supplies (classEntries t root files) package n.text ⟨package, m, n⟩ := by
  obtain ⟨e, he, hname, -⟩ := h.find?_dotted hf hfm hrecorded
  obtain ⟨e₀, he₀⟩ := (grown_classEntries t root files).known he
  rw [hname] at he₀
  have hname₀ : n.text = e₀.name := ((sound_classEntries t root files).isKey he₀).eq_name n.undotted
  exact ⟨rfl, e₀, ⟨hname₀ ▸ he₀, by rw [if_neg hstar]; exact hname₀.symm⟩, hname₀.symm⟩

/-- An import in a package, of a class that a file defines at its top. The key of the imported
name has a class of that file exactly if a file with the path of the package gives it or else the
first request that supplies the name takes it, by the module that it spells or by the plain name.
The import spells its module right exactly if it names one and has at most one leading dot. If so,
the key has a class of the file, provided that there is no second name, no import comes first with
another module, the files have distinct module paths and the classes of the file can be written
out. -/
theorem reexport_iff (x : ClassIndex) {init f : Path} {p : Package} {i : PackageImport}
    {n : PlainName}
    {other : Option PlainName} {m : String} (hinit : init ∈ paths.flatMap (filesOf t root exclude))
    (hp : package? t root init = some p) (hi : i ∈ p.imports) (hn : (n, other) ∈ i.names)
    (hstar : n.text ≠ "*")
    (hm : i.module? p.path = some m) (hf : f ∈ paths.flatMap (filesOf t root exclude))
    (hfm : moduleOf? root f = some m)
    (hdefined : n.text ∈ topNames t f) (hown : (other.getD n).text ∉ definedNames t init) :
    let files := paths.flatMap (filesOf t root exclude)
    let given := classEntries t root files
    let rs := requests t root files
    let name := (other.getD n).text
    let Right := ∃ e, (collect t root exclude paths x).entries.find? (p.path ++ "." ++ name) =
      some e ∧ e.file = f
    (Right ↔ ∃ e, e.file = f ∧ (given.find? (p.path ++ "." ++ name) = some e ∨
      given.find? (p.path ++ "." ++ name) = none ∧ ∃ before r, First given rs p.path name before r ∧
        r.taken? (served given before) name = some e)) ∧
    (i.spelled? p.path = some m ↔ i.source ≠ none ∧ i.level ≤ 1) ∧
    (DistinctModules root files → (∀ s ∈ sourceOf t f, s.isUnwritable = false) → other = none →
      i.spelled? p.path = some m →
        (∀ before r, First given rs p.path name before r → r.source = m) → Right) := by
  intro files given rs name Right
  have hright :=
    @exists_collect_file_iff t root exclude paths x p.path name (other.getD n).undotted f
  refine ⟨hright, PackageImport.spelled?_eq_iff hm, ?_⟩
  rintro hdistinct hwritable rfl hspelled hsource
  have hrecorded := recorded_of_topNames hwritable hdefined
  have hasks : (⟨p.path, m, n⟩ : Request) ∈ rs :=
    List.mem_flatMap.2 ⟨p, List.mem_filterMap.2 ⟨init, hinit, hp⟩, List.mem_flatMap.2 ⟨i, hi,
      PackageImport.mem_requests_of_spelled hspelled hn⟩⟩
  obtain ⟨before, r, hfirst⟩ :=
    exists_first hasks (supplies_of_recorded hdistinct hf hfm hstar hrecorded p.path)
  have hbefore : ∀ q ∈ before, q.package ≠ "" := by
    obtain ⟨after, hsplit⟩ := hfirst.1
    intro q hq
    refine package_ne_of_mem_requests (show q ∈ rs from ?_)
    rw [hsplit]
    exact List.mem_append_left _ hq
  have hsound := sound_classEntries t root files
  obtain ⟨e, he, -⟩ := exists_taken? (hsound.serveAll hbefore)
    ((grown_classEntries t root files).served hsound hbefore) n.undotted hfirst.2.1
  have hfile : e.file = f :=
    file_of_taken? hdistinct hf hfm hrecorded hbefore hfirst.2.1 (hsource before r hfirst) he
  exact hright.2
    ⟨e, hfile, .inr ⟨find?_package_eq_none hdistinct hinit hp hown, before, r, hfirst, he⟩⟩

end Collected

def storeTree : FileTree :=
  ⟨[(["p"], .dir 0), (["p", "store"], .dir 0),
    (["p", "store", "__init__.py"], .file (Text.Utf8.encode "from .user import User\n") 0),
    (["p", "store", "user.py"], .file (Text.Utf8.encode "class User:\n    name: str\n") 0),
    (["p", "admin.py"], .file (Text.Utf8.encode "class User:\n    level: int\n") 0)], ["p"]⟩

def storePaths : List Path :=
  [.relative ["store", "__init__.py"], .relative ["store", "user.py"], .relative ["admin.py"]]

def importsFrom (name module : String) (p : Package) : Bool :=
  p.imports.any fun i => i.module? p.path == some module && i.names.any fun n => n.1.text == name &&
    n.2.isNone

theorem of_importsFrom {name module : String} {p : Package} (h : importsFrom name module p = true) :
    ∃ i ∈ p.imports, i.module? p.path = some module ∧ ∃ n, n.text = name ∧ (n, none) ∈ i.names := by
  obtain ⟨i, hi, h⟩ := List.any_eq_true.1 h
  simp only [Bool.and_eq_true, beq_iff_eq, List.any_eq_true, Option.isNone_iff_eq_none] at h
  obtain ⟨hmodule, ⟨n, other⟩, hn, hname, rfl⟩ := h
  exact ⟨i, hi, hmodule, n, hname, hn⟩

theorem reexport_iff_store :
    let files := storePaths.flatMap (filesOf storeTree .here [])
    let f := Path.relative ["store", "user.py"]
    ∃ p, package? storeTree .here (.relative ["store", "__init__.py"]) = some p ∧ p.path = "store" ∧
      (∃ i ∈ p.imports, i.module? "store" = some "store.user" ∧ ∃ n, n.text = "User" ∧
        (n, none) ∈ i.names) ∧
      moduleOf? .here f = some "store.user" ∧ "User" ∈ topNames storeTree f ∧
        DistinctModules .here files ∧
      ∃ e, (collect storeTree .here [] storePaths .empty).entries.find? "store.User" = some e ∧
        e.file = f := by
  intro files f
  have hpackage : (package? storeTree .here (.relative ["store", "__init__.py"])).any (fun p =>
      p.path == "store" && importsFrom "User" "store.user" p && p.imports.all fun i =>
        i.spelled? "store" == some "store.user") = true := by
    decide +kernel
  have hsources : (Path.relative ["store", "__init__.py"] ∈ files ∧ f ∈ files) ∧
    moduleOf? .here f = some "store.user" ∧
      "User" ∈ topNames storeTree f ∧
        "User" ∉ definedNames storeTree (.relative ["store", "__init__.py"]) ∧
      (∀ s ∈ sourceOf storeTree f, s.isUnwritable = false) ∧
      ∀ r ∈ requests storeTree .here files, r.source = "store.user" := by
    decide +kernel
  have hdistinct : DistinctModules .here files := ⟨by decide +kernel, by decide +kernel⟩
  obtain ⟨⟨hinit, hf⟩, hfm, hdefined, hown, hwritable, hsource⟩ := hsources
  obtain ⟨p, hp, hpackage⟩ := (Option.any_eq_true _ _).1 hpackage
  simp only [Bool.and_eq_true, beq_iff_eq, List.all_eq_true] at hpackage
  obtain ⟨⟨hpath, himports⟩, hspelled⟩ := hpackage
  obtain ⟨i, hi, hm, n, hname, hn⟩ := of_importsFrom himports
  have hright :=
    (reexport_iff .empty hinit hp hi hn (by rw [hname]; decide) hm hf hfm (hname ▸ hdefined)
    (by rw [Option.getD_none, hname]; exact hown)).2.2 hdistinct hwritable rfl
      (by rw [hpath]; exact hspelled i hi)
    fun before r hfirst => by
      obtain ⟨after, hsplit⟩ := hfirst.1
      exact hsource r (hsplit ▸ List.mem_append_right _ List.mem_cons_self)
  rw [hpath] at hm
  rw [hpath, Option.getD_none, hname] at hright
  exact ⟨p, hp, hpath, ⟨i, hi, hm, n, hname, hn⟩, hfm, hdefined, hdistinct, hright⟩

def dotsTree : FileTree :=
  ⟨[(["p"], .dir 0), (["p", "app"], .dir 0), (["p", "app", "__init__.py"], .file [] 0),
    (["p", "app", "models.py"], .file (Text.Utf8.encode "class User:\n    name: str\n") 0),
      (["p", "app", "api"], .dir 0),
    (["p", "app", "api", "__init__.py"], .file (Text.Utf8.encode "from ..models import User\n") 0),
    (["p", "app", "api", "models.py"], .file (Text.Utf8.encode "class User:\n    token: str\n") 0)],
      ["p"]⟩

def dotsPaths : List Path :=
  [.relative ["app", "__init__.py"], .relative ["app", "models.py"],
    .relative ["app", "api", "__init__.py"], .relative ["app", "api", "models.py"]]

theorem reexport_two_dots :
    let f := Path.relative ["app", "models.py"]
    ∃ p, package? dotsTree .here (.relative ["app", "api", "__init__.py"]) = some p ∧
      p.path = "app.api" ∧
      (∃ i ∈ p.imports, i.module? "app.api" = some "app.models" ∧ ∃ n, n.text = "User" ∧
        (n, none) ∈ i.names) ∧
      moduleOf? .here f = some "app.models" ∧ "User" ∈ topNames dotsTree f ∧
      "User" ∉ definedNames dotsTree (.relative ["app", "api", "__init__.py"]) ∧
      ∃ e, (collect dotsTree .here [] dotsPaths .empty).entries.find? "app.api.User" = some e ∧
        e.file ≠ f := by
  intro f
  have hsources : (package? dotsTree .here (.relative ["app", "api", "__init__.py"])).any (fun p =>
        p.path == "app.api" && importsFrom "User" "app.models" p) = true ∧
      moduleOf? .here f = some "app.models" ∧ "User" ∈ topNames dotsTree f ∧
      "User" ∉ definedNames dotsTree (.relative ["app", "api", "__init__.py"]) ∧
      ((collect dotsTree .here [] dotsPaths .empty).entries.find? "app.api.User").any
        (fun e => e.file != f) = true := by
    decide +kernel
  obtain ⟨hpackage, hfm, hdefined, hown, hentry⟩ := hsources
  obtain ⟨p, hp, hpackage⟩ := (Option.any_eq_true _ _).1 hpackage
  obtain ⟨e, he, hfile⟩ := (Option.any_eq_true _ _).1 hentry
  simp only [Bool.and_eq_true, beq_iff_eq] at hpackage
  obtain ⟨i, hi, hm, hn⟩ := of_importsFrom hpackage.2
  rw [hpackage.1] at hm
  exact ⟨p, hp, hpackage.1, ⟨i, hi, hm, hn⟩, hfm, hdefined, hown, e, he, by simpa using hfile⟩

end TypedTemplate.ClassIndex
