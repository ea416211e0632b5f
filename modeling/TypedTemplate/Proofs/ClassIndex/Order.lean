import Mathlib.Data.List.Dedup
import Mathlib.Data.List.Induction
import Mathlib.Data.List.Pairwise
import TypedTemplate.Proofs.ClassIndex.Keys

/-! The order of the paths. Where no two classes of the files share a name, what is found under a
key can be told without any order: the class of the files with that key, or else the class that a
package asks for under it. -/
namespace TypedTemplate.ClassIndex
open ClassSource

/-- No two classes of the files share a name. -/
def UniqueNames (t : FileTree) (files : List Path) : Prop :=
  ∀ f ∈ files, ∀ g ∈ files, ∀ o ∈ outlines t f, ∀ o' ∈ outlines t g, o.name = o'.name → f = g ∧
    o = o'

variable {t : FileTree} {root : Path} {files : List Path} {k : String} {e e' : ClassEntry}

theorem uniqueNames_of_nodup
    (h : (files.dedup.flatMap fun f => (outlines t f).map Outline.name).Nodup) :
    UniqueNames t files := by
  obtain ⟨hnames, hfiles⟩ := List.nodup_flatMap.1 h
  intro f hf g hg o ho o' ho' hname
  have hfg : f = g := by
    by_contra hne
    have : Std.Symm (Function.onFun List.Disjoint fun f => (outlines t f).map Outline.name) :=
      ⟨fun _ _ h => h.symm⟩
    have hdisjoint := hfiles.forall (List.mem_dedup.2 hf) (List.mem_dedup.2 hg) hne
    exact hdisjoint (List.mem_map_of_mem ho) (hname ▸ List.mem_map_of_mem ho')
  subst hfg
  exact ⟨rfl, List.inj_on_of_nodup_map (hnames f (List.mem_dedup.2 hf)) ho ho' hname⟩

theorem IsKey.name_eq (h : IsKey k e) (h' : IsKey k e') (he : '.' ∉ e.name.toList)
    (he' : '.' ∉ e'.name.toList) :
    e.name = e'.name := by
  cases hk : isDotted k with
  | false =>
    have hplain := isDotted_eq_false_iff.1 hk
    exact (h.eq_name hplain).symm.trans (h'.eq_name hplain)
  | true => exact (dotted_inj he he' ((h.eq_dotted he hk).2.symm.trans (h'.eq_dotted he' hk).2)).2

namespace UniqueNames

theorem moved_eq (h : UniqueNames t files) (he : ClassOf t files e) (he' : ClassOf t files e')
    (hname : e.name = e'.name)
    (module : String) : { e with modulePath := module } = { e' with modulePath := module } := by
  obtain ⟨hf, o, ho, hname₁, hfields, hmethods, hbases⟩ := he
  obtain ⟨hf', o', ho', hname₂, hfields', hmethods', hbases'⟩ := he'
  obtain ⟨hfile, rfl⟩ := h _ hf _ hf' o ho o' ho' (hname₁.symm.trans (hname.trans hname₂))
  rw [hname, hfile, hfields, hfields', hmethods, hmethods', hbases, hbases']

theorem eq_of_mem_fileEntries (h : UniqueNames t files)
    (he : e ∈ files.flatMap (fileEntries t root))
    (he' : e' ∈ files.flatMap (fileEntries t root)) (hname : e.name = e'.name) : e = e' := by
  obtain ⟨f, hf, he⟩ := List.mem_flatMap.1 he
  obtain ⟨g, hg, he'⟩ := List.mem_flatMap.1 he'
  obtain ⟨relative, hrelative, o, ho, rfl⟩ := mem_fileEntries.1 he
  obtain ⟨relative', hrelative', o', ho', rfl⟩ := mem_fileEntries.1 he'
  obtain ⟨rfl, rfl⟩ := h f hf g hg o ho o' ho' hname
  obtain rfl := Option.some.inj (hrelative.symm.trans hrelative')
  rfl

theorem find?_classEntries_iff (h : UniqueNames t files) :
    (classEntries t root files).find? k = some e ↔ e ∈ files.flatMap (fileEntries t root) ∧
      IsKey k e := by
  refine ⟨mem_of_find?_classEntries, fun ⟨hmem, hk⟩ => ?_⟩
  obtain ⟨e', he'⟩ := exists_find?_classEntries hmem hk
  obtain ⟨hmem', hk'⟩ := mem_of_find?_classEntries he'
  have hname := hk'.name_eq hk (classOf_of_mem_fileEntries hmem').undotted
      (classOf_of_mem_fileEntries hmem).undotted
  rw [he', h.eq_of_mem_fileEntries hmem' hmem hname]

end UniqueNames

section Requests

variable {given es : Table ClassEntry} {r : Request} {rs : List Request}

def Request.AsksFor (r : Request) (given : Table ClassEntry) (e : ClassEntry) : Prop :=
  given.find? e.name = some e ∧ if r.name.text = "*" then e.modulePath = r.source
    else e.name = r.name.text

def Exported (given : Table ClassEntry) (rs : List Request) (k : String) (e : ClassEntry) : Prop :=
  ∃ r ∈ rs, ∃ e₀, r.AsksFor given e₀ ∧ k = r.package ++ "." ++ e₀.name ∧
    e = { e₀ with modulePath := r.package }

/-- The table has more than the given one, but the same under plain keys, and no new names. -/
structure Grown (given es : Table ClassEntry) : Prop where
  plain : ∀ {k}, '.' ∉ k.toList → es.find? k = given.find? k
  known : ∀ {k e}, es.find? k = some e → ∃ e₀, given.find? e.name = some e₀

theorem Exported.isDotted (h : Exported given rs k e) : isDotted k = true := by
  obtain ⟨r, -, e₀, -, rfl, -⟩ := h
  exact isDotted_append _ _

theorem Exported.eq {rs' : List Request} (hgiven : Sound t files given) (h : Exported given rs k e)
    (h' : Exported given rs' k e') : e = e' := by
  obtain ⟨r, -, e₀, ⟨hfind, -⟩, rfl, rfl⟩ := h
  obtain ⟨r', -, e₀', ⟨hfind', -⟩, hk, rfl⟩ := h'
  obtain ⟨hpackage, hname⟩ := dotted_inj (hgiven.undotted hfind) (hgiven.undotted hfind') hk
  rw [hname, hfind'] at hfind
  rw [hpackage, Option.some.inj hfind]

theorem exported_append :
    Exported given (rs ++ [r]) k e ↔ Exported given rs k e ∨ Exported given [r] k e := by
  simp [Exported, or_and_right, exists_or]

variable (hunique : UniqueNames t files) (hgiven : Sound t files given) (hes : Sound t files es)
  (hgrown : Grown given es)
include hunique hgiven hes hgrown

theorem asksFor_of_mem_found {q : String × ClassEntry} (hq : q ∈ r.found es) :
    ∃ e₀, r.AsksFor given e₀ ∧ q.1 = e₀.name ∧
      { q.2 with modulePath := r.package } = { e₀ with modulePath := r.package } := by
  obtain ⟨hname, k', hk'⟩ := hes.of_mem_found hq
  by_cases hr : r.name.text = "*"
  · obtain ⟨hfind, hsource, hplain⟩ := (mem_found_all hes.nodup hr).1 hq
    rw [hgrown.plain hplain, hname] at hfind
    exact ⟨q.2, ⟨hfind, by simpa [hr] using hsource⟩, hname, rfl⟩
  · obtain ⟨e₀, he₀⟩ := hgrown.known hk'
    have hname₀ : q.2.name = e₀.name := (hgiven.isKey he₀).eq_name (hes.undotted hk')
    refine ⟨e₀, ⟨hname₀ ▸ he₀, ?_⟩, hname.trans hname₀,
      hunique.moved_eq (hes.classOf hk') (hgiven.classOf he₀) hname₀ _⟩
    rw [if_neg hr, ← hname₀, ← hname]
    exact ((mem_found_name hr).1 hq).1

theorem exists_mem_found_of_asksFor {e₀ : ClassEntry} (h : r.AsksFor given e₀) :
    ∃ q ∈ r.found es, q.1 = e₀.name ∧
      { q.2 with modulePath := r.package } = { e₀ with modulePath := r.package } := by
  obtain ⟨hfind, hasked⟩ := h
  have hplain : es.find? e₀.name = some e₀ := by rw [hgrown.plain (hgiven.undotted hfind), hfind]
  by_cases hr : r.name.text = "*"
  · rw [if_pos hr] at hasked
    exact ⟨(e₀.name, e₀), (mem_found_all hes.nodup hr).2 ⟨hplain, hasked, hgiven.undotted hfind⟩,
      rfl, rfl⟩
  · rw [if_neg hr] at hasked
    -- the class of the named module comes before the class of that name, and is the same up to its
    -- path
    obtain ⟨e₁, he₁⟩ : ∃ e₁, (es.find? (r.source ++ "." ++ r.name.text)).or (es.find? r.name.text) =
      some e₁ := by
      refine Option.isSome_iff_exists.1 ?_
      rw [← hasked, hplain]
      simp
    have hfound : (r.name.text, e₁) ∈ r.found es := (mem_found_name hr).2 ⟨rfl, he₁⟩
    obtain ⟨hname, k', hk'⟩ := hes.of_mem_found hfound
    have hsame : e₁.name = e₀.name := hname.symm.trans hasked.symm
    exact ⟨_, hfound, hasked.symm,
      hunique.moved_eq (hes.classOf hk') (hgiven.classOf hfind) hsame _⟩

theorem find?_serve_iff_exported :
    (r.serve es).find? k = some e ↔ es.find? k = some e ∨ es.find? k = none ∧
      Exported given [r] k e := by
  rw [Request.find?_serve_eq_some_iff hes.nodup]
  refine or_congr_right (and_congr_right fun _ => ⟨?_, ?_⟩)
  · rintro ⟨q, hq, rfl, rfl⟩
    obtain ⟨e₀, hasked, hname, hmoved⟩ := asksFor_of_mem_found hunique hgiven hes hgrown hq
    exact ⟨r, by simp, e₀, hasked, by rw [hname], hmoved⟩
  · rintro ⟨r', hr', e₀, hasked, rfl, rfl⟩
    obtain rfl := List.mem_singleton.1 hr'
    obtain ⟨q, hq, hname, hmoved⟩ := exists_mem_found_of_asksFor hunique hgiven hes hgrown hasked
    exact ⟨q, hq, by rw [hname], hmoved.symm⟩

end Requests

section Run

variable {given given' es : Table ClassEntry} {rs rs' : List Request}

theorem grown_of_find?_iff (hnames : ∀ {k e}, given.find? k = some e → given.find? e.name = some e)
    (h : ∀ k e, es.find? k = some e ↔ given.find? k = some e ∨ given.find? k = none ∧
      Exported given rs k e) :
    Grown given es where
  plain {k} hk := by
    refine Option.ext fun e => (h k e).trans ⟨fun hfind => ?_, .inl⟩
    rcases hfind with hfind | ⟨-, hexported⟩
    · exact hfind
    · exact absurd hexported.isDotted (by simpa [isDotted_eq_false_iff] using hk)
  known hk := by
    rcases (h _ _).1 hk with hk | ⟨-, r, -, e₀, hasked, -, rfl⟩
    · exact ⟨_, hnames hk⟩
    · exact ⟨e₀, hasked.1⟩

theorem find?_serveAll_iff (hunique : UniqueNames t files) (hgiven : Sound t files given)
    (hnames : ∀ {k e}, given.find? k = some e → given.find? e.name = some e)
    (hrs : ∀ r ∈ rs, r.package ≠ "") :
    ∀ k e, (rs.foldl (fun es r => r.serve es) given).find? k = some e ↔
      given.find? k = some e ∨ given.find? k = none ∧ Exported given rs k e := by
  induction rs using List.reverseRecOn with
  | nil => simp [Exported]
  | append_singleton rs r ih =>
    intro k e
    have hbefore : ∀ r' ∈ rs, r'.package ≠ "" := fun r' hr' => hrs r' (by simp [hr'])
    have ih := ih hbefore
    rw [List.foldl_concat,
      find?_serve_iff_exported hunique hgiven (hgiven.serveAll hbefore)
        (grown_of_find?_iff hnames ih), exported_append, ih]
    constructor
    · rintro ((hfind | ⟨hnone, hexported⟩) | ⟨hnone, hexported⟩)
      · exact .inl hfind
      · exact .inr ⟨hnone, .inl hexported⟩
      · refine .inr ⟨Option.eq_none_iff_forall_ne_some.2 fun e' he' => ?_, .inr hexported⟩
        exact nomatch hnone.symm.trans ((ih k e').2 (.inl he'))
    · rintro (hfind | ⟨hnone, hexported | hexported⟩)
      · exact .inl (.inl hfind)
      · exact .inl (.inr ⟨hnone, hexported⟩)
      · -- an earlier request for the same key has put the same class there
        cases hold : (rs.foldl (fun es r => r.serve es) given).find? k with
        | none => exact .inr ⟨rfl, hexported⟩
        | some e' =>
          obtain hgave | ⟨-, hexported'⟩ := (ih k e').1 hold
          · exact nomatch hnone.symm.trans hgave
          · rw [hexported.eq hgiven hexported']
            exact .inl (.inr ⟨hnone, hexported'⟩)

theorem exported_congr (hgiven : ∀ k, given.find? k = given'.find? k)
    (hrs : ∀ r, r ∈ rs ↔ r ∈ rs') :
    Exported given rs k e ↔ Exported given' rs' k e := by
  simp only [Exported, Request.AsksFor, hgiven, hrs]

end Run

section Files

variable {files' : List Path} (hfiles : files.Perm files')
include hfiles

theorem UniqueNames.perm (h : UniqueNames t files) : UniqueNames t files' :=
  fun f hf g hg => h f (hfiles.mem_iff.2 hf) g (hfiles.mem_iff.2 hg)

theorem UniqueNames.find?_classEntries_perm (h : UniqueNames t files) (k : String) :
    (classEntries t root files).find? k = (classEntries t root files').find? k := by
  refine Option.ext fun e => ?_
  rw [h.find?_classEntries_iff, (h.perm hfiles).find?_classEntries_iff,
    (hfiles.flatMap_right _).mem_iff]

theorem requests_perm : (requests t root files).Perm (requests t root files') :=
  (hfiles.filterMap (package? t root)).flatMap_right Package.requests

end Files

variable {exclude : List String} {paths paths' : List Path}

theorem find?_collect_iff (hfiles : paths.flatMap (filesOf t root exclude) = files)
    (hunique : UniqueNames t files) (x : ClassIndex) :
    (collect t root exclude paths x).entries.find? k = some e ↔
      (classEntries t root files).find? k = some e ∨
        (classEntries t root files).find? k = none ∧
          Exported (classEntries t root files) (requests t root files) k e := by
  rw [collect_eq, hfiles]
  refine find?_serveAll_iff hunique (sound_classEntries t root files) (fun hfind => ?_)
    (fun r hr => ?_) k e
  · exact hunique.find?_classEntries_iff.2 ⟨(hunique.find?_classEntries_iff.1 hfind).1, .inl rfl⟩
  · obtain ⟨p, hp, hr⟩ := List.mem_flatMap.1 hr
    rw [package_eq_of_mem_requests hr]
    exact path_ne_of_mem_packages hp

/-- If no two classes of the files share a name, the paths may be given in any order: the same keys
have the same entries, those that packages add among them. -/
theorem collect_perm (hperm : paths.Perm paths')
    (hunique : UniqueNames t (paths.flatMap (filesOf t root exclude))) (x x' : ClassIndex) :
    let entries := (collect t root exclude paths x).entries
    let entries' := (collect t root exclude paths' x').entries
    entries.Perm entries' ∧ ∀ k, entries.find? k = entries'.find? k := by
  intro entries entries'
  have hfiles := hperm.flatMap_right (filesOf t root exclude)
  have hfind : ∀ k, entries.find? k = entries'.find? k := by
    intro k
    refine Option.ext fun e => ?_
    have hgiven := @UniqueNames.find?_classEntries_perm t root _ _ hfiles hunique
    rw [find?_collect_iff rfl hunique, find?_collect_iff rfl (hunique.perm hfiles), hgiven,
      exported_congr hgiven fun r => (requests_perm hfiles).mem_iff]
  refine ⟨?_, hfind⟩
  have hnodup := (sound_collect t root exclude paths x).nodup
  have hnodup' := (sound_collect t root exclude paths' x').nodup
  refine (List.perm_ext_iff_of_nodup (.of_map _ hnodup) (.of_map _ hnodup')).2 fun p => ?_
  rw [← Table.find?_eq_some_iff_mem hnodup, ← Table.find?_eq_some_iff_mem hnodup']
  exact iff_of_eq (congrArg (· = some p.2) (hfind p.1))

/-- A package that asks for all classes of its module and for one from outside. -/
def shopTree : FileTree :=
  ⟨[(["p"], .dir 0), (["p", "shop"], .dir 0),
    (["p", "shop", "__init__.py"],
      .file (Text.Utf8.encode "from .cart import *\nfrom stock import Item\n") 0),
    (["p", "shop", "cart.py"], .file (Text.Utf8.encode "class Cart:\n    total: int\n") 0),
    (["p", "stock.py"], .file (Text.Utf8.encode "class Item:\n    name: str\n") 0)], ["p"]⟩

def shopPaths : List Path :=
  [.relative ["shop", "__init__.py"], .relative ["shop", "cart.py"], .relative ["stock.py"]]

theorem collect_perm_shop :
    (collect shopTree .here [] shopPaths .empty).entries.keys =
        ["Cart", "shop.cart.Cart", "Item", "stock.Item", "shop.Cart", "shop.Item"] ∧
      ∀ k, (collect shopTree .here [] shopPaths .empty).entries.find? k =
        (collect shopTree .here [] shopPaths.reverse .empty).entries.find? k := by
  have hfiles :
      ((shopPaths.flatMap (filesOf shopTree .here [])).dedup.flatMap fun f =>
        (outlines shopTree f).map Outline.name).Nodup ∧
        (collect shopTree .here [] shopPaths .empty).entries.keys =
          ["Cart", "shop.cart.Cart", "Item", "stock.Item", "shop.Cart", "shop.Item"] := by
    decide +kernel
  have hunique := uniqueNames_of_nodup hfiles.1
  exact ⟨hfiles.2, (collect_perm (List.reverse_perm shopPaths).symm hunique .empty .empty).2⟩

end TypedTemplate.ClassIndex
