import Mathlib.Data.List.Induction
import Mathlib.Data.List.Nodup
import TypedTemplate.Proofs.FileTree.Places
import TypedTemplate.Proofs.Lists

/-! Which files patterns find. The segments of a pattern are compared with those of a path: two
stars stand for directories in a row, links not among them, and any other segment for one name. What
a search returns is then told by the set of the patterns to include and that of the patterns to
exclude, and its order by the paths alone. -/
namespace TypedTemplate.FileTree

variable {t : FileTree} {a b ds ss segments : List String} {s : String} {n : Nat} {p q root : Path}

/-- The segments lead down from a directory through directories, none of them a link. -/
inductive Descends (t : FileTree) : Path → List String → Prop
  | here {p : Path} (h : t.isDir p = true) : Descends t p []
  | down {p : Path} {s : String} {ds : List String} (hs : s ≠ "..")
    (h : t.isPlainDir (p.child s) = true)
      (hds : Descends t (p.child s) ds) : Descends t p (s :: ds)

def StandsFor (s name : String) : Prop :=
  s ≠ "**" ∧ if isNamePattern s then nameMatches s name = true ∧ name ≠ ".." else name = s

instance (s name : String) : Decidable (StandsFor s name) := by
  delta StandsFor
  infer_instance

/-- The segments of a pattern stand for those of a path below `p`. -/
inductive Matches (t : FileTree) : (p : Path) → (pattern ss : List String) → Prop
  | nil {p : Path} : Matches t p [] []
  | stars {p : Path} {ds rest ss : List String} (hds : t.Descends p ds)
    (h : Matches t (p.descend ds) rest ss) :
      Matches t p ("**" :: rest) (ds ++ ss)
  | name {p : Path} {s name : String} {rest ss : List String} (hs : StandsFor s name)
    (h : Matches t (p.child name) rest ss) :
      Matches t p (s :: rest) (name :: ss)

section Directories

theorem Descends.isDir (ht : t.Proper) (h : t.Descends p ds) : t.isDir p = true := by
  cases h with
  | here h => exact h
  | @down _ s ds _ h _ =>
    obtain ⟨b, hb, -⟩ := isDir_iff.1 (Bool.and_eq_true_iff.1 h).1
    exact ht.isDir_of_below (show t.place? (p.descend [s]) = some b from hb)

theorem Descends.isDir_end (h : t.Descends p ds) : t.isDir (p.descend ds) = true := by
  induction h with
  | here h => simpa using h
  | down _ _ _ ih => rwa [Path.descend_cons]

theorem Proper.mem_subdirs (ht : t.Proper) :
    (s ∈ t.names p ∧ t.isPlainDir (p.child s) = true) ↔ s ≠ ".." ∧
      t.isPlainDir (p.child s) = true := by
  refine and_congr_left fun hplain => ⟨fun h => (ht.ne_of_mem_names h).2, fun hs => ?_⟩
  obtain ⟨b, hb, -⟩ := isDir_iff.1 (Bool.and_eq_true_iff.1 hplain).1
  exact ht.mem_names_of_below hs (show t.place? (p.descend [s]) = some b from hb)

theorem mem_dirsFrom (ht : t.Proper) (hp : t.isDir p = true) :
    q ∈ t.dirsFrom n p ↔ ∃ ds, ds.length < n ∧ t.Descends p ds ∧ q = p.descend ds := by
  induction n generalizing p with
  | zero => simp [dirsFrom]
  | succ n ih =>
    rw [dirsFrom, List.mem_cons, List.mem_flatMap]
    simp only [List.mem_filter, ht.mem_subdirs]
    constructor
    · rintro (rfl | ⟨s, ⟨hs, hplain⟩, hq⟩)
      · exact ⟨[], by simp, .here hp, by simp⟩
      · obtain ⟨ds, hlength, hds, rfl⟩ := (ih (Bool.and_eq_true_iff.1 hplain).1).1 hq
        exact ⟨s :: ds, by simpa using hlength, .down hs hplain hds, (Path.descend_cons ..).symm⟩
    · rintro ⟨ds, hlength, hds, rfl⟩
      cases hds with
      | here => exact .inl (by simp)
      | @down _ s ds hs hplain hds =>
        refine .inr ⟨s, ⟨hs, hplain⟩,
          (ih (Bool.and_eq_true_iff.1 hplain).1).2 ⟨ds, ?_, hds, Path.descend_cons ..⟩⟩
        simpa using hlength

theorem Descends.mem_keys (ht : t.Proper) (h : t.Descends p ds) (ha : t.place? p = some a) {i : Nat}
    (hi : i < ds.length) :
    a ++ ds.take (i + 1) ∈ t.nodes.map (·.1) := by
  induction h generalizing a i with
  | here => cases hi
  | @down p s ds hs hplain hds ih =>
    obtain ⟨hchild, time, hn⟩ := (ht.isPlainDir_child ha hs).1 hplain
    cases i with
    | zero => exact List.mem_map.2 ⟨_, mem_nodes_of_node? hn (by simp), by simp⟩
    | succ i => simpa using ih hchild (by simpa using hi)

theorem Descends.length_le (ht : t.Proper) (h : t.Descends p ds) : ds.length ≤ t.nodes.length := by
  obtain ⟨a, ha, -⟩ := isDir_iff.1 (h.isDir ht)
  have hnodup : ((List.range ds.length).map fun i => a ++ ds.take (i + 1)).Nodup := by
    refine List.Nodup.map_on (fun i hi j hj heq => ?_) List.nodup_range
    have hlength := congrArg List.length heq
    simp only [List.length_append, List.length_take] at hlength
    have := List.mem_range.1 hi
    have := List.mem_range.1 hj
    omega
  have hsubset : ((List.range ds.length).map fun i => a ++ ds.take (i + 1)) ⊆ t.nodes.map
    (·.1) := by
    intro key hkey
    obtain ⟨i, hi, rfl⟩ := List.mem_map.1 hkey
    exact h.mem_keys ht ha (List.mem_range.1 hi)
  simpa using hnodup.length_le_of_subset hsubset

theorem mem_dirs (ht : t.Proper) (hp : t.isDir p = true) :
    q ∈ t.dirs p ↔ ∃ ds, t.Descends p ds ∧ q = p.descend ds := by
  rw [dirs, mem_dirsFrom ht hp]
  refine exists_congr fun ds => and_iff_right_of_imp fun h => ?_
  have := h.1.length_le ht
  omega

end Directories

section Selection

theorem Matches.isDir (ht : t.Proper) (h : t.Matches p segments ss)
    (hf : t.isFile (p.descend ss) = true) :
    segments = [] ∨ t.isDir p = true := by
  obtain ⟨b, -, -, hb, -⟩ := isFile_iff.1 hf
  cases h with
  | nil => exact .inl rfl
  | stars hds => exact .inr (hds.isDir ht)
  | name => exact .inr (ht.isDir_of_below hb)

theorem matches_nil_iff : t.Matches p [] ss ↔ ss = [] := by
  constructor
  · intro h
    cases h
    rfl
  · rintro rfl
    exact .nil

theorem matches_stars_iff {rest : List String} : t.Matches p ("**" :: rest) ss ↔
    ∃ ds ss', t.Descends p ds ∧ t.Matches (p.descend ds) rest ss' ∧ ss = ds ++ ss' := by
  constructor
  · intro h
    cases h with
    | stars hds h => exact ⟨_, _, hds, h, rfl⟩
    | name hs => exact absurd rfl hs.1
  · rintro ⟨ds, ss', hds, h, rfl⟩
    exact .stars hds h

theorem matches_cons_iff {rest : List String} (hs : s ≠ "**") : t.Matches p (s :: rest) ss ↔
    ∃ name ss', StandsFor s name ∧ t.Matches (p.child name) rest ss' ∧ ss = name :: ss' := by
  constructor
  · intro h
    cases h with
    | stars => exact absurd rfl hs
    | name hs h => exact ⟨_, _, hs, h, rfl⟩
  · rintro ⟨name, ss', hs, h, rfl⟩
    exact .name hs h

def RightAbout (t : FileTree) (q : Path) (segments : List String) : Prop :=
  ∀ p, (segments = [] ∨ t.isDir p = true) →
    (q ∈ t.select segments p ↔ ∃ ss, t.Matches p segments ss ∧ q = p.descend ss)

section Steps

variable {rest : List String} (ht : t.Proper) (hq : t.isFile q = true) (ih : t.RightAbout q rest)
include ht hq

theorem rightAbout_empty : t.RightAbout q ("" :: rest) := by
  intro p hp
  have hdir : t.isDir p = true := hp.resolve_left (by simp)
  refine iff_of_false ?_ ?_
  · intro h
    rw [List.mem_singleton.1 h, not_isFile_of_isDir hdir] at hq
    cases hq
  · rintro ⟨ss, h, rfl⟩
    obtain ⟨b, -, -, hplace, -⟩ := isFile_iff.1 hq
    obtain ⟨name, ss', ⟨-, hname⟩, -, rfl⟩ := (matches_cons_iff (by decide)).1 h
    obtain rfl : name = "" := by simpa [show isNamePattern "" = false from by decide] using hname
    exact (ht.ne_of_mem_names (ht.mem_names_of_below (by decide) hplace)).1 rfl

include ih

omit hq in
theorem rightAbout_stars : t.RightAbout q ("**" :: rest) := by
  intro p hp
  have hdir : t.isDir p = true := hp.resolve_left (by simp)
  rw [select, if_neg (by decide), if_pos (by decide), List.mem_eraseDups, List.mem_flatMap]
  constructor
  · rintro ⟨d, hd, h⟩
    obtain ⟨ds, hds, rfl⟩ := (mem_dirs ht hdir).1 hd
    obtain ⟨ss, hss, rfl⟩ := (ih _ (.inr hds.isDir_end)).1 h
    exact ⟨ds ++ ss, .stars hds hss, (Path.descend_append ..).symm⟩
  · rintro ⟨ss, h, hq⟩
    obtain ⟨ds, ss, hds, hss, rfl⟩ := matches_stars_iff.1 h
    exact ⟨_, (mem_dirs ht hdir).2 ⟨ds, hds, rfl⟩,
      (ih _ (.inr hds.isDir_end)).2 ⟨ss, hss, hq.trans (Path.descend_append ..)⟩⟩

theorem mem_select_child {name : String} (h : t.Matches (p.child name) rest ss)
    (heq : q = p.descend (name :: ss)) :
    (rest = [] ∨ t.isDir (p.child name) = true) ∧ q ∈ t.select rest (p.child name) := by
  rw [Path.descend_cons] at heq
  have hrest := h.isDir ht (heq ▸ hq)
  exact ⟨hrest, (ih _ hrest).2 ⟨ss, h, heq⟩⟩

theorem rightAbout_pattern (hempty : s ≠ "") (hstars : s ≠ "**")
    (hpattern : isNamePattern s = true) :
    t.RightAbout q (s :: rest) := by
  intro p _
  rw [select, if_neg (by simpa using hempty), if_neg (by simpa using hstars), if_pos hpattern]
  simp only [matches_cons_iff hstars, List.mem_flatMap, List.mem_filter, Bool.and_eq_true,
    Bool.or_eq_true, List.isEmpty_iff]
  constructor
  · rintro ⟨name, ⟨hname, hfit, hrest⟩, h⟩
    obtain ⟨ss, hss, rfl⟩ := (ih _ hrest).1 h
    refine ⟨name :: ss, ⟨name, ss, ⟨hstars, ?_⟩, hss, rfl⟩, (Path.descend_cons ..).symm⟩
    rw [if_pos hpattern]
    exact ⟨hfit, (ht.ne_of_mem_names hname).2⟩
  · rintro ⟨_, ⟨name, ss, ⟨-, hname⟩, hss, rfl⟩, heq⟩
    obtain ⟨b, -, -, hplace, -⟩ := isFile_iff.1 hq
    obtain ⟨hrest, h⟩ := mem_select_child ht hq ih hss heq
    rw [if_pos hpattern] at hname
    exact ⟨name, ⟨ht.mem_names_of_below hname.2 (heq ▸ hplace), hname.1, hrest⟩, h⟩

theorem rightAbout_name (hempty : s ≠ "") (hstars : s ≠ "**")
    (hpattern : ¬ isNamePattern s = true) :
    t.RightAbout q (s :: rest) := by
  intro p _
  have hself {name : String} : StandsFor s name ↔ name = s := by simp [StandsFor, hstars, hpattern]
  rw [select, if_neg (by simpa using hempty), if_neg (by simpa using hstars), if_neg hpattern]
  simp only [matches_cons_iff hstars, hself, List.mem_ite_nil_right]
  constructor
  · rintro ⟨hthere, h⟩
    have hrest : rest = [] ∨ t.isDir (p.child s) = true := by
      split at hthere
      · next hnil => exact .inl (List.isEmpty_iff.1 hnil)
      · exact .inr hthere
    obtain ⟨ss, hss, rfl⟩ := (ih _ hrest).1 h
    exact ⟨s :: ss, ⟨s, ss, rfl, hss, rfl⟩, (Path.descend_cons ..).symm⟩
  · rintro ⟨_, ⟨_, ss, rfl, hss, rfl⟩, heq⟩
    obtain ⟨hrest, h⟩ := mem_select_child ht hq ih hss heq
    refine ⟨?_, h⟩
    split
    · next hnil =>
      obtain ⟨b, -, -, hplace, -⟩ := isFile_iff.1 hq
      rw [List.isEmpty_iff.1 hnil, matches_nil_iff] at hss
      rw [Path.descend_cons, hss, Path.descend_nil] at heq
      rw [has, ← heq, hplace]
      rfl
    · next hnil => exact hrest.resolve_left (by simpa using hnil)

end Steps

theorem rightAbout (ht : t.Proper) (hq : t.isFile q = true) (segments : List String) :
    t.RightAbout q segments := by
  induction segments with
  | nil => simp [RightAbout, select, matches_nil_iff]
  | cons s rest ih =>
    by_cases hempty : s = ""
    · exact hempty ▸ rightAbout_empty ht hq
    by_cases hstars : s = "**"
    · exact hstars ▸ rightAbout_stars ht ih
    by_cases hpattern : isNamePattern s = true
    · exact rightAbout_pattern ht hq ih hempty hstars hpattern
    · exact rightAbout_name ht hq ih hempty hstars hpattern

theorem below_ok (ht : t.Proper) (root : Path) {pattern : String}
    (h : patternSegments pattern = .ok segments) :
    ∃ found, t.below root pattern = .ok found ∧ ∀ q, t.isFile q = true →
      (q ∈ found ↔ ∃ ss, t.Matches root ("**" :: segments) ss ∧ q = root.descend ss) := by
  refine ⟨_, by rw [below, h]; rfl, fun q hq => ?_⟩
  split
  · next hroot => exact rightAbout ht hq _ _ (.inr hroot)
  · next hroot =>
    refine iff_of_false List.not_mem_nil ?_
    rintro ⟨ss, hss, rfl⟩
    exact hroot ((hss.isDir ht hq).resolve_left (by simp))

end Selection

section Exclusion

def Excludes (pattern : String) (ss : List String) : Prop :=
  if ['*', '*', '/'] <+: pattern.toList ∧ ['/', '*', '*'] <:+ pattern.toList then
    String.ofList ((pattern.toList.drop 3).take (pattern.toList.length - 6)) ∈ ss
  else (Path.relative ss).fits pattern = .ok true

instance (pattern : String) (ss : List String) : Decidable (Excludes pattern ss) := by
  delta Excludes
  infer_instance

theorem fits_ok {pattern : String} (h : (Path.ofText pattern).parts ≠ []) (p : Path) :
    ∃ b, p.fits pattern = .ok b := by
  rw [Path.fits, if_neg (by simpa using h)]
  split
  · exact ⟨_, rfl⟩
  split <;> exact ⟨_, rfl⟩

theorem excludedBy_ok {pattern : String} (h : (Path.ofText pattern).parts ≠ []) (ss : List String) :
    ∃ b, excludedBy (.relative ss) pattern = .ok b ∧ (b = true ↔ Excludes pattern ss) := by
  simp only [excludedBy, Excludes, Text.startsWith, Text.endsWith, Bool.and_eq_true,
    List.isPrefixOf_iff_prefix, List.isSuffixOf_iff_suffix]
  split
  · exact ⟨_, rfl, List.contains_iff_mem⟩
  · obtain ⟨b, hb⟩ := fits_ok h (.relative ss)
    exact ⟨b, hb, by simp [hb]⟩

theorem excluded_ok {exclude : List String} (h : ∀ e ∈ exclude, (Path.ofText e).parts ≠ [])
    (ss : List String) :
    ∃ b, excluded (.relative ss) exclude = .ok b ∧ (b = true ↔ ∃ e ∈ exclude, Excludes e ss) := by
  induction exclude with
  | nil => exact ⟨false, rfl, by simp⟩
  | cons e exclude ih =>
    obtain ⟨b, hb, hiff⟩ := excludedBy_ok (h e List.mem_cons_self) ss
    obtain ⟨b', hb', hiff'⟩ := ih fun e he => h e (List.mem_cons_of_mem _ he)
    refine ⟨b || b', ?_, ?_⟩
    · rw [excluded, hb]
      cases b
      · exact hb'
      · rfl
    · rw [Bool.or_eq_true, hiff, hiff', List.exists_mem_cons_iff]

theorem relativeTo?_descend (root : Path) (ss : List String) :
    (root.descend ss).relativeTo? root = some (.relative ss) := by
  simp [Path.relativeTo?, Path.descend]

end Exclusion

section Order

theorem parts_descend (p : Path) (ss : List String) : (p.descend ss).parts = p.parts ++ ss := by
  rw [Path.parts, Path.parts, show (p.descend ss).absolute = p.absolute from rfl]
  split <;> rfl

theorem le_iff {p q : Path} : p.le q = true ↔ p.parts.le q.parts := by
  rw [Path.le, Bool.not_eq_true', decide_eq_false_iff_not]

theorem pairwise_sorted (root : Path) {found : List Path}
    (h : ∀ q ∈ found, ∃ ss, q = root.descend ss) :
    (found.eraseDups.mergeSort Path.le).Pairwise fun p q => p.parts < q.parts := by
  have hsorted : (found.eraseDups.mergeSort Path.le).Pairwise fun p q => p.le q = true := by
    refine List.pairwise_mergeSort (fun p q r hpq hqr => ?_) (fun p q => ?_) _
    · exact le_iff.2 (List.le_trans (le_iff.1 hpq) (le_iff.1 hqr))
    · rw [Bool.or_eq_true, le_iff, le_iff]
      exact List.le_total ..
  have hnodup := (List.mergeSort_perm _ Path.le).nodup_iff.2 (nodup_eraseDups found)
  refine (hsorted.and hnodup).imp_of_mem ?_
  intro p q hp hq hpq
  rw [List.mem_mergeSort, List.mem_eraseDups] at hp hq
  obtain ⟨ss, rfl⟩ := h p hp
  obtain ⟨ss', rfl⟩ := h q hq
  refine (List.le_iff_lt_or_eq.1 (le_iff.1 hpq.1)).resolve_right fun heq => hpq.2 ?_
  rw [parts_descend, parts_descend, List.append_cancel_left_eq] at heq
  rw [heq]

theorem eq_of_pairwise {ps qs : List Path} (hps : ps.Pairwise fun p q => p.parts < q.parts)
    (hqs : qs.Pairwise fun p q => p.parts < q.parts) (h : ∀ p, p ∈ ps ↔ p ∈ qs) : ps = qs := by
  have hne {p q : Path} (hlt : p.parts < q.parts) : p ≠ q := by
    rintro rfl
    exact List.lt_irrefl _ hlt
  refine List.Perm.eq_of_pairwise (fun p q _ _ hpq hqp => absurd hqp (List.lt_asymm hpq)) hps hqs ?_
  exact (List.perm_ext_iff_of_nodup (hps.imp hne) (hqs.imp hne)).2 h

end Order

section Templates

variable {include_ exclude : List String}

/-- A pattern can be searched for, once it is without dots and slashes at its front. -/
def Searchable (pattern : String) : Prop :=
  ∃ segments, patternSegments (bareFront pattern) = .ok segments

def Includes (t : FileTree) (root : Path) (pattern : String) (ss : List String) : Prop :=
  ∃ segments, patternSegments (bareFront pattern) = .ok segments ∧
    t.Matches root ("**" :: segments) ss

/-- A file below the root that a pattern includes and none excludes. -/
def Chosen (t : FileTree) (root : Path) (include_ exclude : List String) (q : Path) : Prop :=
  ∃ ss, q = root.descend ss ∧ t.isFile q = true ∧ (∃ p ∈ include_, t.Includes root p ss) ∧
    ∀ e ∈ exclude, ¬ Excludes e ss

theorem templatesFor_ok (ht : t.Proper) (root : Path)
    (hexclude : ∀ e ∈ exclude, (Path.ofText e).parts ≠ [])
    {pattern : String} (hpattern : Searchable pattern) :
    ∃ found, t.templatesFor root exclude pattern = .ok found ∧ ∀ q, q ∈ found ↔
      t.Chosen root [pattern] exclude q := by
  obtain ⟨segments, hsegments⟩ := hpattern
  obtain ⟨found, hfound, hmem⟩ := below_ok ht root hsegments
  have hincludes {ss : List String} : t.Includes root pattern ss ↔
    t.Matches root ("**" :: segments) ss := by
    simp [Includes, hsegments]
  have hfile {q : Path} : q ∈ found.filter t.isFile ↔
      t.isFile q = true ∧ ∃ ss, t.Matches root ("**" :: segments) ss ∧ q = root.descend ss := by
    rw [List.mem_filter, and_comm]
    exact and_congr_right (hmem q)
  have hkept : ∀ q ∈ found.filter t.isFile, ∃ b,
      (do .ok (!(← excluded ((q.relativeTo? root).getD q) exclude)) : Except PatternError Bool) =
        .ok b ∧ (b = true ↔ ∀ ss, q = root.descend ss → ∀ e ∈ exclude, ¬ Excludes e ss) := by
    intro q hq
    obtain ⟨-, ss, -, rfl⟩ := hfile.1 hq
    obtain ⟨b, hb, hiff⟩ := excluded_ok hexclude ss
    refine ⟨!b, by rw [relativeTo?_descend, Option.getD_some, hb]; rfl, ?_⟩
    simp [Path.descend_inj, Bool.eq_false_iff, hiff]
  obtain ⟨kept, hok, hkept⟩ := filterM_ok hkept
  refine ⟨kept, by rw [templatesFor, hfound]; exact hok, fun q => ?_⟩
  rw [hkept, hfile]
  constructor
  · rintro ⟨⟨hq, ss, hss, heq⟩, hnone⟩
    exact ⟨ss, heq, hq, ⟨pattern, List.mem_singleton.2 rfl, hincludes.2 hss⟩, hnone ss heq⟩
  · rintro ⟨ss, rfl, hq, ⟨_, hp, hss⟩, hnone⟩
    rw [List.mem_singleton.1 hp, hincludes] at hss
    refine ⟨⟨hq, ss, hss, rfl⟩, fun ss' heq => ?_⟩
    rwa [← Path.descend_inj.1 heq]

theorem templates_ok (ht : t.Proper) (root : Path) (hinclude : ∀ p ∈ include_, Searchable p)
    (hexclude : ∀ e ∈ exclude, (Path.ofText e).parts ≠ []) :
    ∃ ps, t.templates root include_ exclude = .ok ps ∧ (ps.Pairwise fun p q => p.parts < q.parts) ∧
      ∀ q, q ∈ ps ↔ t.Chosen root include_ exclude q := by
  obtain ⟨found, hfound, hmem⟩ :=
    mapM_ok fun p hp => templatesFor_ok ht root hexclude (hinclude p hp)
  have hchosen (q : Path) : q ∈ found.flatten ↔ t.Chosen root include_ exclude q := by
    rw [hmem]
    simp only [Chosen, List.mem_singleton, exists_eq_left]
    grind
  rw [templates]
  split
  · next hroot =>
    refine ⟨[], rfl, .nil, fun q => iff_of_false List.not_mem_nil ?_⟩
    rintro ⟨ss, rfl, hq, ⟨p, -, segments, -, hss⟩, -⟩
    obtain ⟨a, ha, -⟩ := isDir_iff.1 ((hss.isDir ht hq).resolve_left (by simp))
    simp [has, ha] at hroot
  · refine ⟨_, by rw [hfound]; rfl, pairwise_sorted root fun q hq => ?_, fun q => ?_⟩
    · obtain ⟨ss, hss, -⟩ := (hchosen q).1 hq
      exact ⟨ss, hss⟩
    · rw [List.mem_mergeSort, List.mem_eraseDups, hchosen]

/-- A search with sound patterns succeeds. It returns the files that the patterns choose in
ascending order, and patterns in another order or given twice make no difference. -/
theorem templates_determined (ht : t.Proper) (root : Path) (hinclude : ∀ p ∈ include_, Searchable p)
    (hexclude : ∀ e ∈ exclude, (Path.ofText e).parts ≠ []) :
    ∃ ps, t.templates root include_ exclude = .ok ps ∧ (ps.Pairwise fun p q => p.parts < q.parts) ∧
      (∀ q, q ∈ ps ↔ t.Chosen root include_ exclude q) ∧
      ∀ include' exclude', (∀ p, p ∈ include' ↔ p ∈ include_) → (∀ e, e ∈ exclude' ↔ e ∈ exclude) →
        t.templates root include' exclude' = .ok ps := by
  obtain ⟨ps, hps, hsorted, hmem⟩ := templates_ok ht root hinclude hexclude
  refine ⟨ps, hps, hsorted, hmem, fun include' exclude' hi he => ?_⟩
  obtain ⟨ps', hps', hsorted', hmem'⟩ := templates_ok ht root
    (fun p hp => hinclude p ((hi p).1 hp)) (fun e he' => hexclude e ((he e).1 he'))
  rw [hps']
  congr 1
  refine eq_of_pairwise hsorted' hsorted fun q => ?_
  rw [hmem, hmem', Chosen, Chosen]
  simp only [hi, he]

def pageTree : FileTree :=
  ⟨[(["site"], .dir 0), (["site", "pages"], .dir 0), (["site", "pages", "home.html"], .file [] 0),
    (["site", "pages", "old.html"], .file [] 0)], ["site"]⟩

theorem templates_pageTree :
    ∃ ps, pageTree.templates .here ["./*.html", "pages/*", "*.html"] ["old*", "**/drafts/**"] =
      .ok ps ∧ .relative ["pages", "home.html"] ∈ ps ∧ .relative ["pages", "old.html"] ∉ ps := by
  have hproper : pageTree.Proper := by
    refine ⟨?_, by decide, 0, rfl⟩
    simp only [show pageTree.nodes = [_, _, _, _] from rfl, List.forall_mem_cons]
    exact ⟨⟨0, rfl⟩, ⟨0, rfl⟩, ⟨0, rfl⟩, ⟨0, rfl⟩, by simp⟩
  obtain ⟨ps, -, -, hmem, hsame⟩ := templates_determined hproper .here
    (show ∀ p ∈ ["*.html", "./*.html", "pages/*"], Searchable p from by
      simp only [List.forall_mem_cons]
      exact ⟨⟨["*.html"], by decide +kernel⟩, ⟨["*.html"], by decide +kernel⟩,
        ⟨["pages", "*"], by decide +kernel⟩, by simp⟩)
    (show ∀ e ∈ ["**/drafts/**", "old*"], (Path.ofText e).parts ≠ [] from by decide +kernel)
  refine ⟨ps, hsame _ _ (by simp [or_comm, or_left_comm]) (by simp [or_comm]), (hmem _).2 ?_,
    fun hold => ?_⟩
  · refine ⟨["pages", "home.html"], rfl, by decide +kernel,
      ⟨"pages/*", by simp, ["pages", "*"], by decide +kernel, ?_⟩, ?_⟩
    · have hroot : pageTree.Descends .here [] := .here (by decide +kernel)
      exact .stars hroot (.name (by decide +kernel) (.name (by decide +kernel) .nil))
    · decide +kernel
  · obtain ⟨ss, hss, -, -, hkept⟩ := (hmem _).1 hold
    obtain rfl : ["pages", "old.html"] = ss :=
      Path.descend_inj.1 (show Path.here.descend ["pages", "old.html"] = _ from hss)
    exact hkept "old*" (by simp) (by decide +kernel)

end Templates

end TypedTemplate.FileTree
