import Mathlib.Data.List.Induction
import TypedTemplate.Proofs.FileTree.Contents
import TypedTemplate.Proofs.FileTree.Places

/-! What is at each place after a change of a tree, the times of directories aside, and how a file
is written at the end of a way on which no links are. -/
namespace TypedTemplate

def FileNode.untimed : FileNode → FileNode
  | .dir _ => .dir 0
  | node => node

namespace FileTree

variable {t : FileTree} {a b place ss : List String} {s : String} {node : FileNode} {p : Path}
  {n : Nat}

def kind? (t : FileTree) (a : List String) : Option FileNode := (t.node? a).map .untimed

section Kinds

theorem kind?_nil (t : FileTree) : t.kind? [] = some (.dir 0) := rfl

theorem kind?_eq_none : t.kind? a = none ↔ t.node? a = none := Option.map_eq_none_iff

theorem kind?_eq_dir : t.kind? a = some (.dir 0) ↔ t.DirAt a := by
  rw [kind?, DirAt]
  rcases t.node? a with _ | (_ | time | _) <;> simp [FileNode.untimed]

theorem kind?_eq_file {bytes : List UInt8} {time : Int} :
    t.kind? a = some (.file bytes time) ↔ t.node? a = some (.file bytes time) := by
  rw [kind?]
  rcases t.node? a with _ | (_ | _ | _) <;> simp [FileNode.untimed]

theorem kind?_eq_link {target : Path} :
    t.kind? a = some (.link target) ↔ t.node? a = some (.link target) := by
  rw [kind?]
  rcases t.node? a with _ | (_ | _ | _) <;> simp [FileNode.untimed]

theorem kind?_eq_lookup (ha : a ≠ []) : t.kind? a = (t.nodes.lookup a).map .untimed := by
  rw [kind?, node?, if_neg (by simpa using ha)]

theorem lookup_map_untimed {f : List String × FileNode → List String × FileNode}
    (hf : ∀ e, (f e).1 = e.1 ∧ (f e).2.untimed = e.2.untimed)
    (nodes : List (List String × FileNode)) (b : List String) :
    ((nodes.map f).lookup b).map FileNode.untimed = (nodes.lookup b).map .untimed := by
  induction nodes with
  | nil => rfl
  | cons e nodes ih =>
    have hfe : f e = (e.1, (f e).2) := Prod.ext (hf e).1 rfl
    rw [List.map_cons, hfe, List.lookup_cons, show e :: nodes = (e.1, e.2) :: nodes from rfl,
      List.lookup_cons]
    cases b == e.1 with
    | true => simp [(hf e).2]
    | false => exact ih

theorem lookup_touch (t : FileTree) (a b : List String) :
    ((t.touch a).nodes.lookup b).map FileNode.untimed = (t.nodes.lookup b).map .untimed := by
  refine lookup_map_untimed (fun e => ?_) t.nodes b
  obtain ⟨k, node⟩ := e
  cases node with
  | dir time =>
    dsimp only
    split <;> exact ⟨rfl, rfl⟩
  | file content time => exact ⟨rfl, rfl⟩
  | link target => exact ⟨rfl, rfl⟩

theorem any_eq_isSome_lookup (nodes : List (List String × FileNode)) (a : List String) :
    nodes.any (·.1 == a) = (nodes.lookup a).isSome := by
  induction nodes with
  | nil => rfl
  | cons e nodes ih =>
    rw [List.any_cons, ih, show e :: nodes = (e.1, e.2) :: nodes from rfl, List.lookup_cons,
      BEq.comm]
    cases a == e.1 <;> rfl

theorem kind?_put (ha : a ≠ []) (node : FileNode) (b : List String) :
    (t.put a node).kind? b = if b = a then some node.untimed else t.kind? b := by
  by_cases hb : b = []
  · rw [if_neg (by rintro rfl; exact ha hb), hb, kind?_nil, kind?_nil]
  rw [kind?_eq_lookup hb, kind?_eq_lookup hb, put, any_eq_isSome_lookup]
  cases hl : t.nodes.lookup a with
  | some old =>
    rw [if_pos Option.isSome_some]
    dsimp only
    rw [lookup_replace, hl]
    split <;> rfl
  | none =>
    have hnone : (t.touch a.dropLast).nodes.lookup a = none := by
      simpa [hl] using lookup_touch t a.dropLast a
    rw [if_neg (by simp)]
    dsimp only
    rw [List.lookup_append, Option.map_or, lookup_touch]
    split
    · next heq =>
      subst heq
      simp [hl]
    · next hne =>
      have hsingle : (b == a) = false := by simpa using hne
      simp [List.lookup_cons, hsingle]

theorem here_put (t : FileTree) (a : List String) (node : FileNode) :
    (t.put a node).here = t.here := by
  rw [put]
  split <;> rfl

theorem lookup_filter_ne (nodes : List (List String × FileNode)) (a b : List String) :
    (nodes.filter fun e => e.1 != a).lookup b = if b = a then none else nodes.lookup b := by
  induction nodes with
  | nil => simp
  | cons e nodes ih =>
    obtain ⟨k, node⟩ := e
    by_cases hk : k = a
    · rw [List.filter_cons_of_neg (by simpa using hk), ih, List.lookup_cons]
      split
      · rfl
      · next hb =>
        have hbk : (b == k) = false := by simpa [hk] using hb
        rw [hbk]
    · rw [List.filter_cons_of_pos (by simpa using hk), List.lookup_cons, List.lookup_cons, ih]
      split
      · next hb => rw [if_neg (by rw [eq_of_beq hb]; exact hk)]
      · rfl

theorem kind?_erase (ha : a ≠ []) (b : List String) :
    (t.erase a).kind? b = if b = a then none else t.kind? b := by
  by_cases hb : b = []
  · rw [if_neg (by rintro rfl; exact ha hb), hb, kind?_nil, kind?_nil]
  rw [kind?_eq_lookup hb, kind?_eq_lookup hb, erase, any_eq_isSome_lookup]
  cases hl : t.nodes.lookup a with
  | some old =>
    rw [if_pos Option.isSome_some]
    dsimp only
    rw [lookup_filter_ne]
    split
    · rfl
    · exact lookup_touch t _ b
  | none =>
    rw [if_neg (by simp)]
    split
    · next heq => rw [heq, hl]; rfl
    · rfl

theorem kind?_foldl_put (as : List (List String)) (b : List String) :
    (as.foldl (fun t a => if (t.node? a).isSome then t else t.put a (.dir 0)) t).kind? b =
      if b ∈ as ∧ t.kind? b = none then some (.dir 0) else t.kind? b := by
  induction as generalizing t with
  | nil => simp
  | cons a as ih =>
    rw [List.foldl_cons, ih]
    by_cases hthere : (t.node? a).isSome = true
    · have hkind : t.kind? a ≠ none := by
        rw [Ne, kind?_eq_none]
        exact Option.isSome_iff_ne_none.1 hthere
      rw [if_pos hthere]
      grind
    · have hnone : t.kind? a = none := by simpa [kind?_eq_none] using hthere
      have ha : a ≠ [] := by
        rintro rfl
        exact hthere rfl
      rw [if_neg hthere, kind?_put ha]
      grind [FileNode.untimed]

theorem here_makeDirs (t : FileTree) (a : List String) : (t.makeDirs a).here = t.here := by
  rw [makeDirs]
  induction ancestors a ++ [a] generalizing t with
  | nil => rfl
  | cons b as ih =>
    rw [List.foldl_cons, ih]
    split
    · rfl
    · exact here_put ..

theorem mem_ancestors_append {a b : List String} : b ∈ ancestors a ++ [a] ↔ b <+: a := by
  simp only [ancestors, List.mem_append, List.mem_map, List.mem_range, List.mem_singleton]
  constructor
  · rintro (⟨k, -, rfl⟩ | rfl)
    · exact List.take_prefix k a
    · exact List.prefix_refl b
  · intro h
    by_cases hb : b.length < a.length
    · exact .inl ⟨b.length, hb, (List.prefix_iff_eq_take.1 h).symm⟩
    · exact .inr (h.eq_of_length_le (Nat.not_lt.1 hb))

theorem kind?_makeDirs (a b : List String) :
    (t.makeDirs a).kind? b = if b <+: a ∧ t.kind? b = none then some (.dir 0) else t.kind? b := by
  rw [makeDirs, kind?_foldl_put]
  simp only [mem_ancestors_append]

end Kinds

section Ways

/-- No link is on the way to a place, and no segment leads up. -/
structure Clear (t : FileTree) (a : List String) : Prop where
  down : ".." ∉ a
  noLink : ∀ b, b <+: a → ∀ target, t.node? b ≠ some (.link target)

def Open (t : FileTree) (a : List String) : Prop := ∀ b, b <+: a → t.DirAt b

theorem resolveFrom_of_clear (n : Nat) (place : List String) (h : ".." ∉ ss)
    (hlink : ∀ b, b <+: place ++ ss → ∀ target, t.node? b ≠ some (.link target)) :
    t.resolveFrom n place ss = place ++ ss := by
  induction n generalizing place ss with
  | zero => cases ss <;> simp [resolveFrom]
  | succ n ih =>
    cases ss with
    | nil => simp [resolveFrom]
    | cons s ss =>
      rw [List.mem_cons, not_or] at h
      rw [List.append_cons] at hlink ⊢
      rw [resolveFrom, if_neg (by simpa using Ne.symm h.1)]
      split
      · next target hn => exact absurd hn (hlink _ (List.prefix_append ..) target)
      · exact ih _ h.2 hlink

theorem Clear.of_prefix (h : t.Clear a) (hb : b <+: a) : t.Clear b :=
  ⟨fun hmem => h.down (hb.subset hmem), fun c hc => h.noLink c (hc.trans hb)⟩

theorem Clear.resolve_top (h : t.Clear a) : t.resolve (.top a) = a := by
  rw [resolve]
  exact resolveFrom_of_clear _ [] h.down h.noLink

theorem walk_of_open (place : List String) (h : ".." ∉ ss) (hdirs : t.Open (place ++ ss)) :
    t.walk ss.length place ss = some (place ++ ss) := by
  induction ss generalizing place with
  | nil => simp [walk]
  | cons s ss ih =>
    rw [List.mem_cons, not_or] at h
    rw [List.append_cons] at hdirs ⊢
    have hturn : t.Turn place s (place ++ [s]) [] :=
      .down (Ne.symm h.1) (hdirs _ (List.prefix_append ..))
    exact walk_cons_iff.2 (.inl ⟨_, _, hturn, ih _ h.2 hdirs⟩)

theorem place?_of_open {bytes : List UInt8} {time : Int} (hdirs : t.Open a)
    (hdown : ".." ∉ a ++ [s])
    (hn : t.node? (a ++ [s]) = some (.file bytes time)) :
    t.place? (.top (a ++ [s])) = some (a ++ [s]) := by
  rw [List.mem_append, not_or] at hdown
  have hs : s ≠ ".." := by
    rintro rfl
    exact hdown.2 (List.mem_singleton.2 rfl)
  have hlast : t.walk 1 a [s] = some (a ++ [s]) :=
    walk_cons_iff.2 (.inr ⟨⟨hs, bytes, time, hn⟩, rfl, rfl⟩)
  have hwalk := walk_of_append (walk_of_open [] hdown.1 hdirs) (hdirs a (List.prefix_refl a)) hlast
  have hmore := walk_add hwalk 256
  rw [place?]
  simpa [Path.top, start, Path.absolute, Nat.add_comm] using hmore

theorem Proper.open_of_dirAt (ht : t.Proper) (h : t.DirAt a) : t.Open a := by
  induction a using List.reverseRecOn with
  | nil =>
    intro b hb
    rwa [List.prefix_nil.1 hb]
  | append_singleton a s ih =>
    intro b hb
    rcases List.prefix_concat_iff.1 hb with rfl | hb
    · exact h
    · exact ih (by simpa using ht.dropLast h) b hb

theorem Clear.open_makeDirs (h : t.Clear a)
    (hfile : ∀ b, b <+: a → ∀ bytes time, t.node? b ≠ some (.file bytes time)) :
    (t.makeDirs a).Open a := by
  intro b hb
  rw [← kind?_eq_dir, kind?_makeDirs]
  split
  · rfl
  · next hthere =>
    rw [kind?_eq_dir, DirAt]
    cases hn : t.node? b with
    | none => exact absurd ⟨hb, kind?_eq_none.2 hn⟩ hthere
    | some node =>
      cases node with
      | file bytes time => exact absurd hn (hfile b hb bytes time)
      | dir time => exact ⟨time, rfl⟩
      | link target => exact absurd hn (h.noLink b hb target)

theorem Open.put_child (h : t.Open a) (s : String) (node : FileNode) :
    (t.put (a ++ [s]) node).Open a := by
  intro b hb
  have hne : b ≠ a ++ [s] := by
    rintro rfl
    exact absurd hb.length_le (by simp)
  rw [← kind?_eq_dir, kind?_put (by simp), if_neg hne, kind?_eq_dir]
  exact h b hb

theorem Open.erase (h : t.Open a) (hb : b ≠ []) (hout : ¬ b <+: a) : (t.erase b).Open a := by
  intro c hc
  have hne : c ≠ b := by
    rintro rfl
    exact hout hc
  rw [← kind?_eq_dir, kind?_erase hb, if_neg hne, kind?_eq_dir]
  exact h c hc

theorem walk_unique {m : Nat} (h : t.walk n place ss = some a) (h' : t.walk m place ss = some b) :
    a = b := by
  have hlong := walk_add h m
  rw [Nat.add_comm, walk_add h' n] at hlong
  exact (Option.some.inj hlong).symm

theorem Proper.put_file {bytes bytes' : List UInt8} {time time' : Int} (ht : t.Proper)
    (hn : t.node? a = some (.file bytes time)) : (t.put a (.file bytes' time')).Proper := by
  have ha : a ≠ [] := by
    rintro rfl
    cases hn
  have hdir {b : List String} (hb : t.DirAt b) : (t.put a (.file bytes' time')).DirAt b := by
    have hne : b ≠ a := by
      rintro rfl
      obtain ⟨time, hb⟩ := hb
      cases hn.symm.trans hb
    rwa [← kind?_eq_dir, kind?_put ha, if_neg hne, kind?_eq_dir]
  have hkeys : ∀ e ∈ (t.put a (.file bytes' time')).nodes, ∃ e₀ ∈ t.nodes, e.1 = e₀.1 := by
    have hthere : t.nodes.any (·.1 == a) = true :=
      List.any_eq_true.2 ⟨_, mem_nodes_of_node? hn ha, beq_self_eq_true a⟩
    rw [put, if_pos hthere]
    rintro e he
    obtain ⟨e₀, he₀, rfl⟩ := List.mem_map.1 he
    refine ⟨e₀, he₀, ?_⟩
    split
    · next heq => exact (eq_of_beq heq).symm
    · rfl
  refine ⟨fun e he => ?_, fun e he => ?_, ?_⟩
  · obtain ⟨e₀, he₀, heq⟩ := hkeys e he
    rw [heq]
    exact hdir (ht.parent e₀ he₀)
  · obtain ⟨e₀, he₀, heq⟩ := hkeys e he
    rw [heq]
    exact ht.name e₀ he₀
  · rw [here_put]
    exact hdir ht.here

/-- A name that leads to a file is no directory, and a link of this name leads to the file. -/
theorem exists_of_walk_name {x : List String} (hs : s ≠ "..") (hx : t.walk n place [s] = some x)
    (hfile : ¬ t.DirAt x) :
    t.FileIn place s ∧ x = place ++ [s] ∨ ∃ target, t.node? (place ++ [s]) = some (.link target) ∧
      ∃ k, t.walk k (if target.absolute then [] else place) target.segments = some x := by
  obtain _ | k := n
  · cases hx
  rcases walk_cons_iff.1 hx with ⟨place', more, hturn, hx⟩ | ⟨hin, -, rfl⟩
  · rw [List.append_nil] at hx
    cases hturn with
    | up hup => exact absurd hup hs
    | down _ hdir =>
      have hend : t.walk k (place ++ [s]) [] = some (place ++ [s]) := by rw [walk]
      exact absurd (walk_unique hx hend ▸ hdir) hfile
    | follow _ hlink => exact .inr ⟨_, hlink, k, hx⟩
  · exact .inl ⟨hin, rfl⟩

/-- Where segments lead to a file, no further segment leads on. -/
theorem Proper.eq_of_walk_append {m : Nat} {rest x : List String} (ht : t.Proper)
    (hplace : t.DirAt place) (hx : t.walk m place ss = some x) (hfile : ¬ t.DirAt x)
    (h : t.walk n place (ss ++ rest) = some a) : a = x := by
  obtain ⟨_, mid, -, hmid, hrest, hdir⟩ := ht.walk_append hplace h
  obtain rfl := walk_unique hmid hx
  cases rest with
  | nil => simpa only [walk, Option.some.injEq, eq_comm] using hrest
  | cons _ _ => exact absurd (hdir (List.cons_ne_nil _ _)) hfile

/-- What leads to one file leads there still when a name that leads to another one is gone. -/
theorem Proper.walk_erase {m : Nat} {up x : List String} (ht : t.Proper) (hs : s ≠ "..")
    (hx : t.walk m up [s] = some x) (hfile : ¬ t.DirAt x) (hplace : t.DirAt place)
    (h : t.walk n place ss = some a) (hne : a ≠ x) :
    (t.erase (up ++ [s])).walk n place ss = some a := by
  have hkind {c : List String} (hc : c ≠ up ++ [s]) :
      (t.erase (up ++ [s])).kind? c = t.kind? c := by
    rw [kind?_erase (by simp), if_neg hc]
  have hgone := exists_of_walk_name hs hx hfile
  induction n generalizing place ss with
  | zero =>
    cases ss with
    | nil => simpa only [walk] using h
    | cons _ _ => cases h
  | succ n ih =>
    cases ss with
    | nil => simpa only [walk] using h
    | cons s' rest =>
      rcases walk_cons_iff.1 h with ⟨place', more, hturn, h⟩ | ⟨⟨hs', bytes, time, hn⟩, rfl, rfl⟩
      · refine walk_cons_iff.2 (.inl ⟨place', more, ?_, ih (ht.dirAt_turn hplace hturn) h⟩)
        cases hturn with
        | up hup => exact .up hup
        | down hs' hdir =>
          refine .down hs' ?_
          rw [← kind?_eq_dir, hkind, kind?_eq_dir]
          · exact hdir
          · intro heq
            rw [heq] at hdir
            obtain ⟨_, hdir⟩ := hdir
            rcases hgone with ⟨⟨-, _, _, hn⟩, -⟩ | ⟨_, hn, -⟩ <;> cases hdir.symm.trans hn
        | @follow target hs' hlink =>
          refine .follow hs' ?_
          rw [← kind?_eq_link, hkind, kind?_eq_link]
          · exact hlink
          · -- behind the link is the other file, where no segment leads on
            intro heq
            obtain ⟨rfl, hlast⟩ := List.append_inj' heq rfl
            obtain rfl : s' = s := by simpa using hlast
            rcases hgone with ⟨⟨-, _, _, hn⟩, -⟩ | ⟨target', hn, k, hx⟩
            · cases hlink.symm.trans hn
            obtain rfl : target = target' := by simpa using hlink.symm.trans hn
            have hstart := ht.dirAt_turn hplace (.follow hs hlink)
            exact hne (ht.eq_of_walk_append hstart hx hfile h)
      · refine walk_cons_iff.2 (.inr ⟨⟨hs', bytes, time, ?_⟩, rfl, rfl⟩)
        rw [← kind?_eq_file, hkind, kind?_eq_file]
        · exact hn
        · intro heq
          rcases hgone with ⟨-, rfl⟩ | ⟨_, hlink, -⟩
          · exact hne heq
          · rw [heq] at hn
            cases hlink.symm.trans hn

theorem Proper.content?_erase {bytes bytes' : List UInt8} (ht : t.Proper) (hs : s ≠ "..")
    (hkept : t.content? (.top ss) = some bytes)
    (hgone : t.content? (Path.here.child s) = some bytes')
    (hne : t.resolve (Path.here.child s) ≠ t.resolve (.top ss)) :
    (t.erase (t.here ++ [s])).content? (.top ss) = some bytes := by
  obtain ⟨a, time, ha, hn⟩ := exists_of_content? hkept
  obtain ⟨x, _, hx, hnx⟩ := exists_of_content? hgone
  rw [resolve_of_place? ha, resolve_of_place? hx] at hne
  have hfile : ¬ t.DirAt x := by
    rintro ⟨_, hdir⟩
    cases hnx.symm.trans hdir
  have hstays : (t.erase (t.here ++ [s])).place? (.top ss) = some a :=
    ht.walk_erase hs hx hfile (dirAt_top t) ha (Ne.symm hne)
  have hother : a ≠ t.here ++ [s] := by
    rintro rfl
    have hhere : t.walk 1 t.here [s] = some (t.here ++ [s]) :=
      walk_cons_iff.2 (.inr ⟨⟨hs, _, _, hn⟩, rfl, rfl⟩)
    exact hne (walk_unique hx hhere)
  have hthere : (t.erase (t.here ++ [s])).node? a = some (.file bytes time) := by
    rwa [← kind?_eq_file, kind?_erase (by simp), if_neg hother, kind?_eq_file]
  exact content?_of_node? hstays hthere

/-- What is written through a path that leads to a file stays readable there when a name that leads
to another file is gone. -/
theorem Proper.content?_put_erase {bytes bytes' new : List UInt8} {time : Int} (ht : t.Proper)
    (hs : s ≠ "..") (hplace : t.place? (.top ss) = some a) (hn : t.node? a = some (.file bytes time))
    (hgone : t.content? (Path.here.child s) = some bytes')
    (hne : t.resolve (Path.here.child s) ≠ t.resolve (.top ss)) (time' : Int) :
    ((t.put a (.file new time')).erase (t.here ++ [s])).content? (.top ss) = some new := by
  have hwrites : Rewritten (· = a) t (t.put a (.file new time')) := (Rewritten.refl _ _).put rfl hn
  obtain ⟨x, _, hx, hnx⟩ := exists_of_content? hgone
  have hother : x ≠ a := by rwa [resolve_of_place? hx, resolve_of_place? hplace] at hne
  have hleads : (t.put a (.file new time')).content? (Path.here.child s) = some bytes' :=
    content?_of_node? ((hwrites.place?_eq _).trans hx) (by rw [node?_put hn, if_neg hother, hnx])
  rw [← here_put t a (.file new time')]
  exact (ht.put_file hn).content?_erase hs (content?_put hplace hn time') hleads
    (by rwa [hwrites.resolve_eq, hwrites.resolve_eq])

end Ways

end FileTree

end TypedTemplate
