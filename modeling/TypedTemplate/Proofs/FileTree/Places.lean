import TypedTemplate.FileTree.Search

/-! Where paths lead in a tree whose entries all stand in directories. A path leads somewhere
exactly if its front leads to a directory and its last segments lead on from there. -/
namespace TypedTemplate

def Path.descend (p : Path) (ss : List String) : Path := ⟨p.anchor, p.segments ++ ss⟩

@[simp] theorem Path.descend_nil (p : Path) : p.descend [] = p := by
  simp [descend]

theorem Path.descend_cons (p : Path) (s : String) (ss : List String) :
    p.descend (s :: ss) = (p.child s).descend ss := by
  simp [descend, child]

theorem Path.descend_append (p : Path) (ss ss' : List String) :
    p.descend (ss ++ ss') = (p.descend ss).descend ss' := by
  simp [descend]

theorem Path.descend_inj {p : Path} {ss ss' : List String} :
    p.descend ss = p.descend ss' ↔ ss = ss' := by
  simp [descend]

namespace FileTree

variable {t : FileTree} {a b place front back segments ss : List String} {s : String} {n k : Nat}
  {p : Path}

def DirAt (t : FileTree) (a : List String) : Prop := ∃ time, t.node? a = some (.dir time)

/-- Every entry stands in a directory and has a name, and the current directory is there. -/
structure Proper (t : FileTree) : Prop where
  parent : ∀ e ∈ t.nodes, t.DirAt e.1.dropLast
  name : ∀ e ∈ t.nodes, e.1.getLast? ≠ some "" ∧ e.1.getLast? ≠ some ".."
  here : t.DirAt t.here

section Nodes

theorem dirAt_top (t : FileTree) : t.DirAt [] := ⟨0, rfl⟩

theorem mem_nodes_of_node? {node : FileNode} (h : t.node? a = some node) (ha : a ≠ []) :
    (a, node) ∈ t.nodes := by
  rw [node?, if_neg (by simpa using ha)] at h
  obtain ⟨l, l', hl, -⟩ := List.lookup_eq_some_iff.1 h
  simp [hl]

theorem Proper.dropLast (ht : t.Proper) (h : t.DirAt a) : t.DirAt a.dropLast := by
  obtain ⟨time, h⟩ := h
  by_cases ha : a = []
  · exact ha ▸ dirAt_top t
  · exact ht.parent _ (mem_nodes_of_node? h ha)

theorem Proper.dirAt_start (ht : t.Proper) (p : Path) : t.DirAt (t.start p) := by
  rw [start]
  split
  · exact dirAt_top t
  · exact ht.here

theorem Proper.node?_name (ht : t.Proper) {node : FileNode} (h : t.node? (a ++ [s]) = some node) :
    s ≠ "" ∧ s ≠ ".." := by
  simpa using ht.name _ (mem_nodes_of_node? h (by simp))

end Nodes

section Walks

/-- One segment leads from a place to another, with the segments of a link that is followed still to
come. -/
inductive Turn (t : FileTree) (place : List String) (s : String) :
    (place' more : List String) → Prop
  | up (hs : s = "..") : Turn t place s place.dropLast []
  | down (hs : s ≠ "..") (h : t.DirAt (place ++ [s])) : Turn t place s (place ++ [s]) []
  | follow {target : Path} (hs : s ≠ "..") (h : t.node? (place ++ [s]) = some (.link target)) :
      Turn t place s (if target.absolute then [] else place) target.segments

def FileIn (t : FileTree) (place : List String) (s : String) : Prop :=
  s ≠ ".." ∧ ∃ content time, t.node? (place ++ [s]) = some (.file content time)

theorem walk_cons_iff {rest : List String} : t.walk (n + 1) place (s :: rest) = some a ↔
    (∃ place' more, t.Turn place s place' more ∧ t.walk n place' (more ++ rest) = some a) ∨
      t.FileIn place s ∧ rest = [] ∧ a = place ++ [s] := by
  rw [walk]
  constructor
  · intro h
    split at h
    · next hs => exact .inl ⟨_, _, .up (eq_of_beq hs), h⟩
    · next hs =>
      have hs : s ≠ ".." := by simpa using hs
      split at h
      · next time hn => exact .inl ⟨_, _, .down hs ⟨time, hn⟩, h⟩
      · next content time hn =>
        split at h
        · next hrest =>
            exact .inr ⟨⟨hs, content, time, hn⟩, List.isEmpty_iff.1 hrest, (Option.some.inj h).symm⟩
        · cases h
      · next target hn => exact .inl ⟨_, _, .follow hs hn, h⟩
      · cases h
  · rintro (⟨place', more, hturn, h⟩ | ⟨⟨hs, content, time, hn⟩, rfl, rfl⟩)
    · cases hturn with
      | up hs => simpa [hs] using h
      | down hs hn =>
        obtain ⟨time, hn⟩ := hn
        simpa [hs, hn] using h
      | follow hs hn => simpa [hs, hn] using h
    · simp [hs, hn]

theorem length_le_of_walk (h : t.walk n place segments = some a) : segments.length ≤ n := by
  induction n generalizing place segments with
  | zero =>
    cases segments with
    | nil => exact Nat.le_refl _
    | cons s rest => cases h
  | succ n ih =>
    cases segments with
    | nil => exact Nat.zero_le _
    | cons s rest =>
      rcases walk_cons_iff.1 h with ⟨place', more, -, h⟩ | ⟨-, rfl, -⟩
      · have hmore := ih h
        rw [List.length_append] at hmore
        rw [List.length_cons]
        omega
      · simp

theorem walk_add (h : t.walk n place segments = some a) (k : Nat) :
    t.walk (n + k) place segments = some a := by
  induction n generalizing place segments with
  | zero =>
    cases segments with
    | nil => simpa only [walk] using h
    | cons s rest => cases h
  | succ n ih =>
    cases segments with
    | nil => simpa only [walk] using h
    | cons s rest =>
      rw [Nat.add_right_comm]
      exact walk_cons_iff.2 ((walk_cons_iff.1 h).imp_left fun ⟨place', more, hturn, h⟩ =>
        ⟨place', more, hturn, ih h⟩)

theorem Proper.dirAt_turn (ht : t.Proper) (h : t.DirAt place) (hturn : t.Turn place s a back) :
    t.DirAt a := by
  cases hturn with
  | up => exact ht.dropLast h
  | down _ hn => exact hn
  | follow =>
    split
    · exact dirAt_top t
    · exact h

theorem Proper.walk_append (ht : t.Proper) (hplace : t.DirAt place)
    (h : t.walk n place (front ++ back) = some a) :
    ∃ k mid, k + back.length ≤ n ∧ t.walk k place front = some mid ∧
      t.walk (n - k) mid back = some a ∧ (back ≠ [] → t.DirAt mid) := by
  induction n generalizing place front with
  | zero =>
    have hlength := length_le_of_walk h
    obtain ⟨rfl, rfl⟩ : front = [] ∧ back = [] := by simpa using hlength
    exact ⟨0, place, Nat.le_refl _, rfl, h, fun hne => absurd rfl hne⟩
  | succ n ih =>
    cases front with
    | nil => exact ⟨0, place, by simpa using length_le_of_walk h, by rw [walk], h, fun _ => hplace⟩
    | cons s rest =>
      rw [List.cons_append] at h
      rcases walk_cons_iff.1 h with ⟨place', more, hturn, h⟩ | ⟨hfile, hrest, rfl⟩
      · rw [← List.append_assoc] at h
        obtain ⟨k, mid, hk, hfront, hback, hdir⟩ := ih (ht.dirAt_turn hplace hturn) h
        exact ⟨k + 1, mid, by omega, walk_cons_iff.2 (.inl ⟨place', more, hturn, hfront⟩),
          by rwa [Nat.add_sub_add_right], hdir⟩
      · obtain ⟨rfl, rfl⟩ := List.append_eq_nil_iff.1 hrest
        exact ⟨1, place ++ [s], by simp, walk_cons_iff.2 (.inr ⟨hfile, rfl, rfl⟩), by rw [walk],
          fun hne => absurd rfl hne⟩

theorem walk_of_append (h : t.walk n place front = some a) (ha : t.DirAt a)
    (hback : t.walk k a back = some b) :
    t.walk (n + k) place (front ++ back) = some b := by
  induction n generalizing place front with
  | zero =>
    cases front with
    | nil =>
      cases h
      rwa [Nat.zero_add]
    | cons s rest => cases h
  | succ n ih =>
    cases front with
    | nil =>
      cases h
      rw [Nat.add_comm]
      exact walk_add hback _
    | cons s rest =>
      rw [Nat.add_right_comm, List.cons_append]
      rcases walk_cons_iff.1 h with ⟨place', more, hturn, h⟩ | ⟨⟨-, content, time, hn⟩, -, rfl⟩
      · exact walk_cons_iff.2 (.inl ⟨place', more, hturn, by rw [← List.append_assoc]; exact ih h⟩)
      · obtain ⟨time', hdir⟩ := ha
        cases hn.symm.trans hdir

end Walks

section Paths

theorem isDir_iff : t.isDir p = true ↔ ∃ a, t.place? p = some a ∧ t.DirAt a := by
  rw [isDir, at?]
  cases hp : t.place? p with
  | none => simp
  | some a =>
    simp only [Option.bind_some, Option.some.injEq, exists_eq_left', DirAt]
    split <;> simp_all

theorem isFile_iff : t.isFile p = true ↔ ∃ a content time, t.place? p = some a ∧
    t.node? a = some (.file content time) := by
  rw [isFile, at?]
  cases hp : t.place? p with
  | none => simp
  | some a =>
    simp only [Option.bind_some, Option.some.injEq, exists_and_left, exists_eq_left']
    split <;> simp_all

theorem not_isFile_of_isDir (h : t.isDir p = true) : t.isFile p = false := by
  obtain ⟨a, ha, time, hn⟩ := isDir_iff.1 h
  rw [isFile, at?, ha, Option.bind_some, hn]

theorem Proper.place?_descend (ht : t.Proper) (h : t.place? (p.descend ss) = some b) :
    ∃ a n, t.place? p = some a ∧ t.walk n a ss = some b ∧ (ss ≠ [] → t.DirAt a) := by
  rw [place?, show (p.descend ss).segments = p.segments ++ ss from rfl,
    show t.start (p.descend ss) = t.start p from rfl] at h
  obtain ⟨k, a, hk, hp, hss, hdir⟩ := ht.walk_append (ht.dirAt_start p) h
  rw [List.length_append] at hk
  refine ⟨a, _, ?_, hss, hdir⟩
  rw [place?, show p.segments.length + 256 = k + (p.segments.length + 256 - k) by omega]
  exact walk_add hp _

theorem Proper.isDir_of_below (ht : t.Proper) (h : t.place? (p.descend (s :: ss)) = some b) :
    t.isDir p = true := by
  obtain ⟨a, -, hp, -, hdir⟩ := ht.place?_descend h
  exact isDir_iff.2 ⟨a, hp, hdir (by simp)⟩

theorem nameIn_eq_some : nameIn a b = some s ↔ b = a ++ [s] := by
  rw [nameIn]
  constructor
  · intro h
    split at h
    · next hdrop =>
      obtain ⟨front, rfl⟩ := List.getLast?_eq_some_iff.1 h
      rw [← eq_of_beq hdrop, List.dropLast_concat]
    · cases h
  · rintro rfl
    simp

theorem mem_names (hp : t.place? p = some a) (ha : t.DirAt a) :
    s ∈ t.names p ↔ (t.node? (a ++ [s])).isSome = true := by
  obtain ⟨time, hn⟩ := ha
  rw [names, hp]
  simp only [hn, List.mem_mergeSort, List.mem_filterMap, nameIn_eq_some]
  rw [node?, if_neg (by simp)]
  cases hl : t.nodes.lookup (a ++ [s]) with
  | none =>
    rw [List.lookup_eq_none_iff] at hl
    refine iff_of_false ?_ (by simp)
    rintro ⟨e, he, hkey⟩
    simpa [hkey] using hl e he
  | some node =>
    obtain ⟨l, l', hnodes, -⟩ := List.lookup_eq_some_iff.1 hl
    exact iff_of_true ⟨(a ++ [s], node), by simp [hnodes], rfl⟩ rfl

theorem Proper.mem_names_of_below (ht : t.Proper) (hs : s ≠ "..")
    (h : t.place? (p.descend (s :: ss)) = some b) :
    s ∈ t.names p := by
  obtain ⟨a, n, hp, hwalk, hdir⟩ := ht.place?_descend h
  rw [mem_names hp (hdir (by simp))]
  cases n with
  | zero => cases hwalk
  | succ n =>
    rcases walk_cons_iff.1 hwalk with ⟨place', more, hturn, -⟩ | ⟨⟨-, content, time, hn⟩, -⟩
    · cases hturn with
      | up hup => exact absurd hup hs
      | down _ hn =>
        obtain ⟨time, hn⟩ := hn
        rw [hn]
        rfl
      | follow _ hn =>
        rw [hn]
        rfl
    · rw [hn]
      rfl

theorem Proper.ne_of_mem_names (ht : t.Proper) (h : s ∈ t.names p) : s ≠ "" ∧ s ≠ ".." := by
  have hlisted := h
  rw [names] at h
  split at h
  · cases h
  · next a ha =>
    split at h
    · next time hn =>
      obtain ⟨node, hnode⟩ := Option.isSome_iff_exists.1 ((mem_names ha ⟨time, hn⟩).1 hlisted)
      exact ht.node?_name hnode
    · cases h

theorem isLink_child (hp : t.place? p = some a) :
    isPlainDir.isLink t (p.child s) = true ↔
      ∃ target, t.node? (a ++ [s]) = some (.link target) := by
  have hparent : (p.child s).parent = p := by simp [Path.child, Path.parent]
  have hname : (p.child s).name = s := by simp [Path.child, Path.name]
  rw [isPlainDir.isLink, hparent, hp, hname]
  dsimp only
  split <;> simp_all

theorem Proper.isPlainDir_child (ht : t.Proper) (hp : t.place? p = some a) (hs : s ≠ "..") :
    t.isPlainDir (p.child s) = true ↔ t.place? (p.child s) = some (a ++ [s]) ∧
      t.DirAt (a ++ [s]) := by
  rw [isPlainDir, Bool.and_eq_true, Bool.not_eq_true', isDir_iff, ← Bool.not_eq_true,
    isLink_child hp]
  constructor
  · rintro ⟨⟨b, hb, hdir⟩, hlink⟩
    obtain ⟨a', n, ha', hwalk, -⟩ :=
      ht.place?_descend (show t.place? (p.descend [s]) = some b from hb)
    cases hp.symm.trans ha'
    have hplace : b = a ++ [s] := by
      cases n with
      | zero => cases hwalk
      | succ n =>
        rcases walk_cons_iff.1 hwalk with ⟨place', more, hturn, hend⟩ | ⟨-, -, hend⟩
        · cases hturn with
          | up hup => exact absurd hup hs
          | down =>
            rw [List.append_nil, walk] at hend
            exact (Option.some.inj hend).symm
          | follow _ hn => exact absurd ⟨_, hn⟩ hlink
        · exact hend
    exact ⟨hplace ▸ hb, hplace ▸ hdir⟩
  · rintro ⟨hplace, hdir⟩
    refine ⟨⟨_, hplace, hdir⟩, ?_⟩
    rintro ⟨target, hlink⟩
    obtain ⟨time, hn⟩ := hdir
    cases hn.symm.trans hlink

end Paths

end FileTree

end TypedTemplate
