import Mathlib.Data.List.SplitBy
import TypedTemplate.Proofs.Directive.Overlooked
import TypedTemplate.Style.Lint

/-! Runs of imports. The comments of a template come in the order of their lines, so that a gap in
one direction is all that can end a run; each run is judged by itself. -/
namespace TypedTemplate

namespace Comment

theorem pairwise_scan_start (s : List Char) :
    (scan .start s).Pairwise fun a b => a.1.line ≤ b.1.line := by
  rw [scan_start]
  refine List.pairwise_filterMap.2 (List.pairwise_lt_range.imp fun {p q} hpq a ha b hb => ?_)
  have hcount := (List.take_prefix_take_left (l := s) hpq.le).sublist.count_le '\n'
  rw [(foundAt_eq_some_iff.1 ha).2, (foundAt_eq_some_iff.1 hb).2]
  simp only [placeAfter]
  omega

variable {filename content : String} {cs : List Comment}

theorem pairwise_line_of_parseAll (h : parseAll filename content = .ok cs) :
    cs.Pairwise fun a b => a.position.line ≤ b.position.line := by
  have hread : ((scan .start content.toList).map (read filename)).Pairwise
      fun x y => ∀ a b, x = .ok a → y = .ok b → a.position.line ≤ b.position.line :=
    List.pairwise_map.2 ((pairwise_scan_start _).imp fun hline a b ha hb => by
      rwa [(read_eq_ok_iff.1 ha).1, (read_eq_ok_iff.1 hb).1])
  rw [map_eq_of_mapM h] at hread
  exact (List.pairwise_map.1 hread).imp fun hline => hline _ _ rfl rfl

theorem one_le_line_of_parseAll (h : parseAll filename content = .ok cs) {c : Comment}
    (hc : c ∈ cs) :
    1 ≤ c.position.line := by
  obtain ⟨p, _, _, -, hplace, -⟩ := (mem_of_parseAll h c).1 hc
  rw [hplace, placeAfter]
  exact Int.le_add_of_nonneg_right (Int.natCast_nonneg _)

end Comment

namespace Style

/-- The line and the key of an import. -/
def importKey? (c : Comment) : Option (Int × String) :=
  match c.directive with
  | .importModule m => some (c.position.line, "0:" ++ m)
  | .importFrom m _ => some (c.position.line, "1:" ++ m)
  | .varTypes _ | .filter _ | .macroSignature _ | .ignore => none

/-- Two imports with at most one line between them, whichever comes first. -/
def near (i j : Int × String) : Bool := decide ((j.1 - i.1).natAbs ≤ 2)

/-- Keys that do not fall. -/
abbrev Ordered (r : List (Int × String)) : Prop := (r.map (·.2)).Pairwise (· ≤ ·)

/-- The finding at the first import of a run. -/
def disorder (filename : String) (first : Int × String) : Issue :=
  ⟨.warning, "Imports should be sorted alphabetically", filename, first.1, 0, none,
    some "Group imports by type (import first, then from) and sort alphabetically"⟩

def verdict (filename : String) (r : List (Int × String)) : Option Issue :=
  if Ordered r then none else r.head?.map (disorder filename)

def ImportLine.mark (i : ImportLine) : Int × String := (i.line, i.key)

section Block

variable (filename : String)

theorem eq_inOrder_iff {block : List ImportLine} :
    block = inOrder ImportLine.key block ↔ Ordered (block.map ImportLine.mark) := by
  rw [inOrder, eq_mergeSort_key_iff, Ordered, List.map_map]
  rfl

theorem unsortedBlock_eq (block : List ImportLine) :
    unsortedBlock filename block = (verdict filename (block.map ImportLine.mark)).toList := by
  match block with
  | [] => simp [unsortedBlock, verdict]
  | [_] => simp [unsortedBlock, verdict, Ordered]
  | i :: j :: rest =>
    rw [unsortedBlock, verdict]
    split
    · next hsorted => rw [if_pos (eq_inOrder_iff.1 hsorted), Option.toList_none]
    · next hsorted =>
      rw [if_neg (mt eq_inOrder_iff.2 hsorted)]
      rfl

theorem unsortedBlock_eq_nil_iff (block : List ImportLine) :
    unsortedBlock filename block = [] ↔ Rule.sortedImports.accepts (block.map ImportLine.key) =
      true := by
  have hkeys : Ordered (block.map ImportLine.mark) ↔
    block.map ImportLine.key = inOrder id (block.map ImportLine.key) := by
    rw [inOrder, eq_mergeSort_key_iff, Ordered, List.map_map, List.map_id]
    rfl
  rw [unsortedBlock_eq, verdict, Rule.accepts, Bool.or_eq_true, decide_eq_true_iff, beq_iff_eq,
    ← hkeys]
  match block with
  | [] => simp
  | [i] => simp [Ordered]
  | i :: j :: rest => simp

theorem toList_verdict (r : List (Int × String)) :
    (verdict filename r).toList = [r].filterMap (verdict filename) := by
  rw [List.filterMap_cons, List.filterMap_nil]
  cases verdict filename r <;> rfl

end Block

namespace ImportScan

variable {filename : String}

structure Begun (k : ImportScan) : Prop where
  chain : (k.block.map ImportLine.mark).IsChain fun i j => near i j = true
  last : k.block.getLast?.map ImportLine.line = some k.last
  counted : 1 ≤ k.last

variable {k : ImportScan}

theorem Begun.block_ne_nil (hk : k.Begun) : k.block ≠ [] := by
  intro hnil
  have hlast := hk.last
  rw [hnil] at hlast
  cases hlast

theorem Begun.getLast? (hk : k.Begun) :
    ∃ i, (k.block.map ImportLine.mark).getLast? = some i ∧ i.1 = k.last := by
  obtain ⟨i, hi, hline⟩ := Option.map_eq_some_iff.1 hk.last
  exact ⟨i.mark, by rw [List.getLast?_map, hi]; rfl, hline⟩

theorem begun_single (found : List Issue) {i : ImportLine} (hi : 1 ≤ i.line) :
    Begun ⟨found, [i], i.line⟩ :=
  ⟨.singleton _, rfl, hi⟩

theorem Begun.concat (hk : k.Begun) {i : ImportLine} (hle : k.last ≤ i.line)
    (hgap : i.line - k.last ≤ 2) :
    Begun ⟨k.found, k.block ++ [i], i.line⟩ := by
  refine ⟨?_, by simp, Int.le_trans hk.counted hle⟩
  rw [List.map_append, List.map_singleton]
  refine hk.chain.append (.singleton _) fun j hj i' hi' => ?_
  obtain ⟨j', hlast, hline⟩ := hk.getLast?
  obtain rfl : j' = j := Option.some.inj (hlast.symm.trans hj)
  obtain rfl : i.mark = i' := Option.some.inj hi'
  refine decide_eq_true ?_
  change (i.line - j'.1).natAbs ≤ 2
  omega

theorem Begun.close_eq (hk : k.Begun) : k.close filename =
    ⟨k.found ++ (verdict filename (k.block.map ImportLine.mark)).toList, [], k.last⟩ := by
  rw [close, if_neg (by simpa using hk.block_ne_nil), unsortedBlock_eq]

theorem Begun.add_far (hk : k.Begun) {i : ImportLine} (hgap : i.line - k.last > 2) :
    k.add filename i =
    ⟨k.found ++ (verdict filename (k.block.map ImportLine.mark)).toList, [i], i.line⟩ := by
  have hseen : k.last ≠ -1 := by
    have := hk.counted
    omega
  rw [add, if_pos ⟨hseen, hgap⟩, hk.close_eq]
  rfl

/-- Going on with imports in the order of their lines, the findings to come are those of the runs
into which the block and these imports fall. -/
theorem Begun.found_foldl (hk : k.Begun) {is : List ImportLine}
    (hlines : (k.last :: is.map ImportLine.line).Pairwise (· ≤ ·)) :
    ((is.foldl (add filename) k).close filename).found =
      k.found ++ (((k.block ++ is).map ImportLine.mark).splitBy near).filterMap
        (verdict filename) := by
  induction is generalizing k with
  | nil =>
    rw [List.append_nil, List.splitBy_of_isChain (by simpa using hk.block_ne_nil) hk.chain,
      List.foldl_nil, hk.close_eq, toList_verdict]
  | cons i is ih =>
    obtain ⟨hle, hrest⟩ := List.pairwise_cons.1 hlines
    have hline : k.last ≤ i.line := hle _ (by simp)
    rw [List.foldl_cons]
    by_cases hgap : i.line - k.last > 2
    · have hne : k.block.map ImportLine.mark ≠ [] := by simpa using hk.block_ne_nil
      have hfar : ∀ j ∈ (k.block.map ImportLine.mark).getLast?, near j i.mark = false := by
        intro j hj
        obtain ⟨j', hlast, hline⟩ := hk.getLast?
        obtain rfl : j' = j := Option.some.inj (hlast.symm.trans hj)
        refine decide_eq_false ?_
        change ¬ (i.line - j'.1).natAbs ≤ 2
        omega
      have hsplit : ((k.block ++ i :: is).map ImportLine.mark).splitBy near =
          [k.block.map ImportLine.mark] ++ ((i :: is).map ImportLine.mark).splitBy near := by
        rw [List.map_append, List.map_cons, List.splitBy_append_cons _ hfar,
          List.splitBy_of_isChain hne hk.chain]
      rw [hk.add_far hgap, ih (begun_single _ (Int.le_trans hk.counted hline)) hrest, hsplit,
        List.filterMap_append, toList_verdict, List.append_assoc]
      rfl
    · rw [add, if_neg fun h => hgap h.2, ih (hk.concat hline (by omega)) hrest, List.append_assoc]
      rfl

end ImportScan

def importLine? (c : Comment) : Option ImportLine :=
  match c.directive with
  | .importModule m => some ⟨c.position.line, "0:" ++ m, "import " ++ m⟩
  | .importFrom m names => some ⟨c.position.line, "1:" ++ m,
      "from " ++ m ++ " import " ++ Text.joinWith ", " (names.map ImportedName.render)⟩
  | _ => none

theorem step_eq (filename : String) (k : ImportScan) (c : Comment) :
    k.step filename c = ((importLine? c).map (k.add filename)).getD k := by
  rw [ImportScan.step, importLine?]
  cases c.directive <;> rfl

theorem map_mark_importLine? (c : Comment) :
    (importLine? c).map ImportLine.mark = importKey? c := by
  rw [importLine?, importKey?]
  cases c.directive <;> rfl

theorem line_importLine? {c : Comment} {i : ImportLine} (h : importLine? c = some i) :
    i.line = c.position.line := by
  rw [importLine?] at h
  split at h <;> cases h <;> rfl

theorem unsorted_eq_foldl (filename : String) (cs : List Comment) :
    unsorted filename cs =
    (((cs.filterMap importLine?).foldl (ImportScan.add filename) .start).close filename).found := by
  rw [unsorted, List.foldl_filterMap]
  congr 3
  funext k c
  rw [step_eq]
  cases importLine? c <;> rfl

/-- The imports of a template fall into the longest runs in which neighbours are at most two
lines apart. The rule has one finding for each run whose keys are out of order, at the line of
its first import, and no other finding. -/
theorem apply_sortedImports {template content : String} {cs : List Comment}
    (h : Comment.parseAll template content = .ok cs) {s : Settings} (hs : s.sortedImports = true)
    (filename : String)
    (text : List Char) :
    apply s filename text cs .sortedImports = ((cs.filterMap importKey?).splitBy near).filterMap
      fun r => if Ordered r then none else r.head?.map (disorder filename) := by
  have hkeys : cs.filterMap importKey? = (cs.filterMap importLine?).map ImportLine.mark := by
    rw [List.map_filterMap]
    exact List.filterMap_congr fun c _ => (map_mark_importLine? c).symm
  have hlines : ((cs.filterMap importLine?).map ImportLine.line).Pairwise (· ≤ ·) := by
    refine List.pairwise_map.2
      (List.pairwise_filterMap.2 ((Comment.pairwise_line_of_parseAll h).imp ?_))
    intro a b hline i hi j hj
    rwa [line_importLine? hi, line_importLine? hj]
  have hfirst : ∀ i ∈ cs.filterMap importLine?, 1 ≤ i.line := by
    intro i hi
    obtain ⟨c, hc, hci⟩ := List.mem_filterMap.1 hi
    rw [line_importLine? hci]
    exact Comment.one_le_line_of_parseAll h hc
  rw [apply, if_pos hs, unsorted_eq_foldl, hkeys]
  cases hi : cs.filterMap importLine? with
  | nil => rfl
  | cons i is =>
    rw [hi] at hlines hfirst
    -- the first import finds no block that could be closed
    have hbegun : ImportScan.add filename .start i = ⟨[], [i], i.line⟩ := rfl
    rw [List.foldl_cons, hbegun,
      (ImportScan.begun_single [] (hfirst i (by simp))).found_foldl hlines]
    rfl

theorem apply_sortedImports_two_runs :
    let content := "\x7b# typja:from b import X #\x7d\n\n\x7b# typja:from b import Y #\x7d\n" ++
      "\x7b# typja:import a #\x7d\n\n\n\x7b# typja:import a #\x7d"
    ∃ cs, Comment.parseAll "t.html" content = .ok cs ∧
      apply .standard "t.html" content.toList cs .sortedImports =
        [disorder "t.html" (1, "1:b")] := by
  intro content
  have hkeys : (Comment.parseAll "t.html" content).toOption.map (List.filterMap importKey?) =
      some [(1, "1:b"), (3, "1:b"), (4, "0:a"), (7, "0:a")] := by decide +kernel
  cases hc : Comment.parseAll "t.html" content with
  | error e =>
    rw [hc] at hkeys
    cases hkeys
  | ok cs =>
    rw [hc] at hkeys
    refine ⟨cs, rfl, ?_⟩
    rw [apply_sortedImports hc rfl, Option.some.inj hkeys]
    rfl

end Style

end TypedTemplate
