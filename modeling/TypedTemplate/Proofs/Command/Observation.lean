import TypedTemplate.Command.Watch
import TypedTemplate.Proofs.Command.Writes

/-! What a watch knows of its files. Whatever snapshots it has looked at, the time that it knows of
a path is the greatest of those at which it saw the path, and none if it never saw it or has
forgotten it since. -/
namespace TypedTemplate.Command
open Session

namespace Times

/-- The time that is known of a path after it was seen with a time. -/
def latest (known : Option Int) (time : Int) : Int :=
  known.elim time fun before => if before < time then time else before

def Advances (known seen : Option Int) : Prop :=
  ∃ time, seen = some time ∧ ∀ before ∈ known, before < time

section Note

variable {t : FileTree} {ts : Times} {p q : Path} {time : Int}

theorem lookup_forget (ts : Times) (p q : Path) :
    (ts.forget p).lookup q = if q = p then none else ts.lookup q := by
  induction ts with
  | nil => simp [forget]
  | cons e ts ih =>
    obtain ⟨k, before⟩ := e
    rw [forget] at ih ⊢
    by_cases hk : k = p
    · rw [List.filter_cons_of_neg (by simp [hk]), ih, List.lookup_cons]
      by_cases hq : q = p
      · rw [if_pos hq, if_pos hq]
      · simp [hq, hk, beq_false_of_ne]
    · rw [List.filter_cons_of_pos (by simpa using hk), List.lookup_cons, List.lookup_cons, ih]
      by_cases hq : q = p
      · simp [hq, beq_false_of_ne (Ne.symm hk)]
      · simp [hq]

theorem lookup_set (ts : Times) (p q : Path) (time : Int) :
    (ts.set p time).lookup q = if q = p then some time else ts.lookup q := by
  rw [set, List.lookup_cons]
  by_cases hq : q = p
  · simp [hq]
  · have hrest := lookup_forget ts p q
    rw [if_neg hq] at hrest
    simpa [hq, beq_false_of_ne, forget] using hrest

theorem lookup_note (t : FileTree) (ts : Times) (p q : Path) :
    (note t ts p).1.lookup q = if q = p then (t.time? p).map (latest (ts.lookup p))
      else ts.lookup q := by
  rw [note]
  cases t.time? p with
  | none => rw [lookup_forget]; rfl
  | some time =>
    cases hk : ts.lookup p with
    | none =>
      dsimp only
      rw [lookup_set]
      rfl
    | some before =>
      dsimp only
      split
      · next hlt =>
        rw [lookup_set]
        simp [latest, hlt]
      · next hle =>
        by_cases hq : q = p
        · simp [hq, hk, latest, hle]
        · rw [if_neg hq]

theorem note_changed (t : FileTree) (ts : Times) (p : Path) :
    (note t ts p).2 = true ↔ Advances (ts.lookup p) (t.time? p) := by
  rw [note, Advances]
  cases t.time? p with
  | none => simp
  | some time =>
    cases ts.lookup p with
    | none => simp
    | some before =>
      dsimp only
      split
      · next hlt => simpa using hlt
      · next hle => simpa using hle

end Note

section Observe

variable {t : FileTree} {ts : Times} {p : Path} {files : List Path}

theorem le_latest (known : Option Int) (time : Int) : time ≤ latest known time := by
  cases known with
  | none => exact Int.le_refl time
  | some before =>
    rw [latest, Option.elim_some]
    split <;> omega

theorem not_advances_latest (known seen : Option Int) :
    ¬ Advances (seen.map (latest known)) seen := by
  rintro ⟨time, rfl, hbefore⟩
  have hlt := hbefore _ rfl
  have hle := le_latest known time
  omega

theorem latest_latest (known : Option Int) (time : Int) :
    latest (some (latest known time)) time = latest known time := by
  have hle := le_latest known time
  rw [latest, Option.elim_some, if_neg (by omega)]

theorem lookup_observe (t : FileTree) (ts : Times) (files : List Path) (p : Path) :
    (ts.observe t files).1.lookup p =
      if p ∈ files then (t.time? p).map (latest (ts.lookup p)) else ts.lookup p := by
  induction files generalizing ts with
  | nil => simp [observe]
  | cons f files ih =>
    rw [observe]
    dsimp only
    rw [ih, lookup_note]
    by_cases hf : p = f
    · subst hf
      rw [if_pos rfl, if_pos List.mem_cons_self]
      split
      · cases t.time? p with
        | none => rfl
        | some time => simp [latest_latest]
      · rfl
    · simp [hf]

theorem mem_observe (t : FileTree) (ts : Times) (files : List Path) (p : Path) :
    p ∈ (ts.observe t files).2 ↔ p ∈ files ∧ Advances (ts.lookup p) (t.time? p) := by
  induction files generalizing ts with
  | nil => simp [observe]
  | cons f files ih =>
    have hnote := note_changed t ts f
    have hrest := ih (note t ts f).1
    rw [lookup_note] at hrest
    rw [observe]
    dsimp only
    by_cases hf : p = f
    · subst hf
      rw [if_pos rfl] at hrest
      have hno : p ∉ (observe t (note t ts p).1 files).2 :=
        fun hm => not_advances_latest _ _ (hrest.1 hm).2
      cases hc : (note t ts p).2 with
      | true => simpa [hc] using hnote
      | false => simpa [hc, hno] using hnote
    · rw [if_neg hf] at hrest
      split <;> simp [hf, hrest]

theorem nodup_observe (t : FileTree) (ts : Times) (files : List Path) :
    (ts.observe t files).2.Nodup := by
  induction files generalizing ts with
  | nil => simp [observe]
  | cons f files ih =>
    rw [observe]
    dsimp only
    split
    · refine List.nodup_cons.2 ⟨fun hm => ?_, ih _⟩
      have hadvances := ((mem_observe t _ files f).1 hm).2
      rw [lookup_note, if_pos rfl] at hadvances
      exact not_advances_latest _ _ hadvances
    · exact ih _

theorem lookup_start (t : FileTree) (files : List Path) (p : Path) :
    (start t files).lookup p = if p ∈ files then t.time? p else none := by
  have hfold (ts : Times) : (files.foldl (fun ts p => (t.time? p).elim ts (ts.set p)) ts).lookup p =
      if p ∈ files then (t.time? p).or (ts.lookup p) else ts.lookup p := by
    induction files generalizing ts with
    | nil => simp
    | cons f files ih =>
      rw [List.foldl_cons, ih]
      cases hf : t.time? f with
      | none =>
        by_cases hp : p = f
        · simp [hp, hf]
        · simp [hp]
      | some time =>
        rw [Option.elim_some, lookup_set]
        by_cases hp : p = f
        · simp [hp, hf]
        · simp [hp]
  rw [start, hfold]
  simp

end Observe

section Latest

variable {known found : Option Int} {seen : List Int}

def IsLatest : Option Int → List Int → Prop
  | none, seen => seen = []
  | some known, seen => known ∈ seen ∧ ∀ time ∈ seen, time ≤ known

theorem IsLatest.advances_iff (h : IsLatest known seen) :
    Advances known found ↔ ∃ time, found = some time ∧ ∀ earlier ∈ seen, earlier < time := by
  refine exists_congr fun time => and_congr_right fun _ => ?_
  cases known with
  | none =>
    obtain rfl : seen = [] := h
    simp
  | some known =>
    obtain ⟨hmem, hmax⟩ := h
    constructor
    · intro hlt earlier hearlier
      exact Int.lt_of_le_of_lt (hmax earlier hearlier) (hlt known rfl)
    · rintro hall _ ⟨⟩
      exact hall known hmem

theorem IsLatest.concat (h : IsLatest known seen) (time : Int) :
    IsLatest (some (latest known time)) (seen ++ [time]) := by
  cases known with
  | none =>
    obtain rfl : seen = [] := h
    simp [IsLatest, latest]
  | some known =>
    obtain ⟨hmem, hmax⟩ := h
    rw [latest, Option.elim_some]
    split
    · next hlt =>
      refine ⟨by simp, fun earlier hearlier => ?_⟩
      rcases List.mem_append.1 hearlier with hseen | hlast
      · have := hmax earlier hseen
        omega
      · exact Int.le_of_eq (List.mem_singleton.1 hlast)
    · next hle =>
      refine ⟨List.mem_append_left _ hmem, fun earlier hearlier => ?_⟩
      rcases List.mem_append.1 hearlier with hseen | hlast
      · exact hmax earlier hseen
      · rw [List.mem_singleton.1 hlast]
        omega

end Latest

end Times

namespace Watch

variable {w : Watch} {ts : Times}

/-- The files that are watched, or none where they cannot be listed. -/
def listed (w : Watch) (t : FileTree) : List Path := (w.files t).toOption.getD []

def seenWith (w : Watch) (p : Path) (seen : List Int) (t : FileTree) : List Int :=
  if p ∈ w.listed t then (t.time? p).elim [] fun time => seen ++ [time] else seen

def seen (w : Watch) (p : Path) (snapshots : List FileTree) : List Int :=
  snapshots.foldl (w.seenWith p) []

def Remembers (w : Watch) (ts : Times) (snapshots : List FileTree) : Prop :=
  ∀ p, Times.IsLatest (ts.lookup p) (w.seen p snapshots)

theorem seen_concat (w : Watch) (p : Path) (snapshots : List FileTree) (t : FileTree) :
    w.seen p (snapshots ++ [t]) = w.seenWith p (w.seen p snapshots) t := by
  rw [seen, List.foldl_append]
  rfl

theorem remembers_start (w : Watch) (t : FileTree) : w.Remembers (.start t (w.listed t)) [t] := by
  intro p
  rw [Times.lookup_start, seen, List.foldl_cons, List.foldl_nil, seenWith]
  split
  · cases t.time? p with
    | none => rfl
    | some time => simp [Times.IsLatest]
  · rfl

theorem Remembers.observe {snapshots : List FileTree} (h : w.Remembers ts snapshots)
    (t : FileTree) :
    w.Remembers (ts.observe t (w.listed t)).1 (snapshots ++ [t]) := by
  intro p
  rw [Times.lookup_observe, seen_concat, seenWith]
  split
  · cases t.time? p with
    | none => rfl
    | some time => exact (h p).concat time
  · exact h p

section Run

/-- Looks at one snapshot after the other, and gives the times that are known in the end. -/
def track (w : Watch) : Times → List FileTree → Session Times
  | ts, [] => pure ts
  | ts, t :: rest => do
    modify fun world => { world with tree := t }
    let ts ← w.look ts
    track w ts rest

/-- A watch at a tick: it has begun, and has looked at some snapshots. -/
def reach (root : String) (snapshots : List FileTree) : Session (Watch × Times) := do
  let (w, ts) ← start root
  let ts ← w.track ts snapshots
  pure (w, ts)

theorem follow_append (w : Watch) (ts : Times) (snapshots rest : List FileTree) :
    w.follow ts (snapshots ++ rest) = w.track ts snapshots >>= fun ts => w.follow ts rest := by
  induction snapshots generalizing ts with
  | nil => rw [track, pure_bind, List.nil_append]
  | cons t snapshots ih =>
    rw [List.cons_append, follow, track, bind_assoc]
    refine bind_congr fun _ => ?_
    rw [bind_assoc]
    exact bind_congr fun ts => ih ts

theorem watch_append (root : String) (snapshots rest : List FileTree) :
    watch root (snapshots ++ rest) =
      guarded (reach root snapshots >>= fun x => x.1.follow x.2 rest) >>= fun _ => finish := by
  rw [watch, reach, bind_assoc]
  congr 2
  refine bind_congr fun x => ?_
  obtain ⟨w, ts⟩ := x
  dsimp only
  rw [follow_append, bind_assoc]
  exact bind_congr fun ts => (pure_bind _ _).symm

variable {root : String} {world world₁ : World} {snapshots : List FileTree}

theorem files_of_ok {t : FileTree} {files : List Path} (h : w.files t = .ok files) :
    w.listed t = files := by
  rw [listed, h]
  rfl

theorem carries_runCheck {I : FileTree → Prop} (w : Watch) (failed broken : String → String) :
    Carries I (w.runCheck failed broken) := by
  refine Carries.tryCatch (fun world hworld => ?_) fun stop => ?_
  · rwa [tree_check_of_not_fix rfl]
  · split
    · exact carries_pure _
    · exact carries_say _
    · exact carries_say _
    · exact carries_throw _

theorem carries_findSettings {I : FileTree → Prop} (dir : Path) : Carries I (findSettings dir) := by
  refine carries_tree.bind fun t => ?_
  split
  · exact carries_missingSettings _ _
  · split
    · exact carries_pure _
    · exact (carries_say _).bind fun _ => carries_pure _

theorem yields_look (w : Watch) (ts : Times) (t : FileTree) :
    Yields t (w.look ts) (· = (ts.observe t (w.listed t)).1) := by
  refine yields_tree.bind fun u hu => (yields_lift _ _).bind fun files hfiles => ?_
  subst hu
  rw [files_of_ok hfiles]
  dsimp only
  split
  · exact yields_pure rfl
  · refine (yields_say _).bind fun _ _ => ?_
    refine (Yields.of_carries fun _ => carries_forM (fun p => carries_say _) _).bind fun _ _ => ?_
    refine (yields_say _).bind fun _ _ => (Yields.of_carries fun _ => carries_runCheck w _ _).bind
      fun _ _ => ?_
    exact (yields_say _).bind fun _ _ => yields_pure rfl

theorem yields_start (root : String) (t : FileTree) :
    Yields t (start root) fun x => x.2 = .start t (x.1.listed t) := by
  refine (Yields.of_carries fun _ => carries_tree.bind fun _ => carries_pure _).bind fun dir _ => ?_
  refine (Yields.of_carries fun _ => carries_findSettings dir).bind fun file _ => ?_
  refine (yields_loadSettings file t).bind fun s _ => (yields_lift _ _).bind fun dirs _ => ?_
  refine yields_tree.bind fun _ _ => (yields_lift _ _).bind fun paths _ => ?_
  refine (yields_say _).bind fun _ _ => (yields_say _).bind fun _ _ =>
    (yields_say _).bind fun _ _ => ?_
  refine (Yields.of_carries fun _ => carries_runCheck _ _ _).bind fun _ _ =>
    yields_tree.bind fun u hu => ?_
  subst hu
  refine (yields_lift _ _).bind fun files hfiles => (yields_say _).bind fun _ _ => yields_pure ?_
  rw [files_of_ok hfiles]

theorem Remembers.track {before : List FileTree} {ts' : Times} (h : w.Remembers ts before)
    (hrun : result (w.track ts snapshots) world = (.ok ts', world₁)) :
    w.Remembers ts' (before ++ snapshots) := by
  induction snapshots generalizing ts before world with
  | nil =>
    cases hrun
    simpa using h
  | cons t snapshots ih =>
    rw [Watch.track,
      result_bind_ok (show result (modify fun world : World => { world with tree := t }) world =
      (.ok (), { world with tree := t }) from rfl)] at hrun
    obtain ⟨ts₁, world₂, hlook, hrun⟩ := ok_of_bind hrun
    obtain ⟨-, rfl⟩ := yields_look w ts t _ _ _ rfl hlook
    simpa using ih (h.observe t) hrun

theorem remembers_of_reach (h : result (reach root snapshots) world = (.ok (w, ts), world₁)) :
    w.Remembers ts (world.tree :: snapshots) := by
  obtain ⟨⟨w₀, ts₀⟩, world₂, hstart, h⟩ := ok_of_bind h
  obtain ⟨ts₁, world₃, htrack, h⟩ := ok_of_bind h
  cases h
  have hts : ts₀ = .start world.tree (w.listed world.tree) :=
    (yields_start root world.tree _ _ _ rfl hstart).2
  subst hts
  exact (remembers_start w world.tree).track htrack

end Run

end Watch

end TypedTemplate.Command
