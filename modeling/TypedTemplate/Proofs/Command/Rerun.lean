import TypedTemplate.Proofs.Command.Observation
import TypedTemplate.Proofs.Console.Markup

/-! When a watch checks its project again. At each tick the changed paths are those that are there
with a time behind all times at which they were seen, each once, and the check follows if there are
any and all of them can be printed. So a tick may pass over a difference to the snapshot before it:
a file that is gone, or one that is not newer than it once was. -/
namespace TypedTemplate.Command
open Session

def SucceedsIff (x : Session Unit) (A : Prop) : Prop :=
  ∀ world, (∃ world₁, result x world = (.ok (), world₁)) ↔ A

theorem succeedsIff_say (markup : String) :
    SucceedsIff (say markup) (∃ shown, Console.plain markup.toList = .ok shown) := by
  intro world
  rw [← Console.exists_plain_iff (world.terminal.painter? none) world.columns, say, print,
    result_printWith]
  dsimp only
  cases (Console.display (world.terminal.painter? none) world.columns [.line markup]).2 <;> simp

theorem SucceedsIff.bind {x y : Session Unit} {A B : Prop} (hx : SucceedsIff x A)
    (hy : SucceedsIff y B) :
    SucceedsIff (x >>= fun _ => y) (A ∧ B) := by
  intro world
  constructor
  · rintro ⟨world₂, h⟩
    obtain ⟨_, world₁, h₁, h₂⟩ := ok_of_bind h
    exact ⟨(hx world).1 ⟨world₁, h₁⟩, (hy world₁).1 ⟨world₂, h₂⟩⟩
  · rintro ⟨hA, hB⟩
    obtain ⟨world₁, h₁⟩ := (hx world).2 hA
    rw [result_bind_ok h₁]
    exact (hy world₁).2 hB

theorem SucceedsIff.forM {α : Type} {f : α → Session Unit} {A : α → Prop}
    (hf : ∀ a, SucceedsIff (f a) (A a)) (l : List α) :
    SucceedsIff (l.forM f) (∀ a ∈ l, A a) := by
  induction l with
  | nil =>
    intro world
    simp [List.forM_nil]
  | cons a l ih =>
    rw [List.forM_eq_forM, List.forM_cons, List.forall_mem_cons]
    exact (hf a).bind ih

namespace Watch

section Look

variable {w : Watch} {ts : Times} {world : World}

def entry (w : Watch) (p : Path) : String := "  • " ++ ((p.relativeTo? w.root).getD p).render

/-- A path can be named: its line is no markup that fails. -/
def Shows (w : Watch) (p : Path) : Prop := ∃ shown, Console.plain (w.entry p).toList = .ok shown

instance (w : Watch) (p : Path) : Decidable (w.Shows p) :=
  decidable_of_iff ((Console.plain (w.entry p).toList).toOption.isSome = true) (by
    rw [Shows]
    cases Console.plain (w.entry p).toList <;> simp [Except.toOption])

def announce (w : Watch) (changed : List Path) : Session Unit := do
  say ("[yellow]Detected changes in " ++ toString changed.length ++ " file(s)[/yellow]")
  changed.forM fun p => say (w.entry p)
  say ""

/-- What a look does before the check: it finds the paths that have changed and names them, if there
are any. -/
def findChanges (w : Watch) (ts : Times) : Session (Times × List Path) := do
  let t ← tree
  let files ← lift id (w.files t)
  if (ts.observe t files).2.isEmpty then pure (ts.observe t files)
  else do
    w.announce (ts.observe t files).2
    pure (ts.observe t files)

/-- The check that follows on changes. -/
def recheck (w : Watch) : Session Unit := do
  w.runCheck (fun code => "[red]Check failed with exit code:[/red] " ++ code)
    (fun message => "[red]Check failed:[/red] " ++ message)
  sayWaiting

theorem look_eq (w : Watch) (ts : Times) :
    w.look ts = w.findChanges ts >>= fun r => (if r.2.isEmpty then pure () else w.recheck) >>=
      fun _ => pure r.1 := by
  rw [look, findChanges, bind_assoc]
  refine bind_congr fun t => ?_
  rw [bind_assoc]
  refine bind_congr fun files => ?_
  by_cases hchanged : (ts.observe t files).2 = []
  · simp [hchanged]
  · simp [hchanged, announce, recheck, entry]

/-- A look comes to the check: it has found changes and named them all. -/
def Rechecks (w : Watch) (ts : Times) (world : World) : Prop :=
  ∃ r world₁, result (w.findChanges ts) world = (.ok r, world₁) ∧ r.2 ≠ []

/-- The paths of a tree that have changed since the known times. -/
def changedIn (w : Watch) (ts : Times) (t : FileTree) : List Path := (ts.observe t (w.listed t)).2

theorem exists_plain_count (n : Nat) :
    ∃ shown, Console.plain
      ("[yellow]Detected changes in " ++ toString n ++ " file(s)[/yellow]").toList = .ok shown := by
  have hdigits : Console.Untagged (Nat.toDigits 10 n) := by
    intro c hc
    have hdigit : c.isDigit = true := Nat.isDigit_of_mem_toDigits (by decide) (by decide) hc
    constructor <;> (rintro rfl; cases hdigit)
  have hfront : Console.Untagged "Detected changes in ".toList := by decide
  have hback : Console.Untagged " file(s)".toList := by decide
  have hall :
      Console.Untagged
        ("Detected changes in ".toList ++ (Nat.toDigits 10 n ++ " file(s)".toList)) :=
    List.forall_mem_append.2 ⟨hfront, List.forall_mem_append.2 ⟨hdigits, hback⟩⟩
  have htext : ("[yellow]Detected changes in " ++ toString n ++ " file(s)[/yellow]").toList =
      "[yellow]".toList ++
        (("Detected changes in ".toList ++ (Nat.toDigits 10 n ++ " file(s)".toList)) ++
        "[/yellow]".toList) := by
    simp
  rw [htext]
  exact Console.exists_plain_yellow hall

theorem succeedsIff_announce (w : Watch) (changed : List Path) :
    SucceedsIff (w.announce changed) (∀ p ∈ changed, w.Shows p) := by
  have hblank : ∃ shown, Console.plain "".toList = .ok shown := ⟨[], rfl⟩
  intro world
  rw [announce, ((succeedsIff_say _).bind
    ((SucceedsIff.forM (fun p => succeedsIff_say (w.entry p)) changed).bind (succeedsIff_say "")))
      world]
  exact ⟨fun hall => hall.2.1, fun hall => ⟨exists_plain_count changed.length, hall, hblank⟩⟩

theorem rechecks_iff (w : Watch) (ts : Times) (world : World) :
    w.Rechecks ts world ↔ w.changedIn ts world.tree ≠ [] ∧
      ∀ p ∈ w.changedIn ts world.tree, w.Shows p := by
  rw [Rechecks, findChanges, result_bind_ok (result_tree world), changedIn]
  cases hfiles : w.files world.tree with
  | error f =>
    -- files that cannot be listed end the watch before anything is found
    have hlisted : w.listed world.tree = [] := by
      rw [listed, hfiles]
      rfl
    rw [result_bind_error (result_lift_error id f world), hlisted]
    simp [Times.observe]
  | ok files =>
    rw [result_bind_ok (result_lift_ok id files world), files_of_ok hfiles]
    generalize ts.observe world.tree files = r
    constructor
    · rintro ⟨r', world₁, h, hne⟩
      split at h
      · next hempty =>
        cases h
        exact absurd (List.isEmpty_iff.1 hempty) hne
      · obtain ⟨_, world₂, hsaid, h⟩ := ok_of_bind h
        cases h
        exact ⟨hne, (succeedsIff_announce w r.2 world).1 ⟨world₁, hsaid⟩⟩
    · rintro ⟨hne, hshows⟩
      obtain ⟨world₁, hsaid⟩ := (succeedsIff_announce w r.2 world).2 hshows
      rw [if_neg (by simpa using hne), result_bind_ok hsaid]
      exact ⟨r, world₁, rfl, hne⟩

theorem changedIn_of_findChanges {r : Times × List Path} {world₁ : World}
    (h : result (w.findChanges ts) world = (.ok r, world₁)) : r.2 = w.changedIn ts world.tree := by
  rw [findChanges, result_bind_ok (result_tree world)] at h
  obtain ⟨files, _, hfiles, h⟩ := ok_of_bind h
  rw [changedIn, files_of_ok (ok_of_lift hfiles)]
  split at h
  · cases h
    rfl
  · obtain ⟨_, _, -, h⟩ := ok_of_bind h
    cases h
    rfl

end Look

section Tick

variable {root : String} {world world₁ : World} {snapshots : List FileTree} {w : Watch} {ts : Times}
  {p : Path}

theorem result_guarded_congr {α : Type} {x y : Session α} (h : result x world = result y world₁) :
    result (guarded x) world = result (guarded y) world₁ := by
  rw [guarded, guarded, result_tryCatch, result_tryCatch, h]

theorem result_watch (h : result (reach root snapshots) world = (.ok (w, ts), world₁))
    (t : FileTree) (rest : List FileTree) :
    result (watch root (snapshots ++ t :: rest)) world =
      result (guarded (w.findChanges ts >>= fun r =>
          (if r.2.isEmpty then pure () else w.recheck) >>= fun _ => w.follow r.1 rest) >>=
            fun _ => finish)
        { world₁ with tree := t } := by
  have hbody : result (reach root snapshots >>= fun x => x.1.follow x.2 (t :: rest)) world =
      result (w.findChanges ts >>= fun r =>
        (if r.2.isEmpty then pure () else w.recheck) >>= fun _ => w.follow r.1 rest)
          { world₁ with tree := t } := by
    rw [result_bind_ok h]
    dsimp only
    rw [follow,
      result_bind_ok (show result (modify fun world : World => { world with tree := t }) world₁ =
      (.ok (), { world₁ with tree := t }) from rfl), look_eq]
    simp only [bind_assoc, pure_bind]
  rw [watch_append, result_bind, result_guarded_congr hbody, ← result_bind]

/-- A path is listed and there, and its time lies behind all times at which it was seen before. -/
def Fresh (w : Watch) (before : List FileTree) (t : FileTree) (p : Path) : Prop :=
  p ∈ w.listed t ∧ ∃ time, t.time? p = some time ∧ ∀ earlier ∈ w.seen p before, earlier < time

theorem mem_changedIn (h : result (reach root snapshots) world = (.ok (w, ts), world₁))
    (t : FileTree) (p : Path) :
    p ∈ w.changedIn ts t ↔ w.Fresh (world.tree :: snapshots) t p := by
  rw [changedIn, Times.mem_observe, (remembers_of_reach h p).advances_iff]
  rfl

section Project

def project (nodes : List (List String × FileNode)) : FileTree :=
  ⟨[(["p"], .dir 0), (["p", "typja.toml"], .file [] 0), (["p", "templates"], .dir 0)] ++ nodes,
    ["p"]⟩

def dated (time : Int) : FileTree := project [(["p", "templates", "a.html"], .file [] time)]

def bracketed : FileTree :=
  project [(["p", "templates", "["], .dir 0), (["p", "templates", "[", "b].html"], .file [] 0)]

def datedWorld : World := ⟨dated 0, "", [], 80, ⟨false, false, .colourless⟩, .ascending, [], 0⟩

def settingsPath : Path := .top ["p", "typja.toml"]

def datedPath : Path := .relative ["templates", "a.html"]

def bracketedPath : Path := .relative ["templates", "[", "b].html"]

theorem reach_dated : ∃ w ts world₁, result (reach "." []) datedWorld = (.ok (w, ts), world₁) ∧
    (w.listed (dated 0) = [datedPath, settingsPath] ∧ w.listed (dated 1) =
      [datedPath, settingsPath] ∧ w.listed (dated (-1)) = [datedPath, settingsPath]) ∧
    (w.changedIn ts (dated 1) = [datedPath] ∧ w.changedIn ts (dated (-1)) = [] ∧
      w.changedIn ts bracketed = [bracketedPath]) ∧
    w.Shows datedPath ∧ w.Shows settingsPath ∧ ¬ w.Shows bracketedPath := by
  have h : ((result (reach "." []) datedWorld).1.toOption.any fun x => decide (
      (x.1.listed (dated 0) = [datedPath, settingsPath] ∧ x.1.listed (dated 1) =
        [datedPath, settingsPath] ∧ x.1.listed (dated (-1)) = [datedPath, settingsPath]) ∧
      (x.1.changedIn x.2 (dated 1) = [datedPath] ∧ x.1.changedIn x.2 (dated (-1)) = [] ∧
        x.1.changedIn x.2 bracketed = [bracketedPath]) ∧
      x.1.Shows datedPath ∧ x.1.Shows settingsPath ∧ ¬ x.1.Shows bracketedPath)) = true := by
    decide +kernel
  rcases hr : result (reach "." []) datedWorld with ⟨e | ⟨w, ts⟩, world₁⟩
  · rw [hr] at h
    cases h
  · rw [hr] at h
    exact ⟨w, ts, world₁, rfl, of_decide_eq_true h⟩

end Project

/-- At every tick of a watch the changed paths are the fresh ones, each once; the check follows on
them, unless one of them cannot be printed. -/
theorem changes_at_tick (h : result (reach root snapshots) world = (.ok (w, ts), world₁))
    (t : FileTree) :
    (∀ rest, result (watch root (snapshots ++ t :: rest)) world =
      result (guarded (w.findChanges ts >>= fun r =>
          (if r.2.isEmpty then pure () else w.recheck) >>= fun _ => w.follow r.1 rest) >>=
            fun _ => finish)
        { world₁ with tree := t }) ∧
    (∀ r world₂, result (w.findChanges ts) { world₁ with tree := t } = (.ok r, world₂) →
      r.2 = w.changedIn ts t) ∧
    (∀ p, p ∈ w.changedIn ts t ↔ w.Fresh (world.tree :: snapshots) t p) ∧ (w.changedIn ts t).Nodup ∧
    ((w.Rechecks ts { world₁ with tree := t } ↔ w.changedIn ts t ≠ []) ↔
      ∀ p ∈ w.changedIn ts t, w.Shows p) := by
  refine ⟨result_watch h t, fun r world₂ hr => changedIn_of_findChanges hr, mem_changedIn h t,
    Times.nodup_observe _ _ _, ?_⟩
  rw [rechecks_iff]
  constructor
  · intro hiff p hp
    exact (hiff.2 (List.ne_nil_of_mem hp)).2 p hp
  · intro hshows
    exact and_iff_left hshows

theorem changes_at_tick_newer_template :
    ∃ w ts world₁, result (reach "." []) datedWorld = (.ok (w, ts), world₁) ∧
    w.Fresh [dated 0] (dated 1) datedPath ∧ w.Rechecks ts { world₁ with tree := dated 1 } := by
  obtain ⟨w, ts, world₁, h, -, ⟨hchanged, -, -⟩, hshows, -⟩ := reach_dated
  obtain ⟨-, -, hfresh, -, hrechecks⟩ := changes_at_tick h (dated 1)
  rw [hchanged] at hfresh hrechecks
  exact ⟨w, ts, world₁, h, (hfresh _).1 List.mem_cons_self,
    (hrechecks.2 (by simpa using hshows)).2 (List.cons_ne_nil _ _)⟩

theorem changed_not_rechecks :
    ∃ w ts world₁, result (reach "." []) datedWorld = (.ok (w, ts), world₁) ∧
    w.changedIn ts bracketed ≠ [] ∧ ¬ w.Rechecks ts { world₁ with tree := bracketed } := by
  obtain ⟨w, ts, world₁, h, -, ⟨-, -, hchanged⟩, -, -, hnot⟩ := reach_dated
  refine ⟨w, ts, world₁, h, by simp [hchanged], ?_⟩
  rw [rechecks_iff, hchanged]
  rintro ⟨-, hshows⟩
  exact hnot (hshows _ List.mem_cons_self)

/-- The set of watched files differs between two trees, or the time of one of them does. -/
def Differs (w : Watch) (t u : FileTree) : Prop :=
  (∃ p, ¬ (p ∈ w.listed t ↔ p ∈ w.listed u)) ∨ ∃ p ∈ w.listed u, u.time? p ≠ t.time? p

/-- No watched file is lost from one tree to the next, and none goes back in time. -/
def Onward (w : Watch) (t u : FileTree) : Prop :=
  ∀ p ∈ w.listed t, p ∈ w.listed u ∧ ∀ earlier ∈ t.time? p, ∀ time ∈ u.time? p, earlier ≤ time

theorem mem_seen_last {first : FileTree} {time : Int} (hp : p ∈ w.listed (snapshots.getLastD first))
    (htime : (snapshots.getLastD first).time? p = some time) :
    time ∈ w.seen p (first :: snapshots) := by
  have hsplit := List.dropLast_concat_getLast (List.cons_ne_nil first snapshots)
  rw [List.getLast_eq_getLastD] at hsplit
  rw [← hsplit, seen_concat, seenWith, if_pos hp, htime]
  simp

theorem Fresh.differs {first t : FileTree} (h : w.Fresh (first :: snapshots) t p) :
    w.Differs (snapshots.getLastD first) t := by
  obtain ⟨hlisted, time, htime, hnewer⟩ := h
  by_cases hp : p ∈ w.listed (snapshots.getLastD first)
  · refine .inr ⟨p, hlisted, fun heq => ?_⟩
    have := hnewer time (mem_seen_last hp (heq ▸ htime))
    omega
  · exact .inl ⟨p, fun hiff => hp (hiff.2 hlisted)⟩

def Newest (w : Watch) (p : Path) (seen : List Int) (t : FileTree) : Prop :=
  ∀ earlier ∈ seen, p ∈ w.listed t ∧ ∃ time, t.time? p = some time ∧ earlier ≤ time

theorem Newest.seenWith {seen : List Int} {u : FileTree}
    (h : ∀ earlier ∈ seen, p ∈ w.listed u ∧ ∀ time ∈ u.time? p, earlier ≤ time) :
    w.Newest p (w.seenWith p seen u) u := by
  intro earlier hearlier
  rw [Watch.seenWith] at hearlier
  split at hearlier
  · next hlisted =>
    refine ⟨hlisted, ?_⟩
    cases htime : u.time? p with
    | none => simp [htime] at hearlier
    | some time =>
      rw [htime, Option.elim_some] at hearlier
      refine ⟨time, rfl, ?_⟩
      rcases List.mem_append.1 hearlier with hseen | hlast
      · exact (h earlier hseen).2 time htime
      · exact Int.le_of_eq (List.mem_singleton.1 hlast)
  · next hgone => exact absurd (h earlier hearlier).1 hgone

theorem Newest.onward {seen : List Int} {t u : FileTree} (h : w.Newest p seen t)
    (hon : w.Onward t u) :
    w.Newest p (w.seenWith p seen u) u := by
  refine Newest.seenWith fun earlier hearlier => ?_
  obtain ⟨hlisted, before, hbefore, hle⟩ := h earlier hearlier
  obtain ⟨hstays, hlater⟩ := hon p hlisted
  refine ⟨hstays, fun time htime => ?_⟩
  have := hlater before hbefore time htime
  omega

theorem newest_last {first : FileTree} (hchain : (first :: snapshots).IsChain w.Onward) (p : Path) :
    w.Newest p (w.seen p (first :: snapshots)) (snapshots.getLastD first) := by
  -- the induction carries the times seen so far and the tree that was the last
  have hrun (seen : List Int) (t : FileTree) (h : w.Newest p seen t)
      (hchain : (t :: snapshots).IsChain w.Onward) :
      w.Newest p (snapshots.foldl (w.seenWith p) seen) (snapshots.getLastD t) := by
    clear * - h hchain
    induction snapshots generalizing seen t with
    | nil => exact h
    | cons u snapshots ih =>
      rw [List.isChain_cons_cons] at hchain
      rw [List.foldl_cons, List.getLastD_cons]
      exact ih _ u (h.onward hchain.1) hchain.2
  exact hrun _ first (Newest.seenWith (by simp)) hchain

theorem exists_fresh_of_differs {first t : FileTree}
    (hchain : (first :: snapshots).IsChain w.Onward)
    (hon : w.Onward (snapshots.getLastD first) t) (hthere : ∀ p ∈ w.listed t, t.time? p ≠ none)
    (h : w.Differs (snapshots.getLastD first) t) : ∃ p, w.Fresh (first :: snapshots) t p := by
  have hfresh (p : Path) (hp : p ∈ w.listed t)
      (hnew : p ∈ w.listed (snapshots.getLastD first) →
        t.time? p ≠ (snapshots.getLastD first).time? p) :
      w.Fresh (first :: snapshots) t p := by
    obtain ⟨time, htime⟩ := Option.ne_none_iff_exists'.1 (hthere p hp)
    refine ⟨hp, time, htime, fun earlier hearlier => ?_⟩
    obtain ⟨hlast, before, hbefore, hle⟩ := newest_last hchain p earlier hearlier
    have hlater := (hon p hlast).2 before hbefore time htime
    have hne := hnew hlast
    rw [htime, hbefore] at hne
    have : time ≠ before := fun heq => hne (congrArg some heq)
    omega
  rcases h with ⟨p, hp⟩ | ⟨p, hp, hne⟩
  · by_cases hlast : p ∈ w.listed (snapshots.getLastD first)
    · exact absurd (iff_of_true hlast (hon p hlast).1) hp
    · by_cases hhere : p ∈ w.listed t
      · exact ⟨p, hfresh p hhere fun hmem => absurd hmem hlast⟩
      · exact absurd (iff_of_false hlast hhere) hp
  · exact ⟨p, hfresh p hp fun _ => hne⟩

/-- A tick checks the project only on a difference to the snapshot before. It passes over a
difference exactly if nothing is fresh or something fresh cannot be printed, and over none as long
as files stay and their times only grow. -/
theorem rechecks_iff_differs (h : result (reach root snapshots) world = (.ok (w, ts), world₁))
    (t : FileTree) :
    (w.Rechecks ts { world₁ with tree := t } → w.Differs (snapshots.getLastD world.tree) t) ∧
    ((w.Rechecks ts { world₁ with tree := t } ↔ w.Differs (snapshots.getLastD world.tree) t) ↔
      (w.Differs (snapshots.getLastD world.tree) t →
        (∃ p, w.Fresh (world.tree :: snapshots) t p) ∧ ∀ p, w.Fresh (world.tree :: snapshots) t p →
          w.Shows p)) ∧
    ((world.tree :: snapshots).IsChain w.Onward → w.Onward (snapshots.getLastD world.tree) t →
      (∀ p ∈ w.listed t, t.time? p ≠ none ∧ w.Shows p) →
        (w.Rechecks ts { world₁ with tree := t } ↔
          w.Differs (snapshots.getLastD world.tree) t)) := by
  have hrechecks : w.Rechecks ts { world₁ with tree := t } ↔
      (∃ p, w.Fresh (world.tree :: snapshots) t p) ∧ ∀ p, w.Fresh (world.tree :: snapshots) t p →
        w.Shows p := by
    have hsome : w.changedIn ts t ≠ [] ↔ ∃ p, p ∈ w.changedIn ts t :=
      ⟨List.exists_mem_of_ne_nil _, fun hmem => hmem.elim fun _ hp => List.ne_nil_of_mem hp⟩
    rw [rechecks_iff, hsome]
    simp only [mem_changedIn h]
  have honly : w.Rechecks ts { world₁ with tree := t } →
    w.Differs (snapshots.getLastD world.tree) t := by
    intro hre
    obtain ⟨⟨p, hp⟩, -⟩ := hrechecks.1 hre
    exact hp.differs
  refine ⟨honly, ?_, fun hchain hon hthere => ⟨honly, fun hdiffers => hrechecks.2 ⟨?_, ?_⟩⟩⟩
  · rw [← hrechecks]
    exact ⟨fun hiff => hiff.2, fun himp => ⟨honly, himp⟩⟩
  · exact exists_fresh_of_differs hchain hon (fun p hp => (hthere p hp).1) hdiffers
  · intro p hp
    exact (hthere p hp.1).2

theorem rechecks_iff_differs_newer_template :
    ∃ w ts world₁, result (reach "." []) datedWorld = (.ok (w, ts), world₁) ∧
    w.Differs (dated 0) (dated 1) ∧ w.Rechecks ts { world₁ with tree := dated 1 } := by
  obtain ⟨w, ts, world₁, h, ⟨hbefore, hafter, -⟩, -, hdated, hsettings, -⟩ := reach_dated
  have hdiffers : w.Differs (dated 0) (dated 1) := .inr ⟨datedPath, by simp [hafter], by decide⟩
  have honward : w.Onward (dated 0) (dated 1) := by
    rw [Onward, hbefore, hafter]
    decide
  have hthere : ∀ p ∈ w.listed (dated 1), (dated 1).time? p ≠ none ∧ w.Shows p := by
    rw [hafter, List.forall_mem_cons, List.forall_mem_singleton]
    exact ⟨⟨by decide, hdated⟩, by decide, hsettings⟩
  exact ⟨w, ts, world₁, h, hdiffers,
    ((rechecks_iff_differs h (dated 1)).2.2 (.singleton _) honward hthere).2 hdiffers⟩

theorem differs_not_rechecks :
    ∃ w ts world₁, result (reach "." []) datedWorld = (.ok (w, ts), world₁) ∧
    w.Differs (dated 0) (dated (-1)) ∧ ¬ w.Rechecks ts { world₁ with tree := dated (-1) } := by
  obtain ⟨w, ts, world₁, h, ⟨-, -, hafter⟩, ⟨-, hchanged, -⟩, -⟩ := reach_dated
  refine ⟨w, ts, world₁, h, .inr ⟨datedPath, by simp [hafter], by decide⟩, ?_⟩
  rw [rechecks_iff, hchanged]
  rintro ⟨hne, -⟩
  exact hne rfl

end Tick

end Watch

end TypedTemplate.Command
