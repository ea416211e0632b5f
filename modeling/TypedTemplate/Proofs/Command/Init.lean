import TypedTemplate.Proofs.Command.Session
import TypedTemplate.Proofs.Command.Starter
import TypedTemplate.Proofs.FileTree.Making
import TypedTemplate.Proofs.Text.Utf8

/-! A new settings file, from the command that makes it to the settings that are loaded from it. -/
namespace TypedTemplate.Command
open Toml Settings Session

variable {w w' : World} {a b place : List String} {p : Path} {root : String}

section Asking

variable {I : FileTree → Prop}

theorem carries_readLine : Carries I readLine := by
  intro w hw
  unfold readLine
  rw [result_bind_ok (show result get w = (.ok w, w) from rfl)]
  split <;> exact hw

theorem carries_ask (question : String) : Carries I (ask question) := by
  unfold ask
  refine (carries_lift _ _).bind fun q => carries_get.bind fun w => ?_
  have hwrite (out : Console.Output) : Carries I (write out) := fun _ hw => hw
  refine (hwrite _).bind fun _ => carries_readLine.bind fun line => ?_
  cases line with
  | none => exact carries_throw _
  | some line => exact carries_pure _

theorem carries_confirm (question : String) : Carries I (confirm question) := by
  refine carries_get.bind fun w => ?_
  induction w.input.length + 1 with
  | zero => exact carries_throw _
  | succ n ih =>
    refine (carries_ask question).bind fun answer => ?_
    split
    · exact carries_pure _
    · split
      · exact carries_pure _
      · exact (carries_say _).bind fun _ => ih

end Asking

section Making

structure Made (t : FileTree) (a : List String) (u : FileTree) : Prop where
  here_eq : u.here = t.here
  opens : u.Open a
  kind?_cases : ∀ b, u.kind? b = t.kind? b ∨ t.kind? b = none ∧ u.kind? b = some (.dir 0)

theorem Made.clear {t u : FileTree} (h : Made t a u) (hclear : t.Clear b) : u.Clear b := by
  refine ⟨hclear.down, fun c hc target hn => hclear.noLink c hc target ?_⟩
  rw [← FileTree.kind?_eq_link] at hn ⊢
  rcases h.kind?_cases c with heq | ⟨-, hdir⟩
  · rwa [← heq]
  · cases hdir.symm.trans hn

theorem made_of_makeDirectory (ht : w.tree.Proper) (hclear : w.tree.Clear a)
    (h : result (makeDirectory a) w = (.ok (), w')) : Made w.tree a w'.tree := by
  unfold makeDirectory at h
  rw [result_bind_ok (show result get w = (.ok w, w) from rfl)] at h
  split at h
  · next time hdir =>
    obtain rfl : w = w' := (Prod.ext_iff.1 h).2
    exact ⟨rfl, ht.open_of_dirAt ⟨time, hdir⟩, fun b => .inl rfl⟩
  · cases h
  · next hnone =>
    dsimp only at h
    split at h
    · cases h
    · next hblocked =>
      have hfile : ∀ b, b <+: a → ∀ bytes time, w.tree.node? b ≠ some (.file bytes time) := by
        intro b hb bytes time hn
        rcases List.mem_append.1 (FileTree.mem_ancestors_append.2 hb) with hmem | hmem
        · refine hblocked (List.any_eq_true.2 ⟨b, hmem, ?_⟩)
          simp only [hn]
        · rw [List.mem_singleton.1 hmem, hnone] at hn
          cases hn
      obtain rfl : { w with tree := w.tree.makeDirs a } = w' := (Prod.ext_iff.1 h).2
      refine ⟨FileTree.here_makeDirs .., hclear.open_makeDirs hfile, fun b => ?_⟩
      rw [FileTree.kind?_makeDirs]
      split
      · next hb => exact .inr ⟨hb.2, rfl⟩
      · exact .inl rfl

def Filed (t : FileTree) (place : List String) (name : String) (bytes : List UInt8) : Prop :=
  t.Open place ∧ ∃ time, t.node? (place ++ [name]) = some (.file bytes time)

theorem Filed.content? {t : FileTree} {name : String} {bytes : List UInt8}
    (h : Filed t place name bytes)
    (hdown : ".." ∉ place ++ [name]) : t.content? ((Path.top place).child name) = some bytes := by
  obtain ⟨hopen, time, hn⟩ := h
  exact FileTree.content?_of_node? (FileTree.place?_of_open hopen hdown hn) hn

theorem Made.filed {t u : FileTree} {name : String} (h : Made t place u) (bytes : List UInt8)
    (time : Int) :
    Filed (u.put (place ++ [name]) (.file bytes time)) place name bytes := by
  refine ⟨h.opens.put_child name _, time, ?_⟩
  rw [← FileTree.kind?_eq_file, FileTree.kind?_put (by simp), if_pos rfl]
  rfl

theorem Filed.erase {t : FileTree} {name : String} {bytes : List UInt8}
    (h : Filed t place name bytes) (ha : a ≠ [])
    (hout : ¬ a <+: place ++ [name]) : Filed (t.erase a) place name bytes := by
  obtain ⟨hopen, time, hn⟩ := h
  refine ⟨hopen.erase ha fun hway => hout (hway.trans (List.prefix_append ..)), time, ?_⟩
  have hne : place ++ [name] ≠ a := by
    rintro rfl
    exact hout (List.prefix_refl _)
  rwa [← FileTree.kind?_eq_file, FileTree.kind?_erase ha, if_neg hne, FileTree.kind?_eq_file]

theorem exists_content?_of_loadFile {t : FileTree} {settings : Settings}
    (h : loadFile t p = .ok settings) :
    ∃ bytes, t.content? p = some bytes := by
  cases hcontent : t.content? p with
  | some bytes => exact ⟨bytes, rfl⟩
  | none =>
    rw [loadFile, readDocument, hcontent] at h
    split at h <;> cases h

theorem place?_of_content? {t : FileTree} {s : String} {bytes : List UInt8} (hs : s ≠ "..")
    (hlink : ∀ target, t.node? (t.here ++ [s]) ≠ some (.link target))
    (h : t.content? (Path.here.child s) = some bytes) :
    t.place? (Path.here.child s) = some (t.here ++ [s]) ∧
      ∃ time, t.node? (t.here ++ [s]) = some (.file bytes time) := by
  obtain ⟨a, time, hplace, hn⟩ := FileTree.exists_of_content? h
  rcases FileTree.walk_cons_iff.1 hplace with ⟨place', more, hturn, hwalk⟩ | ⟨-, -, rfl⟩
  · cases hturn with
    | up hup => exact absurd hup hs
    | down _ hdir =>
      obtain ⟨time', hdir⟩ := hdir
      obtain rfl : t.here ++ [s] = a := Option.some.inj hwalk
      cases hdir.symm.trans hn
    | follow _ htarget => exact absurd htarget (hlink _)
  · exact ⟨hplace, time, hn⟩

theorem of_outdated? {t : FileTree} {dir target : Path}
    (h : outdated? t dir target = .ok (some p)) :
    p = Path.here.child fileName ∧ t.resolve (Path.here.child fileName) ≠ t.resolve target ∧
      ∃ bytes, t.content? (Path.here.child fileName) = some bytes := by
  unfold outdated? at h
  dsimp only at h
  split at h
  · next hother =>
    split at h
    · cases h
    · cases h
    · next settings hload =>
      refine ⟨?_, by simpa using (Bool.and_eq_true_iff.1 hother).2,
        exists_content?_of_loadFile hload⟩
      cases hroot : settings.rootPath with
      | error m =>
        rw [hroot] at h
        cases h
      | ok path =>
        rw [hroot] at h
        have hp := Except.ok.inj h
        split at hp
        · exact (Option.some.inj hp).symm
        · cases hp
  · cases h

theorem not_prefix_of_outdated? {u : FileTree} (hclear : w.tree.Clear (place ++ [fileName]))
    (hmade : Made w.tree place u)
    (h : outdated? w.tree (.top place) ((Path.top place).child fileName) = .ok (some p)) :
    p = Path.here.child fileName ∧ ¬ w.tree.here ++ [fileName] <+: place ++ [fileName] := by
  obtain ⟨rfl, hother, bytes, hbytes⟩ := of_outdated? h
  refine ⟨rfl, fun hway => ?_⟩
  obtain ⟨hplace, time, hfile⟩ := place?_of_content? (by decide) (hclear.noLink _ hway) hbytes
  rcases List.prefix_concat_iff.1 hway with heq | hway
  · -- the file here would be the one that is made
    have htarget : w.tree.resolve ((Path.top place).child fileName) = place ++ [fileName] :=
      hclear.resolve_top
    rw [FileTree.resolve_of_place? hplace, htarget] at hother
    exact hother heq
  · -- the file here would be a directory above it
    rw [← FileTree.kind?_eq_file] at hfile
    have hdir := FileTree.kind?_eq_dir.2 (hmade.opens _ hway)
    rcases hmade.kind?_cases (w.tree.here ++ [fileName]) with heq | ⟨hnone, -⟩
    · cases hdir.symm.trans (heq.trans hfile)
    · cases hnone.symm.trans hfile

theorem filed_of_writeFile {t : FileTree} {text : String} (hclear : t.Clear (place ++ [fileName]))
    (hmade : Made t place w.tree) (h : result (writeFile ((Path.top place).child fileName) text) w =
      (.ok (), w')) :
    w'.tree.here = t.here ∧ Filed w'.tree place fileName (Text.Utf8.encode text) := by
  have hresolve : w.tree.resolve ((Path.top place).child fileName) = place ++ [fileName] :=
    (hmade.clear hclear).resolve_top
  rw [result_writeFile, hresolve] at h
  split at h
  · cases h
  · rw [← (Prod.mk.inj h).2]
    exact ⟨(FileTree.here_put ..).trans hmade.here_eq, hmade.filed ..⟩

theorem tree_of_removeFile {s : String}
    (h : result (removeFile (Path.here.child s)) w = (.ok (), w')) :
    w'.tree = w.tree ∨ w'.tree = w.tree.erase (w.tree.here ++ [s]) := by
  unfold removeFile at h
  rw [result_bind_ok (show result get w = (.ok w, w) from rfl)] at h
  split at h
  · obtain ⟨_, w₁, hset, h⟩ := ok_of_bind h
    rw [tree_eq_of_carries (fun I => carries_say _) h, ← (Prod.mk.inj hset).2]
    exact .inr rfl
  · exact .inl (congrArg World.tree (Prod.mk.inj h).2.symm)

theorem filed_of_createSettings {old : Option Path} (ht : w.tree.Proper)
    (hclear : w.tree.Clear (place ++ [fileName]))
    (hold : outdated? w.tree (.top place) ((Path.top place).child fileName) = .ok old)
    (h : result (createSettings root (.top place) ((Path.top place).child fileName) old) w =
      (.ok (), w')) :
    Filed w'.tree place fileName (Text.Utf8.encode (starterFor root)) := by
  unfold createSettings at h
  obtain ⟨_, w₁, hmake, h⟩ := ok_of_bind h
  obtain ⟨_, w₂, hwrite, h⟩ := ok_of_bind h
  obtain ⟨_, w₃, hsay, h⟩ := ok_of_bind h
  have hmade : Made w.tree place w₁.tree :=
    made_of_makeDirectory ht (hclear.of_prefix (List.prefix_append ..)) hmake
  obtain ⟨hhere, hfiled⟩ := filed_of_writeFile hclear hmade hwrite
  rw [← tree_eq_of_carries (fun I => carries_say _) hsay] at hhere hfiled
  cases old with
  | none => rwa [← (Prod.mk.inj h).2]
  | some p =>
    obtain ⟨rfl, hout⟩ := not_prefix_of_outdated? hclear hmade hold
    rw [← hhere] at hout
    rcases tree_of_removeFile h with heq | heq
    · rwa [heq]
    · rw [heq]
      exact hfiled.erase (by simp) hout

theorem result_makeDirectory (hdir : w.tree.DirAt place) :
    result (makeDirectory place) w = (.ok (), w) := by
  obtain ⟨time, hdir⟩ := hdir
  unfold makeDirectory
  rw [result_bind_ok (show result get w = (.ok w, w) from rfl), hdir]
  rfl

/-- A link that leads to a file leads to the new text after it is written through the link, also
when an old file is removed. -/
theorem content?_of_createSettings {old : Option Path} {bytes : List UInt8} (ht : w.tree.Proper)
    (hdir : w.tree.DirAt place)
    (hleads : w.tree.content? ((Path.top place).child fileName) = some bytes)
    (hold : outdated? w.tree (.top place) ((Path.top place).child fileName) = .ok old)
    (h : result (createSettings root (.top place) ((Path.top place).child fileName) old) w =
      (.ok (), w')) :
    w'.tree.content? ((Path.top place).child fileName) = some
      (Text.Utf8.encode (starterFor root)) := by
  obtain ⟨a, time, hplace, hn⟩ := FileTree.exists_of_content? hleads
  let new : FileNode := .file (Text.Utf8.encode (starterFor root)) w.now
  unfold createSettings at h
  rw [show (Path.top place).segments = place from rfl, result_bind_ok (result_makeDirectory hdir),
    result_bind_ok (by rw [result_writeFile, FileTree.not_isDir_of_content? hleads,
      if_neg (by simp), FileTree.resolve_of_place? hplace])] at h
  obtain ⟨_, w₁, hsay, h⟩ := ok_of_bind h
  have htree : w₁.tree = w.tree.put a new := tree_eq_of_carries (fun I => carries_say _) hsay
  have hkept : w₁.tree.content? ((Path.top place).child fileName) = some
      (Text.Utf8.encode (starterFor root)) := by
    rw [htree]
    exact FileTree.content?_put hplace hn w.now
  cases old with
  | none => rwa [← (Prod.mk.inj h).2]
  | some p =>
    obtain ⟨rfl, hother, bytes', hbytes⟩ := of_outdated? hold
    rcases tree_of_removeFile h with heq | heq
    · rwa [heq]
    · rw [heq, htree, FileTree.here_put]
      exact ht.content?_put_erase (by decide) hplace hn hbytes hother w.now

end Making

section Init

variable {o : InitOptions}

/-- The settings file that is made for a root. -/
def settingsPath (t : FileTree) (root : String) : Path :=
  (Path.top (t.resolve (.ofText root))).child fileName

/-- There is no file yet, or it may be overwritten: by an option, or because the answer is yes. -/
def MayWrite (o : InitOptions) (w : World) : Prop :=
  w.tree.has (settingsPath w.tree o.root) = true → o.force = false →
    (result
      (confirm ("[yellow]" ++ (settingsPath w.tree o.root).render ++
        " already exists. Overwrite?[/yellow]")) w).1 =
      .ok true

theorem ok_of_attempt {α : Type} {x : Session α} {report : Failure → String} {code : Nat} {a : α}
    (h : result (attempt x fun f => do say (report f); exit code) w = (.ok a, w')) :
    result x w = (.ok a, w') := by
  rw [result_attempt] at h
  rcases hx : result x w with ⟨(_ | _ | f) | b, w₁⟩ <;> rw [hx] at h
  · exact h
  · exact h
  · obtain ⟨_, w₂, -, hexit⟩ := ok_of_bind h
    cases hexit
  · exact h

theorem createSettings_of_init (hmay : MayWrite o w) (h : result (init o) w = (.ok (), w')) :
    let dir := Path.top (w.tree.resolve (.ofText o.root))
    ∃ w₁ old, w₁.tree = w.tree ∧ outdated? w₁.tree dir (dir.child fileName) = .ok old ∧
      result (createSettings o.root dir (dir.child fileName) old) w₁ = (.ok (), w') := by
  unfold init at h
  rw [result_bind_ok (show result (rootDir o.root) w =
    (.ok (.top (w.tree.resolve (.ofText o.root))), w) from rfl)] at h
  rw [result_bind_ok (result_tree w)] at h
  obtain ⟨old, w₁, hlift, h⟩ := ok_of_bind h
  have hold := ok_of_lift hlift
  rw [hold] at hlift
  obtain rfl : w = w₁ := (Prod.mk.inj hlift).2
  rw [result_bind_ok (result_tree w)] at h
  dsimp only at h
  split at h
  · next hasked =>
    obtain ⟨overwrite, w₁, hconfirm, h⟩ := ok_of_bind h
    have hyes : overwrite = true := by
      have hthere : w.tree.has (settingsPath w.tree o.root) = true ∧ o.force = false := by
        simpa [settingsPath] using hasked
      have hanswer := hmay hthere.1 hthere.2
      rw [settingsPath, hconfirm] at hanswer
      exact Except.ok.inj hanswer
    have htree := tree_eq_of_carries (fun I => carries_confirm _) hconfirm
    rw [if_pos hyes] at h
    exact ⟨w₁, old, htree, by rwa [htree], ok_of_attempt h⟩
  · exact ⟨w, old, rfl, hold, ok_of_attempt h⟩

/-- No link is on the way to a directory, and one in the place of the settings file leads to a
file. -/
structure Ready (t : FileTree) (place : List String) : Prop where
  clear : t.Clear place
  leads : ∀ target, t.node? (place ++ [fileName]) = some (.link target) →
    ∃ bytes, t.content? ((Path.top place).child fileName) = some bytes

theorem content?_init (ht : w.tree.Proper) (hready : Ready w.tree (w.tree.resolve (.ofText o.root)))
    (hmay : MayWrite o w) (h : result (init o) w = (.ok (), w')) :
    w'.tree.content? (settingsPath w.tree o.root) = some
      (Text.Utf8.encode (starterFor o.root)) := by
  obtain ⟨w₁, old, htree, hold, h⟩ := createSettings_of_init hmay h
  have hdown : ".." ∉ w.tree.resolve (.ofText o.root) ++ [fileName] := by
    rw [List.mem_append, not_or]
    exact ⟨hready.clear.down, by decide⟩
  rw [settingsPath]
  generalize w.tree.resolve (.ofText o.root) = place at *
  rw [← htree] at ht hready
  by_cases hlink : ∃ target, w₁.tree.node? (place ++ [fileName]) = some (.link target)
  · obtain ⟨target, hlink⟩ := hlink
    obtain ⟨bytes, hbytes⟩ := hready.leads target hlink
    have hdir : w₁.tree.DirAt place := by
      simpa using ht.parent _ (FileTree.mem_nodes_of_node? hlink (by simp))
    exact content?_of_createSettings ht hdir hbytes hold h
  · have hclear : w₁.tree.Clear (place ++ [fileName]) := by
      refine ⟨hdown, fun b hb target hn => ?_⟩
      rcases List.prefix_concat_iff.1 hb with rfl | hb
      · exact hlink ⟨target, hn⟩
      · exact hready.clear.noLink b hb target hn
    exact (filed_of_createSettings ht hclear hold h).content? hdown

theorem loadFile_eq_ok {t : FileTree} {text : String} {settings : Settings}
    (h : t.content? p = some (Text.Utf8.encode text)) : loadFile t p = .ok settings ↔
      Gives text.toList settings := by
  have hthere : t.has p = true := by
    obtain ⟨a, time, hplace, -⟩ := FileTree.exists_of_content? h
    rw [FileTree.has, hplace]
    rfl
  rw [loadFile, readDocument, h, hthere, Gives]
  dsimp only
  rw [Text.Utf8.decode_encode]
  dsimp only
  cases Toml.parse text.toList with
  | error e => simp
  | ok document =>
    dsimp only
    cases hread : Settings.read document <;> simp [hread]

/-- The settings in a new file are those in the default file with the root that was given, just
where that is plain. -/
theorem loadFile_init_iff (ht : w.tree.Proper)
    (hready : Ready w.tree (w.tree.resolve (.ofText o.root)))
    (hmay : MayWrite o w) (h : result (init o) w = (.ok (), w')) :
    (∃ settings, Gives starter.toList settings ∧
      loadFile w'.tree (settingsPath w.tree o.root) = .ok (withRoot settings (.text o.root))) ↔
        Plain o.root.toList := by
  simp only [loadFile_eq_ok (content?_init ht hready hmay h)]
  constructor
  · rintro ⟨settings, -, hgives⟩
    exact plain_of_gives hgives rfl
  · exact gives_of_plain

def moving : World where
  tree :=
    ⟨[(["work"], .dir 0),
      (["work", "typja.toml"], .file (Text.Utf8.encode "[project]\nroot = 'my site'\n") 0),
    (["work", "my site"], .dir 0),
      (["work", "my site", "typja.toml"], .link (.relative ["..", "site.toml"])),
    (["work", "site.toml"], .file [] 0)], ["work"]⟩
  output := ""
  input := "what\nY\n".toList
  columns := 80
  terminal := ⟨true, false, .colourless⟩
  order := .ascending
  modules := []
  now := 1

theorem proper_moving : moving.tree.Proper := by
  refine ⟨?_, by decide, 0, rfl⟩
  simp only [show moving.tree.nodes = [_, _, _, _, _] from rfl, List.forall_mem_cons]
  exact ⟨⟨0, rfl⟩, ⟨0, rfl⟩, ⟨0, rfl⟩, ⟨0, rfl⟩, ⟨0, rfl⟩, by simp⟩

theorem clear_moving (hdown : ".." ∉ a) (hshort : a.length ≤ 2) : moving.tree.Clear a := by
  refine ⟨hdown, fun b hb target hn => ?_⟩
  have hlinks : ∀ e ∈ moving.tree.nodes, ∀ target, e.2 = .link target → e.1.length = 3 := by
    simp [show moving.tree.nodes = [_, _, _, _, _] from rfl]
  have hlength := hb.length_le
  by_cases htop : b = []
  · subst htop
    cases hn
  · have hlong : b.length = 3 := hlinks _ (FileTree.mem_nodes_of_node? hn htop) target rfl
    omega

theorem exists_ok_of_isOk {α : Type} {x : Session α} (h : (result x w).1.isOk = true) :
    ∃ a w', result x w = (.ok a, w') := by
  rcases hx : result x w with ⟨_ | a, w'⟩
  · rw [hx] at h
    cases h
  · exact ⟨a, w', rfl⟩

theorem loadFile_init_moving :
    ∃ w' settings, result (init ⟨"my site", false⟩) moving = (.ok (), w') ∧
    Gives starter.toList settings ∧
      loadFile w'.tree (.top ["work", "my site", "typja.toml"]) = .ok
        (withRoot settings (.text "my site")) := by
  have hpath : settingsPath moving.tree "my site" = .top ["work", "my site", "typja.toml"] := by
    decide +kernel
  have hready : Ready moving.tree (moving.tree.resolve (.ofText "my site")) := by
    rw [show moving.tree.resolve (.ofText "my site") = ["work", "my site"] by decide +kernel]
    exact ⟨clear_moving (by decide) (by decide), fun _ _ => ⟨[], by decide +kernel⟩⟩
  obtain ⟨hanswer, hmade⟩ :
      (result (confirm ("[yellow]" ++ (settingsPath moving.tree "my site").render ++
        " already exists. Overwrite?[/yellow]")) moving).1.toOption = some true ∧
      (result (init ⟨"my site", false⟩) moving).1.isOk = true := by
    decide +kernel
  have hmay : MayWrite ⟨"my site", false⟩ moving := by
    intro _ _
    generalize (result _ moving).1 = answer at hanswer ⊢
    cases answer with
    | error stop => cases hanswer
    | ok yes => rw [Option.some.inj hanswer]
  obtain ⟨_, w', hok⟩ := exists_ok_of_isOk hmade
  obtain ⟨settings, hgives, hload⟩ :=
    (loadFile_init_iff (o := ⟨"my site", false⟩) proper_moving hready hmay hok).2 (by decide)
  rw [hpath] at hload
  exact ⟨w', settings, hok, hgives, hload⟩

theorem loadFile_init_quote : ∃ w', result (init ⟨"a\"b", false⟩) moving = (.ok (), w') ∧
    ∀ settings, loadFile w'.tree (.top ["work", "a\"b", "typja.toml"]) ≠ .ok settings := by
  have hpath : settingsPath moving.tree "a\"b" = .top ["work", "a\"b", "typja.toml"] := by
    decide +kernel
  have hmay : MayWrite ⟨"a\"b", false⟩ moving := by
    intro hthere
    rw [hpath] at hthere
    cases hthere
  obtain ⟨_, w', hok⟩ :=
    exists_ok_of_isOk (show (result (init ⟨"a\"b", false⟩) moving).1.isOk = true by decide +kernel)
  have hready : Ready moving.tree (moving.tree.resolve (.ofText "a\"b")) := by
    rw [show moving.tree.resolve (.ofText "a\"b") = ["work", "a\"b"] by decide +kernel]
    exact ⟨clear_moving (by decide) (by decide), fun _ hlink => nomatch hlink⟩
  have hcontent := content?_init proper_moving hready hmay hok
  refine ⟨w', hok, fun settings hload => ?_⟩
  rw [← hpath, loadFile_eq_ok hcontent] at hload
  obtain ⟨t, hparse, -⟩ := hload
  obtain ⟨d, hd, -⟩ := parse_eq_ok.1 hparse
  -- the root ends at its own quote, and its last letter stands where the line should end
  have hquoted (back : List Char) :
      quotedText? ('"' :: (joinBreaks "a\"b".toList ++ '"' :: '\n' :: back)) =
      some (.ok (['a'], 'b' :: '"' :: '\n' :: back)) := rfl
  have hrest (n : Nat) (back : List Char) :
      goOn (statements n) (rooted (String.ofList ['a']), 'b' :: '"' :: '\n' :: back) =
      .error ⟨.statementEnd, 'b' :: '"' :: '\n' :: back⟩ := rfl
  obtain ⟨n, hn⟩ := statements_joinBreaks (hquoted (linesText backLines))
  cases (hn.trans (hrest (120 + n) (linesText backLines))).symm.trans hd

end Init

end TypedTemplate.Command
