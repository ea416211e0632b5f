import TypedTemplate.Command.Session

/-! Running a session from a given world: one equation for each step that sessions are made of. -/
namespace TypedTemplate.Command.Session

/-- The end of a session and the world that it leaves. -/
def result {α : Type} (x : Session α) (w : World) : Except Stop α × World := x w

section Steps

variable {α β : Type} {x : Session α} {w w₁ : World}

@[simp] theorem result_pure (a : α) (w : World) : result (pure a : Session α) w = (.ok a, w) := rfl

@[simp] theorem result_tree (w : World) : result tree w = (.ok w.tree, w) := rfl

theorem result_bind (x : Session α) (f : α → Session β) (w : World) :
    result (x >>= f) w =
      match result x w with
      | (.ok a, w₁) => result (f a) w₁
      | (.error e, w₁) => (.error e, w₁) := by
  change (ExceptT.bind x f) w = _
  simp only [ExceptT.bind, ExceptT.mk, bind, StateT.bind, result]
  rcases x w with ⟨_ | _, w₁⟩ <;> rfl

theorem result_bind_ok {a : α} (h : result x w = (.ok a, w₁)) (f : α → Session β) :
    result (x >>= f) w = result (f a) w₁ := by
  rw [result_bind, h]

theorem result_bind_error {e : Stop} (h : result x w = (.error e, w₁)) (f : α → Session β) :
    result (x >>= f) w = (.error e, w₁) := by
  rw [result_bind, h]

theorem ok_of_bind {f : α → Session β} {b : β} {w₂ : World} (h : result (x >>= f) w = (.ok b, w₂)) :
    ∃ a w₁, result x w = (.ok a, w₁) ∧ result (f a) w₁ = (.ok b, w₂) := by
  rw [result_bind] at h
  rcases hx : result x w with ⟨e | a, w₁⟩
  · rw [hx] at h
    cases h
  · rw [hx] at h
    exact ⟨a, w₁, rfl, h⟩

theorem result_map (g : α → β) (x : Session α) (w : World) :
    result (g <$> x) w = ((result x w).1.map g, (result x w).2) := by
  rw [map_eq_pure_bind, result_bind]
  rcases result x w with ⟨_ | a, w₁⟩ <;> rfl

theorem result_attempt (x : Session α) (h : Failure → Session α) (w : World) :
    result (attempt x h) w =
      match result x w with
      | (.error (.failure f), w₁) => result (h f) w₁
      | r => r := by
  change (ExceptT.tryCatch x _) w = _
  simp only [ExceptT.tryCatch, ExceptT.mk, bind, StateT.bind, result]
  rcases x w with ⟨e | a, w₁⟩
  · cases e <;> rfl
  · rfl

theorem result_tryCatch (x : Session α) (h : Stop → Session α) (w : World) :
    result (tryCatch x h) w =
      match result x w with
      | (.error e, w₁) => result (h e) w₁
      | r => r := by
  change (ExceptT.tryCatch x h) w = _
  simp only [ExceptT.tryCatch, ExceptT.mk, bind, StateT.bind, result]
  rcases x w with ⟨_ | _, w₁⟩ <;> rfl

theorem result_lift_ok {ε : Type} (wrap : ε → Failure) (a : α) (w : World) :
    result (lift wrap (.ok a : Except ε α)) w = (.ok a, w) := rfl

theorem result_lift_error {ε : Type} (wrap : ε → Failure) (e : ε) (w : World) :
    result (lift wrap (.error e : Except ε α)) w = (.error (.failure (wrap e)), w) := rfl

theorem ok_of_lift {ε : Type} {wrap : ε → Failure} {r : Except ε α} {a : α}
    (h : result (lift wrap r) w = (.ok a, w₁)) :
    r = .ok a := by
  cases r with
  | ok b =>
    cases h
    rfl
  | error e => cases h

theorem result_printWith (forced : Option Bool) (parts : List Console.Part) (w : World) :
    result (printWith forced parts) w =
      let shown := Console.display (w.terminal.painter? forced) w.columns parts
      let w₁ := { w with output := w.output ++ String.ofList shown.1.sent }
      match shown.2 with
      | some e => (.error (.failure (.markup e)), w₁)
      | none => (.ok (), w₁) := by
  unfold printWith
  rw [result_bind_ok (show result get w = (.ok w, w) from rfl)]
  dsimp only
  rw [result_bind_ok (show result (write _) w = (.ok (), _) from rfl)]
  cases (Console.display (w.terminal.painter? forced) w.columns parts).2 <;> rfl

theorem result_writeFile (path : Path) (text : String) (w : World) :
    result (writeFile path text) w =
      if w.tree.isDir path then (.error (.failure (.file (.isDirectory path))), w)
      else (.ok (),
        { w with tree := w.tree.put (w.tree.resolve path) (.file (Text.Utf8.encode text)
          w.now) }) := by
  unfold writeFile
  rw [result_bind_ok (show result get w = (.ok w, w) from rfl)]
  split <;> rfl

end Steps

/-- A session that ends with a value or a failure, never with an exit. -/
def NoExit {α : Type} (x : Session α) : Prop :=
  ∀ w, (∃ a w₁, result x w = (.ok a, w₁)) ∨ ∃ f w₁, result x w = (.error (.failure f), w₁)

section NoExit

variable {α β : Type}

theorem noExit_pure (a : α) : NoExit (pure a : Session α) := fun w => .inl ⟨a, w, rfl⟩

theorem noExit_get : NoExit (get : Session World) := fun w => .inl ⟨w, w, rfl⟩

theorem NoExit.bind {x : Session α} {f : α → Session β} (hx : NoExit x) (hf : ∀ a, NoExit (f a)) :
    NoExit (x >>= f) := by
  intro w
  rcases hx w with ⟨a, w₁, h⟩ | ⟨g, w₁, h⟩
  · rw [result_bind_ok h]
    exact hf a w₁
  · exact .inr ⟨g, w₁, result_bind_error h f⟩

theorem NoExit.map {x : Session α} (hx : NoExit x) (g : α → β) : NoExit (g <$> x) := by
  rw [map_eq_pure_bind]
  exact hx.bind fun a => noExit_pure (g a)

theorem noExit_lift {ε : Type} (wrap : ε → Failure) (r : Except ε α) : NoExit (lift wrap r) :=
  fun w => match r with
  | .ok a => .inl ⟨a, w, rfl⟩
  | .error e => .inr ⟨wrap e, w, rfl⟩

theorem noExit_printWith (forced : Option Bool) (parts : List Console.Part) :
    NoExit (printWith forced parts) := by
  intro w
  rw [result_printWith]
  dsimp only
  cases (Console.display (w.terminal.painter? forced) w.columns parts).2 with
  | none => exact .inl ⟨_, _, rfl⟩
  | some e => exact .inr ⟨_, _, rfl⟩

theorem noExit_say (markup : String) : NoExit (say markup) :=
  noExit_printWith none [.line markup]

theorem noExit_writeFile (path : Path) (text : String) : NoExit (writeFile path text) := by
  intro w
  rw [result_writeFile]
  split
  · exact .inr ⟨_, _, rfl⟩
  · exact .inl ⟨_, _, rfl⟩

theorem NoExit.attempt {x : Session α} {h : Failure → Session α} (hx : NoExit x)
    (hh : ∀ f, NoExit (h f)) :
    NoExit (attempt x h) := by
  intro w
  rw [result_attempt]
  rcases hx w with ⟨a, w₁, hr⟩ | ⟨f, w₁, hr⟩
  · rw [hr]
    exact .inl ⟨a, w₁, rfl⟩
  · rw [hr]
    exact hh f w₁

theorem NoExit.exit_of_bind {x : Session α} {f : α → Session β} {w w₁ : World} {code : Nat}
    (hx : NoExit x) (h : result (x >>= f) w = (.error (.exit code), w₁)) :
    ∃ a w₂, result x w = (.ok a, w₂) ∧ result (f a) w₂ = (.error (.exit code), w₁) := by
  rcases hx w with ⟨a, w₂, hr⟩ | ⟨g, w₂, hr⟩
  · exact ⟨a, w₂, hr, by rwa [result_bind_ok hr] at h⟩
  · rw [result_bind_error hr] at h
    cases h

end NoExit

def Carries {α : Type} (I : FileTree → Prop) (x : Session α) : Prop :=
  ∀ w, I w.tree → I (result x w).2.tree

section Carries

variable {α β : Type} {I : FileTree → Prop}

theorem carries_pure (a : α) : Carries I (pure a : Session α) := fun _ hw => hw

theorem carries_get : Carries I (get : Session World) := fun _ hw => hw

theorem carries_tree : Carries I tree := fun _ hw => hw

theorem carries_exit (code : Nat) : Carries I (exit code : Session α) := fun _ hw => hw

theorem carries_throw (stop : Stop) : Carries I (throw stop : Session α) := fun _ hw => hw

theorem carries_fail (f : Failure) : Carries I (fail f : Session α) := fun _ hw => hw

theorem carries_lift {ε : Type} (wrap : ε → Failure) (r : Except ε α) :
    Carries I (lift wrap r) := by
  cases r with
  | ok a => exact carries_pure a
  | error e => exact carries_fail (wrap e)

theorem tree_bind {x : Session α} {f : α → Session β} {w : World} (hx : I (result x w).2.tree)
    (hf : ∀ a, Carries I (f a)) :
    I (result (x >>= f) w).2.tree := by
  rw [result_bind]
  generalize result x w = r at hx ⊢
  rcases r with ⟨e | a, w₁⟩
  · exact hx
  · exact hf a w₁ hx

theorem Carries.bind {x : Session α} {f : α → Session β} (hx : Carries I x)
    (hf : ∀ a, Carries I (f a)) :
    Carries I (x >>= f) := fun w hw => tree_bind (hx w hw) hf

theorem Carries.map {x : Session α} (hx : Carries I x) (g : α → β) : Carries I (g <$> x) := by
  rw [map_eq_pure_bind]
  exact hx.bind fun a => carries_pure (g a)

theorem carries_forM {f : α → Session Unit} (hf : ∀ a, Carries I (f a)) (l : List α) :
    Carries I (l.forM f) := by
  induction l with
  | nil => exact carries_pure ()
  | cons a l ih =>
    rw [List.forM_eq_forM, List.forM_cons]
    exact (hf a).bind fun _ => ih

theorem tree_attempt {x : Session α} {h : Failure → Session α} {w : World}
    (hx : I (result x w).2.tree)
    (hh : ∀ f, Carries I (h f)) : I (result (attempt x h) w).2.tree := by
  rw [result_attempt]
  generalize result x w = r at hx ⊢
  rcases r with ⟨(_ | _ | f) | a, w₁⟩
  · exact hx
  · exact hx
  · exact hh f w₁ hx
  · exact hx

theorem Carries.tryCatch {x : Session α} {h : Stop → Session α} (hx : Carries I x)
    (hh : ∀ stop, Carries I (h stop)) :
    Carries I (tryCatch x h) := by
  intro w hw
  have hw₁ := hx w hw
  rw [result_tryCatch]
  generalize result x w = r at hw₁ ⊢
  rcases r with ⟨e | a, w₁⟩
  · exact hh e w₁ hw₁
  · exact hw₁

theorem carries_printWith (forced : Option Bool) (parts : List Console.Part) :
    Carries I (printWith forced parts) := by
  intro w hw
  rw [result_printWith]
  dsimp only
  cases (Console.display (w.terminal.painter? forced) w.columns parts).2 <;> exact hw

theorem carries_say (markup : String) : Carries I (say markup) :=
  carries_printWith none [.line markup]

theorem tree_eq_of_carries {x : Session α} {a : α} {w w₁ : World} (hx : ∀ I, Carries I x)
    (h : result x w = (.ok a, w₁)) :
    w₁.tree = w.tree := by
  simpa [h] using hx (· = w.tree) w rfl

end Carries

/-- From a tree on, a session that comes to its end leaves the tree and gives what is asked for. -/
def Yields {α : Type} (t : FileTree) (x : Session α) (P : α → Prop) : Prop :=
  ∀ w a w₁, w.tree = t → result x w = (.ok a, w₁) → w₁.tree = t ∧ P a

section Yields

variable {α β : Type} {t : FileTree} {P : α → Prop} {Q : β → Prop}

theorem yields_pure {a : α} (h : P a) : Yields t (pure a) P := by
  rintro w _ _ hw ⟨⟩
  exact ⟨hw, h⟩

theorem yields_exit (code : Nat) : Yields t (exit code) P := by
  rintro w _ _ _ ⟨⟩

theorem yields_tree : Yields t tree (· = t) := by
  rintro w _ _ hw ⟨⟩
  exact ⟨hw, hw⟩

theorem yields_lift {ε : Type} (wrap : ε → Failure) (r : Except ε α) :
    Yields t (lift wrap r) (r = .ok ·) := by
  intro w a w₁ hw h
  have hr := ok_of_lift h
  rw [hr] at h
  exact ⟨(Prod.mk.inj h).2 ▸ hw, hr⟩

theorem Yields.of_carries {x : Session α} (hx : ∀ I, Carries I x) : Yields t x fun _ => True :=
  fun _ _ _ hw h => ⟨(tree_eq_of_carries hx h).trans hw, trivial⟩

theorem Yields.bind {x : Session α} {f : α → Session β} (hx : Yields t x P)
    (hf : ∀ a, P a → Yields t (f a) Q) :
    Yields t (x >>= f) Q := by
  intro w b w₂ hw h
  obtain ⟨a, w₁, ha, hb⟩ := ok_of_bind h
  obtain ⟨hw₁, hP⟩ := hx w a w₁ hw ha
  exact hf a hP w₁ b w₂ hw₁ hb

theorem yields_say (markup : String) : Yields t (say markup) fun _ => True :=
  .of_carries fun _ => carries_say markup

end Yields

end TypedTemplate.Command.Session
