import TypedTemplate.Proofs.TypeExpr.Name
import TypedTemplate.Proofs.TypeExpr.Reading

/-! Reading a printed type. Where neither unions of the old styles nor callables have arguments,
reading gives back the type that was printed, and each node of it carries its own printed form as
its text. -/
namespace TypedTemplate.TypeExpr
open Text

mutual
/-- A type and all types inside it. -/
def nodes : TypeExpr → List TypeExpr
  | named r n m => [named r n m]
  | generic r n m args => generic r n m args :: nodesAll args
  | union r style ms => union r style ms :: nodesAll ms

def nodesAll : List TypeExpr → List TypeExpr
  | [] => []
  | t :: ts => t.nodes ++ nodesAll ts
end

mutual
/-- A type without the texts of its nodes. -/
def bare : TypeExpr → TypeExpr
  | named _ n m => named "" n m
  | generic _ n m args => generic "" n m (bareAll args)
  | union _ style ms => union "" style (bareAll ms)

def bareAll : List TypeExpr → List TypeExpr
  | [] => []
  | t :: ts => t.bare :: bareAll ts
end

mutual
/-- The same type, each node with its printed form as its text. -/
def reprint : TypeExpr → TypeExpr
  | named r n m => named (named r n m).render n m
  | generic r n m args => generic (generic r n m args).render n m (reprintAll args)
  | union r style ms => union (union r style ms).render style (reprintAll ms)

def reprintAll : List TypeExpr → List TypeExpr
  | [] => []
  | t :: ts => t.reprint :: reprintAll ts
end

theorem reprintAll_eq_map (ts : List TypeExpr) : reprintAll ts = ts.map reprint := by
  induction ts with
  | nil => simp [reprintAll]
  | cons t ts ih => simp [reprintAll, ih]

theorem raw_reprint (t : TypeExpr) : t.reprint.raw = t.render := by
  cases t <;> rw [reprint, raw]

mutual
theorem bare_reprint : (t : TypeExpr) → t.reprint.bare = t.bare
  | named _ _ _ => by rw [reprint, bare, bare]
  | generic _ _ _ args => by rw [reprint, bare, bare, bareAll_reprintAll args]
  | union _ _ ms => by rw [reprint, bare, bare, bareAll_reprintAll ms]

theorem bareAll_reprintAll : (ts : List TypeExpr) → bareAll (reprintAll ts) = bareAll ts
  | [] => by rw [reprintAll]
  | t :: ts => by rw [reprintAll, bareAll, bareAll, bare_reprint t, bareAll_reprintAll ts]
end

mutual
theorem render_reprint : (t : TypeExpr) → t.reprint.render = t.render
  | named _ _ _ => by rw [reprint, render, render]
  | generic _ _ _ [] => by rw [reprint, reprintAll, render, render]
  | generic _ _ _ (a :: as) => by
    have h := renderAll_reprintAll (a :: as)
    rw [reprintAll] at h
    rw [reprint, reprintAll, render, render, h]
  | union _ _ [] => by rw [reprint, reprintAll, render, render]
  | union _ _ (t :: ts) => by
    have h := renderAll_reprintAll (t :: ts)
    rw [reprintAll] at h
    rw [reprint, reprintAll, render, render, h]

theorem renderAll_reprintAll : (ts : List TypeExpr) → renderAll (reprintAll ts) = renderAll ts
  | [] => by rw [reprintAll]
  | t :: ts => by rw [reprintAll, renderAll, renderAll, render_reprint t, renderAll_reprintAll ts]
end

mutual
theorem nodes_reprint : (t : TypeExpr) → t.reprint.nodes = t.nodes.map reprint
  | named _ _ _ => by simp only [reprint, nodes, List.map_cons, List.map_nil]
  | generic _ _ _ args => by simp only [reprint, nodes, List.map_cons, nodesAll_reprintAll args]
  | union _ _ ms => by simp only [reprint, nodes, List.map_cons, nodesAll_reprintAll ms]

theorem nodesAll_reprintAll :
    (ts : List TypeExpr) → nodesAll (reprintAll ts) = (nodesAll ts).map reprint
  | [] => by simp only [reprintAll, nodesAll, List.map_nil]
  | t :: ts => by simp only [reprintAll, nodesAll, List.map_append, nodes_reprint t,
    nodesAll_reprintAll ts]
end

theorem raw_eq_render_of_reprint (t : TypeExpr) : ∀ v ∈ t.reprint.nodes, v.raw = v.render := by
  intro v hv
  rw [nodes_reprint] at hv
  obtain ⟨u, -, rfl⟩ := List.mem_map.1 hv
  rw [raw_reprint, render_reprint]

inductive Simple : TypeExpr → Prop
  | named {r n m} (hn : IsName n m) : Simple (named r n m)
  | generic {r n m args} (hn : IsName n m) (hr : ¬ Reserved n m) (hne : args ≠ [])
    (ha : ∀ a ∈ args, Simple a) :
      Simple (generic r n m args)

/-- A simple type, or two or more of them with bars between them. -/
inductive Printable : TypeExpr → Prop
  | simple {t} (h : Simple t) : Printable t
  | bars {r ms} (hlen : 2 ≤ ms.length) (hm : ∀ t ∈ ms, Simple t) : Printable (union r .pipe ms)

def printed : List TypeExpr → List Arg
  | [] => []
  | t :: ts => ⟨t.reprint, t.render.toList⟩ :: ts.map fun u => ⟨u.reprint, ' ' :: u.render.toList⟩

theorem type_printed (ts : List TypeExpr) : (printed ts).map Arg.type = ts.map reprint := by
  cases ts <;> simp [printed]

theorem joined_printed (ts : List TypeExpr) :
    joined (printed ts) = (joinWith ", " (renderAll ts)).toList := by
  rw [joinWith, String.toList_intercalate, renderAll_eq_map]
  cases ts with
  | nil => rfl
  | cons t ts =>
    have := intercalate_blank t.render.toList (ts.map fun u => u.render.toList)
    simpa [joined, printed, Function.comp_def] using this

theorem spelled_printed {ts : List TypeExpr} (h : ∀ t ∈ ts, Spelled t.reprint t.render.toList) :
    ∀ a ∈ printed ts, Spelled a.type (trim a.text) := by
  cases ts with
  | nil => simp [printed]
  | cons t ts =>
    intro a ha
    rcases List.mem_cons.1 ha with rfl | ha
    · have ht := h t (by simp)
      rwa [trim_eq_self ht.trimmed]
    · obtain ⟨u, hu, rfl⟩ := List.mem_map.1 ha
      have hs := h u (by simp [hu])
      rwa [trim_space, trim_eq_self hs.trimmed]

theorem isPlain_of_isBaseChar {c : Char} (h : isBaseChar c = true) : isPlain c = true := by
  have hsep : ∀ d ∈ ['[', '(', '{', ']', ')', '}', ',', '|', ':', '=', '>'],
    isBaseChar d = false := by decide
  have hne : c ∉ ['[', '(', '{', ']', ')', '}', ',', '|', ':', '=', '>'] :=
    fun hm => by simp [hsep c hm] at h
  simp only [List.mem_cons, List.not_mem_nil, or_false, not_or] at hne
  simp [isPlain, isOpen, isClose, hne]

theorem plain_qualify {n : String} {m : Option String} (h : IsName n m) :
  Plain (qualify m n).toList := fun c hc => isPlain_of_isBaseChar (isBaseChar_of_mem_qualify h c hc)

theorem Simple.spelled {t : TypeExpr} (h : Simple t) : Spelled t.reprint t.render.toList := by
  induction h with
  | @named r n m hn =>
    have hs := Spelled.name (plain_qualify hn) (trimmed_qualify hn) (qualify_toList_ne_nil hn)
    rw [ofName, splitName_qualify hn, String.ofList_toList] at hs
    rwa [reprint, render]
  | @generic r n m args hn hr hne ha ih =>
    have hbase : Base (qualify m n).toList := ⟨plain_qualify hn, (trimmed_qualify hn).1⟩
    have hreserved {w : String} (hw : IsComponent w)
        (hmem : w ∈ ["Union", "Optional", "Callable"]) :
        (qualify m n).toList ≠ w.toList := fun heq => by
      obtain ⟨rfl, rfl⟩ := qualify_inj hn (isName_plain hw) heq
      exact hr (.inl ⟨rfl, hmem⟩)
    obtain ⟨a, as, rfl⟩ := List.exists_cons_of_ne_nil hne
    have hs := Spelled.generic hbase (hreserved (w := "Union") ⟨by decide, by decide⟩ (by decide))
      (hreserved (w := "Optional") ⟨by decide, by decide⟩ (by decide))
      (by rw [trim_eq_self (trimmed_qualify hn)]; exact isCallable_qualify hn hr)
        (by simp [printed]) (spelled_printed ih)
    have htext : bracketed (qualify m n).toList (joined (printed (a :: as))) =
        (TypeExpr.generic r n m (a :: as)).render.toList := by
      rw [joined_printed, render, String.toList_append, String.toList_append, String.toList_append]
      simp [bracketed]
    rw [ofGeneric, htext, String.ofList_toList, trim_eq_self (trimmed_qualify hn),
      splitName_qualify hn, type_printed] at hs
    rwa [reprint, reprintAll_eq_map]

theorem Printable.spelling {t : TypeExpr} (h : Printable t) :
    Spelling t.reprint t.render.toList := by
  cases h with
  | simple h => exact .single h.spelled
  | @bars r ms hlen hm =>
    let as : List Arg := ms.map fun t => ⟨t.reprint, t.render.toList⟩
    have htexts : as.map Arg.text = ms.map fun t => t.render.toList := by
      simp [as, Function.comp_def]
    have htypes : as.map Arg.type = ms.map reprint := by simp [as, Function.comp_def]
    have hspelled : ∀ a ∈ as, Spelled a.type a.text := by
      intro a ha
      obtain ⟨t, ht, rfl⟩ := List.mem_map.1 ha
      exact (hm t ht).spelled
    have htrim : Trimmed (bar.intercalate (as.map Arg.text)) := by
      refine (trimmed_intercalate (by intro h0; simp [as] at h0; simp [h0] at hlen)
        fun p hp => ?_).2
      obtain ⟨a, ha, rfl⟩ := List.mem_map.1 hp
      exact ⟨(hspelled a ha).ne_nil, (hspelled a ha).trimmed⟩
    have hs := Spelling.bars (by simpa [as] using hlen) htrim fun a ha => by
      rw [trim_eq_self (hspelled a ha).trimmed]
      exact hspelled a ha
    have htext : bar.intercalate (as.map Arg.text) = (TypeExpr.union r .pipe ms).render.toList := by
      rw [htexts]
      match ms, hlen with
      | t :: u :: ts, _ =>
        rw [render, joinWith, String.toList_intercalate, renderAll_eq_map, List.map_map]
        rfl
    rw [htext, htypes, String.ofList_toList] at hs
    rwa [reprint, reprintAll_eq_map]

/-- Printing and reading is the identity, the texts of the nodes apart, and these are then the
printed forms. -/
theorem parse_render {t : TypeExpr} (h : Printable t) :
    ∃ u, parse t.render = .ok u ∧ u.bare = t.bare ∧ ∀ v ∈ u.nodes, v.raw = v.render :=
  ⟨t.reprint, parseChars_spelling h.spelling, bare_reprint t, raw_eq_render_of_reprint t⟩

theorem parse_render_dict_or_none :
    let t : TypeExpr := .union "" .pipe [.generic "" "dict" none [.named "" "str" none,
      .generic "" "list" none [.named "" "User" (some "app.models")]], .named "" "None" none]
    Printable t ∧ ∃ u, parse t.render = .ok u ∧ u.bare = t.bare ∧
      ∀ v ∈ u.nodes, v.raw = v.render := by
  intro t
  have plain {s : String} (h : IsComponent s) : Simple (.named "" s none) := .named (isName_plain h)
  have user : Simple (.named "" "User" (some "app.models")) := by
    refine .named ⟨⟨by decide, by decide⟩,
      fun p hp => ⟨["app", "models"], by decide, ?_, by simp_all⟩⟩
    simp only [List.forall_mem_cons]
    exact ⟨⟨by decide, by decide⟩, ⟨by decide, by decide⟩, by simp⟩
  have list : Simple (.generic "" "list" none [.named "" "User" (some "app.models")]) :=
    .generic (isName_plain ⟨by decide, by decide⟩) (by simp [Reserved]) (by simp)
      (by simpa using user)
  have dict : Simple (.generic "" "dict" none [.named "" "str" none,
      .generic "" "list" none [.named "" "User" (some "app.models")]]) :=
    .generic (isName_plain ⟨by decide, by decide⟩) (by simp [Reserved]) (by simp)
      (by simpa using ⟨plain ⟨by decide, by decide⟩, list⟩)
  have ht : Printable t := .bars (by decide) (by simpa using ⟨dict, plain ⟨by decide, by decide⟩⟩)
  exact ⟨ht, parse_render ht⟩

end TypedTemplate.TypeExpr
