import TypedTemplate.ClassIndex.Register
import TypedTemplate.Proofs.Table

/-! The definitions that a registry has after an index was made known to it: each is that of an
entry, whatever module it is found in. -/
namespace TypedTemplate.ClassIndex

/-- The definition is that of an entry of the index. -/
def Made (x : ClassIndex) (d : Definition) : Prop :=
  ∃ p ∈ x.entries, d = definition (owner (moduleListings x.entries) p.1 p.2) p.2

/-- Every definition that a module of the registry holds is that of an entry. -/
def Holds (x : ClassIndex) (r : Registry) : Prop := r.modules.All fun defs => defs.All (Made x)

variable {x : ClassIndex} {r : Registry}

theorem all_definitions (x : ClassIndex) : (definitions x.entries).All (Made x) := by
  intro p hp
  obtain ⟨q, hq, rfl⟩ := List.mem_map.1 hp
  exact ⟨q, hq, rfl⟩

theorem Holds.moduleTypes (h : Holds x r) (m : String) : (r.moduleTypes m).All (Made x) := by
  rw [Registry.moduleTypes]
  cases hm : r.modules.find? m with
  | none => exact fun _ hp => nomatch hp
  | some defs => exact h.find? hm

theorem holds_registerEntries (h : Holds x r) :
    Holds x (registerEntries x (definitions x.entries) r) := by
  refine List.foldlRecOn (motive := Holds x) x.entries _ h fun r hr p _ => ?_
  dsimp only
  split
  · exact hr
  · next d hd =>
    split
    · exact hr
    · exact Table.All.insert hr _ ((hr.moduleTypes _).insert _ ((all_definitions x).find? hd))

theorem holds_registerListings (h : Holds x r) (listings : Table (Table String)) :
    Holds x (registerListings listings (definitions x.entries) r) := by
  refine List.foldlRecOn (motive := Holds x) listings _ h fun r hr l _ => Table.All.insert hr _
    fun q hq => ?_
  obtain ⟨⟨n, key⟩, -, hq⟩ := List.mem_filterMap.1 hq
  obtain ⟨d, hd, rfl⟩ := Option.map_eq_some_iff.1 hq
  exact (all_definitions x).find? hd

theorem holds_importTopLevel (h : Holds x r) : Holds x (importTopLevel x r) := by
  refine List.foldlRecOn (motive := Holds x) x.entries _ h fun r hr p _ => ?_
  dsimp only
  split
  · exact hr
  · exact hr

theorem holds_register (x : ClassIndex) : Holds x (x.register .empty).2 := by
  have hempty : Holds x.detectConflicts .empty := fun _ hp => nomatch hp
  exact holds_importTopLevel (holds_registerListings (holds_registerEntries hempty) _)

theorem exists_entry_of_register {m n : String} {d : Definition}
    (h : ((x.register .empty).2.moduleTypes m).find? n = some d) :
    ∃ e ∈ x.entries.values, d.name = e.name ∧ d.fields = e.fields ∧ d.methods = some e.methods := by
  obtain ⟨p, hp, rfl⟩ := ((holds_register x).moduleTypes m).find? h
  exact ⟨p.2, List.mem_map.2 ⟨p, hp, rfl⟩, rfl, rfl, rfl⟩

end TypedTemplate.ClassIndex
