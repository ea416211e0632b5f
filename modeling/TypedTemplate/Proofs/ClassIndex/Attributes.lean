import TypedTemplate.ClassIndex.Collect
import TypedTemplate.Proofs.ClassSource.Walk
import TypedTemplate.Proofs.Table

/-! The attributes that initialisers set, and those that a class is recorded with. Of an
initialiser, its parameters and the plain assignments are recorded whose target is the attribute
itself. What it sets in a row of targets, with an annotation or by an augmented assignment is known
only if it is recorded for another reason. -/
namespace TypedTemplate

namespace ClassSource

mutual

def Expr.ownAttributes : Expr → List String
  | .mk (.attr field) [.mk (.name "self") _] => [field]
  | .mk .tuple ps => Expr.ownAttributesOf ps
  | .mk .list ps => Expr.ownAttributesOf ps
  | .mk .starred ps => Expr.ownAttributesOf ps
  | _ => []

def Expr.ownAttributesOf : List Expr → List String
  | [] => []
  | e :: es => e.ownAttributes ++ Expr.ownAttributesOf es

end

namespace Stmt

def assigned : Stmt → List String
  | assign targets _ => targets.flatMap Expr.ownAttributes
  | annotated target _ (some _) => target.ownAttributes
  | augmented target _ => target.ownAttributes
  | _ => []

/-- A statement of a class is an initialiser in which an attribute is set. -/
inductive Initialises (x : String) : Stmt → Prop
  | mk {isAsync : Bool} {params : List (String × Option Expr)} {returns : Option Expr}
    {body : List Stmt} {s : Stmt}
      (hs : Within s body) (hx : x ∈ s.assigned) :
      Initialises x (function isAsync "__init__" params returns body)

def initialised : Stmt → List String
  | function _ name _ _ body => if name == "__init__" then (walk body).flatMap assigned else []
  | _ => []

theorem mem_initialised {x : String} {s : Stmt} : x ∈ s.initialised ↔ Initialises x s := by
  constructor
  · intro h
    cases s with
    | function isAsync name params returns body =>
      rw [initialised] at h
      split at h
      · next hname =>
        obtain ⟨s, hs, hx⟩ := List.mem_flatMap.1 h
        rw [eq_of_beq hname]
        exact .mk (mem_walk_iff.1 hs) hx
      · cases h
    | _ => cases h
  · rintro ⟨hs, hx⟩
    exact List.mem_flatMap.2 ⟨_, mem_walk_iff.2 hs, hx⟩

/-- A statement of a class gives it a field, where `enum` is whether the class lists its members. -/
inductive Records (enum : Bool) (x : String) : Stmt → Prop
  | annotated {target a : Expr} {value : Option Expr} (hx : target.name? = some x) :
  Records enum x (annotated target a value)
  | member {targets : List Expr} {value target : Expr} (henum : enum = true) (ht : target ∈ targets)
      (hx : target.name? = some x) (hpublic : Outline.isPrivate x = false) :
      Records enum x (assign targets value)
  | parameter {params : List (String × Option Expr)} {returns : Option Expr} {body : List Stmt}
      (hx : x ∈ (params.drop 1).map (·.1)) :
      Records enum x (function false "__init__" params returns body)
  | plain {params : List (String × Option Expr)} {returns : Option Expr} {body : List Stmt}
    {targets : List Expr}
      {value target : Expr} (hs : Within (assign targets value) body) (ht : target ∈ targets)
      (hx : Outline.ownAttribute? target = some x) :
      Records enum x (function false "__init__" params returns body)

end Stmt

namespace Outline
open Stmt (Records Within)

variable {enum : Bool} {x : String} {fields fields' : Table String}

theorem mem_ownAttributes {body : List Stmt} : x ∈ ownAttributes body ↔
    ∃ targets value, Within (.assign targets value) body ∧
      ∃ target ∈ targets, ownAttribute? target = some x := by
  rw [ownAttributes, List.mem_flatMap]
  constructor
  · rintro ⟨s, hs, hx⟩
    cases s with
    | assign targets value =>
      exact ⟨targets, value, Stmt.mem_walk_iff.1 hs, List.mem_filterMap.1 hx⟩
    | _ => cases hx
  · rintro ⟨targets, value, hs, hx⟩
    exact ⟨_, Stmt.mem_walk_iff.2 hs, List.mem_filterMap.2 hx⟩

theorem has_addOwn (fields : Table String) (n : String) :
    (addOwn fields n).has x = true ↔ x = n ∨ fields.has x = true := by
  rw [addOwn]
  split
  · next hn => exact ⟨.inr, fun h => h.elim (fun h => h ▸ hn) id⟩
  · exact Table.has_insert

theorem has_foldlM_addParameter {params : List (String × Option Expr)}
    (h : params.foldlM addParameter fields = some fields') :
    fields'.has x = true ↔ fields.has x = true ∨ x ∈ params.map (·.1) := by
  induction params generalizing fields with
  | nil =>
    cases h
    simp
  | cons p params ih =>
    obtain ⟨fs, hp, hrest⟩ := Option.bind_eq_some_iff.1 h
    have hfirst : fs.has x = true ↔ x = p.1 ∨ fields.has x = true := by
      rw [addParameter] at hp
      split at hp
      · obtain ⟨a, -, rfl⟩ := Option.map_eq_some_iff.1 hp
        exact Table.has_insert
      · cases hp
        exact Table.has_insert
    rw [ih hrest, hfirst, List.map_cons, List.mem_cons]
    tauto

theorem mem_members {targets : List Expr} :
    x ∈ (targets.filterMap Expr.name?).filter (fun n => !isPrivate n) ↔
    (∃ target ∈ targets, target.name? = some x) ∧ isPrivate x = false := by
  rw [List.mem_filter, List.mem_filterMap, Bool.not_eq_true']

theorem has_fields_add_function {o o' : Outline} {isAsync : Bool} {name : String}
    {params : List (String × Option Expr)}
    {returns : Option Expr} {body : List Stmt}
    (h : add enum o (.function isAsync name params returns body) = some o') :
    o'.fields.has x = true ↔ o.fields.has x = true ∨
      isAsync = false ∧ name = "__init__" ∧
        (x ∈ (params.drop 1).map (·.1) ∨ x ∈ ownAttributes body) := by
  cases isAsync with
  | true =>
    cases h
    simp
  | false =>
    rw [add] at h
    obtain ⟨sig, -, h⟩ := Option.bind_eq_some_iff.1 h
    dsimp only at h
    split at h
    · next hname =>
      obtain ⟨fields, hparams, h⟩ := Option.bind_eq_some_iff.1 h
      cases h
      rw [Table.has_foldl id has_addOwn, List.map_id, has_foldlM_addParameter hparams]
      simp [eq_of_beq hname, or_assoc]
    · next hname =>
      cases h
      simp_all

theorem has_fields_add {o o' : Outline} {s : Stmt} (h : add enum o s = some o') :
    o'.fields.has x = true ↔ o.fields.has x = true ∨ Records enum x s := by
  cases s with
  | annotated target a value =>
    have hrecords : Records enum x (.annotated target a value) ↔ target.name? = some x :=
      ⟨fun h => by cases h; assumption, .annotated⟩
    rw [add] at h
    split at h
    · next n hn =>
      obtain ⟨a, -, rfl⟩ := Option.map_eq_some_iff.1 h
      rw [Table.has_insert, hrecords, hn, Option.some.injEq, eq_comm (a := n), or_comm]
    · next hn =>
      cases h
      rw [hrecords, hn]
      simp
  | assign targets value =>
    have hrecords : Records enum x (.assign targets value) ↔
        enum = true ∧ x ∈ (targets.filterMap Expr.name?).filter fun n => !isPrivate n := by
      rw [mem_members]
      constructor
      · intro hr
        cases hr with
        | member henum ht hx hpublic => exact ⟨henum, ⟨_, ht, hx⟩, hpublic⟩
      · rintro ⟨henum, ⟨target, ht, hx⟩, hpublic⟩
        exact .member henum ht hx hpublic
    rw [add] at h
    split at h
    · next hm =>
      obtain ⟨v, -, rfl⟩ := Option.map_eq_some_iff.1 h
      refine (Table.has_foldl id (fun _ _ => Table.has_insert) _ o.fields).trans ?_
      rw [List.map_id, hrecords, (Bool.and_eq_true_iff.1 hm).1]
      simp
    · next hm =>
      cases h
      rw [hrecords]
      refine ⟨.inl, fun h => h.elim id fun hx => absurd ?_ hm⟩
      rw [hx.1, Bool.true_and, Bool.not_eq_true', List.isEmpty_eq_false_iff]
      exact List.ne_nil_of_mem hx.2
  | function isAsync name params returns body =>
    rw [has_fields_add_function h, mem_ownAttributes]
    refine or_congr_right ⟨?_, ?_⟩
    · rintro ⟨rfl, rfl, hx | ⟨targets, value, hs, target, ht, hx⟩⟩
      · exact .parameter hx
      · exact .plain hs ht hx
    · intro h
      cases h with
      | parameter hx => exact ⟨rfl, rfl, .inl hx⟩
      | plain hs ht hx => exact ⟨rfl, rfl, .inr ⟨_, _, hs, _, ht, hx⟩⟩
  | _ =>
    cases h
    refine ⟨.inl, fun h => h.elim id fun hr => ?_⟩
    cases hr

theorem has_fields_foldlM {o o' : Outline} {body : List Stmt}
    (h : body.foldlM (add enum) o = some o') :
    o'.fields.has x = true ↔ o.fields.has x = true ∨ ∃ s ∈ body, Records enum x s := by
  induction body generalizing o with
  | nil =>
    cases h
    simp
  | cons s body ih =>
    obtain ⟨o₁, hs, hrest⟩ := Option.bind_eq_some_iff.1 h
    rw [ih hrest, has_fields_add hs, List.exists_mem_cons_iff, or_assoc]

/-- Whether the class with these bases lists its members by assignments. -/
def listsMembers (bases : List Expr) : Bool := (baseNames bases).any isEnum

theorem has_fields_ofClass {name : String} {bases : List Expr} {body : List Stmt} {o : Outline}
    (h : ofClass name bases body = some o) :
    o.fields.has x = true ↔ ∃ s ∈ body, Records (listsMembers bases) x s := by
  obtain ⟨names, hnames, h⟩ := Option.bind_eq_some_iff.1 h
  rw [has_fields_foldlM h, listsMembers, hnames]
  exact or_iff_right (by simp [Table.has, Table.find?])

end Outline

end ClassSource

namespace ClassIndex
open ClassSource

/-- An attribute passes the check wherever the name of a type leads to the class. -/
def Passes (o : Outline) (x : String) : Prop :=
  ∀ (index : ClassIndex) (type module : String) (file : Path),
    index.find? type = some (entryOf module file o) → index.checkAttribute type x = .ok ()

theorem passes_of_field {o : Outline} {x : String} (h : o.fields.has x = true) : Passes o x := by
  intro index type module file hfind
  have hmember : (entryOf module file o).hasMember x = true := by
    rw [ClassEntry.hasMember, show (entryOf module file o).fields = o.fields from rfl, h,
      Bool.true_or]
  rw [checkAttribute, hfind]
  simp [hmember]

/-- A class is written out with all attributes that its initialisers set, so that each of them
passes the check, exactly if it can be written out and each of them is annotated in its body, a
member that it lists, a parameter of an initialiser, or the target of a plain assignment in one.
Assignments to several targets in a row, with an annotation or with an operator do not count, and
neither does an asynchronous initialiser. -/
theorem initialised_fields_iff (name : String) (bases : List Expr) (body : List Stmt) :
    (∃ o, Outline.ofClass name bases body = some o ∧
        ∀ s ∈ body, ∀ x, s.Initialises x → o.fields.has x = true ∧ Passes o x) ↔
      (Outline.ofClass name bases body).isSome = true ∧
        ∀ s ∈ body, ∀ x, s.Initialises x →
          ∃ s' ∈ body, s'.Records (Outline.listsMembers bases) x := by
  constructor
  · rintro ⟨o, ho, hall⟩
    exact ⟨Option.isSome_iff_exists.2 ⟨o, ho⟩,
      fun s hs x hx => (Outline.has_fields_ofClass ho).1 (hall s hs x hx).1⟩
  · rintro ⟨hsome, hall⟩
    obtain ⟨o, ho⟩ := Option.isSome_iff_exists.1 hsome
    refine ⟨o, ho, fun s hs x hx => ?_⟩
    have hfield : o.fields.has x = true := (Outline.has_fields_ofClass ho).2 (hall s hs x hx)
    exact ⟨hfield, passes_of_field hfield⟩

def misses (x : String) : Stmt → Bool
  | .classDef name bases body =>
    body.any (fun s => s.initialised.contains x) &&
      (Outline.ofClass name.text bases body).any fun o => !o.fields.has x
  | _ => false

def walletTree : FileTree :=
  ⟨[(["p"], .dir 0), (["p", "bank.py"], .file (Text.Utf8.encode
    "class Wallet:\n    def __init__(self, owner):\n        self.owner = owner\n        self.total: int = 0\n") 0)], ["p"]⟩

theorem total_unknown :
    let source := Stmt.walk ((statements? walletTree (.relative ["bank.py"])).getD [])
    let index := collect walletTree .here [] [.relative ["bank.py"]] .empty
    (∃ name bases body, Stmt.classDef name bases body ∈ source ∧
      (∃ s ∈ body, s.Initialises "total") ∧
        ∃ o, Outline.ofClass name.text bases body = some o ∧ o.fields.has "total" = false) ∧
      (index.checkAttribute "Wallet" "owner").isOk = true ∧
        (index.checkAttribute "Wallet" "total").isOk = false := by
  intro source index
  have hfile : source.any (misses "total") = true ∧
      (index.checkAttribute "Wallet" "owner").isOk = true ∧
        (index.checkAttribute "Wallet" "total").isOk = false := by
    decide +kernel
  refine ⟨?_, hfile.2⟩
  obtain ⟨c, hc, hmisses⟩ := List.any_eq_true.1 hfile.1
  cases c with
  | classDef name bases body =>
    obtain ⟨hset, hfield⟩ := Bool.and_eq_true_iff.1 hmisses
    obtain ⟨s, hs, hx⟩ := List.any_eq_true.1 hset
    obtain ⟨o, ho, hnone⟩ := (Option.any_eq_true _ _).1 hfield
    exact ⟨name, bases, body, hc, ⟨s, hs, Stmt.mem_initialised.1 (List.contains_iff_mem.1 hx)⟩, o,
      ho, by simpa using hnone⟩
  | _ => cases hmisses

end ClassIndex

end TypedTemplate
