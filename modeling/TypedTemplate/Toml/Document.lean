import TypedTemplate.Table
import TypedTemplate.Toml.Error
import TypedTemplate.Toml.Value

/-! A settings document under construction: the tables filled so far, and which keys may no longer
be opened or changed. -/
namespace TypedTemplate.Toml

def Value.isNest : Value → Bool
  | .table _ => true
  | .list _ => true
  | _ => false

/-- Changes the table behind a key, and makes tables on the way that are missing. Under an array of
tables its last table is meant, unless `throughLists` is off. -/
def changeNest (throughLists : Bool) (f : Table Value → Except Cause (Table Value)) :
    Key → Table Value → Except Cause (Table Value)
  | [], t => f t
  | k :: ks, t =>
    match Table.find? t k with
    | none => do
      let u ← changeNest throughLists f ks []
      pure (Table.insert t k (.table u))
    | some (.table u) => do
      let u ← changeNest throughLists f ks u
      pure (Table.insert t k (.table u))
    | some (.list vs) =>
      if throughLists then
        match vs.getLast? with
        | some (.table u) => do
          let u ← changeNest throughLists f ks u
          pure (Table.insert t k (.list (vs.dropLast ++ [.table u])))
        | _ => .error .overwritten
      else .error .overwritten
    | some _ => .error .overwritten

def addEntry (taken : Cause) (k : String) (v : Value) (t : Table Value) :
    Except Cause (Table Value) :=
  if Table.has t k then .error taken else .ok (Table.insert t k v)

/-- One more empty table in an array of tables. -/
def addElement (k : String) (t : Table Value) : Except Cause (Table Value) :=
  match Table.find? t k with
  | none => .ok (Table.insert t k (.list [.table []]))
  | some (.list vs) => .ok (Table.insert t k (.list (vs ++ [.table []])))
  | some _ => .error .overwritten

def stemOf (key : Key) : String := key.getLastD ""

structure Document where
  root : Table Value
  /-- Tables that may not be opened by a header again. -/
  declared : List Key
  /-- Tables made by dotted keys, declared when the next header comes. -/
  pending : List Key
  /-- Values written in full; nothing below them may change. -/
  frozen : List Key
  /-- The table that the last header opened. -/
  header : Key

namespace Document

def empty : Document := ⟨[], [], [], [], []⟩

def isFrozen (d : Document) (key : Key) : Bool := d.frozen.any (·.isPrefixOf key)

def isDeclared (d : Document) (key : Key) : Bool := d.declared.contains key

def settle (d : Document) : Document :=
  { d with declared := d.pending ++ d.declared, pending := [] }

def openTable (d : Document) (key : Key) : Except Cause Document :=
  if d.isDeclared key || d.isFrozen key then .error (.declaredTwice key)
  else do
    let root ← changeNest true .ok key d.root
    pure { d with root := root, declared := key :: d.declared, header := key }

/-- A new table in an array of tables frees all keys below it. -/
def openElement (d : Document) (key : Key) : Except Cause Document :=
  if d.isFrozen key then .error (.immutable key)
  else do
    let root ← changeNest true (addElement (stemOf key)) key.dropLast d.root
    let above (k : Key) : Bool := !key.isPrefixOf k
    pure { d with
      root := root
      declared := key :: d.declared.filter above
      frozen := d.frozen.filter above
      header := key }

def passed (header key : Key) : List Key :=
  (List.range (key.length - 1)).map fun i => header ++ key.take (i + 1)

def put (d : Document) (key : Key) (v : Value) : Except Cause Document :=
  match (passed d.header key).find? d.isDeclared with
  | some k => .error (.redefined k)
  | none =>
    let parent := d.header ++ key.dropLast
    if d.isFrozen parent then .error (.immutable parent)
    else do
      let root ← changeNest true (addEntry .overwritten (stemOf key) v) parent d.root
      pure { d with
        root := root
        pending := passed d.header key ++ d.pending
        frozen := if v.isNest then (d.header ++ key) :: d.frozen else d.frozen }

end Document

/-- A table written in braces: its entries so far and the keys that may no longer change. -/
structure Inline where
  entries : Table Value
  frozen : List Key

def Inline.put (t : Inline) (key : Key) (v : Value) : Except Cause Inline :=
  if t.frozen.any (·.isPrefixOf key) then .error (.immutable key)
  else do
    let entries ← changeNest false (addEntry (.duplicate (stemOf key)) (stemOf key) v) key.dropLast
      t.entries
    pure ⟨entries, if v.isNest then key :: t.frozen else t.frozen⟩

end TypedTemplate.Toml
