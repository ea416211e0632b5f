import Mathlib.Logic.Basic
import TypedTemplate.Proofs.ClassIndex.Lookup
import TypedTemplate.Proofs.ClassIndex.Registered
import TypedTemplate.Proofs.Usage.Declared

/-! Accesses to attributes through an imported name. The name is bound to the definition
of one class, and the access is checked against the class that is spelled by the module of
that definition and the bound name; the verdict is right where the two classes agree on
the attribute. -/
namespace TypedTemplate

open ClassIndex Template

/-- The class sources of a project. -/
structure Project where
  tree : FileTree
  root : Path
  exclude : List String
  paths : List Path

namespace Project

/-- The classes of the sources. -/
def classes (p : Project) : ClassIndex := collect p.tree p.root p.exclude p.paths .empty

def index (p : Project) : ClassIndex := (p.classes.register .empty).1

def registry (p : Project) : Registry := (p.classes.register .empty).2

/-- An analysis that has seen no template. -/
def analysis (p : Project) (engine : Option Engine) (order : SetOrder) : Analysis :=
  .start engine order (some p.index) false

end Project

/-- The name of the class that an access is checked against, for a name that is bound to
a definition. -/
def Definition.lookupKey (d : Definition) (bound : String) : String :=
  match d.module with
  | some m => if m.isEmpty then bound else m ++ "." ++ bound
  | none => bound

/-- The issue of an access to an attribute that a type does not have. -/
def missingIssue (filename content : String) (line : Nat) (type attr : String) : Issue :=
  let (start, stop) := Usage.columns (Text.lines content.toList) line attr.toList
  ⟨.error, Usage.attributeMessage type attr, filename, line, start, stop,
    some (Usage.attributeHint type)⟩

section Key

variable {d : Definition} {bound : String}

theorem hasMember_iff {e : ClassEntry} (hfields : d.fields = e.fields)
    (hmethods : d.methods = some e.methods)
    {attr : String} : e.hasMember attr = true ↔ d.hasField attr = true ∨
      d.hasMethod attr = true := by
  rw [ClassEntry.hasMember, Bool.or_eq_true, Definition.hasField, Definition.hasMethod,
    Definition.method?, hfields, hmethods]
  rfl

theorem lookupName_imported {u : Usage} (h : u.registry.imported.find? bound = some (some d))
    (raw : String) :
    u.lookupName (.named raw bound none) = d.lookupKey bound := by
  rw [Usage.lookupName, Definition.lookupKey, TypeExpr.name, h, TypeExpr.baseName]
  rfl

theorem isEmpty_lookupKey (h : bound ≠ "") : (d.lookupKey bound).isEmpty = false := by
  rw [Definition.lookupKey]
  split
  · split
    · simpa using h
    · simp
  · simpa using h

theorem lookupKey_not_open (h : isBuiltin bound = false) : d.lookupKey bound ∉ openTypes := by
  have hbound : bound ∉ openTypes := fun hm => by
    have hall : ∀ s ∈ openTypes, isBuiltin s = true := by decide
    rw [hall bound hm] at h
    cases h
  rw [Definition.lookupKey]
  split
  · split
    · exact hbound
    · next m _ =>
      intro hm
      have hall : ∀ s ∈ openTypes, '.' ∉ s.toList := by decide
      exact hall _ hm (by simp)
  · exact hbound

end Key

namespace Project

variable {p : Project} {engine : Option Engine} {order : SetOrder}
  {filename content raw v bound attr : String} {source : String × String}
  {d : Definition} {cs : List Comment} {stmts : List Stmt} {line l : Nat}

theorem missing_mem_iff (hcs : Comment.parseAll filename content = .ok cs)
    (hok : ¬ (p.analysis engine order).importsFail p.registry filename cs)
    (hsource : Comment.source? bound cs = some source)
    (hd : p.registry.binding? source = some (some d))
    (hdecl : Comment.declared? v cs = some (.named raw bound none))
    (hbound : bound ≠ "") (hparse : (p.analysis engine order).engine.reading filename content =
      .tree stmts)
    (haccess : .attr line (.name l v) attr ∈ Stmt.outputsOf stmts)
    (hline : ¬ Comment.Excepts cs line) :
    missingIssue filename content line (d.lookupKey bound) attr ∈
        ((p.analysis engine order).template p.registry filename content).1.issues ↔
      p.index.checkAttribute (d.lookupKey bound) attr ≠ .ok () := by
  obtain ⟨a', r', happ, hissues⟩ := Analysis.issues_template hcs hok hparse
  have himported : r'.imported.find? bound = some (some d) := by
    rw [happ.imported bound, hsource]
    exact hd
  have hkey := lookupName_imported (u := a'.usage r' filename content) himported raw
  have hignored : (a'.usage r' filename content).isIgnored line = false := by
    rw [Usage.isIgnored, List.contains_eq_mem, decide_eq_false_iff_not]
    intro hm
    exact (happ.ignored line hm).elim (fun h => nomatch h) hline
  have hvar : a'.varTypes.find? v = some (.named raw bound none) := by
    rw [happ.varTypes v, hdecl]
    rfl
  have hverdict := Usage.missing_mem_issues_iff (u := a'.usage r' filename content) happ.index
    happ.byRegistry hvar (by rw [hkey]; exact isEmpty_lookupKey hbound) hignored haccess
  rw [hkey] at hverdict
  rw [hissues, List.mem_append, ← hverdict]
  -- the comments raise no issue of this kind
  refine or_iff_right fun hm => ?_
  exact (happ.issues _ hm).elim (fun h => nomatch h) fun h => h _ rfl

/-- The report on an access through an imported name is right if it is made exactly where
the imported class has no such attribute. Where all imports succeed, it is right exactly if
the class that the access is checked against has the attribute just as the imported class
has; so it is if the module of the definition and the bound name spell the imported class
and all classes spelled like that agree on the attribute. Where some import fails, nothing
is reported. -/
theorem reported_iff_iff (hcs : Comment.parseAll filename content = .ok cs)
    (hsource : Comment.source? bound cs = some source)
    (hd : p.registry.binding? source = some (some d))
      (hdecl : Comment.declared? v cs = some (.named raw bound none))
    (hbound : bound ≠ "") (hbuiltin : isBuiltin bound = false)
      (hparse : (p.analysis engine order).engine.reading filename content = .tree stmts)
    (haccess : .attr line (.name l v) attr ∈ Stmt.outputsOf stmts)
      (hline : ¬ Comment.Excepts cs line) :
    let key := d.lookupKey bound
    let Fails := (p.analysis engine order).importsFail p.registry filename cs
    let Reported := missingIssue filename content line key attr ∈
      ((p.analysis engine order).template p.registry filename content).1.issues
    let Right :=
      Reported ↔ ¬ (d.hasField attr = true ∨ d.hasMethod attr = true ∨ attr ∈ commonAttributes)
    ∃ e ∈ p.classes.entries.values, d.name = e.name ∧ d.fields = e.fields ∧
      d.methods = some e.methods ∧
      (Fails → (Right ↔ e.hasMember attr = true ∨ attr ∈ commonAttributes)) ∧
      (¬ Fails → (Right ↔
        ((∃ q, p.classes.find? key = some q ∧ (q.hasMember attr = true ∨ attr ∈ commonAttributes)) ↔
          e.hasMember attr = true ∨ attr ∈ commonAttributes))) ∧
      (¬ Fails → e.qualifiedName = key →
        (∀ q ∈ p.classes.entries.values, q.qualifiedName = key →
          q.hasMember attr = e.hasMember attr) → Right) := by
  intro key Fails Reported Right
  obtain ⟨e, he, hname, hfields, hmethods⟩ :=
    exists_entry_of_register (Registry.find?_of_binding hd)
  have hmember : (d.hasField attr = true ∨ d.hasMethod attr = true ∨ attr ∈ commonAttributes) ↔
      (e.hasMember attr = true ∨ attr ∈ commonAttributes) := by
    rw [hasMember_iff hfields hmethods, or_assoc]
  have hfails (hfail : Fails) : Right ↔ e.hasMember attr = true ∨ attr ∈ commonAttributes := by
    have hno : ¬ Reported := fun h => Analysis.unlike_template hcs hfail rfl _ h key rfl
    rw [show Right ↔ (Reported ↔ _) from Iff.rfl, hmember, iff_false_left hno, not_not]
  have hright (hok : ¬ Fails) : Right ↔
      ((∃ q, p.classes.find? key = some q ∧ (q.hasMember attr = true ∨ attr ∈ commonAttributes)) ↔
        e.hasMember attr = true ∨ attr ∈ commonAttributes) := by
    have hreported : Reported ↔ p.index.checkAttribute key attr ≠ .ok () :=
      missing_mem_iff hcs hok hsource hd hdecl hbound hparse haccess hline
    have hcheck :=
      checkAttribute_eq_ok_iff (x := p.index) (a := attr) (lookupKey_not_open (d := d) hbuiltin)
    rw [show Right ↔ (Reported ↔ _) from Iff.rfl, hreported, ne_eq, hcheck, hmember, not_iff_not]
    rfl
  refine ⟨e, he, hname, hfields, hmethods, hfails, hright, fun hok hkey hagree => (hright hok).2 ?_⟩
  obtain ⟨q, hq, hsame⟩ := exists_find?_of_spelled he hkey hagree
  simp [hq, hsame]

def users : Project := ⟨userTree, .here, [], [.relative ["models"]]⟩

def plainImport : String :=
  "\x7b# typja:from user import User #\x7d\n\x7b# typja:var v: User #\x7d\n\x7b\x7b v.name \x7d\x7d\n"

def renamingImport : String :=
  "\x7b# typja:from user import User as Person #\x7d\n\x7b# typja:var v: Person #\x7d\n\x7b\x7b v.name \x7d\x7d\n"

def isPlainUser : TypeExpr → Bool
  | .named _ n m => n == "User" && m == none
  | _ => false

theorem exists_of_isPlainUser {t : TypeExpr} (h : isPlainUser t = true) :
    ∃ raw, t = .named raw "User" none := by
  unfold isPlainUser at h
  split at h
  · next raw n m => exact ⟨raw, by simp_all⟩
  · cases h

def isAccessOfName : Expr → Bool
  | .attr line (.name _ id) attr => line == 3 && id == "v" && attr == "name"
  | _ => false

theorem exists_of_isAccessOfName {x : Expr} (h : isAccessOfName x = true) :
    ∃ l, x = .attr 3 (.name l "v") "name" := by
  unfold isAccessOfName at h
  split at h
  · next line l id attr => exact ⟨l, by simp_all⟩
  · cases h

theorem reported_iff_iff_plainImport :
    ∃ d, users.registry.binding? ("user", "User") = some (some d) ∧ d.hasField "name" = true ∧
      missingIssue "t.html" plainImport 3 (d.lookupKey "User") "name" ∉
        ((users.analysis none .ascending).template users.registry "t.html"
          plainImport).1.issues := by
  obtain ⟨hbound, hclasses⟩ :
      (users.registry.binding? ("user", "User")).any (fun o => o.any fun d =>
        d.hasField "name" && d.lookupKey "User" == "user.User") = true ∧
      users.classes.entries.values.all (fun e => e.qualifiedName == "user.User" &&
        e.hasMember "name") = true := by
    decide +kernel
  obtain ⟨o, hd, ho⟩ := (Option.any_eq_true _ _).1 hbound
  obtain ⟨d, rfl, hmember⟩ := (Option.any_eq_true _ _).1 ho
  have hcomments : (Comment.parseAll "t.html" plainImport).toOption.any (fun cs =>
      !((users.analysis none .ascending).applyComments users.registry.clearImports "t.html"
        cs).2.2.isSome &&
      Comment.source? "User" cs == some ("user", "User") &&
        cs.all (fun c => c.position.line != 3) &&
      (Comment.declared? "v" cs).any isPlainUser) = true := by decide +kernel
  obtain ⟨cs, hcs, hcomments⟩ := exists_ok_of_any hcomments
  have htext : (Template.parse ⟨true, false⟩ plainImport).toOption.any (fun stmts =>
      (Stmt.outputsOf stmts).any isAccessOfName) = true := by decide +kernel
  obtain ⟨stmts, hstmts, htext⟩ := exists_ok_of_any htext
  simp only [Bool.and_eq_true, beq_iff_eq, Bool.not_eq_true', List.all_eq_true, bne_iff_ne]
    at hmember hcomments hclasses
  obtain ⟨⟨⟨hok, hsource⟩, hlines⟩, hdecl⟩ := hcomments
  obtain ⟨t, hdecl, ht⟩ := (Option.any_eq_true _ _).1 hdecl
  obtain ⟨access, haccess, hshape⟩ := List.any_eq_true.1 htext
  obtain ⟨raw, rfl⟩ := exists_of_isPlainUser ht
  obtain ⟨l, rfl⟩ := exists_of_isAccessOfName hshape
  have hread : (users.analysis none .ascending).engine.reading "t.html" plainImport = .tree stmts :=
    Analysis.reading_start_eq_tree_iff.2 hstmts
  obtain ⟨e, he, -, -, -, -, -, hright⟩ :=
    reported_iff_iff hcs hsource hd hdecl (by decide) (by decide) hread
    haccess (fun ⟨c, hc, _, hl⟩ => hlines c hc hl)
  have hkey : ∀ q ∈ users.classes.entries.values, q.qualifiedName = d.lookupKey "User" ∧
    q.hasMember "name" = true :=
    fun q hq => ⟨(hclasses q hq).1.trans hmember.2.symm, (hclasses q hq).2⟩
  have hverdict := hright (by simp [Analysis.importsFail, hok]) (hkey e he).1 fun q hq _ =>
    (hkey q hq).2.trans (hkey e he).2.symm
  exact ⟨d, hd, hmember.1, fun h => hverdict.1 h (.inl hmember.1)⟩

theorem renamed_import_reported :
    ((users.registry.moduleTypes "user").find? "User").map (fun d => d.hasField "name") =
      some true ∧
      ((users.analysis none .ascending).template users.registry "t.html"
        renamingImport).1.issues.map Issue.message =
        ["Type 'user.Person' has no attribute 'name'"] := by
  decide +kernel

end Project

end TypedTemplate
