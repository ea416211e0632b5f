import TypedTemplate.Usage.Analysis

/-! When the analysis of a template is interrupted: a comment cannot be read or, where every import
succeeds, the engine does not get through the text. -/
namespace TypedTemplate

namespace Template

/-- An engine reads a text to its end, if only to a fault in it. -/
def Engine.ReadsThrough (e : Engine) (filename content : String) : Prop :=
  ∀ b, e.reading filename content ≠ .broken b

/-- No number in the text of a template stops its reading. -/
def NumbersRead (d : Dialect) (content : String) : Prop :=
  ∀ f, parse d content = .error f → (∀ text, f.fault ≠ .number text) ∧
    ∀ count, f.fault ≠ .digits count

theorem Dialect.reading_eq_tree_iff {d : Dialect} {content : String} {stmts : List Stmt} :
    d.reading content = .tree stmts ↔ parse d content = .ok stmts := by
  rw [reading]
  cases parse d content with
  | ok _ => simp
  | error f =>
    obtain ⟨line, fault⟩ := f
    cases fault <;> simp

/-- An engine without extensions stops at numbers only. -/
theorem Dialect.readsThrough_iff {d : Dialect} {e : Engine} (h : e.reads = (d.engine .on).reads)
    (filename content : String) : e.ReadsThrough filename content ↔ NumbersRead d content := by
  rw [Engine.ReadsThrough, Engine.reading, h]
  change (∀ b, d.reading content ≠ .broken b) ↔ _
  rw [reading, NumbersRead]
  cases parse d content with
  | ok _ => simp
  | error f =>
    obtain ⟨line, fault⟩ := f
    cases fault <;> simp

end Template

namespace Analysis

theorem reading_start_eq_tree_iff {order : SetOrder} {index : Option ClassIndex} {byRegistry : Bool}
    {filename content : String} {stmts : List Template.Stmt} :
    (start none order index byRegistry).engine.reading filename content = .tree stmts ↔
      Template.parse ⟨true, false⟩ content = .ok stmts :=
  Template.Dialect.reading_eq_tree_iff

variable (a : Analysis) (r : Registry) (filename content : String)

theorem engine_declareVariables (p : Position) (ds : List TypedName) :
    (ds.foldl (fun a d => a.declareVariable r filename p d) a).engine = a.engine := by
  induction ds generalizing a with
  | nil => rfl
  | cons d ds ih => rw [List.foldl_cons, ih]; rfl

theorem engine_applyComment (c : Comment) : (a.applyComment r filename c).1.engine = a.engine := by
  unfold applyComment
  split
  · rfl
  · split <;> rfl
  · rfl
  · exact engine_declareVariables a r filename c.position _
  · rfl
  · rfl

theorem engine_applyComments (cs : List Comment) :
    (a.applyComments r filename cs).1.engine = a.engine := by
  induction cs generalizing a r with
  | nil => rfl
  | cons c cs ih =>
    have hc := engine_applyComment a r filename c
    rw [applyComments]
    split
    · next a' r' h =>
      rw [h] at hc
      rw [ih, hc]
    · exact hc

theorem checkText_ok_iff :
    (∃ found, a.checkText r filename content = .ok found) ↔
      a.engine.ReadsThrough filename content := by
  unfold checkText Template.Engine.ReadsThrough
  cases a.engine.reading filename content <;> simp

/-- Some import of a template fails; its text is then not read. -/
def importsFail (cs : List Comment) : Prop :=
  (a.applyComments r.clearImports filename cs).2.2.isSome = true

theorem template_uninterrupted_iff :
    (a.template r filename content).2.2 = none ↔
      ∃ cs, Comment.parseAll filename content = .ok cs ∧
        (a.importsFail r filename cs ∨ a.engine.ReadsThrough filename content) := by
  unfold template importsFail
  cases hp : Comment.parseAll filename content with
  | error f => simp
  | ok cs =>
    have hd := engine_applyComments a r.clearImports filename cs
    rcases hc : a.applyComments r.clearImports filename cs with ⟨a', r', _ | e⟩
    · rw [hc] at hd
      have ht := checkText_ok_iff a' r' filename content
      rw [hd] at ht
      rcases hx : a'.checkText r' filename content with i | found
      · rw [hx] at ht
        simpa [hc, hx] using ht
      · rw [hx] at ht
        simpa [hc, hx] using ht
    · simp [hc]

end Analysis

end TypedTemplate
