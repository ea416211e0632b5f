import TypedTemplate.Proofs.Directive.Sense
import TypedTemplate.Proofs.Style.Repair

/-! The place of a type when the line that it stands in is repaired. The first union of the line is
spelled anew in the place too, and the place keeps its meaning exactly if that union begins the type
and brackets only close behind it. -/
namespace TypedTemplate.Style
open Text TypeExpr Directive

def Quiet (x : List Char) : Prop := ∀ head ∈ heads, ¬ head <:+: x

instance (x : List Char) : Decidable (Quiet x) :=
  inferInstanceAs (Decidable (∀ head ∈ heads, ¬ head <:+: x))

theorem Quiet.not_infix {x head old inner : List Char} (h : Quiet x) (hh : head ∈ heads)
    (hc : Closes head old inner) :
    ¬ old <:+: x := fun ho =>
  h head hh (List.IsInfix.trans (by rw [hc.eq]; exact (List.prefix_append _ _).isInfix) ho)

/-- A place with a written type, or with any text that has nothing to repair. -/
inductive Typed (x : List Char) : Prop
  | quiet (hq : Quiet x) (hp : Placed x)
  | spelling {t : TypeExpr} (h : Spelling t x)

theorem Typed.placed {x : List Char} (h : Typed x) : Placed x := by
  cases h with
  | quiet hq hp => exact hp
  | spelling h => exact placed_spelling h

def mendedIn (line x : List Char) : List Char :=
  (oldUnion? line).elim x fun old => replace old (withBars old) x

def KeptIn (line x : List Char) : Prop := ∀ old, oldUnion? line = some old → old <:+: x → Kept old x

theorem mendedIn_eq_self {line x : List Char}
    (h : ∀ old, oldUnion? line = some old → ¬ old <:+: x) :
    mendedIn line x = x := by
  cases ho : oldUnion? line with
  | none => rw [mendedIn, ho, Option.elim_none]
  | some old => rw [mendedIn, ho, Option.elim_some, replace_of_absent (h old ho)]

theorem Quiet.mendedIn {x : List Char} (h : Quiet x) (line : List Char) : mendedIn line x = x := by
  refine mendedIn_eq_self fun old ho => ?_
  obtain ⟨head, hh, inner, hc, -⟩ := oldUnion?_eq_some ho
  exact h.not_infix hh hc

theorem meaning_mendedIn_iff {line x : List Char} (h : Typed x) :
    meaning (mendedIn line x) = meaning x ↔ KeptIn line x := by
  by_cases hx : ∀ old, oldUnion? line = some old → ¬ old <:+: x
  · rw [mendedIn_eq_self hx]
    exact iff_of_true rfl fun old ho hin => absurd hin (hx old ho)
  · simp only [not_forall, not_not] at hx
    obtain ⟨old, ho, hin⟩ := hx
    obtain ⟨head, hh, inner, hc, -⟩ := oldUnion?_eq_some ho
    cases h with
    | quiet hq => exact absurd hin (hq.not_infix hh hc)
    | spelling h =>
      rw [mendedIn, ho, Option.elim_some, readsAs_iff_meaning.1 (readsAs_spelling h),
        ← readsAs_iff_meaning, readsAs_replace_iff h hh hc hin]
      refine ⟨fun hk old' ho' _ => ?_, fun hk => hk old ho hin⟩
      rw [ho, Option.some.injEq] at ho'
      rwa [← ho']

theorem Kept.bar_mem {x head old inner : List Char} (hk : Kept old x) (hh : head ∈ heads)
    (hc : Closes head old inner) :
    '|' ∈ replace old (withBars old) x := by
  obtain ⟨rest, rfl, hclosing⟩ := hk.exists_rest
  rw [replace_start hh hc hclosing]
  exact List.mem_append_left _ (hk.bars.subset (by decide))

theorem fills_mendedIn {line x : List Char} (h : Typed x) :
    Declaration.Fills x (mendedIn line x) := by
  by_cases hx : ∀ old, oldUnion? line = some old → ¬ old <:+: x
  · rw [mendedIn_eq_self hx]
    exact ⟨h.placed, fun _ hs => hs, fun _ hne => hne⟩
  · simp only [not_forall, not_not] at hx
    obtain ⟨old, ho, hin⟩ := hx
    obtain ⟨head, hh, inner, hc, -⟩ := oldUnion?_eq_some ho
    have hkept (hm : meaning (mendedIn line x) = meaning x) : Kept old x :=
      (meaning_mendedIn_iff h).1 hm old ho hin
    have heq : mendedIn line x = replace old (withBars old) x := by
      rw [mendedIn, ho, Option.elim_some]
    cases h with
    | quiet hq => exact absurd hin (hq.not_infix hh hc)
    | spelling h =>
      rw [heq] at hkept ⊢
      exact ⟨placed_replace h hh hc hin, fun hm _ => (hkept hm).isSealed h hh hc,
        fun hm _ => trim_ne_nil_of_mem (by decide) ((hkept hm).bar_mem hh hc)⟩

end TypedTemplate.Style
