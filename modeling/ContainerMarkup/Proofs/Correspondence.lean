/-
ContainerMarkup/Proofs/Correspondence.lean

Two results side by side.  `Corresponds R S x y` says that both are there and
related by `R`, or both are missing for reasons related by `S`; it passes
through sequencing and through the layers that are put around failures.

What an assembly has come to is a result as well (`Assembly.outcome`), so
that two runs can be compared before they are finished.
-/
import ContainerMarkup.Assembly

namespace ContainerMarkup

/-! ### Results that correspond -/

/-- Two results that are both there and related, or both missing for related
reasons. -/
inductive Corresponds {α β : Type} (R : α → β → Prop) (S : Failure → Failure → Prop) :
    Except Failure α → Except Failure β → Prop
  | ok {a : α} {b : β} : R a b → Corresponds R S (.ok a) (.ok b)
  | error {f g : Failure} : S f g → Corresponds R S (.error f) (.error g)

namespace Corresponds

variable {α β γ δ : Type} {R : α → β → Prop} {R' : γ → δ → Prop} {S S' : Failure → Failure → Prop}
  {x : Except Failure α} {y : Except Failure β}

theorem refl {R : α → α → Prop} (hR : ∀ a, R a a) (hS : ∀ f, S f f) (x : Except Failure α) :
    Corresponds R S x x := by
  rcases x with f | a
  · exact .error (hS f)
  · exact .ok (hR a)

theorem bind {f : α → Except Failure γ} {g : β → Except Failure δ} (h : Corresponds R S x y)
    (hfg : ∀ a b, R a b → Corresponds R' S (f a) (g b)) : Corresponds R' S (x >>= f) (y >>= g) := by
  cases h with
  | ok hab => exact hfg _ _ hab
  | error hfg => exact .error hfg

theorem mapError {layer layer' : Failure → Failure} (h : Corresponds R S x y)
    (hlayer : ∀ f g, S f g → S (layer f) (layer' g)) :
    Corresponds R S (x.mapError layer) (y.mapError layer') := by
  cases h with
  | ok hab => exact .ok hab
  | error hfg => exact .error (hlayer _ _ hfg)

theorem foldlM {f : α → γ → Except Failure α} {g : β → δ → Except Failure β} {h : γ → δ}
    (hstep : ∀ a b, R a b → ∀ c, Corresponds R S (f a c) (g b (h c))) (cs : List γ) {a : α} {b : β}
    (hab : R a b) : Corresponds R S (cs.foldlM f a) ((cs.map h).foldlM g b) := by
  induction cs generalizing a b with
  | nil => exact .ok hab
  | cons c cs ih =>
    rw [List.map_cons, List.foldlM_cons, List.foldlM_cons]
    exact (hstep a b hab c).bind fun a' b' hab' => ih hab'

theorem mono {Q : α → β → Prop} (h : Corresponds R S x y) (hR : ∀ a b, R a b → Q a b)
    (hS : ∀ f g, S f g → S' f g) : Corresponds Q S' x y := by
  cases h with
  | ok hab => exact .ok (hR _ _ hab)
  | error hfg => exact .error (hS _ _ hfg)

end Corresponds

/-! ### The same cause -/

/-- Two failures of the same kind and with the same words for the cause. -/
def Failure.SameCause (f g : Failure) : Prop :=
  g.kind = f.kind ∧ g.rootCause.message = f.rootCause.message

theorem Failure.SameCause.within {f g : Failure} (h : f.SameCause g)
    (message context message' context' : String) :
    (f.within message context).SameCause (g.within message' context') := by
  refine ⟨h.1, ?_⟩
  rw [rootCause_within, rootCause_within]
  exact h.2

/-! ### Runs -/

/-- What a run has come to: the assembly, or the failure that stopped it. -/
def Assembly.outcome (run : Assembly × Option Failure) : Except Failure Assembly :=
  match run.2 with
  | none => .ok run.1
  | some f => .error f

theorem assemble_eq_outcome (limits : Limits) (lines : List String) :
    (assemble limits lines).result =
      Assembly.outcome (Assembly.run limits none {} lines) >>= Assembly.finish := by
  unfold assemble
  rcases Assembly.run limits none {} lines with ⟨s, - | f⟩ <;> rfl

end ContainerMarkup
