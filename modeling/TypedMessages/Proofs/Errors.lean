import Mathlib.Data.List.Forall2

/-!
# Computations that can fail

How a computation that gives a value came by it: every step on the way has given one.
-/

namespace TypedMessages

variable {ε α β : Type}

instance decidableExistsOk {x : Except ε α} {p : α → Prop} [DecidablePred p] : Decidable (∃ a, x = .ok a ∧ p a) :=
  match x with
  | .ok a => decidable_of_iff (p a) ⟨fun h => ⟨a, rfl, h⟩, fun ⟨_, hok, h⟩ => Except.ok.inj hok ▸ h⟩
  | .error _ => .isFalse fun ⟨_, hok, _⟩ => nomatch hok

theorem bind_eq_ok_iff {x : Except ε α} {f : α → Except ε β} {b : β} :
    x >>= f = .ok b ↔ ∃ a, x = .ok a ∧ f a = .ok b := by
  cases x with
  | error error => simp [bind, Except.bind]
  | ok a => simp [bind, Except.bind]

theorem map_eq_ok_iff {x : Except ε α} {f : α → β} {b : β} : x.map f = .ok b ↔ ∃ a, x = .ok a ∧ f a = b := by
  cases x with
  | error error => simp [Except.map]
  | ok a => simp [Except.map]

theorem map_eq_error_iff {x : Except ε α} {f : α → β} {error : ε} : x.map f = .error error ↔ x = .error error := by
  cases x with
  | error other => simp [Except.map]
  | ok a => simp [Except.map]

theorem map_congr {x : Except ε α} {f g : α → β} (h : ∀ a, x = .ok a → f a = g a) : x.map f = x.map g := by
  cases x with
  | error error => rfl
  | ok a => exact congrArg Except.ok (h a rfl)

theorem mapM_eq_ok_iff {f : α → Except ε β} {inputs : List α} {outputs : List β} :
    inputs.mapM f = .ok outputs ↔ List.Forall₂ (fun a b => f a = .ok b) inputs outputs := by
  induction inputs generalizing outputs with
  | nil => cases outputs <;> simp [pure, Except.pure]
  | cons a inputs ih =>
    rw [List.mapM_cons, bind_eq_ok_iff]
    constructor
    · rintro ⟨first, hfirst, hbind⟩
      obtain ⟨rest, hrest, hpure⟩ := bind_eq_ok_iff.1 hbind
      cases hpure
      exact .cons hfirst (ih.1 hrest)
    · rintro (_ | ⟨hfirst, hrest⟩)
      exact ⟨_, hfirst, bind_eq_ok_iff.2 ⟨_, ih.2 hrest, rfl⟩⟩

end TypedMessages
