/-!
# Steps that may fail

A chain of steps that may fail succeeds exactly when each of them does, one after the other.
-/

namespace SchemaMigration

variable {ε ε' α β : Type}

theorem bind_eq_ok {x : Except ε α} {f : α → Except ε β} {b : β} :
    (x >>= f) = .ok b ↔ ∃ a, x = .ok a ∧ f a = .ok b := by
  constructor
  · intro h
    cases x with
    | error e => cases h
    | ok a => exact ⟨a, rfl, h⟩
  · rintro ⟨a, rfl, h⟩
    exact h

theorem foldlM_cons_ok {f : β → α → Except ε β} {b c : β} {x : α} {xs : List α} :
    (x :: xs).foldlM f b = .ok c ↔ ∃ d, f b x = .ok d ∧ xs.foldlM f d = .ok c := by
  rw [List.foldlM_cons, bind_eq_ok]

theorem foldlM_append_ok {f : β → α → Except ε β} {b c : β} {xs ys : List α} :
    (xs ++ ys).foldlM f b = .ok c ↔ ∃ d, xs.foldlM f b = .ok d ∧ ys.foldlM f d = .ok c := by
  rw [List.foldlM_append, bind_eq_ok]

/-- Steps that cannot fail do not fail in a row. -/
theorem foldlM_total {f : β → α → Except ε β} (hf : ∀ b x, ∃ c, f b x = .ok c) :
    ∀ (xs : List α) (b : β), ∃ c, xs.foldlM f b = .ok c := by
  intro xs
  induction xs with
  | nil => exact fun b => ⟨b, rfl⟩
  | cons x xs ih =>
    intro b
    obtain ⟨d, hd⟩ := hf b x
    obtain ⟨c, hc⟩ := ih d
    exact ⟨c, foldlM_cons_ok.mpr ⟨d, hd, hc⟩⟩

/-- What is made of a result afterwards does not matter for whether there is one. -/
theorem exists_map_ok {f : α → β} {x : Except ε α} :
    (∃ b, x.map f = .ok b) ↔ ∃ a, x = .ok a := by
  cases x with
  | error e => simp [Except.map]
  | ok a => simp [Except.map]

/-- Naming an error differently leaves the results as they are. -/
theorem mapError_ok {f : ε → ε'} {x : Except ε α} {a : α} : x.mapError f = .ok a ↔ x = .ok a := by
  cases x with
  | error e =>
    show Except.error (f e) = .ok a ↔ _
    simp
  | ok b =>
    show Except.ok b = .ok a ↔ _
    simp

end SchemaMigration
