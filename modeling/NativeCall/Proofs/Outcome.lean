/-!
# Outcomes of a sequence

A sequence succeeds only if each of its parts does.
-/

namespace NativeCall

variable {ε α β : Type}

theorem bind_eq_ok {first : Except ε α} {next : α -> Except ε β} {b : β}
    (h : first >>= next = .ok b) : exists a, first = .ok a ∧ next a = .ok b := by
  cases first with
  | error e => cases h
  | ok a => exact ⟨a, rfl, h⟩

theorem ok_bind (a : α) (next : α -> Except ε β) : (Except.ok a >>= next) = next a := by
  simp only [bind, Except.bind]

theorem map_eq_ok {first : Except ε α} {f : α -> β} {b : β}
    (h : first.map f = .ok b) : exists a, first = .ok a ∧ f a = b := by
  cases first with
  | error e => cases h
  | ok a => exact ⟨a, rfl, Except.ok.inj h⟩

end NativeCall
