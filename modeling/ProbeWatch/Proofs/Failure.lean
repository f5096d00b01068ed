/-!
# Operations that may fail

A sequence of two operations succeeds when both do, and fails with the first of them that fails.
-/

namespace ProbeWatch

variable {ε α β : Type} {first : Except ε α} {rest : α → Except ε β}

theorem bind_eq_ok {result : β} :
    (first >>= rest) = .ok result ↔ ∃ value, first = .ok value ∧ rest value = .ok result := by
  cases first with
  | error error =>
      constructor
      · rintro ⟨⟩
      · rintro ⟨_, ⟨⟩, -⟩
  | ok value =>
      constructor
      · exact fun same => ⟨value, rfl, same⟩
      · rintro ⟨_, ⟨⟩, same⟩
        exact same

theorem bind_eq_error {error : ε} :
    (first >>= rest) = .error error ↔
      first = .error error ∨ ∃ value, first = .ok value ∧ rest value = .error error := by
  cases first with
  | error failed =>
      constructor
      · rintro ⟨⟩
        exact .inl rfl
      · rintro (same | ⟨_, ⟨⟩, -⟩)
        cases same
        rfl
  | ok value =>
      constructor
      · exact fun same => .inr ⟨value, rfl, same⟩
      · rintro (other | ⟨_, ⟨⟩, same⟩)
        · cases other
        · exact same

end ProbeWatch
