namespace HeapReplay

variable {ε α β : Type} {first : Except ε α} {next : α → Except ε β}

/-- What comes second succeeds only behind a first success. -/
theorem bind_eq_ok {last : β} :
    first >>= next = .ok last ↔ ∃ value, first = .ok value ∧ next value = .ok last := by
  cases first <;> simp [bind, Except.bind]

/-- A failure is one of the first part, or one of the second behind a success. -/
theorem bind_eq_error {error : ε} :
    first >>= next = .error error ↔
      first = .error error ∨ ∃ value, first = .ok value ∧ next value = .error error := by
  cases first <;> simp [bind, Except.bind]

theorem map_eq_ok {f : α → β} {last : β} :
    f <$> first = .ok last ↔ ∃ value, first = .ok value ∧ f value = last := by
  cases first <;> simp [Functor.map, Except.map]

theorem map_eq_error {f : α → β} {error : ε} :
    f <$> first = .error error ↔ first = .error error := by
  cases first <;> simp [Functor.map, Except.map]

@[simp] theorem mapError_ok {ε' : Type} (f : ε → ε') (value : α) :
    (Except.ok value : Except ε α).mapError f = .ok value := rfl

@[simp] theorem mapError_error {ε' : Type} (f : ε → ε') (error : ε) :
    (Except.error error : Except ε α).mapError f = .error (f error) := rfl

end HeapReplay
