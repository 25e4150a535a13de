import Daybook.Consultation

/-!
Contract: how attempts that may fail come apart into their steps.

Owns: the success and the failure of two attempts in a row, and of an attempt whose answer is
changed or whose fault is reworded.

Does not own: why an attempt fails.
-/

namespace Daybook.Attempt

variable {ε α β : Type}

/-- Two attempts in a row succeed exactly if the first does, and the second does with its answer. -/
theorem bind_eq_ok_iff
    {work : Except ε α}
    {next : α → Except ε β}
    {result : β} :
    (work >>= next) = .ok result ↔ ∃ value, work = .ok value ∧ next value = .ok result := by
  cases work with
  | error fault =>
    constructor
    · intro impossible
      cases impossible
    · rintro ⟨value, impossible, -⟩
      cases impossible
  | ok value =>
    constructor
    · intro succeeded
      exact ⟨value, rfl, succeeded⟩
    · rintro ⟨other, same, succeeded⟩
      cases same
      exact succeeded

/-- Two attempts in a row fail if the first does, or the second with the answer of the first. -/
theorem bind_eq_error_iff
    {work : Except ε α}
    {next : α → Except ε β}
    {fault : ε} :
    (work >>= next) = .error fault ↔
      work = .error fault ∨ ∃ value, work = .ok value ∧ next value = .error fault := by
  cases work with
  | error own =>
    constructor
    · intro failed
      cases failed
      exact .inl rfl
    · rintro (failed | ⟨value, impossible, -⟩)
      · cases failed
        rfl
      · cases impossible
  | ok value =>
    constructor
    · intro failed
      exact .inr ⟨value, rfl, failed⟩
    · rintro (impossible | ⟨other, same, failed⟩)
      · cases impossible
      · cases same
        exact failed

/-- Whether an attempt succeeds does not depend on how its answer is changed. -/
theorem exists_bind_pure_eq_ok_iff
    {work : Except ε α}
    {change : α → β} :
    (∃ result, (work >>= fun value => pure (change value)) = .ok result) ↔
      ∃ value, work = .ok value := by
  constructor
  · intro found
    obtain ⟨result, succeeded⟩ := found
    obtain ⟨value, same, -⟩ := bind_eq_ok_iff.1 succeeded
    exact ⟨value, same⟩
  · intro found
    obtain ⟨value, same⟩ := found
    exact ⟨change value, bind_eq_ok_iff.2 ⟨value, same, rfl⟩⟩

theorem map_eq_ok_iff
    {work : Except ε α}
    {change : α → β}
    {result : β} :
    work.map change = .ok result ↔ ∃ value, work = .ok value ∧ change value = result := by
  cases work <;> simp [Except.map]

theorem map_eq_error_iff
    {work : Except ε α}
    {change : α → β}
    {fault : ε} :
    work.map change = .error fault ↔ work = .error fault := by
  cases work <;> simp [Except.map]

/-- Rewording faults makes no attempt succeed. -/
theorem mapError_eq_ok_iff
    {ε' : Type}
    {work : Except ε α}
    {reword : ε → ε'}
    {result : α} :
    work.mapError reword = .ok result ↔ work = .ok result := by
  cases work with
  | error fault => constructor <;> intro impossible <;> cases impossible
  | ok value =>
    show Except.ok value = .ok result ↔ _
    rw [Except.ok.injEq, Except.ok.injEq]

/-- Rewording leaves an attempt as it is exactly if it leaves the fault as it is. -/
theorem mapError_eq_self_iff
    {work : Except ε α}
    {reword : ε → ε} :
    work.mapError reword = work ↔ ∀ fault, work = .error fault → reword fault = fault := by
  cases work with
  | error own =>
    constructor
    · rintro same fault ⟨⟩
      exact Except.error.inj same
    · exact fun kept => congrArg Except.error (kept own rfl)
  | ok value =>
    constructor
    · intro _ fault impossible
      cases impossible
    · exact fun _ => rfl

end Daybook.Attempt
