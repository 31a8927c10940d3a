import ProfileAudit.Failure

/-!
Results that stem from several steps: the whole succeeds if every step does, and fails as the
first step that does not.
-/

namespace ProfileAudit

variable {ε α β : Type}

theorem bind_eq_ok_iff {x : Except ε α} {f : α → Except ε β} {b : β} :
    (x >>= f) = .ok b ↔ ∃ a, x = .ok a ∧ f a = .ok b := by
  cases x with
  | error e =>
      constructor
      · intro h
        cases h
      · intro h
        rcases h with ⟨a, h, -⟩
        cases h
  | ok a =>
      constructor
      · intro h
        exact ⟨a, rfl, h⟩
      · intro h
        rcases h with ⟨a', h, hb⟩
        cases h
        exact hb

theorem bind_eq_error_iff {x : Except ε α} {f : α → Except ε β} {e : ε} :
    (x >>= f) = .error e ↔ x = .error e ∨ ∃ a, x = .ok a ∧ f a = .error e := by
  cases x with
  | error e' =>
      constructor
      · intro h
        cases h
        exact .inl rfl
      · intro h
        rcases h with same | ⟨a, h, -⟩
        · cases same
          rfl
        · cases h
  | ok a =>
      constructor
      · intro h
        exact .inr ⟨a, rfl, h⟩
      · intro h
        rcases h with h | ⟨a', h, failed⟩
        · cases h
        · cases h
          exact failed

theorem cause_of_orFail {cause : Cause} {line : String} {r : Option α} {f : Failure}
    (failed : orFail cause line r = .error f) : f.cause = cause := by
  cases r with
  | none =>
      cases failed
      rfl
  | some a => cases failed

theorem map_eq_ok_iff {x : Except ε α} {f : α → β} {b : β} :
    x.map f = .ok b ↔ ∃ a, x = .ok a ∧ f a = b := by
  cases x with
  | error e => simp [Except.map]
  | ok a => simp [Except.map]

theorem map_eq_error_iff {x : Except ε α} {f : α → β} {e : ε} :
    x.map f = .error e ↔ x = .error e := by
  cases x with
  | error e' => simp [Except.map]
  | ok a => simp [Except.map]

theorem eq_ok_of_toOption {x : Except ε α} {a : α} (ok : x.toOption = some a) : x = .ok a := by
  cases x with
  | error e => cases ok
  | ok a' => exact congrArg Except.ok (Option.some.inj ok)

theorem orFail_eq_ok_iff {cause : Cause} {line : String} {x : Option α} {a : α} :
    orFail cause line x = .ok a ↔ x = some a := by
  cases x with
  | none => simp [orFail]
  | some a' => simp [orFail]

end ProfileAudit
