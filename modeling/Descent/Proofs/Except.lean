/-!
# Computations that may fail

Reading a grammar is one computation after another, each of which may fail.  When the whole comes
to a value, and when it fails with which error, is said of the parts by these two equivalences,
and proofs about it are taken apart by them.
-/

namespace Descent

variable {ε α β : Type} {first : Except ε α} {further : α → Except ε β}

/-- A computation that goes on after another comes to a value exactly if both do. -/
theorem Except.bind_eq_ok_iff {value : β} :
    (first >>= further) = .ok value ↔
      ∃ middle, first = .ok middle ∧ further middle = .ok value := by
  cases first with
  | error error => exact iff_of_false nofun nofun
  | ok middle =>
    constructor
    · intro h
      exact ⟨middle, rfl, h⟩
    · rintro ⟨_, ⟨⟩, h⟩
      exact h

/-- A computation that goes on after another fails exactly if one of the two does. -/
theorem Except.bind_eq_error_iff {error : ε} :
    (first >>= further) = .error error ↔
      first = .error error ∨ ∃ middle, first = .ok middle ∧ further middle = .error error := by
  cases first with
  | error other =>
    show Except.error other = Except.error error ↔ _
    constructor
    · intro failed
      exact .inl (congrArg Except.error (Except.error.inj failed))
    · rintro (failed | ⟨middle, ⟨⟩, -⟩)
      exact congrArg Except.error (Except.error.inj failed)
  | ok middle =>
    show further middle = .error error ↔ _
    constructor
    · intro failed
      exact .inr ⟨middle, rfl, failed⟩
    · rintro (failed | ⟨other, same, failed⟩)
      · cases failed
      · rwa [Except.ok.inj same]

end Descent
