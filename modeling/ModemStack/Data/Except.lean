import Mathlib.Data.List.Forall2

/-!
Computations that may fail.
-/

namespace ModemStack.Data

variable {ε α β : Type}

theorem except_bind_ok {x : Except ε α} {f : α → Except ε β} {value : β} :
    (x >>= f) = .ok value ↔ ∃ first, x = .ok first ∧ f first = .ok value := by
  cases x with
  | error =>
    constructor
    · intro ok
      cases ok
    · rintro ⟨first, ⟨⟩, -⟩
  | ok first =>
    constructor
    · intro ok
      exact ⟨first, rfl, ok⟩
    · rintro ⟨_, ⟨⟩, ok⟩
      exact ok

theorem error_of_not_ok {x : Except ε α} (notOk : ∀ value, x ≠ .ok value) :
    ∃ error, x = .error error := by
  cases x with
  | error error => exact ⟨error, rfl⟩
  | ok value => exact absurd rfl (notOk value)

/-- A list is mapped if every item of it is. -/
theorem mapM_ok {f : α → Except ε β} {items : List α} {values : List β} :
    items.mapM f = .ok values ↔ List.Forall₂ (fun item value => f item = .ok value) items values := by
  induction items generalizing values with
  | nil =>
    rw [List.mapM_nil, List.forall₂_nil_left_iff]
    constructor
    · rintro ⟨⟩
      rfl
    · rintro rfl
      rfl
  | cons item items ih =>
    rw [List.mapM_cons, except_bind_ok]
    constructor
    · rintro ⟨value, isValue, rest⟩
      obtain ⟨values', areValues, isPure⟩ := except_bind_ok.mp rest
      cases isPure
      exact .cons isValue (ih.mp areValues)
    · rintro (_ | ⟨isValue, areValues⟩)
      exact ⟨_, isValue, except_bind_ok.mpr ⟨_, ih.mpr areValues, rfl⟩⟩

/-- Of two lists related item by item, what stands at a place of the first has its partner. -/
theorem partner_of_getElem? {R : α → β → Prop} {items : List α} {values : List β}
    (related : List.Forall₂ R items values) {i : Nat} {item : α} (isItem : items[i]? = some item) :
    ∃ value, values[i]? = some value ∧ R item value := by
  obtain ⟨inItems, rfl⟩ := List.getElem?_eq_some_iff.mp isItem
  have inValues : i < values.length := related.length_eq ▸ inItems
  exact ⟨values[i], List.getElem?_eq_getElem inValues, related.get inItems inValues⟩

end ModemStack.Data
