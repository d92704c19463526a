import Mathlib.Data.List.DropRight
import ModemStack.Text.JsString

/-!
Strings without white space at their ends.
-/

namespace ModemStack.Text

/-- No white space at either end. -/
structure Trimmed (text : JsString) : Prop where
  first : ∀ c ∈ text.head?, isJsSpace c = false
  last : ∀ c ∈ text.getLast?, isJsSpace c = false

variable (text : JsString)

theorem trim_eq :
    trim text = (text.dropWhile isJsSpace).rdropWhile isJsSpace := rfl

theorem head?_dropWhile {c : UInt16}
    (first : c ∈ (text.dropWhile isJsSpace).head?) : isJsSpace c = false := by
  have stops := List.head?_dropWhile_not isJsSpace text
  rw [Option.mem_def.mp first] at stops
  simpa using stops

theorem trimmed_trim : Trimmed (trim text) := by
  rw [trim_eq]
  constructor
  · intro c first
    obtain ⟨dropped, whole⟩ := List.rdropWhile_prefix isJsSpace (text.dropWhile isJsSpace)
    apply head?_dropWhile text
    rw [← whole, List.head?_append, Option.mem_def.mp first]
    rfl
  · intro c last
    have nonempty : List.rdropWhile isJsSpace (text.dropWhile isJsSpace) ≠ [] := by
      intro empty
      simp [empty] at last
    rw [List.getLast?_eq_getLast_of_ne_nil nonempty] at last
    cases last
    simpa using List.rdropWhile_last_not isJsSpace _ nonempty

theorem trim_of_trimmed {text : JsString} (trimmed : Trimmed text) : trim text = text := by
  rw [trim_eq]
  have first : text.dropWhile isJsSpace = text := by
    cases text with
    | nil => rfl
    | cons c rest => exact List.dropWhile_cons_of_neg (by simp [trimmed.first c rfl])
  rw [first, List.rdropWhile_eq_self_iff]
  intro nonempty
  simp [trimmed.last _ (List.getLast?_eq_getLast_of_ne_nil nonempty)]

theorem trim_trim : trim (trim text) = trim text :=
  trim_of_trimmed (trimmed_trim text)

end ModemStack.Text
