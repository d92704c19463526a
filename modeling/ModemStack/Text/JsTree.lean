import ModemStack.Text.JsValue

/-!
Trees of plain objects, arrays and scalars, and the paths into them.
-/

namespace ModemStack.Text

open ModemStack.Data

namespace JsValue

/-- What holds of a value when it holds of the values in it. -/
theorem inductionOn {P : JsValue → Prop}
    (scalar : ∀ value : JsValue, value.isObject = false → P value)
    (array : ∀ items, (∀ item ∈ items, P item) → P (.array items))
    (object : ∀ plain members, (∀ entry ∈ members, P entry.2) → P (.object plain members)) :
    ∀ value, P value
  | .array items => array items fun item _ => inductionOn scalar array object item
  | .object plain members =>
    object plain members fun entry _ => inductionOn scalar array object entry.2
  | .null | .bool _ | .number _ | .string _ => scalar _ rfl
decreasing_by
  · decreasing_trivial
  · have inMembers := List.sizeOf_lt_of_mem ‹_›
    have inEntry : sizeOf entry.2 < sizeOf entry := by
      obtain ⟨key, value⟩ := entry
      simp only [Prod.mk.sizeOf_spec]
      omega
    simp only [JsValue.object.sizeOf_spec]
    omega

/-- Plain objects and arrays of each other and of scalars; the own keys of an object differ. -/
inductive IsTree : JsValue → Prop where
  | scalar {value : JsValue} (scalar : value.isObject = false) : IsTree value
  | array {items : List JsValue} (trees : ∀ item ∈ items, IsTree item) : IsTree (.array items)
  | object {members : List (JsString × JsValue)} (distinct : (members.map Prod.fst).Nodup)
      (trees : ∀ entry ∈ members, IsTree entry.2) : IsTree (.object true members)

end JsValue

abbrev JsTree : Type := { value : JsValue // value.IsTree }

namespace JsValue

/-! ### Paths -/

inductive PathStep where
  | key (name : JsString)
  | index (i : Nat)
deriving DecidableEq

def child : PathStep → JsValue → Option JsValue
  | .key name, .object _ members => OrderedMap.getItem name members
  | .index i, .array items => items[i]?
  | _, _ => none

/-- What an own key path leads to. -/
def valueAt : List PathStep → JsValue → Option JsValue
  | [], value => some value
  | step :: path, value => (value.child step).bind (valueAt path)

theorem valueAt_append (before after : List PathStep) (value : JsValue) :
    value.valueAt (before ++ after) = (value.valueAt before).bind (valueAt after) := by
  induction before generalizing value with
  | nil => rfl
  | cons step before ih =>
    rw [List.cons_append, valueAt, valueAt]
    cases value.child step with
    | none => rfl
    | some inner => exact ih inner

theorem IsTree.child {value inner : JsValue} {step : PathStep} (tree : value.IsTree)
    (isChild : value.child step = some inner) : inner.IsTree := by
  cases tree with
  | scalar => cases value <;> cases step <;> simp_all [JsValue.child, isObject]
  | array trees =>
    cases step with
    | key => cases isChild
    | index => exact trees inner (List.mem_of_getElem? isChild)
  | object distinct trees =>
    cases step with
    | key name => exact trees (name, inner) (mem_of_getItem isChild)
    | index => cases isChild

theorem IsTree.valueAt {value inner : JsValue} {path : List PathStep} (tree : value.IsTree)
    (leads : value.valueAt path = some inner) : inner.IsTree := by
  induction path generalizing value with
  | nil =>
    cases leads
    exact tree
  | cons step path ih =>
    obtain ⟨between, isChild, leads⟩ := Option.bind_eq_some_iff.mp leads
    exact ih (tree.child isChild) leads

end JsValue

end ModemStack.Text
