import Mathlib.Data.List.Basic

/-!
References to objects that are never written. Two references are to one object or to
two, whatever the objects read as.
-/

namespace ModemStack.Data

structure Reference (α : Type) where
  address : Nat
  contents : α
deriving DecidableEq

variable {α : Type}

namespace Reference

/-- `Object.is`, of objects. -/
def is (left right : Reference α) : Bool := left.address = right.address

/-- One object reads as one thing. -/
def Agrees (left right : Reference α) : Prop :=
  left.address = right.address → left.contents = right.contents

theorem eq_of_is {left right : Reference α} (agree : left.Agrees right)
    (same : left.is right = true) : left = right := by
  cases left
  cases right
  simp only [is, decide_eq_true_eq] at same
  subst same
  rw [Reference.mk.injEq]
  exact ⟨rfl, agree rfl⟩

/-- Looking for an object among others, as one does by `some` and `Object.is`. -/
theorem any_is {offered : List (Reference α)} {item : Reference α}
    (agree : ∀ other ∈ offered, other.Agrees item) :
    offered.any (fun other => other.is item) = true ↔ item ∈ offered := by
  rw [List.any_eq_true]
  constructor
  · rintro ⟨other, isOffered, same⟩
    rw [← eq_of_is (agree other isOffered) same]
    exact isOffered
  · intro isOffered
    exact ⟨item, isOffered, by simp [is]⟩

/-- Looking for an object finds it by what it reads as just where either finds it, or
nothing that reads so is there. -/
theorem any_is_iff {offered : List (Reference α)} {item : Reference α} (Named : α → Prop)
    (agree : ∀ other ∈ offered, other.Agrees item)
    (named : ∀ other ∈ offered, Named other.contents) :
    ((offered.any (fun other => other.is item) = true ↔ Named item.contents) ↔
      item ∈ offered ∨ ¬ Named item.contents) := by
  rw [any_is agree]
  constructor
  · intro same
    by_cases isOffered : item ∈ offered
    · exact .inl isOffered
    · exact .inr fun isNamed => isOffered (same.mpr isNamed)
  · rintro (isOffered | unnamed)
    · exact iff_of_true isOffered (named item isOffered)
    · exact iff_of_false (fun isOffered => unnamed (named item isOffered)) unnamed

end Reference

/-- New objects, one for each of the contents, from the address `next` on. -/
def allocate : Nat → List α → List (Reference α)
  | _, [] => []
  | next, contents :: rest => ⟨next, contents⟩ :: allocate (next + 1) rest

theorem allocate_contents (next : Nat) (contents : List α) :
    (allocate next contents).map (·.contents) = contents := by
  induction contents generalizing next with
  | nil => rfl
  | cons first rest ih => rw [allocate, List.map_cons, ih]

theorem contents_of_mem {next : Nat} {contents : List α} {object : Reference α}
    (allocated : object ∈ allocate next contents) : object.contents ∈ contents := by
  have mapped := List.mem_map_of_mem (f := Reference.contents) allocated
  rwa [allocate_contents] at mapped

end ModemStack.Data
