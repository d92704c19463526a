import Mathlib.Data.List.Perm.Basic

/-!
Orders made of stages, each of which may leave two elements tied or undecided, and the
selection of a first element under such an order.
-/

namespace ModemStack.Data

/-- A strict order and what it treats as tied. Neither need hold of two elements. -/
structure Ranking (α : Type) where
  below : α → α → Prop
  same : α → α → Prop
  irrefl : ∀ a, ¬ below a a
  trans : ∀ {a b c}, below a b → below b c → below a c
  below_same : ∀ {a b c}, below a b → same b c → below a c
  same_below : ∀ {a b c}, same a b → below b c → below a c
  same_trans : ∀ {a b c}, same a b → same b c → same a c
  same_symm : ∀ {a b}, same a b → same b a

namespace Ranking

variable {α β : Type}

/-- The elements are tied, or one of them is first. -/
def Decides (ranking : Ranking α) (a b : α) : Prop :=
  ranking.below a b ∨ ranking.same a b ∨ ranking.below b a

/-- Whoever is first is not tied with the other, nor behind it. -/
theorem below_iff {ranking : Ranking α} {a b : α} (decides : ranking.Decides a b) :
    ranking.below b a ↔ ¬ ranking.below a b ∧ ¬ ranking.same a b := by
  constructor
  · intro above
    constructor
    · intro below
      exact ranking.irrefl a (ranking.trans below above)
    · intro same
      exact ranking.irrefl b (ranking.below_same above same)
  · rintro ⟨notBelow, notSame⟩
    rcases decides with below | same | above
    · exact absurd below notBelow
    · exact absurd same notSame
    · exact above

/-- The order of a field. -/
def comap (ranking : Ranking β) (field : α → β) : Ranking α where
  below a b := ranking.below (field a) (field b)
  same a b := ranking.same (field a) (field b)
  irrefl a := ranking.irrefl (field a)
  trans := ranking.trans
  below_same := ranking.below_same
  same_below := ranking.same_below
  same_trans := ranking.same_trans
  same_symm := ranking.same_symm

/-- What is missing comes last. -/
def option (ranking : Ranking α) : Ranking (Option α) where
  below
    | some a, some b => ranking.below a b
    | some _, none => True
    | none, _ => False
  same
    | some a, some b => ranking.same a b
    | none, none => True
    | _, _ => False
  irrefl a := by
    cases a with
    | none => exact id
    | some a => exact ranking.irrefl a
  trans := by
    rintro (- | a) (- | b) (- | c) first second <;> try trivial
    exact ranking.trans first second
  below_same := by
    rintro (- | a) (- | b) (- | c) first second <;> try trivial
    exact ranking.below_same first second
  same_below := by
    rintro (- | a) (- | b) (- | c) first second <;> try trivial
    exact ranking.same_below first second
  same_trans := by
    rintro (- | a) (- | b) (- | c) first second <;> try trivial
    exact ranking.same_trans first second
  same_symm := by
    rintro (- | a) (- | b) same <;> try trivial
    exact ranking.same_symm same

/-- A second order for what the first one ties. -/
def next (first second : Ranking α) : Ranking α where
  below a b := first.below a b ∨ first.same a b ∧ second.below a b
  same a b := first.same a b ∧ second.same a b
  irrefl a := by
    rintro (below | ⟨-, below⟩)
    · exact first.irrefl a below
    · exact second.irrefl a below
  trans := by
    rintro a b c (below | ⟨same, below⟩) (below' | ⟨same', below'⟩)
    · exact .inl (first.trans below below')
    · exact .inl (first.below_same below same')
    · exact .inl (first.same_below same below')
    · exact .inr ⟨first.same_trans same same', second.trans below below'⟩
  below_same := by
    rintro a b c (below | ⟨same, below⟩) ⟨same', tied⟩
    · exact .inl (first.below_same below same')
    · exact .inr ⟨first.same_trans same same', second.below_same below tied⟩
  same_below := by
    rintro a b c ⟨same, tied⟩ (below | ⟨same', below⟩)
    · exact .inl (first.same_below same below)
    · exact .inr ⟨first.same_trans same same', second.same_below tied below⟩
  same_trans := by
    rintro a b c ⟨same, tied⟩ ⟨same', tied'⟩
    exact ⟨first.same_trans same same', second.same_trans tied tied'⟩
  same_symm := by
    rintro a b ⟨same, tied⟩
    exact ⟨first.same_symm same, second.same_symm tied⟩

/-! ### The first element -/

variable (ranking : Ranking α) [DecidableRel ranking.below]

/-- The element that a pass over the list ends with. -/
def select (best : α) (rest : List α) : α :=
  rest.foldl (fun best a => if ranking.below a best then a else best) best

/-- What a pass ends with is in front of no less than what it began with, and behind nothing. -/
theorem select_first (best : α) (rest : List α) :
    (ranking.select best rest = best ∨ ranking.below (ranking.select best rest) best) ∧
      ranking.select best rest ∈ best :: rest ∧
      ∀ a ∈ best :: rest, ¬ ranking.below a (ranking.select best rest) := by
  induction rest generalizing best with
  | nil => exact ⟨.inl rfl, List.mem_singleton_self _, fun a mem =>
    List.mem_singleton.mp mem ▸ ranking.irrefl best⟩
  | cons head rest ih =>
    rw [select, List.foldl_cons]
    by_cases replaces : ranking.below head best
    · rw [if_pos replaces]
      obtain ⟨reached, mem, unbeaten⟩ := ih head
      have beats : ranking.below (ranking.select head rest) best := by
        rcases reached with same | below
        · rw [same]
          exact replaces
        · exact ranking.trans below replaces
      refine ⟨.inr beats, List.mem_cons_of_mem _ mem, fun a isOne below => ?_⟩
      rcases List.mem_cons.mp isOne with rfl | later
      · exact ranking.irrefl _ (ranking.trans below beats)
      · exact unbeaten a later below
    · rw [if_neg replaces]
      obtain ⟨reached, mem, unbeaten⟩ := ih best
      refine ⟨reached, ?_, fun a isOne below => ?_⟩
      · rcases List.mem_cons.mp mem with same | later
        · exact List.mem_cons.mpr (.inl same)
        · exact List.mem_cons_of_mem _ (List.mem_cons_of_mem _ later)
      · rcases List.mem_cons.mp isOne with rfl | later
        · exact unbeaten a List.mem_cons_self below
        · rcases List.mem_cons.mp later with rfl | later
          · rcases reached with same | above
            · exact replaces (same ▸ below)
            · exact replaces (ranking.trans below above)
          · exact unbeaten a (List.mem_cons_of_mem _ later) below

/-- What nothing is in front of stays selected from the head of the list. -/
theorem select_of_unbeaten {best : α} {rest : List α}
    (unbeaten : ∀ a ∈ rest, ¬ ranking.below a best) : ranking.select best rest = best := by
  obtain ⟨same | below, mem, -⟩ := ranking.select_first best rest
  · exact same
  · rcases List.mem_cons.mp mem with same | later
    · exact same
    · exact absurd below (unbeaten _ later)

end Ranking

end ModemStack.Data
