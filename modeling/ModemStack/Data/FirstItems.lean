import Mathlib.Data.List.Perm.Subperm
import Mathlib.Data.List.Sort

/-!
The first items of a list in an order, at most so many of them.

An item is among them when fewer than so many are ahead of it (`mem_firstItems`). When the list
changes, they change just when one of those that come or go is among them
(`firstItems_eq_iff`).
-/

namespace ModemStack.Data

variable {α : Type} [DecidableEq α] (le : α → α → Prop) [DecidableRel le]

/-- How many other items do not come after an item. -/
def ahead (items : List α) (item : α) : Nat :=
  (items.filter fun other => other ≠ item ∧ le other item).length

omit [DecidableEq α] in
/-- The first items, at most `cap`. -/
def firstItems (cap : Nat) (items : List α) : List α := (items.insertionSort le).take cap

variable {le} {items items' : List α} {item : α} {cap : Nat}

theorem ahead_perm (perm : items.Perm items') : ahead le items item = ahead le items' item :=
  (perm.filter _).length_eq

/-- Items that come before and after each other are one. -/
def Distinguishes (le : α → α → Prop) (items : List α) : Prop :=
  ∀ x ∈ items, ∀ y ∈ items, le x y → le y x → x = y

theorem mem_take_sorted {sorted : List α} (inOrder : sorted.Pairwise le) (distinct : sorted.Nodup)
    (distinguishes : Distinguishes le sorted) :
    item ∈ sorted.take cap ↔ item ∈ sorted ∧ ahead le sorted item < cap := by
  induction sorted generalizing cap with
  | nil => simp
  | cons first rest ih =>
    cases cap with
    | zero => simp
    | succ =>
      rw [List.pairwise_cons] at inOrder
      rw [List.nodup_cons] at distinct
      rw [List.take_succ_cons, List.mem_cons, List.mem_cons]
      by_cases isFirst : item = first
      · have none_ahead : ahead le (first :: rest) first = 0 := by
          rw [ahead, List.length_eq_zero_iff, List.filter_eq_nil_iff]
          intro other mem before
          obtain ⟨differs, isBefore⟩ := of_decide_eq_true before
          have later : other ∈ rest := (List.mem_cons.mp mem).resolve_left differs
          exact differs (distinguishes other mem first List.mem_cons_self isBefore
            (inOrder.1 other later))
        rw [isFirst, none_ahead]
        simp
      · have inRest : Distinguishes le rest := fun x mem y mem' =>
          distinguishes x (List.mem_cons_of_mem _ mem) y (List.mem_cons_of_mem _ mem')
        rw [or_iff_right isFirst, or_iff_right isFirst, ih inOrder.2 distinct.2 inRest]
        refine and_congr_right fun mem => ?_
        have one_more : ahead le (first :: rest) item = ahead le rest item + 1 := by
          have before : decide (first ≠ item ∧ le first item) = true :=
            decide_eq_true ⟨Ne.symm isFirst, inOrder.1 item mem⟩
          rw [ahead, List.filter_cons, if_pos before, List.length_cons, ahead]
        omega

section Order

variable [IsTrans α le] [Std.Total le]

theorem mem_firstItems (distinct : items.Nodup) (distinguishes : Distinguishes le items) :
    item ∈ firstItems le cap items ↔ item ∈ items ∧ ahead le items item < cap := by
  have perm := List.perm_insertionSort le items
  have sortedDistinguishes : Distinguishes le (items.insertionSort le) := fun x mem y mem' =>
    distinguishes x (perm.mem_iff.mp mem) y (perm.mem_iff.mp mem')
  rw [firstItems, mem_take_sorted (List.pairwise_insertionSort le items)
    (perm.nodup_iff.mpr distinct) sortedDistinguishes, perm.mem_iff, ahead_perm perm]

omit [DecidableEq α] in
/-- The first items come in their order. -/
theorem pairwise_firstItems : (firstItems le cap items).Pairwise le :=
  (List.pairwise_insertionSort le items).sublist (List.take_sublist _ _)

omit [DecidableEq α] [IsTrans α le] [Std.Total le] in
theorem nodup_firstItems (distinct : items.Nodup) : (firstItems le cap items).Nodup :=
  ((List.perm_insertionSort le items).nodup_iff.mpr distinct).sublist (List.take_sublist _ _)

omit [DecidableEq α] in
/-- All that are first are ahead of one that is not. -/
theorem le_of_not_mem_firstItems (mem : item ∈ items) (left : item ∉ firstItems le cap items)
    {other : α} (isFirst : other ∈ firstItems le cap items) : other ≠ item ∧ le other item := by
  refine ⟨fun same => left (same ▸ isFirst), ?_⟩
  have inSorted : item ∈ items.insertionSort le :=
    (List.perm_insertionSort le items).mem_iff.mpr mem
  rw [← List.take_append_drop cap (items.insertionSort le), List.mem_append] at inSorted
  have inOrder := List.pairwise_insertionSort le items
  rw [← List.take_append_drop cap (items.insertionSort le), List.pairwise_append] at inOrder
  exact inOrder.2.2 other isFirst item (inSorted.resolve_left left)

/-- One that is first stays first, when what is first afterwards was there before. -/
theorem ahead_of_stays (distinct' : items'.Nodup)
    (distinguishes : Distinguishes le items') (mem : item ∈ items')
    (first : ahead le items item < cap)
    (known : ∀ other ∈ firstItems le cap items', other ∈ items) : ahead le items' item < cap := by
  by_contra far
  have left : item ∉ firstItems le cap items' := fun isFirst =>
    far ((mem_firstItems distinct' distinguishes).mp isFirst).2
  have full : (firstItems le cap items').length = cap := by
    rw [firstItems, List.length_take, List.length_insertionSort, Nat.min_eq_left]
    exact (Nat.le_of_not_lt far).trans (List.length_filter_le _ _)
  have within : firstItems le cap items' ⊆
      items.filter fun other => other ≠ item ∧ le other item := by
    intro other isFirst
    rw [List.mem_filter]
    exact ⟨known other isFirst, decide_eq_true (le_of_not_mem_firstItems mem left isFirst)⟩
  have fewer := (List.subperm_of_subset (nodup_firstItems distinct') within).length_le
  rw [full] at fewer
  exact absurd first (Nat.not_lt_of_le fewer)

/-- The first items stay the same when neither those that were nor those that are come or go. -/
theorem firstItems_eq_iff (distinct : items.Nodup) (distinct' : items'.Nodup)
    (distinguishes : Distinguishes le items) (distinguishes' : Distinguishes le items') :
    firstItems le cap items = firstItems le cap items' ↔
      (∀ item ∈ items, ahead le items item < cap → item ∈ items') ∧
        ∀ item ∈ items', ahead le items' item < cap → item ∈ items := by
  have among {item : α} :
      item ∈ firstItems le cap items ↔ item ∈ items ∧ ahead le items item < cap :=
    mem_firstItems distinct distinguishes
  have among' {item : α} :
      item ∈ firstItems le cap items' ↔ item ∈ items' ∧ ahead le items' item < cap :=
    mem_firstItems distinct' distinguishes'
  constructor
  · intro same
    constructor
    · intro item mem first
      exact (among'.mp (same ▸ among.mpr ⟨mem, first⟩)).1
    · intro item mem first
      exact (among.mp (same ▸ among'.mpr ⟨mem, first⟩)).1
  · rintro ⟨stays, known⟩
    have members : ∀ item, item ∈ firstItems le cap items ↔ item ∈ firstItems le cap items' := by
      intro item
      rw [among, among']
      constructor
      · rintro ⟨mem, first⟩
        have mem' := stays item mem first
        refine ⟨mem', ahead_of_stays distinct' distinguishes' mem' first ?_⟩
        exact fun other isFirst => known other (among'.mp isFirst).1 (among'.mp isFirst).2
      · rintro ⟨mem', first⟩
        have mem := known item mem' first
        refine ⟨mem, ahead_of_stays distinct distinguishes mem first ?_⟩
        exact fun other isFirst => stays other (among.mp isFirst).1 (among.mp isFirst).2
    refine List.Perm.eq_of_pairwise ?_ pairwise_firstItems pairwise_firstItems
      ((List.perm_ext_iff_of_nodup (nodup_firstItems distinct)
        (nodup_firstItems distinct')).mpr members)
    intro x y mem mem' before after
    exact distinguishes x (among.mp mem).1 y (among.mp ((members y).mpr mem')).1 before after

end Order

end ModemStack.Data
