import Mathlib.Data.List.Perm.Basic

/-!
What a sort promises that takes its comparison from the caller.

Where the comparison puts the items in an order, the sort is that order, and level items keep
theirs. Where it does not, the sort may answer the items in any order. There is a sort that
leaves the items alone wherever it may (`exists_lazySort`).
-/

namespace ModemStack.Data

variable {α : Type}

/-- The comparison puts the items in an order. -/
structure Consistent (compare : α → α → Ordering) (items : List α) : Prop where
  swap : ∀ x ∈ items, ∀ y ∈ items, compare y x = (compare x y).swap
  trans : ∀ x ∈ items, ∀ y ∈ items, ∀ z ∈ items,
    compare x y ≠ .gt → compare y z ≠ .gt → compare x z ≠ .gt

structure Sorts (sort : (α → α → Ordering) → List α → List α) : Prop where
  perm : ∀ compare items, (sort compare items).Perm items
  sorted : ∀ compare items, Consistent compare items →
    (sort compare items).Pairwise fun x y => compare x y ≠ .gt
  stable : ∀ compare items, Consistent compare items → ∀ x ∈ items,
    (sort compare items).filter (fun y => compare x y = .eq) =
      items.filter fun y => compare x y = .eq

/-- Items that are all level keep their order. -/
theorem Sorts.level {sort : (α → α → Ordering) → List α → List α} (sorts : Sorts sort)
    {compare : α → α → Ordering} {items : List α}
    (level : ∀ x ∈ items, ∀ y ∈ items, compare x y = .eq) : sort compare items = items := by
  have consistent : Consistent compare items := by
    constructor
    · intro x memX y memY
      rw [level x memX y memY, level y memY x memX]
      rfl
    · intro x memX _ _ z memZ _ _
      rw [level x memX z memZ]
      decide
  cases items with
  | nil => exact List.perm_nil.mp (sorts.perm compare [])
  | cons first rest =>
    have first_mem : first ∈ first :: rest := List.mem_cons_self
    have all {kept : List α} (subset : ∀ y ∈ kept, y ∈ first :: rest) :
        kept.filter (fun y => compare first y = .eq) = kept :=
      List.filter_eq_self.mpr fun y mem => decide_eq_true (level first first_mem y (subset y mem))
    have stable := sorts.stable compare (first :: rest) consistent first first_mem
    rw [all fun y mem => (sorts.perm compare _).mem_iff.mp mem, all fun y mem => mem] at stable
    exact stable

/-! ### One comparison after another -/

/-- Items that the first comparison leaves level are told apart by the second. -/
theorem Consistent.then {first second : α → α → Ordering} {items : List α}
    (major : Consistent first items) (minor : Consistent second items) :
    Consistent (fun x y => (first x y).then (second x y)) items where
  swap x memX y memY := by
    rw [major.swap x memX y memY, minor.swap x memX y memY]
    cases first x y <;> rfl
  trans x memX y memY z memZ xy yz := by
    have firstXY : first x y ≠ .gt := fun isGt => xy (by rw [isGt]; rfl)
    have firstYZ : first y z ≠ .gt := fun isGt => yz (by rw [isGt]; rfl)
    have firstXZ := major.trans x memX y memY z memZ firstXY firstYZ
    cases atXZ : first x z with
    | gt => exact absurd atXZ firstXZ
    | lt => nofun
    | eq =>
      have firstZX : first z x ≠ .gt := by
        rw [major.swap x memX z memZ, atXZ]
        decide
      have levelXY : first x y = .eq := by
        have firstYX := major.trans y memY z memZ x memX firstYZ firstZX
        rw [major.swap x memX y memY] at firstYX
        cases atXY : first x y with
        | eq => rfl
        | lt => exact absurd (by rw [atXY]; rfl) firstYX
        | gt => exact absurd atXY firstXY
      have levelYZ : first y z = .eq := by
        have firstZY := major.trans z memZ x memX y memY firstZX firstXY
        rw [major.swap y memY z memZ] at firstZY
        cases atYZ : first y z with
        | eq => rfl
        | lt => exact absurd (by rw [atYZ]; rfl) firstZY
        | gt => exact absurd atYZ firstYZ
      rw [levelXY] at xy
      rw [levelYZ] at yz
      exact minor.trans x memX y memY z memZ xy yz

/-- Where level items are those of one key, the order of the keys is settled. -/
theorem Consistent.keys_eq {κ : Type} {compare : α → α → Ordering} {items sorted sorted' : List α}
    (consistent : Consistent compare items) {key : α → κ}
    (level : ∀ x ∈ items, ∀ y ∈ items, compare x y = .eq ↔ key x = key y)
    (perm : sorted.Perm items) (perm' : sorted'.Perm items)
    (inOrder : sorted.Pairwise fun x y => compare x y ≠ .gt)
    (inOrder' : sorted'.Pairwise fun x y => compare x y ≠ .gt) :
    sorted.map key = sorted'.map key := by
  -- a key may stand before another, if items of them may
  let before : κ → κ → Prop := fun k k' =>
    ∃ x ∈ items, ∃ y ∈ items, key x = k ∧ key y = k' ∧ compare x y ≠ .gt
  have pairwise {list : List α} (isPerm : list.Perm items)
      (isSorted : list.Pairwise fun x y => compare x y ≠ .gt) : (list.map key).Pairwise before := by
    rw [List.pairwise_map]
    refine isSorted.imp_of_mem fun {x y} memX memY notAfter => ?_
    exact ⟨x, isPerm.mem_iff.mp memX, y, isPerm.mem_iff.mp memY, rfl, rfl, notAfter⟩
  refine List.Perm.eq_of_pairwise ?_ (pairwise perm inOrder) (pairwise perm' inOrder')
    ((perm.trans perm'.symm).map key)
  rintro k k' - - ⟨x, memX, y, memY, rfl, rfl, xy⟩ ⟨y', memY', x', memX', sameY, sameX, yx⟩
  have stepY := (level y memY y' memY').mpr sameY.symm
  have stepX := (level x' memX' x memX).mpr sameX
  have yX' := consistent.trans y memY y' memY' x' memX' (by rw [stepY]; decide) yx
  have back := consistent.trans y memY x' memX' x memX yX' (by rw [stepX]; decide)
  rw [consistent.swap x memX y memY] at back
  apply (level x memX y memY).mp
  cases atXY : compare x y with
  | eq => rfl
  | lt => exact absurd (by rw [atXY]; rfl) back
  | gt => exact absurd atXY xy

/-! ### A sort -/

/-- A stable sort of the items of a list. -/
def sortMembers (compare : α → α → Ordering) (items : List α) : List α :=
  (items.attach.mergeSort fun x y => compare x.val y.val ≠ .gt).map Subtype.val

variable {compare : α → α → Ordering} {items : List α}

theorem sortMembers_perm : (sortMembers compare items).Perm items := by
  have perm := (List.mergeSort_perm items.attach fun x y => compare x.val y.val ≠ .gt).map
    Subtype.val
  rw [List.attach_map_subtype_val] at perm
  exact perm

theorem Consistent.total (consistent : Consistent compare items) {x y : α} (memX : x ∈ items)
    (memY : y ∈ items) : compare x y ≠ .gt ∨ compare y x ≠ .gt := by
  rw [consistent.swap x memX y memY]
  cases compare x y <;> simp

theorem members_trans (consistent : Consistent compare items) (x y z : { x // x ∈ items })
    (first : decide (compare x.val y.val ≠ .gt) = true)
    (second : decide (compare y.val z.val ≠ .gt) = true) :
    decide (compare x.val z.val ≠ .gt) = true :=
  decide_eq_true (consistent.trans x x.2 y y.2 z z.2 (of_decide_eq_true first)
    (of_decide_eq_true second))

theorem members_total (consistent : Consistent compare items) (x y : { x // x ∈ items }) :
    (decide (compare x.val y.val ≠ .gt) || decide (compare y.val x.val ≠ .gt)) = true := by
  rw [Bool.or_eq_true, decide_eq_true_eq, decide_eq_true_eq]
  exact consistent.total x.2 y.2

theorem sortMembers_sorted (consistent : Consistent compare items) :
    (sortMembers compare items).Pairwise fun x y => compare x y ≠ .gt := by
  rw [sortMembers, List.pairwise_map]
  exact (List.pairwise_mergeSort (members_trans consistent) (members_total consistent)
    items.attach).imp fun before => of_decide_eq_true before

theorem sortMembers_stable (consistent : Consistent compare items) {x : α} (mem : x ∈ items) :
    (sortMembers compare items).filter (fun y => compare x y = .eq) =
      items.filter fun y => compare x y = .eq := by
  let level : { x // x ∈ items } → Bool := fun y => compare x y.val = .eq
  have inOrder : (items.attach.filter level).Pairwise fun y z =>
      decide (compare y.val z.val ≠ .gt) = true := by
    refine List.pairwise_of_forall_mem_list fun y memY z memZ => decide_eq_true ?_
    have levelY : compare x y.val = .eq := of_decide_eq_true (List.mem_filter.mp memY).2
    have levelZ : compare x z.val = .eq := of_decide_eq_true (List.mem_filter.mp memZ).2
    refine consistent.trans y y.2 x mem z z.2 ?_ (by rw [levelZ]; decide)
    rw [consistent.swap x mem y y.2, levelY]
    decide
  have kept := (List.sublist_mergeSort (members_trans consistent) (members_total consistent)
    inOrder List.filter_sublist).filter level
  rw [List.filter_filter] at kept
  simp only [Bool.and_self] at kept
  have same := kept.eq_of_length
    ((List.mergeSort_perm items.attach _).symm.filter level).length_eq
  calc (sortMembers compare items).filter (fun y => compare x y = .eq)
      = ((items.attach.mergeSort fun x y => compare x.val y.val ≠ .gt).filter level).map
          Subtype.val := List.filter_map ..
    _ = (items.attach.filter level).map Subtype.val := by rw [← same]
    _ = (items.attach.map Subtype.val).filter fun y => compare x y = .eq := by
        rw [List.filter_map]
        rfl
    _ = items.filter fun y => compare x y = .eq := by rw [List.attach_map_subtype_val]

theorem sorts_sortMembers : Sorts (sortMembers (α := α)) where
  perm _ _ := sortMembers_perm
  sorted _ _ consistent := sortMembers_sorted consistent
  stable _ _ consistent _ mem := sortMembers_stable consistent mem

/-- A sort that leaves the items alone, unless they are out of a consistent order. -/
theorem exists_lazySort :
    ∃ sort : (α → α → Ordering) → List α → List α, Sorts sort ∧ ∀ compare items,
      (items.Pairwise fun x y => compare x y ≠ .gt) ∨ ¬ Consistent compare items →
        sort compare items = items := by
  classical
  refine ⟨fun compare items =>
    if (items.Pairwise fun x y => compare x y ≠ .gt) ∨ ¬ Consistent compare items then items
    else sortMembers compare items, ⟨?_, ?_, ?_⟩, fun compare items lazy => if_pos lazy⟩
  · intro compare items
    split
    · exact List.Perm.refl items
    · exact sortMembers_perm
  · intro compare items consistent
    split
    · next lazy => exact lazy.resolve_right (not_not.mpr consistent)
    · exact sortMembers_sorted consistent
  · intro compare items consistent x mem
    split
    · rfl
    · exact sortMembers_stable consistent mem

end ModemStack.Data
