import Mathlib.Data.List.Count
import Mathlib.Data.List.Nodup
import Mathlib.Data.List.Perm.Subperm

/-!
The first places of a list in an order that leaves some items level.

A list that is in order may have level items in any order, so what its first `n` places hold may
depend on how it was put in order. `Settled` says when the items of a kind in these places, and
their order, do not.
-/

namespace ModemStack.Data

variable {α : Type}

/-- Level items are those of which neither is before the other. -/
structure WeakOrder (before : α → α → Prop) : Prop where
  irrefl : ∀ x, ¬ before x x
  trans : ∀ x y z, before x y → before y z → before x z
  between : ∀ x y z, before x z → before x y ∨ before y z

theorem WeakOrder.asymm {before : α → α → Prop} (order : WeakOrder before) {x y : α}
    (first : before x y) : ¬ before y x :=
  fun second => order.irrefl x (order.trans x y x first second)

def InOrder (before : α → α → Prop) (items : List α) : Prop :=
  items.Pairwise fun x y => ¬ before y x

variable [DecidableEq α] (before : α → α → Prop) [DecidableRel before]

/-- How many items come before an item however the list is put in order. -/
def surelyAhead (items : List α) (item : α) : Nat := items.countP fun other => before other item

/-- How many items come before an item in some order of the list. -/
def possiblyAhead (items : List α) (item : α) : Nat :=
  items.countP fun other => other ≠ item ∧ ¬ before item other

variable {before} {items sorted : List α} {item : α} {n : Nat}

/-! ### Places -/

omit [DecidableEq α] in
theorem mem_take_split {front back : List α} (distinct : (front ++ item :: back).Nodup) :
    item ∈ (front ++ item :: back).take n ↔ front.length < n := by
  have new : item ∉ front := fun mem =>
    (List.nodup_append.mp distinct).2.2 item mem item List.mem_cons_self rfl
  constructor
  · intro mem
    by_contra short
    rw [List.take_append_of_le_length (Nat.le_of_not_lt short)] at mem
    exact new (List.mem_of_mem_take mem)
  · intro room
    obtain ⟨more, isMore⟩ := Nat.exists_eq_add_of_lt room
    rw [isMore, Nat.add_assoc, List.take_length_add_append, List.take_succ_cons]
    exact List.mem_append_right _ List.mem_cons_self

/-- The place of an item in a list in order. -/
theorem place_bounds (order : WeakOrder before) {front back : List α}
    (inOrder : InOrder before (front ++ item :: back)) (distinct : (front ++ item :: back).Nodup) :
    surelyAhead before (front ++ item :: back) item ≤ front.length ∧
      front.length ≤ possiblyAhead before (front ++ item :: back) item := by
  have pairs := List.pairwise_append.mp inOrder
  have later := List.pairwise_cons.mp pairs.2.1
  constructor
  · have none_later : (item :: back).countP (fun other => before other item) = 0 := by
      rw [List.countP_eq_zero]
      intro other mem
      rw [decide_eq_true_eq]
      rcases List.mem_cons.mp mem with rfl | inBack
      · exact order.irrefl other
      · exact later.1 other inBack
    rw [surelyAhead, List.countP_append, none_later, Nat.add_zero]
    exact List.countP_le_length
  · have all : front.countP (fun other => other ≠ item ∧ ¬ before item other) = front.length := by
      rw [List.countP_eq_length]
      intro other mem
      refine decide_eq_true ⟨?_, pairs.2.2 other mem item List.mem_cons_self⟩
      rintro rfl
      exact (List.nodup_append.mp distinct).2.2 other mem other List.mem_cons_self rfl
    rw [possiblyAhead, List.countP_append, all]
    exact Nat.le_add_right _ _

theorem surelyAhead_lt (order : WeakOrder before) (inOrder : InOrder before sorted)
    (distinct : sorted.Nodup) (mem : item ∈ sorted.take n) :
    surelyAhead before sorted item < n := by
  obtain ⟨front, back, rfl⟩ := List.append_of_mem (List.mem_of_mem_take mem)
  exact Nat.lt_of_le_of_lt (place_bounds order inOrder distinct).1
    ((mem_take_split distinct).mp mem)

theorem le_possiblyAhead (order : WeakOrder before) (inOrder : InOrder before sorted)
    (distinct : sorted.Nodup) (mem : item ∈ sorted) (left : item ∉ sorted.take n) :
    n ≤ possiblyAhead before sorted item := by
  obtain ⟨front, back, rfl⟩ := List.append_of_mem mem
  rw [mem_take_split distinct, Nat.not_lt] at left
  exact Nat.le_trans left (place_bounds order inOrder distinct).2

omit [DecidableEq α] in
theorem surelyAhead_perm (perm : sorted.Perm items) :
    surelyAhead before sorted item = surelyAhead before items item := perm.countP_eq _

theorem possiblyAhead_perm (perm : sorted.Perm items) :
    possiblyAhead before sorted item = possiblyAhead before items item := perm.countP_eq _

/-! ### An item as early and as late as it can be -/

variable (before) in
/-- The list with an item before all that are level with it. -/
def early (items : List α) (item : α) : List α :=
  items.filter (fun other => before other item) ++
    item :: items.filter fun other => other ≠ item ∧ ¬ before other item

variable (before) in
/-- The list with an item after all that are level with it. -/
def late (items : List α) (item : α) : List α :=
  items.filter (fun other => other ≠ item ∧ ¬ before item other) ++
    item :: items.filter fun other => before item other

/-- A list parted around an item. -/
theorem parted_perm {front back : α → Prop} [DecidablePred front] [DecidablePred back]
    (distinct : items.Nodup) (mem : item ∈ items) (notFront : ¬ front item) (notBack : ¬ back item)
    (parts : ∀ other, other ≠ item → (front other ↔ ¬ back other)) :
    (items.filter (front ·) ++ item :: items.filter (back ·)).Perm items := by
  refine (List.perm_ext_iff_of_nodup ?_ distinct).mpr fun other => ?_
  · rw [List.nodup_append, List.nodup_cons]
    refine ⟨distinct.filter _, ⟨by simp [notBack], distinct.filter _⟩, ?_⟩
    rintro x inFront y inBack rfl
    have isFront := of_decide_eq_true (List.mem_filter.mp inFront).2
    rcases List.mem_cons.mp inBack with rfl | later
    · exact notFront isFront
    · have isBack := of_decide_eq_true (List.mem_filter.mp later).2
      by_cases same : x = item
      · exact notFront (same ▸ isFront)
      · exact (parts x same).mp isFront isBack
  · simp only [List.mem_append, List.mem_cons, List.mem_filter, decide_eq_true_eq]
    by_cases same : other = item
    · simp [same, mem]
    · by_cases isBack : back other <;> simp [same, parts other same, isBack]

theorem early_perm (order : WeakOrder before) (distinct : items.Nodup) (mem : item ∈ items) :
    (early before items item).Perm items :=
  parted_perm distinct mem (order.irrefl item) (by simp) (by simp +contextual)

theorem late_perm (order : WeakOrder before) (distinct : items.Nodup) (mem : item ∈ items) :
    (late before items item).Perm items :=
  parted_perm distinct mem (by simp) (order.irrefl item) (by simp +contextual)

theorem early_inOrder (order : WeakOrder before) (inOrder : InOrder before items) :
    InOrder before (early before items item) := by
  refine List.pairwise_append.mpr ⟨inOrder.filter _, List.pairwise_cons.mpr
    ⟨fun other mem => ?_, inOrder.filter _⟩, fun x inFront y inBack => ?_⟩
  · exact (of_decide_eq_true (List.mem_filter.mp mem).2).2
  · have isBefore : before x item := of_decide_eq_true (List.mem_filter.mp inFront).2
    rcases List.mem_cons.mp inBack with rfl | later
    · exact order.asymm isBefore
    · intro back
      exact (of_decide_eq_true (List.mem_filter.mp later).2).2 (order.trans y x item back isBefore)

theorem late_inOrder (order : WeakOrder before) (inOrder : InOrder before items) :
    InOrder before (late before items item) := by
  refine List.pairwise_append.mpr ⟨inOrder.filter _, List.pairwise_cons.mpr
    ⟨fun other mem => ?_, inOrder.filter _⟩, fun x inFront y inBack => ?_⟩
  · exact order.asymm (of_decide_eq_true (List.mem_filter.mp mem).2)
  · have notAfter := (of_decide_eq_true (List.mem_filter.mp inFront).2).2
    rcases List.mem_cons.mp inBack with rfl | later
    · exact notAfter
    · intro back
      exact notAfter (order.trans item y x (of_decide_eq_true (List.mem_filter.mp later).2) back)

theorem mem_take_early (order : WeakOrder before) (distinct : items.Nodup) (mem : item ∈ items) :
    item ∈ (early before items item).take n ↔ surelyAhead before items item < n := by
  have split := (early_perm order distinct mem).nodup_iff.mpr distinct
  rw [early] at split ⊢
  rw [mem_take_split split, surelyAhead, List.countP_eq_length_filter]

theorem mem_take_late (order : WeakOrder before) (distinct : items.Nodup) (mem : item ∈ items) :
    item ∈ (late before items item).take n ↔ possiblyAhead before items item < n := by
  have split := (late_perm order distinct mem).nodup_iff.mpr distinct
  rw [late] at split ⊢
  rw [mem_take_split split, possiblyAhead, List.countP_eq_length_filter]

/-! ### What the first places hold -/

variable (before) in
/-- What the first `n` places hold of a kind, and in which order, does not depend on how the list
is put in order; and the places are not wasted on others. -/
structure Settled (keep : α → Bool) (n : Nat) (items : List α) : Prop where
  placed : ∀ x ∈ items, keep x = true →
    possiblyAhead before items x < n ∨ n ≤ surelyAhead before items x
  ordered : ∀ x ∈ items, ∀ y ∈ items, keep x = true → keep y = true → x ≠ y →
    before x y ∨ before y x ∨ n ≤ surelyAhead before items x
  full : (∃ x ∈ items, keep x = true ∧ n ≤ surelyAhead before items x) →
    ∀ y ∈ items, keep y = false → n ≤ surelyAhead before items y

/-- The items of a kind in the first places. -/
def firstKept (keep : α → Bool) (n : Nat) (sorted : List α) : List α := (sorted.take n).filter keep

variable {keep : α → Bool}

theorem mem_firstKept (order : WeakOrder before) (settled : Settled before keep n items)
    (perm : sorted.Perm items) (distinct : items.Nodup) (inOrder : InOrder before sorted) :
    item ∈ firstKept keep n sorted ↔
      item ∈ items ∧ keep item = true ∧ surelyAhead before items item < n := by
  have distinct' := perm.nodup_iff.mpr distinct
  rw [firstKept, List.mem_filter]
  constructor
  · rintro ⟨mem, kept⟩
    have few := surelyAhead_lt order inOrder distinct' mem
    rw [surelyAhead_perm perm] at few
    exact ⟨perm.mem_iff.mp (List.mem_of_mem_take mem), kept, few⟩
  · rintro ⟨mem, kept, few⟩
    refine ⟨?_, kept⟩
    by_contra left
    have many := le_possiblyAhead order inOrder distinct' (perm.mem_iff.mpr mem) left
    rw [possiblyAhead_perm perm] at many
    rcases settled.placed item mem kept with within | beyond
    · omega
    · omega

/-- What is kept comes in the one order it has. -/
theorem pairwise_firstKept (order : WeakOrder before) (settled : Settled before keep n items)
    (perm : sorted.Perm items) (distinct : items.Nodup) (inOrder : InOrder before sorted) :
    (firstKept keep n sorted).Pairwise before := by
  have distinct' : (firstKept keep n sorted).Nodup :=
    ((perm.nodup_iff.mpr distinct).sublist (List.take_sublist n sorted)).filter keep
  have ordered : InOrder before (firstKept keep n sorted) :=
    (inOrder.sublist (List.take_sublist n sorted)).filter keep
  refine (List.Pairwise.and distinct' ordered).imp_of_mem ?_
  rintro x y memX memY ⟨differ, notAfter⟩
  obtain ⟨inX, keptX, fewX⟩ := (mem_firstKept order settled perm distinct inOrder).mp memX
  obtain ⟨inY, keptY, _⟩ := (mem_firstKept order settled perm distinct inOrder).mp memY
  rcases settled.ordered x inX y inY keptX keptY differ with first | second | many
  · exact first
  · exact absurd second notAfter
  · omega

theorem firstKept_eq (order : WeakOrder before) (settled : Settled before keep n items)
    (distinct : items.Nodup) {sorted' : List α} (perm : sorted.Perm items)
    (perm' : sorted'.Perm items) (inOrder : InOrder before sorted)
    (inOrder' : InOrder before sorted') : firstKept keep n sorted = firstKept keep n sorted' := by
  have pairs := pairwise_firstKept order settled perm distinct inOrder
  have pairs' := pairwise_firstKept order settled perm' distinct inOrder'
  have nodup {places : List α} (ordered : places.Pairwise before) : places.Nodup := by
    refine ordered.imp fun {x y} first => ?_
    rintro rfl
    exact order.irrefl x first
  refine List.Perm.eq_of_pairwise ?_ pairs pairs'
    ((List.perm_ext_iff_of_nodup (nodup pairs) (nodup pairs')).mpr fun item => ?_)
  · intro x y _ _ first second
    exact absurd second (order.asymm first)
  · rw [mem_firstKept order settled perm distinct inOrder,
      mem_firstKept order settled perm' distinct inOrder']

/-- As many are kept as there are, or as there are places. -/
theorem length_firstKept (order : WeakOrder before) (settled : Settled before keep n items)
    (perm : sorted.Perm items) (distinct : items.Nodup) (inOrder : InOrder before sorted) :
    (firstKept keep n sorted).length = min n (items.countP keep) := by
  have distinct' := perm.nodup_iff.mpr distinct
  have nodup : (firstKept keep n sorted).Nodup :=
    (distinct'.sublist (List.take_sublist n sorted)).filter keep
  have within : (firstKept keep n sorted).length ≤ n :=
    Nat.le_trans (List.length_filter_le _ _) (List.length_take_le n sorted)
  rw [List.countP_eq_length_filter]
  have subset : firstKept keep n sorted ⊆ items.filter keep := fun item mem => by
    obtain ⟨inItems, kept, _⟩ := (mem_firstKept order settled perm distinct inOrder).mp mem
    exact List.mem_filter.mpr ⟨inItems, kept⟩
  by_cases dropped : ∃ x ∈ items, keep x = true ∧ n ≤ surelyAhead before items x
  · have all : (sorted.take n).filter keep = sorted.take n := by
      refine List.filter_eq_self.mpr fun item mem => ?_
      have few := surelyAhead_lt order inOrder distinct' mem
      rw [surelyAhead_perm perm] at few
      by_contra other
      have many := settled.full dropped item (perm.mem_iff.mp (List.mem_of_mem_take mem))
        (Bool.eq_false_iff.mpr other)
      omega
    obtain ⟨x, mem, kept, many⟩ := dropped
    have far : n ≤ items.length := Nat.le_trans many List.countP_le_length
    have full : (firstKept keep n sorted).length = n := by
      rw [firstKept, all, List.length_take, perm.length_eq]
      omega
    have most := (List.subperm_of_subset nodup subset).length_le
    omega
  · have everything : (firstKept keep n sorted).Perm (items.filter keep) := by
      refine (List.perm_ext_iff_of_nodup nodup (distinct.filter keep)).mpr fun item => ?_
      rw [mem_firstKept order settled perm distinct inOrder, List.mem_filter]
      constructor
      · exact fun ⟨mem, kept, _⟩ => ⟨mem, kept⟩
      · rintro ⟨mem, kept⟩
        refine ⟨mem, kept, Nat.lt_of_not_le fun many => dropped ⟨item, mem, kept, many⟩⟩
    have same := everything.length_eq
    omega

/-- One that is left is after all that are kept. -/
theorem before_of_left (order : WeakOrder before) (settled : Settled before keep n items)
    (perm : sorted.Perm items) (distinct : items.Nodup) (inOrder : InOrder before sorted) {x y : α}
    (kept : x ∈ firstKept keep n sorted) (mem : y ∈ items) (isKind : keep y = true)
    (left : y ∉ firstKept keep n sorted) : before x y := by
  rw [mem_firstKept order settled perm distinct inOrder] at kept left
  by_contra notBefore
  have fewer : surelyAhead before items y ≤ surelyAhead before items x := by
    refine List.countP_mono_left fun z _ ahead => ?_
    rw [decide_eq_true_eq] at ahead ⊢
    exact (order.between z x y ahead).resolve_right notBefore
  exact left ⟨mem, isKind, Nat.lt_of_le_of_lt fewer kept.2.2⟩

/-! ### Only then -/

theorem early_front (order : WeakOrder before) :
    (early before items item).Pairwise fun x y => y = item → before x y := by
  refine List.pairwise_append.mpr ⟨List.pairwise_of_forall_mem_list ?_,
    List.pairwise_cons.mpr ⟨?_, List.pairwise_of_forall_mem_list ?_⟩, ?_⟩
  · rintro x - y mem rfl
    exact absurd (of_decide_eq_true (List.mem_filter.mp mem).2) (order.irrefl y)
  · rintro y mem rfl
    exact absurd rfl (of_decide_eq_true (List.mem_filter.mp mem).2).1
  · rintro x - y mem rfl
    exact absurd rfl (of_decide_eq_true (List.mem_filter.mp mem).2).1
  · rintro x mem y - rfl
    exact of_decide_eq_true (List.mem_filter.mp mem).2

theorem settled_of_same (order : WeakOrder before) (distinct : items.Nodup) {base result : List α}
    (perm : base.Perm items) (inOrder : InOrder before base)
    (same : ∀ sorted : List α, sorted.Perm items → InOrder before sorted →
      firstKept keep n sorted = result)
    (length : result.length = min n (items.countP keep)) : Settled before keep n items := by
  have distinct' := perm.nodup_iff.mpr distinct
  have asEarly {x : α} (mem : x ∈ items) : firstKept keep n (early before base x) = result :=
    same _ ((early_perm order distinct' (perm.mem_iff.mpr mem)).trans perm)
      (early_inOrder order inOrder)
  have asLate {x : α} (mem : x ∈ items) : firstKept keep n (late before base x) = result :=
    same _ ((late_perm order distinct' (perm.mem_iff.mpr mem)).trans perm)
      (late_inOrder order inOrder)
  have isFirst {x : α} (mem : x ∈ items) (kept : keep x = true) :
      x ∈ result ↔ surelyAhead before items x < n := by
    rw [← asEarly mem, firstKept, List.mem_filter, and_iff_left kept,
      mem_take_early order distinct' (perm.mem_iff.mpr mem), surelyAhead_perm perm]
  have isLast {x : α} (mem : x ∈ items) (kept : keep x = true) :
      x ∈ result ↔ possiblyAhead before items x < n := by
    rw [← asLate mem, firstKept, List.mem_filter, and_iff_left kept,
      mem_take_late order distinct' (perm.mem_iff.mpr mem), possiblyAhead_perm perm]
  refine ⟨fun x mem kept => ?_, fun x memX y memY keptX keptY differ => ?_, ?_⟩
  · have level := (isLast mem kept).symm.trans (isFirst mem kept)
    omega
  · by_contra level
    simp only [not_or, Nat.not_le] at level
    obtain ⟨notXY, notYX, few⟩ := level
    have few' : surelyAhead before items y < n := by
      refine Nat.lt_of_le_of_lt (List.countP_mono_left fun z _ ahead => ?_) few
      rw [decide_eq_true_eq] at ahead ⊢
      exact (order.between z x y ahead).resolve_right notXY
    have front {x : α} (mem : x ∈ items) : result.Pairwise fun u v => v = x → before u v := by
      rw [← asEarly mem]
      exact ((early_front order).sublist (List.take_sublist n _)).filter keep
    -- each of the two comes first in one of the orders
    have yLast : result.Pairwise fun u v => ¬ (u = y ∧ v = x) := by
      refine (front memX).imp fun {u v} ahead => ?_
      rintro ⟨rfl, rfl⟩
      exact notYX (ahead rfl)
    have xLast : result.Pairwise fun u v => ¬ (v = y ∧ u = x) := by
      refine (front memY).imp fun {u v} ahead => ?_
      rintro ⟨rfl, rfl⟩
      exact notXY (ahead rfl)
    refine List.Pairwise.forall_of_forall_of_flip ?_ yLast xLast ((isFirst memY keptY).mpr few')
      ((isFirst memX keptX).mpr few) ⟨rfl, rfl⟩
    rintro z - ⟨rfl, isX⟩
    exact differ isX.symm
  · rintro ⟨x, memX, keptX, many⟩ m memM notKept
    by_contra few
    have first : m ∈ (early before base m).take n := by
      rw [mem_take_early order distinct' (perm.mem_iff.mpr memM), surelyAhead_perm perm]
      exact Nat.lt_of_not_le few
    have wasted : result.length < n := by
      rw [← asEarly memM, firstKept]
      refine Nat.lt_of_lt_of_le ?_ (List.length_take_le n (early before base m))
      exact List.length_filter_lt_length_iff_exists.mpr ⟨m, first, by simp [notKept]⟩
    have missing : x ∉ result := by
      rw [isFirst memX keptX]
      exact Nat.not_lt_of_le many
    have nodup : result.Nodup := by
      rw [← asEarly memM]
      exact (((early_perm order distinct' (perm.mem_iff.mpr memM)).nodup_iff.mpr
        distinct').sublist (List.take_sublist n _)).filter keep
    have subset : x :: result ⊆ items.filter keep := by
      rw [List.cons_subset]
      refine ⟨List.mem_filter.mpr ⟨memX, keptX⟩, fun z mem => ?_⟩
      rw [← asEarly memM, firstKept, List.mem_filter] at mem
      exact List.mem_filter.mpr ⟨perm.mem_iff.mp ((early_perm order distinct'
        (perm.mem_iff.mpr memM)).mem_iff.mp (List.mem_of_mem_take mem.1)), mem.2⟩
    have fewer := (List.subperm_of_subset (List.nodup_cons.mpr ⟨missing, nodup⟩) subset).length_le
    rw [List.length_cons, ← List.countP_eq_length_filter] at fewer
    omega

end ModemStack.Data
