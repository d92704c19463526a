import ModemStack.Text.JsString

/-!
Lists of names compared after sorting: the same names, in any order.
-/

namespace ModemStack.Text

/-! ### The order of `sort()` -/

theorem unitsLe_trans {first second third : JsString} (le : unitsLe first second = true)
    (le' : unitsLe second third = true) : unitsLe first third = true := by
  simp only [unitsLe, decide_eq_true_eq] at le le' ⊢
  exact le.trans le'

theorem unitsLe_total (left right : JsString) :
    (unitsLe left right || unitsLe right left) = true := by
  simp only [unitsLe, Bool.or_eq_true, decide_eq_true_eq]
  exact le_total _ _

theorem unitsLe_antisymm {left right : JsString} (le : unitsLe left right = true)
    (ge : unitsLe right left = true) : left = right := by
  simp only [unitsLe, decide_eq_true_eq] at le ge
  have injective : Function.Injective UInt16.toNat := fun _ _ same => UInt16.toNat_inj.mp same
  exact List.map_injective_iff.mpr injective (le_antisymm le ge)

/-! ### Comparing sorted lists -/

/-- `left.length === right.length && left.sort().every((name, i) => name === right.sort()[i])`. -/
def sameNames (left right : List JsString) : Bool :=
  left.length = right.length &&
    ((left.mergeSort unitsLe).zip (right.mergeSort unitsLe)).all fun pair => pair.1 = pair.2

theorem zip_all_same {α : Type} [DecidableEq α] :
    ∀ {left right : List α}, left.length = right.length →
      ((left.zip right).all (fun pair => pair.1 = pair.2) = true ↔ left = right)
  | [], [], _ => by simp
  | first :: left, second :: right, sameLength => by
    have sameTail : left.length = right.length := by simpa using sameLength
    have ih := zip_all_same sameTail
    rw [List.zip_cons_cons, List.all_cons, Bool.and_eq_true, ih, List.cons.injEq]
    simp

theorem sorted_eq_iff {left right : List JsString} :
    left.mergeSort unitsLe = right.mergeSort unitsLe ↔ left.Perm right := by
  constructor
  · intro same
    have sorted := List.mergeSort_perm left unitsLe
    rw [same] at sorted
    exact sorted.symm.trans (List.mergeSort_perm right unitsLe)
  · intro permuted
    have ordered (names : List JsString) :
        (names.mergeSort unitsLe).Pairwise fun left right => unitsLe left right = true := by
      apply List.pairwise_mergeSort
      · intro first second third le le'
        exact unitsLe_trans le le'
      · exact unitsLe_total
    apply List.Perm.eq_of_pairwise ?_ (ordered left) (ordered right) ?_
    · intro first second _ _ le ge
      exact unitsLe_antisymm le ge
    · exact (List.mergeSort_perm left unitsLe).trans
        (permuted.trans (List.mergeSort_perm right unitsLe).symm)

/-- The same names are the same in some order, each as often. -/
theorem sameNames_iff {left right : List JsString} :
    sameNames left right = true ↔ left.Perm right := by
  rw [sameNames, Bool.and_eq_true, decide_eq_true_eq, ← sorted_eq_iff]
  constructor
  · rintro ⟨sameLength, agree⟩
    exact (zip_all_same (by simpa using sameLength)).mp agree
  · intro same
    have sameLength : left.length = right.length := (sorted_eq_iff.mp same).length_eq
    exact ⟨sameLength, (zip_all_same (by simpa using sameLength)).mpr same⟩

end ModemStack.Text
