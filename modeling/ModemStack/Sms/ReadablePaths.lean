import Mathlib.Data.List.TakeWhile
import ModemStack.Data.Slots
import ModemStack.Data.StableSort
import ModemStack.Text.NaturalDoubles
import ModemStack.Text.Numeral

/-!
Which paths of a listing are read: the first places of a sort by index.

The index is what follows a mark anywhere in a path, and a bare number has none. A path without
index is level with every other, so that the comparison may be no order, and what the sort then
answers is up to the engine. `keepsNewest_iff` says which listings are cut to the newest readable
paths by every engine.
-/

namespace ModemStack.Sms.ObjectPaths

open ModemStack.Data ModemStack.Text

def smsMark : JsString := js "/org/freedesktop/ModemManager1/SMS/"

/-- `SMS_PATH_RE`: the mark and digits, or digits. -/
def isReadable (path : JsString) : Bool := (numeralAfter smsMark path).isSome || isNumeral path

/-- The capture of `SMS_PATH_INDEX_RE`: the digits after the first mark that has any. -/
def indexDigits : JsString → Option JsString
  | [] => none
  | c :: rest =>
    let digits := ((c :: rest).drop smsMark.length).takeWhile isDigitUnit
    if smsMark.isPrefixOf (c :: rest) = true ∧ digits ≠ [] then some digits
    else indexDigits rest

def smsPathIndex (path : JsString) : Double :=
  match indexDigits path with
  | none => .nan
  | some digits => Double.ofDigits digits

/-- The sign of `smsPathIndex(b) - smsPathIndex(a)`; one that is `NaN` counts as 0. -/
def byIndex (a b : JsString) : Ordering :=
  if (smsPathIndex b).lt (smsPathIndex a) then .lt
  else if (smsPathIndex a).lt (smsPathIndex b) then .gt
  else .eq

variable (sort : (JsString → JsString → Ordering) → List JsString → List JsString)

def selectReadablePaths (paths : List JsString) (cap : Nat) : List JsString :=
  ((sort byIndex paths).take cap).filter isReadable

/-! ### Indices -/

/-- The index of a readable path: its last segment, or the bare number. -/
def pathIndex (path : JsString) : Nat := decimalValue ((numeralAfter smsMark path).getD path)

/-- Every path has an index, and that of `first` is the larger number. -/
def Ahead (paths : List JsString) (first second : JsString) : Prop :=
  (∀ path ∈ paths, (indexDigits path).isSome = true) ∧
    (Double.ofDigits ((indexDigits second).getD [])).lt
      (Double.ofDigits ((indexDigits first).getD [])) = true

instance (paths : List JsString) : DecidableRel (Ahead paths) := fun _ _ =>
  inferInstanceAs (Decidable (_ ∧ _))

theorem weakOrder_ahead (paths : List JsString) : WeakOrder (Ahead paths) where
  irrefl x ahead := by
    rw [Ahead, Double.lt_irrefl] at ahead
    exact Bool.false_ne_true ahead.2
  trans x y z first second := ⟨first.1, Double.lt_trans second.2 first.2⟩
  between x y z ahead := by
    obtain ⟨a, b, atZ, atX, less⟩ := Double.lt_iff.mp ahead.2
    obtain ⟨c, atY⟩ := Double.place_nearest (decimalValue ((indexDigits y).getD []))
    rw [← ofDigits_eq] at atY
    rcases lt_or_ge (toLex c) (toLex b) with below | above
    · exact .inl ⟨ahead.1, Double.lt_iff.mpr ⟨c, b, atY, atX, below⟩⟩
    · exact .inr ⟨ahead.1, Double.lt_iff.mpr ⟨a, c, atZ, atY, less.trans_le above⟩⟩

theorem indexDigits_mark {path digits : JsString} (read : indexDigits path = some digits) :
    0x2F ∈ path := by
  induction path with
  | nil => cases read
  | cons c rest ih =>
    rw [indexDigits] at read
    split at read
    · next matched =>
      obtain ⟨after, same⟩ := List.isPrefixOf_iff_prefix.mp matched.1
      rw [← same]
      exact List.mem_append_left _ (by decide)
    · exact List.mem_cons_of_mem c (ih read)

theorem indexDigits_append {digits : JsString} (numeral : isNumeral digits = true) :
    indexDigits (smsMark ++ digits) = some digits := by
  rw [isNumeral, Bool.and_eq_true, decide_eq_true_eq, List.all_eq_true] at numeral
  have all : digits.takeWhile isDigitUnit = digits := List.takeWhile_eq_self_iff.mpr numeral.2
  cases whole : smsMark ++ digits with
  | nil => exact absurd (List.append_eq_nil_iff.mp whole).2 numeral.1
  | cons =>
    rw [indexDigits, ← whole]
    simp only [List.drop_left, all]
    exact if_pos ⟨List.isPrefixOf_iff_prefix.mpr (List.prefix_append _ _), numeral.1⟩

/-- A readable path that has an index is its mark and the digits of the index. -/
theorem indexDigits_readable {path : JsString} (readable : isReadable path = true)
    (indexed : (indexDigits path).isSome = true) :
    (indexDigits path).getD [] = (numeralAfter smsMark path).getD path := by
  rw [isReadable, Bool.or_eq_true] at readable
  rcases readable with full | bare
  · obtain ⟨digits, captured⟩ := Option.isSome_iff_exists.mp full
    obtain ⟨rfl, numeral⟩ := numeralAfter_eq_some.mp captured
    rw [captured, indexDigits_append numeral, Option.getD_some, Option.getD_some]
  · obtain ⟨digits, isSome⟩ := Option.isSome_iff_exists.mp indexed
    rw [isNumeral, Bool.and_eq_true, List.all_eq_true] at bare
    exact absurd (bare.2 _ (indexDigits_mark isSome)) (by decide)

theorem lt_of_ahead {paths : List JsString} {first second : JsString}
    (ahead : Ahead paths first second) (mem : first ∈ paths) (mem' : second ∈ paths)
    (readable : isReadable first = true) (readable' : isReadable second = true) :
    pathIndex second < pathIndex first := by
  obtain ⟨indexed, less⟩ := ahead
  rw [indexDigits_readable readable (indexed first mem),
    indexDigits_readable readable' (indexed second mem'), ofDigits_eq, ofDigits_eq] at less
  exact Double.lt_of_nearest_lt less

/-! ### The sort -/

section Engine

variable {sort : (JsString → JsString → Ordering) → List JsString → List JsString}
  {paths sorted : List JsString} {cap : Nat}

/-- Where all paths have an index they are compared by it. -/
theorem byIndex_of_indexed (indexed : ∀ path ∈ paths, (indexDigits path).isSome = true)
    {x y : JsString} (memX : x ∈ paths) (memY : y ∈ paths) :
    byIndex x y = if Ahead paths x y then .lt else if Ahead paths y x then .gt else .eq := by
  obtain ⟨digits, isX⟩ := Option.isSome_iff_exists.mp (indexed x memX)
  obtain ⟨digits', isY⟩ := Option.isSome_iff_exists.mp (indexed y memY)
  unfold byIndex smsPathIndex Ahead
  simp only [isX, isY, Option.getD_some, and_iff_right indexed]

theorem byIndex_ne_gt (indexed : ∀ path ∈ paths, (indexDigits path).isSome = true)
    {x y : JsString} (memX : x ∈ paths) (memY : y ∈ paths) :
    byIndex x y ≠ .gt ↔ ¬ Ahead paths y x := by
  rw [byIndex_of_indexed indexed memX memY]
  by_cases first : Ahead paths x y
  · rw [if_pos first]
    exact iff_of_true (by decide) ((weakOrder_ahead paths).asymm first)
  · rw [if_neg first]
    split
    · next second => exact iff_of_false (by decide) (not_not.mpr second)
    · next level => exact iff_of_true (by decide) level

theorem consistent_of_indexed (indexed : ∀ path ∈ paths, (indexDigits path).isSome = true) :
    Consistent byIndex paths := by
  have order := weakOrder_ahead paths
  constructor
  · intro x memX y memY
    rw [byIndex_of_indexed indexed memX memY, byIndex_of_indexed indexed memY memX]
    by_cases first : Ahead paths x y
    · rw [if_neg (order.asymm first), if_pos first, if_pos first]
      rfl
    · rw [if_neg first, if_neg first]
      split <;> rfl
  · intro x memX y memY z memZ first second
    rw [byIndex_ne_gt indexed memX memY] at first
    rw [byIndex_ne_gt indexed memY memZ] at second
    rw [byIndex_ne_gt indexed memX memZ]
    intro ahead
    exact (order.between z y x ahead).elim second first

theorem inOrder_of_sorted (comparable : sorted.Pairwise fun x y => byIndex x y ≠ .gt)
    (perm : sorted.Perm paths) : InOrder (Ahead paths) sorted := by
  refine comparable.imp_of_mem fun {x y} memX memY notAfter ahead => ?_
  exact (byIndex_ne_gt ahead.1 (perm.mem_iff.mp memX) (perm.mem_iff.mp memY)).mp notAfter ahead

/-- However the engine sorts, no path comes before one that is ahead of it. -/
theorem inOrder_sort (sorts : Sorts sort) (perm : sorted.Perm paths) :
    InOrder (Ahead paths) (sort byIndex sorted) := by
  by_cases indexed : ∀ path ∈ sorted, (indexDigits path).isSome = true
  · exact inOrder_of_sorted (sorts.sorted byIndex sorted (consistent_of_indexed indexed))
      ((sorts.perm byIndex sorted).trans perm)
  · refine List.pairwise_of_forall fun x y ahead => indexed fun path mem => ?_
    exact ahead.1 path (perm.mem_iff.mp mem)

/-- A path without index is level with every other. -/
theorem byIndex_missing {path : JsString} (missing : indexDigits path = none) (other : JsString) :
    byIndex other path = .eq ∧ byIndex path other = .eq := by
  have nan : smsPathIndex path = .nan := by rw [smsPathIndex, missing]
  have below (number : Double) : number.lt .nan = false := by cases number <;> rfl
  have above (number : Double) : Double.lt .nan number = false := by cases number <;> rfl
  rw [byIndex, byIndex, nan, above, below]
  exact ⟨rfl, rfl⟩

/-- A list that is in order may be what an engine sorts it to. -/
theorem lazy_of_inOrder (inOrder : InOrder (Ahead paths) sorted) (perm : sorted.Perm paths) :
    (sorted.Pairwise fun x y => byIndex x y ≠ .gt) ∨ ¬ Consistent byIndex sorted := by
  by_cases consistent : Consistent byIndex sorted
  · left
    by_cases indexed : ∀ path ∈ paths, (indexDigits path).isSome = true
    · refine inOrder.imp_of_mem fun {x y} memX memY notAhead => ?_
      exact (byIndex_ne_gt indexed (perm.mem_iff.mp memX) (perm.mem_iff.mp memY)).mpr notAhead
    -- all are level with the one that has no index
    · obtain ⟨path, missing⟩ := not_forall.mp indexed
      obtain ⟨mem, noIndex⟩ := Classical.not_imp.mp missing
      have level := byIndex_missing (Option.not_isSome_iff_eq_none.mp noIndex)
      refine List.pairwise_of_forall_mem_list fun x memX y memY => ?_
      refine consistent.trans x memX path (perm.mem_iff.mpr mem) y memY ?_ ?_
      · rw [(level x).1]
        decide
      · rw [(level y).2]
        decide
  · exact .inr consistent

end Engine

/-! ### The newest readable paths -/

/-- What a listing owes to a cap. -/
structure KeepsNewest (paths : List JsString) (cap : Nat) : Prop where
  readable : ∀ path ∈ selectReadablePaths sort paths cap, path ∈ paths ∧ isReadable path = true
  length : (selectReadablePaths sort paths cap).length = min cap (paths.countP isReadable)
  ordered : (selectReadablePaths sort paths cap).Pairwise fun x y => pathIndex y ≤ pathIndex x
  newest : ∀ kept ∈ selectReadablePaths sort paths cap, ∀ left ∈ paths,
    isReadable left = true → left ∉ selectReadablePaths sort paths cap →
      pathIndex left ≤ pathIndex kept
  orderFree : ∀ other : List JsString, other.Perm paths →
    selectReadablePaths sort other cap = selectReadablePaths sort paths cap

/-- Every engine keeps the newest readable paths, just if they are settled. -/
theorem keepsNewest_iff {paths : List JsString} (distinct : paths.Nodup) (cap : Nat) :
    (∀ sort, Sorts sort → KeepsNewest sort paths cap) ↔
      Settled (Ahead paths) isReadable cap paths := by
  have order := weakOrder_ahead paths
  constructor
  · intro keeps
    obtain ⟨sort, sorts, lazy⟩ := exists_lazySort (α := JsString)
    have newest := keeps sort sorts
    refine settled_of_same order distinct (sorts.perm byIndex paths)
      (inOrder_sort sorts (.refl paths)) (fun sorted perm inOrder => ?_) newest.length
    have same := newest.orderFree sorted perm
    rw [selectReadablePaths, lazy byIndex sorted (lazy_of_inOrder inOrder perm)] at same
    exact same
  · intro settled sort sorts
    have perm := sorts.perm byIndex paths
    have inOrder := inOrder_sort sorts (.refl paths)
    have members {path : JsString} : path ∈ selectReadablePaths sort paths cap ↔
        path ∈ paths ∧ isReadable path = true ∧ surelyAhead (Ahead paths) paths path < cap :=
      mem_firstKept order settled perm distinct inOrder
    refine ⟨fun path mem => ?_, length_firstKept order settled perm distinct inOrder, ?_,
      fun kept mem left listed readable absent => ?_, fun other perm' => ?_⟩
    · exact ⟨(members.mp mem).1, (members.mp mem).2.1⟩
    · refine (pairwise_firstKept order settled perm distinct inOrder).imp_of_mem ?_
      intro x y memX memY ahead
      exact (lt_of_ahead ahead (members.mp memX).1 (members.mp memY).1 (members.mp memX).2.1
        (members.mp memY).2.1).le
    · have ahead := before_of_left order settled perm distinct inOrder mem listed readable absent
      exact (lt_of_ahead ahead (members.mp mem).1 listed (members.mp mem).2.1 readable).le
    · exact firstKept_eq order settled distinct ((sorts.perm byIndex other).trans perm') perm
        (inOrder_sort sorts perm') inOrder

theorem keepsNewest_pair :
    [js "/org/freedesktop/ModemManager1/SMS/2", js "/org/freedesktop/ModemManager1/SMS/10"].Nodup ∧
      ((∀ sort, Sorts sort → KeepsNewest sort
          [js "/org/freedesktop/ModemManager1/SMS/2",
            js "/org/freedesktop/ModemManager1/SMS/10"] 1) ↔
        Settled (Ahead [js "/org/freedesktop/ModemManager1/SMS/2",
            js "/org/freedesktop/ModemManager1/SMS/10"]) isReadable 1
          [js "/org/freedesktop/ModemManager1/SMS/2",
            js "/org/freedesktop/ModemManager1/SMS/10"]) :=
  ⟨by decide, keepsNewest_iff (by decide) 1⟩

/-- A bare number is level with the path of a lower index, and every engine cuts it behind. -/
theorem bareNumber_cut :
    ¬ ∃ sort, Sorts sort ∧
      KeepsNewest sort [js "/org/freedesktop/ModemManager1/SMS/1", js "9"] 1 := by
  rintro ⟨sort, sorts, keeps⟩
  have missing : indexDigits (js "9") = none := by decide
  have same : byIndex (js "/org/freedesktop/ModemManager1/SMS/1")
      (js "/org/freedesktop/ModemManager1/SMS/1") = .eq := by
    rw [byIndex, Double.lt_irrefl]
    rfl
  have level : ∀ x ∈ [js "/org/freedesktop/ModemManager1/SMS/1", js "9"],
      ∀ y ∈ [js "/org/freedesktop/ModemManager1/SMS/1", js "9"], byIndex x y = .eq := by
    simp only [List.forall_mem_cons, (byIndex_missing missing _).1,
      (byIndex_missing missing _).2, same]
    simp
  have answer : selectReadablePaths sort
      [js "/org/freedesktop/ModemManager1/SMS/1", js "9"] 1 =
        [js "/org/freedesktop/ModemManager1/SMS/1"] := by
    rw [selectReadablePaths, sorts.level level]
    decide
  have newest := keeps.newest (js "/org/freedesktop/ModemManager1/SMS/1")
    (answer ▸ List.mem_cons_self) (js "9") (by decide) (by decide) (by rw [answer]; decide)
  exact absurd newest (by decide)

end ModemStack.Sms.ObjectPaths
