import ModemStack.Data.Ranking
import ModemStack.Text.DoubleSum
import ModemStack.Text.SortedNames
import ModemStack.Usage.Persistence

/-!
The order of cell readings, and the serving cell that is selected by it.
-/

namespace ModemStack.Backend

open ModemStack.Text ModemStack.Data
open ModemStack.Usage (numberJson)

structure CellReading where
  serving : Bool
  cellId : Option JsString
  tac : Option JsString
  pci : Option Double
  rsrp : Option Double
  rsrq : Option Double
  sinr : Option Double
  band : Option JsString
  source : JsString
  observedAt : Double
  onGrid : ∀ x, rsrp = some x → x.OnGrid

namespace CellInfo

/-- Higher value first; what is missing comes last. -/
def compareOptionalDesc : Option Double → Option Double → Double
  | none, none => .finite 0
  | none, some _ => .finite 1
  | some _, none => .finite (-1)
  | some a, some b => if a.same b then .finite 0 else b.sub a

/-- Lower value first; what is missing comes last. -/
def compareOptionalAsc {τ : Type} (same less : τ → τ → Bool) : Option τ → Option τ → Double
  | none, none => .finite 0
  | none, some _ => .finite 1
  | some _, none => .finite (-1)
  | some a, some b => if same a b then .finite 0 else if less a b then .finite (-1) else .finite 1

/-- `left < right` of strings. -/
def unitsLt (left right : JsString) : Bool := !unitsLe right left

def tagText (text : Option JsString) : Json Double := text.elim .null .string

def tagNumber (number : Option Double) : Json Double := number.elim .null numberJson

def stableTag (reading : CellReading) : JsString :=
  stringify Double.text (.array [.bool reading.serving, tagText reading.cellId,
    tagText reading.tac, tagNumber reading.pci, tagNumber reading.rsrp, tagNumber reading.rsrq,
    tagNumber reading.sinr, tagText reading.band])

def compareServing (a b : CellReading) : Double :=
  if a.serving ≠ b.serving then (if a.serving then .finite (-1) else .finite 1)
  else
    let rsrpRank := compareOptionalDesc a.rsrp b.rsrp
    if !rsrpRank.same (.finite 0) then rsrpRank
    else
      let cellRank := compareOptionalAsc (fun a b => a = b) unitsLt a.cellId b.cellId
      if !cellRank.same (.finite 0) then cellRank
      else
        let pciRank := compareOptionalAsc Double.same Double.lt a.pci b.pci
        if !pciRank.same (.finite 0) then pciRank
        else if unitsLt (stableTag a) (stableTag b) then .finite (-1)
        else if unitsLt (stableTag b) (stableTag a) then .finite 1
        else .finite 0

/-- `cells.reduce(...)`. -/
def selectServingCell : List CellReading → Option CellReading
  | [] => none
  | first :: rest => some (rest.foldl
      (fun best cell => if (compareServing cell best).lt (.finite 0) then cell else best) first)

/-! ### The stages of the order -/

theorem unitsLt_iff {left right : JsString} :
    unitsLt left right = true ↔ left.map UInt16.toNat < right.map UInt16.toNat := by
  simp [unitsLt, unitsLe]

theorem unitsLt_trichotomy (left right : JsString) :
    unitsLt left right = true ∨ left = right ∨ unitsLt right left = true := by
  cases le : unitsLe right left with
  | false => exact .inl (by rw [unitsLt, le]; rfl)
  | true =>
    cases ge : unitsLe left right with
    | false => exact .inr (.inr (by rw [unitsLt, ge]; rfl))
    | true => exact .inr (.inl (unitsLe_antisymm ge le))

theorem same_iff {x y : Double} : x.same y = true ↔ ∃ a, x.place = some a ∧ y.place = some a := by
  unfold Double.same
  split
  · next a b atX atY =>
    rw [decide_eq_true_eq]
    constructor
    · rintro rfl
      exact ⟨a, atX, atY⟩
    · rintro ⟨c, atX', atY'⟩
      exact Option.some.inj (atX.symm.trans (atX'.trans (atY'.symm.trans atY)))
  · next notBoth =>
    constructor
    · intro same
      cases same
    · rintro ⟨a, atX, atY⟩
      exact absurd atY (notBoth a a atX)

theorem place_of_same {x y : Double} (same : x.same y = true) : x.place = y.place := by
  obtain ⟨a, atX, atY⟩ := same_iff.mp same
  exact atX.trans atY.symm

/-- Numbers that are none but `NaN` are in order. -/
theorem double_trichotomy {x y : Double} (isX : x ≠ .nan) (isY : y ≠ .nan) :
    x.lt y = true ∨ x.same y = true ∨ y.lt x = true := by
  have placed {z : Double} (isNumber : z ≠ .nan) : ∃ a, z.place = some a := by
    cases z with
    | nan => exact absurd rfl isNumber
    | _ => exact ⟨_, rfl⟩
  obtain ⟨a, atX⟩ := placed isX
  obtain ⟨b, atY⟩ := placed isY
  rcases lt_trichotomy (toLex a) (toLex b) with below | equal | above
  · exact .inl (Double.lt_iff.mpr ⟨a, b, atX, atY, below⟩)
  · right
    left
    simp only [Double.same, atX, atY, decide_eq_true_eq]
    exact toLex.injective equal
  · exact .inr (.inr (Double.lt_iff.mpr ⟨b, a, atY, atX, above⟩))

def marks : Ranking Bool where
  below a b := a = true ∧ b = false
  same a b := a = b
  irrefl a := by simp
  trans := by rintro _ _ _ ⟨rfl, -⟩ ⟨-, rfl⟩; exact ⟨rfl, rfl⟩
  below_same := by rintro _ _ _ below rfl; exact below
  same_below := by rintro _ _ _ rfl below; exact below
  same_trans := Eq.trans
  same_symm := Eq.symm

def lowest : Ranking Double where
  below x y := x.lt y = true
  same x y := x.same y = true
  irrefl x := by simp [Double.lt_irrefl]
  trans := Double.lt_trans
  below_same := by
    intro x y z below same
    rwa [Double.lt, ← place_of_same same]
  same_below := by
    intro x y z same below
    rwa [Double.lt, place_of_same same]
  same_trans := by
    intro x y z same same'
    rwa [Double.same, place_of_same same]
  same_symm := by
    intro x y same
    obtain ⟨a, atX, atY⟩ := same_iff.mp same
    exact same_iff.mpr ⟨a, atY, atX⟩

def strongest : Ranking Double where
  below x y := lowest.below y x
  same := lowest.same
  irrefl := lowest.irrefl
  trans first second := lowest.trans second first
  below_same below same := lowest.same_below (lowest.same_symm same) below
  same_below same below := lowest.below_same below (lowest.same_symm same)
  same_trans := lowest.same_trans
  same_symm := lowest.same_symm

def texts : Ranking JsString where
  below left right := unitsLt left right = true
  same left right := left = right
  irrefl text := by simp [unitsLt_iff]
  trans first second := unitsLt_iff.mpr ((unitsLt_iff.mp first).trans (unitsLt_iff.mp second))
  below_same := by rintro _ _ _ below rfl; exact below
  same_below := by rintro _ _ _ rfl below; exact below
  same_trans := Eq.trans
  same_symm := Eq.symm

/-- The order by stages: the mark, the strength, the two ids, and what tells readings apart. -/
def serving : Ranking CellReading :=
  (marks.comap CellReading.serving).next
    ((strongest.option.comap CellReading.rsrp).next
      ((texts.option.comap CellReading.cellId).next
        ((lowest.option.comap CellReading.pci).next (texts.comap stableTag))))

/-- What the sign of a rank says of two elements. -/
structure Ranks {α : Type} (rank : Double) (ranking : Ranking α) (a b : α) : Prop where
  less : rank.lt (.finite 0) = true ↔ ranking.below a b
  tied : rank.same (.finite 0) = true ↔ ranking.same a b

theorem Ranks.comap {α β : Type} {rank : Double} {ranking : Ranking β} {a b : α} (field : α → β)
    (ranks : Ranks rank ranking (field a) (field b)) : Ranks rank (ranking.comap field) a b :=
  ⟨ranks.less, ranks.tied⟩

/-- A rank is above zero for what is behind. -/
def Mirrors {α : Type} (rank : Double) (ranking : Ranking α) (a b : α) : Prop :=
  (Double.finite 0).lt rank = true ↔ ranking.below b a

section Stages

variable {α : Type} {first second : Ranking α} {a b : α} {rank rest : Double}

theorem lt_zero_of_same {x : Double} (same : x.same (.finite 0) = true) :
    x.lt (.finite 0) = false ∧ (Double.finite 0).lt x = false := by
  have place := place_of_same same
  constructor
  · rw [Double.lt, place]
    exact Double.lt_irrefl (.finite 0)
  · rw [Double.lt, place]
    exact Double.lt_irrefl (.finite 0)

/-- A stage that is not tied decides. -/
theorem Ranks.next (ranks : Ranks rank first a b) (ranks' : Ranks rest second a b) :
    Ranks (if !rank.same (.finite 0) then rank else rest) (first.next second) a b := by
  by_cases tied : rank.same (.finite 0) = true
  · have same := ranks.tied.mp tied
    have notBelow : ¬ first.below a b := by
      rw [← ranks.less, (lt_zero_of_same tied).1]
      exact Bool.false_ne_true
    simp only [tied, Bool.not_true, Bool.false_eq_true, if_false]
    constructor
    · rw [ranks'.less]
      exact ⟨fun below => .inr ⟨same, below⟩, fun either => either.elim
        (fun below => absurd below notBelow) And.right⟩
    · rw [ranks'.tied]
      exact ⟨fun tie => ⟨same, tie⟩, And.right⟩
  · have notSame : ¬ first.same a b := fun same => tied (ranks.tied.mpr same)
    simp only [tied, Bool.not_false, if_true]
    constructor
    · rw [ranks.less]
      exact ⟨.inl, fun either => either.elim id fun tie => absurd tie.1 notSame⟩
    · exact ⟨fun same => absurd same tied, fun tie => absurd tie.1 notSame⟩

theorem Mirrors.next (ranks : Ranks rank first a b) (mirrors : Mirrors rank first a b)
    (mirrors' : first.same a b → Mirrors rest second a b) :
    Mirrors (if !rank.same (.finite 0) then rank else rest) (first.next second) a b := by
  unfold Mirrors at mirrors ⊢
  by_cases tied : rank.same (.finite 0) = true
  · have same := ranks.tied.mp tied
    have notBelow : ¬ first.below b a := by
      rw [← mirrors, (lt_zero_of_same tied).2]
      exact Bool.false_ne_true
    simp only [tied, Bool.not_true, Bool.false_eq_true, if_false]
    have behind : (Double.finite 0).lt rest = true ↔ second.below b a := mirrors' same
    rw [behind]
    exact ⟨fun below => .inr ⟨first.same_symm same, below⟩, fun either => either.elim
      (fun below => absurd below notBelow) And.right⟩
  · have notSame : ¬ first.same b a := fun same => tied (ranks.tied.mpr (first.same_symm same))
    simp only [tied, Bool.not_false, if_true]
    rw [mirrors]
    exact ⟨.inl, fun either => either.elim id fun tie => absurd tie.1 notSame⟩

theorem ranks_below {ranking : Ranking α} (below : ranking.below a b) :
    Ranks (.finite (-1)) ranking a b ∧ Mirrors (.finite (-1)) ranking a b := by
  have notSame : ¬ ranking.same a b := fun same =>
    ranking.irrefl b (ranking.same_below (ranking.same_symm same) below)
  have notAbove : ¬ ranking.below b a := fun above => ranking.irrefl a (ranking.trans below above)
  have signs : (Double.finite (-1)).same (.finite 0) = false ∧
      (Double.finite 0).lt (.finite (-1)) = false := by decide
  refine ⟨⟨iff_of_true rfl below, ?_⟩, ?_⟩
  · rw [signs.1]
    exact iff_of_false Bool.false_ne_true notSame
  · rw [Mirrors, signs.2]
    exact iff_of_false Bool.false_ne_true notAbove

theorem ranks_same {ranking : Ranking α} (same : ranking.same a b) :
    Ranks (.finite 0) ranking a b ∧ Mirrors (.finite 0) ranking a b := by
  have notBelow : ¬ ranking.below a b := fun below =>
    ranking.irrefl b (ranking.same_below (ranking.same_symm same) below)
  have notAbove : ¬ ranking.below b a := fun above =>
    ranking.irrefl a (ranking.same_below same above)
  have sign : (Double.finite 0).lt (.finite 0) = false := Double.lt_irrefl _
  refine ⟨⟨?_, iff_of_true rfl same⟩, ?_⟩
  · rw [sign]
    exact iff_of_false Bool.false_ne_true notBelow
  · rw [Mirrors, sign]
    exact iff_of_false Bool.false_ne_true notAbove

/-- A rank above zero, also of what is not decided. -/
theorem ranks_neither {ranking : Ranking α} (notBelow : ¬ ranking.below a b)
    (notSame : ¬ ranking.same a b) : Ranks (.finite 1) ranking a b ∧
      (ranking.Decides a b → Mirrors (.finite 1) ranking a b) := by
  have signs : (Double.finite 1).same (.finite 0) = false ∧
      (Double.finite 1).lt (.finite 0) = false := by decide
  refine ⟨⟨?_, ?_⟩, fun decides => iff_of_true rfl ?_⟩
  · rw [signs.2]
    exact iff_of_false Bool.false_ne_true notBelow
  · rw [signs.1]
    exact iff_of_false Bool.false_ne_true notSame
  · exact (Ranking.below_iff decides).mpr ⟨notBelow, notSame⟩

end Stages

/-! ### The rank of each stage -/

theorem ranks_desc {a b : Option Double} (gridA : ∀ x, a = some x → x.OnGrid)
    (gridB : ∀ x, b = some x → x.OnGrid) :
    Ranks (compareOptionalDesc a b) strongest.option a b ∧
      Mirrors (compareOptionalDesc a b) strongest.option a b := by
  match a, b with
  | none, none => exact ranks_same trivial
  | some x, none => exact ranks_below trivial
  | none, some y =>
    have neither := @ranks_neither _ none (some y) strongest.option id id
    exact ⟨neither.1, neither.2 (.inr (.inr trivial))⟩
  | some x, some y =>
    rw [compareOptionalDesc]
    by_cases same : x.same y = true
    · rw [if_pos same]
      exact ranks_same same
    · rw [if_neg same]
      obtain ⟨less, greater⟩ := Double.sub_sign (gridB y rfl) (gridA x rfl)
      refine ⟨⟨by rw [less]; rfl, ?_⟩, by rw [Mirrors, greater]; rfl⟩
      refine iff_of_false (fun zero => same ?_) same
      obtain ⟨notAbove, notBelow⟩ := lt_zero_of_same zero
      rw [less] at notAbove
      rw [greater] at notBelow
      have isX : x ≠ .nan := by
        rintro rfl
        cases y <;> cases zero
      have isY : y ≠ .nan := by
        rintro rfl
        cases zero
      rcases double_trichotomy isX isY with below | tied | above
      · exact absurd below (by simp [notBelow])
      · exact tied
      · exact absurd above (by simp [notAbove])

/-- The stage decides if it can tell the two values apart. -/
theorem ranks_asc {τ : Type} {ranking : Ranking τ} {same less : τ → τ → Bool}
    (isSame : ∀ x y, same x y = true ↔ ranking.same x y)
    (isLess : ∀ x y, less x y = true ↔ ranking.below x y) (a b : Option τ) :
    Ranks (compareOptionalAsc same less a b) ranking.option a b ∧
      (ranking.option.Decides a b →
        Mirrors (compareOptionalAsc same less a b) ranking.option a b) := by
  match a, b with
  | none, none =>
    obtain ⟨ranks, mirrors⟩ := @ranks_same _ none none ranking.option trivial
    exact ⟨ranks, fun _ => mirrors⟩
  | some x, none =>
    obtain ⟨ranks, mirrors⟩ := @ranks_below _ (some x) none ranking.option trivial
    exact ⟨ranks, fun _ => mirrors⟩
  | none, some y => exact @ranks_neither _ none (some y) ranking.option id id
  | some x, some y =>
    rw [compareOptionalAsc]
    by_cases tied : same x y = true
    · obtain ⟨ranks, mirrors⟩ :=
        @ranks_same _ (some x) (some y) ranking.option ((isSame x y).mp tied)
      rw [if_pos tied]
      exact ⟨ranks, fun _ => mirrors⟩
    · rw [if_neg tied]
      by_cases below : less x y = true
      · obtain ⟨ranks, mirrors⟩ :=
          @ranks_below _ (some x) (some y) ranking.option ((isLess x y).mp below)
        rw [if_pos below]
        exact ⟨ranks, fun _ => mirrors⟩
      · rw [if_neg below]
        exact ranks_neither (fun first => below ((isLess x y).mpr first))
          fun tie => tied ((isSame x y).mpr tie)

theorem ranks_tag (a b : CellReading) :
    Ranks (if unitsLt (stableTag a) (stableTag b) then .finite (-1)
      else if unitsLt (stableTag b) (stableTag a) then .finite 1 else .finite 0)
      (texts.comap stableTag) a b ∧
    Mirrors (if unitsLt (stableTag a) (stableTag b) then .finite (-1)
      else if unitsLt (stableTag b) (stableTag a) then .finite 1 else .finite 0)
      (texts.comap stableTag) a b := by
  have decides : (texts.comap stableTag).Decides a b :=
    unitsLt_trichotomy (stableTag a) (stableTag b)
  by_cases below : unitsLt (stableTag a) (stableTag b) = true
  · rw [if_pos below]
    exact ranks_below below
  · rw [if_neg below]
    by_cases above : unitsLt (stableTag b) (stableTag a) = true
    · have notSame : ¬ (texts.comap stableTag).same a b := ((Ranking.below_iff decides).mp above).2
      obtain ⟨ranks, mirrors⟩ := @ranks_neither _ a b (texts.comap stableTag) below notSame
      rw [if_pos above]
      exact ⟨ranks, mirrors decides⟩
    · rw [if_neg above]
      rcases decides with first | same | first
      · exact absurd first below
      · exact ranks_same same
      · exact absurd first above

theorem decides_text (a b : Option JsString) : texts.option.Decides a b := by
  match a, b with
  | none, none => exact .inr (.inl trivial)
  | some x, none => exact .inl trivial
  | none, some y => exact .inr (.inr trivial)
  | some x, some y => exact unitsLt_trichotomy x y

/-- A reading that has a strength to compare has a number as its physical cell id. -/
def Numbered (x : CellReading) : Prop := x.rsrp ≠ some .nan → x.pci ≠ some .nan

theorem decides_pci {a b : CellReading} (numberedA : Numbered a) (numberedB : Numbered b)
    (tied : strongest.option.same a.rsrp b.rsrp) : lowest.option.Decides a.pci b.pci := by
  have strengths : a.rsrp ≠ some .nan ∧ b.rsrp ≠ some .nan := by
    generalize a.rsrp = x at tied
    generalize b.rsrp = y at tied
    constructor
    · rintro rfl
      cases y with
      | none => exact tied
      | some y => cases y <;> cases tied
    · rintro rfl
      cases x with
      | none => exact tied
      | some x => cases x <;> cases tied
  have isA := numberedA strengths.1
  have isB := numberedB strengths.2
  generalize a.pci = x at isA
  generalize b.pci = y at isB
  match x, y with
  | none, none => exact .inr (.inl trivial)
  | some x, none => exact .inl trivial
  | none, some y => exact .inr (.inr trivial)
  | some x, some y =>
    exact double_trichotomy (fun isNan => isA (congrArg some isNan))
      fun isNan => isB (congrArg some isNan)

/-- Behind equal marks the later stages rank. -/
theorem under_mark {rest : Double} {later : Ranking CellReading} {a b : CellReading}
    (same : a.serving = b.serving) :
    (Ranks rest later a b → Ranks rest ((marks.comap CellReading.serving).next later) a b) ∧
      (Mirrors rest later a b →
        Mirrors rest ((marks.comap CellReading.serving).next later) a b) := by
  have notBelow {c d : CellReading} (equal : c.serving = d.serving) :
      ¬ (marks.comap CellReading.serving).below c d := by
    rintro ⟨marked, plain⟩
    rw [equal, plain] at marked
    cases marked
  constructor
  · rintro ⟨less, tied⟩
    constructor
    · rw [less]
      exact ⟨fun below => .inr ⟨same, below⟩, fun either => either.elim
        (fun below => absurd below (notBelow same)) And.right⟩
    · rw [tied]
      exact ⟨fun tie => ⟨same, tie⟩, And.right⟩
  · intro mirrors
    constructor
    · exact fun above => .inr ⟨same.symm, mirrors.mp above⟩
    · exact fun either => either.elim (fun below => absurd below (notBelow same.symm))
        fun tie => mirrors.mpr tie.2

/-- What `compareServing` answers is the order by stages. -/
theorem ranks_serving (a b : CellReading) : Ranks (compareServing a b) serving a b ∧
    (Numbered a → Numbered b → Mirrors (compareServing a b) serving a b) := by
  unfold compareServing
  by_cases marked : a.serving = b.serving
  · have isText (x y : JsString) : decide (x = y) = true ↔ texts.same x y := decide_eq_true_iff
    have textBelow (x y : JsString) : unitsLt x y = true ↔ texts.below x y := Iff.rfl
    have isNumber (x y : Double) : x.same y = true ↔ lowest.same x y := Iff.rfl
    have numberBelow (x y : Double) : x.lt y = true ↔ lowest.below x y := Iff.rfl
    obtain ⟨strengths, strengths'⟩ := ranks_desc a.onGrid b.onGrid
    obtain ⟨cells, cells'⟩ := ranks_asc isText textBelow a.cellId b.cellId
    obtain ⟨ids, ids'⟩ := ranks_asc isNumber numberBelow a.pci b.pci
    obtain ⟨tags, tags'⟩ := ranks_tag a b
    rw [if_neg (not_not.mpr marked)]
    constructor
    · apply (under_mark marked).1
      apply Ranks.next (strengths.comap CellReading.rsrp)
      apply Ranks.next (cells.comap CellReading.cellId)
      exact Ranks.next (ids.comap CellReading.pci) tags
    · intro numberedA numberedB
      apply (under_mark marked).2
      apply Mirrors.next (strengths.comap CellReading.rsrp) strengths'
      intro tied
      apply Mirrors.next (cells.comap CellReading.cellId) (cells' (decides_text _ _))
      intro _
      exact Mirrors.next (ids.comap CellReading.pci)
        (ids' (decides_pci numberedA numberedB tied)) fun _ => tags'
  · rw [if_pos marked]
    cases isMarked : a.serving with
    | true =>
      have plain : b.serving = false := by
        cases other : b.serving with
        | false => rfl
        | true => exact absurd (isMarked.trans other.symm) marked
      have below : serving.below a b := .inl ⟨isMarked, plain⟩
      exact ⟨(ranks_below below).1, fun _ _ => (ranks_below below).2⟩
    | false =>
      have other : b.serving = true := by
        cases other : b.serving with
        | false => exact absurd (isMarked.trans other.symm) marked
        | true => rfl
      have above : serving.below b a := .inl ⟨other, isMarked⟩
      obtain ⟨notBelow, notSame⟩ := (Ranking.below_iff (.inr (.inr above))).mp above
      obtain ⟨ranks, mirrors⟩ := ranks_neither notBelow notSame
      exact ⟨ranks, fun _ _ => mirrors (.inr (.inr above))⟩

/-! ### The selected reading -/

instance : DecidableRel serving.below := fun a b =>
  decidable_of_iff _ (ranks_serving a b).1.less

theorem selectServingCell_cons (first : CellReading) (rest : List CellReading) :
    selectServingCell (first :: rest) = some (serving.select first rest) := by
  have replaces : (fun best cell =>
      if (compareServing cell best).lt (.finite 0) then cell else best) =
      fun best cell => if serving.below cell best then cell else best := by
    funext best cell
    by_cases below : serving.below cell best
    · rw [if_pos below, if_pos ((ranks_serving cell best).1.less.mpr below)]
    · rw [if_neg below, if_neg fun less => below ((ranks_serving cell best).1.less.mp less)]
  rw [selectServingCell, replaces, Ranking.select]

/-- No reading is in front of this one. -/
def Unbeaten (cells : List CellReading) (x : CellReading) : Prop :=
  x ∈ cells ∧ ∀ y ∈ cells, ¬ serving.below y x

variable {cells : List CellReading} {x : CellReading}

theorem unbeaten_of_select {w : CellReading} (selects : selectServingCell cells = some w) :
    Unbeaten cells w := by
  cases cells with
  | nil => cases selects
  | cons first rest =>
    rw [selectServingCell_cons] at selects
    obtain rfl := Option.some.inj selects
    exact (serving.select_first first rest).2

theorem perm_cons_of_mem (mem : x ∈ cells) : ∃ rest, (x :: rest).Perm cells := by
  obtain ⟨before, after, rfl⟩ := List.append_of_mem mem
  exact ⟨before ++ after, List.perm_middle.symm⟩

/-- Every unbeaten reading is selected in some order of the list. -/
theorem select_of_unbeaten (unbeaten : Unbeaten cells x) :
    ∃ cells' : List CellReading, cells'.Perm cells ∧ selectServingCell cells' = some x := by
  obtain ⟨rest, perm⟩ := perm_cons_of_mem unbeaten.1
  refine ⟨x :: rest, perm, ?_⟩
  rw [selectServingCell_cons, serving.select_of_unbeaten]
  intro y mem
  exact unbeaten.2 y (perm.subset (List.mem_cons_of_mem _ mem))

/-- A reading is unbeaten, or behind an unbeaten one. -/
theorem unbeaten_above (mem : x ∈ cells) : ∃ z, Unbeaten cells z ∧ (z = x ∨ serving.below z x) := by
  obtain ⟨rest, perm⟩ := perm_cons_of_mem mem
  obtain ⟨reached, isOne, unbeaten⟩ := serving.select_first x rest
  exact ⟨_, ⟨perm.subset isOne, fun y isReading => unbeaten y (perm.symm.subset isReading)⟩,
    reached⟩

/-! ### Readings that are not told apart -/

/-- The numbers are equal, or neither is there, or both are `NaN`. -/
def SameNumber (a b : Option Double) : Prop :=
  a = b ∨ ∃ x y, a = some x ∧ b = some y ∧ x.same y = true

structure Agrees (a b : CellReading) : Prop where
  serving : a.serving = b.serving
  cellId : a.cellId = b.cellId
  tac : a.tac = b.tac
  pci : SameNumber a.pci b.pci
  rsrp : SameNumber a.rsrp b.rsrp

theorem sameNumber_of_same {a b : Option Double} (same : lowest.option.same a b) :
    SameNumber a b := by
  match a, b with
  | none, none => exact .inl rfl
  | some x, some y => exact .inr ⟨x, y, rfl, rfl, same⟩
  | none, some y => exact absurd same id
  | some x, none => exact absurd same id

theorem eq_of_same {a b : Option JsString} (same : texts.option.same a b) : a = b := by
  match a, b with
  | none, none => rfl
  | some x, some y => exact congrArg some same
  | none, some y => exact absurd same id
  | some x, none => exact absurd same id

/-- The tag tells the area codes apart. -/
theorem tac_of_tag {a b : CellReading} (serving : a.serving = b.serving)
    (cellId : a.cellId = b.cellId) (tag : stableTag a = stableTag b) : a.tac = b.tac := by
  simp only [stableTag, stringify, stringifyItems, serving, cellId, List.cons.injEq, true_and,
    List.append_cancel_left_eq] at tag
  generalize a.tac = x at tag ⊢
  generalize b.tac = y at tag ⊢
  match x, y with
  | none, none => rfl
  | some x, some y => exact congrArg some (quote_append_inj tag)
  | none, some y => cases (List.cons.inj tag).1
  | some x, none => cases (List.cons.inj tag).1

/-! ### When the order is total -/

/-- The comparison orders the readings, and their order in the list does not matter for the
one that is selected. -/
structure Ordered (cells : List CellReading) : Prop where
  antisymmetric : ∀ a ∈ cells, ∀ b ∈ cells,
    (compareServing a b).lt (.finite 0) = (Double.finite 0).lt (compareServing b a)
  transitive : ∀ a ∈ cells, ∀ b ∈ cells, ∀ c ∈ cells,
    (compareServing a b).lt (.finite 0) = true → (compareServing b c).lt (.finite 0) = true →
      (compareServing a c).lt (.finite 0) = true
  ties : ∀ a ∈ cells, ∀ b ∈ cells, ∀ c ∈ cells,
    (compareServing a b).le (.finite 0) = true → (compareServing b c).le (.finite 0) = true →
      (compareServing a c).le (.finite 0) = true
  selected : ∀ cells₁ cells₂ : List CellReading, cells₁.Perm cells → cells₂.Perm cells →
    Option.Rel Agrees (selectServingCell cells₁) (selectServingCell cells₂)
  marked : ∀ w, selectServingCell cells = some w → (∃ x ∈ cells, x.serving = true) →
    w.serving = true
  largest : ∀ w, selectServingCell cells = some w → ∀ x ∈ cells, x.serving = w.serving →
    ∀ r, x.rsrp = some r → ∃ s, w.rsrp = some s ∧ s.lt r = false

/-- The readings whose mark the selected one has. -/
def BestMark (cells : List CellReading) (x : CellReading) : Prop :=
  x.serving = true ∨ ∀ z ∈ cells, z.serving = false

/-- No `NaN` stands where the order would have to compare it: none as the physical cell id
of a reading whose strength is compared, and none as a strength of the best mark beside another
strength or another cell. -/
structure Comparable (cells : List CellReading) : Prop where
  numbered : ∀ x ∈ cells, Numbered x
  measured : ∀ x ∈ cells, BestMark cells x → x.rsrp = some .nan →
    ∀ y ∈ cells, y.serving = x.serving → y.rsrp = none ∨ y.rsrp = some .nan ∧
      y.cellId = x.cellId ∧ y.tac = x.tac ∧ SameNumber y.pci x.pci

theorem serving_eq_of_unbeaten {x y : CellReading} (unbeatenX : Unbeaten cells x)
    (unbeatenY : Unbeaten cells y) : x.serving = y.serving := by
  cases isX : x.serving with
  | true =>
    cases isY : y.serving with
    | true => rfl
    | false => exact absurd (.inl ⟨isX, isY⟩) (unbeatenY.2 x unbeatenX.1)
  | false =>
    cases isY : y.serving with
    | true => exact absurd (.inl ⟨isY, isX⟩) (unbeatenX.2 y unbeatenY.1)
    | false => rfl

theorem bestMark_of_unbeaten (unbeaten : Unbeaten cells x) : BestMark cells x := by
  cases isX : x.serving with
  | true => exact .inl isX
  | false =>
    right
    intro z mem
    cases isZ : z.serving with
    | false => rfl
    | true => exact absurd (.inl ⟨isZ, isX⟩) (unbeaten.2 z mem)

theorem SameNumber.symm {a b : Option Double} (same : SameNumber a b) : SameNumber b a := by
  rcases same with rfl | ⟨x, y, rfl, rfl, same⟩
  · exact .inl rfl
  · exact .inr ⟨y, x, rfl, rfl, lowest.same_symm same⟩

/-- Beside an unbeaten reading whose strength is `NaN` every unbeaten reading is like it. -/
theorem agrees_of_nan (comparable : Comparable cells) {x y : CellReading}
    (unbeatenX : Unbeaten cells x) (unbeatenY : Unbeaten cells y) (isNan : x.rsrp = some .nan) :
    Agrees y x := by
  have mark := serving_eq_of_unbeaten unbeatenY unbeatenX
  rcases comparable.measured x unbeatenX.1 (bestMark_of_unbeaten unbeatenX) isNan y unbeatenY.1
    mark with missing | ⟨nan, cellId, tac, pci⟩
  · have below : serving.below x y := by
      right
      refine ⟨mark.symm, .inl ?_⟩
      show strongest.option.below x.rsrp y.rsrp
      rw [isNan, missing]
      trivial
    exact absurd below (unbeatenY.2 x unbeatenX.1)
  · exact ⟨mark, cellId, tac, pci, .inl (nan.trans isNan.symm)⟩

theorem decides_rsrp {a b : Option Double} (isA : a ≠ some .nan) (isB : b ≠ some .nan) :
    strongest.option.Decides a b := by
  match a, b with
  | none, none => exact .inr (.inl trivial)
  | some x, none => exact .inl trivial
  | none, some y => exact .inr (.inr trivial)
  | some x, some y =>
    rcases double_trichotomy (fun nan => isA (congrArg some nan))
      (fun nan => isB (congrArg some nan)) with below | same | above
    · exact .inr (.inr below)
    · exact .inr (.inl same)
    · exact .inl above

/-- A stage that ties what precedes it leaves unbeaten readings tied. -/
theorem tied_of_decides {α : Type} {ranking : Ranking α} {a b : α} (decides : ranking.Decides a b)
    (notBelow : ¬ ranking.below a b) (notAbove : ¬ ranking.below b a) : ranking.same a b := by
  rcases decides with below | same | above
  · exact absurd below notBelow
  · exact same
  · exact absurd above notAbove

theorem agrees_of_unbeaten (comparable : Comparable cells) {x y : CellReading}
    (unbeatenX : Unbeaten cells x) (unbeatenY : Unbeaten cells y) : Agrees x y := by
  by_cases nanY : y.rsrp = some .nan
  · exact agrees_of_nan comparable unbeatenY unbeatenX nanY
  by_cases nanX : x.rsrp = some .nan
  · obtain ⟨mark, cellId, tac, pci, rsrp⟩ := agrees_of_nan comparable unbeatenX unbeatenY nanX
    exact ⟨mark.symm, cellId.symm, tac.symm, pci.symm, rsrp.symm⟩
  have mark := serving_eq_of_unbeaten unbeatenX unbeatenY
  have notBelow := unbeatenY.2 x unbeatenX.1
  have notAbove := unbeatenX.2 y unbeatenY.1
  have rsrp : strongest.option.same x.rsrp y.rsrp :=
    tied_of_decides (decides_rsrp nanX nanY)
      (fun below => notBelow (.inr ⟨mark, .inl below⟩))
      fun above => notAbove (.inr ⟨mark.symm, .inl above⟩)
  have rsrp' := strongest.option.same_symm rsrp
  have cellId : texts.option.same x.cellId y.cellId :=
    tied_of_decides (decides_text _ _)
      (fun below => notBelow (.inr ⟨mark, .inr ⟨rsrp, .inl below⟩⟩))
      fun above => notAbove (.inr ⟨mark.symm, .inr ⟨rsrp', .inl above⟩⟩)
  have cellId' := texts.option.same_symm cellId
  have pci : lowest.option.same x.pci y.pci :=
    tied_of_decides (decides_pci (comparable.numbered x unbeatenX.1)
        (comparable.numbered y unbeatenY.1) rsrp)
      (fun below => notBelow (.inr ⟨mark, .inr ⟨rsrp, .inr ⟨cellId, .inl below⟩⟩⟩))
      fun above => notAbove (.inr ⟨mark.symm, .inr ⟨rsrp', .inr ⟨cellId', .inl above⟩⟩⟩)
  have pci' := lowest.option.same_symm pci
  have tag : (texts.comap stableTag).same x y :=
    tied_of_decides (unitsLt_trichotomy _ _)
      (fun below => notBelow (.inr ⟨mark, .inr ⟨rsrp, .inr ⟨cellId, .inr ⟨pci, below⟩⟩⟩⟩))
      fun above => notAbove (.inr ⟨mark.symm, .inr ⟨rsrp', .inr ⟨cellId', .inr ⟨pci', above⟩⟩⟩⟩)
  exact ⟨mark, eq_of_same cellId, tac_of_tag mark (eq_of_same cellId) tag,
    sameNumber_of_same pci, sameNumber_of_same rsrp⟩

theorem selectServingCell_perm_nil (perm : cells.Perm []) : selectServingCell cells = none := by
  rw [List.perm_nil.mp perm]
  rfl

theorem le_zero_iff (a b : CellReading) : (compareServing a b).le (.finite 0) = true ↔
    serving.below a b ∨ serving.same a b := by
  obtain ⟨less, tied⟩ := (ranks_serving a b).1
  rw [Double.le, Bool.or_eq_true, less, tied]

theorem Comparable.ordered {cells : List CellReading} (comparable : Comparable cells) :
    Ordered cells where
  antisymmetric a memA b memB := by
    have mirrors : (Double.finite 0).lt (compareServing b a) = true ↔ serving.below a b :=
      (ranks_serving b a).2 (comparable.numbered b memB) (comparable.numbered a memA)
    rw [Bool.eq_iff_iff, mirrors]
    exact (ranks_serving a b).1.less
  transitive a _ b _ c _ first second :=
    (ranks_serving a c).1.less.mpr (serving.trans ((ranks_serving a b).1.less.mp first)
      ((ranks_serving b c).1.less.mp second))
  ties a _ b _ c _ first second := by
    rw [le_zero_iff] at first second ⊢
    rcases first with below | same
    · rcases second with below' | same'
      · exact .inl (serving.trans below below')
      · exact .inl (serving.below_same below same')
    · rcases second with below' | same'
      · exact .inl (serving.same_below same below')
      · exact .inr (serving.same_trans same same')
  selected cells₁ cells₂ perm perm' := by
    have unbeaten {cells' : List CellReading} {w : CellReading} (perm : cells'.Perm cells)
        (selects : selectServingCell cells' = some w) : Unbeaten cells w := by
      obtain ⟨mem, unbeaten⟩ := unbeaten_of_select selects
      exact ⟨perm.subset mem, fun y isReading => unbeaten y (perm.symm.subset isReading)⟩
    match cells₁, cells₂, perm, perm' with
    | [], cells₂, perm, perm' =>
      rw [selectServingCell_perm_nil (perm'.trans perm.symm)]
      exact .none
    | first :: rest, [], perm, perm' =>
      exact absurd (perm.trans perm'.symm) (List.not_perm_nil_cons _ _ ·.symm)
    | first :: rest, first' :: rest', perm, perm' =>
      have selects := selectServingCell_cons first rest
      have selects' := selectServingCell_cons first' rest'
      have agrees := agrees_of_unbeaten comparable (unbeaten perm selects)
        (unbeaten perm' selects')
      rw [selects, selects']
      exact .some agrees
  marked w selects := by
    rintro ⟨x, mem, isMarked⟩
    cases isW : w.serving with
    | true => rfl
    | false => exact absurd (.inl ⟨isMarked, isW⟩) ((unbeaten_of_select selects).2 x mem)
  largest w selects x mem mark r isStrength := by
    have notAbove := (unbeaten_of_select selects).2 x mem
    have notStronger : ¬ strongest.option.below x.rsrp w.rsrp := fun stronger =>
      notAbove (.inr ⟨mark, .inl stronger⟩)
    rw [isStrength] at notStronger
    cases strength : w.rsrp with
    | none =>
      rw [strength] at notStronger
      exact absurd trivial notStronger
    | some s =>
      rw [strength] at notStronger
      exact ⟨s, rfl, Bool.eq_false_iff.mpr notStronger⟩

/-- A reading whose physical cell id cannot be compared is behind itself. -/
theorem compareServing_self (isStrength : x.rsrp ≠ some .nan) (isNan : x.pci = some .nan) :
    compareServing x x = .finite 1 := by
  have strength : compareOptionalDesc x.rsrp x.rsrp = .finite 0 := by
    cases isSome : x.rsrp with
    | none => rfl
    | some r =>
      have isNumber : r ≠ .nan := fun nan => isStrength (isSome.trans (congrArg some nan))
      rw [compareOptionalDesc, if_pos (Double.same_self.mpr isNumber)]
  have cell : compareOptionalAsc (fun a b => a = b) unitsLt x.cellId x.cellId = .finite 0 := by
    cases x.cellId with
    | none => rfl
    | some => simp [compareOptionalAsc]
  have id : compareOptionalAsc Double.same Double.lt x.pci x.pci = .finite 1 := by
    rw [isNan]
    rfl
  have zero : (Double.finite 0).same (.finite 0) = true := rfl
  have one : (Double.finite 1).same (.finite 0) = false := by decide
  simp [compareServing, strength, cell, id, zero, one]

/-- Nothing is in front of a strength that is `NaN`, if its mark is the best. -/
theorem unbeaten_of_nan (mem : x ∈ cells) (best : BestMark cells x) (isNan : x.rsrp = some .nan) :
    Unbeaten cells x := by
  refine ⟨mem, fun y isReading below => ?_⟩
  rcases below with ⟨isMarked, plain⟩ | ⟨-, below | ⟨same, -⟩⟩
  · rcases best with marked | none
    · exact absurd (marked.symm.trans plain) Bool.noConfusion
    · exact absurd (isMarked.symm.trans (none y isReading)) Bool.noConfusion
  · change strongest.option.below y.rsrp x.rsrp at below
    rw [isNan] at below
    cases strength : y.rsrp with
    | none =>
      rw [strength] at below
      exact below
    | some =>
      rw [strength] at below
      cases below
  · change strongest.option.same y.rsrp x.rsrp at same
    rw [isNan] at same
    cases strength : y.rsrp with
    | none =>
      rw [strength] at same
      exact same
    | some r =>
      rw [strength] at same
      cases r <;> cases same

theorem Ordered.comparable {cells : List CellReading} (ordered : Ordered cells) :
    Comparable cells where
  numbered x mem isStrength isNan := by
    have mirrored := ordered.antisymmetric x mem x mem
    rw [compareServing_self isStrength isNan] at mirrored
    revert mirrored
    decide
  measured x mem best isNan y isReading mark := by
    have alike {z : CellReading} (unbeaten : Unbeaten cells z) : Agrees z x := by
      obtain ⟨cells₁, perm₁, selects₁⟩ := select_of_unbeaten unbeaten
      obtain ⟨cells₂, perm₂, selects₂⟩ := select_of_unbeaten (unbeaten_of_nan mem best isNan)
      have agrees := ordered.selected cells₁ cells₂ perm₁ perm₂
      rw [selects₁, selects₂] at agrees
      cases agrees with
      | some agrees => exact agrees
    have nanOf {z : CellReading} (agrees : Agrees z x) : z.rsrp = some .nan := by
      rcases agrees.rsrp with same | ⟨r, s, -, isS, same⟩
      · exact same.trans isNan
      · cases isNan.symm.trans isS
        cases r <;> cases same
    cases strength : y.rsrp with
    | none => exact .inl rfl
    | some r =>
      right
      have bestY : BestMark cells y := by rwa [BestMark, mark]
      obtain ⟨z, unbeaten, rfl | below⟩ := unbeaten_above isReading
      · have agrees := alike unbeaten
        rw [← strength]
        exact ⟨nanOf agrees, agrees.cellId, agrees.tac, agrees.pci⟩
      · -- what is in front of a strength of the same mark is no `NaN`
        exfalso
        have agrees := alike unbeaten
        have nan := nanOf agrees
        rcases below with ⟨isMarked, plain⟩ | ⟨-, stronger | ⟨same, -⟩⟩
        · have marks := agrees.serving.trans mark.symm
          exact absurd (isMarked.symm.trans (marks.trans plain)) Bool.noConfusion
        · change strongest.option.below z.rsrp y.rsrp at stronger
          rw [nan, strength] at stronger
          cases r <;> cases stronger
        · change strongest.option.same z.rsrp y.rsrp at same
          rw [nan, strength] at same
          cases r <;> cases same

/-- The order is total on the readings, and the selected one does not depend on how they are
listed, just if no `NaN` has to be compared. -/
theorem ordered_iff (cells : List CellReading) : Ordered cells ↔ Comparable cells :=
  ⟨Ordered.comparable, Comparable.ordered⟩

/-- A cell that is heard at `-90`. -/
def heard : CellReading where
  serving := false
  cellId := none
  tac := none
  pci := none
  rsrp := some (.finite (-90))
  rsrq := none
  sinr := none
  band := none
  source := js "Modem.GetCellInfo"
  observedAt := .finite 0
  onGrid := by
    rintro _ ⟨⟩ _ ⟨⟩
    exact ⟨-90 * 2 ^ 1074, by rw [Int.cast_mul, Int.cast_pow]; rfl⟩

/-- The same cell, its strength a `NaN`. -/
def unheard : CellReading :=
  { heard with rsrp := some .nan, onGrid := by rintro _ ⟨⟩ _ ⟨⟩ }

/-- Whichever of the two is listed first is selected. -/
theorem serving_order_dependent :
    (selectServingCell [heard, unheard]).map CellReading.rsrp = some (some (.finite (-90))) ∧
      (selectServingCell [unheard, heard]).map CellReading.rsrp = some (some .nan) ∧
      ¬ Ordered [heard, unheard] := by
  refine ⟨rfl, rfl, fun ordered => ?_⟩
  have agrees := ordered.selected [heard, unheard] [unheard, heard] (List.Perm.refl _)
    (List.Perm.swap ..)
  rcases agrees with ⟨⟨-, -, -, -, same | ⟨r, s, -, isS, same⟩⟩⟩
  · cases same
  · cases isS
    cases r <;> cases same

end CellInfo

end ModemStack.Backend
