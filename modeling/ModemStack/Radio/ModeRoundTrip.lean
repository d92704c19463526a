import Mathlib.Data.Nat.Bitwise
import ModemStack.Radio.ModeTruth

/-!
From masks to a selection and back.

A mask is read back from its names. Of the two masks of a combination the preferred one is read
back when it has at most one bit: the names of several are joined to a text that is no name
(`modeValue_joined`). `&` answers a signed number, so that a preferred mask with bit 31 never is
what it has in common with the allowed one (`bitAnd_eq_left`).
-/

namespace ModemStack.Radio

open ModemStack.Text

/-! ### Names -/

theorem modeName_passthrough {n : Nat} (unnamed : 16 < n) :
    modeName n = js "mode-bit-" ++ printNat n := by
  have missing : namedBits.lookup n = none := by
    rw [List.lookup_eq_none_iff]
    intro item mem
    rw [bne_iff_ne]
    rintro rfl
    have small : ∀ each ∈ namedBits, each.1 ≤ 16 := by decide
    exact absurd (small item mem) (Nat.not_le_of_lt unnamed)
  rw [modeName, missing, Option.getD_none]

/-- The names with a value of their own. -/
def knownNames : List ModeName := modeNone :: modeAny :: namedBits.map Prod.snd

theorem modeValue_unknown {name : ModeName} (unknown : name ∉ knownNames) :
    modeValue name = passthroughBit name := by
  simp only [knownNames, List.mem_cons, not_or] at unknown
  have missing : nameToBit name = none := by
    rw [nameToBit, List.lookup_eq_none_iff]
    intro item mem
    obtain ⟨each, listed, rfl⟩ := List.mem_map.mp mem
    rw [bne_iff_ne]
    rintro rfl
    exact unknown.2.2 (List.mem_map_of_mem listed)
  rw [modeValue, if_neg unknown.1, if_neg unknown.2.1, missing, Option.none_or]

theorem modeValue_mark (digits : JsString) :
    modeValue (js "mode-bit-" ++ digits) = passthroughBit (js "mode-bit-" ++ digits) := by
  refine modeValue_unknown fun known => ?_
  have other : ∀ name ∈ knownNames, name.head? ≠ (js "mode-bit-").head? := by decide
  exact other _ known rfl

theorem modeValue_modeName {bit : Nat} (lt : bit < 53) :
    modeValue (modeName (2 ^ bit)) = some (2 ^ bit) := by
  by_cases named : bit < 5
  · have all : ∀ i : Fin 5, modeValue (modeName (2 ^ i.val)) = some (2 ^ i.val) := by decide
    exact all ⟨bit, named⟩
  · have large : 2 ^ 5 ≤ 2 ^ bit := Nat.pow_le_pow_right (by decide) (Nat.le_of_not_lt named)
    have safe : 2 ^ bit < 2 ^ 53 := Nat.pow_lt_pow_right (by decide) lt
    rw [modeName_passthrough (by omega), modeValue_mark, passthroughBit,
      numeralAfter_printNat, Option.bind_some, safeInteger_printNat safe, Option.filter_some,
      if_pos (decide_eq_true (by omega))]

/-- What is joined with `+` has no value. -/
theorem modeValue_joined {name : ModeName} (plus : 0x2B ∈ name) : modeValue name = none := by
  have without : ∀ known ∈ knownNames, 0x2B ∉ known := by decide
  have noNumeral : numeralAfter (js "mode-bit-") name = none := by
    by_contra captured
    obtain ⟨digits, isSome⟩ := Option.ne_none_iff_exists'.mp captured
    obtain ⟨rfl, numeral⟩ := numeralAfter_eq_some.mp isSome
    rw [isNumeral, Bool.and_eq_true, List.all_eq_true] at numeral
    rcases List.mem_append.mp plus with inMark | inDigits
    · exact absurd inMark (by decide)
    · exact absurd (numeral.2 _ inDigits) (by decide)
  rw [modeValue_unknown fun known => without name known plus, passthroughBit, noNumeral,
    Option.bind_none]

/-! ### One mask -/

/-- The bits of a mask, from the lowest on. -/
def bitsOf (mask : Nat) : List Nat := (List.range 53).filter mask.testBit

theorem mem_bitsOf {mask bit : Nat} (lt : mask < 2 ^ 32) :
    bit ∈ bitsOf mask ↔ mask.testBit bit = true := by
  rw [bitsOf, List.mem_filter, List.mem_range]
  constructor
  · exact fun both => both.2
  · intro has
    refine ⟨?_, has⟩
    by_contra far
    rw [Nat.testBit_lt_two_pow (lt.trans (Nat.pow_lt_pow_right (by decide) (by omega)))] at has
    cases has

/-- What a walk along growing items stops at comes after all that are small enough. -/
theorem filter_takeWhile {α : Type} {p q : α → Bool} {items : List α}
    (grows : items.Pairwise fun x y => p y = true → p x = true)
    (small : ∀ x ∈ items, q x = true → p x = true) :
    (items.takeWhile p).filter q = items.filter q := by
  induction items with
  | nil => rfl
  | cons x rest ih =>
    rw [List.pairwise_cons] at grows
    by_cases within : p x = true
    · rw [List.takeWhile_cons_of_pos within, List.filter_cons, List.filter_cons,
        ih grows.2 fun y mem => small y (List.mem_cons_of_mem x mem)]
    · rw [List.takeWhile_cons_of_neg within, List.filter_nil, eq_comm, List.filter_eq_nil_iff]
      intro y mem has
      rcases List.mem_cons.mp mem with rfl | later
      · exact within (small y mem has)
      · exact within (grows.1 y later (small y mem has))

theorem bitAnd_two_pow {mask bit : Nat} (lt : mask < 2 ^ 32) :
    bitAnd mask (2 ^ bit) ≠ 0 ↔ mask.testBit bit = true := by
  by_cases low : bit < 32
  · have power : 2 ^ bit < 2 ^ 32 := Nat.pow_lt_pow_right (by decide) low
    unfold bitAnd
    rw [Nat.mod_eq_of_lt lt, Nat.mod_eq_of_lt power, Nat.and_two_pow]
    cases mask.testBit bit with
    | false => simp
    | true =>
      have positive : 0 < 2 ^ bit := by positivity
      simp only [Bool.toNat_true, Nat.one_mul, ne_eq, iff_true]
      rw [Int.bmod_def]
      split <;> omega
  · have multiple : 2 ^ bit % 2 ^ 32 = 0 :=
      Nat.mod_eq_zero_of_dvd (Nat.pow_dvd_pow 2 (Nat.le_of_not_lt low))
    have far : mask < 2 ^ bit :=
      lt.trans_le (Nat.pow_le_pow_right (by decide) (Nat.le_of_not_lt low))
    unfold bitAnd
    rw [multiple, Nat.testBit_lt_two_pow far]
    simp

variable {mask : Nat} {allowed preferred : Nat}

/-- The powers of two that a mask has, met on the way up to it. -/
theorem bits_upTo (lt : mask < 2 ^ 32) :
    (((List.range 53).map (2 ^ ·)).takeWhile fun bit => bit ≤ mask).filter
      (fun bit => bitAnd mask bit ≠ 0) = (bitsOf mask).map (2 ^ ·) := by
  have has {bit : Nat} : decide (bitAnd mask (2 ^ bit) ≠ 0) = mask.testBit bit := by
    rw [Bool.eq_iff_iff, decide_eq_true_eq, bitAnd_two_pow lt]
  have grows : ((List.range 53).map (2 ^ ·)).Pairwise fun x y =>
      decide (y ≤ mask) = true → decide (x ≤ mask) = true := by
    rw [List.pairwise_map]
    refine List.pairwise_lt_range.imp fun {i j} before within => ?_
    rw [decide_eq_true_eq] at within ⊢
    exact (Nat.pow_le_pow_right (by decide) (Nat.le_of_lt before)).trans within
  rw [filter_takeWhile grows, List.filter_map, bitsOf]
  · refine congrArg (List.map (2 ^ ·)) (List.filter_congr fun bit _ => ?_)
    rw [Function.comp_apply, has]
  · intro power mem reached
    obtain ⟨bit, _, rfl⟩ := List.mem_map.mp mem
    simp only [has] at reached
    exact decide_eq_true (Nat.ge_two_pow_of_testBit reached)

theorem modeNames_bits (lt : mask < 2 ^ 32) (notAny : mask ≠ modeAnyValue) :
    modeNames mask = (bitsOf mask).map fun bit => modeName (2 ^ bit) := by
  unfold modeNames
  by_cases none_or_far : mask = 0 ∨ 2 ^ 53 ≤ mask
  · obtain rfl : mask = 0 := by omega
    simp [bitsOf]
  · rw [if_neg none_or_far, if_neg notAny]
    show List.map modeName (List.filter _ _) = _
    rw [bits_upTo lt, List.map_map]
    rfl

/-! ### A mask from its names -/

theorem unsigned_bitOr (mask : Int) (value : Nat) :
    unsigned (bitOr mask value) = unsigned mask ||| value % 2 ^ 32 := by
  have left : (mask % 2 ^ 32).toNat < 2 ^ 32 := by omega
  have right : value % 2 ^ 32 < 2 ^ 32 := Nat.mod_lt value (by decide)
  have both := Nat.or_lt_two_pow left right
  have wraps := @Int.bmod_emod ((mask % 2 ^ 32).toNat ||| value % 2 ^ 32 : Nat) (2 ^ 32)
  unfold unsigned bitOr
  omega

theorem encodeFrom_bits {bits : List Nat} (low : ∀ bit ∈ bits, bit < 32) (mask : Int) :
    encodeFrom mask (bits.map fun bit => modeName (2 ^ bit)) =
      .ok (bits.foldl (fun sum bit => sum ||| 2 ^ bit) (unsigned mask)) := by
  induction bits generalizing mask with
  | nil => rfl
  | cons bit rest ih =>
    have first := low bit List.mem_cons_self
    rw [List.map_cons, encodeFrom, modeValue_modeName (by omega)]
    simp only
    rw [ih (fun other mem => low other (List.mem_cons_of_mem bit mem)), unsigned_bitOr,
      Nat.mod_eq_of_lt (Nat.pow_lt_pow_right (by decide) first), List.foldl_cons]

theorem testBit_foldl_or (bits : List Nat) (sum bit : Nat) :
    (bits.foldl (fun sum bit => sum ||| 2 ^ bit) sum).testBit bit =
      (sum.testBit bit || decide (bit ∈ bits)) := by
  induction bits generalizing sum with
  | nil => simp
  | cons first rest ih =>
    rw [List.foldl_cons, ih, Nat.testBit_or, Nat.testBit_two_pow, Bool.or_assoc]
    congr 1
    rw [Bool.eq_iff_iff, Bool.or_eq_true, decide_eq_true_eq, decide_eq_true_eq, decide_eq_true_eq,
      List.mem_cons, @eq_comm _ first bit]

/-- A mask has the bits that it is built from. -/
theorem foldl_bitsOf (lt : mask < 2 ^ 32) :
    (bitsOf mask).foldl (fun sum bit => sum ||| 2 ^ bit) 0 = mask := by
  refine Nat.eq_of_testBit_eq fun bit => ?_
  rw [testBit_foldl_or, Nat.zero_testBit, Bool.false_or, Bool.eq_iff_iff, decide_eq_true_eq,
    mem_bitsOf lt]

theorem low_of_mem_bitsOf {mask bit : Nat} (lt : mask < 2 ^ 32) (mem : bit ∈ bitsOf mask) :
    bit < 32 := by
  by_contra high
  have has := (mem_bitsOf lt).mp mem
  rw [Nat.testBit_lt_two_pow
    (lt.trans_le (Nat.pow_le_pow_right (by decide) (Nat.le_of_not_lt high)))] at has
  cases has

theorem encodeModeNames_modeNames (lt : mask < 2 ^ 32) :
    encodeModeNames (modeNames mask) = .ok mask := by
  by_cases isAny : mask = modeAnyValue
  · rw [isAny]
    decide
  · rw [modeNames_bits lt isAny, encodeModeNames,
      encodeFrom_bits fun bit mem => low_of_mem_bitsOf lt mem]
    exact congrArg Except.ok (foldl_bitsOf lt)

/-! ### One combination -/

/-- A pair of masks as a modem reports it. -/
def reportedModes (allowed preferred : UInt32) : JsValue :=
  .array [.number (.finite (allowed.toNat : Rat)), .number (.finite (preferred.toNat : Rat))]

theorem maskOf_natural (lt : mask < 2 ^ 32) :
    maskOf (.number (.finite (mask : Rat))) = some mask := by
  have safe := Double.isSafeNatural_natural.mpr (lt.trans (by decide : 2 ^ 32 < 2 ^ 53))
  rw [maskOf, if_pos safe, Rat.num_natCast, Int.toNat_natCast]

theorem decodeModeCombination_reported (allowed preferred : UInt32) :
    decodeModeCombination (reportedModes allowed preferred) =
      some (modeCombination allowed.toNat preferred.toNat) := by
  rw [decodeModeCombination, reportedModes, decodePair, maskOf_natural allowed.toNat_lt,
    maskOf_natural preferred.toNat_lt]
  rfl

/-- What a selection's preferred mode is encoded as. -/
def encodePreferred (preferred : ModeName) : Except ModeName Nat :=
  encodeModeNames (if preferred = modeNone then [] else [preferred])

theorem encodeModeSelection_selectionOf {allowed : Nat} (lt : allowed < 2 ^ 32)
    (preferred : Nat) :
    encodeModeSelection (selectionOf (modeCombination allowed preferred)) =
      (encodePreferred (modeCombination allowed preferred).preferred).map (Prod.mk allowed) := by
  have read : encodeModeNames (selectionOf (modeCombination allowed preferred)).allowed =
      .ok allowed := encodeModeNames_modeNames lt
  rw [encodeModeSelection, read]
  show encodePreferred (modeCombination allowed preferred).preferred >>= _ = _
  cases encodePreferred (modeCombination allowed preferred).preferred <;> rfl

theorem modeName_ne_modeNone {bit : Nat} (lt : bit < 53) : modeName (2 ^ bit) ≠ modeNone := by
  intro same
  have value := modeValue_modeName lt
  rw [same, modeValue, if_pos rfl, Option.some.injEq] at value
  exact absurd value.symm (by positivity)

/-- No mask, one of a single bit, or one of several. -/
theorem bitsOf_cases (lt : mask < 2 ^ 32) :
    (bitsOf mask = [] ∧ mask = 0) ∨ (∃ bit, bitsOf mask = [bit] ∧ bit < 32 ∧ mask = 2 ^ bit) ∨
      ∃ bit next rest, bitsOf mask = bit :: next :: rest ∧ ∀ other, mask ≠ 2 ^ other := by
  have value := foldl_bitsOf lt
  cases has : bitsOf mask with
  | nil =>
    rw [has] at value
    exact .inl ⟨rfl, value.symm⟩
  | cons bit rest =>
    have low := low_of_mem_bitsOf lt (has ▸ List.mem_cons_self)
    cases rest with
    | nil =>
      rw [has] at value
      refine .inr (.inl ⟨bit, rfl, low, ?_⟩)
      simpa using value.symm
    | cons next rest =>
      refine .inr (.inr ⟨bit, next, rest, rfl, ?_⟩)
      rintro other rfl
      have only {each : Nat} (mem : each ∈ bitsOf (2 ^ other)) : other = each := by
        rw [mem_bitsOf lt, Nat.testBit_two_pow, decide_eq_true_eq] at mem
        exact mem
      have distinct : (bitsOf (2 ^ other)).Nodup := List.nodup_range.filter _
      rw [has, List.nodup_cons] at distinct
      have same : bit = next :=
        (only (has ▸ List.mem_cons_self)).symm.trans
          (only (has ▸ List.mem_cons_of_mem _ List.mem_cons_self))
      exact distinct.1 (same ▸ List.mem_cons_self)

theorem encodePreferred_joined (first second : ModeName) (rest : List ModeName) :
    encodePreferred ((js "+").intercalate (first :: second :: rest)) =
      .error ((js "+").intercalate (first :: second :: rest)) := by
  have plus : 0x2B ∈ (js "+").intercalate (first :: second :: rest) := by
    have isPlus : js "+" = [0x2B] := rfl
    simp [List.intercalate, List.intersperse, isPlus]
  have notNone : (js "+").intercalate (first :: second :: rest) ≠ modeNone := by
    intro same
    rw [same] at plus
    exact absurd plus (by decide)
  rw [encodePreferred, if_neg notNone, encodeModeNames, encodeFrom, modeValue_joined plus]

/-- The preferred mask is read back, unless it has several bits: their names are refused. -/
theorem encodePreferred_modeCombination {preferred : Nat} (lt : preferred < 2 ^ 32)
    (allowed : Nat) :
    if preferred = modeAnyValue ∨ preferred = 0 ∨ ∃ bit < 32, preferred = 2 ^ bit then
      encodePreferred (modeCombination allowed preferred).preferred = .ok preferred
    else ∃ name, encodePreferred (modeCombination allowed preferred).preferred = .error name := by
  have names : (modeCombination allowed preferred).preferred =
      if modeNames preferred = [] then modeNone
      else (js "+").intercalate (modeNames preferred) := rfl
  have decoded := encodeModeNames_modeNames lt
  by_cases isAny : preferred = modeAnyValue
  · rw [if_pos (.inl isAny), names, isAny]
    decide
  rw [modeNames_bits lt isAny] at names decoded
  rcases bitsOf_cases lt with
    ⟨has, isZero⟩ | ⟨bit, has, low, isBit⟩ | ⟨bit, next, rest, has, several⟩
  · rw [if_pos (.inr (.inl isZero)), names, has, isZero]
    rfl
  · rw [if_pos (.inr (.inr ⟨bit, low, isBit⟩)), names, has]
    rw [has] at decoded
    have single : (js "+").intercalate [modeName (2 ^ bit)] = modeName (2 ^ bit) := by
      simp [List.intercalate]
    rw [List.map_singleton, if_neg (List.cons_ne_nil _ _), single, encodePreferred,
      if_neg (modeName_ne_modeNone (by omega))]
    exact decoded
  · have none_holds : ¬ (preferred = modeAnyValue ∨ preferred = 0 ∨
        ∃ bit < 32, preferred = 2 ^ bit) := by
      rintro (any | zero | ⟨other, _, power⟩)
      · exact isAny any
      · rw [zero] at has
        cases has
      · exact several other power
    rw [if_neg none_holds, names, has, List.map_cons, List.map_cons,
      if_neg (List.cons_ne_nil _ _)]
    exact ⟨_, encodePreferred_joined _ _ _⟩

/-! ### The anomaly -/

/-- A number with the sign bit is not what `&` answers. -/
theorem bitAnd_eq_left {left right : Nat} (lt : left < 2 ^ 32) (lt' : right < 2 ^ 32) :
    bitAnd left right = left ↔ left &&& right = left ∧ left < 2 ^ 31 := by
  have within : left &&& right ≤ left := Nat.and_le_left
  unfold bitAnd
  rw [Nat.mod_eq_of_lt lt, Nat.mod_eq_of_lt lt', Int.bmod_def]
  split <;> omega

theorem and_eq_left_iff {left right : Nat} :
    left &&& right = left ↔ ∀ bit, left.testBit bit = true → right.testBit bit = true := by
  constructor
  · intro same bit has
    rw [← same, Nat.testBit_and, Bool.and_eq_true] at has
    exact has.2
  · intro all
    refine Nat.eq_of_testBit_eq fun bit => ?_
    rw [Nat.testBit_and]
    cases has : left.testBit bit with
    | false => rfl
    | true => rw [all bit has, Bool.and_self]

theorem preferredNotInAllowed_mem :
    ModeCombinationAnomaly.preferredNotInAllowed ∈ (modeCombination allowed preferred).anomalies ↔
      modeNames preferred ≠ [] ∧ preferred ≠ modeAnyValue ∧
        bitAnd preferred allowed ≠ preferred := by
  simp only [modeCombination, List.mem_append, List.mem_ite_nil_right, List.mem_singleton,
    reduceCtorEq, and_false, false_or, and_true]

/-- The anomaly is raised as it should be, but for the sign bit. -/
theorem preferredNotInAllowed_iff (lt : allowed < 2 ^ 32) (lt' : preferred < 2 ^ 32) :
    (ModeCombinationAnomaly.preferredNotInAllowed ∈
        (modeCombination allowed preferred).anomalies ↔
      preferred ≠ modeAnyValue ∧ preferred &&& allowed ≠ preferred) ↔
    (preferred = modeAnyValue ∨ (preferred &&& allowed = preferred → preferred < 2 ^ 31)) := by
  rw [preferredNotInAllowed_mem, ne_eq (bitAnd preferred allowed), bitAnd_eq_left lt' lt]
  by_cases isAny : preferred = modeAnyValue
  · simp [isAny]
  by_cases isZero : preferred = 0
  · have noNames : modeNames 0 = [] := rfl
    simp [isZero, noNames]
  have named : modeNames preferred ≠ [] := by
    intro empty
    have read := encodeModeNames_modeNames lt'
    rw [empty, encodeModeNames, encodeFrom, Except.ok.injEq] at read
    exact isZero read.symm
  by_cases included : preferred &&& allowed = preferred <;> simp [isAny, named, included]

/-! ### The codec -/

/-- What a combination decoded from a pair of masks owes to it. -/
structure ReadsBack (allowed preferred : UInt32) (combination : ModeCombination) : Prop where
  encoded : encodeModeSelection (selectionOf combination) = .ok (allowed.toNat, preferred.toNat)
  distinct : ∀ allowed' preferred' other,
    decodeModeCombination (reportedModes allowed' preferred') = some other →
      selectionOf other = selectionOf combination → allowed' = allowed ∧ preferred' = preferred
  anomaly : .preferredNotInAllowed ∈ combination.anomalies ↔
    preferred ≠ 0xffffffff ∧
      ¬ ∀ bit, preferred.toNat.testBit bit = true → allowed.toNat.testBit bit = true

/-- A preference for any mode, for none, or for one; and not for bit 31 where it is allowed. -/
def Singular (allowed preferred : UInt32) : Prop :=
  preferred = 0xffffffff ∨ preferred = 0 ∨
    ∃ bit < 32, preferred.toNat = 2 ^ bit ∧ (bit = 31 → allowed.toNat.testBit 31 = false)

theorem decodeMembers_split (members : List JsValue) :
    decodeMembers members =
      ⟨members.filterMap decodeModeCombination,
        members.filter fun member => (decodeModeCombination member).isNone⟩ := by
  induction members with
  | nil => rfl
  | cons member rest ih =>
    rw [decodeMembers, ih, List.filterMap_cons, List.filter_cons, decodeModeCombination]
    cases decodePair member <;> rfl

theorem encodeModeSelection_ok_iff (lt : allowed < 2 ^ 32) (lt' : preferred < 2 ^ 32) :
    encodeModeSelection (selectionOf (modeCombination allowed preferred)) =
        .ok (allowed, preferred) ↔
      preferred = modeAnyValue ∨ preferred = 0 ∨ ∃ bit < 32, preferred = 2 ^ bit := by
  have answered := encodePreferred_modeCombination lt' allowed
  rw [encodeModeSelection_selectionOf lt]
  split at answered
  · next single =>
    rw [answered]
    exact iff_of_true rfl single
  · next several =>
    obtain ⟨name, refused⟩ := answered
    rw [refused]
    exact iff_of_false nofun several

/-- A selection is encoded as the masks it comes from, if at all. -/
theorem encodeModeSelection_own (lt : allowed < 2 ^ 32) (lt' : preferred < 2 ^ 32)
    {masks : Nat × Nat}
    (encoded : encodeModeSelection (selectionOf (modeCombination allowed preferred)) = .ok masks) :
    masks = (allowed, preferred) := by
  have answered := encodePreferred_modeCombination lt' allowed
  rw [encodeModeSelection_selectionOf lt] at encoded
  split at answered
  · rw [answered] at encoded
    cases encoded
    rfl
  · obtain ⟨name, refused⟩ := answered
    rw [refused] at encoded
    cases encoded

theorem readsBack_iff {allowed preferred : UInt32} :
    ReadsBack allowed preferred (modeCombination allowed.toNat preferred.toNat) ↔
      (preferred.toNat = modeAnyValue ∨ preferred.toNat = 0 ∨
        ∃ bit < 32, preferred.toNat = 2 ^ bit) ∧
      (preferred.toNat = modeAnyValue ∨
        (preferred.toNat &&& allowed.toNat = preferred.toNat → preferred.toNat < 2 ^ 31)) := by
  have isAny : preferred = 0xffffffff ↔ preferred.toNat = modeAnyValue :=
    UInt32.toNat_inj.symm
  rw [← encodeModeSelection_ok_iff allowed.toNat_lt preferred.toNat_lt,
    ← preferredNotInAllowed_iff allowed.toNat_lt preferred.toNat_lt, ne_eq (_ &&& _),
    and_eq_left_iff]
  constructor
  · rintro ⟨encoded, _, anomaly⟩
    rw [ne_eq, isAny] at anomaly
    exact ⟨encoded, anomaly⟩
  · rintro ⟨encoded, anomaly⟩
    refine ⟨encoded, ?_, ?_⟩
    · intro allowed' preferred' other decoded same
      rw [decodeModeCombination_reported, Option.some.injEq] at decoded
      rw [← same, ← decoded] at encoded
      have masks := encodeModeSelection_own allowed'.toNat_lt preferred'.toNat_lt encoded
      rw [Prod.mk.injEq] at masks
      exact ⟨UInt32.toNat_inj.mp masks.1.symm, UInt32.toNat_inj.mp masks.2.symm⟩
    · rw [ne_eq, isAny]
      exact anomaly

theorem singular_iff {allowed preferred : UInt32} :
    Singular allowed preferred ↔
      (preferred.toNat = modeAnyValue ∨ preferred.toNat = 0 ∨
        ∃ bit < 32, preferred.toNat = 2 ^ bit) ∧
      (preferred.toNat = modeAnyValue ∨
        (preferred.toNat &&& allowed.toNat = preferred.toNat → preferred.toNat < 2 ^ 31)) := by
  have isAny : preferred = 0xffffffff ↔ preferred.toNat = modeAnyValue :=
    UInt32.toNat_inj.symm
  have isZero : preferred = 0 ↔ preferred.toNat = 0 := UInt32.toNat_inj.symm
  have power {bit : Nat} (single : preferred.toNat = 2 ^ bit) :
      preferred.toNat &&& allowed.toNat = preferred.toNat ↔ allowed.toNat.testBit bit = true := by
    rw [and_eq_left_iff, single]
    simp only [Nat.testBit_two_pow, decide_eq_true_eq]
    exact forall_eq'
  unfold Singular
  rw [isAny, isZero]
  constructor
  · rintro (any | zero | ⟨bit, low, single, apart⟩)
    · exact ⟨.inl any, .inl any⟩
    · exact ⟨.inr (.inl zero), .inr fun _ => by omega⟩
    · refine ⟨.inr (.inr ⟨bit, low, single⟩), .inr fun included => ?_⟩
      rw [power single] at included
      have notSign : bit ≠ 31 := by
        rintro rfl
        exact Bool.false_ne_true ((apart rfl).symm.trans included)
      rw [single]
      exact Nat.pow_lt_pow_right (by decide) (by omega)
  · rintro ⟨any | zero | ⟨bit, low, single⟩, apart⟩
    · exact .inl any
    · exact .inr (.inl zero)
    · refine .inr (.inr ⟨bit, low, single, ?_⟩)
      rintro rfl
      rw [Bool.eq_false_iff]
      intro allows
      rcases apart with any | below
      · rw [single] at any
        exact absurd any (by decide)
      · have sign := below ((power single).mpr allows)
        rw [single] at sign
        exact absurd sign (by decide)

/-- What a modem reports of its modes is decoded without loss just if the preference is singular. -/
theorem modeCodec_iff (allowed preferred : UInt32) (members : List JsValue) :
    (∃ combination, decodeModeCombination (reportedModes allowed preferred) = some combination ∧
        ReadsBack allowed preferred combination) ∧
      decodeSupportedModeCombinations (.array members) =
        ⟨members.filterMap decodeModeCombination,
          members.filter fun member => (decodeModeCombination member).isNone⟩ ↔
    Singular allowed preferred := by
  rw [singular_iff, ← readsBack_iff, decodeModeCombination_reported]
  constructor
  · rintro ⟨⟨combination, decoded, readsBack⟩, _⟩
    cases decoded
    exact readsBack
  · intro readsBack
    exact ⟨⟨_, rfl, readsBack⟩, decodeMembers_split members⟩

/-- Two preferred modes decode to a name that none has, and the highest bit to an anomaly. -/
theorem doublePreference_refused :
    (decodeModeCombination (reportedModes 3 3)).map (encodeModeSelection ∘ selectionOf) =
        some (.error (js "cs+2g")) ∧
      (decodeModeCombination (reportedModes 0x80000000 0x80000000)).map
          (ModeCombination.anomalies ·) =
        some [.unnamedAllowedBit, .unnamedPreferredBit, .preferredNotInAllowed] := by
  rw [decodeModeCombination_reported, decodeModeCombination_reported, Option.map_some,
    Option.map_some]
  decide

end ModemStack.Radio
