import Mathlib.Data.List.Nodup
import ModemStack.Band.Certification
import ModemStack.Domain.Snapshot
import ModemStack.Text.JsValue
import ModemStack.Text.Numeral

/-!
The numbers of bands and their names.

A number that has no name is written behind a mark, and read back from there.
-/

namespace ModemStack.Band

open ModemStack.Domain ModemStack.Text

def bandUnknown : BandName := js "unknown"

def bandAny : BandName := js "any"

def bandAnyValue : Nat := 256

/-- The irregular head of the numbers. -/
def irregular : List (Nat × BandName) :=
  [(0, bandUnknown), (1, js "egsm"), (2, js "dcs"), (3, js "pcs"), (4, js "g850"),
    (5, js "utran-1"), (6, js "utran-3"), (7, js "utran-4"), (8, js "utran-6"), (9, js "utran-5"),
    (10, js "utran-8"), (11, js "utran-9"), (12, js "utran-2"), (13, js "utran-7"),
    (14, js "g450"), (15, js "g480"), (16, js "g750"), (17, js "g380"), (18, js "g410"),
    (19, js "g710"), (20, js "g810"), (bandAnyValue, bandAny)]

/-- Bands numbered in a row, from a base on. -/
structure BandBlock where
  mark : JsString
  base : Nat
  first : Nat
  last : Nat

def arithmetic : List BandBlock :=
  [⟨js "eutran-", 30, 1, 71⟩, ⟨js "cdma-bc", 128, 0, 19⟩, ⟨js "ngran-", 300, 1, 261⟩]

def BandBlock.items (block : BandBlock) : List (Nat × BandName) :=
  (List.range' block.first (block.last + 1 - block.first)).map fun index =>
    (block.base + index, block.mark ++ printNat index)

/-- The entries of both maps. No number and no name is set twice. -/
def bandTable : List (Nat × BandName) := irregular ++ arithmetic.flatMap BandBlock.items

def numberToName (value : Int) : Option BandName :=
  (bandTable.find? fun item => item.1 = value).map Prod.snd

def nameToNumber (name : BandName) : Option Nat :=
  (bandTable.find? fun item => item.2 = name).map Prod.fst

/-- What stands before the number of a band that has no name. -/
def passthrough : JsString := js "band-"

def bandName (value : Int) : BandName := (numberToName value).getD (passthrough ++ printInt value)

def bandValue (name : BandName) : Option Nat :=
  (nameToNumber name).or ((numeralAfter passthrough name).bind safeInteger)

/-- A number for which `Number.isSafeInteger` holds. -/
def safeIntegerOf : JsValue → Option Int
  | .number .negativeZero => some 0
  | .number (.finite value) =>
    if value.den = 1 ∧ value.num.natAbs < 2 ^ 53 then some value.num else none
  | _ => none

def decodeBandList : JsValue → List BandName
  | .array members => members.filterMap fun member =>
    (safeIntegerOf member).bind fun value =>
      if bandName value = bandUnknown then none else some (bandName value)
  | _ => []

/-- All of the names' values, or a name that has none. -/
def encodeBandList : List BandName → Except BandName (List Nat)
  | [] => .ok []
  | name :: rest =>
    match bandValue name with
    | none => .error name
    | some value => (encodeBandList rest).map (value :: ·)

/-! ### The table -/

variable {item : Nat × BandName} {block : BandBlock} {name : BandName} {value : Nat}
  {values : List Nat}

theorem mem_items (mem : item ∈ block.items) : ∃ index, block.first ≤ index ∧ index ≤ block.last ∧
      item = (block.base + index, block.mark ++ printNat index) := by
  obtain ⟨index, within, rfl⟩ := List.mem_map.mp mem
  rw [List.mem_range'_1] at within
  exact ⟨index, within.1, by omega, rfl⟩

theorem nodup_items (block : BandBlock) :
    (block.items.map Prod.fst).Nodup ∧ (block.items.map Prod.snd).Nodup := by
  have distinct : (List.range' block.first (block.last + 1 - block.first)).Nodup :=
    List.nodup_range'
  rw [BandBlock.items, List.map_map, List.map_map]
  constructor
  · exact List.Nodup.map (fun i j same => Nat.add_left_cancel same) distinct
  · exact List.Nodup.map (fun i j same => printNat_injective (List.append_cancel_left same))
      distinct

/-- The first two units of a block's names are those of its mark. -/
theorem take_items (listed : block ∈ arithmetic) (mem : item ∈ block.items) :
    item.2.take 2 = block.mark.take 2 := by
  obtain ⟨index, _, _, rfl⟩ := mem_items mem
  have long : ∀ each ∈ arithmetic, 2 ≤ each.mark.length := by decide
  rw [List.take_append_of_le_length (long block listed)]

/-- The numbers of a block's bands. -/
theorem range_items (mem : item ∈ block.items) :
    block.base + block.first ≤ item.1 ∧ item.1 ≤ block.base + block.last := by
  obtain ⟨index, least, most, rfl⟩ := mem_items mem
  exact ⟨Nat.add_le_add_left least _, Nat.add_le_add_left most _⟩

/-- Lists of entries apart in what `f` reads of them. -/
theorem nodup_flatMap {α β γ : Type} {f : β → γ} {items : α → List β} {blocks : List α}
    (each : ∀ block ∈ blocks, ((items block).map f).Nodup)
    (apart : blocks.Pairwise fun left right =>
      ∀ x ∈ items left, ∀ y ∈ items right, f x ≠ f y) : ((blocks.flatMap items).map f).Nodup := by
  induction blocks with
  | nil => exact .nil
  | cons block rest ih =>
    rw [List.pairwise_cons] at apart
    rw [List.flatMap_cons, List.map_append, List.nodup_append]
    refine ⟨each block List.mem_cons_self,
      ih (fun other mem => each other (List.mem_cons_of_mem block mem)) apart.2, ?_⟩
    intro value mem other mem' same
    obtain ⟨x, listed, rfl⟩ := List.mem_map.mp mem
    obtain ⟨y, listed', rfl⟩ := List.mem_map.mp mem'
    obtain ⟨later, inRest, inLater⟩ := List.mem_flatMap.mp listed'
    exact apart.1 later inRest x listed y inLater same

theorem nodup_names : (bandTable.map Prod.snd).Nodup := by
  have marks : (arithmetic.map fun block => block.mark.take 2).Nodup := by decide
  have apart : arithmetic.Pairwise fun left right =>
      ∀ x ∈ left.items, ∀ y ∈ right.items, x.2 ≠ y.2 := by
    rw [List.Nodup, List.pairwise_map] at marks
    refine List.Pairwise.imp_of_mem (fun {left right} mem mem' differ => ?_) marks
    intro x listed y listed' same
    exact differ ((take_items mem listed).symm.trans
      ((congrArg (List.take 2) same).trans (take_items mem' listed')))
  rw [bandTable, List.map_append, List.nodup_append]
  refine ⟨by decide, nodup_flatMap (fun block _ => (nodup_items block).2) apart, ?_⟩
  intro name mem other mem' same
  obtain ⟨item, listed, rfl⟩ := List.mem_map.mp mem
  obtain ⟨item', listed', rfl⟩ := List.mem_map.mp mem'
  obtain ⟨block, inTable, inBlock⟩ := List.mem_flatMap.mp listed'
  have differ : ∀ item ∈ irregular, ∀ block ∈ arithmetic, item.2.take 2 ≠ block.mark.take 2 := by
    decide
  exact differ item listed block inTable
    ((congrArg (List.take 2) same).trans (take_items inTable inBlock))

theorem nodup_numbers : (bandTable.map Prod.fst).Nodup := by
  have ranges : arithmetic.Pairwise fun left right =>
      left.base + left.last < right.base + right.first := by decide
  have apart : arithmetic.Pairwise fun left right =>
      ∀ x ∈ left.items, ∀ y ∈ right.items, x.1 ≠ y.1 := by
    refine ranges.imp fun {left right} before x listed y listed' same => ?_
    have most := (range_items listed).2
    have least := (range_items listed').1
    omega
  rw [bandTable, List.map_append, List.nodup_append]
  refine ⟨by decide, nodup_flatMap (fun block _ => (nodup_items block).1) apart, ?_⟩
  intro number mem other mem' same
  obtain ⟨item, listed, rfl⟩ := List.mem_map.mp mem
  obtain ⟨item', listed', rfl⟩ := List.mem_map.mp mem'
  obtain ⟨block, inTable, inBlock⟩ := List.mem_flatMap.mp listed'
  have outside : ∀ item ∈ irregular, ∀ block ∈ arithmetic,
      item.1 < block.base + block.first ∨ block.base + block.last < item.1 := by decide
  have range := range_items inBlock
  have := outside item listed block inTable
  omega

/-- An entry is found by what tells it from the others. -/
theorem find?_of_nodup {α β : Type} [DecidableEq β] {f : α → β} {items : List α}
    (distinct : (items.map f).Nodup) {item : α} (mem : item ∈ items) :
    items.find? (fun other => f other = f item) = some item := by
  cases found : items.find? fun other => f other = f item with
  | none =>
    have none_same := List.find?_eq_none.mp found item mem
    exact absurd (decide_eq_true rfl) none_same
  | some other =>
    have same : f other = f item := by simpa using List.find?_some found
    rw [List.inj_on_of_nodup_map distinct (List.mem_of_find?_eq_some found) mem same]

theorem nameToNumber_eq_some {number : Nat} :
    nameToNumber name = some number ↔ (number, name) ∈ bandTable := by
  constructor
  · intro known
    obtain ⟨item, found, rfl⟩ := Option.map_eq_some_iff.mp known
    have same : item.2 = name := by simpa using List.find?_some found
    rw [← same]
    exact List.mem_of_find?_eq_some found
  · intro listed
    rw [nameToNumber, find?_of_nodup nodup_names listed, Option.map_some]

theorem numberToName_eq_some {number : Nat} :
    numberToName number = some name ↔ (number, name) ∈ bandTable := by
  have casts : (fun item : Nat × BandName => decide ((item.1 : Int) = number)) =
      fun item => decide (item.1 = number) := by
    funext item
    rw [decide_eq_decide, Int.natCast_inj]
  constructor
  · intro known
    obtain ⟨item, found, rfl⟩ := Option.map_eq_some_iff.mp known
    have same : item.1 = number := by simpa using List.find?_some found
    rw [← same]
    exact List.mem_of_find?_eq_some found
  · intro listed
    rw [numberToName, casts, find?_of_nodup nodup_numbers listed, Option.map_some]

/-- What is written behind the mark is no name of the table. -/
theorem passthrough_not_mem (digits : JsString) (number : Nat) :
    (number, passthrough ++ digits) ∉ bandTable := by
  intro listed
  have other : (∀ item ∈ irregular, item.2.take 2 ≠ passthrough.take 2) ∧
      ∀ block ∈ arithmetic, block.mark.take 2 ≠ passthrough.take 2 := by decide
  rcases List.mem_append.mp listed with regular | inBlocks
  · exact other.1 _ regular rfl
  · obtain ⟨block, inTable, inBlock⟩ := List.mem_flatMap.mp inBlocks
    exact other.2 block inTable (take_items inTable inBlock).symm

/-! ### One band -/

theorem bandValue_passthrough (digits : JsString) :
    bandValue (passthrough ++ digits) =
      (numeralAfter passthrough (passthrough ++ digits)).bind safeInteger := by
  have missing : nameToNumber (passthrough ++ digits) = none := by
    rw [Option.eq_none_iff_forall_not_mem]
    intro number known
    exact passthrough_not_mem digits number (nameToNumber_eq_some.mp known)
  rw [bandValue, missing, Option.none_or]

theorem bandName_eq (value : Nat) :
    (∃ name, (value, name) ∈ bandTable ∧ bandName value = name) ∨
      ((∀ name, (value, name) ∉ bandTable) ∧ bandName value = passthrough ++ printNat value) := by
  cases known : numberToName value with
  | some name =>
    refine .inl ⟨name, numberToName_eq_some.mp known, ?_⟩
    rw [bandName, known, Option.getD_some]
  | none =>
    refine .inr ⟨fun name listed => ?_, ?_⟩
    · rw [numberToName_eq_some.mpr listed] at known
      cases known
    · rw [bandName, known, Option.getD_none]
      rfl

/-- Each number is read back from its name. -/
theorem bandValue_bandName (safe : value < 2 ^ 53) : bandValue (bandName value) = some value := by
  rcases bandName_eq value with ⟨name, listed, isName⟩ | ⟨_, isName⟩
  · rw [isName, bandValue, nameToNumber_eq_some.mpr listed, Option.some_or]
  · rw [isName, bandValue_passthrough, numeralAfter_printNat, Option.bind_some,
      safeInteger_printNat safe]

theorem bandName_injective {value other : Nat} (safe : value < 2 ^ 53) (safe' : other < 2 ^ 53)
    (same : bandName value = bandName other) : value = other := by
  have read := bandValue_bandName safe
  rw [same, bandValue_bandName safe', Option.some.injEq] at read
  exact read.symm

theorem bandName_zero : bandName (0 : Nat) = bandUnknown := by rfl

theorem bandName_eq_unknown (safe : value < 2 ^ 53) : bandName value = bandUnknown ↔ value = 0 := by
  constructor
  · intro unknown
    exact bandName_injective safe (by decide) (unknown.trans bandName_zero.symm)
  · rintro rfl
    exact bandName_zero

/-! ### Lists of bands -/

/-- Band values as a modem reports them. -/
def reportedBands (values : List Nat) : JsValue :=
  .array (values.map fun value : Nat => .number (.finite value))

theorem safeIntegerOf_natural (safe : value < 2 ^ 53) :
    safeIntegerOf (.number (.finite (value : Rat))) = some (value : Int) := by
  rw [safeIntegerOf, Rat.num_natCast, Rat.den_natCast, Int.natAbs_natCast, if_pos ⟨rfl, safe⟩]

theorem decodeBandList_reported (safe : ∀ value ∈ values, value < 2 ^ 53) :
    decodeBandList (reportedBands values) =
      (values.filter (· ≠ 0)).map fun value => bandName (value : Nat) := by
  rw [reportedBands, decodeBandList, List.filterMap_map]
  induction values with
  | nil => rfl
  | cons value rest ih =>
    have small := safe value List.mem_cons_self
    rw [List.filterMap_cons, Function.comp_apply, safeIntegerOf_natural small, Option.bind_some,
      ih fun other mem => safe other (List.mem_cons_of_mem value mem)]
    by_cases zero : value = 0
    · rw [if_pos ((bandName_eq_unknown small).mpr zero), List.filter_cons_of_neg (by simpa)]
    · rw [if_neg fun unknown => zero ((bandName_eq_unknown small).mp unknown),
        List.filter_cons_of_pos (by simpa), List.map_cons]

theorem encodeBandList_eq_ok {names : List BandName} :
    encodeBandList names = .ok values ↔ names.map bandValue = values.map some := by
  induction names generalizing values with
  | nil =>
    rw [encodeBandList, Except.ok.injEq, List.map_nil, eq_comm, @eq_comm _ [],
      List.map_eq_nil_iff]
  | cons name rest ih =>
    rw [encodeBandList, List.map_cons]
    cases bandValue name with
    | none =>
      refine iff_of_false nofun fun same => ?_
      cases values with
      | nil => cases same
      | cons => cases (List.cons.inj same).1
    | some value =>
      cases values with
      | nil => cases encodeBandList rest <;> exact iff_of_false nofun nofun
      | cons =>
        rw [List.map_cons, List.cons.injEq, Option.some.injEq, ← ih]
        cases encodeBandList rest with
        | error => exact iff_of_false nofun nofun
        | ok known =>
          show Except.ok (value :: known) = _ ↔ _
          rw [Except.ok.injEq, List.cons.injEq, Except.ok.injEq]

/-- Bands that a modem reports are encoded as what it reported. -/
theorem encodeBandList_decodeBandList (safe : ∀ value ∈ values, value < 2 ^ 53)
    (known : ∀ value ∈ values, value ≠ 0) :
    encodeBandList (decodeBandList (reportedBands values)) = .ok values := by
  have all : values.filter (· ≠ 0) = values :=
    List.filter_eq_self.mpr fun value mem => decide_eq_true (known value mem)
  rw [decodeBandList_reported safe, all, encodeBandList_eq_ok, List.map_map]
  exact List.map_congr_left fun value mem => bandValue_bandName (safe value mem)

theorem bandValue_safe (read : bandValue name = some value) : value < 2 ^ 53 := by
  rw [bandValue, Option.or_eq_some_iff] at read
  rcases read with known | ⟨_, numeral⟩
  · rcases List.mem_append.mp (nameToNumber_eq_some.mp known) with regular | inBlocks
    · have small : ∀ item ∈ irregular, item.1 < 2 ^ 53 := by decide
      exact small _ regular
    · obtain ⟨block, inTable, inBlock⟩ := List.mem_flatMap.mp inBlocks
      have small : ∀ block ∈ arithmetic, block.base + block.last < 2 ^ 53 := by decide
      exact (range_items inBlock).2.trans_lt (small block inTable)
  · obtain ⟨digits, _, read⟩ := Option.bind_eq_some_iff.mp numeral
    exact (safeInteger_eq_some.mp read).2

end ModemStack.Band
