import Mathlib.Data.List.Dedup
import ModemStack.Band.BandNames
import ModemStack.Radio.BandTruth

/-!
A band lock and what the modem says of it afterwards.

A lock is confirmed by the names of its bands. `confirmed_iff` says of which locks an installed
one is: those that spell each band as the modem's answer does, and name it once.
-/

namespace ModemStack.Radio

open ModemStack.Band ModemStack.Data ModemStack.Text

/-! ### Spellings -/

/-- A name that has a value. -/
def Placeable (name : BandName) : Prop :=
  name ∈ bandTable.map Prod.snd ∨
    ∃ digits, name = passthrough ++ digits ∧ isNumeral digits = true ∧
      decimalValue digits < 2 ^ 53

/-- A name that a modem's answer is decoded to. -/
def Canonical (name : BandName) : Prop :=
  (name ∈ bandTable.map Prod.snd ∧ name ≠ bandUnknown) ∨
    ∃ value < 2 ^ 53, value ∉ bandTable.map Prod.fst ∧ name = passthrough ++ printNat value

theorem placeable_iff {name : BandName} :
    Placeable name ↔ ∃ value, bandValue name = some value := by
  constructor
  · rintro (named | ⟨digits, rfl, numeral, safe⟩)
    · obtain ⟨item, listed, rfl⟩ := List.mem_map.mp named
      refine ⟨item.1, ?_⟩
      rw [bandValue, nameToNumber_eq_some.mpr listed, Option.some_or]
    · refine ⟨decimalValue digits, ?_⟩
      rw [bandValue_passthrough, numeralAfter_eq_some.mpr ⟨rfl, numeral⟩, Option.bind_some]
      exact safeInteger_eq_some.mpr ⟨rfl, safe⟩
  · rintro ⟨value, read⟩
    rw [bandValue, Option.or_eq_some_iff] at read
    rcases read with known | ⟨_, numeral⟩
    · exact .inl (List.mem_map.mpr ⟨_, nameToNumber_eq_some.mp known, rfl⟩)
    · obtain ⟨digits, captured, read⟩ := Option.bind_eq_some_iff.mp numeral
      obtain ⟨isName, isDigits⟩ := numeralAfter_eq_some.mp captured
      obtain ⟨rfl, safe⟩ := safeInteger_eq_some.mp read
      exact .inr ⟨digits, isName, isDigits, safe⟩

theorem canonical_iff {name : BandName} :
    Canonical name ↔ ∃ value < 2 ^ 53, value ≠ 0 ∧ name = bandName (value : Nat) := by
  constructor
  · rintro (⟨named, known⟩ | ⟨value, safe, missing, rfl⟩)
    · obtain ⟨item, listed, rfl⟩ := List.mem_map.mp named
      have isValue : bandValue item.2 = some item.1 := by
        rw [bandValue, nameToNumber_eq_some.mpr listed, Option.some_or]
      have isName : item.2 = bandName item.1 := by
        rw [bandName, numberToName_eq_some.mpr listed, Option.getD_some]
      refine ⟨item.1, bandValue_safe isValue, ?_, isName⟩
      intro zero
      rw [zero] at isName
      exact known (isName.trans bandName_zero)
    · refine ⟨value, safe, ?_, ?_⟩
      · rintro rfl
        exact missing (by decide)
      · rcases bandName_eq value with ⟨name, listed, _⟩ | ⟨_, isName⟩
        · exact absurd (List.mem_map.mpr ⟨_, listed, rfl⟩) missing
        · exact isName.symm
  · rintro ⟨value, safe, notZero, rfl⟩
    rcases bandName_eq value with ⟨name, listed, isName⟩ | ⟨missing, isName⟩
    · refine .inl ⟨?_, ?_⟩
      · rw [isName]
        exact List.mem_map.mpr ⟨_, listed, rfl⟩
      · intro unknown
        exact notZero ((bandName_eq_unknown safe).mp unknown)
    · refine .inr ⟨value, safe, ?_, isName⟩
      intro named
      obtain ⟨item, listed, rfl⟩ := List.mem_map.mp named
      exact missing item.2 listed

variable {names : List BandName}

theorem accepted_iff :
    (∃ values, encodeBandList names = .ok values) ↔ ∀ name ∈ names, Placeable name := by
  constructor
  · rintro ⟨values, encoded⟩ name mem
    have mapped : bandValue name ∈ names.map bandValue := List.mem_map_of_mem mem
    rw [encodeBandList_eq_ok.mp encoded] at mapped
    obtain ⟨value, _, read⟩ := List.mem_map.mp mapped
    exact placeable_iff.mpr ⟨value, read.symm⟩
  · intro placeable
    refine ⟨names.map fun name => (bandValue name).getD 0, encodeBandList_eq_ok.mpr ?_⟩
    rw [List.map_map]
    refine List.map_congr_left fun name mem => ?_
    obtain ⟨value, read⟩ := placeable_iff.mp (placeable name mem)
    rw [Function.comp_apply, read, Option.getD_some]

/-! ### Confirmation -/

/-- What the modem says when it has just these bands installed, each once, in some order. -/
def Installed (installed encoded : List Nat) : Prop :=
  installed.Nodup ∧ ∀ value, value ∈ installed ↔ value ∈ encoded

variable {observed : ModemBands}

theorem bandWriteReadbackMatches_of_perm {requested : Reference (List BandName)}
    (same : requested.contents.Perm observed.current) :
    bandWriteReadbackMatches requested observed = true := by
  unfold bandWriteReadbackMatches
  split
  · next reset =>
    rw [reset] at same
    rw [List.singleton_perm.mp same, decide_eq_true rfl, Bool.true_or]
  · exact sameNames_iff.mpr same

theorem perm_of_bandWriteReadbackMatches {requested : Reference (List BandName)}
    (narrowing : requested.contents ≠ [bandAny])
    (confirmed : bandWriteReadbackMatches requested observed = true) :
    requested.contents.Perm observed.current := by
  have narrows : requested.contents ≠ [js "any"] := narrowing
  rw [bandWriteReadbackMatches, if_neg narrows] at confirmed
  exact sameNames_iff.mp confirmed

/-- Names that each are the one of its value come back from the values. -/
theorem map_bandName_encoded {values : List Nat} (canonical : ∀ name ∈ names, Canonical name)
    (encoded : names.map bandValue = values.map some) :
    values.map (fun value : Nat => bandName value) = names ∧ 0 ∉ values := by
  induction names generalizing values with
  | nil =>
    obtain rfl := List.map_eq_nil_iff.mp encoded.symm
    exact ⟨rfl, List.not_mem_nil⟩
  | cons name rest ih =>
    cases values with
    | nil => cases encoded
    | cons =>
      rw [List.map_cons, List.map_cons, List.cons.injEq] at encoded
      obtain ⟨same, known⟩ :=
        ih (fun other mem => canonical other (List.mem_cons_of_mem name mem)) encoded.2
      obtain ⟨value, safe, notZero, rfl⟩ := canonical_iff.mp (canonical name List.mem_cons_self)
      rw [bandValue_bandName safe, Option.some.injEq] at encoded
      rw [List.map_cons, same, encoded.1, List.mem_cons, not_or]
      exact ⟨rfl, encoded.1 ▸ Ne.symm notZero, known⟩

/-- The bands of an answer are named once each, as an answer is decoded. -/
theorem canonical_decoded {values : List Nat} (distinct : values.Nodup)
    (safe : ∀ value ∈ values, value < 2 ^ 53) :
    (decodeBandList (reportedBands values)).Nodup ∧
      ∀ name ∈ decodeBandList (reportedBands values), Canonical name := by
  rw [decodeBandList_reported safe]
  constructor
  · refine List.Nodup.map_on ?_ (distinct.filter _)
    intro value mem other mem' same
    exact bandName_injective (safe value (List.mem_of_mem_filter mem))
      (safe other (List.mem_of_mem_filter mem')) same
  · intro name mem
    obtain ⟨value, listed, rfl⟩ := List.mem_map.mp mem
    obtain ⟨inValues, notZero⟩ := List.mem_filter.mp listed
    exact canonical_iff.mpr ⟨value, safe value inValues, of_decide_eq_true notZero, rfl⟩

theorem canonical_bandAny : Canonical bandAny := by
  refine .inl ⟨List.mem_map.mpr ⟨(bandAnyValue, bandAny), ?_, rfl⟩, by decide⟩
  exact List.mem_append_left _ (by decide)

theorem safe_of_encoded {values installed : List Nat} (encoded : encodeBandList names = .ok values)
    (holds : Installed installed values) : ∀ value ∈ installed, value < 2 ^ 53 := by
  intro value mem
  have listed : some value ∈ values.map some := List.mem_map_of_mem ((holds.2 value).mp mem)
  rw [← encodeBandList_eq_ok.mp encoded] at listed
  obtain ⟨name, _, read⟩ := List.mem_map.mp listed
  exact bandValue_safe read

/-- An installed lock is confirmed, whatever answer says that it is installed. -/
def Confirmed (names : List BandName) : Prop :=
  ∀ encoded installed, encodeBandList names = .ok encoded → Installed installed encoded →
    ∀ address supported, bandWriteReadbackMatches ⟨address, names⟩
      ⟨supported, decodeBandList (reportedBands installed)⟩ = true

theorem confirmed_iff : Confirmed names ↔
      (∃ name ∈ names, ¬ Placeable name) ∨ (names.Nodup ∧ ∀ name ∈ names, Canonical name) := by
  by_cases accepted : ∀ name ∈ names, Placeable name
  · have placed : ¬ ∃ name ∈ names, ¬ Placeable name := by
      rintro ⟨name, mem, refused⟩
      exact refused (accepted name mem)
    rw [or_iff_right placed]
    obtain ⟨encoded, isEncoded⟩ := accepted_iff.mpr accepted
    constructor
    · intro confirmed
      have once : Installed encoded.dedup encoded :=
        ⟨encoded.nodup_dedup, fun value => List.mem_dedup⟩
      have answered := confirmed encoded encoded.dedup isEncoded once 0 []
      by_cases reset : names = [bandAny]
      · rw [reset]
        refine ⟨List.nodup_singleton _, fun name mem => ?_⟩
        rw [List.mem_singleton.mp mem]
        exact canonical_bandAny
      · have same : names.Perm (decodeBandList (reportedBands encoded.dedup)) :=
          perm_of_bandWriteReadbackMatches reset answered
        obtain ⟨distinct, canonical⟩ :=
          canonical_decoded once.1 (safe_of_encoded isEncoded once)
        exact ⟨same.nodup_iff.mpr distinct, fun name mem => canonical name (same.mem_iff.mp mem)⟩
    · rintro ⟨distinct, canonical⟩ values installed isValues holds address supported
      apply bandWriteReadbackMatches_of_perm
      obtain ⟨same, known⟩ := map_bandName_encoded canonical (encodeBandList_eq_ok.mp isValues)
      have distinctValues : values.Nodup := by
        rw [← same] at distinct
        exact distinct.of_map
      have permuted : installed.Perm values :=
        (List.perm_ext_iff_of_nodup holds.1 distinctValues).mpr holds.2
      have all : installed.filter (· ≠ 0) = installed := by
        refine List.filter_eq_self.mpr fun value mem => decide_eq_true ?_
        rintro rfl
        exact known (permuted.mem_iff.mp mem)
      show names.Perm (decodeBandList (reportedBands installed))
      rw [decodeBandList_reported (safe_of_encoded isValues holds), all, ← same]
      exact permuted.symm.map _
  · obtain ⟨name, notPlaced⟩ := not_forall.mp accepted
    obtain ⟨mem, refused⟩ := Classical.not_imp.mp notPlaced
    refine iff_of_true ?_ (.inl ⟨name, mem, refused⟩)
    intro encoded installed isEncoded
    exact absurd (accepted_iff.mp ⟨encoded, isEncoded⟩ name mem) refused

/-- A lock on other bands is not confirmed. -/
theorem denied_of_differs (narrowing : names ≠ [bandAny]) (address : Nat)
    (differs : ¬ ∀ name, name ∈ names ↔ name ∈ observed.current) :
    bandWriteReadbackMatches ⟨address, names⟩ observed = false := by
  rw [Bool.eq_false_iff]
  intro confirmed
  have same := perm_of_bandWriteReadbackMatches narrowing confirmed
  exact differs fun name => same.mem_iff

/-- What the band codec owes the values of a modem and the names of a request. -/
structure BandCodecAgrees (values : List UInt32) (names : List BandName) : Prop where
  readBack : (∀ value ∈ values, value ≠ 0) →
    encodeBandList (decodeBandList (reportedBands (values.map UInt32.toNat))) =
      .ok (values.map UInt32.toNat)
  confirmed : Confirmed names
  denied : names ≠ [bandAny] → ∀ address observed,
    (¬ ∀ name, name ∈ names ↔ name ∈ observed.current) →
      bandWriteReadbackMatches ⟨address, names⟩ observed = false

/-- The codec and the confirmation agree just on requests in the codec's own spelling. -/
theorem bandCodec_iff (values : List UInt32) (names : List BandName) :
    BandCodecAgrees values names ↔
      (∃ name ∈ names, ¬ Placeable name) ∨ (names.Nodup ∧ ∀ name ∈ names, Canonical name) := by
  rw [← confirmed_iff]
  constructor
  · intro agrees
    exact agrees.confirmed
  · intro confirmed
    refine ⟨fun known => encodeBandList_decodeBandList ?_ ?_, confirmed, ?_⟩
    · intro value mem
      obtain ⟨band, _, rfl⟩ := List.mem_map.mp mem
      exact band.toNat_lt.trans (by decide)
    · intro value mem zero
      obtain ⟨band, listed, rfl⟩ := List.mem_map.mp mem
      exact known band listed (UInt32.toNat_inj.mp zero)
    · intro narrowing address observed differs
      exact denied_of_differs narrowing address differs

/-- A band under its number, installed as asked for, and a modem that says so by its name. -/
theorem alias_unconfirmed :
    encodeBandList [js "band-31"] = .ok [31] ∧
      decodeBandList (reportedBands [31]) = [js "eutran-1"] ∧
      bandWriteReadbackMatches ⟨0, [js "band-31"]⟩
        ⟨[], decodeBandList (reportedBands [31])⟩ = false := by
  have named : bandName (31 : Nat) = js "eutran-1" := by rfl
  have read : bandValue (js "band-31") = some 31 := by
    have isMarked : js "band-31" = passthrough ++ printNat 31 := by rfl
    rw [isMarked, bandValue_passthrough, numeralAfter_printNat, Option.bind_some,
      safeInteger_printNat (by decide)]
  have decoded : decodeBandList (reportedBands [31]) = [js "eutran-1"] := by
    rw [decodeBandList_reported (by decide), ← named]
    rfl
  rw [decoded, encodeBandList_eq_ok, List.map_singleton, read]
  exact ⟨rfl, rfl, denied_of_differs (by decide) 0 fun same =>
    absurd ((same (js "band-31")).mp (by decide)) (by decide)⟩

end ModemStack.Radio
