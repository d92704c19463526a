import Mathlib.Data.Nat.Bitwise
import ModemStack.Async.Alone
import ModemStack.Backend.MmLocation

/-!
The masks that switch GNSS on and off.

A mask goes through the names of its bits, so that a bit without a name is lost on the way. What is
set up is right exactly where no such bit is on: `setups_iff`.
-/

namespace ModemStack.Backend

open ModemStack.Async ModemStack.Async.Program ModemStack.Text

/-! ### Names and bits -/

/-- The bits that have names. -/
def namedBits : List Nat := sourceBits.map Prod.snd

theorem testBit_foldl_or {α : Type} (f : α → Nat) (items : List α) (mask bit : Nat) :
    (items.foldl (fun mask item => mask ||| f item) mask).testBit bit =
      (mask.testBit bit || items.any fun item => (f item).testBit bit) := by
  induction items generalizing mask with
  | nil => simp
  | cons item items ih => simp [ih, Bool.or_assoc]

theorem testBit_encode (sources : List JsString) (bit : Nat) :
    (encodeLocationSources sources).testBit bit =
      sources.any fun source => (sourceBit source).testBit bit := by
  rw [encodeLocationSources, testBit_foldl_or, Nat.zero_testBit, Bool.false_or]

theorem sourceBit_named : ∀ source ∈ sourceBits, sourceBit source.1 = 2 ^ source.2 := by
  decide

theorem testBit_sourceBit {source : JsString × Nat} (named : source ∈ sourceBits) (bit : Nat) :
    (sourceBit source.1).testBit bit = decide (source.2 = bit) := by
  rw [sourceBit_named source named, Nat.testBit_two_pow]

/-- Encoding what was decoded keeps the bits that have names. -/
theorem testBit_encode_decode (mask : Int) (bit : Nat) :
    (encodeLocationSources (decodeLocationSources mask)).testBit bit =
      ((toUint32 mask).testBit bit && decide (bit ∈ namedBits)) := by
  rw [testBit_encode, decodeLocationSources, List.any_map, List.any_filter, Bool.eq_iff_iff,
    List.any_eq_true, Bool.and_eq_true, decide_eq_true_eq, namedBits, List.mem_map]
  constructor
  · rintro ⟨source, named, isBit⟩
    rw [Bool.and_eq_true, Function.comp_apply, testBit_sourceBit named, decide_eq_true_eq] at isBit
    obtain ⟨on, rfl⟩ := isBit
    exact ⟨on, source, named, rfl⟩
  · rintro ⟨on, source, named, rfl⟩
    refine ⟨source, named, ?_⟩
    rw [Bool.and_eq_true, Function.comp_apply, testBit_sourceBit named, decide_eq_true_eq]
    exact ⟨on, rfl⟩

theorem toUint32_toNat (mask : BitVec 32) : toUint32 mask.toNat = mask.toNat := by
  have bound := mask.isLt
  unfold toUint32
  omega

/-- The bits of the GNSS sources. -/
theorem testBit_gnssMask (bit : Nat) : gnssMask.testBit bit = decide (bit ∈ [1, 2, 4, 5, 6]) := by
  have isMask : gnssMask = 2 ^ 1 ||| 2 ^ 2 ||| 2 ^ 4 ||| 2 ^ 5 ||| 2 ^ 6 := by decide
  rw [isMask, Bool.eq_iff_iff]
  simp only [Nat.testBit_or, Nat.testBit_two_pow, Bool.or_eq_true, decide_eq_true_eq,
    List.mem_cons, List.not_mem_nil, or_false]
  omega

/-- Every bit that is on has a name. -/
def AllNamed (mask : BitVec 32) : Prop := ∀ bit, mask.getLsbD bit = true → bit ∈ namedBits

/-! ### Switching -/

/-- A request for GNSS sources, or for none. -/
inductive GnssToggle where
  | enable (sources : List JsString) (gnss : sources ⊆ gnssSources)
  | disable

/-- The mask to be set up, if one is. -/
def GnssToggle.wanted (capabilities enabled : BitVec 32) : GnssToggle → Option (BitVec 32)
  | .enable sources _ =>
    let advertised := BitVec.ofNat 32 (encodeLocationSources sources) &&& capabilities
    if advertised = 0 then none else some (enabled ||| advertised)
  | .disable => some (enabled &&& ~~~BitVec.ofNat 32 gnssMask)

namespace MmLocation

variable {σ ρ ω : Type}

/-- Each mask that is set up: of which modem, and with which `signal_location`. -/
def setups (calls : List (LocationCall × σ × ω)) : List (JsString × Nat × Bool) :=
  calls.filterMap fun call =>
    match call.1 with
    | .setup path mask signalLocation => some (path, mask, signalLocation)
    | _ => none

theorem setups_append (first second : List (LocationCall × σ × ω)) :
    setups (first ++ second) = setups first ++ setups second := List.filterMap_append

section Parts

variable {modem : JsString} {world : (op : LocationCall) → ω → Except Failure (op.Answer ρ) × ω}
  {s : σ} {w : ω}

theorem alone_readLocationProps {tree : DecodedManagedObjects}
    (answers : (world .getManagedObjects w).1 = .ok tree) :
    (readLocationProps modem : LocationTask σ ρ _).alone world s w =
      (.ok (findInterface tree modem locationIface), s, (world .getManagedObjects w).2) := by
  rw [readLocationProps, callMethod, alone_monad_bind, alone_settle]
  simp only [answers, alone_pure]

theorem setups_readLocationProps :
    setups ((readLocationProps modem : LocationTask σ ρ _).callsAlone world s w) = [] := by
  rw [readLocationProps, callMethod, callsAlone_monad_bind, alone_settle]
  simp only
  split <;> rfl

theorem setups_setup (mask : Nat) (reason : JsString) :
    setups ((setup modem mask reason : LocationTask σ ρ _).callsAlone world s w) =
      [(modem, mask, false)] := by
  rw [setup, callMethod, callsAlone_monad_bind, alone_settle]
  simp only
  split <;> rfl

end Parts

variable (self : MmLocation ρ) (modem : JsString)

def toggle : GnssToggle → LocationTask σ ρ LocationToggleResult
  | .enable sources _ => self.enableGnss modem sources
  | .disable => self.disableGnss modem

variable (world : (op : LocationCall) → ω → Except Failure (op.Answer ρ) × ω) (s : σ) (w : ω)

/-- What ModemManager says of the modem when its queue comes to the task. -/
def Reports (capabilities enabled : BitVec 32) : Prop :=
  ∃ tree props,
    (world .getManagedObjects (world (.enterActor (self.resolveStableKey modem)) w).2).1 = .ok tree ∧
    findInterface tree modem locationIface = some props ∧
    maskProp props (js "Capabilities") = capabilities.toNat ∧
    maskProp props (js "Enabled") = enabled.toNat

/-- What is set up is the wanted mask, an unsigned number, and the fix is never broadcast. -/
def SetsUp (toggle : GnssToggle) (capabilities enabled : BitVec 32) : Prop :=
  let sent := setups ((self.toggle modem toggle).callsAlone world s w)
  sent = (toggle.wanted capabilities enabled).toList.map (fun mask => (modem, mask.toNat, false)) ∧
    ∀ setup ∈ sent, setup.2.1 < 2 ^ 32 ∧ setup.2.2 = false

/-! ### What is set up -/

variable {self modem world s w}

/-- The mask of an enabling, from the names of the bits that are on. -/
def enableMask (sources : List JsString) (props : DecodedProps) : List Nat :=
  let status := statusOf props
  let requested := encodeLocationSources sources &&& encodeLocationSources status.capabilities
  if !status.gnssCapable || requested = 0 then []
  else [encodeLocationSources status.enabledSources ||| requested]

def disableMask (props : DecodedProps) : Nat :=
  encodeLocationSources (statusOf props).enabledSources &&& (gnssMask ^^^ (2 ^ 32 - 1))

theorem setups_disable {tree : DecodedManagedObjects} {props : DecodedProps}
    (answers : (world .getManagedObjects (world (.enterActor (self.resolveStableKey modem)) w).2).1 =
      .ok tree) (found : findInterface tree modem locationIface = some props) :
    setups ((self.disableGnss modem).callsAlone world s w) =
      [(modem, disableMask props, false)] := by
  rw [disableGnss, callMethod, callsAlone_monad_bind, alone_settle]
  simp only
  rw [callsAlone_monad_bind, alone_readLocationProps answers, found]
  simp only
  rw [setups_append, setups_append, setups_readLocationProps, setups_setup]
  rfl

theorem setups_enable {tree : DecodedManagedObjects} {props : DecodedProps}
    (sources : List JsString)
    (answers : (world .getManagedObjects (world (.enterActor (self.resolveStableKey modem)) w).2).1 =
      .ok tree) (found : findInterface tree modem locationIface = some props) :
    setups ((self.enableGnss modem sources).callsAlone world s w) =
      (enableMask sources props).map fun mask => (modem, mask, false) := by
  rw [enableGnss, callMethod, callsAlone_monad_bind, alone_settle]
  simp only
  rw [callsAlone_monad_bind, alone_readLocationProps answers, found]
  simp only
  rw [setups_append, setups_append, setups_readLocationProps, enableMask]
  by_cases capable : (statusOf props).gnssCapable = true
  · by_cases none : encodeLocationSources sources &&&
        encodeLocationSources (statusOf props).capabilities = 0
    · simp only [capable, none]
      rfl
    · simp only [capable, none, Bool.not_true, Bool.false_or, decide_false, if_false,
        Bool.false_eq_true, setups_setup]
      rfl
  · simp only [capable]
    rfl

end MmLocation

/-! ### The masks, bit by bit -/

section Bits

variable {props : DecodedProps} {capabilities enabled : BitVec 32}

theorem testBit_enabledSources (isEnabled : maskProp props (js "Enabled") = enabled.toNat)
    (bit : Nat) : (encodeLocationSources (statusOf props).enabledSources).testBit bit =
      (enabled.getLsbD bit && decide (bit ∈ namedBits)) := by
  rw [statusOf, testBit_encode_decode, isEnabled, toUint32_toNat, BitVec.testBit_toNat]

theorem gnss_named {bit : Nat} (gnss : bit ∈ [1, 2, 4, 5, 6]) : bit ∈ namedBits := by
  have all : ∀ bit ∈ [1, 2, 4, 5, 6], bit ∈ namedBits := by decide
  exact all bit gnss

/-- What stands at the GNSS bits does not depend on a name; what stands elsewhere is lost
without one. -/
theorem disableMask_iff (isEnabled : maskProp props (js "Enabled") = enabled.toNat) :
    MmLocation.disableMask props = (enabled &&& ~~~BitVec.ofNat 32 gnssMask).toNat ↔
      AllNamed enabled := by
  have bits (bit : Nat) : (MmLocation.disableMask props).testBit bit =
      ((enabled.getLsbD bit && decide (bit ∈ namedBits)) &&
        !decide (bit ∈ [1, 2, 4, 5, 6])) := by
    rw [MmLocation.disableMask, Nat.testBit_and, testBit_enabledSources isEnabled,
      Nat.testBit_xor, testBit_gnssMask, Nat.testBit_two_pow_sub_one]
    by_cases inside : bit < 32
    · simp [inside]
    · rw [BitVec.getLsbD_of_ge _ _ (Nat.le_of_not_lt inside)]
      rfl
  have wanted (bit : Nat) : (enabled &&& ~~~BitVec.ofNat 32 gnssMask).toNat.testBit bit =
      (enabled.getLsbD bit && !decide (bit ∈ [1, 2, 4, 5, 6])) := by
    rw [BitVec.testBit_toNat, BitVec.getLsbD_and, BitVec.getLsbD_not, BitVec.getLsbD_ofNat,
      testBit_gnssMask]
    by_cases inside : bit < 32
    · simp [inside]
    · rw [BitVec.getLsbD_of_ge _ _ (Nat.le_of_not_lt inside)]
      rfl
  constructor
  · intro same bit on
    have atBit := congrArg (fun mask => mask.testBit bit) same
    simp only [bits, wanted, on, Bool.true_and] at atBit
    by_cases gnss : bit ∈ [1, 2, 4, 5, 6]
    · exact gnss_named gnss
    · simpa only [gnss, decide_false, Bool.not_false, Bool.and_true, decide_eq_true_eq] using atBit
  · intro named
    apply Nat.eq_of_testBit_eq
    intro bit
    rw [bits, wanted]
    cases on : enabled.getLsbD bit with
    | false => rfl
    | true => simp only [named bit on, decide_true, Bool.and_true]

/-- The bits of requested GNSS sources. -/
theorem gnss_of_testBit {sources : List JsString} (gnss : sources ⊆ gnssSources) {bit : Nat}
    (on : (encodeLocationSources sources).testBit bit = true) :
    bit ∈ namedBits ∧ ∃ source ∈ gnssSources, (source, bit) ∈ sourceBits := by
  have known : ∀ source ∈ gnssSources, ∃ entry ∈ sourceBits, entry.1 = source := by decide
  rw [testBit_encode, List.any_eq_true] at on
  obtain ⟨source, requested, isBit⟩ := on
  obtain ⟨⟨name, other⟩, named, rfl⟩ := known source (gnss requested)
  rw [testBit_sourceBit named, decide_eq_true_eq] at isBit
  subst isBit
  exact ⟨List.mem_map_of_mem named, name, gnss requested, named⟩

variable {sources : List JsString}

/-- The requested sources that the modem advertises, by their names and by their bits. -/
theorem requested_eq (gnss : sources ⊆ gnssSources)
    (isCapable : maskProp props (js "Capabilities") = capabilities.toNat) :
    encodeLocationSources sources &&& encodeLocationSources (statusOf props).capabilities =
      (BitVec.ofNat 32 (encodeLocationSources sources) &&& capabilities).toNat := by
  apply Nat.eq_of_testBit_eq
  intro bit
  rw [Nat.testBit_and, statusOf, testBit_encode_decode, isCapable, toUint32_toNat,
    BitVec.testBit_toNat, BitVec.testBit_toNat, BitVec.getLsbD_and, BitVec.getLsbD_ofNat]
  cases on : (encodeLocationSources sources).testBit bit with
  | false => simp only [Bool.false_and, Bool.and_false]
  | true =>
    by_cases inside : bit < 32
    · simp [inside, (gnss_of_testBit gnss on).1]
    · rw [BitVec.getLsbD_of_ge _ _ (Nat.le_of_not_lt inside)]
      simp

/-- A modem that advertises a requested source is GNSS-capable. -/
theorem gnssCapable_of_requested (gnss : sources ⊆ gnssSources)
    (some : encodeLocationSources sources &&& encodeLocationSources (statusOf props).capabilities ≠
      0) : (statusOf props).gnssCapable = true := by
  obtain ⟨bit, on⟩ := Nat.exists_testBit_of_ne_zero some
  rw [Nat.testBit_and, Bool.and_eq_true] at on
  obtain ⟨source, isGnss, named⟩ := (gnss_of_testBit gnss on.1).2
  have advertised := on.2
  rw [statusOf, testBit_encode_decode, Bool.and_eq_true] at advertised
  rw [statusOf]
  simp only [hasGnssSource, List.any_eq_true, decide_eq_true_eq]
  refine ⟨source, ?_, isGnss⟩
  rw [decodeLocationSources, List.mem_map]
  exact ⟨(source, bit), List.mem_filter.mpr ⟨named, advertised.1⟩, rfl⟩

theorem enableMask_eq (gnss : sources ⊆ gnssSources)
    (isCapable : maskProp props (js "Capabilities") = capabilities.toNat) :
    MmLocation.enableMask sources props =
      let advertised := BitVec.ofNat 32 (encodeLocationSources sources) &&& capabilities
      if advertised = 0 then []
      else [encodeLocationSources (statusOf props).enabledSources ||| advertised.toNat] := by
  rw [MmLocation.enableMask]
  simp only
  rw [requested_eq gnss isCapable]
  by_cases none : BitVec.ofNat 32 (encodeLocationSources sources) &&& capabilities = 0
  · simp [none]
  · have some : (BitVec.ofNat 32 (encodeLocationSources sources) &&& capabilities).toNat ≠ 0 :=
      fun zero => none (BitVec.eq_of_toNat_eq zero)
    rw [if_neg none, if_neg]
    rw [Bool.or_eq_true, decide_eq_true_eq, not_or, gnssCapable_of_requested gnss
      (by rwa [requested_eq gnss isCapable])]
    exact ⟨by decide, some⟩

/-- A bit that was on stays on unless it has no name. -/
theorem enabled_or_iff (isEnabled : maskProp props (js "Enabled") = enabled.toNat)
    {requested : BitVec 32} (requestNamed : AllNamed requested) :
    encodeLocationSources (statusOf props).enabledSources ||| requested.toNat =
      (enabled ||| requested).toNat ↔ AllNamed enabled := by
  have bits (bit : Nat) : (encodeLocationSources (statusOf props).enabledSources |||
      requested.toNat).testBit bit =
      ((enabled.getLsbD bit && decide (bit ∈ namedBits)) || requested.getLsbD bit) := by
    rw [Nat.testBit_or, testBit_enabledSources isEnabled, BitVec.testBit_toNat]
  have wanted (bit : Nat) : (enabled ||| requested).toNat.testBit bit =
      (enabled.getLsbD bit || requested.getLsbD bit) := by
    rw [BitVec.testBit_toNat, BitVec.getLsbD_or]
  constructor
  · intro same bit on
    have atBit := congrArg (fun mask => mask.testBit bit) same
    simp only [bits, wanted, on, Bool.true_and, Bool.true_or, Bool.or_eq_true,
      decide_eq_true_eq] at atBit
    exact atBit.elim id (requestNamed bit)
  · intro named
    apply Nat.eq_of_testBit_eq
    intro bit
    rw [bits, wanted]
    cases on : enabled.getLsbD bit with
    | false => rfl
    | true => simp only [named bit on, decide_true, Bool.and_true]

end Bits

/-! ### The frame -/

namespace MmLocation

variable {σ ρ ω : Type}

theorem allNamed_requested {sources : List JsString} (gnss : sources ⊆ gnssSources)
    (capabilities : BitVec 32) :
    AllNamed (BitVec.ofNat 32 (encodeLocationSources sources) &&& capabilities) := by
  intro bit on
  rw [BitVec.getLsbD_and, BitVec.getLsbD_ofNat, Bool.and_eq_true, Bool.and_eq_true] at on
  exact (gnss_of_testBit gnss on.1.2).1

/-- A switch keeps every other bit, and sets up what was asked for, exactly if it sets nothing up or
every bit that was on has a name. -/
theorem setups_iff (self : MmLocation ρ) (modem : JsString)
    (world : (op : LocationCall) → ω → Except Failure (op.Answer ρ) × ω) (s : σ) (w : ω)
    (toggle : GnssToggle) {capabilities enabled : BitVec 32}
    (reports : Reports self modem world w capabilities enabled) :
    SetsUp self modem world s w toggle capabilities enabled ↔
      toggle.wanted capabilities enabled = none ∨ AllNamed enabled := by
  obtain ⟨tree, props, answers, found, isCapable, isEnabled⟩ := reports
  have unsigned (masks : List (BitVec 32)) :
      ∀ setup ∈ masks.map (fun mask => (modem, mask.toNat, false)),
        setup.2.1 < 2 ^ 32 ∧ setup.2.2 = false := by
    intro setup sent
    obtain ⟨mask, -, rfl⟩ := List.mem_map.mp sent
    exact ⟨mask.isLt, rfl⟩
  unfold SetsUp
  simp only
  rw [and_iff_left_of_imp fun sent => by rw [sent]; exact unsigned _]
  cases toggle with
  | disable =>
    rw [MmLocation.toggle, setups_disable answers found]
    simp only [GnssToggle.wanted, reduceCtorEq, false_or, Option.toList_some, List.map_cons,
      List.map_nil, List.cons.injEq, Prod.mk.injEq, true_and, and_true]
    exact disableMask_iff isEnabled
  | enable sources gnss =>
    rw [MmLocation.toggle, setups_enable sources answers found, enableMask_eq gnss isCapable,
      GnssToggle.wanted]
    simp only
    by_cases none : BitVec.ofNat 32 (encodeLocationSources sources) &&& capabilities = 0
    · simp only [none, if_true, List.map_nil, Option.toList_none, true_or]
    · simp only [none, if_false, reduceCtorEq, false_or, Option.toList_some, List.map_cons,
        List.map_nil, List.cons.injEq, Prod.mk.injEq, true_and, and_true]
      exact enabled_or_iff isEnabled (allNamed_requested gnss capabilities)

/-! ### A modem with a bit that has no name -/

def oneModem (capabilities enabled : Nat) : DecodedManagedObjects :=
  [(js "/modem/0", [(locationIface,
    [(js "Capabilities", ⟨js "u", .number (.integer capabilities)⟩),
      (js "Enabled", ⟨js "u", .number (.integer enabled)⟩)])])]

/-- Every call is answered. -/
def answering (tree : DecodedManagedObjects) :
    (op : LocationCall) → Unit → Except Failure (op.Answer Unit) × Unit
  | .getManagedObjects, w => (.ok tree, w)
  | .readSnapshot, w => (.ok none, w)
  | .getLocation _, w => (.ok (), w)
  | .enterActor _, w | .setup _ _ _, w | .settled, w | .returned _ _, w => (.ok (), w)

def anyModem : MmLocation Unit := ⟨fun path => path, fun _ _ => none⟩

theorem allNamed_three : AllNamed 3 := by
  have all : ∀ bit < 32, (3 : BitVec 32).getLsbD bit = true → bit ∈ namedBits := by decide
  intro bit on
  exact all bit (BitVec.lt_of_getLsbD on) on

/-- GPS is switched off beside a cell source that is on. -/
theorem setups_disabled :
    SetsUp anyModem (js "/modem/0") (answering (oneModem 0x7F 3)) () () .disable 0x7F 3 :=
  (setups_iff anyModem (js "/modem/0") (answering (oneModem 0x7F 3)) () () .disable
    ⟨oneModem 0x7F 3, _, rfl, rfl, rfl, rfl⟩).mpr (.inr allNamed_three)

/-- The highest bit is on beside GPS. Switching GPS off clears both. -/
theorem setups_fails :
    Reports anyModem (js "/modem/0") (answering (oneModem 0x7F 0x80000002)) () 0x7F 0x80000002 ∧
    setups ((anyModem.toggle (js "/modem/0") .disable).callsAlone
      (answering (oneModem 0x7F 0x80000002)) () ()) = [(js "/modem/0", 0, false)] ∧
    ¬ SetsUp anyModem (js "/modem/0") (answering (oneModem 0x7F 0x80000002)) () () .disable 0x7F
      0x80000002 := by
  have sent : setups ((anyModem.toggle (js "/modem/0") .disable).callsAlone
      (answering (oneModem 0x7F 0x80000002)) () ()) = [(js "/modem/0", 0, false)] := by
    decide
  refine ⟨⟨oneModem 0x7F 0x80000002, _, rfl, rfl, rfl, rfl⟩, sent, fun setsUp => ?_⟩
  have wanted := sent.symm.trans setsUp.1
  revert wanted
  decide

end MmLocation

end ModemStack.Backend
