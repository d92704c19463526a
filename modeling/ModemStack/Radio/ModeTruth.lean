import ModemStack.Data.Reference
import ModemStack.Domain.Operation
import ModemStack.Radio.ModeCombinations
import ModemStack.Text.SortedNames

/-!
What a modem says of its modes, and the descriptor of a mode write built from it.

A mode selection is an object: each descriptor is built with new ones.
-/

namespace ModemStack.Radio

open ModemStack.Data ModemStack.Domain ModemStack.Text

structure ModeSelection where
  allowed : List ModeName
  preferred : ModeName
deriving DecidableEq

inductive ModeCombinationReading where
  | reported (combination : ModeCombination)
  | notReported
deriving DecidableEq

structure RadioModeTruth where
  current : ModeCombinationReading
  supported : ModeCombinationSet

def readRadioModeTruth (currentModes supportedModes : JsValue) : RadioModeTruth where
  current :=
    match decodeModeCombination currentModes with
    | none => .notReported
    | some combination => .reported combination
  supported := decodeSupportedModeCombinations supportedModes

def selectionOf (combination : ModeCombination) : ModeSelection :=
  ⟨combination.allowed, combination.preferred⟩

def sameSelection (left right : ModeSelection) : Bool :=
  left.preferred = right.preferred && sameNames left.allowed right.allowed

/-- The same preference, and the same allowed modes in some order. -/
theorem sameSelection_iff {left right : ModeSelection} :
    sameSelection left right = true ↔
      left.preferred = right.preferred ∧ left.allowed.Perm right.allowed := by
  rw [sameSelection, Bool.and_eq_true, decide_eq_true_eq, sameNames_iff]

def matchAdvertisedCombination (supported : ModeCombinationSet) (selection : ModeSelection) :
    Option ModeCombination :=
  supported.combinations.find? fun each => sameSelection (selectionOf each) selection

/-- A combination of the catalogue with the selection's preference and allowed modes. -/
def Advertised (supported : ModeCombinationSet) (selection : ModeSelection) : Prop :=
  ∃ combination ∈ supported.combinations, combination.preferred = selection.preferred ∧
    combination.allowed.Perm selection.allowed

theorem matchAdvertisedCombination_isSome {supported : ModeCombinationSet}
    {selection : ModeSelection} :
    (matchAdvertisedCombination supported selection).isSome = true ↔
      Advertised supported selection := by
  unfold matchAdvertisedCombination Advertised
  rw [List.find?_isSome]
  constructor
  · rintro ⟨combination, listed, same⟩
    exact ⟨combination, listed, sameSelection_iff.mp same⟩
  · rintro ⟨combination, listed, same⟩
    exact ⟨combination, listed, sameSelection_iff.mpr same⟩

/-- The masks of a selection, or the name that has no place in them. -/
def encodeModeSelection (selection : ModeSelection) : Except ModeName (Nat × Nat) := do
  let allowed ← encodeModeNames selection.allowed
  let preferred ← encodeModeNames
    (if selection.preferred = modeNone then [] else [selection.preferred])
  return (allowed, preferred)

/-! ### The descriptor -/

def modeWriteOperationId : JsString := js "modemmanager.mode-combination"

inductive ModeWriteRefusal where
  | modeWriteUnsupported
  | noAdvertisedModeCombinations
deriving DecidableEq

def ModeWriteRefusal.text : ModeWriteRefusal → JsString
  | .modeWriteUnsupported => js "mode-write-unsupported"
  | .noAdvertisedModeCombinations => js "no-advertised-mode-combinations"

structure ModeWriteDescriptorInput where
  provider : JsString
  profile : JsString
  truth : RadioModeTruth
  writeSupported : Bool

/-- The values of a descriptor, new objects from the address `next` on. -/
def offeredSelections (next : Nat) (supported : ModeCombinationSet) :
    List (Reference ModeSelection) :=
  allocate next (supported.combinations.map selectionOf)

def modeReadbackMatches (selection : Reference ModeSelection) (observed : RadioModeTruth) :
    Bool :=
  match observed.current with
  | .notReported => false
  | .reported combination => sameSelection (selectionOf combination) selection.contents

def buildModeWriteDescriptor (next : Nat) (input : ModeWriteDescriptorInput) :
    OperationDescriptor (Reference ModeSelection) RadioModeTruth :=
  let values := offeredSelections next input.truth.supported
  let refusal : Option ModeWriteRefusal :=
    if input.writeSupported = false then some .modeWriteUnsupported
    else if values = [] then some .noAdvertisedModeCombinations
    else none
  { id := modeWriteOperationId
    supportRead := .supported
    supportWrite :=
      if input.writeSupported then .supported else .unsupported (js "mode-write-unsupported")
    authority := .provider
    provider := input.provider
    constraints := .allowedValues values
    livePreconditions :=
      [js "modem-present", js "runtime-interface-present", js "mode-combination-advertised"]
    availability :=
      match refusal with
      | none => .available
      | some reason => .refused reason.text
    mutationImpact := .disruptive
    retryClass := .never
    readback := .required (js "mode-write-readback") modeReadbackMatches
    rollback := .notRequired
    journal := .required (js "disruptive-radio-write")
    admission := .required (js "provider-mutation")
    profiles := [input.profile]
    firmware := []
    confidence := .high }

/-- What a descriptor offers is advertised. -/
theorem advertised_of_offered {next : Nat} {supported : ModeCombinationSet}
    {selection : Reference ModeSelection} (offered : selection ∈ offeredSelections next supported) :
    Advertised supported selection.contents := by
  obtain ⟨combination, listed, reads⟩ := List.mem_map.mp (contents_of_mem offered)
  rw [← reads]
  exact ⟨combination, listed, rfl, List.Perm.refl _⟩

end ModemStack.Radio
