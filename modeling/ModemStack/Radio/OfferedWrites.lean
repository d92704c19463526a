import ModemStack.Operations.Engine
import ModemStack.Radio.BandTruth
import ModemStack.Radio.ModeTruth

/-!
What the engine accepts of the values a descriptor offers.

The engine looks for the very object it was given among the offered ones. Elsewhere a
selection is compared by what it reads as.
-/

namespace ModemStack.Radio

open ModemStack.Band ModemStack.Data ModemStack.Operations ModemStack.Text

instance {α : Type} : OperationInput (Reference α) where
  objectIs := Reference.is
  number := fun _ => none

theorem inputAllowed_mode (next : Nat) (input : ModeWriteDescriptorInput)
    (selection : Reference ModeSelection) :
    inputAllowed (buildModeWriteDescriptor next input) selection =
      (offeredSelections next input.truth.supported).any fun offered => offered.is selection :=
  rfl

theorem inputAllowed_band (input : BandWriteDescriptorInput)
    (bands : Reference (List BandName)) :
    inputAllowed (buildBandWriteDescriptor input) bands =
      [input.certification.offerable].any fun offered => offered.is bands :=
  rfl

/-- The engine accepts what is advertised, and nothing else, just of the objects the
descriptor itself carries and of what is not advertised. -/
theorem accepted_iff_offered (next : Nat) :
    (∀ (input : ModeWriteDescriptorInput) (selection : Reference ModeSelection),
      (∀ offered ∈ offeredSelections next input.truth.supported, offered.Agrees selection) →
      ((inputAllowed (buildModeWriteDescriptor next input) selection = true ↔
          (matchAdvertisedCombination input.truth.supported selection.contents).isSome = true) ↔
        selection ∈ offeredSelections next input.truth.supported ∨
          ¬ Advertised input.truth.supported selection.contents)) ∧
    ∀ (catalog : BandCertificationCatalog) (sku : BandSku) (supported : Reference (List BandName)) (provider profile : JsString)
      (readSupported : Bool) (bands : Reference (List BandName)),
      let certification :=
        describeBandWriteCertification next (findBandCertification catalog sku) supported
      certification.offerable.Agrees bands →
      ((inputAllowed (buildBandWriteDescriptor ⟨provider, profile, certification, readSupported⟩)
            bands = true ↔ bands.contents = certification.offerable.contents) ↔
        bands = certification.offerable ∨
          bands.contents ≠ certification.offerable.contents) := by
  constructor
  · intro input selection agree
    rw [inputAllowed_mode, matchAdvertisedCombination_isSome]
    exact Reference.any_is_iff _ agree fun _ offered => advertised_of_offered offered
  · intro catalog sku supported provider profile readSupported bands certification agree
    rw [inputAllowed_band]
    have agrees : ∀ other ∈ [certification.offerable], other.Agrees bands := by
      intro other offered
      rw [List.mem_singleton.mp offered]
      exact agree
    have named : ∀ other ∈ [certification.offerable],
        other.contents = certification.offerable.contents := by
      intro other offered
      rw [List.mem_singleton.mp offered]
    have offers := Reference.any_is_iff (· = certification.offerable.contents) agrees named
    rwa [List.mem_singleton] at offers

/-- A modem that advertises 4g, without a preference. -/
def advertising4g : ModeWriteDescriptorInput where
  provider := js "modemmanager"
  profile := js "generic-mm"
  truth := readRadioModeTruth .null (.array [.array [.number (.finite 8), .number (.finite 0)]])
  writeSupported := true

def selection4g : ModeSelection := ⟨[js "4g"], modeNone⟩

theorem advertising4g_offers :
    offeredSelections 0 advertising4g.truth.supported = [⟨0, selection4g⟩] := by
  decide

/-- A copy of the offered object is another object: it is matched, and refused. -/
theorem copy_refused :
    (matchAdvertisedCombination advertising4g.truth.supported selection4g).isSome = true ∧
      inputAllowed (buildModeWriteDescriptor 0 advertising4g) ⟨0, selection4g⟩ = true ∧
      inputAllowed (buildModeWriteDescriptor 0 advertising4g) ⟨1, selection4g⟩ = false ∧
      descriptorRefusalReason
          ⟨[], ⟨js "modem", by decide⟩, buildModeWriteDescriptor 0 advertising4g,
            ⟨1, selection4g⟩, true, false, true⟩ =
        some (js "constraint-refused") := by
  decide +kernel

/-- The object itself is accepted, a list of the same bands is not. -/
theorem accepted_self_not_copy :
    (inputAllowed (buildModeWriteDescriptor 0 advertising4g) ⟨0, selection4g⟩ = true ↔
        (matchAdvertisedCombination advertising4g.truth.supported selection4g).isSome = true) ∧
      ¬ (inputAllowed (buildModeWriteDescriptor 0 advertising4g) ⟨1, selection4g⟩ = true ↔
        (matchAdvertisedCombination advertising4g.truth.supported selection4g).isSome = true) ∧
      ∀ readSupported,
        (inputAllowed (buildBandWriteDescriptor ⟨[], [],
            describeBandWriteCertification 1 (findBandCertification [] ⟨[], [], []⟩)
              ⟨0, [js "egsm"]⟩, readSupported⟩) ⟨1, []⟩ = true ↔
          ([] : List BandName) = []) := by
  refine ⟨?_, ?_, ?_⟩
  · apply ((accepted_iff_offered 0).1 advertising4g ⟨0, selection4g⟩ ?_).mpr
    · left
      rw [advertising4g_offers]
      exact List.mem_singleton.mpr rfl
    · rw [advertising4g_offers]
      intro offered isOffered _
      rw [List.mem_singleton.mp isOffered]
  · intro accepted
    have condition := ((accepted_iff_offered 0).1 advertising4g ⟨1, selection4g⟩ (by
      rw [advertising4g_offers]
      intro offered isOffered _
      rw [List.mem_singleton.mp isOffered])).mp accepted
    rw [advertising4g_offers, ← matchAdvertisedCombination_isSome] at condition
    revert condition
    decide +kernel
  · intro readSupported
    exact ((accepted_iff_offered 1).2 [] ⟨[], [], []⟩ ⟨0, [js "egsm"]⟩ [] [] readSupported ⟨1, []⟩
      (fun _ => rfl)).mpr (.inl rfl)

end ModemStack.Radio
