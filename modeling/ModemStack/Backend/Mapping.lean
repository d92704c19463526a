import ModemStack.Backend.ManagedObjects
import ModemStack.Domain.Snapshot

/-!
From a decoded object tree to the state of one modem.

The mapped state leaves the SIM slots empty, and so the one guard it can violate
is the one against a locked modem without a locked card (`mapped_valid_iff`).
-/

namespace ModemStack.Backend

open ModemStack.Domain ModemStack.Text

abbrev MappedModem := SnapshotFields

def mapMmState : Option DbusNumber → MmState
  | some (.integer (-1)) => .failed
  | some (.integer 1) => .initializing
  | some (.integer 2) => .locked
  | some (.integer 3) => .disabled
  | some (.integer 4) => .disabling
  | some (.integer 5) => .enabling
  | some (.integer 6) => .enabled
  | some (.integer 7) => .searching
  | some (.integer 8) => .registered
  | some (.integer 9) => .disconnecting
  | some (.integer 10) => .connecting
  | some (.integer 11) => .connected
  | _ => .unknown

def mapRadioPower : Option DbusNumber → RadioPower
  | some (.integer 1) => .off
  | some (.integer 2) => .low
  | some (.integer 3) => .on
  | _ => .unknown

def onTheAir : MmState → Bool
  | .enabled | .searching | .registered | .connecting | .connected | .disconnecting => true
  | _ => false

def reconcilePower (power : RadioPower) (state : MmState) : RadioPower :=
  if onTheAir state ∧ (power = .unknown ∨ power = .off) then .on else power

def readSubscriptionId (tree : DecodedManagedObjects) (modemPath : JsString) :
    Except DomainError (Option JsString) :=
  let modem := findInterface tree modemPath modemIface
  let sim := followObjectPath tree modem (js "Sim") simIface
  match stringProp sim (js "SimIdentifier") with
  | some iccid => if iccid = [] then .ok none else (subscriptionId iccid).map some
  | none => .ok none

def readOwnNumbers (modem : Option DecodedProps) : Except DomainError (Option (List JsString)) :=
  match stringArrayProp modem (js "OwnNumbers") with
  | none => .ok none
  | some raw => do
      let numbers ← ((raw.map trim).filter (· ≠ [])).mapM subscriberNumber
      return if numbers = [] then none else some numbers

def mapModem (tree : DecodedManagedObjects) (modemPath : JsString) :
    Except DomainError MappedModem := do
  let modem := findInterface tree modemPath modemIface
  let modem3gpp := findInterface tree modemPath modem3gppIface
  let equipment := ((stringProp modem (js "EquipmentIdentifier")).or
    (stringProp modem3gpp (js "Imei"))).getD []
  let mmState := mapMmState (numberProp modem (js "State"))
  let radioPower := reconcilePower (mapRadioPower (numberProp modem (js "PowerState"))) mmState
  let sub ← readSubscriptionId tree modemPath
  let ownNumbers ← readOwnNumbers modem
  let path ← runtimePath modemPath
  return {
    identity :=
      { logicalSlotId := none
        equipmentId := imeiEquipmentId equipment
        subscriptionId := sub
        ownNumbers
        runtimePath := path }
    presence := .present
    sourceHealth := .live
    simSlots := []
    radioPower
    mmState
    registration := ⟨.unknown, []⟩
    nmActivation := .unavailable
    dataInterface := ⟨false, none⟩
    reconcileStatus := .pending
    recoveryState := ⟨.idle, 0, none⟩ }

def modemPaths (tree : DecodedManagedObjects) : List JsString :=
  pathsWithInterface tree modemIface

/-! ### Fingerprints -/

def equipmentMembers : EquipmentId → List (JsString × Json Nat)
  | .imei value confidence => [(js "provenance", .string (js "imei")), (js "value", .string value),
      (js "confidence", .string confidence.text)]
  | .serial value confidence => [(js "provenance", .string (js "serial")),
      (js "value", .string value), (js "confidence", .string confidence.text)]
  | .none => [(js "provenance", .string (js "none")), (js "confidence", .string (js "low"))]

def dataInterfaceMembers (dataInterface : DataInterface) : List (JsString × Json Nat) :=
  (js "present", .bool dataInterface.present) ::
    (dataInterface.name.map fun name => (js "name", .string name)).toList

def fingerprint (mapped : MappedModem) : JsString := stringify printNat (.object [
  (js "id", .object (equipmentMembers mapped.identity.equipmentId)),
  (js "sub", (mapped.identity.subscriptionId.map .string).getD .null),
  (js "own", (mapped.identity.ownNumbers.map fun own => .array (own.map .string)).getD .null),
  (js "path", .string mapped.identity.runtimePath),
  (js "presence", .string mapped.presence.text),
  (js "radioPower", .string mapped.radioPower.text),
  (js "mmState", .string mapped.mmState.text),
  (js "registration", .object [
    (js "status", .string mapped.registration.status.text),
    (js "rats", .array (((mapped.registration.activeRats.map (·.text)).mergeSort unitsLe).map
      .string))]),
  (js "nmActivation", .string mapped.nmActivation.text),
  (js "dataInterface", .object (dataInterfaceMembers mapped.dataInterface)),
  (js "reconcileStatus", .string mapped.reconcileStatus.text)])

/-! ### What mapping rejects -/

theorem nonEmptyString_ok {value label : JsString} (some : value ≠ []) :
    nonEmptyString value label = .ok value := if_neg some

theorem readSubscriptionId_ok (tree : DecodedManagedObjects) (modemPath : JsString) :
    ∃ sub, readSubscriptionId tree modemPath = .ok sub := by
  unfold readSubscriptionId
  simp only
  split
  · split_ifs with empty
    · exact ⟨none, rfl⟩
    · exact ⟨_, by rw [subscriptionId, nonEmptyString_ok empty]; rfl⟩
  · exact ⟨none, rfl⟩

theorem mapM_subscriberNumber {numbers : List JsString} (some : ∀ n ∈ numbers, n ≠ []) :
    numbers.mapM subscriberNumber = .ok numbers := by
  induction numbers with
  | nil => rfl
  | cons first numbers ih =>
    obtain ⟨head, tail⟩ := List.forall_mem_cons.mp some
    rw [List.mapM_cons, subscriberNumber, nonEmptyString_ok head, ih tail]
    rfl

theorem readOwnNumbers_ok (modem : Option DecodedProps) :
    ∃ numbers, readOwnNumbers modem = .ok numbers := by
  unfold readOwnNumbers
  split
  · exact ⟨none, rfl⟩
  · rw [mapM_subscriberNumber fun n mem => by simpa using (List.mem_filter.mp mem).2]
    exact ⟨_, rfl⟩

/-- What every mapped state has in common. -/
structure Conservative (mapped : MappedModem) : Prop where
  presence : mapped.presence = .present
  sourceHealth : mapped.sourceHealth = .live
  simSlots : mapped.simSlots = []
  registration : mapped.registration = ⟨.unknown, []⟩
  nmActivation : mapped.nmActivation = .unavailable
  dataInterface : mapped.dataInterface = ⟨false, none⟩
  recoveryState : mapped.recoveryState = ⟨.idle, 0, none⟩
  power : mapped.mmState.requiresRadio = true → mapped.radioPower ≠ .off

theorem reconcilePower_ne_off {power : RadioPower} {state : MmState}
    (radio : state.requiresRadio = true) : reconcilePower power state ≠ .off := by
  have same : onTheAir state = state.requiresRadio := by cases state <;> rfl
  unfold reconcilePower
  rw [same, radio]
  cases power <;> decide

/-- Mapping rejects the empty path, and nothing else. -/
theorem mapModem_cases (tree : DecodedManagedObjects) (modemPath : JsString) :
    modemPath = [] ∧ (∃ error, mapModem tree modemPath = .error error) ∨
      modemPath ≠ [] ∧ ∃ mapped, mapModem tree modemPath = .ok mapped ∧ Conservative mapped ∧
        mapped.mmState = mapMmState (numberProp (findInterface tree modemPath modemIface)
          (js "State")) := by
  obtain ⟨sub, isSub⟩ := readSubscriptionId_ok tree modemPath
  obtain ⟨numbers, isNumbers⟩ := readOwnNumbers_ok (findInterface tree modemPath modemIface)
  unfold mapModem
  simp only [isSub, isNumbers, bind, Except.bind]
  by_cases empty : modemPath = []
  · subst empty
    exact .inl ⟨rfl, _, rfl⟩
  · rw [runtimePath, nonEmptyString_ok empty]
    refine .inr ⟨empty, _, rfl, ?_, rfl⟩
    exact ⟨rfl, rfl, rfl, rfl, rfl, rfl, rfl, reconcilePower_ne_off⟩

/-! ### What the guards reject of a mapped state -/

/-- The one rule a mapped state can violate asks for a locked card. -/
theorem Conservative.valid_iff {mapped : MappedModem} (conservative : Conservative mapped) :
    mapped.Valid ↔ mapped.mmState ≠ .locked := by
  obtain ⟨presence, -, simSlots, registration, nmActivation, dataInterface, recovery, power⟩ :=
    conservative
  have isRegistration : checkRegistration mapped = none := by
    simp [checkRegistration, registration, isRegistered]
  have isRadio : checkRadioAndPresence mapped = none := by
    cases radio : mapped.mmState.requiresRadio with
    | true => simp [checkRadioAndPresence, presence, power radio]
    | false => simp [checkRadioAndPresence, radioIsOnTheAir, radio, registration, nmActivation]
  have isNm : checkNmActivation mapped = none := by simp [checkNmActivation, nmActivation]
  have isData : checkDataInterface mapped = none := by simp [checkDataInterface, dataInterface]
  have isRecovery : checkRecovery mapped = none := by
    rw [checkRecovery, recovery]
    rfl
  have isSim : checkSimSlots mapped = none ↔ mapped.mmState ≠ .locked := by
    simp [checkSimSlots, simSlots]
  rw [← isSim, SnapshotFields.Valid, violation]
  simp [checks, List.findSome?, isRegistration, isRadio, isNm, isData, isRecovery]
  cases checkSimSlots mapped <;> simp

theorem mapMmState_locked {state : Option DbusNumber} :
    mapMmState state = .locked ↔ state = some (.integer 2) := by
  constructor
  · intro locked
    unfold mapMmState at locked
    split at locked <;> first | rfl | cases locked
  · rintro rfl
    rfl

end ModemStack.Backend
