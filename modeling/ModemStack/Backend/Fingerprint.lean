import ModemStack.Backend.Mapping

/-!
The fingerprint of a mapped modem tells it from every other one.

It leaves out the source health, the SIM slots, the recovery state and the logical slot,
which are the same of every modem that is mapped from a tree.
-/

namespace ModemStack.Backend

open ModemStack.Domain ModemStack.Text

attribute [ext] ModemIdentity SnapshotFields

/-- What mapping a tree sets, whatever the tree. -/
structure FromTree (mapped : MappedModem) : Prop extends Conservative mapped where
  logicalSlotId : mapped.identity.logicalSlotId = none
  equipmentId : ∃ value, mapped.identity.equipmentId = imeiEquipmentId value
  reconcileStatus : mapped.reconcileStatus = .pending

theorem fromTree_of_mapModem {tree : DecodedManagedObjects} {path : JsString}
    {mapped : MappedModem} (isMapped : mapModem tree path = .ok mapped) :
    FromTree mapped ∧ mapped.identity.runtimePath = path := by
  obtain ⟨sub, isSub⟩ := readSubscriptionId_ok tree path
  obtain ⟨numbers, isNumbers⟩ := readOwnNumbers_ok (findInterface tree path modemIface)
  unfold mapModem at isMapped
  simp only [isSub, isNumbers, bind, Except.bind] at isMapped
  by_cases empty : path = []
  · subst empty
    cases isMapped
  · rw [runtimePath, nonEmptyString_ok empty] at isMapped
    obtain rfl := Except.ok.inj isMapped
    constructor
    · exact ⟨⟨rfl, rfl, rfl, rfl, rfl, rfl, rfl, reconcilePower_ne_off⟩, rfl, ⟨_, rfl⟩, rfl⟩
    · rfl

/-! ### Reading a fingerprint -/

/-- The value a fingerprint is the text of. -/
abbrev readMember (value : Json Nat) : Json JsNumber := value.map fun n => binary64 n 1

theorem eq_of_stringify {document other : Json Nat}
    (same : stringify printNat document = stringify printNat other) :
    readMember document = readMember other := by
  have read := parse_stringify prints_printNat document
  have read' := parse_stringify prints_printNat other
  rw [same, read'] at read
  exact (Option.some.inj read).symm

theorem optionalString_inj {value other : Option JsString}
    (same : readMember ((value.map .string).getD .null) =
      readMember ((other.map .string).getD .null)) : value = other := by
  cases value with
  | none =>
    cases other with
    | none => rfl
    | some => simp [Json.map] at same
  | some =>
    cases other with
    | none => simp [Json.map] at same
    | some => simpa [Json.map] using same

theorem strings_inj {values others : List JsString}
    (same : Json.mapItems (fun n => binary64 n 1) (values.map .string) =
      Json.mapItems (fun n => binary64 n 1) (others.map .string)) : values = others := by
  induction values generalizing others with
  | nil =>
    cases others with
    | nil => rfl
    | cons => simp [Json.mapItems] at same
  | cons text rest ih =>
    cases others with
    | nil => simp [Json.mapItems] at same
    | cons =>
      simp only [List.map_cons, Json.mapItems, Json.map, List.cons.injEq,
        Json.string.injEq] at same
      rw [same.1, ih same.2]

theorem optionalStrings_inj {values others : Option (List JsString)}
    (same : readMember ((values.map fun own => .array (own.map .string)).getD .null) =
      readMember ((others.map fun own => .array (own.map .string)).getD .null)) :
    values = others := by
  cases values with
  | none =>
    cases others with
    | none => rfl
    | some => simp [Json.map] at same
  | some =>
    cases others with
    | none => simp [Json.map] at same
    | some =>
      simp only [Option.map_some, Option.getD_some, Json.map, Json.array.injEq] at same
      rw [strings_inj same]

theorem equipment_inj {value other : JsString}
    (same : Json.mapMembers (fun n => binary64 n 1) (equipmentMembers (imeiEquipmentId value)) =
      Json.mapMembers (fun n => binary64 n 1) (equipmentMembers (imeiEquipmentId other))) :
    value = other := by
  simp only [imeiEquipmentId, equipmentMembers, Json.map, Json.mapMembers, List.cons.injEq,
    Prod.mk.injEq, Json.string.injEq, true_and] at same
  exact same.1

theorem radioPower_text_inj {power other : RadioPower} (same : power.text = other.text) :
    power = other := by
  revert same
  cases power <;> cases other <;> decide

theorem mmState_text_inj {state other : MmState} (same : state.text = other.text) :
    state = other := by
  revert same
  cases state <;> cases other <;> decide

/-- Modems mapped from trees with one fingerprint are the same in every field. -/
theorem fingerprint_injective {mapped other : MappedModem} (fromTree : FromTree mapped)
    (fromTree' : FromTree other) (same : fingerprint mapped = fingerprint other) :
    mapped = other := by
  have members := eq_of_stringify same
  simp only [readMember, Json.map, Json.mapMembers, Json.object.injEq, List.cons.injEq,
    Prod.mk.injEq, true_and, Json.string.injEq] at members
  obtain ⟨equipment, sub, own, path, -, power, state, -⟩ := members
  obtain ⟨value, isEquipment⟩ := fromTree.equipmentId
  obtain ⟨value', isEquipment'⟩ := fromTree'.equipmentId
  rw [isEquipment, isEquipment'] at equipment
  have sameIdentity : mapped.identity = other.identity := by
    rw [ModemIdentity.ext_iff]
    refine ⟨?_, ?_, optionalString_inj sub, optionalStrings_inj own, path⟩
    · rw [fromTree.logicalSlotId, fromTree'.logicalSlotId]
    · rw [isEquipment, isEquipment', equipment_inj equipment]
  rw [SnapshotFields.ext_iff]
  refine ⟨sameIdentity, ?_, ?_, ?_, radioPower_text_inj power, mmState_text_inj state, ?_, ?_, ?_,
    ?_, ?_⟩
  · rw [fromTree.presence, fromTree'.presence]
  · rw [fromTree.sourceHealth, fromTree'.sourceHealth]
  · rw [fromTree.simSlots, fromTree'.simSlots]
  · rw [fromTree.registration, fromTree'.registration]
  · rw [fromTree.nmActivation, fromTree'.nmActivation]
  · rw [fromTree.dataInterface, fromTree'.dataInterface]
  · rw [fromTree.reconcileStatus, fromTree'.reconcileStatus]
  · rw [fromTree.recoveryState, fromTree'.recoveryState]

end ModemStack.Backend
