import ModemStack.Storage.RowFile
import ModemStack.Usage.Persistence

/-!
The data-usage policy that an operator sets for a slot: the document it is kept in, how the
document is checked when it is read, and the write of one slot's policy.
-/

namespace ModemStack.Usage

open ModemStack.Async ModemStack.Async.Program ModemStack.Domain
  ModemStack.Storage ModemStack.Text

/-! ### Values -/

/-- Day of month (1-31) the cycle resets. -/
abbrev CycleDay := { day : Nat // 1 ≤ day ∧ day ≤ 31 }

abbrev SlotId := { id : JsString // id ≠ [] }

/-- An integer that is not negative. A `-0` is the `0` it equals. -/
def naturalOf : Double → Option Nat
  | .negativeZero => some 0
  | .finite value => if value.den = 1 ∧ 0 ≤ value.num then some value.num.toNat else none
  | _ => none

def isValidCycleDay (value : Double) : Option CycleDay :=
  (naturalOf value).bind fun day => if valid : 1 ≤ day ∧ day ≤ 31 then some ⟨day, valid⟩ else none

def isValidThresholdBytes (value : Double) : Option Nat := naturalOf value

theorem naturalOf_natCast (n : Nat) : naturalOf (.finite n) = some n := by
  simp [naturalOf]

theorem isValidCycleDay_day (day : CycleDay) : isValidCycleDay (.finite day.val) = some day := by
  rw [isValidCycleDay, naturalOf_natCast, Option.bind_some, dif_pos day.property]

/-! ### Documents -/

/-- A policy. Both fields are absent when unset. -/
structure UsagePolicy where
  cycleDay : Option CycleDay
  thresholdBytes : Option Nat
deriving DecidableEq

structure PersistedUsagePolicySlot extends UsagePolicy where
  logicalSlotId : SlotId
deriving DecidableEq

structure PersistedUsagePolicy where
  savedAtMs : Rat
  slots : List PersistedUsagePolicySlot
deriving DecidableEq

def naturalJson (n : Nat) : Json Double := .number (.finite n)

def PersistedUsagePolicySlot.members (slot : PersistedUsagePolicySlot) :
    List (JsString × Json Double) :=
  (js "logicalSlotId", .string slot.logicalSlotId.val) ::
    (optional (js "cycleDay") (fun day => naturalJson day.val) slot.cycleDay ++
      optional (js "thresholdBytes") naturalJson slot.thresholdBytes)

def PersistedUsagePolicy.members (state : PersistedUsagePolicy) : List (JsString × Json Double) :=
  [(js "schemaVersion", naturalJson 1), (js "savedAtMs", .number (.finite state.savedAtMs)),
    (js "slots", .array (state.slots.map fun slot => .object slot.members))]

def PersistedUsagePolicy.json (state : PersistedUsagePolicy) : Json Double :=
  .object state.members

namespace UsagePolicy

/-- A value that is absent, or a number that passes its check. -/
def optionalNumber {α : Type} (isValid : Double → Option α) (field : JsString) :
    Option (Json Double) → Checked (Option α)
  | none => .ok none
  | some (.number value) =>
    match isValid value with
    | some value => .ok (some value)
    | none => .error field
  | some _ => .error field

def validateSlot (raw : Json Double) : Checked PersistedUsagePolicySlot :=
  match objectMembers raw with
  | none => .error (js "slot")
  | some slot => do
      let logicalSlotId : SlotId ← match stringValue (member slot (js "logicalSlotId")) with
        | some id => if named : id ≠ [] then .ok ⟨id, named⟩ else .error (js "logicalSlotId")
        | none => .error (js "logicalSlotId")
      let cycleDay ← optionalNumber isValidCycleDay (js "cycleDay") (member slot (js "cycleDay"))
      let thresholdBytes ← optionalNumber isValidThresholdBytes (js "thresholdBytes")
        (member slot (js "thresholdBytes"))
      pure { logicalSlotId, cycleDay, thresholdBytes }

def validate (raw : Json Double) : Checked PersistedUsagePolicy :=
  match objectMembers raw with
  | none => .error (js "document")
  | some doc =>
    if finiteNumber (member doc (js "schemaVersion")) ≠ some 1 then
      .error (js "schemaVersion")
    else
      match finiteNumber (member doc (js "savedAtMs")), member doc (js "slots") with
      | none, _ => .error (js "savedAtMs")
      | some savedAtMs, some (.array slots) =>
        (slots.mapM validateSlot).map fun slots => ⟨savedAtMs, slots⟩
      | _, _ => .error (js "slots")

theorem optionalNumber_natural {α : Type} {isValid : Double → Option α} {field : JsString} {n : Nat}
    {value : α} (valid : isValid (.finite n) = some value) :
    optionalNumber isValid field (some (naturalJson n)) = .ok (some value) := by
  simp [optionalNumber, naturalJson, valid]

theorem validateSlot_members (slot : PersistedUsagePolicySlot) :
    validateSlot (.object slot.members) = .ok slot := by
  obtain ⟨⟨cycleDay, thresholdBytes⟩, id, named⟩ := slot
  generalize isMembers : PersistedUsagePolicySlot.members _ = members
  have isId : member members (js "logicalSlotId") = some (.string id) := by
    subst isMembers
    cases cycleDay <;> cases thresholdBytes <;> rfl
  have isDay : member members (js "cycleDay") =
      cycleDay.map fun day => naturalJson day.val := by
    subst isMembers
    cases cycleDay <;> cases thresholdBytes <;> rfl
  have isThreshold : member members (js "thresholdBytes") =
      thresholdBytes.map naturalJson := by
    subst isMembers
    cases cycleDay <;> cases thresholdBytes <;> rfl
  have day : optionalNumber isValidCycleDay (js "cycleDay")
      (cycleDay.map fun day => naturalJson day.val) = .ok cycleDay := by
    cases cycleDay with
    | none => rfl
    | some day => exact optionalNumber_natural (isValidCycleDay_day day)
  have threshold : optionalNumber isValidThresholdBytes (js "thresholdBytes")
      (thresholdBytes.map naturalJson) = .ok thresholdBytes := by
    cases thresholdBytes with
    | none => rfl
    | some bytes => exact optionalNumber_natural (naturalOf_natCast bytes)
  simp only [validateSlot, objectMembers, isId, isDay, isThreshold, day, threshold, stringValue,
    dif_pos named]
  rfl

theorem validate_json (state : PersistedUsagePolicy) : validate state.json = .ok state := by
  have read (slots : List PersistedUsagePolicySlot) :
      (slots.map fun slot => Json.object slot.members).mapM validateSlot = .ok slots := by
    induction slots with
    | nil => rfl
    | cons slot slots ih =>
      rw [List.map_cons, List.mapM_cons, validateSlot_members, ih]
      rfl
  have version : finiteNumber (member state.members (js "schemaVersion")) = some 1 := rfl
  have savedAt : finiteNumber (member state.members (js "savedAtMs")) =
    some state.savedAtMs := rfl
  have slots : member state.members (js "slots") =
    some (.array (state.slots.map fun slot => .object slot.members)) := rfl
  rw [validate, PersistedUsagePolicy.json]
  simp only [objectMembers, version, savedAt, slots, read]
  rfl

end UsagePolicy

/-! ### Slots -/

/-- Read one slot's policy out of a loaded document. -/
def selectUsagePolicy (state : PersistedUsagePolicy) (logicalSlotId : JsString) : UsagePolicy :=
  match state.slots.find? fun entry => entry.logicalSlotId.val = logicalSlotId with
  | none => ⟨none, none⟩
  | some slot => slot.toUsagePolicy

/-- The rows of one slot. -/
def PersistedUsagePolicy.rows (state : PersistedUsagePolicy) (logicalSlotId : JsString) :
    List PersistedUsagePolicySlot :=
  state.slots.filter fun slot => slot.logicalSlotId.val = logicalSlotId

theorem selectUsagePolicy_rows (state : PersistedUsagePolicy) (logicalSlotId : JsString) :
    selectUsagePolicy state logicalSlotId =
      ((state.rows logicalSlotId).head?.map (·.toUsagePolicy)).getD ⟨none, none⟩ := by
  rw [selectUsagePolicy, PersistedUsagePolicy.rows, List.head?_filter]
  cases state.slots.find? _ <;> rfl

/-- `createUsagePolicyFileStore`: a load replaces a corrupt file by a fresh one. -/
def usagePolicyFormat :
    Format (Json Double) PersistedUsagePolicy JsString (List PersistedUsagePolicySlot) where
  fresh nowMs := ⟨nowMs, []⟩
  write := PersistedUsagePolicy.json
  read raw := (UsagePolicy.validate raw).toOption
  rewrites := true
  row := PersistedUsagePolicy.rows
  blank := []
  read_write state := by rw [UsagePolicy.validate_json]; rfl
  row_fresh _ _ := rfl

end ModemStack.Usage
