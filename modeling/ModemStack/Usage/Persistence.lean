import ModemStack.Usage.Accounting

/-!
The usage document: what of the accounts is written to the file, how a document that is
read is checked, and the accounts a process starts with.

A file is what reading and parsing it comes to. `JSON.parse` reads a number that
`JSON.stringify` wrote as the number it was; one that is not finite is written as `null`.
-/

namespace ModemStack.Usage

open ModemStack.Data ModemStack.Domain ModemStack.Text

/-! ### Documents -/

structure PersistedSlot where
  logicalSlotId : JsString
  cycleBytes : Rat
  cycleStartMs : Double
  mappingGeneration : Option Rat
  ifname : Option JsString
  lastObserved : Option Rat
deriving DecidableEq

structure PersistedUsage where
  bootId : JsString
  savedAtMs : Rat
  slots : List PersistedSlot
deriving DecidableEq

def freshState (bootId : JsString) (nowMs : Rat) : PersistedUsage := ⟨bootId, nowMs, []⟩

/-- `USAGE_SCHEMA_VERSION` -/
def usageSchemaVersion : Rat := 1

/-- A number as `JSON.stringify` writes it. -/
def numberJson : Double → Json Double
  | .finite value => .number (.finite value)
  | .negativeZero => .number (.finite 0)
  | .nan | .infinite _ => .null

/-- A member that is left out when there is no value. -/
def optional {α : Type} (key : JsString) (json : α → Json Double) (value : Option α) :
    List (JsString × Json Double) :=
  (value.map fun value => (key, json value)).toList

def PersistedSlot.json (slot : PersistedSlot) : Json Double :=
  .object ([(js "logicalSlotId", .string slot.logicalSlotId),
      (js "cycleBytes", .number (.finite slot.cycleBytes)),
      (js "cycleStartMs", numberJson slot.cycleStartMs)] ++
    optional (js "mappingGeneration") (fun value => .number (.finite value))
      slot.mappingGeneration ++
    optional (js "ifname") .string slot.ifname ++
    optional (js "lastObserved") (fun value => .number (.finite value)) slot.lastObserved)

def PersistedUsage.members (state : PersistedUsage) : List (JsString × Json Double) :=
  [(js "schemaVersion", .number (.finite usageSchemaVersion)),
    (js "bootId", .string state.bootId),
    (js "savedAtMs", .number (.finite state.savedAtMs)),
    (js "slots", .array (state.slots.map PersistedSlot.json))]

def PersistedUsage.json (state : PersistedUsage) : Json Double := .object state.members

/-! ### Reading a document -/

/-- A schema violation names the offending field. -/
abbrev Checked := Except JsString

def finiteNumber : Option (Json Double) → Option Rat
  | some (.number (.finite value)) => some value
  | some (.number .negativeZero) => some 0
  | _ => none

def stringValue : Option (Json Double) → Option JsString
  | some (.string value) => some value
  | _ => none

/-- The members of what `typeof` calls an object and is not `null`. -/
def objectMembers : Json Double → Option (List (JsString × Json Double))
  | .object members => some members
  | .array _ => some []
  | _ => none

def validateSlot (raw : Json Double) : Checked PersistedSlot :=
  match objectMembers raw with
  | none => .error (js "slot")
  | some slot =>
    match stringValue (member slot (js "logicalSlotId")) with
    | none => .error (js "logicalSlotId")
    | some logicalSlotId =>
      match finiteNumber (member slot (js "cycleBytes")),
          finiteNumber (member slot (js "cycleStartMs")) with
      | some cycleBytes, some cycleStartMs => .ok
          { logicalSlotId
            cycleBytes
            cycleStartMs := .finite cycleStartMs
            mappingGeneration := finiteNumber (member slot (js "mappingGeneration"))
            ifname := stringValue (member slot (js "ifname"))
            lastObserved := finiteNumber (member slot (js "lastObserved")) }
      | _, _ => .error (js "cycleBytes|cycleStartMs")

def validate (raw : Json Double) : Checked PersistedUsage :=
  match objectMembers raw with
  | none => .error (js "document")
  | some doc =>
    if finiteNumber (member doc (js "schemaVersion")) ≠ some usageSchemaVersion then
      .error (js "schemaVersion")
    else
      match stringValue (member doc (js "bootId")),
          finiteNumber (member doc (js "savedAtMs")) with
      | some bootId, some savedAtMs =>
        match member doc (js "slots") with
        | some (.array slots) =>
          (slots.mapM validateSlot).map fun slots => ⟨bootId, savedAtMs, slots⟩
        | _ => .error (js "slots")
      | _, _ => .error (js "bootId|savedAtMs")

/-- What reading and parsing the file comes to. -/
inductive UsageFile where
  | unreadable
  | notJson
  | json (document : Json Double)

/-- What a load answers, the file it leaves and the reason it logs. -/
structure Loaded where
  state : PersistedUsage
  file : UsageFile
  log : Option JsString

def load (file : UsageFile) (currentBootId : JsString) (nowMs : Rat) : Loaded :=
  let fresh := freshState currentBootId nowMs
  match file with
  | .unreadable => ⟨fresh, file, none⟩
  | .notJson => ⟨fresh, .json fresh.json, some (js "invalid-json")⟩
  | .json document =>
    match validate document with
    | .ok state => ⟨state, file, none⟩
    | .error field => ⟨fresh, .json fresh.json, some (js "schema-mismatch: " ++ field)⟩

/-! ### Accounts and documents -/

def persistedSlot (logicalSlotId : JsString) (account : SlotAccount) : PersistedSlot where
  logicalSlotId := logicalSlotId
  cycleBytes := account.cycleBytes
  cycleStartMs := account.cycleStartMs
  mappingGeneration := account.key.map BaselineKey.mappingGeneration
  ifname := account.key.map BaselineKey.ifname
  lastObserved := account.lastObserved

def persistedUsageState (bootId : JsString) (savedAtMs : Rat)
    (accounts : OrderedMap JsString SlotAccount) : PersistedUsage :=
  ⟨bootId, savedAtMs, accounts.items.map fun item => persistedSlot item.1 item.2⟩

/-- A slot resumes its baseline if the document is of this boot and has one. -/
def hydrateSlot (sameBoot : Bool) (bootId : JsString) (slot : PersistedSlot) : SlotAccount :=
  match sameBoot, slot.ifname, slot.mappingGeneration, slot.lastObserved with
  | true, some ifname, some mappingGeneration, some lastObserved =>
    { cycleBytes := slot.cycleBytes
      cycleStartMs := slot.cycleStartMs
      paused := false
      key := some ⟨slot.logicalSlotId, mappingGeneration, ifname, bootId⟩
      lastObserved := some lastObserved }
  | _, _, _, _ =>
    { cycleBytes := slot.cycleBytes
      cycleStartMs := slot.cycleStartMs
      paused := false
      key := none
      lastObserved := none }

def hydrateUsageAccounts (initial : PersistedUsage) (bootId : JsString) :
    OrderedMap JsString SlotAccount :=
  .ofItems (initial.slots.map fun slot =>
    (slot.logicalSlotId, hydrateSlot (initial.bootId = bootId) bootId slot))

/-! ### Reading back -/

/-- A slot is read back as it was written, if its cycle start is a finite number. -/
theorem validateSlot_json {slot : PersistedSlot} {start : Rat}
    (finite : slot.cycleStartMs = .finite start) : validateSlot slot.json = .ok slot := by
  obtain ⟨logicalSlotId, cycleBytes, cycleStartMs, mappingGeneration, ifname, lastObserved⟩ := slot
  cases finite
  cases mappingGeneration <;> cases ifname <;> cases lastObserved <;> rfl

theorem mapM_validateSlot {slots : List PersistedSlot}
    (finite : ∀ slot ∈ slots, ∃ start, slot.cycleStartMs = .finite start) :
    (slots.map PersistedSlot.json).mapM validateSlot = .ok slots := by
  induction slots with
  | nil => rfl
  | cons slot slots ih =>
    obtain ⟨start, isFinite⟩ := finite slot List.mem_cons_self
    rw [List.map_cons, List.mapM_cons, validateSlot_json isFinite,
      ih fun other mem => finite other (List.mem_cons_of_mem _ mem)]
    rfl

variable {state : PersistedUsage}

theorem validate_json (finite : ∀ slot ∈ state.slots, ∃ start, slot.cycleStartMs = .finite start) :
    validate state.json = .ok state := by
  have version : finiteNumber (member state.members (js "schemaVersion")) =
    some usageSchemaVersion := rfl
  have bootId : stringValue (member state.members (js "bootId")) = some state.bootId := rfl
  have savedAtMs : finiteNumber (member state.members (js "savedAtMs")) =
    some state.savedAtMs := rfl
  have slots : member state.members (js "slots") =
    some (.array (state.slots.map PersistedSlot.json)) := rfl
  simp only [validate, PersistedUsage.json, objectMembers, version, bootId, savedAtMs, slots,
    mapM_validateSlot finite]
  rfl

/-- A file that was written is loaded as it was written. -/
theorem load_json (finite : ∀ slot ∈ state.slots, ∃ start, slot.cycleStartMs = .finite start)
    (bootId : JsString) (nowMs : Rat) :
    load (.json state.json) bootId nowMs = ⟨state, .json state.json, none⟩ := by
  simp only [load, validate_json finite]

end ModemStack.Usage
