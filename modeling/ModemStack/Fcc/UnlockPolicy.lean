import ModemStack.Storage.RowFile
import ModemStack.Usage.Persistence

/-!
The FCC auto-unlock policy: which models it can be set for, the document it is kept in and
the write of one model's answer.
-/

namespace ModemStack.Fcc

open ModemStack.Async ModemStack.Async.Program ModemStack.Data ModemStack.Storage
  ModemStack.Text
open ModemStack.Usage (Checked finiteNumber objectMembers)

/-! ### Coverage -/

def isLowerHex (c : UInt16) : Bool :=
  (0x30 ≤ c.toNat && c.toNat ≤ 0x39) || (0x61 ≤ c.toNat && c.toNat ≤ 0x66)

/-- A string in the dispatcher's `<vid>:<pid>` shape. -/
def isFccUnlockKey (value : JsString) : Bool :=
  value.length = 9 && (value.take 4).all isLowerHex && value[4]? = some colon &&
    (value.drop 5).all isLowerHex

abbrev FccUnlockKey := { key : JsString // isFccUnlockKey key = true }

/-- `unlock` is the operator's answer for each model. -/
structure PersistedFccUnlockPolicy where
  savedAtMs : Rat
  unlock : OrderedMap FccUnlockKey Bool
  distinct : unlock.keys.Nodup

def unlockMembers (unlock : OrderedMap FccUnlockKey Bool) : List (JsString × Json Double) :=
  unlock.items.map fun item => (item.1.val, .bool item.2)

def PersistedFccUnlockPolicy.members (state : PersistedFccUnlockPolicy) :
    List (JsString × Json Double) :=
  [(js "schemaVersion", .number (.finite 1)), (js "savedAtMs", .number (.finite state.savedAtMs)),
    (js "unlock", .object (unlockMembers state.unlock))]

def PersistedFccUnlockPolicy.json (state : PersistedFccUnlockPolicy) : Json Double :=
  .object state.members

def validateEntry (entry : JsString × Json Double) : Checked (FccUnlockKey × Bool) :=
  if isKey : isFccUnlockKey entry.1 = true then
    match entry.2 with
    | .bool value => .ok (⟨entry.1, isKey⟩, value)
    | _ => .error (js "unlock.value")
  else .error (js "unlock.key")

/-- The whole document is rejected for one bad key. -/
def validate (raw : Json Double) : Checked PersistedFccUnlockPolicy :=
  match objectMembers raw with
  | none => .error (js "document")
  | some doc =>
    if finiteNumber (member doc (js "schemaVersion")) ≠ some 1 then
      .error (js "schemaVersion")
    else
      match finiteNumber (member doc (js "savedAtMs")), member doc (js "unlock") with
      | none, _ => .error (js "savedAtMs")
      | some savedAtMs, some (.object members) =>
        -- a parsed object has the last of each key's members
        ((OrderedMap.ofItems members).items.mapM validateEntry).map fun items =>
          ⟨savedAtMs, .ofItems items, OrderedMap.nodup_ofItems items⟩
      | _, _ => .error (js "unlock")

theorem mapM_validateEntry (items : List (FccUnlockKey × Bool)) :
    (items.map fun item => (item.1.val, Json.bool item.2)).mapM validateEntry = .ok items := by
  induction items with
  | nil => rfl
  | cons item items ih =>
    have valid : validateEntry (item.1.val, .bool item.2) = .ok item := dif_pos item.1.property
    rw [List.map_cons, List.mapM_cons, valid, ih]
    rfl

theorem validate_json (state : PersistedFccUnlockPolicy) : validate state.json = .ok state := by
  have version : finiteNumber (member state.members (js "schemaVersion")) = some 1 := rfl
  have savedAt : finiteNumber (member state.members (js "savedAtMs")) =
    some state.savedAtMs := rfl
  have unlock : member state.members (js "unlock") =
    some (.object (unlockMembers state.unlock)) := rfl
  have keys : ((unlockMembers state.unlock).map Prod.fst).Nodup := by
    rw [unlockMembers, List.map_map]
    exact (List.map_map ▸ state.distinct.map Subtype.val_injective :
      (state.unlock.items.map (Subtype.val ∘ Prod.fst)).Nodup)
  rw [validate, PersistedFccUnlockPolicy.json]
  simp only [objectMembers, version, savedAt, unlock, OrderedMap.ofItems_items keys]
  rw [if_neg (not_not_intro rfl), unlockMembers, mapM_validateEntry]
  simp only [Except.map, OrderedMap.ofItems_items state.distinct]

inductive SetFccUnlockPolicyRejection where
  | invalidVidPid
  | notCovered
deriving DecidableEq

inductive SetFccUnlockPolicyResult where
  | applied (key : FccUnlockKey) (enabled : Bool) (policy : PersistedFccUnlockPolicy)
      (changed : Bool)
  | rejected (reason : SetFccUnlockPolicyRejection)

def SetFccUnlockPolicyResult.written :
    SetFccUnlockPolicyResult → Option (FccUnlockKey × Option Bool)
  | .applied key enabled _ _ => some (key, some enabled)
  | .rejected _ => none

end ModemStack.Fcc
