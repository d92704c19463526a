import ModemStack.Data.OrderedMap
import ModemStack.Text.Number

/-!
JavaScript values: scalars, arrays, and objects that are built key by key.

An object keeps its keys in the order in which they were first set; no order but that of
`propertyOrder` is ever seen.
-/

namespace ModemStack.Text

open ModemStack.Data

inductive JsValue where
  | null
  | bool (value : Bool)
  | number (value : Double)
  | string (value : JsString)
  | array (items : List JsValue)
  /-- `plain`: its prototype is `Object.prototype`. -/
  | object (plain : Bool) (members : List (JsString × JsValue))

namespace JsValue

/-- Objects and arrays. -/
def isObject : JsValue → Bool
  | .array _ | .object _ _ => true
  | _ => false

/-- An own property. -/
def get (key : JsString) : JsValue → Option JsValue
  | .object _ members => OrderedMap.getItem key members
  | _ => none

/-- `Object.keys` -/
def keys : JsValue → List JsString
  | .object _ members => members.map Prod.fst
  | _ => []

/-! ### Objects built by assignment -/

/-- The key whose assignment sets the prototype. -/
def protoKey : JsString := js "__proto__"

/-- `target[key] = value`, the target being plain or not. A scalar is no prototype. -/
def assign (target : Bool × List (JsString × JsValue)) (entry : JsString × JsValue) :
    Bool × List (JsString × JsValue) :=
  if entry.1 = protoKey then (target.1 && !entry.2.isObject, target.2)
  else (target.1, OrderedMap.setItem entry.1 entry.2 target.2)

/-- An object literal with no properties, and the assignments made to it. -/
def objectOf (entries : List (JsString × JsValue)) : JsValue :=
  let built := entries.foldl assign (true, [])
  .object built.1 built.2

/-- No entry gives the object another prototype. -/
def keepsPrototype (entries : List (JsString × JsValue)) : Bool :=
  entries.all fun entry => entry.1 ≠ protoKey || !entry.2.isObject

section Assign

variable {entries : List (JsString × JsValue)} {target : Bool × List (JsString × JsValue)}
  {key : JsString}

theorem assign_plain (entry : JsString × JsValue) :
    (assign target entry).1 = (target.1 && (entry.1 ≠ protoKey || !entry.2.isObject)) := by
  by_cases same : entry.1 = protoKey <;> simp [assign, same]

theorem getItem_assign (entry : JsString × JsValue) (named : key ≠ protoKey) :
    OrderedMap.getItem key (assign target entry).2 =
      if entry.1 = key then some entry.2 else OrderedMap.getItem key target.2 := by
  by_cases same : entry.1 = protoKey
  · have differs : entry.1 ≠ key := fun isKey => named (isKey.symm.trans same)
    rw [assign, if_pos same, if_neg differs]
  · rw [assign, if_neg same]
    have set := OrderedMap.get_set ⟨target.2⟩ entry.1 key entry.2
    simp only [OrderedMap.get, OrderedMap.set] at set
    rw [set]
    by_cases isKey : entry.1 = key
    · rw [if_pos isKey, if_pos isKey.symm]
    · rw [if_neg isKey, if_neg (Ne.symm isKey)]

theorem foldl_assign_plain :
    (entries.foldl assign target).1 = (target.1 && keepsPrototype entries) := by
  induction entries generalizing target with
  | nil => simp [keepsPrototype]
  | cons entry rest ih =>
    rw [List.foldl_cons, ih, assign_plain]
    simp [keepsPrototype, Bool.and_assoc]

theorem getItem_append {α : Type} (first second : List (JsString × α)) :
    OrderedMap.getItem key (first ++ second) =
      (OrderedMap.getItem key first).or (OrderedMap.getItem key second) := by
  induction first with
  | nil => rfl
  | cons entry rest ih =>
    by_cases same : entry.1 = key
    · simp [OrderedMap.getItem, same]
    · simpa [OrderedMap.getItem, same] using ih

/-- The last assignment to a key counts. -/
theorem getItem_foldl_assign (named : key ≠ protoKey) :
    OrderedMap.getItem key (entries.foldl assign target).2 =
      (OrderedMap.getItem key entries.reverse).or (OrderedMap.getItem key target.2) := by
  induction entries generalizing target with
  | nil => rfl
  | cons entry rest ih =>
    rw [List.foldl_cons, ih, getItem_assign entry named, List.reverse_cons, getItem_append,
      Option.or_assoc]
    congr 1
    by_cases same : entry.1 = key <;> simp [OrderedMap.getItem, same]

end Assign

/-! ### Literals -/

theorem setItem_of_new {α : Type} {key : JsString} {value : α} {items : List (JsString × α)}
    (new : key ∉ items.map Prod.fst) :
    OrderedMap.setItem key value items = items ++ [(key, value)] := by
  induction items with
  | nil => rfl
  | cons item rest ih =>
    rw [List.map_cons, List.mem_cons, not_or] at new
    rw [OrderedMap.setItem, if_neg (Ne.symm new.1), ih new.2, List.cons_append]

variable {entries : List (JsString × JsValue)}

theorem foldl_assign_of_nodup {target : Bool × List (JsString × JsValue)}
    (nodup : ((target.2 ++ entries).map Prod.fst).Nodup) (named : protoKey ∉ entries.map Prod.fst) :
    entries.foldl assign target = (target.1, target.2 ++ entries) := by
  induction entries generalizing target with
  | nil => simp
  | cons entry rest ih =>
    rw [List.map_cons, List.mem_cons, not_or] at named
    have new : entry.1 ∉ target.2.map Prod.fst := by
      rw [List.map_append, List.nodup_append] at nodup
      intro mem
      exact nodup.2.2 _ mem _ (by simp) rfl
    rw [List.foldl_cons, assign, if_neg (Ne.symm named.1), setItem_of_new new, ih]
    · simp
    · simpa using nodup
    · exact named.2

theorem objectOf_of_nodup (nodup : (entries.map Prod.fst).Nodup)
    (named : protoKey ∉ entries.map Prod.fst) : objectOf entries = .object true entries := by
  have built : entries.foldl assign (true, []) = (true, [] ++ entries) :=
    foldl_assign_of_nodup nodup named
  rw [objectOf, built]
  rfl

/-! ### What an object holds -/

/-- The value last assigned to a key. -/
def lastOf {α : Type} (key : JsString) (entries : List (JsString × α)) : Option α :=
  OrderedMap.getItem key entries.reverse

theorem getItem_map {α β : Type} (f : JsString → α → β) (key : JsString)
    (items : List (JsString × α)) :
    OrderedMap.getItem key (items.map fun item => (item.1, f item.1 item.2)) =
      (OrderedMap.getItem key items).map (f key) := by
  induction items with
  | nil => rfl
  | cons item rest ih =>
    by_cases same : item.1 = key
    · simp [OrderedMap.getItem, same]
    · simpa [OrderedMap.getItem, same] using ih

theorem lastOf_map {α β : Type} (f : JsString → α → β) (key : JsString)
    (entries : List (JsString × α)) :
    lastOf key (entries.map fun entry => (entry.1, f entry.1 entry.2)) =
      (lastOf key entries).map (f key) := by
  rw [lastOf, ← List.map_reverse, getItem_map, lastOf]

theorem mem_of_getItem {α : Type} {key : JsString} {value : α} {items : List (JsString × α)}
    (found : OrderedMap.getItem key items = some value) : (key, value) ∈ items := by
  induction items with
  | nil => cases found
  | cons item rest ih =>
    rw [OrderedMap.getItem] at found
    split at found
    · next same =>
      cases found
      rw [← same]
      exact List.mem_cons_self
    · exact List.mem_cons_of_mem _ (ih found)

/-- What an object holds was assigned to it. -/
theorem mem_foldl_assign {target : Bool × List (JsString × JsValue)} {entry : JsString × JsValue}
    (mem : entry ∈ (entries.foldl assign target).2) : entry ∈ target.2 ∨ entry ∈ entries := by
  induction entries generalizing target with
  | nil => exact .inl mem
  | cons first rest ih =>
    rcases ih mem with before | later
    · by_cases isProto : first.1 = protoKey
      · rw [assign, if_pos isProto] at before
        exact .inl before
      · rw [assign, if_neg isProto] at before
        rcases OrderedMap.mem_setItem before with old | rfl
        · exact .inl old
        · exact .inr List.mem_cons_self
    · exact .inr (List.mem_cons_of_mem _ later)

theorem mem_of_lastOf {α : Type} {key : JsString} {value : α} {entries : List (JsString × α)}
    (found : lastOf key entries = some value) : (key, value) ∈ entries :=
  List.mem_reverse.mp (mem_of_getItem found)

/-- The own properties that assignments make. -/
def membersOf (entries : List (JsString × JsValue)) : List (JsString × JsValue) :=
  (entries.foldl assign (true, [])).2

theorem objectOf_eq (entries : List (JsString × JsValue)) :
    objectOf entries = .object (keepsPrototype entries) (membersOf entries) := by
  rw [objectOf, foldl_assign_plain]
  rfl

theorem getItem_membersOf {key : JsString} (named : key ≠ protoKey) :
    OrderedMap.getItem key (membersOf entries) = lastOf key entries := by
  rw [membersOf, getItem_foldl_assign named, lastOf]
  exact Option.or_none

theorem keys_setItem {α : Type} (key : JsString) (value : α) (items : List (JsString × α)) :
    (OrderedMap.setItem key value items).map Prod.fst =
      if key ∈ items.map Prod.fst then items.map Prod.fst else items.map Prod.fst ++ [key] := by
  by_cases mem : key ∈ items.map Prod.fst
  · rw [if_pos mem]
    induction items with
    | nil => cases mem
    | cons item rest ih =>
      rw [OrderedMap.setItem]
      split
      · next same => rw [List.map_cons, List.map_cons, same]
      · next differs =>
        have later : key ∈ rest.map Prod.fst :=
          (List.mem_cons.mp mem).resolve_left (Ne.symm differs)
        rw [List.map_cons, ih later, List.map_cons]
  · rw [if_neg mem, setItem_of_new mem, List.map_append]
    rfl

/-- Which keys there are, and their order, depends on the keys alone. -/
theorem keys_foldl_assign {entries other : List (JsString × JsValue)}
    {target target' : Bool × List (JsString × JsValue)}
    (same : entries.map Prod.fst = other.map Prod.fst)
    (begun : target.2.map Prod.fst = target'.2.map Prod.fst) :
    (entries.foldl assign target).2.map Prod.fst = (other.foldl assign target').2.map Prod.fst := by
  induction entries generalizing other target target' with
  | nil =>
    rw [List.map_nil, eq_comm, List.map_eq_nil_iff] at same
    rw [same]
    exact begun
  | cons entry rest ih =>
    cases other with
    | nil => cases same
    | cons =>
      rw [List.map_cons, List.map_cons, List.cons.injEq] at same
      rw [List.foldl_cons, List.foldl_cons]
      refine ih same.2 ?_
      unfold assign
      rw [same.1]
      split
      · exact begun
      · rw [keys_setItem, keys_setItem, begun]

theorem keys_nodup_foldl {target : Bool × List (JsString × JsValue)}
    (begun : (target.2.map Prod.fst).Nodup) (named : protoKey ∉ target.2.map Prod.fst) :
    ((entries.foldl assign target).2.map Prod.fst).Nodup ∧
      protoKey ∉ (entries.foldl assign target).2.map Prod.fst := by
  induction entries generalizing target with
  | nil => exact ⟨begun, named⟩
  | cons entry rest ih =>
    rw [List.foldl_cons]
    by_cases isProto : entry.1 = protoKey
    · rw [assign, if_pos isProto]
      exact ih begun named
    · rw [assign, if_neg isProto]
      refine ih ?_ ?_
      · rw [keys_setItem]
        split
        · exact begun
        · next new =>
          rw [List.nodup_append]
          refine ⟨begun, by simp, fun key mem other isOther same => ?_⟩
          exact new (List.mem_singleton.mp isOther ▸ same ▸ mem)
      · rw [keys_setItem]
        split
        · exact named
        · rw [List.mem_append, List.mem_singleton, not_or]
          exact ⟨named, Ne.symm isProto⟩

theorem keys_membersOf (entries : List (JsString × JsValue)) :
    ((membersOf entries).map Prod.fst).Nodup ∧ protoKey ∉ (membersOf entries).map Prod.fst :=
  keys_nodup_foldl .nil List.not_mem_nil

theorem map_eq_filterMap {α β : Type} (f : JsString → α → β) {items : List (JsString × α)}
    (nodup : (items.map Prod.fst).Nodup) :
    items.map (fun item => (item.1, f item.1 item.2)) =
      (items.map Prod.fst).filterMap fun key =>
        ((OrderedMap.getItem key items).map (f key)).map (Prod.mk key) := by
  induction items with
  | nil => rfl
  | cons item rest ih =>
    rw [List.map_cons, List.nodup_cons] at nodup
    have head : OrderedMap.getItem item.1 (item :: rest) = some item.2 := by
      rw [OrderedMap.getItem, if_pos rfl]
    rw [List.map_cons, ih nodup.2, List.map_cons, List.filterMap_cons, head]
    refine congrArg _ (List.filterMap_congr fun key mem => ?_)
    have differs : item.1 ≠ key := fun same => nodup.1 (same ▸ mem)
    rw [OrderedMap.getItem, if_neg differs]

/-- Objects with the same keys, whose properties look the same. -/
theorem membersOf_congr {β : Type} (f : JsString → JsValue → β)
    {entries other : List (JsString × JsValue)} (keys : entries.map Prod.fst = other.map Prod.fst)
    (same : ∀ key ≠ protoKey, (lastOf key entries).map (f key) = (lastOf key other).map (f key)) :
    (membersOf entries).map (fun item => (item.1, f item.1 item.2)) =
      (membersOf other).map fun item => (item.1, f item.1 item.2) := by
  rw [map_eq_filterMap f (keys_membersOf entries).1, map_eq_filterMap f (keys_membersOf other).1]
  have sameKeys : (membersOf entries).map Prod.fst = (membersOf other).map Prod.fst :=
    keys_foldl_assign keys rfl
  rw [sameKeys]
  refine List.filterMap_congr fun key mem => ?_
  have named : key ≠ protoKey := fun isProto => (keys_membersOf other).2 (isProto ▸ mem)
  rw [getItem_membersOf named, getItem_membersOf named, same key named]

end JsValue

/-! ### The order of properties -/

/-- A key that is the decimal text of an array index. -/
def arrayIndex (key : JsString) : Option Nat :=
  let digits := key.all fun c => 0x30 ≤ c.toNat && c.toNat ≤ 0x39
  let value := key.foldl (fun n c => n * 10 + (c.toNat - 0x30)) 0
  if digits ∧ printNat value = key ∧ value < 2 ^ 32 - 1 then some value else none

/-- The order in which own properties are seen: array indices, then the order of insertion. -/
def propertyOrder {α : Type} (members : List (JsString × α)) : List (JsString × α) :=
  let indices := members.filter fun entry => (arrayIndex entry.1).isSome
  indices.mergeSort (fun left right => (arrayIndex left.1).getD 0 ≤ (arrayIndex right.1).getD 0) ++
    members.filter fun entry => (arrayIndex entry.1).isNone

theorem propertyOrder_perm {α : Type} (members : List (JsString × α)) :
    (propertyOrder members).Perm members := by
  have sorted := (List.mergeSort_perm (members.filter fun entry => (arrayIndex entry.1).isSome)
    fun left right => (arrayIndex left.1).getD 0 ≤ (arrayIndex right.1).getD 0).append_right
      (members.filter fun entry => (arrayIndex entry.1).isNone)
  have others : (members.filter fun entry => (arrayIndex entry.1).isNone) =
      members.filter fun entry => !(arrayIndex entry.1).isSome := by
    simp
  refine sorted.trans ?_
  rw [others]
  exact List.filter_append_perm _ members

end ModemStack.Text
