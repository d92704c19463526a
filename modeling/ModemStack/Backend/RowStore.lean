import ModemStack.Backend.Mapping
import ModemStack.Data.OrderedMap
import Mathlib.Data.Finset.Card

/-!
The observer's rows: one snapshot for each modem path.

A reconciled tree sets and removes rows; a lost source marks them unavailable. A
tree is reconciled to its end if and only if each of its modems has a path and is
not reported locked, and the counter has room for the rows that change
(`snapshots_valid`).
-/

namespace ModemStack.Backend

open ModemStack.Data ModemStack.Domain ModemStack.Text

inductive ObservationFailureReason where
  | notStarted
  | sourceUnavailable
  | busError
deriving DecidableEq

structure Row where
  snapshot : CellularSnapshot
  fingerprint : JsString
deriving DecidableEq

structure ObservationRowStore where
  rows : OrderedMap JsString Row
  revCounter : Nat
  sourceHealthy : Bool
  failureReason : ObservationFailureReason
deriving DecidableEq

inductive ObservationList where
  | ok (rows : List CellularSnapshot)
  | failed (reason : ObservationFailureReason) (rows : List CellularSnapshot)
deriving DecidableEq

/-- A revision is a safe integer. -/
def makeRevision (value : Nat) : Except SnapshotError Revision :=
  if isSafeInteger value then .ok value
  else .error (.domain ⟨js "revision must be a non-negative safe integer, got " ++ printNat value⟩)

namespace ObservationRowStore

def init : ObservationRowStore := ⟨.empty, 0, false, .notStarted⟩

variable (store : ObservationRowStore)

/-- The row is live and says the same. -/
def unchanged (path : JsString) (fp : JsString) : Bool :=
  match store.rows.get path with
  | some existing => existing.fingerprint = fp && existing.snapshot.sourceHealth = .live
  | none => false

/-- The store after its counter was raised. -/
def counted : ObservationRowStore := { store with revCounter := store.revCounter + 1 }

/-- A rejected revision has been counted all the same. -/
def nextRevision : Except SnapshotError Revision := makeRevision store.counted.revCounter

def upsert (path : JsString) (mapped : MappedModem) :
    ObservationRowStore × Except SnapshotError Bool :=
  let fp := fingerprint mapped
  if store.unchanged path fp then (store, .ok false)
  else match store.nextRevision >>= fun revision => createSnapshot { mapped with revision } with
    | .error error => (store.counted, .error error)
    | .ok snapshot => ({ store.counted with rows := store.rows.set path ⟨snapshot, fp⟩ }, .ok true)

/-- The first loop of `reconcile`: rows set before a rejection stay set. -/
def upsertAll (tree : DecodedManagedObjects) :
    List JsString → ObservationRowStore → ObservationRowStore × Except SnapshotError Bool
  | [], store => (store, .ok false)
  | path :: rest, store =>
    match mapModem tree path with
    | .error error => (store, .error (.domain error))
    | .ok mapped =>
      match store.upsert path mapped with
      | (store', .error error) => (store', .error error)
      | (store', .ok changed) =>
        let (store'', result) := upsertAll tree rest store'
        (store'', result.map (changed || ·))

/-- Only here are rows removed. -/
def reconcile (tree : DecodedManagedObjects) :
    ObservationRowStore × Except SnapshotError Bool :=
  let paths := modemPaths tree
  match upsertAll tree paths store with
  | (store', .error error) => (store', .error error)
  | (store', .ok changed) =>
    ({ store' with rows := store'.rows.filter fun path => paths.contains path },
      .ok (changed || store'.rows.items.any fun item => !paths.contains item.1))

def markHealthy : ObservationRowStore × Bool :=
  ({ store with sourceHealthy := true }, !store.sourceHealthy)

/-- The loop of `markUnavailable`. -/
def markItems : List (JsString × Row) → List (JsString × Row) × Except SnapshotError Bool
  | [] => ([], .ok false)
  | (path, row) :: rest =>
    if row.snapshot.sourceHealth = .sourceUnavailable then
      let (rest', result) := markItems rest
      ((path, row) :: rest', result)
    else match markSourceUnavailable row.snapshot with
      | .error error => ((path, row) :: rest, .error error)
      | .ok snapshot =>
        let (rest', result) := markItems rest
        ((path, { row with snapshot }) :: rest', result.map fun _ => true)

def markUnavailable (reason : ObservationFailureReason) :
    ObservationRowStore × Except SnapshotError Bool :=
  match markItems store.rows.items with
  | (items, .error error) => ({ store with rows := ⟨items⟩ }, .error error)
  | (items, .ok changed) =>
    ({ store with rows := ⟨items⟩, sourceHealthy := false, failureReason := reason },
      .ok (changed || store.sourceHealthy))

def list : ObservationList :=
  let rows := store.rows.values.map Row.snapshot
  if store.sourceHealthy then .ok rows else .failed store.failureReason rows

/-- The snapshot listed for a path. -/
def listed (path : JsString) : Option CellularSnapshot := (store.rows.get path).map Row.snapshot

end ObservationRowStore

/-! ### Mapping into valid snapshots -/

/-- A modem path whose mapped state no guard rejects. -/
def Mappable (tree : DecodedManagedObjects) (path : JsString) : Prop :=
  path ≠ [] ∧ numberProp (findInterface tree path modemIface) (js "State") ≠ some (.integer 2)

instance (tree : DecodedManagedObjects) (path : JsString) : Decidable (Mappable tree path) :=
  inferInstanceAs (Decidable (_ ∧ _))

variable {tree : DecodedManagedObjects}

variable {path : JsString}

theorem mappable_iff :
    Mappable tree path ↔ ∃ mapped, mapModem tree path = .ok mapped ∧ Conservative mapped ∧
      mapped.Valid := by
  rcases mapModem_cases tree path with ⟨empty, _, rejected⟩ | ⟨named, mapped, isMapped,
    conservative, isState⟩
  · constructor
    · intro mappable
      exact absurd empty mappable.1
    · rintro ⟨mapped, isMapped, -⟩
      rw [rejected] at isMapped
      cases isMapped
  · have valid_iff : mapped.Valid ↔
        numberProp (findInterface tree path modemIface) (js "State") ≠ some (.integer 2) := by
      rw [conservative.valid_iff, isState, ne_eq, mapMmState_locked]
    simp [Mappable, named, isMapped, conservative, valid_iff]

theorem conservative_of_mapModem {mapped : MappedModem}
    (isMapped : mapModem tree path = .ok mapped) : Conservative mapped := by
  rcases mapModem_cases tree path with ⟨-, _, rejected⟩ | ⟨-, _, isMapped', conservative, -⟩
  · rw [rejected] at isMapped
    cases isMapped
  · obtain rfl := Except.ok.inj (isMapped'.symm.trans isMapped)
    exact conservative

theorem mappable_of_valid {mapped : MappedModem} (isMapped : mapModem tree path = .ok mapped)
    (valid : mapped.Valid) : Mappable tree path :=
  mappable_iff.mpr ⟨mapped, isMapped, conservative_of_mapModem isMapped, valid⟩

/-- A snapshot can be created for every revision. -/
def Creatable (tree : DecodedManagedObjects) (path : JsString) : Prop :=
  ∀ revision : Revision, ∃ mapped snapshot, mapModem tree path = .ok mapped ∧
    createSnapshot { mapped with revision } = .ok snapshot

theorem creatable_iff : Creatable tree path ↔ Mappable tree path := by
  constructor
  · intro creatable
    obtain ⟨mapped, snapshot, isMapped, isSnapshot⟩ := creatable 0
    exact mappable_of_valid isMapped (createSnapshot_ok_iff.mp isSnapshot).1
  · intro mappable revision
    obtain ⟨mapped, isMapped, -, valid⟩ := mappable_iff.mp mappable
    exact ⟨mapped, _, isMapped, createSnapshot_ok_iff.mpr ⟨valid, rfl⟩⟩

namespace ObservationRowStore

variable {store : ObservationRowStore} {tree : DecodedManagedObjects}

/-! ### What setting a row does -/

/-- The counter can be raised once more. -/
def CanCount (store : ObservationRowStore) : Prop :=
  isSafeInteger store.counted.revCounter = true

/-- The row that is set for a mapped modem. -/
def rowOf (store : ObservationRowStore) (mapped : MappedModem) : Row :=
  ⟨{ mapped with revision := store.counted.revCounter }, fingerprint mapped⟩

/-- The store after a row was set for a mapped modem. -/
def withRow (store : ObservationRowStore) (path : JsString) (mapped : MappedModem) :
    ObservationRowStore :=
  { store.counted with rows := store.rows.set path (store.rowOf mapped) }

inductive Upserted (store : ObservationRowStore) (path : JsString) (mapped : MappedModem) :
    ObservationRowStore × Except SnapshotError Bool → Prop
  | kept (same : store.unchanged path (fingerprint mapped) = true) :
      Upserted store path mapped (store, .ok false)
  | rejected (differs : store.unchanged path (fingerprint mapped) = false)
      (cannot : ¬ (store.CanCount ∧ mapped.Valid)) (error : SnapshotError) :
      Upserted store path mapped (store.counted, .error error)
  | set (differs : store.unchanged path (fingerprint mapped) = false)
      (room : store.CanCount) (valid : mapped.Valid) :
      Upserted store path mapped (store.withRow path mapped, .ok true)

theorem nextRevision_ok (room : store.CanCount) :
    store.nextRevision = .ok store.counted.revCounter := by
  unfold CanCount at room
  rw [nextRevision, makeRevision, if_pos room]

theorem nextRevision_error (full : ¬ store.CanCount) :
    ∃ error, store.nextRevision = .error error := by
  unfold CanCount at full
  rw [nextRevision, makeRevision, if_neg full]
  exact ⟨_, rfl⟩

theorem upsert_cases (store : ObservationRowStore) (path : JsString) (mapped : MappedModem) :
    Upserted store path mapped (store.upsert path mapped) := by
  cases same : store.unchanged path (fingerprint mapped) with
  | true =>
    rw [upsert, if_pos same]
    exact .kept same
  | false =>
    rw [upsert, if_neg (by rw [same]; decide)]
    by_cases room : store.CanCount
    · rw [nextRevision_ok room]
      simp only [bind, Except.bind]
      cases created : createSnapshot { mapped with revision := store.counted.revCounter } with
      | error error =>
        have invalid : ¬ mapped.Valid := by
          intro valid
          rw [createSnapshot_ok_iff.mpr ⟨valid, rfl⟩] at created
          cases created
        exact .rejected same (fun both => invalid both.2) error
      | ok =>
        obtain ⟨valid, rfl⟩ := createSnapshot_ok_iff.mp created
        exact .set same room valid
    · obtain ⟨error, isError⟩ := nextRevision_error room
      rw [isError]
      exact .rejected same (fun both => room both.1) error

/-! ### When a tree is reconciled to its end -/

/-- The modem's row is live and says the same. -/
def current (store : ObservationRowStore) (tree : DecodedManagedObjects) (path : JsString) : Bool :=
  match mapModem tree path with
  | .ok mapped => store.unchanged path (fingerprint mapped)
  | .error _ => false

/-- The paths whose rows would change. -/
def changing (store : ObservationRowStore) (tree : DecodedManagedObjects)
    (paths : List JsString) : Finset JsString :=
  paths.toFinset.filter fun path => store.current tree path = false

/-- The counter can be raised for each row that would change. -/
def HasRoom (store : ObservationRowStore) (tree : DecodedManagedObjects)
    (paths : List JsString) : Prop :=
  store.changing tree paths = ∅ ∨
    isSafeInteger (store.revCounter + (store.changing tree paths).card : Nat) = true

theorem isSafeInteger_natCast {n : Nat} : isSafeInteger n = true ↔ n ≤ 9007199254740991 := by
  have bound : maxSafeInteger = 9007199254740991 := rfl
  simp only [isSafeInteger, bound, Bool.and_eq_true, decide_eq_true_eq]
  omega

variable {path : JsString}

theorem changing_cons_of_current {paths : List JsString} (same : store.current tree path = true) :
    store.changing tree (path :: paths) = store.changing tree paths := by
  simp [changing, Finset.filter_insert, same]

theorem current_withRow {mapped : MappedModem} (isMapped : mapModem tree path = .ok mapped)
    (live : mapped.sourceHealth = .live) (other : JsString) :
    (store.withRow path mapped).current tree other =
      (decide (other = path) || store.current tree other) := by
  by_cases same : other = path
  · subst same
    simp [current, isMapped, unchanged, withRow, rowOf, live]
  · have apart : ¬ path = other := Ne.symm same
    simp [current, unchanged, withRow, counted, same]

theorem changing_cons_of_set (paths : List JsString) {mapped : MappedModem}
    (isMapped : mapModem tree path = .ok mapped) (live : mapped.sourceHealth = .live)
    (differs : store.current tree path = false) : (store.changing tree (path :: paths)).card =
      ((store.withRow path mapped).changing tree paths).card + 1 := by
  have apart : path ∉ (store.withRow path mapped).changing tree paths := by
    simp [changing, current_withRow isMapped live]
  have cons : store.changing tree (path :: paths) =
      insert path ((store.withRow path mapped).changing tree paths) := by
    ext other
    by_cases same : other = path
    · subst same
      simp [changing, differs]
    · simp [changing, same, current_withRow isMapped live]
  rw [cons, Finset.card_insert_of_notMem apart]

theorem exists_map_ok {f : Bool → Bool} {result : Except SnapshotError Bool} :
    (∃ changed, result.map f = .ok changed) ↔ ∃ changed, result = .ok changed := by
  cases result <;> simp [Except.map]

/-- The loop over mappable paths ends if and only if the counter has room. -/
theorem upsertAll_ok_iff {paths : List JsString} (mappable : ∀ p ∈ paths, Mappable tree p) :
    (∃ changed, (upsertAll tree paths store).2 = .ok changed) ↔ store.HasRoom tree paths := by
  induction paths generalizing store with
  | nil => exact ⟨fun _ => .inl rfl, fun _ => ⟨false, rfl⟩⟩
  | cons path paths ih =>
    obtain ⟨first, others⟩ := List.forall_mem_cons.mp mappable
    obtain ⟨mapped, isMapped, conservative, valid⟩ := mappable_iff.mp first
    have isCurrent : store.current tree path = store.unchanged path (fingerprint mapped) := by
      rw [current, isMapped]
    have upserted := upsert_cases store path mapped
    unfold upsertAll
    simp only [isMapped]
    generalize store.upsert path mapped = outcome at upserted
    cases upserted with
    | kept same =>
      rw [HasRoom, changing_cons_of_current (isCurrent.trans same)]
      exact exists_map_ok.trans (ih others)
    | rejected differs cannot error =>
      have full : ¬ store.CanCount := fun room => cannot ⟨room, valid⟩
      have more := changing_cons_of_set paths isMapped conservative.sourceHealth
        (isCurrent.trans differs)
      refine iff_of_false (by rintro ⟨_, ⟨⟩⟩) ?_
      rw [HasRoom, ← Finset.card_eq_zero]
      rw [CanCount, isSafeInteger_natCast] at full
      simp only [counted] at full
      rw [isSafeInteger_natCast]
      omega
    | set differs room _ =>
      have more := changing_cons_of_set paths isMapped conservative.sourceHealth
        (isCurrent.trans differs)
      refine exists_map_ok.trans ((ih others).trans ?_)
      rw [CanCount, isSafeInteger_natCast] at room
      simp only [HasRoom, ← Finset.card_eq_zero, isSafeInteger_natCast]
      simp only [counted] at room
      have count : (store.withRow path mapped).revCounter = store.revCounter + 1 := rfl
      omega

/-- Every modem of a tree gets its snapshot and the tree is reconciled to its end if and
only if each modem has a path and is not reported locked, and the counter has room. -/
theorem snapshots_valid (store : ObservationRowStore) (tree : DecodedManagedObjects) :
    ((∀ path ∈ modemPaths tree, Creatable tree path) ∧
        ∃ changed, (store.reconcile tree).2 = .ok changed) ↔
      (∀ path ∈ modemPaths tree, Mappable tree path) ∧
        store.HasRoom tree (modemPaths tree) := by
  have ends : (∃ changed, (store.reconcile tree).2 = .ok changed) ↔
      ∃ changed, (upsertAll tree (modemPaths tree) store).2 = .ok changed := by
    simp only [reconcile]
    generalize upsertAll tree (modemPaths tree) store = outcome
    rcases outcome with ⟨store', error | changed⟩ <;> simp
  simp only [creatable_iff]
  constructor
  · rintro ⟨mappable, reconciled⟩
    exact ⟨mappable, (upsertAll_ok_iff mappable).mp (ends.mp reconciled)⟩
  · rintro ⟨mappable, room⟩
    exact ⟨mappable, ends.mpr ((upsertAll_ok_iff mappable).mpr room)⟩

/-- A tree with one modem, which waits for its PIN. -/
def lockedModem : DecodedManagedObjects :=
  [(js "/org/freedesktop/ModemManager1/Modem/0",
    [(modemIface, [(js "State", ⟨js "i", .number (.integer 2)⟩)])])]

/-- The mapped state of a modem that waits for its PIN violates a guard, and its tree is
rejected by an empty store. -/
theorem snapshots_valid_fails : ∃ tree, ∃ path ∈ modemPaths tree,
    (∀ revision, ∃ mapped, mapModem tree path = .ok mapped ∧
      createSnapshot { mapped with revision } =
        .error (.impossibleState ⟨.mmLockedWithoutSimLock, js "mmState=locked"⟩)) ∧
      (init.reconcile tree).2 =
        .error (.impossibleState ⟨.mmLockedWithoutSimLock, js "mmState=locked"⟩) := by
  refine ⟨lockedModem, _, List.mem_cons_self, ?_, ?_⟩
  · intro revision
    exact ⟨_, rfl, rfl⟩
  · rfl

end ObservationRowStore

end ModemStack.Backend
