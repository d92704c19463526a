import ModemStack.Backend.Fingerprint
import ModemStack.Backend.Revisions

/-!
What the rows show of a tree that was reconciled.

A reconcile that returns shows the modems of the tree, each once, and says whether the
listed rows changed. One that throws leaves the rows it set before; it leaves the rows as
they were just when the first modem whose row would change is the one it throws on
(`reconcile_mirrors`).
-/

namespace ModemStack.Backend

open ModemStack.Data ModemStack.Domain ModemStack.Text

def ObservationList.rows : ObservationList → List CellularSnapshot
  | .ok rows => rows
  | .failed _ rows => rows

namespace ObservationRowStore

variable {store : ObservationRowStore} {tree : DecodedManagedObjects}

/-- The listed rows, whatever their revisions. -/
def shown (store : ObservationRowStore) : List SnapshotFields :=
  store.list.rows.map (·.toSnapshotFields)

theorem shown_eq (store : ObservationRowStore) :
    store.shown = store.rows.values.map fun row => row.snapshot.toSnapshotFields := by
  unfold shown list
  split <;> simp [ObservationList.rows]

/-- What a reconcile has to do: show the modems of the tree, each once, and say whether it
changed what is listed; or throw and change nothing. -/
structure Mirrors (store : ObservationRowStore) (tree : DecodedManagedObjects) : Prop where
  complete : ∀ changed, (store.reconcile tree).2 = .ok changed →
    ∀ path ∈ modemPaths tree, ∃ fields ∈ (store.reconcile tree).1.shown,
      mapModem tree path = .ok fields
  sound : ∀ changed, (store.reconcile tree).2 = .ok changed →
    ∀ fields ∈ (store.reconcile tree).1.shown, ∃ path ∈ modemPaths tree,
      mapModem tree path = .ok fields
  once : ∀ changed, (store.reconcile tree).2 = .ok changed →
    (store.reconcile tree).1.shown.Nodup
  reports : ∀ changed, (store.reconcile tree).2 = .ok changed →
    (changed = true ↔ (store.reconcile tree).1.shown ≠ store.shown)
  atomic : ∀ error, (store.reconcile tree).2 = .error error →
    (store.reconcile tree).1.rows = store.rows

/-! ### One turn of the loop -/

/-- What the loop comes to, by its first path. -/
inductive Turn (store : ObservationRowStore) (tree : DecodedManagedObjects) (path : JsString)
    (rest : List JsString) : ObservationRowStore × Except SnapshotError Bool → Prop
  | unmapped {error : DomainError} (rejected : mapModem tree path = .error error) :
      Turn store tree path rest (store, .error (.domain error))
  | kept (same : store.current tree path = true) :
      Turn store tree path rest (upsertAll tree rest store)
  | rejected {mapped : MappedModem} (isMapped : mapModem tree path = .ok mapped)
      (differs : store.current tree path = false)
      (cannot : ¬ (store.CanCount ∧ mapped.Valid)) (error : SnapshotError) :
      Turn store tree path rest (store.counted, .error error)
  | set {mapped : MappedModem} (isMapped : mapModem tree path = .ok mapped)
      (differs : store.current tree path = false) (room : store.CanCount)
      (valid : mapped.Valid) :
      Turn store tree path rest ((upsertAll tree rest (store.withRow path mapped)).1,
        (upsertAll tree rest (store.withRow path mapped)).2.map fun _ => true)

theorem upsertAll_turn (store : ObservationRowStore) (tree : DecodedManagedObjects)
    (path : JsString) (rest : List JsString) :
    Turn store tree path rest (upsertAll tree (path :: rest) store) := by
  cases isMapped : mapModem tree path with
  | error =>
    rw [upsertAll, isMapped]
    exact .unmapped isMapped
  | ok mapped =>
    have isCurrent : store.current tree path = store.unchanged path (fingerprint mapped) := by
      rw [current, isMapped]
    have upserted := upsert_cases store path mapped
    unfold upsertAll
    simp only [isMapped]
    generalize store.upsert path mapped = outcome at upserted
    cases upserted with
    | kept same =>
      have result : (upsertAll tree rest store).2.map (false || ·) =
          (upsertAll tree rest store).2 := by
        cases (upsertAll tree rest store).2 <;> rfl
      simp only [result]
      exact .kept (isCurrent.trans same)
    | rejected differs cannot error =>
      exact .rejected isMapped (isCurrent.trans differs) cannot error
    | set differs room valid => exact .set isMapped (isCurrent.trans differs) room valid

variable {path : JsString}

/-- A row that is current stays current. -/
theorem current_upsertAll (paths : List JsString) (same : store.current tree path = true) :
    (upsertAll tree paths store).1.current tree path = true := by
  induction paths generalizing store with
  | nil => exact same
  | cons first rest ih =>
    have turn := upsertAll_turn store tree first rest
    generalize upsertAll tree (first :: rest) store = outcome at turn
    cases turn with
    | unmapped => exact same
    | kept => exact ih same
    | rejected => exact same
    | set isMapped differs room valid =>
      apply ih
      rw [current_withRow isMapped (conservative_of_mapModem isMapped).sourceHealth, same,
        Bool.or_true]

/-! ### Rows that show what their fingerprint tells -/

/-- A row of a modem that was mapped from a tree. -/
structure Row.Faithful (path : JsString) (row : Row) : Prop where
  valid : row.snapshot.Valid
  mapped : ∃ mapped, FromTree mapped ∧ mapped.identity.runtimePath = path ∧
    row.fingerprint = fingerprint mapped ∧
    row.snapshot.toSnapshotFields = { mapped with sourceHealth := row.snapshot.sourceHealth }

structure Faithful (store : ObservationRowStore) : Prop where
  distinct : store.rows.keys.Nodup
  rows : ∀ path row, store.rows.get path = some row → Row.Faithful path row

theorem Row.Faithful.runtimePath {row : Row} (faithful : Row.Faithful path row) :
    row.snapshot.identity.runtimePath = path := by
  obtain ⟨mapped, -, isPath, -, fields⟩ := faithful.mapped
  have sameIdentity := congrArg (·.identity.runtimePath) fields
  exact sameIdentity.trans isPath

theorem Faithful.valid (faithful : store.Faithful) :
    ∀ row ∈ store.rows.values, row.snapshot.Valid := by
  intro row mem
  obtain ⟨item, listed, rfl⟩ := List.mem_map.mp mem
  exact (faithful.rows item.1 item.2 (OrderedMap.get_of_mem_items faithful.distinct listed)).valid

variable {mapped : MappedModem} {paths : List JsString} {changed : Bool}

theorem rowOf_faithful (isMapped : mapModem tree path = .ok mapped) (valid : mapped.Valid) :
    Row.Faithful path (store.rowOf mapped) := by
  obtain ⟨fromTree, isPath⟩ := fromTree_of_mapModem isMapped
  exact ⟨valid, mapped, fromTree, isPath, rfl, rfl⟩

theorem Faithful.withRow (faithful : store.Faithful) (isMapped : mapModem tree path = .ok mapped)
    (valid : mapped.Valid) : (store.withRow path mapped).Faithful := by
  constructor
  · exact OrderedMap.nodup_set faithful.distinct path _
  · intro other row here
    simp only [ObservationRowStore.withRow, OrderedMap.get_set] at here
    split at here
    next same =>
      obtain rfl := Option.some.inj here
      rw [same]
      exact rowOf_faithful isMapped valid
    next => exact faithful.rows other row here

theorem Faithful.counted (faithful : store.Faithful) : store.counted.Faithful :=
  ⟨faithful.distinct, faithful.rows⟩

theorem Faithful.upsertAll (faithful : store.Faithful) (paths : List JsString) :
    (upsertAll tree paths store).1.Faithful := by
  induction paths generalizing store with
  | nil => exact faithful
  | cons path rest ih =>
    have turn := upsertAll_turn store tree path rest
    generalize ObservationRowStore.upsertAll tree (path :: rest) store = outcome at turn
    cases turn with
    | unmapped => exact faithful
    | kept => exact ih faithful
    | rejected => exact faithful.counted
    | set isMapped differs room valid => exact ih (faithful.withRow isMapped valid)

theorem Faithful.loop (faithful : store.Faithful) {store' : ObservationRowStore}
    {result : Except SnapshotError Bool}
    (isLoop : ObservationRowStore.upsertAll tree paths store = (store', result)) :
    store'.Faithful := by
  have reached : (ObservationRowStore.upsertAll tree paths store).1.Faithful :=
    faithful.upsertAll paths
  rwa [isLoop] at reached

theorem Faithful.filter (faithful : store.Faithful) (keep : JsString → Bool) :
    Faithful { store with rows := store.rows.filter keep } := by
  constructor
  · exact OrderedMap.nodup_filter faithful.distinct keep
  · intro path row here
    simp only [OrderedMap.get_filter] at here
    split at here
    · exact faithful.rows path row here
    · cases here

theorem Faithful.reconcile (faithful : store.Faithful) : (store.reconcile tree).1.Faithful := by
  rcases reconcile_store store tree with same | filtered
  · rw [same]
    exact faithful.upsertAll _
  · rw [filtered]
    exact (faithful.upsertAll _).filter _

theorem marked_faithful {row : Row} (faithful : Row.Faithful path row) :
    Row.Faithful path (marked row) := by
  refine ⟨marked_valid faithful.valid, ?_⟩
  obtain ⟨mapped, fromTree, isPath, fingerprinted, fields⟩ := faithful.mapped
  refine ⟨mapped, fromTree, isPath, ?_, ?_⟩
  · unfold marked
    split <;> exact fingerprinted
  · unfold marked
    split
    · exact fields
    · exact congrArg
        (fun s : SnapshotFields => { s with sourceHealth := .sourceUnavailable }) fields

theorem Faithful.markUnavailable (faithful : store.Faithful) (reason : ObservationFailureReason) :
    (store.markUnavailable reason).1.Faithful := by
  constructor
  · rw [markUnavailable_store reason faithful.valid]
    simpa [OrderedMap.keys, Function.comp_def] using faithful.distinct
  · intro path row here
    rw [markUnavailable_get reason faithful.valid, Option.map_eq_some_iff] at here
    obtain ⟨old, there, rfl⟩ := here
    exact marked_faithful (faithful.rows path old there)

theorem faithful_init : init.Faithful := by
  constructor
  · exact List.nodup_nil
  · rintro path row ⟨⟩

theorem Faithful.apply (faithful : store.Faithful) (op : StoreOp) : (op.apply store).Faithful := by
  cases op with
  | reconcile => exact faithful.reconcile
  | markUnavailable reason => exact faithful.markUnavailable reason
  | markHealthy => exact ⟨faithful.distinct, faithful.rows⟩

/-- Every store that is reached shows what its fingerprints tell. -/
theorem faithful_run (ops : List StoreOp) : (ops.foldl StoreOp.apply init).Faithful := by
  induction ops using List.reverseRecOn with
  | nil => exact faithful_init
  | append_singleton ops op ih =>
    rw [List.foldl_append]
    exact ih.apply op

/-- A row is current just when it shows the modem. -/
theorem Faithful.current_iff (faithful : store.Faithful)
    (isMapped : mapModem tree path = .ok mapped) : store.current tree path = true ↔
      ∃ row, store.rows.get path = some row ∧ row.snapshot.toSnapshotFields = mapped := by
  obtain ⟨fromTree, -⟩ := fromTree_of_mapModem isMapped
  simp only [current, isMapped, unchanged]
  cases here : store.rows.get path with
  | none => simp
  | some row =>
    obtain ⟨old, fromOld, -, fingerprinted, fields⟩ := (faithful.rows path row here).mapped
    simp only [Bool.and_eq_true, decide_eq_true_eq, Option.some.injEq, exists_eq_left']
    constructor
    · rintro ⟨same, live⟩
      rw [fields, live, ← fingerprint_injective fromOld fromTree (fingerprinted.symm.trans same),
        ← fromOld.sourceHealth]
    · intro shows
      have live : row.snapshot.sourceHealth = .live := by
        rw [shows]
        exact fromTree.sourceHealth
      rw [live, ← fromOld.sourceHealth] at fields
      have sameFields : old = mapped := fields.symm.trans shows
      exact ⟨by rw [fingerprinted, sameFields], live⟩

/-! ### A loop that comes to its end -/

/-- What a loop over a tree's paths leaves when it comes to its end. -/
structure Ended (store store' : ObservationRowStore) (tree : DecodedManagedObjects)
    (paths : List JsString) (changed : Bool) : Prop where
  current : ∀ path ∈ paths, store'.current tree path = true
  others : ∀ path ∉ paths, store'.rows.get path = store.rows.get path
  unchanged : changed = false → store' = store
  changing : changed = true → ∃ path ∈ paths, store.current tree path = false

theorem mapped_of_current (same : store.current tree path = true) :
    ∃ mapped, mapModem tree path = .ok mapped := by
  cases isMapped : mapModem tree path with
  | error => simp [current, isMapped] at same
  | ok mapped => exact ⟨mapped, rfl⟩

theorem current_withRow_self (isMapped : mapModem tree path = .ok mapped) :
    (store.withRow path mapped).current tree path = true := by
  rw [current_withRow isMapped (conservative_of_mapModem isMapped).sourceHealth]
  simp

theorem upsertAll_ended (ends : (upsertAll tree paths store).2 = .ok changed) :
    Ended store (upsertAll tree paths store).1 tree paths changed := by
  induction paths generalizing store changed with
  | nil =>
    obtain rfl := Except.ok.inj ends
    exact ⟨by simp, fun _ _ => rfl, fun _ => rfl, by simp⟩
  | cons path rest ih =>
    have turn := upsertAll_turn store tree path rest
    generalize upsertAll tree (path :: rest) store = outcome at turn ends
    cases turn with
    | unmapped | rejected => cases ends
    | kept same =>
      have later := ih ends
      constructor
      · intro other mem
        rcases List.mem_cons.mp mem with rfl | mem
        · exact current_upsertAll rest same
        · exact later.current other mem
      · intro other absent
        exact later.others other fun mem => absent (List.mem_cons_of_mem _ mem)
      · exact later.unchanged
      · intro isChanged
        obtain ⟨other, mem, differs⟩ := later.changing isChanged
        exact ⟨other, List.mem_cons_of_mem _ mem, differs⟩
    | set isMapped differs room valid =>
      obtain ⟨changed', ends'⟩ := exists_map_ok.mp ⟨changed, ends⟩
      have later := ih ends'
      obtain rfl : true = changed := by
        simp only [ends', Except.map] at ends
        exact Except.ok.inj ends
      constructor
      · intro other mem
        rcases List.mem_cons.mp mem with rfl | mem
        · exact current_upsertAll rest (current_withRow_self isMapped)
        · exact later.current other mem
      · intro other absent
        have apart : other ≠ path := fun same => absent (by rw [same]; exact List.mem_cons_self)
        rw [later.others other fun mem => absent (List.mem_cons_of_mem _ mem), withRow,
          OrderedMap.get_set, if_neg apart]
      · intro isFalse
        cases isFalse
      · intro _
        exact ⟨path, List.mem_cons_self, differs⟩

/-- A reconcile returns when its loop ends, and removes what the tree omits. -/
theorem reconcile_ok (returns : (store.reconcile tree).2 = .ok changed) :
    ∃ changed' store', (upsertAll tree (modemPaths tree) store) = (store', .ok changed') ∧
      (store.reconcile tree).1 =
        { store' with rows := store'.rows.filter fun path => (modemPaths tree).contains path } ∧
      changed = (changed' ||
        store'.rows.items.any fun item => !(modemPaths tree).contains item.1) := by
  unfold reconcile at returns ⊢
  simp only at returns ⊢
  generalize upsertAll tree (modemPaths tree) store = outcome at returns
  obtain ⟨store', error | changed'⟩ := outcome
  · cases returns
  · exact ⟨changed', store', rfl, rfl, (Except.ok.inj returns).symm⟩

theorem reconcile_error {error : SnapshotError} (throws : (store.reconcile tree).2 = .error error) :
    (store.reconcile tree).1 = (upsertAll tree (modemPaths tree) store).1 ∧
      (upsertAll tree (modemPaths tree) store).2 = .error error := by
  unfold reconcile at throws ⊢
  simp only at throws ⊢
  generalize upsertAll tree (modemPaths tree) store = outcome at throws
  obtain ⟨store', error' | changed'⟩ := outcome
  · exact ⟨rfl, throws⟩
  · cases throws

/-! ### What is shown after a reconcile -/

theorem Faithful.mem_shown (faithful : store.Faithful) {fields : SnapshotFields} :
    fields ∈ store.shown ↔
      ∃ path row, store.rows.get path = some row ∧ row.snapshot.toSnapshotFields = fields := by
  rw [shown_eq, List.mem_map]
  constructor
  · rintro ⟨row, mem, rfl⟩
    obtain ⟨item, listed, rfl⟩ := List.mem_map.mp mem
    exact ⟨item.1, item.2, OrderedMap.get_of_mem_items faithful.distinct listed, rfl⟩
  · rintro ⟨path, row, here, rfl⟩
    exact ⟨row, OrderedMap.mem_values_of_get here, rfl⟩

/-- No modem is shown twice: its path is in what is shown. -/
theorem Faithful.nodup_shown (faithful : store.Faithful) : store.shown.Nodup := by
  apply List.Nodup.of_map (·.identity.runtimePath)
  have paths : store.shown.map (·.identity.runtimePath) = store.rows.keys := by
    rw [shown_eq, OrderedMap.values, OrderedMap.keys, List.map_map, List.map_map]
    apply List.map_congr_left
    intro item mem
    have here := OrderedMap.get_of_mem_items faithful.distinct mem
    exact (faithful.rows item.1 item.2 here).runtimePath
  rw [paths]
  exact faithful.distinct

theorem Faithful.complete (faithful : store.Faithful)
    (returns : (store.reconcile tree).2 = .ok changed) :
    ∀ path ∈ modemPaths tree, ∃ fields ∈ (store.reconcile tree).1.shown,
      mapModem tree path = .ok fields := by
  intro path mem
  have reached : (store.reconcile tree).1.Faithful := faithful.reconcile
  obtain ⟨changed', store', isLoop, isStore, -⟩ := reconcile_ok returns
  have ended := upsertAll_ended (congrArg Prod.snd isLoop)
  have loop := faithful.loop isLoop
  rw [isLoop] at ended
  have same := ended.current path mem
  obtain ⟨mapped, isMapped⟩ := mapped_of_current same
  obtain ⟨row, here, fields⟩ := (loop.current_iff isMapped).mp same
  refine ⟨mapped, reached.mem_shown.mpr ⟨path, row, ?_, fields⟩, isMapped⟩
  rw [isStore]
  simp [OrderedMap.get_filter, mem, here]

theorem Faithful.sound (faithful : store.Faithful)
    (returns : (store.reconcile tree).2 = .ok changed) :
    ∀ fields ∈ (store.reconcile tree).1.shown, ∃ path ∈ modemPaths tree,
      mapModem tree path = .ok fields := by
  intro fields isShown
  have reached : (store.reconcile tree).1.Faithful := faithful.reconcile
  obtain ⟨path, row, here, isFields⟩ := reached.mem_shown.mp isShown
  obtain ⟨changed', store', isLoop, isStore, -⟩ := reconcile_ok returns
  have mem : path ∈ modemPaths tree := by
    rw [isStore] at here
    simp only [OrderedMap.get_filter] at here
    split at here
    next kept => simpa using kept
    next => cases here
  obtain ⟨mapped, isShown', isMapped⟩ := faithful.complete returns path mem
  obtain ⟨path', row', here', isFields'⟩ := reached.mem_shown.mp isShown'
  have samePath : path' = path := by
    rw [← (reached.rows path' row' here').runtimePath, isFields']
    exact (fromTree_of_mapModem isMapped).2
  rw [samePath, here] at here'
  obtain rfl := Option.some.inj here'
  exact ⟨path, mem, by rw [isMapped, ← isFields', isFields]⟩

theorem Faithful.reports (faithful : store.Faithful)
    (returns : (store.reconcile tree).2 = .ok changed) :
    changed = true ↔ (store.reconcile tree).1.shown ≠ store.shown := by
  obtain ⟨changed', store', isLoop, isStore, isChanged⟩ := reconcile_ok returns
  have ended := upsertAll_ended (congrArg Prod.snd isLoop)
  rw [isLoop] at ended
  have loop := faithful.loop isLoop
  constructor
  · intro isTrue same
    rw [isChanged, Bool.or_eq_true] at isTrue
    rcases isTrue with set | removed
    · -- A row that was set shows what no row showed before.
      obtain ⟨path, mem, differs⟩ := ended.changing set
      obtain ⟨mapped, isShown, isMapped⟩ := faithful.complete returns path mem
      rw [same] at isShown
      obtain ⟨path', row, here, isFields⟩ := faithful.mem_shown.mp isShown
      have samePath : path' = path := by
        rw [← (faithful.rows path' row here).runtimePath, isFields]
        exact (fromTree_of_mapModem isMapped).2
      rw [samePath] at here
      have isCurrent := (faithful.current_iff isMapped).mpr ⟨row, here, isFields⟩
      rw [isCurrent] at differs
      cases differs
    · -- A row that was removed is shown no more.
      obtain ⟨item, listed, omitted⟩ := List.any_eq_true.mp removed
      have absent : item.1 ∉ modemPaths tree := by simpa using omitted
      have here := OrderedMap.get_of_mem_items loop.distinct listed
      rw [ended.others item.1 absent] at here
      have isShown := faithful.mem_shown.mpr ⟨item.1, item.2, here, rfl⟩
      rw [← same] at isShown
      obtain ⟨path, mem, isMapped⟩ := faithful.sound returns _ isShown
      have samePath := (fromTree_of_mapModem isMapped).2
      rw [(faithful.rows item.1 item.2 here).runtimePath] at samePath
      exact absent (samePath ▸ mem)
  · intro differs
    by_contra isFalse
    have nothing : changed = false := by simpa using isFalse
    rw [isChanged, Bool.or_eq_false_iff] at nothing
    have kept : ∀ item ∈ store'.rows.items, (modemPaths tree).contains item.1 = true := by
      intro item listed
      by_contra omitted
      have removed : store'.rows.items.any (fun item => !(modemPaths tree).contains item.1) =
          true := List.any_eq_true.mpr ⟨item, listed, by simpa using omitted⟩
      rw [nothing.2] at removed
      cases removed
    have sameRows : store'.rows.filter (fun path => (modemPaths tree).contains path) =
        store.rows := by
      rw [← ended.unchanged nothing.1, OrderedMap.filter, List.filter_eq_self.mpr kept]
    apply differs
    rw [shown_eq, shown_eq, isStore, sameRows]

/-! ### When a reconcile that throws changes nothing -/

/-- The first of the paths whose row would change. -/
def firstChanging (store : ObservationRowStore) (tree : DecodedManagedObjects)
    (paths : List JsString) : Option JsString :=
  paths.find? fun path => store.current tree path = false

/-- The row of a path can be set. -/
def CanSet (store : ObservationRowStore) (tree : DecodedManagedObjects) (path : JsString) : Prop :=
  Mappable tree path ∧ store.CanCount

theorem firstChanging_cons_of_current (paths : List JsString)
    (same : store.current tree path = true) :
    store.firstChanging tree (path :: paths) = store.firstChanging tree paths := by
  simp [firstChanging, same]

theorem firstChanging_cons_of_changing (paths : List JsString)
    (differs : store.current tree path = false) :
    store.firstChanging tree (path :: paths) = some path := by
  simp [firstChanging, differs]

/-- If the first row that would change cannot be set, no row is. -/
theorem rows_of_stuck (stuck : ∀ path ∈ store.firstChanging tree paths, ¬ store.CanSet tree path) :
    (upsertAll tree paths store).1.rows = store.rows := by
  induction paths with
  | nil => rfl
  | cons path rest ih =>
    have turn := upsertAll_turn store tree path rest
    generalize upsertAll tree (path :: rest) store = outcome at turn
    cases turn with
    | unmapped => rfl
    | kept same =>
      rw [firstChanging_cons_of_current rest same] at stuck
      exact ih stuck
    | rejected => rfl
    | set isMapped differs room valid =>
      rw [firstChanging_cons_of_changing rest differs] at stuck
      exact absurd ⟨mappable_of_valid isMapped valid, room⟩ (stuck path rfl)

/-- If it can be set, it is, and stays. -/
theorem current_of_canSet (isFirst : store.firstChanging tree paths = some path)
    (canSet : store.CanSet tree path) :
    (upsertAll tree paths store).1.current tree path = true := by
  induction paths with
  | nil => cases isFirst
  | cons first rest ih =>
    have turn := upsertAll_turn store tree first rest
    generalize upsertAll tree (first :: rest) store = outcome at turn
    cases turn with
    | kept same =>
      rw [firstChanging_cons_of_current rest same] at isFirst
      exact ih isFirst
    | unmapped rejected =>
      have differs : store.current tree first = false := by simp [current, rejected]
      rw [firstChanging_cons_of_changing rest differs] at isFirst
      obtain rfl := Option.some.inj isFirst
      obtain ⟨mapped, isMapped, -⟩ := mappable_iff.mp canSet.1
      rw [rejected] at isMapped
      cases isMapped
    | rejected isMapped differs cannot error =>
      rw [firstChanging_cons_of_changing rest differs] at isFirst
      obtain rfl := Option.some.inj isFirst
      obtain ⟨mapped, isMapped', -, valid⟩ := mappable_iff.mp canSet.1
      rw [isMapped] at isMapped'
      obtain rfl := Except.ok.inj isMapped'
      exact absurd ⟨canSet.2, valid⟩ cannot
    | set isMapped differs room valid =>
      rw [firstChanging_cons_of_changing rest differs] at isFirst
      obtain rfl := Option.some.inj isFirst
      exact current_upsertAll rest (current_withRow_self isMapped)

theorem current_congr {store' : ObservationRowStore} (same : store'.rows = store.rows)
    (path : JsString) : store'.current tree path = store.current tree path := by
  simp only [current, unchanged, same]

/-- A tree that is reconciled to its end has modems that can all be shown. -/
theorem Faithful.mappable (faithful : store.Faithful)
    (returns : (store.reconcile tree).2 = .ok changed) :
    ∀ path ∈ modemPaths tree, Mappable tree path := by
  intro path mem
  have reached : (store.reconcile tree).1.Faithful := faithful.reconcile
  obtain ⟨mapped, isShown, isMapped⟩ := faithful.complete returns path mem
  obtain ⟨_, row, here, isFields⟩ := reached.mem_shown.mp isShown
  have valid := (reached.rows _ row here).valid
  rw [isFields] at valid
  exact mappable_of_valid isMapped valid

/-- A reconcile of a store that was reached mirrors the tree just when it returns, each
modem of the tree having a path and not being reported locked, and the counter having room;
or when the first modem whose row would change cannot be stored. -/
theorem reconcile_mirrors (ops : List StoreOp) (tree : DecodedManagedObjects) :
    let store := ops.foldl StoreOp.apply init
    Mirrors store tree ↔
      (∀ path ∈ modemPaths tree, Mappable tree path) ∧ store.HasRoom tree (modemPaths tree) ∨
        ∀ path ∈ store.firstChanging tree (modemPaths tree), ¬ store.CanSet tree path := by
  intro store
  have faithful : store.Faithful := faithful_run ops
  constructor
  · intro mirrors
    cases outcome : (store.reconcile tree).2 with
    | ok changed =>
      left
      apply (snapshots_valid store tree).mp
      constructor
      · intro path mem
        exact creatable_iff.mpr (faithful.mappable outcome path mem)
      · exact ⟨changed, outcome⟩
    | error error =>
      right
      intro path isFirst canSet
      have sameRows := mirrors.atomic error outcome
      rw [(reconcile_error outcome).1] at sameRows
      have isCurrent := current_of_canSet isFirst canSet
      rw [current_congr sameRows] at isCurrent
      have differs : store.current tree path = false := by
        simpa using List.find?_some isFirst
      rw [isCurrent] at differs
      cases differs
  · intro condition
    refine ⟨?_, ?_, ?_, ?_, ?_⟩
    · intro changed returns
      exact faithful.complete returns
    · intro changed returns
      exact faithful.sound returns
    · intro changed returns
      have reached : (store.reconcile tree).1.Faithful := faithful.reconcile
      exact reached.nodup_shown
    · intro changed returns
      exact faithful.reports returns
    · intro error throws
      rw [(reconcile_error throws).1]
      rcases condition with returns | stuck
      · obtain ⟨-, changed, isOk⟩ := (snapshots_valid store tree).mpr returns
        rw [isOk] at throws
        cases throws
      · exact rows_of_stuck stuck

/-- A searching modem, and one that waits for its PIN. -/
def lockedSecond : DecodedManagedObjects :=
  [(js "/0", [(modemIface, [(js "State", ⟨js "i", .number (.integer 7)⟩)])]),
    (js "/1", [(modemIface, [(js "State", ⟨js "i", .number (.integer 2)⟩)])])]

/-- The reconcile throws on the second modem, and the row of the first is listed. -/
theorem lockedSecond_listed :
    (init.reconcile lockedSecond).2 =
        .error (.impossibleState ⟨.mmLockedWithoutSimLock, js "mmState=locked"⟩) ∧
      (init.reconcile lockedSecond).1.shown.length = 1 ∧ ¬ Mirrors init lockedSecond := by
  have throws : (init.reconcile lockedSecond).2 =
      .error (.impossibleState ⟨.mmLockedWithoutSimLock, js "mmState=locked"⟩) := by
    decide
  refine ⟨throws, by decide, ?_⟩
  intro mirrors
  have sameRows := mirrors.atomic _ throws
  revert sameRows
  decide

end ObservationRowStore

end ModemStack.Backend
