import ModemStack.Backend.RowStore

/-!
Revisions of the rows that a consumer is shown, over whole runs of the store.

There are two sources of revisions: the store's counter, and marking a row, which
raises the row's own. Marked rows may be one ahead of the counter. A tree whose
first path was last listed so far ahead repeats a revision; in runs without such
trees every change of a listed snapshot supersedes the last (`revisions_increase`).
-/

namespace ModemStack.Backend

open ModemStack.Data ModemStack.Domain ModemStack.Text

namespace ObservationRowStore

variable {store store' store'' : ObservationRowStore} {tree : DecodedManagedObjects}

/-! ### Rows that a reconcile sets -/

/-- A row that was set between two stores of a reconcile. -/
structure Fresh (store store' : ObservationRowStore) (row : Row) : Prop where
  valid : row.snapshot.Valid
  live : row.snapshot.sourceHealth = .live
  after : store.revCounter < row.snapshot.revision
  upTo : row.snapshot.revision ≤ store'.revCounter

/-- The later store has rows of the earlier one, and fresh ones. -/
structure Grown (store store' : ObservationRowStore) : Prop where
  counter : store.revCounter ≤ store'.revCounter
  values : ∀ row ∈ store'.rows.values, row ∈ store.rows.values ∨ Fresh store store' row
  rows : ∀ path row, store'.rows.get path = some row →
    store.rows.get path = some row ∨ Fresh store store' row

theorem Grown.refl (store : ObservationRowStore) : Grown store store :=
  ⟨Nat.le_refl _, fun _ mem => .inl mem, fun _ _ here => .inl here⟩

variable {row : Row}

theorem Fresh.widen (fresh : Fresh store store' row)
    (before : store''.revCounter ≤ store.revCounter) : Fresh store'' store' row :=
  ⟨fresh.valid, fresh.live, Nat.lt_of_le_of_lt before fresh.after, fresh.upTo⟩

theorem Fresh.extend (fresh : Fresh store store' row)
    (later : store'.revCounter ≤ store''.revCounter) : Fresh store store'' row :=
  ⟨fresh.valid, fresh.live, fresh.after, Nat.le_trans fresh.upTo later⟩

theorem Grown.trans (first : Grown store store') (second : Grown store' store'') :
    Grown store store'' where
  counter := Nat.le_trans first.counter second.counter
  values row mem := by
    rcases second.values row mem with old | fresh
    · exact (first.values row old).imp_right (Fresh.extend · second.counter)
    · exact .inr (fresh.widen first.counter)
  rows path row here := by
    rcases second.rows path row here with old | fresh
    · exact (first.rows path row old).imp_right (Fresh.extend · second.counter)
    · exact .inr (fresh.widen first.counter)

theorem Grown.filter (grown : Grown store store') (keep : JsString → Bool) :
    Grown store { store' with rows := store'.rows.filter keep } where
  counter := grown.counter
  values row mem := (grown.values row (OrderedMap.mem_values_filter mem)).imp_right
    fun fresh => ⟨fresh.valid, fresh.live, fresh.after, fresh.upTo⟩
  rows path row here := by
    simp only [OrderedMap.get_filter] at here
    split at here
    · exact (grown.rows path row here).imp_right
        fun fresh => ⟨fresh.valid, fresh.live, fresh.after, fresh.upTo⟩
    · cases here

theorem counted_grown (store : ObservationRowStore) : Grown store store.counted :=
  ⟨Nat.le_succ _, fun _ mem => .inl mem, fun _ _ here => .inl here⟩

variable {mapped : MappedModem} {path : JsString}

theorem rowOf_fresh (path : JsString) (live : mapped.sourceHealth = .live) (valid : mapped.Valid) :
    Fresh store (store.withRow path mapped) (store.rowOf mapped) :=
  ⟨valid, live, Nat.lt_succ_self _, Nat.le_refl _⟩

theorem withRow_grown {mapped : MappedModem} (path : JsString)
    (live : mapped.sourceHealth = .live) (valid : mapped.Valid) :
    Grown store (store.withRow path mapped) where
  counter := Nat.le_succ _
  values row mem := by
    rcases OrderedMap.mem_values_set mem with old | rfl
    · exact .inl old
    · exact .inr (rowOf_fresh path live valid)
  rows other row here := by
    simp only [withRow, OrderedMap.get_set] at here
    split at here
    · obtain rfl := Option.some.inj here
      exact .inr (rowOf_fresh path live valid)
    · exact .inl here

theorem upsert_grown (isMapped : mapModem tree path = .ok mapped) :
    Grown store (store.upsert path mapped).1 := by
  have upserted := upsert_cases store path mapped
  generalize store.upsert path mapped = outcome at upserted
  cases upserted with
  | kept => exact .refl store
  | rejected => exact counted_grown store
  | set differs room valid => exact withRow_grown path (conservative_of_mapModem isMapped).sourceHealth valid

/-- One turn of the loop, and the rest of it. -/
theorem upsertAll_cons (store : ObservationRowStore) (tree : DecodedManagedObjects)
    (path : JsString) (rest : List JsString) :
    (upsertAll tree (path :: rest) store).1 = store ∨
      ∃ mapped, mapModem tree path = .ok mapped ∧
        ((upsertAll tree (path :: rest) store).1 = (store.upsert path mapped).1 ∨
          (upsertAll tree (path :: rest) store).1 =
            (upsertAll tree rest (store.upsert path mapped).1).1) := by
  cases isMapped : mapModem tree path with
  | error =>
    rw [upsertAll, isMapped]
    exact .inl rfl
  | ok mapped =>
    refine .inr ⟨mapped, rfl, ?_⟩
    simp only [upsertAll, isMapped]
    generalize store.upsert path mapped = outcome
    rcases outcome with ⟨store', error | changed⟩
    · exact .inl rfl
    · exact .inr rfl

theorem upsertAll_grown (paths : List JsString) : Grown store (upsertAll tree paths store).1 := by
  induction paths generalizing store with
  | nil => exact .refl store
  | cons path rest ih =>
    rcases upsertAll_cons store tree path rest with
      same | ⟨mapped, isMapped, one | all⟩
    · rw [same]
      exact .refl store
    · rw [one]
      exact upsert_grown isMapped
    · rw [all]
      exact (upsert_grown isMapped).trans ih

/-- Only a reconcile that comes to its end removes rows. -/
theorem reconcile_store (store : ObservationRowStore) (tree : DecodedManagedObjects) :
    (store.reconcile tree).1 = (upsertAll tree (modemPaths tree) store).1 ∨
      (store.reconcile tree).1 =
        { (upsertAll tree (modemPaths tree) store).1 with
          rows := (upsertAll tree (modemPaths tree) store).1.rows.filter
            fun path => (modemPaths tree).contains path } := by
  simp only [reconcile]
  generalize upsertAll tree (modemPaths tree) store = outcome
  rcases outcome with ⟨store', error | changed⟩
  · exact .inl rfl
  · exact .inr rfl

theorem get_of_reconcile (here : (store.reconcile tree).1.rows.get path = some row) :
    (upsertAll tree (modemPaths tree) store).1.rows.get path = some row := by
  rcases reconcile_store store tree with same | filtered
  · rwa [same] at here
  · rw [filtered] at here
    simp only [OrderedMap.get_filter] at here
    split at here
    · exact here
    · cases here

theorem reconcile_grown (store : ObservationRowStore) (tree : DecodedManagedObjects) :
    Grown store (store.reconcile tree).1 := by
  rcases reconcile_store store tree with same | filtered
  · rw [same]
    exact upsertAll_grown _
  · rw [filtered]
    exact (upsertAll_grown _).filter _

theorem reconcile_valid (tree : DecodedManagedObjects)
    (valid : ∀ row ∈ store.rows.values, row.snapshot.Valid) :
    ∀ row ∈ (store.reconcile tree).1.rows.values, row.snapshot.Valid := by
  intro row mem
  rcases (reconcile_grown store tree).values row mem with old | fresh
  · exact valid row old
  · exact fresh.valid

/-! ### Rows that a reconcile removes -/

theorem upsert_keeps {path other : JsString} (here : store.rows.get other = some row) :
    ∃ row, (store.upsert path mapped).1.rows.get other = some row := by
  have upserted := upsert_cases store path mapped
  generalize store.upsert path mapped = outcome at upserted
  cases upserted with
  | kept | rejected => exact ⟨row, here⟩
  | set =>
    by_cases same : other = path
    · exact ⟨_, by rw [withRow, OrderedMap.get_set, if_pos same]⟩
    · exact ⟨row, by rw [withRow, OrderedMap.get_set, if_neg same]; exact here⟩

theorem upsertAll_keeps (tree : DecodedManagedObjects) (paths : List JsString)
    (here : store.rows.get path = some row) :
    ∃ row, (upsertAll tree paths store).1.rows.get path = some row := by
  induction paths generalizing store row with
  | nil => exact ⟨row, here⟩
  | cons first rest ih =>
    rcases upsertAll_cons store tree first rest with same | ⟨mapped, -, one | all⟩
    · exact ⟨row, by rw [same]; exact here⟩
    · rw [one]
      exact upsert_keeps here
    · rw [all]
      obtain ⟨row', there⟩ := upsert_keeps here
      exact ih there

/-- A reconcile removes the rows that the tree omits, and no others. -/
theorem not_mem_of_removed (here : store.rows.get path = some row)
    (removed : (store.reconcile tree).1.rows.get path = none) : path ∉ modemPaths tree := by
  intro mem
  obtain ⟨row', there⟩ := upsertAll_keeps tree (modemPaths tree) here
  rcases reconcile_store store tree with same | filtered
  · rw [same, there] at removed
    cases removed
  · rw [filtered] at removed
    simp [OrderedMap.get_filter, mem, there] at removed

/-! ### The first path of a tree -/

theorem live_of_unchanged {path fp : JsString} (same : store.unchanged path fp = true) :
    ∃ row, store.rows.get path = some row ∧ row.snapshot.sourceHealth = .live := by
  unfold unchanged at same
  split at same
  next row here =>
    rw [Bool.and_eq_true, decide_eq_true_eq, decide_eq_true_eq] at same
    exact ⟨row, here, same.2⟩
  next => cases same

/-- A row of the reconciled store was there before, is the one set for the first path, or
was set after the counter had been raised; but nothing is known of it when the first path
keeps a live row. -/
theorem row_of_upsertAll {first path : JsString} {rest : List JsString}
    (here : (upsertAll tree (first :: rest) store).1.rows.get path = some row) :
    store.rows.get path = some row ∨
      (∃ row, store.rows.get first = some row ∧ row.snapshot.sourceHealth = .live) ∨
      (path = first ∧ Mappable tree first) ∨
      store.counted.revCounter < row.snapshot.revision := by
  rcases upsertAll_cons store tree first rest with
    same | ⟨mapped, isMapped, next⟩
  · rw [same] at here
    exact .inl here
  have grown : Grown (store.upsert first mapped).1 (upsertAll tree (first :: rest) store).1 := by
    rcases next with one | all
    · rw [one]
      exact .refl _
    · rw [all]
      exact upsertAll_grown rest
  have upserted := upsert_cases store first mapped
  generalize store.upsert first mapped = outcome at upserted grown
  cases upserted with
  | kept same => exact .inr (.inl (live_of_unchanged same))
  | rejected =>
    rcases grown.rows path row here with old | fresh
    · exact .inl old
    · exact .inr (.inr (.inr fresh.after))
  | set differs room valid =>
    rcases grown.rows path row here with old | fresh
    · simp only [withRow, OrderedMap.get_set] at old
      split at old
      next same =>
        exact .inr (.inr (.inl ⟨same, mappable_of_valid isMapped valid⟩))
      next => exact .inl old
    · exact .inr (.inr (.inr fresh.after))

theorem row_of_reconcile {first path : JsString} {rest : List JsString}
    (isPaths : modemPaths tree = first :: rest)
    (here : (store.reconcile tree).1.rows.get path = some row) : store.rows.get path = some row ∨
      (∃ row, store.rows.get first = some row ∧ row.snapshot.sourceHealth = .live) ∨
      (path = first ∧ Mappable tree first) ∨
      store.counted.revCounter < row.snapshot.revision := by
  apply row_of_upsertAll
  rw [← isPaths]
  exact get_of_reconcile here

/-! ### Rows that a lost source marks -/

/-- A row whose source is unavailable is not marked again. -/
def marked (row : Row) : Row :=
  if row.snapshot.sourceHealth = .sourceUnavailable then row
  else { row with snapshot :=
    { row.snapshot with
      sourceHealth := .sourceUnavailable
      revision := row.snapshot.revision + 1 } }

theorem marked_cases (row : Row) :
    row.snapshot.sourceHealth = .sourceUnavailable ∧ marked row = row ∨
      row.snapshot.sourceHealth ≠ .sourceUnavailable ∧
        (marked row).snapshot.revision = row.snapshot.revision + 1 := by
  unfold marked
  split
  next unavailable => exact .inl ⟨unavailable, rfl⟩
  next available => exact .inr ⟨available, rfl⟩

theorem marked_sourceHealth (row : Row) :
    (marked row).snapshot.sourceHealth = .sourceUnavailable := by
  unfold marked
  split
  · assumption
  · rfl

theorem marked_valid (valid : row.snapshot.Valid) : (marked row).snapshot.Valid := by
  unfold marked
  split
  · exact valid
  · exact (valid_sourceHealth _).mpr valid

theorem markItems_ok {items : List (JsString × Row)}
    (valid : ∀ item ∈ items, item.2.snapshot.Valid) :
    ∃ changed, markItems items = (items.map fun item => (item.1, marked item.2), .ok changed) := by
  induction items with
  | nil => exact ⟨false, rfl⟩
  | cons item items ih =>
    obtain ⟨path, row⟩ := item
    obtain ⟨head, tail⟩ := List.forall_mem_cons.mp valid
    obtain ⟨changed, rest⟩ := ih tail
    by_cases unavailable : row.snapshot.sourceHealth = .sourceUnavailable
    · exact ⟨changed, by simp [markItems, rest, unavailable, marked]⟩
    · refine ⟨true, ?_⟩
      simp [markItems, rest, unavailable, marked, markSourceUnavailable_ok head, Except.map]

variable (reason : ObservationFailureReason)

/-- A store of valid rows marks them all. -/
theorem markUnavailable_ok
    (valid : ∀ row ∈ store.rows.values, row.snapshot.Valid) :
    ∃ changed, store.markUnavailable reason =
      ({ store with
        rows := ⟨store.rows.items.map fun item => (item.1, marked item.2)⟩
        sourceHealthy := false
        failureReason := reason }, .ok changed) := by
  have items : ∀ item ∈ store.rows.items, item.2.snapshot.Valid := fun item mem =>
    valid item.2 (List.mem_map_of_mem mem)
  obtain ⟨changed, isMarked⟩ := markItems_ok items
  exact ⟨changed || store.sourceHealthy, by rw [markUnavailable, isMarked]⟩

theorem markUnavailable_store
    (valid : ∀ row ∈ store.rows.values, row.snapshot.Valid) :
    (store.markUnavailable reason).1 =
      { store with
        rows := ⟨store.rows.items.map fun item => (item.1, marked item.2)⟩
        sourceHealthy := false
        failureReason := reason } := by
  obtain ⟨changed, isMarked⟩ := markUnavailable_ok reason valid
  rw [isMarked]

theorem markUnavailable_get
    (valid : ∀ row ∈ store.rows.values, row.snapshot.Valid) (path : JsString) :
    (store.markUnavailable reason).1.rows.get path = (store.rows.get path).map marked := by
  rw [markUnavailable_store reason valid]
  exact OrderedMap.get_map store.rows marked path

theorem markUnavailable_valid
    (valid : ∀ row ∈ store.rows.values, row.snapshot.Valid) :
    ∀ row ∈ (store.markUnavailable reason).1.rows.values, row.snapshot.Valid := by
  intro row mem
  simp only [markUnavailable_store reason valid, OrderedMap.values, List.map_map,
    List.mem_map] at mem
  obtain ⟨item, mem, rfl⟩ := mem
  exact marked_valid (valid item.2 (List.mem_map_of_mem mem))

end ObservationRowStore

/-! ### What a consumer is shown -/

open ObservationRowStore

inductive StoreOp where
  | reconcile (tree : DecodedManagedObjects)
  | markUnavailable (reason : ObservationFailureReason)
  | markHealthy

/-- Rows that an operation sets before it is rejected are listed all the same. -/
def StoreOp.apply (store : ObservationRowStore) : StoreOp → ObservationRowStore
  | .reconcile tree => (store.reconcile tree).1
  | .markUnavailable reason => (store.markUnavailable reason).1
  | .markHealthy => store.markHealthy.1

/-- A store, and the last snapshot that was listed for each path, also for paths that
have been removed. -/
structure Watched where
  store : ObservationRowStore
  last : JsString → Option CellularSnapshot

namespace Watched

def init : Watched := ⟨ObservationRowStore.init, fun _ => none⟩

def step (watched : Watched) (op : StoreOp) : Watched where
  store := op.apply watched.store
  last path := ((op.apply watched.store).listed path).or (watched.last path)

def run (watched : Watched) (ops : List StoreOp) : Watched := ops.foldl step watched

/-- The path a tree begins with, if its modem is mapped into a valid state, was not
last listed ahead of the counter. -/
def InOrder (watched : Watched) : StoreOp → Prop
  | .reconcile tree => ∀ path ∈ (modemPaths tree).head?, ∀ shown ∈ watched.last path,
      Mappable tree path → shown.revision ≤ watched.store.revCounter
  | _ => True

instance (watched : Watched) : (op : StoreOp) → Decidable (watched.InOrder op)
  | .reconcile tree => inferInstanceAs (Decidable (∀ path ∈ (modemPaths tree).head?,
      ∀ shown ∈ watched.last path, Mappable tree path →
        shown.revision ≤ watched.store.revCounter))
  | .markUnavailable _ => .isTrue trivial
  | .markHealthy => .isTrue trivial

/-- Every step of a run is in order. -/
def AllInOrder (watched : Watched) : List StoreOp → Prop
  | [] => True
  | op :: ops => watched.InOrder op ∧ (watched.step op).AllInOrder ops

/-! ### Shown snapshots advance -/

/-- Marked rows may be one ahead of the counter, and only while no row is live. -/
structure Consistent (watched : Watched) : Prop where
  valid : ∀ row ∈ watched.store.rows.values, row.snapshot.Valid
  shown : ∀ path row, watched.store.rows.get path = some row →
    watched.last path = some row.snapshot
  bounded : ∀ path shown, watched.last path = some shown →
    shown.revision ≤ watched.store.revCounter + 1
  caughtUp : ∀ path row, watched.store.rows.get path = some row →
    row.snapshot.sourceHealth ≠ .sourceUnavailable →
      ∀ path shown, watched.last path = some shown → shown.revision ≤ watched.store.revCounter

variable {watched : Watched} {op : StoreOp}

theorem consistent_init : init.Consistent where
  valid := by rintro row ⟨⟩
  shown := by rintro path row ⟨⟩
  bounded := by rintro path shown ⟨⟩
  caughtUp := by rintro path row ⟨⟩

variable {path : JsString}

theorem step_last_of_get {row : Row} (here : (op.apply watched.store).rows.get path = some row) :
    (watched.step op).last path = some row.snapshot := by
  simp [step, listed, here]

/-- What is shown after a step is in a row, or was shown before. -/
theorem step_last_cases {shown : CellularSnapshot}
    (isShown : (watched.step op).last path = some shown) :
    (∃ row, (op.apply watched.store).rows.get path = some row ∧ row.snapshot = shown) ∨
      watched.last path = some shown := by
  cases here : (op.apply watched.store).rows.get path with
  | none => exact .inr (by simpa [step, listed, here] using isShown)
  | some row =>
    rw [step_last_of_get here] at isShown
    exact .inl ⟨row, rfl, Option.some.inj isShown⟩

/-- A reconcile in order leaves a row as it was, or sets it ahead of what was shown. -/
theorem Consistent.reconcile_row (consistent : watched.Consistent) {tree : DecodedManagedObjects}
    (inOrder : watched.InOrder (.reconcile tree)) {row : Row}
    (here : (watched.store.reconcile tree).1.rows.get path = some row) :
    watched.store.rows.get path = some row ∨
      Fresh watched.store (watched.store.reconcile tree).1 row ∧
        ∀ shown, watched.last path = some shown → shown.revision < row.snapshot.revision := by
  rcases (reconcile_grown watched.store tree).rows path row here with old | fresh
  · exact .inl old
  cases isPaths : modemPaths tree with
  | nil =>
    have same := get_of_reconcile here
    rw [isPaths] at same
    exact .inl same
  | cons first rest =>
    rcases row_of_reconcile isPaths here with old | ⟨other, there, live⟩ |
      ⟨rfl, mappable⟩ | counted
    · exact .inl old
    · refine .inr ⟨fresh, fun shown isShown => ?_⟩
      have behind := consistent.caughtUp first other there (by rw [live]; decide) path shown isShown
      exact Nat.lt_of_le_of_lt behind fresh.after
    · refine .inr ⟨fresh, fun shown isShown => ?_⟩
      have behind := inOrder path (by rw [isPaths]; rfl) shown isShown mappable
      exact Nat.lt_of_le_of_lt behind fresh.after
    · refine .inr ⟨fresh, fun shown isShown => ?_⟩
      exact Nat.lt_of_le_of_lt (consistent.bounded path shown isShown) counted

theorem Consistent.reconcile (consistent : watched.Consistent) {tree : DecodedManagedObjects}
    (inOrder : watched.InOrder (.reconcile tree)) :
    (watched.step (.reconcile tree)).Consistent := by
  have grown := reconcile_grown watched.store tree
  have recent : ∀ path shown, (watched.step (.reconcile tree)).last path = some shown →
      watched.last path = some shown ∨
        shown.revision ≤ (watched.store.reconcile tree).1.revCounter := by
    intro path shown isShown
    rcases step_last_cases isShown with ⟨row, here, rfl⟩ | before
    · rcases consistent.reconcile_row inOrder here with old | ⟨fresh, -⟩
      · exact .inl (consistent.shown path row old)
      · exact .inr fresh.upTo
    · exact .inl before
  constructor
  · intro row mem
    rcases grown.values row mem with old | fresh
    · exact consistent.valid row old
    · exact fresh.valid
  · intro path row here
    exact step_last_of_get here
  · intro path shown isShown
    rcases recent path shown isShown with before | upTo
    · exact Nat.le_trans (consistent.bounded path shown before) (Nat.succ_le_succ grown.counter)
    · exact Nat.le_succ_of_le upTo
  · intro path row here live other shown isShown
    rcases recent other shown isShown with before | upTo
    · rcases consistent.reconcile_row inOrder here with old | ⟨fresh, -⟩
      · exact Nat.le_trans (consistent.caughtUp path row old live other shown before) grown.counter
      · exact Nat.le_trans (consistent.bounded other shown before)
          (Nat.le_trans fresh.after fresh.upTo)
    · exact upTo

theorem Consistent.marked_row (consistent : watched.Consistent) {reason : ObservationFailureReason}
    {row : Row} (here : (watched.store.markUnavailable reason).1.rows.get path = some row) :
    ∃ old, watched.store.rows.get path = some old ∧ row = marked old := by
  rw [markUnavailable_get reason consistent.valid, Option.map_eq_some_iff] at here
  obtain ⟨old, there, isMarked⟩ := here
  exact ⟨old, there, isMarked.symm⟩

theorem Consistent.markUnavailable (consistent : watched.Consistent)
    (reason : ObservationFailureReason) : (watched.step (.markUnavailable reason)).Consistent := by
  have counter : (watched.step (.markUnavailable reason)).store.revCounter =
      watched.store.revCounter := by
    simp only [Watched.step, StoreOp.apply, markUnavailable_store reason consistent.valid]
  constructor
  · exact markUnavailable_valid reason consistent.valid
  · intro path row here
    exact step_last_of_get here
  · intro path shown isShown
    rw [counter]
    rcases step_last_cases isShown with ⟨row, here, rfl⟩ | before
    · obtain ⟨old, there, rfl⟩ := consistent.marked_row here
      have wasShown := consistent.shown path old there
      rcases marked_cases old with ⟨-, same⟩ | ⟨available, raised⟩
      · rw [same]
        exact consistent.bounded path _ wasShown
      · rw [raised]
        exact Nat.succ_le_succ (consistent.caughtUp path old there available path _ wasShown)
    · exact consistent.bounded path shown before
  · intro path row here available
    obtain ⟨old, -, rfl⟩ := consistent.marked_row here
    exact absurd (marked_sourceHealth old) available

theorem Consistent.markHealthy (consistent : watched.Consistent) :
    (watched.step .markHealthy).Consistent := by
  have same : (watched.step .markHealthy).last = watched.last := by
    funext path
    cases here : watched.store.rows.get path with
    | none => simp [Watched.step, StoreOp.apply, listed, ObservationRowStore.markHealthy, here]
    | some row =>
      simp [Watched.step, StoreOp.apply, listed, ObservationRowStore.markHealthy, here,
        consistent.shown path row here]
  constructor
  · exact consistent.valid
  · rw [same]
    exact consistent.shown
  · rw [same]
    exact consistent.bounded
  · rw [same]
    exact consistent.caughtUp

theorem Consistent.step (consistent : watched.Consistent) (inOrder : watched.InOrder op) :
    (watched.step op).Consistent := by
  cases op with
  | reconcile => exact consistent.reconcile inOrder
  | markUnavailable reason => exact consistent.markUnavailable reason
  | markHealthy => exact consistent.markHealthy

theorem Consistent.run {ops : List StoreOp} (consistent : watched.Consistent)
    (inOrder : watched.AllInOrder ops) : (watched.run ops).Consistent := by
  induction ops generalizing watched with
  | nil => exact consistent
  | cons op ops ih => exact ih (consistent.step inOrder.1) inOrder.2

/-- Every path whose snapshot an operation changes gets one that supersedes the last. -/
def Advances (watched : Watched) (op : StoreOp) : Prop :=
  ∀ path shown now, watched.last path = some shown →
    (op.apply watched.store).listed path = some now → now ≠ shown →
      shown.revision < now.revision ∧ supersede shown now = .ok now

theorem Consistent.advances (consistent : watched.Consistent) (inOrder : watched.InOrder op) :
    watched.Advances op := by
  rintro path shown now isShown isNow differs
  obtain ⟨row, here, rfl⟩ := Option.map_eq_some_iff.mp isNow
  -- A row that is still there is what was shown last.
  have changed : watched.store.rows.get path ≠ some row := by
    intro old
    exact differs (Option.some.inj ((consistent.shown path row old).symm.trans isShown))
  have after : shown.revision < row.snapshot.revision ∧ row.snapshot.Valid := by
    cases op with
    | reconcile =>
      rcases consistent.reconcile_row inOrder here with old | ⟨fresh, after⟩
      · exact absurd old changed
      · exact ⟨after shown isShown, fresh.valid⟩
    | markUnavailable reason =>
      obtain ⟨old, there, rfl⟩ := consistent.marked_row here
      obtain rfl := Option.some.inj ((consistent.shown path old there).symm.trans isShown)
      have valid := (consistent.markUnavailable reason).valid _
        (OrderedMap.mem_values_of_get here)
      rcases marked_cases old with ⟨-, same⟩ | ⟨-, raised⟩
      · exact absurd (by rw [same]; exact there) changed
      · exact ⟨by rw [raised]; exact Nat.lt_succ_self _, valid⟩
    | markHealthy => exact absurd here changed
  exact ⟨after.1, supersede_ok_iff.mpr ⟨after.1, after.2, rfl⟩⟩

theorem allInOrder_append {ops later : List StoreOp} :
    watched.AllInOrder (ops ++ later) ↔
      watched.AllInOrder ops ∧ (watched.run ops).AllInOrder later := by
  induction ops generalizing watched with
  | nil => simp [AllInOrder, Watched.run]
  | cons op ops ih => simp [AllInOrder, ih, Watched.run, and_assoc]

/-- In a run whose steps are all in order, every step advances what is shown. -/
theorem revisions_increase (ops : List StoreOp) (op : StoreOp)
    (inOrder : init.AllInOrder (ops ++ [op])) : (init.run ops).Advances op := by
  obtain ⟨before, last, -⟩ := allInOrder_append.mp inOrder
  exact (consistent_init.run before).advances last

/-- Modems that are searching, at numbered paths. -/
def searchingModems (names : List String) : DecodedManagedObjects := names.map fun name =>
  (js name, [(modemIface, [(js "State", ⟨js "i", .number (.integer 7)⟩)])])

/-- Two modems lose their source and get it back. -/
theorem revisions_increase_recovered :
    (init.run [.reconcile (searchingModems ["/0", "/1"]), .markUnavailable .busError]).Advances
      (.reconcile (searchingModems ["/0", "/1"])) :=
  revisions_increase _ _ ⟨by decide, by decide, by decide, trivial⟩

/-- What is listed for the only modem. -/
def searchingSnapshot (sourceHealth : SourceHealth) (revision : Revision) : CellularSnapshot where
  identity := ⟨none, imeiEquipmentId [], none, none, js "/0"⟩
  presence := .present
  sourceHealth
  simSlots := []
  radioPower := .on
  mmState := .searching
  registration := ⟨.unknown, []⟩
  nmActivation := .unavailable
  dataInterface := ⟨false, none⟩
  reconcileStatus := .pending
  recoveryState := ⟨.idle, 0, none⟩
  revision

/-- A single modem that comes back is listed under the revision it was lost with. -/
theorem revisions_increase_fails :
    let lost := init.run [.reconcile (searchingModems ["/0"]), .markUnavailable .busError]
    lost.last (js "/0") = some (searchingSnapshot .sourceUnavailable 2) ∧
      (lost.step (.reconcile (searchingModems ["/0"]))).store.listed (js "/0") =
        some (searchingSnapshot .live 2) ∧
      supersede (searchingSnapshot .sourceUnavailable 2) (searchingSnapshot .live 2) =
        .error (.revisionMonotonicity 2 2) := by
  refine ⟨?_, ?_, rfl⟩ <;> decide +kernel

end Watched

end ModemStack.Backend
