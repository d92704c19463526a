import ModemStack.Data.OrderedMap

/-!
Folds that keep one value for each key of a list.

The keys stand in the order of their first items, and the value of a key is the fold of
that key's items alone (`values_group`).
-/

namespace ModemStack.Data.OrderedMap

variable {α β ε : Type} [DecidableEq α]

/-! ### Keys in the order of first appearance -/

theorem eraseDups_concat (items : List α) (item : α) :
    (items ++ [item]).eraseDups =
      if item ∈ items then items.eraseDups else items.eraseDups ++ [item] := by
  rw [List.eraseDups_append]
  by_cases mem : item ∈ items
  · simp [List.removeAll, mem]
  · simp [List.removeAll, List.eraseDups_cons, mem]

theorem nodup_eraseDups (items : List α) : items.eraseDups.Nodup := by
  induction items using List.reverseRecOn with
  | nil => exact List.nodup_nil
  | append_singleton items item ih =>
    rw [eraseDups_concat]
    split_ifs with mem
    · exact ih
    · have isNew : item ∉ items.eraseDups := by rwa [List.mem_eraseDups]
      rw [List.nodup_append]
      refine ⟨ih, by simp, ?_⟩
      intro first here other isLast
      rw [List.mem_singleton.mp isLast]
      intro same
      exact isNew (same ▸ here)

/-- A renaming that keeps items apart keeps their order of appearance. -/
theorem eraseDups_map {γ : Type} [DecidableEq γ] {f : α → γ} {items : List α}
    (apart : ∀ item ∈ items, ∀ other ∈ items, f item = f other → item = other) :
    (items.map f).eraseDups = items.eraseDups.map f := by
  induction items using List.reverseRecOn with
  | nil => rfl
  | append_singleton items item ih =>
    have apart' : ∀ first ∈ items, ∀ other ∈ items, f first = f other → first = other :=
      fun first mem other mem' => apart first (List.mem_append_left _ mem) other
        (List.mem_append_left _ mem')
    have mem_iff : f item ∈ items.map f ↔ item ∈ items := by
      constructor
      · intro mapped
        obtain ⟨other, mem, same⟩ := List.mem_map.mp mapped
        rwa [← apart other (List.mem_append_left _ mem) item (by simp) same]
      · exact List.mem_map_of_mem
    rw [List.map_append, List.map_singleton, eraseDups_concat, eraseDups_concat, ih apart']
    by_cases mem : item ∈ items
    · rw [if_pos mem, if_pos (mem_iff.mpr mem)]
    · rw [if_neg mem, if_neg (mem_iff.not.mpr mem), List.map_append, List.map_singleton]

theorem keys_set (m : OrderedMap α β) (key : α) (value : β) :
    (m.set key value).keys = if key ∈ m.keys then m.keys else m.keys ++ [key] := by
  obtain ⟨items⟩ := m
  simp only [set, keys]
  induction items with
  | nil => simp [setItem]
  | cons item items ih =>
    obtain ⟨first, old⟩ := item
    by_cases same : first = key
    · simp [setItem, same]
    · have differs : key ≠ first := Ne.symm same
      simp only [setItem, if_neg same, List.map_cons, ih, List.mem_cons, differs, false_or]
      by_cases mem : key ∈ items.map Prod.fst
      · simp [mem]
      · simp [mem]

/-- A map with distinct keys holds their values in their order. -/
theorem values_of_nodup {m : OrderedMap α β} (distinct : m.keys.Nodup) :
    m.values = m.keys.filterMap m.get := by
  have each : ∀ item ∈ m.items, m.get item.1 = some item.2 :=
    fun item mem => get_of_mem_items distinct mem
  rw [values, keys, List.filterMap_map, ← List.filterMap_eq_map]
  apply List.filterMap_congr
  intro item mem
  exact (each item mem).symm

/-! ### The fold -/

/-- Take an item into the value of its key. -/
def groupItem (key : ε → α) (update : Option β → ε → β) (m : OrderedMap α β) (item : ε) :
    OrderedMap α β :=
  m.set (key item) (update (m.get (key item)) item)

def group (key : ε → α) (update : Option β → ε → β) (items : List ε) : OrderedMap α β :=
  items.foldl (groupItem key update) empty

/-- The value of items that all have one key. -/
def collect (update : Option β → ε → β) (items : List ε) : Option β :=
  items.foldl (fun value item => some (update value item)) none

theorem collect_concat (update : Option β → ε → β) (items : List ε) (item : ε) :
    collect update (items ++ [item]) = some (update (collect update items) item) :=
  List.foldl_concat _ _ _ _

section Group

variable {key : ε → α} {update : Option β → ε → β}

variable (items : List ε)

theorem group_concat (item : ε) :
    group key update (items ++ [item]) = groupItem key update (group key update items) item :=
  List.foldl_concat _ _ _ _

theorem get_group (place : α) :
    (group key update items).get place =
      collect update (items.filter fun item => key item = place) := by
  induction items using List.reverseRecOn with
  | nil => rfl
  | append_singleton items item ih =>
    rw [group_concat, groupItem, get_set, List.filter_append]
    by_cases same : place = key item
    · subst same
      rw [if_pos rfl, List.filter_cons_of_pos (by simp), List.filter_nil, collect_concat, ih]
    · rw [if_neg same, List.filter_cons_of_neg (by simpa using Ne.symm same), List.filter_nil,
        List.append_nil, ih]

theorem keys_group : (group key update items).keys = (items.map key).eraseDups := by
  induction items using List.reverseRecOn with
  | nil => rfl
  | append_singleton items item ih =>
    rw [group_concat, groupItem, keys_set, List.map_append, List.map_singleton,
      eraseDups_concat, ih]
    simp only [List.mem_eraseDups]

theorem values_group :
    (group key update items).values = ((items.map key).eraseDups).filterMap fun place =>
      collect update (items.filter fun item => key item = place) := by
  have distinct : (group key update items).keys.Nodup := by
    rw [keys_group]
    exact nodup_eraseDups _
  rw [values_of_nodup distinct, keys_group]
  apply List.filterMap_congr
  intro place _
  exact get_group items place

end Group

end ModemStack.Data.OrderedMap
