import Mathlib.Data.List.Basic
import Mathlib.Data.List.Induction

/-!
Maps that keep their keys in the order in which they were first set, as a
JavaScript `Map` does.
-/

namespace ModemStack.Data

/-- The items of a map, in the order of their keys. -/
structure OrderedMap (α β : Type) where
  items : List (α × β)
deriving DecidableEq

namespace OrderedMap

variable {α β : Type} [DecidableEq α]

def empty : OrderedMap α β := ⟨[]⟩

def values (m : OrderedMap α β) : List β := m.items.map Prod.snd

def getItem (key : α) : List (α × β) → Option β
  | [] => none
  | (other, value) :: items => if other = key then some value else getItem key items

def get (m : OrderedMap α β) (key : α) : Option β := getItem key m.items

def setItem (key : α) (value : β) : List (α × β) → List (α × β)
  | [] => [(key, value)]
  | (other, old) :: items =>
    if other = key then (key, value) :: items else (other, old) :: setItem key value items

/-- A key that is there keeps its place; a new one comes last. -/
def set (m : OrderedMap α β) (key : α) (value : β) : OrderedMap α β :=
  ⟨setItem key value m.items⟩

/-- The keys that are kept stay in their places. -/
def filter (m : OrderedMap α β) (keep : α → Bool) : OrderedMap α β :=
  ⟨m.items.filter fun item => keep item.1⟩

@[simp] theorem get_set (m : OrderedMap α β) (key other : α) (value : β) :
    (m.set key value).get other = if other = key then some value else m.get other := by
  obtain ⟨items⟩ := m
  simp only [get, set]
  induction items with
  | nil => simp [setItem, getItem, eq_comm]
  | cons item items ih =>
    obtain ⟨first, old⟩ := item
    by_cases here : first = key
    · subst here
      by_cases same : other = first <;> simp [setItem, getItem, same, eq_comm]
    · by_cases same : first = other
      · subst same
        simp [setItem, getItem, here]
      · simp [setItem, getItem, here, same, ih]

@[simp] theorem get_filter (m : OrderedMap α β) (keep : α → Bool) (key : α) :
    (m.filter keep).get key = if keep key then m.get key else none := by
  obtain ⟨items⟩ := m
  simp only [get, filter]
  induction items with
  | nil => simp [getItem]
  | cons item items ih =>
    obtain ⟨first, value⟩ := item
    by_cases same : first = key
    · subst same
      by_cases kept : keep first = true
      · simp [getItem, kept]
      · simpa [getItem, kept] using ih
    · by_cases kept : keep first = true
      · simpa [getItem, kept, same] using ih
      · simpa [getItem, kept, same] using ih

variable {m : OrderedMap α β} {items : List (α × β)}

variable {value : β} {key : α} {item : α × β}

theorem mem_values_of_get (here : m.get key = some value) : value ∈ m.values := by
  obtain ⟨items⟩ := m
  simp only [get, values] at here ⊢
  induction items with
  | nil => simp [getItem] at here
  | cons item items ih =>
    obtain ⟨first, old⟩ := item
    rw [getItem] at here
    split at here
    · exact List.mem_cons.mpr (.inl (Option.some.inj here).symm)
    · exact List.mem_cons_of_mem _ (ih here)

theorem mem_setItem (mem : item ∈ setItem key value items) :
    item ∈ items ∨ item = (key, value) := by
  induction items with
  | nil => exact .inr (List.mem_singleton.mp mem)
  | cons first rest ih =>
    rw [setItem] at mem
    split at mem
    · rcases List.mem_cons.mp mem with same | later
      · exact .inr same
      · exact .inl (List.mem_cons_of_mem _ later)
    · rcases List.mem_cons.mp mem with same | later
      · exact .inl (List.mem_cons.mpr (.inl same))
      · exact (ih later).imp_left (List.mem_cons_of_mem _)

theorem mem_values_set {value other : β} (mem : other ∈ (m.set key value).values) :
    other ∈ m.values ∨ other = value := by
  obtain ⟨item, isItem, rfl⟩ := List.mem_map.mp mem
  rcases mem_setItem isItem with old | rfl
  · exact .inl (List.mem_map_of_mem old)
  · exact .inr rfl

omit [DecidableEq α] in
theorem mem_values_filter {keep : α → Bool} (mem : value ∈ (m.filter keep).values) :
    value ∈ m.values := by
  obtain ⟨item, kept, rfl⟩ := List.mem_map.mp mem
  exact List.mem_map_of_mem (List.mem_of_mem_filter kept)

theorem get_mapItems (m : OrderedMap α β) (f : α → β → β) (key : α) :
    get ⟨m.items.map fun item => (item.1, f item.1 item.2)⟩ key = (m.get key).map (f key) := by
  obtain ⟨items⟩ := m
  simp only [get]
  induction items with
  | nil => rfl
  | cons item items ih =>
    by_cases same : item.1 = key
    · simp [getItem, same]
    · simpa [getItem, same] using ih

theorem get_map (m : OrderedMap α β) (f : β → β) (key : α) :
    get ⟨m.items.map fun item => (item.1, f item.2)⟩ key = (m.get key).map f :=
  get_mapItems m (fun _ => f) key

/-! ### Distinct keys -/

def keys (m : OrderedMap α β) : List α := m.items.map Prod.fst

/-- The map that sets the items of a list, one after another. -/
def ofItems (items : List (α × β)) : OrderedMap α β :=
  items.foldl (fun m item => m.set item.1 item.2) empty

theorem setItem_new (isNew : key ∉ items.map Prod.fst) :
    setItem key value items = items ++ [(key, value)] := by
  induction items with
  | nil => rfl
  | cons item items ih =>
    obtain ⟨first, old⟩ := item
    simp only [List.map_cons, List.mem_cons, not_or] at isNew
    rw [setItem, if_neg (Ne.symm isNew.1), ih isNew.2, List.cons_append]

theorem mem_keys_set {key other : α} :
    other ∈ (m.set key value).keys ↔ other ∈ m.keys ∨ other = key := by
  obtain ⟨items⟩ := m
  simp only [set, keys]
  induction items with
  | nil => simp [setItem]
  | cons item items ih =>
    obtain ⟨first, old⟩ := item
    by_cases same : first = key
    · subst same
      simp only [setItem, if_true, List.map_cons, List.mem_cons]
      tauto
    · simp only [setItem, if_neg same, List.map_cons, List.mem_cons, ih, or_assoc]

theorem nodup_set (distinct : m.keys.Nodup) (key : α) (value : β) :
    (m.set key value).keys.Nodup := by
  obtain ⟨items⟩ := m
  simp only [set, keys] at distinct ⊢
  induction items with
  | nil => simp [setItem]
  | cons item items ih =>
    obtain ⟨first, old⟩ := item
    rw [List.map_cons, List.nodup_cons] at distinct
    by_cases same : first = key
    · subst same
      simpa [setItem] using distinct
    · have rest := ih distinct.2
      simp only [setItem, if_neg same, List.map_cons, List.nodup_cons]
      refine ⟨fun mem => ?_, rest⟩
      rcases (mem_keys_set (m := ⟨items⟩)).mp mem with here | isKey
      · exact distinct.1 here
      · exact same isKey

theorem nodup_ofItems (items : List (α × β)) : (ofItems items).keys.Nodup := by
  suffices all : ∀ m : OrderedMap α β, m.keys.Nodup →
      (items.foldl (fun m item => m.set item.1 item.2) m).keys.Nodup from
    all empty List.nodup_nil
  induction items with
  | nil => exact fun _ distinct => distinct
  | cons item items ih => exact fun m distinct => ih _ (nodup_set distinct _ _)

theorem mem_items_of_get (here : m.get key = some value) : (key, value) ∈ m.items := by
  obtain ⟨items⟩ := m
  simp only [get] at here ⊢
  induction items with
  | nil => cases here
  | cons item items ih =>
    obtain ⟨other, old⟩ := item
    rw [getItem] at here
    split_ifs at here with same
    · cases same
      cases here
      exact List.mem_cons_self
    · exact List.mem_cons_of_mem _ (ih here)

theorem get_of_mem_items (distinct : m.keys.Nodup) (mem : item ∈ m.items) :
    m.get item.1 = some item.2 := by
  obtain ⟨items⟩ := m
  simp only [get, keys] at distinct mem ⊢
  induction items with
  | nil => cases mem
  | cons first items ih =>
    rw [List.map_cons, List.nodup_cons] at distinct
    rcases List.mem_cons.mp mem with rfl | later
    · exact if_pos rfl
    · have differs : first.1 ≠ item.1 := fun same =>
        distinct.1 (same ▸ List.mem_map_of_mem later)
      rw [getItem, if_neg differs]
      exact ih distinct.2 later

theorem mem_keys : key ∈ m.keys ↔ m.get key ≠ none := by
  obtain ⟨items⟩ := m
  simp only [keys, get]
  induction items with
  | nil => simp [getItem]
  | cons item items ih =>
    obtain ⟨first, old⟩ := item
    by_cases same : first = key
    · simp [getItem, same]
    · simpa [getItem, same, Ne.symm same] using ih

omit [DecidableEq α] in
theorem nodup_filter (distinct : m.keys.Nodup) (keep : α → Bool) : (m.filter keep).keys.Nodup :=
  distinct.sublist (List.filter_sublist.map Prod.fst)

theorem mem_of_get_ofItems (here : (ofItems items).get key = some value) :
    (key, value) ∈ items := by
  induction items using List.reverseRecOn with
  | nil => cases here
  | append_singleton items item ih =>
    rw [ofItems, List.foldl_concat, get_set] at here
    split_ifs at here with same
    · cases same
      cases here
      exact List.mem_append_right _ List.mem_cons_self
    · exact List.mem_append_left _ (ih here)

theorem get_ofItems_ne_none (mem : item ∈ items) : (ofItems items).get item.1 ≠ none := by
  induction items using List.reverseRecOn with
  | nil => cases mem
  | append_singleton items last ih =>
    rw [ofItems, List.foldl_concat, get_set]
    split_ifs with same
    · exact Option.some_ne_none _
    · rcases List.mem_append.mp mem with earlier | isLast
      · exact ih earlier
      · exact absurd (congrArg Prod.fst (List.mem_singleton.mp isLast)) same

/-- Setting the items of a map with distinct keys in their order gives the map again. -/
theorem ofItems_items (distinct : (items.map Prod.fst).Nodup) : ofItems items = ⟨items⟩ := by
  suffices all : ∀ before : List (α × β), ((before ++ items).map Prod.fst).Nodup →
      items.foldl (fun m item => m.set item.1 item.2) (⟨before⟩ : OrderedMap α β) =
        ⟨before ++ items⟩ from
    all [] distinct
  clear distinct
  induction items with
  | nil => simp
  | cons item items ih =>
    intro before distinct
    have isNew : item.1 ∉ before.map Prod.fst := by
      rw [List.map_append, List.map_cons] at distinct
      intro mem
      exact (List.nodup_append.mp distinct).2.2 _ mem _ List.mem_cons_self rfl
    rw [List.foldl_cons, set, setItem_new isNew, ih _ (by simpa using distinct),
      List.append_assoc]
    rfl

end OrderedMap

end ModemStack.Data
