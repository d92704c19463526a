import ModemStack.Async.Alone
import ModemStack.Backend.NmcliNmPort
import ModemStack.Data.OrderedMap

/-!
What is active on which interface, as nmcli lists and changes it.

Between two runs of nmcli anything may happen to it from outside.
-/

namespace ModemStack.Backend

open ModemStack.Async ModemStack.Data ModemStack.Text

/-- The uuids and interface names NetworkManager knows have no colon and no line break. -/
def IsName (text : JsString) : Prop := text ≠ [] ∧ 0x3A ∉ text ∧ 0x0A ∉ text

instance (text : JsString) : Decidable (IsName text) := inferInstanceAs (Decidable (_ ∧ _ ∧ _))

/-- The active connections, by interface. -/
structure ActiveConnections where
  byInterface : OrderedMap JsString JsString
  named : ∀ item ∈ byInterface.items, IsName item.1 ∧ IsName item.2

namespace ActiveConnections

def empty : ActiveConnections := ⟨.empty, nofun⟩

def on (active : ActiveConnections) (deviceIfname : JsString) : Option JsString :=
  active.byInterface.get deviceIfname

/-- `connection up`, which takes no other names. -/
def up (active : ActiveConnections) (connectionId deviceIfname : JsString) : ActiveConnections :=
  if names : IsName deviceIfname ∧ IsName connectionId then
    { byInterface := active.byInterface.set deviceIfname connectionId
      named := by
        intro item mem
        rcases OrderedMap.mem_setItem mem with old | rfl
        · exact active.named item old
        · exact names }
  else active

def disconnect (active : ActiveConnections) (deviceIfname : JsString) : ActiveConnections where
  byInterface := active.byInterface.filter fun other => other ≠ deviceIfname
  named item mem := active.named item (List.mem_of_mem_filter mem)

variable {active : ActiveConnections}

theorem on_named {deviceIfname connectionId : JsString}
    (isActive : active.on deviceIfname = some connectionId) :
    IsName deviceIfname ∧ IsName connectionId :=
  active.named _ (OrderedMap.mem_items_of_get isActive)

theorem on_up_self {connectionId deviceIfname : JsString}
    (names : IsName deviceIfname ∧ IsName connectionId) :
    (active.up connectionId deviceIfname).on deviceIfname = some connectionId := by
  rw [up, dif_pos names, on, OrderedMap.get_set, if_pos rfl]

/-! ### The listing -/

/-- What `connection show --active` prints of the fields `UUID,DEVICE`. -/
def listing (active : ActiveConnections) : JsString :=
  [0x0A].intercalate (active.byInterface.items.map fun item => item.2 ++ 0x3A :: item.1)

theorem splitOn_line {item : JsString × JsString} (named : IsName item.1 ∧ IsName item.2) :
    (item.2 ++ 0x3A :: item.1).splitOn colon = [item.2, item.1] := by
  rw [colon, List.splitOn_append_cons_self_of_not_mem named.2.2.1,
    List.splitOn_eq_singleton named.1.2.1]

/-- The adapter finds in the listing what is active. -/
theorem activeUuid_listing (deviceIfname : JsString) :
    activeUuid deviceIfname active.listing = active.on deviceIfname := by
  obtain ⟨⟨items⟩, named⟩ := active
  have lines : (listing ⟨⟨items⟩, named⟩).splitOn 0x0A =
      if items = [] then [[]] else items.map fun item => item.2 ++ 0x3A :: item.1 := by
    by_cases none : items = []
    · subst none
      rfl
    · rw [listing, if_neg none, List.splitOn_intercalate _ _ (mt List.map_eq_nil_iff.mp none)]
      intro line mem isBreak
      obtain ⟨item, isItem, rfl⟩ := List.mem_map.mp mem
      obtain ⟨device, uuid⟩ := named item isItem
      rcases List.mem_append.mp isBreak with inUuid | inDevice
      · exact uuid.2.2 inUuid
      · exact device.2.2 ((List.mem_cons.mp inDevice).resolve_left nofun)
  rw [activeUuid, lines, on, OrderedMap.get]
  clear lines
  split
  · next none =>
      subst none
      rfl
  · clear * - named
    induction items with
    | nil => rfl
    | cons item items ih =>
      have rest := ih fun other mem => named other (List.mem_cons_of_mem _ mem)
      have isName := named item List.mem_cons_self
      rw [List.map_cons, List.findSome?_cons, splitOn_line isName, OrderedMap.getItem]
      by_cases here : item.1 = deviceIfname
      · simp [here, isName.2.1]
      · simp [here, rest]

end ActiveConnections

/-! ### Runs of nmcli -/

/-- `outside` is what happens before each run of nmcli. -/
structure World where
  active : ActiveConnections
  outside : List (ActiveConnections → ActiveConnections)

/-- What the next run of nmcli finds. -/
def World.found (world : World) : ActiveConnections :=
  match world.outside with
  | [] => world.active
  | change :: _ => change world.active

def World.after (world : World) (active : ActiveConnections) : World :=
  ⟨active, world.outside.tail⟩

def World.connectionUp (world : World) (connectionId deviceIfname : JsString) :
    NmcliResult × World :=
  let exitCode := if IsName deviceIfname ∧ IsName connectionId then 0 else 10
  (⟨[], [], exitCode⟩, world.after (world.found.up connectionId deviceIfname))

def World.nmcli (call : NmcliCall) (world : World) : Except Failure call.Answer × World :=
  match call with
  | .listActive => (.ok ⟨world.found.listing, [], 0⟩, world.after world.found)
  | .disconnect deviceIfname =>
    let exitCode := if (world.found.on deviceIfname).isSome then 0 else 6
    (.ok ⟨[], [], exitCode⟩, world.after (world.found.disconnect deviceIfname))
  | .up connectionId deviceIfname =>
    (.ok (world.connectionUp connectionId deviceIfname).1,
      (world.connectionUp connectionId deviceIfname).2)
  | .reactivate held =>
    (.ok (world.connectionUp held.lease.connectionId held.lease.deviceIfname).1,
      (world.connectionUp held.lease.connectionId held.lease.deviceIfname).2)

end ModemStack.Backend
