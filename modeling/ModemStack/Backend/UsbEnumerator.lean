import Mathlib.Data.List.TakeWhile
import ModemStack.Redact
import ModemStack.Text.NumericString

/-!
USB enumeration: the udev database read into devices with their interfaces.

A device lists the classes of its interfaces in one property, and the driver of each interface
stands in a record of its own. They are brought together by the number at the end of the record's
path, taken for a place in the list. `udev_attributed_iff` says when the two agree.
-/

namespace ModemStack.Backend

open ModemStack.Data ModemStack.Text

/-! ### Records -/

structure UdevRecord where
  devpath : JsString
  env : OrderedMap JsString JsString

/-- The records read so far and the one that is being read. -/
structure RecordScan where
  records : List UdevRecord
  devpath : JsString
  env : OrderedMap JsString JsString

def RecordScan.start : RecordScan := ⟨[], [], .empty⟩

def RecordScan.flush (scan : RecordScan) : RecordScan :=
  if scan.env.items ≠ [] ∨ scan.devpath ≠ [] then
    ⟨scan.records ++ [⟨scan.devpath, scan.env⟩], [], .empty⟩
  else ⟨scan.records, [], .empty⟩

def RecordScan.line (scan : RecordScan) (line : JsString) : RecordScan :=
  if trim line = [] then scan.flush
  else
    let kind := line.take 2
    let rest := line.drop 3
    if kind = js "P:" then { scan with devpath := rest }
    else if kind = js "E:" then
      let key := rest.takeWhile (· ≠ 0x3D)
      if rest.contains 0x3D ∧ key ≠ [] then
        { scan with env := scan.env.set key (rest.drop (key.length + 1)) }
      else scan
    else scan

def parseRecords (text : JsString) : List UdevRecord :=
  ((text.splitOn 0x0A).foldl RecordScan.line .start).flush.records

/-! ### Devices -/

/-- A class, a subclass and a protocol, where they are numbers. -/
structure UsbTriple where
  interfaceClass : Option Int
  interfaceSubClass : Option Int
  interfaceProtocol : Option Int
deriving DecidableEq

structure UdevInterface where
  triple : UsbTriple
  driver : Option JsString
deriving DecidableEq

structure UdevSnapshot where
  vendorId : JsString
  productId : JsString
  sysfsPath : JsString
  bDeviceClass : Nat
  interfaces : List UdevInterface
  udevProperties : List (JsString × JsString)
  model : Option JsString
  firmwareRevision : Option JsString
  physicalUid : Option JsString
deriving DecidableEq

def parseTriple (token : JsString) : UsbTriple :=
  ⟨parseInt 16 (token.take 2), parseInt 16 ((token.drop 2).take 2),
    parseInt 16 ((token.drop 4).take 2)⟩

/-- `ID_USB_INTERFACES`, such as `:ff0000:0a0000:`. -/
def parseInterfaces : Option JsString → List UdevInterface
  | none => []
  | some value =>
    ((value.splitOn colon).filter fun token => token.length = 6).map fun token =>
      ⟨parseTriple token, none⟩

/-- A number after the last dot of a path. -/
def interfaceIndex (devpath : JsString) : Option Int := (dottedLeaf devpath).bind (parseInt 10)

/-- `devpath.slice(0, devpath.lastIndexOf('/'))`; without a slash that is all but the last
character. -/
def parentPath (devpath : JsString) : JsString :=
  if devpath.contains 0x2F then ((devpath.reverse.dropWhile (· ≠ 0x2F)).drop 1).reverse
  else devpath.dropLast

def buildSnapshot (devpath : JsString) (env : OrderedMap JsString JsString) :
    Option UdevSnapshot :=
  match env.get (js "ID_VENDOR_ID"), env.get (js "ID_MODEL_ID") with
  | some vendorId, some productId => some {
      vendorId
      productId
      sysfsPath := js "/sys" ++ devpath
      bDeviceClass := 0
      interfaces := parseInterfaces (env.get (js "ID_USB_INTERFACES"))
      udevProperties := env.items.filter fun item => item.1 ≠ js "__proto__"
      model := env.get (js "ID_MODEL")
      firmwareRevision := env.get (js "ID_REVISION")
      physicalUid := env.get (js "ID_PATH") }
  | _, _ => none

/-! ### The two passes -/

def addDevice (snapshots : OrderedMap JsString UdevSnapshot) (record : UdevRecord) :
    OrderedMap JsString UdevSnapshot :=
  if record.env.get (js "DEVTYPE") ≠ some (js "usb_device") then snapshots
  else
    match buildSnapshot record.devpath record.env with
    | none => snapshots
    | some snapshot => snapshots.set record.devpath snapshot

def readDevices (records : List UdevRecord) : OrderedMap JsString UdevSnapshot :=
  records.foldl addDevice .empty

/-- The lists into which the drivers are written, under the paths of the devices. -/
def listedInterfaces (snapshots : OrderedMap JsString UdevSnapshot) :
    OrderedMap JsString (List UdevInterface) :=
  ⟨snapshots.items.map fun item => (item.1, item.2.interfaces)⟩

/-- `list[index]` -/
def itemAt {α : Type} (list : List α) (index : Int) : Option α :=
  if 0 ≤ index then list[index.toNat]? else none

/-- The parent, the number and the driver that a record names. -/
def UdevRecord.binding (record : UdevRecord) : Option (JsString × Int × JsString) :=
  if record.env.get (js "DEVTYPE") ≠ some (js "usb_interface") then none
  else
    match record.env.get (js "DRIVER"), interfaceIndex record.devpath with
    | some driver, some index => some (parentPath record.devpath, index, driver)
    | _, _ => none

def stitchDriver (devices : OrderedMap JsString (List UdevInterface)) (record : UdevRecord) :
    OrderedMap JsString (List UdevInterface) :=
  match record.binding with
  | none => devices
  | some (parent, index, driver) =>
    match devices.get parent with
    | none => devices
    | some ifaces =>
      match itemAt ifaces index with
      | none => devices
      | some iface =>
        devices.set parent (ifaces.set index.toNat { iface with driver := some driver })

def parseUdevDatabase (text : JsString) : List UdevSnapshot :=
  let records := parseRecords text
  let snapshots := readDevices records
  let devices := records.foldl stitchDriver (listedInterfaces snapshots)
  snapshots.items.map fun item =>
    { item.2 with interfaces := (devices.get item.1).getD item.2.interfaces }

/-! ### Which record a driver comes from -/

/-- The record gives a driver to the interface at a place of a device. -/
def UdevRecord.Binds (record : UdevRecord) (devpath : JsString) (place : Nat)
    (driver : JsString) : Prop :=
  record.binding = some (devpath, (place : Int), driver)

/-- The last record that gives the interface a driver. -/
def LastBinding (records : List UdevRecord) (devpath : JsString) (place : Nat)
    (record : UdevRecord) (driver : JsString) : Prop :=
  ∃ before after, records = before ++ record :: after ∧ record.Binds devpath place driver ∧
    ∀ later ∈ after, ∀ other, ¬ later.Binds devpath place other

section Stitch

variable {records : List UdevRecord} {record : UdevRecord} {devpath driver : JsString}
  {place : Nat} {devices : OrderedMap JsString (List UdevInterface)}

/-- The driver a record gives to a place. -/
def UdevRecord.driverFor (record : UdevRecord) (devpath : JsString) (place : Nat) :
    Option JsString :=
  match record.binding with
  | some (parent, index, driver) => if parent = devpath ∧ index = place then some driver else none
  | none => none

theorem driverFor_eq_some : record.driverFor devpath place = some driver ↔
    record.Binds devpath place driver := by
  unfold UdevRecord.driverFor UdevRecord.Binds
  cases record.binding with
  | none => simp
  | some binding =>
    obtain ⟨parent, index, driver'⟩ := binding
    by_cases here : parent = devpath ∧ index = place
    · obtain ⟨rfl, rfl⟩ := here
      simp
    · simp only [here, if_false, Option.some.injEq, Prod.mk.injEq, reduceCtorEq, false_iff]
      rintro ⟨rfl, rfl, -⟩
      exact here ⟨rfl, rfl⟩

/-- The driver that is left at a place after all records. -/
def lastDriver (records : List UdevRecord) (devpath : JsString) (place : Nat) : Option JsString :=
  (records.filterMap fun record => record.driverFor devpath place).getLast?

theorem lastDriver_snoc : lastDriver (records ++ [record]) devpath place =
    (record.driverFor devpath place).or (lastDriver records devpath place) := by
  unfold lastDriver
  rw [List.filterMap_append]
  cases given : record.driverFor devpath place <;> simp [given]

theorem lastDriver_eq_some : lastDriver records devpath place = some driver ↔
    ∃ record, LastBinding records devpath place record driver := by
  induction records using List.reverseRecOn with
  | nil =>
    refine iff_of_false nofun ?_
    rintro ⟨record, before, after, whole, -, -⟩
    cases before <;> cases whole
  | append_singleton records last ih =>
    rw [lastDriver_snoc]
    constructor
    · intro left
      cases given : last.driverFor devpath place with
      | some =>
        rw [given] at left
        cases left
        exact ⟨last, records, [], rfl, driverFor_eq_some.mp given, nofun⟩
      | none =>
        rw [given, Option.none_or] at left
        obtain ⟨record, before, after, rfl, binds, none_later⟩ := ih.mp left
        refine ⟨record, before, after ++ [last], by simp, binds, ?_⟩
        intro later mem other later_binds
        rcases List.mem_append.mp mem with mem | mem
        · exact none_later later mem other later_binds
        · rw [List.mem_singleton.mp mem] at later_binds
          rw [driverFor_eq_some.mpr later_binds] at given
          cases given
    · rintro ⟨record, before, after, whole, binds, none_later⟩
      cases after using List.reverseRecOn with
      | nil =>
        obtain ⟨-, same⟩ := List.append_inj' whole rfl
        cases same
        rw [driverFor_eq_some.mpr binds, Option.some_or]
      | append_singleton after last' =>
        have split : records = before ++ record :: after ∧ last = last' := by
          rw [← List.cons_append, ← List.append_assoc] at whole
          obtain ⟨same, final⟩ := List.append_inj' whole rfl
          exact ⟨same, List.cons.inj final |>.1⟩
        obtain ⟨rfl, rfl⟩ := split
        have silent : last.driverFor devpath place = none := by
          by_contra given
          obtain ⟨other, given⟩ := Option.ne_none_iff_exists'.mp given
          exact none_later last (by simp) other (driverFor_eq_some.mp given)
        rw [silent, Option.none_or]
        exact ih.mpr ⟨record, before, after, rfl, binds, fun later mem =>
          none_later later (List.mem_append_left _ mem)⟩

/-- A list with the drivers that its places are given. -/
def withDrivers (given : Nat → Option JsString) (ifaces : List UdevInterface) :
    List UdevInterface :=
  ifaces.mapIdx fun place iface => { iface with driver := (given place).or iface.driver }

variable {ifaces : List UdevInterface}

theorem getElem?_withDrivers {given : Nat → Option JsString} : (withDrivers given ifaces)[place]? =
      ifaces[place]?.map fun iface => { iface with driver := (given place).or iface.driver } :=
  List.getElem?_mapIdx

theorem withDrivers_none {given : Nat → Option JsString}
    (silent : ∀ place < ifaces.length, given place = none) : withDrivers given ifaces = ifaces := by
  apply List.ext_getElem?
  intro place
  rw [getElem?_withDrivers]
  by_cases inside : place < ifaces.length
  · simp [silent place inside]
  · simp [List.getElem?_eq_none (Nat.le_of_not_lt inside)]

theorem withDrivers_withDrivers {first later : Nat → Option JsString} :
    withDrivers later (withDrivers first ifaces) =
      withDrivers (fun place => (later place).or (first place)) ifaces := by
  apply List.ext_getElem?
  intro place
  simp only [getElem?_withDrivers, Option.map_map, Function.comp_def, Option.or_assoc]

/-- A number that is no place of the list is passed over. -/
theorem itemAt_eq_some {α : Type} {list : List α} {index : Int} {item : α} :
    itemAt list index = some item ↔ ∃ place : Nat, index = place ∧ list[place]? = some item := by
  unfold itemAt
  split
  · next positive =>
    constructor
    · intro found
      exact ⟨index.toNat, (Int.toNat_of_nonneg positive).symm, found⟩
    · rintro ⟨place, rfl, found⟩
      simpa using found
  · next negative =>
    refine iff_of_false nofun ?_
    rintro ⟨place, rfl, -⟩
    exact negative (Int.natCast_nonneg place)

theorem get_stitchDriver : (stitchDriver devices record).get devpath =
    (devices.get devpath).map (withDrivers (record.driverFor devpath)) := by
  have kept : (∀ ifaces, devices.get devpath = some ifaces → ∀ place < ifaces.length,
      record.driverFor devpath place = none) → devices.get devpath =
        (devices.get devpath).map (withDrivers (record.driverFor devpath)) := by
    intro silent
    cases there : devices.get devpath with
    | none => rfl
    | some ifaces => rw [Option.map_some, withDrivers_none (silent ifaces there)]
  unfold stitchDriver
  cases binding : record.binding with
  | none =>
    apply kept
    intro ifaces _ place _
    simp [UdevRecord.driverFor, binding]
  | some entry =>
    obtain ⟨parent, index, driver⟩ := entry
    have given : ∀ place, record.driverFor devpath place =
        if parent = devpath ∧ index = place then some driver else none := by
      intro place
      simp only [UdevRecord.driverFor, binding]
    simp only
    cases there : devices.get parent with
    | none =>
      apply kept
      intro ifaces here place _
      rw [given, if_neg]
      rintro ⟨rfl, -⟩
      rw [there] at here
      cases here
    | some ifaces =>
      simp only
      cases found : itemAt ifaces index with
      | none =>
        apply kept
        intro ifaces' here place inside
        rw [given, if_neg]
        rintro ⟨rfl, rfl⟩
        rw [there] at here
        cases here
        simp [itemAt, inside] at found
      | some =>
        obtain ⟨place, rfl, here⟩ := itemAt_eq_some.mp found
        simp only [OrderedMap.get_set]
        by_cases same : devpath = parent
        · subst same
          rw [if_pos rfl, there, Option.map_some, Int.toNat_natCast]
          refine congrArg some (List.ext_getElem? fun other => ?_)
          rw [getElem?_withDrivers, List.getElem?_set, given]
          by_cases at_place : place = other
          · subst at_place
            obtain ⟨inside, rfl⟩ := List.getElem?_eq_some_iff.mp here
            simp [inside]
          · simp [at_place]
        · rw [if_neg same]
          apply kept
          intro ifaces' _ other _
          rw [given, if_neg fun both => same both.1.symm]

/-- The stitch gives each interface the driver of the last record for its place. -/
theorem get_stitch : (records.foldl stitchDriver devices).get devpath =
    (devices.get devpath).map (withDrivers (lastDriver records devpath)) := by
  induction records using List.reverseRecOn with
  | nil =>
    rw [List.foldl_nil]
    cases devices.get devpath with
    | none => rfl
    | some => exact congrArg some (withDrivers_none fun _ _ => rfl).symm
  | append_singleton records last ih =>
    rw [List.foldl_append, List.foldl_cons, List.foldl_nil, get_stitchDriver, ih, Option.map_map]
    refine congrArg (fun f => (devices.get devpath).map f) (funext fun ifaces => ?_)
    rw [Function.comp_apply, withDrivers_withDrivers]
    exact congrArg (fun given => withDrivers given ifaces) (funext fun _ => lastDriver_snoc.symm)

end Stitch

/-! ### The snapshots -/

section Snapshots

variable {records : List UdevRecord} {snapshots : OrderedMap JsString UdevSnapshot}
  {devpath : JsString} {listed : UdevSnapshot}

theorem nodup_readDevices (records : List UdevRecord) : (readDevices records).keys.Nodup := by
  unfold readDevices
  induction records using List.reverseRecOn with
  | nil => exact List.nodup_nil
  | append_singleton records last ih =>
    rw [List.foldl_append, List.foldl_cons, List.foldl_nil]
    unfold addDevice
    split
    · exact ih
    · split
      · exact ih
      · exact OrderedMap.nodup_set ih _ _

/-- What is listed under a path was built for it. -/
theorem built_of_mem (mem : (devpath, listed) ∈ (readDevices records).items) :
    ∃ env, buildSnapshot devpath env = some listed := by
  have here := OrderedMap.get_of_mem_items (nodup_readDevices records) mem
  unfold readDevices at here
  induction records using List.reverseRecOn with
  | nil => cases here
  | append_singleton records last ih =>
    rw [List.foldl_append, List.foldl_cons, List.foldl_nil] at here
    unfold addDevice at here
    split at here
    · exact ih (OrderedMap.mem_items_of_get here) here
    · split at here
      · exact ih (OrderedMap.mem_items_of_get here) here
      · next snapshot built =>
        rw [OrderedMap.get_set] at here
        split at here
        · next same =>
          cases here
          obtain rfl : devpath = last.devpath := same
          exact ⟨last.env, built⟩
        · exact ih (OrderedMap.mem_items_of_get here) here

theorem sysfsPath_of_mem (mem : (devpath, listed) ∈ (readDevices records).items) :
    listed.sysfsPath = js "/sys" ++ devpath := by
  obtain ⟨env, built⟩ := built_of_mem mem
  unfold buildSnapshot at built
  split at built <;> cases built
  rfl

theorem undriven_of_mem (mem : (devpath, listed) ∈ (readDevices records).items) :
    ∀ iface ∈ listed.interfaces, iface.driver = none := by
  obtain ⟨env, built⟩ := built_of_mem mem
  unfold buildSnapshot at built
  split at built <;> cases built
  intro iface mem
  simp only at mem
  unfold parseInterfaces at mem
  split at mem
  · cases mem
  · obtain ⟨token, -, rfl⟩ := List.mem_map.mp mem
    rfl

theorem keys_listedInterfaces : (listedInterfaces snapshots).keys = snapshots.keys := by
  simp [listedInterfaces, OrderedMap.keys]

theorem get_listedInterfaces (mem : (devpath, listed) ∈ (readDevices records).items) :
    (listedInterfaces (readDevices records)).get devpath = some listed.interfaces := by
  have distinct : (listedInterfaces (readDevices records)).keys.Nodup := by
    rw [keys_listedInterfaces]
    exact nodup_readDevices records
  have mem' : (devpath, listed.interfaces) ∈ (listedInterfaces (readDevices records)).items :=
    List.mem_map_of_mem (f := fun item => (item.1, item.2.interfaces)) mem
  exact OrderedMap.get_of_mem_items distinct mem'

theorem get_stitched (text devpath : JsString) (listed : UdevSnapshot)
    (mem : (devpath, listed) ∈ (readDevices (parseRecords text)).items) :
    ((parseRecords text).foldl stitchDriver
      (listedInterfaces (readDevices (parseRecords text)))).get devpath =
        some (withDrivers (lastDriver (parseRecords text) devpath) listed.interfaces) := by
  rw [get_stitch, get_listedInterfaces mem, Option.map_some]

/-- A snapshot is the device's own record with the drivers of its places. -/
theorem mem_parseUdevDatabase {text : JsString} {snapshot : UdevSnapshot} :
    snapshot ∈ parseUdevDatabase text ↔ ∃ devpath listed,
      (devpath, listed) ∈ (readDevices (parseRecords text)).items ∧
        snapshot = { listed with
          interfaces := withDrivers (lastDriver (parseRecords text) devpath) listed.interfaces } := by
  constructor
  · intro mem
    obtain ⟨⟨devpath, listed⟩, item, rfl⟩ := List.mem_map.mp mem
    refine ⟨devpath, listed, item, ?_⟩
    rw [get_stitched text devpath listed item, Option.getD_some]
  · rintro ⟨devpath, listed, mem, rfl⟩
    refine List.mem_map.mpr ⟨(devpath, listed), mem, ?_⟩
    rw [get_stitched text devpath listed mem, Option.getD_some]

end Snapshots

/-! ### How many drivers are given -/

def carries (driver : JsString) (iface : UdevInterface) : Bool := iface.driver = some driver

/-- The record is of an interface bound to a driver. -/
def UdevRecord.bindsTo (driver : JsString) (record : UdevRecord) : Bool :=
  record.env.get (js "DEVTYPE") = some (js "usb_interface") ∧
    record.env.get (js "DRIVER") = some driver

/-- The interfaces that carry a driver, over all devices. -/
def driverCount (driver : JsString) (items : List (JsString × List UdevInterface)) : Nat :=
  (items.flatMap Prod.snd).countP (carries driver)

section Count

variable {driver : JsString} {records : List UdevRecord} {record : UdevRecord}

theorem driverCount_setItem {key : JsString} {old : List UdevInterface} (new : List UdevInterface) :
    ∀ {items : List (JsString × List UdevInterface)}, OrderedMap.getItem key items = some old →
      driverCount driver (OrderedMap.setItem key new items) + old.countP (carries driver) =
        driverCount driver items + new.countP (carries driver)
  | [], there => by cases there
  | (first, value) :: items, there => by
    rw [OrderedMap.getItem] at there
    rw [OrderedMap.setItem]
    by_cases here : first = key
    · rw [if_pos here] at there
      cases there
      rw [if_pos here]
      simp only [driverCount, List.flatMap_cons, List.countP_append]
      omega
    · rw [if_neg here] at there
      rw [if_neg here]
      have later := driverCount_setItem new there
      simp only [driverCount, List.flatMap_cons, List.countP_append] at later ⊢
      omega

theorem bindsTo_of_binding {parent : JsString} {index : Int}
    (binding : record.binding = some (parent, index, driver)) : record.bindsTo driver = true := by
  unfold UdevRecord.binding at binding
  split at binding
  · cases binding
  · next isInterface =>
    split at binding <;> cases binding
    next driven _ => simp_all [UdevRecord.bindsTo]

theorem driverCount_set {key : JsString} {items : List (JsString × List UdevInterface)}
    {ifaces : List UdevInterface} (there : OrderedMap.getItem key items = some ifaces) {place : Nat}
    (inside : place < ifaces.length) (iface : UdevInterface) :
    driverCount driver (OrderedMap.setItem key (ifaces.set place iface) items) ≤
      driverCount driver items + if carries driver iface then 1 else 0 := by
  have total : driverCount driver (OrderedMap.setItem key (ifaces.set place iface) items) +
      ifaces.countP (carries driver) =
        driverCount driver items + (ifaces.set place iface).countP (carries driver) :=
    driverCount_setItem _ there
  have changed := List.countP_set (p := carries driver) (a := iface) inside
  omega

/-- A record adds a driver to one interface at most. -/
theorem driverCount_stitchDriver (driver : JsString) (record : UdevRecord)
    (devices : OrderedMap JsString (List UdevInterface)) :
    driverCount driver (stitchDriver devices record).items ≤
      driverCount driver devices.items + if record.bindsTo driver then 1 else 0 := by
  unfold stitchDriver
  split
  · exact Nat.le_add_right _ _
  · next parent index given binding =>
    split
    · exact Nat.le_add_right _ _
    · next ifaces there =>
      split
      · exact Nat.le_add_right _ _
      · next iface found =>
        obtain ⟨place, rfl, here⟩ := itemAt_eq_some.mp found
        refine (driverCount_set there (List.getElem?_eq_some_iff.mp here).1 _).trans ?_
        apply Nat.add_le_add_left
        by_cases same : given = driver
        · subst same
          rw [bindsTo_of_binding binding]
          exact Nat.le_of_eq (if_pos (by simp [carries]))
        · rw [if_neg (by simp [carries, same])]
          exact Nat.zero_le _

theorem driverCount_stitch (driver : JsString) (records : List UdevRecord)
    (devices : OrderedMap JsString (List UdevInterface)) :
    driverCount driver (records.foldl stitchDriver devices).items ≤
      driverCount driver devices.items + records.countP (UdevRecord.bindsTo driver) := by
  induction records using List.reverseRecOn with
  | nil => exact Nat.le_add_right _ _
  | append_singleton records last ih =>
    rw [List.foldl_append, List.foldl_cons, List.foldl_nil, List.countP_append]
    have more := driverCount_stitchDriver driver last
      (records.foldl stitchDriver devices)
    have one : [last].countP (UdevRecord.bindsTo driver) =
        if last.bindsTo driver then 1 else 0 := by
      simp [List.countP_cons]
    omega

theorem driverCount_listed (records : List UdevRecord) :
    driverCount driver (listedInterfaces (readDevices records)).items = 0 := by
  refine List.countP_eq_zero.mpr fun iface inside => ?_
  obtain ⟨item, mem, inside⟩ := List.mem_flatMap.mp inside
  obtain ⟨⟨devpath, listed⟩, isListed, rfl⟩ := List.mem_map.mp mem
  simp [carries, undriven_of_mem isListed iface inside]

theorem keys_setItem {α β : Type} [DecidableEq α] {key : α} {old new : β} :
    ∀ {items : List (α × β)}, OrderedMap.getItem key items = some old →
      (OrderedMap.setItem key new items).map Prod.fst = items.map Prod.fst
  | [], there => by cases there
  | (first, value) :: items, there => by
    rw [OrderedMap.getItem] at there
    rw [OrderedMap.setItem]
    split at there
    · next here => simp [here]
    · next differs => rw [if_neg differs, List.map_cons, List.map_cons, keys_setItem there]

theorem keys_stitch (records : List UdevRecord) (devices : OrderedMap JsString (List UdevInterface)) :
    (records.foldl stitchDriver devices).keys = devices.keys := by
  induction records using List.reverseRecOn with
  | nil => rfl
  | append_singleton records last ih =>
    rw [List.foldl_append, List.foldl_cons, List.foldl_nil, ← ih]
    unfold stitchDriver
    split
    · rfl
    · split
      · rfl
      · next there =>
        split
        · rfl
        · exact keys_setItem there

/-- The interfaces of the snapshots are the stitched lists. -/
theorem interfaces_parseUdevDatabase (text : JsString) :
    (parseUdevDatabase text).map UdevSnapshot.interfaces =
      ((parseRecords text).foldl stitchDriver
        (listedInterfaces (readDevices (parseRecords text)))).values := by
  have keys := keys_stitch (parseRecords text)
    (listedInterfaces (readDevices (parseRecords text)))
  have distinct := nodup_readDevices (parseRecords text)
  have stitched := get_stitched text
  rw [keys_listedInterfaces] at keys
  rw [← keys] at distinct
  revert keys distinct stitched
  unfold parseUdevDatabase
  simp only
  generalize (parseRecords text).foldl stitchDriver
    (listedInterfaces (readDevices (parseRecords text))) = devices
  intro keys distinct stitched
  have values : devices.values = devices.keys.map fun key => (devices.get key).getD [] := by
    unfold OrderedMap.values OrderedMap.keys
    rw [List.map_map]
    refine List.map_congr_left fun item mem => ?_
    rw [Function.comp_apply, OrderedMap.get_of_mem_items distinct mem, Option.getD_some]
  rw [values, keys, OrderedMap.keys, List.map_map, List.map_map]
  refine List.map_congr_left fun item mem => ?_
  obtain ⟨devpath, listed⟩ := item
  simp only [Function.comp_apply, stitched devpath listed mem, Option.getD_some]

/-- No more interfaces carry a driver than records name it. -/
theorem countP_driver_le (text : JsString) :
    ((parseUdevDatabase text).flatMap UdevSnapshot.interfaces).countP (carries driver) ≤
      (parseRecords text).countP (UdevRecord.bindsTo driver) := by
  have bound := driverCount_stitch driver (parseRecords text)
    (listedInterfaces (readDevices (parseRecords text)))
  rw [driverCount_listed, Nat.zero_add] at bound
  refine le_trans (le_of_eq ?_) bound
  rw [driverCount, List.flatMap_def, interfaces_parseUdevDatabase, List.flatMap_def]
  rfl

end Count

/-! ### Whose drivers they are -/

section Attribution

/-- A record directly below a device. -/
def UdevRecord.Below (record : UdevRecord) (devpath : JsString) : Prop :=
  ∃ name, (0x2F : UInt16) ∉ name ∧ record.devpath = devpath ++ 0x2F :: name

theorem below_iff {record : UdevRecord} {devpath : JsString} : record.Below devpath ↔
    (0x2F : UInt16) ∈ record.devpath ∧ parentPath record.devpath = devpath := by
  have cut : ∀ (before name : JsString), (0x2F : UInt16) ∉ name →
      parentPath (before ++ 0x2F :: name) = before := by
    intro before name last
    have slash : (before ++ 0x2F :: name).contains 0x2F = true := by simp
    have skipped : name.reverse.dropWhile (fun c => decide (c ≠ (0x2F : UInt16))) = [] := by
      rw [List.dropWhile_eq_nil_iff]
      intro c mem
      rw [decide_eq_true_eq]
      rintro rfl
      exact last (List.mem_reverse.mp mem)
    rw [parentPath, if_pos slash, List.reverse_append, List.reverse_cons, List.append_assoc,
      List.singleton_append, List.dropWhile_append, skipped]
    simp
  constructor
  · rintro ⟨name, last, whole⟩
    rw [whole]
    exact ⟨by simp, cut devpath name last⟩
  · rintro ⟨slash, isParent⟩
    obtain ⟨name, before, whole, last⟩ :=
      List.eq_append_cons_of_mem (List.mem_reverse.mpr slash)
    have path : record.devpath = before.reverse ++ 0x2F :: name.reverse := by
      rw [← List.reverse_reverse record.devpath, whole]
      simp
    have last : (0x2F : UInt16) ∉ name.reverse := fun mem => last (List.mem_reverse.mp mem)
    rw [path, cut _ _ last] at isParent
    exact ⟨name.reverse, last, isParent ▸ path⟩

theorem parent_of_binds {record : UdevRecord} {devpath driver : JsString} {place : Nat}
    (binds : record.Binds devpath place driver) : parentPath record.devpath = devpath := by
  unfold UdevRecord.Binds UdevRecord.binding at binds
  split at binds
  · cases binds
  · split at binds <;> cases binds
    rfl

-- the class, subclass and protocol that a record's interface has; the code does not read it
variable (tripleOf : UdevRecord → Option UsbTriple)

/-- A record of the device has the triple and the driver. -/
def Backed (records : List UdevRecord) (devpath : JsString) (triple : UsbTriple)
    (driver : JsString) : Prop :=
  ∃ record ∈ records, record.Below devpath ∧ record.bindsTo driver = true ∧
    tripleOf record = some triple

/-- Each driver is one of a record of that device with that triple, and was put there by a record
of that device. -/
def Attributed (text : JsString) : Prop :=
  ∀ snapshot ∈ parseUdevDatabase text, ∀ devpath, snapshot.sysfsPath = js "/sys" ++ devpath →
    ∀ place iface, snapshot.interfaces[place]? = some iface → ∀ driver, iface.driver = some driver →
      Backed tripleOf (parseRecords text) devpath iface.triple driver ∧
        ∀ record, LastBinding (parseRecords text) devpath place record driver →
          record.Below devpath

/-- The last record numbered with a place of a device's list lies below the device, and its driver
is that of a record with the triple that is listed there. -/
def InStep (text : JsString) : Prop :=
  ∀ devpath listed, (devpath, listed) ∈ (readDevices (parseRecords text)).items →
    ∀ place iface, listed.interfaces[place]? = some iface →
      ∀ record driver, LastBinding (parseRecords text) devpath place record driver →
        (0x2F : UInt16) ∈ record.devpath ∧
          Backed tripleOf (parseRecords text) devpath iface.triple driver

theorem attributed_iff (text : JsString) : Attributed tripleOf text ↔ InStep tripleOf text := by
  constructor
  · intro attributed devpath listed mem place iface here record driver last
    have given := lastDriver_eq_some.mpr ⟨record, last⟩
    have snapshot := mem_parseUdevDatabase.mpr ⟨devpath, listed, mem, rfl⟩
    have path := sysfsPath_of_mem mem
    have driven : (withDrivers (lastDriver (parseRecords text) devpath) listed.interfaces)[place]? =
        some { iface with driver := some driver } := by
      rw [getElem?_withDrivers, here, given]
      rfl
    obtain ⟨backed, below⟩ := attributed _ snapshot devpath path place _ driven driver rfl
    exact ⟨(below_iff.mp (below record last)).1, backed⟩
  · intro inStep snapshot mem devpath isPath place iface here driver carried
    obtain ⟨devpath', listed, item, rfl⟩ := mem_parseUdevDatabase.mp mem
    obtain rfl : devpath' = devpath :=
      List.append_cancel_left ((sysfsPath_of_mem item).symm.trans isPath)
    rw [getElem?_withDrivers] at here
    obtain ⟨listedIface, there, rfl⟩ := Option.map_eq_some_iff.mp here
    have undriven := undriven_of_mem item listedIface (List.mem_of_getElem? there)
    have given : lastDriver (parseRecords text) devpath' place = some driver := by
      rw [← carried, undriven, Option.or_none]
    obtain ⟨record, last⟩ := lastDriver_eq_some.mp given
    refine ⟨(inStep _ _ item _ _ there record driver last).2, fun other isLast => ?_⟩
    have slash := (inStep _ _ item _ _ there other driver isLast).1
    obtain ⟨before, after, -, binds, -⟩ := isLast
    exact below_iff.mpr ⟨slash, parent_of_binds binds⟩

end Attribution

/-- No driver is counted twice, and the drivers stand at the right interfaces as long as the
numbers of the records keep in step with the list of the device. -/
theorem udev_attributed_iff (tripleOf : UdevRecord → Option UsbTriple) (text : JsString) :
    (∀ driver, ((parseUdevDatabase text).flatMap UdevSnapshot.interfaces).countP
        (carries driver) ≤ (parseRecords text).countP (UdevRecord.bindsTo driver)) ∧
      (Attributed tripleOf text ↔ InStep tripleOf text) :=
  ⟨fun _ => countP_driver_le text, attributed_iff tripleOf text⟩

/-- The triple of a record as the kernel exports it: `INTERFACE=255/0/0`. -/
def interfaceTriple (record : UdevRecord) : Option UsbTriple :=
  match (record.env.get (js "INTERFACE")).map (List.splitOn 0x2F) with
  | some [interfaceClass, interfaceSubClass, interfaceProtocol] =>
    some ⟨parseInt 10 interfaceClass, parseInt 10 interfaceSubClass,
      parseInt 10 interfaceProtocol⟩
  | _ => none

/-- A device with two equal vendor interfaces and a data interface: the list property has the
triple of the first two once. -/
def repeatedTriples : JsString :=
  [0x0A].intercalate (["P: /d/1-1", "E: DEVTYPE=usb_device", "E: ID_VENDOR_ID=2c7c",
    "E: ID_MODEL_ID=0125", "E: ID_USB_INTERFACES=:ff0000:0a0000:", "",
    "P: /d/1-1/1-1:1.0", "E: DEVTYPE=usb_interface", "E: DRIVER=option", "E: INTERFACE=255/0/0", "",
    "P: /d/1-1/1-1:1.1", "E: DEVTYPE=usb_interface", "E: DRIVER=qmi_wwan", "E: INTERFACE=255/0/0",
    "", "P: /d/1-1/1-1:1.2", "E: DEVTYPE=usb_interface", "E: DRIVER=cdc_ether",
    "E: INTERFACE=10/0/0"].map js)

/-- The data interface is given the driver of a vendor interface. -/
theorem repeatedTriples_shifted :
    (parseUdevDatabase repeatedTriples).map (fun snapshot => snapshot.interfaces) =
        [[⟨⟨some 255, some 0, some 0⟩, some (js "option")⟩,
          ⟨⟨some 10, some 0, some 0⟩, some (js "qmi_wwan")⟩]] ∧
      (parseRecords repeatedTriples).map (fun record =>
          (interfaceTriple record, record.env.get (js "DRIVER"))) =
        [(none, none), (some ⟨some 255, some 0, some 0⟩, some (js "option")),
          (some ⟨some 255, some 0, some 0⟩, some (js "qmi_wwan")),
          (some ⟨some 10, some 0, some 0⟩, some (js "cdc_ether"))] := by
  decide

end ModemStack.Backend
