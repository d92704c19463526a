import ModemStack.Text.NumericString
import ModemStack.Text.Pattern
import ModemStack.Text.Trim

/-!
The text of `usb-devices`, read into one record a device.

`toLowerCase` is that of Unicode, of which only the ASCII part is used.
-/

namespace ModemStack.UsbMode

open ModemStack.Text

/-! ### Fields of a line -/

abbrev equalsSign : UInt16 := 0x3D

/-- `` new RegExp(`${key}=\\s*(\\S+)`) `` -/
def fieldPattern (key : JsString) : Pattern :=
  .all [.literal (key ++ [equalsSign]), Pattern.spaces,
    .group (.run (fun c => !isJsSpace c) 1 none)]

/-- `Key=value` of a line. -/
def field (line key : JsString) : Option JsString :=
  ((fieldPattern key).exec line).bind List.head?

def isHexDigit (c : UInt16) : Bool := (hexValue c).isSome

/-- `/^[0-9a-fA-F]{1,2}/` of a field, as a number. -/
def hexByte (line key : JsString) : Option Int := do
  let raw ← field line key
  let digits := (raw.takeWhile isHexDigit).take 2
  if digits = [] then none else parseInt 16 digits

def stringField (line : JsString) : Option (JsString × JsString) :=
  let head := line.takeWhile fun c => c ≠ equalsSign
  if head.length = line.length then none
  else
    let key := trim (head.drop 3)
    let value := trim (line.drop (head.length + 1))
    if key = [] ∨ value = [] then none else some (key, value)

/-! ### Records -/

structure ParsedUsbInterface where
  interfaceClass : Int
  interfaceSubClass : Int
  interfaceProtocol : Int
  driver : Option JsString
deriving DecidableEq

structure ParsedUsbDevice where
  vidPid : JsString
  bDeviceClass : Int
  manufacturer : Option JsString
  product : Option JsString
  interfaces : List ParsedUsbInterface
deriving DecidableEq

structure DeviceAccumulator where
  vidPid : Option JsString
  bDeviceClass : Option Int
  manufacturer : Option JsString
  product : Option JsString
  interfaces : List ParsedUsbInterface

def emptyAccumulator : DeviceAccumulator := ⟨none, none, none, none, []⟩

/-- The device of a record, if it has a `P:` line. -/
def finish (acc : DeviceAccumulator) : List ParsedUsbDevice :=
  (acc.vidPid.map fun vidPid => ParsedUsbDevice.mk vidPid (acc.bDeviceClass.getD 0)
    acc.manufacturer acc.product acc.interfaces).toList

section Lines

variable (toLowerCase : JsString → JsString)

def applyProductLine (line : JsString) (acc : DeviceAccumulator) : DeviceAccumulator :=
  match field line (js "Vendor"), field line (js "ProdID") with
  | some vendor, some product =>
    { acc with vidPid := some (toLowerCase vendor ++ colon :: toLowerCase product) }
  | _, _ => acc

def applyStringLine (line : JsString) (acc : DeviceAccumulator) : DeviceAccumulator :=
  match stringField line with
  | some (key, value) =>
    if key = js "Manufacturer" then { acc with manufacturer := some value }
    else if key = js "Product" then { acc with product := some value }
    else acc
  | none => acc

def applyInterfaceLine (line : JsString) (acc : DeviceAccumulator) : DeviceAccumulator :=
  match hexByte line (js "Cls"), hexByte line (js "Sub"), hexByte line (js "Prot") with
  | some interfaceClass, some interfaceSubClass, some interfaceProtocol =>
    let driver := (field line (js "Driver")).filter fun driver => driver ≠ js "(none)"
    { acc with interfaces := acc.interfaces ++
        [⟨interfaceClass, interfaceSubClass, interfaceProtocol, driver⟩] }
  | _, _, _ => acc

/-- A line inside a record. -/
def applyLine (acc : DeviceAccumulator) (line : JsString) : DeviceAccumulator :=
  if (js "D:").isPrefixOf line then
    match hexByte line (js "Cls") with
    | some deviceClass => { acc with bDeviceClass := some deviceClass }
    | none => acc
  else if (js "P:").isPrefixOf line then applyProductLine toLowerCase line acc
  else if (js "S:").isPrefixOf line then applyStringLine line acc
  else if (js "I:").isPrefixOf line then applyInterfaceLine line acc
  else acc

/-- The devices read so far and the record that is being read. -/
structure DeviceScan where
  out : List ParsedUsbDevice
  acc : DeviceAccumulator

/-- A `T:` line opens a new record. -/
def opensRecord (line : JsString) : Bool := (js "T:").isPrefixOf line

def DeviceScan.line (scan : DeviceScan) (line : JsString) : DeviceScan :=
  if opensRecord line then ⟨scan.out ++ finish scan.acc, emptyAccumulator⟩
  else { scan with acc := applyLine toLowerCase scan.acc line }

def parseLines (lines : List JsString) : List ParsedUsbDevice :=
  let scan := lines.foldl (DeviceScan.line toLowerCase) ⟨[], emptyAccumulator⟩
  scan.out ++ finish scan.acc

def parseUsbDevices (text : JsString) : List ParsedUsbDevice :=
  parseLines toLowerCase (text.splitOn 0x0A)

end Lines

/-- The one device of an id, or how many there are. -/
def selectUniqueDevice (devices : List ParsedUsbDevice) (vidPid : JsString) :
    ParsedUsbDevice ⊕ Nat :=
  match devices.filter fun device => device.vidPid = vidPid with
  | [device] => .inl device
  | found => .inr found.length

/-! ### Reading a field -/

/-- The first word of a text. -/
def word (text : JsString) : Option JsString :=
  let word := (text.dropWhile isJsSpace).takeWhile fun c => !isJsSpace c
  if word = [] then none else some word

theorem reverse_range_succ (n : Nat) : (List.range (n + 1)).reverse = n :: (List.range n).reverse := by
  rw [List.range_succ, List.reverse_append]
  rfl

theorem matchAt_word (place : Cursor) :
    (Pattern.group (.run (fun c => !isJsSpace c) 1 none)).matchAt place []
      (fun _ groups => some groups) =
      if place.rest.takeWhile (fun c => !isJsSpace c) = [] then none
      else some [place.rest.takeWhile fun c => !isJsSpace c] := by
  simp only [Pattern.matchAt, Option.elim_none, reverse_range_succ, List.findSome?_cons]
  by_cases empty : place.rest.takeWhile (fun c => !isJsSpace c) = []
  · simp [empty]
  · have longest : 1 ≤ (place.rest.takeWhile fun c => !isJsSpace c).length :=
      List.length_pos_of_ne_nil empty
    have taken : place.rest.take (place.rest.takeWhile fun c => !isJsSpace c).length =
        place.rest.takeWhile fun c => !isJsSpace c :=
      (List.prefix_iff_eq_take.mp (List.takeWhile_prefix _)).symm
    have short := (List.takeWhile_prefix (l := place.rest) fun c => !isJsSpace c).length_le
    rw [if_pos longest, if_neg empty]
    simp only [Cursor.advance, List.length_drop, List.nil_append, Nat.sub_sub_self short, taken]

theorem drop_length_takeWhile (test : UInt16 → Bool) (text : JsString) :
    text.drop (text.takeWhile test).length = text.dropWhile test := by
  induction text with
  | nil => rfl
  | cons c rest ih =>
    by_cases passes : test c = true
    · simpa [List.takeWhile_cons, List.dropWhile_cons, passes] using ih
    · simp [passes]

/-- No word begins inside white space. -/
theorem takeWhile_drop_space {text : JsString} {n : Nat}
    (inside : n < (text.takeWhile isJsSpace).length) :
    (text.drop n).takeWhile (fun c => !isJsSpace c) = [] := by
  have whole : text.takeWhile isJsSpace ++ text.dropWhile isJsSpace = text :=
    List.takeWhile_append_dropWhile
  have isSpace : isJsSpace (text.takeWhile isJsSpace)[n] = true :=
    List.mem_takeWhile_imp (List.getElem_mem inside)
  have starts : text.drop n = (text.takeWhile isJsSpace)[n] ::
      ((text.takeWhile isJsSpace).drop (n + 1) ++ text.dropWhile isJsSpace) := by
    conv_lhs => rw [← whole]
    rw [List.drop_append_of_le_length inside.le, List.drop_eq_getElem_cons inside]
    rfl
  rw [starts, List.takeWhile_cons, isSpace]
  rfl

/-- White space is passed over, all of it. -/
theorem matchAt_spaces (place : Cursor) :
    Pattern.spaces.matchAt place [] (fun place groups =>
      (Pattern.group (.run (fun c => !isJsSpace c) 1 none)).matchAt place groups
        fun _ groups => some groups) = (word place.rest).map ([·]) := by
  rw [Pattern.spaces, Pattern.matchAt]
  simp only [Option.elim_none, reverse_range_succ, List.findSome?_cons, Nat.zero_le, if_true,
    matchAt_word]
  have after : (place.advance (place.rest.takeWhile isJsSpace).length).rest =
      place.rest.dropWhile isJsSpace := drop_length_takeWhile isJsSpace place.rest
  rw [after, word]
  by_cases empty : (place.rest.dropWhile isJsSpace).takeWhile (fun c => !isJsSpace c) = []
  · simp only [empty, if_true, Option.map_none]
    -- before the last white space no word begins
    rw [List.findSome?_eq_none_iff]
    intro n mem
    have inside : n < (place.rest.takeWhile isJsSpace).length :=
      List.mem_range.mp (List.mem_reverse.mp mem)
    rw [Cursor.advance, takeWhile_drop_space inside, if_pos rfl]
  · simp only [empty, if_false, Option.map_some]

/-- Where the key stands, the word behind it is captured. -/
theorem matchAt_field (key : JsString) (before : Option UInt16) (text : JsString) :
    (fieldPattern key).matchAt ⟨before, text⟩ [] (fun _ groups => some groups) =
      if key ++ [equalsSign] <+: text then (word (text.drop (key.length + 1))).map ([·])
      else none := by
  simp only [fieldPattern, Pattern.all]
  rw [Pattern.matchAt, Pattern.matchAt]
  simp only [List.isPrefixOf_iff_prefix]
  split
  · rw [Pattern.matchAt, matchAt_spaces, Cursor.advance, List.length_append]
    rfl
  · rfl

theorem execFrom_field (key : JsString) (before before' : Option UInt16) (text : JsString) :
    (fieldPattern key).execFrom before text = (fieldPattern key).execFrom before' text := by
  cases text <;> simp only [Pattern.execFrom, matchAt_field]

theorem field_cons (key : JsString) (c : UInt16) (rest : JsString) :
    field (c :: rest) key =
      (if key ++ [equalsSign] <+: c :: rest then word ((c :: rest).drop (key.length + 1))
      else none).or (field rest key) := by
  rw [field, Pattern.exec, Pattern.execFrom, matchAt_field, execFrom_field key (some c) none]
  split
  · cases found : word ((c :: rest).drop (key.length + 1)) <;> rfl
  · rfl

theorem takeWhile_equals {head : JsString} (plain : equalsSign ∉ head) (rest : JsString) :
    (head ++ equalsSign :: rest).takeWhile (fun c => c ≠ equalsSign) = head := by
  rw [List.takeWhile_append_of_pos]
  · simp
  · intro c mem
    simp only [ne_eq, decide_not, Bool.not_eq_true', decide_eq_false_iff_not]
    rintro rfl
    exact plain mem

theorem prefix_iff_eq {key segment rest : JsString} (named : equalsSign ∉ key)
    (plain : equalsSign ∉ segment) :
    key ++ [equalsSign] <+: segment ++ equalsSign :: rest ↔ key = segment := by
  constructor
  · rintro ⟨tail, same⟩
    rw [List.append_assoc, List.singleton_append] at same
    have heads := congrArg (List.takeWhile fun c => c ≠ equalsSign) same
    rwa [takeWhile_equals named, takeWhile_equals plain] at heads
  · rintro rfl
    exact ⟨rest, by simp⟩

/-- A field stands behind the sign of the first segment that its key ends. -/
theorem field_segment {key segment : JsString} (named : key ≠ [] ∧ equalsSign ∉ key)
    (plain : equalsSign ∉ segment) (rest : JsString) :
    field (segment ++ equalsSign :: rest) key =
      if key <:+ segment then (word rest).or (field rest key) else field rest key := by
  induction segment with
  | nil =>
    have notHere : ¬ key ++ [equalsSign] <+: equalsSign :: rest := fun isPrefix =>
      named.1 ((prefix_iff_eq named.2 List.not_mem_nil).mp isPrefix)
    have notSuffix : ¬ key <:+ [] := fun isSuffix => named.1 (List.suffix_nil.mp isSuffix)
    rw [List.nil_append, field_cons, if_neg notHere, if_neg notSuffix, Option.none_or]
  | cons c segment ih =>
    rw [List.mem_cons, not_or] at plain
    have here : key ++ [equalsSign] <+: c :: (segment ++ equalsSign :: rest) ↔
        key = c :: segment :=
      prefix_iff_eq named.2 (by rw [List.mem_cons, not_or]; exact plain)
    rw [List.cons_append, field_cons]
    simp only [here, ih plain.2, List.suffix_cons_iff]
    by_cases whole : key = c :: segment
    · subst whole
      have notLater : ¬ c :: segment <:+ segment := fun isSuffix =>
        absurd isSuffix.length_le (by simp)
      have behind : (c :: (segment ++ equalsSign :: rest)).drop ((c :: segment).length + 1) =
          rest := by
        rw [← List.cons_append, ← List.drop_drop, List.drop_left]
        rfl
      simp only [notLater, or_false, if_true, if_false, behind]
    · rw [if_neg whole, Option.none_or]
      simp only [whole, false_or]

/-- A field is looked for behind each sign in turn. -/
theorem field_skip {key segment : JsString} (named : key ≠ [] ∧ equalsSign ∉ key)
    (plain : equalsSign ∉ segment) (other : ¬ key <:+ segment) (rest : JsString) :
    field (segment ++ equalsSign :: rest) key = field rest key := by
  rw [field_segment named plain, if_neg other]

theorem field_found {key segment : JsString} (named : key ≠ [] ∧ equalsSign ∉ key)
    (plain : equalsSign ∉ segment) (here : key <:+ segment) {rest text : JsString}
    (isWord : word rest = some text) : field (segment ++ equalsSign :: rest) key = some text := by
  rw [field_segment named plain, if_pos here, isWord]
  rfl

/-- A text of hexadecimal digits, or any other without white space, begins a word. -/
theorem word_append {text : JsString} (some : text ≠ []) (solid : ∀ c ∈ text, isJsSpace c = false)
    (rest : JsString) :
    word (text ++ rest) = .some (text ++ rest.takeWhile fun c => !isJsSpace c) := by
  obtain ⟨c, text, rfl⟩ := List.exists_cons_of_ne_nil some
  have first : isJsSpace c = false := solid c List.mem_cons_self
  have whole : (c :: text ++ rest).takeWhile (fun c => !isJsSpace c) =
      c :: text ++ rest.takeWhile fun c => !isJsSpace c := by
    apply List.takeWhile_append_of_pos
    intro other mem
    rw [solid other mem]
    rfl
  have start : (c :: text ++ rest).dropWhile isJsSpace = c :: text ++ rest := by
    rw [List.cons_append, List.dropWhile_cons_of_neg (by simp [first])]
  rw [word, start, whole]
  simp

/-- A key whose last units are not those of a segment. -/
theorem not_suffix {key ending : JsString} (n : Nat)
    (differs : n ≤ key.length ∧ n ≤ ending.length ∧ key.reverse.take n ≠ ending.reverse.take n)
    (text : JsString) : ¬ key <:+ text ++ ending := by
  obtain ⟨inKey, inEnding, differ⟩ := differs
  intro isSuffix
  obtain ⟨rest, same⟩ := List.reverse_prefix.mpr isSuffix
  apply differ
  rw [List.reverse_append] at same
  have heads := congrArg (List.take n) same
  rwa [List.take_append_of_le_length (by simpa using inKey),
    List.take_append_of_le_length (by simpa using inEnding)] at heads

/-! ### What `usb-devices` prints -/

/-- Hexadecimal digits of either case, at least one. -/
def IsHex (text : JsString) : Prop := text ≠ [] ∧ ∀ c ∈ text, isHexDigit c = true

/-- A text on one line. -/
def OneLine (text : JsString) : Prop := 0x0A ∉ text

/-- A text inside a line that no field begins in. -/
def Plain (text : JsString) : Prop := 0x0A ∉ text ∧ equalsSign ∉ text

def hexDigit (n : Nat) : UInt16 := if n < 10 then .ofNat (0x30 + n) else .ofNat (0x57 + n)

/-- `%02x` -/
def hex2 (value : UInt8) : JsString := [hexDigit (value.toNat / 16), hexDigit (value.toNat % 16)]

/-- A class byte, with what it is called. -/
structure ClassByte where
  value : UInt8
  gloss : Option JsString
  plain : ∀ text ∈ gloss, Plain text

def ClassByte.text (byte : ClassByte) : JsString :=
  hex2 byte.value ++ match byte.gloss with
    | some gloss => js "(" ++ gloss ++ js ")"
    | none => []

structure UsbInterface where
  number : JsString
  alternate : JsString
  endpoints : JsString
  interfaceClass : ClassByte
  interfaceSubClass : UInt8
  interfaceProtocol : UInt8
  driver : Option JsString
  /-- The `E:` lines behind the interface. -/
  endpointLines : List JsString
  plain : Plain number ∧ Plain alternate ∧ Plain endpoints
  named : ∀ name ∈ driver, name ≠ [] ∧ name ≠ js "(none)" ∧ ∀ c ∈ name, isJsSpace c = false
  lines : ∀ line ∈ endpointLines, OneLine line

structure UsbDevice where
  topology : JsString
  version : JsString
  deviceClass : ClassByte
  /-- The rest of the `D:` line. -/
  descriptor : JsString
  vendor : JsString
  product : JsString
  revision : JsString
  manufacturerText : Option JsString
  productText : Option JsString
  serialText : Option JsString
  /-- The `C:` line. -/
  configuration : JsString
  interfaces : List UsbInterface
  /-- How many blank lines follow. -/
  blanks : Nat
  ids : IsHex vendor ∧ IsHex product
  plain : Plain version
  lines : ∀ line ∈ [topology, descriptor, revision, configuration], OneLine line
  texts : ∀ text ∈ manufacturerText.toList ++ productText.toList ++ serialText.toList, OneLine text

/-- Segments with the sign between them. -/
def fields (segments : List JsString) : JsString := [equalsSign].intercalate segments

def UsbInterface.line (interface : UsbInterface) : JsString :=
  fields [js "I:  If#", interface.number ++ js " Alt", interface.alternate ++ js " #EPs",
    interface.endpoints ++ js " Cls", interface.interfaceClass.text ++ js " Sub",
    hex2 interface.interfaceSubClass ++ js " Prot", hex2 interface.interfaceProtocol ++ js " Driver",
    interface.driver.getD (js "(none)")]

def UsbInterface.printed (interface : UsbInterface) : List JsString :=
  interface.line :: interface.endpointLines.map fun line => js "E:" ++ line

def UsbDevice.descriptorLine (device : UsbDevice) : JsString :=
  fields [js "D:  Ver", device.version ++ js " Cls", device.deviceClass.text ++ js " Sub",
    device.descriptor]

def UsbDevice.productLine (device : UsbDevice) : JsString :=
  fields [js "P:  Vendor", device.vendor ++ js " ProdID", device.product ++ js " Rev",
    device.revision]

def stringLines (key : JsString) (text : Option JsString) : List JsString :=
  text.toList.map fun text => fields [js "S:  " ++ key, text]

/-- The lines of a record behind its first. -/
def UsbDevice.body (device : UsbDevice) : List JsString :=
  device.descriptorLine :: device.productLine ::
    (stringLines (js "Manufacturer") device.manufacturerText ++
      stringLines (js "Product") device.productText ++
      stringLines (js "SerialNumber") device.serialText ++
      (js "C:" ++ device.configuration) :: device.interfaces.flatMap UsbInterface.printed ++
      List.replicate device.blanks [])

def UsbDevice.printed (device : UsbDevice) : List JsString :=
  (js "T:" ++ device.topology) :: device.body

def render (devices : List UsbDevice) : JsString :=
  [0x0A].intercalate (devices.flatMap UsbDevice.printed)

/-! ### Reading what is printed -/

theorem fields_cons (first second : JsString) (rest : List JsString) :
    fields (first :: second :: rest) = first ++ equalsSign :: fields (second :: rest) := by
  rw [fields, List.intercalate_cons_cons, List.append_assoc]
  rfl

theorem fields_singleton (text : JsString) : fields [text] = text := List.intercalate_singleton

/-- A label that a key does not end: the last two units differ. -/
def Differs (key label : JsString) : Prop :=
  equalsSign ∉ label ∧ 2 ≤ key.length ∧ 2 ≤ label.length ∧
    key.reverse.take 2 ≠ label.reverse.take 2

instance (key label : JsString) : Decidable (Differs key label) :=
  inferInstanceAs (Decidable (_ ∧ _ ∧ _ ∧ _))

theorem plain_append {text label : JsString} (plain : equalsSign ∉ text)
    (plainLabel : equalsSign ∉ label) : equalsSign ∉ text ++ label := by
  rw [List.mem_append, not_or]
  exact ⟨plain, plainLabel⟩

/-- The field of a line is the word behind its label, which is the first that its key ends. -/
theorem field_fields {key text label : JsString} (texts labels : List JsString)
    {more : List JsString} {found : JsString} (named : key ≠ [] ∧ equalsSign ∉ key)
    (plain : ∀ text ∈ texts, equalsSign ∉ text) (differ : ∀ label ∈ labels, Differs key label)
    (plainHere : equalsSign ∉ text) (here : equalsSign ∉ label ∧ key <:+ label) (isMore : more ≠ [])
    (isWord : word (fields more) = some found) :
    field (fields (List.zipWith (· ++ ·) texts labels ++ (text ++ label) :: more)) key =
      some found := by
  obtain ⟨next, rest, rfl⟩ := List.exists_cons_of_ne_nil isMore
  have behind : field (fields ((text ++ label) :: next :: rest)) key = some found := by
    rw [fields_cons]
    exact field_found named (plain_append plainHere here.1)
      (here.2.trans (List.suffix_append text label)) isWord
  induction texts generalizing labels with
  | nil => exact behind
  | cons first texts ih =>
    cases labels with
    | nil => exact behind
    | cons other labels =>
      rw [List.forall_mem_cons] at plain differ
      obtain ⟨⟨plainOther, differs⟩, differ⟩ := differ
      have later := ih labels plain.2 differ
      rw [List.zipWith_cons_cons, List.cons_append]
      obtain ⟨second, tail, segments⟩ := List.exists_cons_of_ne_nil
        (l := List.zipWith (· ++ ·) texts labels ++ (text ++ label) :: next :: rest) (by simp)
      rw [segments] at later ⊢
      rw [fields_cons, field_skip named (plain_append plain.1 plainOther)
        (not_suffix 2 differs first)]
      exact later

theorem hexDigit_facts : ∀ n < 16, hexValue (hexDigit n) = some n ∧
    isJsSpace (hexDigit n) = false ∧ hexDigit n ≠ equalsSign ∧ hexDigit n ≠ 0x0A := by
  decide

variable (value : UInt8)

theorem parseInt_hex2 : parseInt 16 (hex2 value) = some (value.toNat : Int) := by
  have bound := value.toNat_lt
  rw [hex2, parseInt_hexPair (hexDigit_facts _ (by omega)).1
    (hexDigit_facts _ (Nat.mod_lt _ (by omega))).1, Nat.div_add_mod']

theorem mem_hex2 {value : UInt8} {c : UInt16} (mem : c ∈ hex2 value) :
    isHexDigit c = true ∧ isJsSpace c = false ∧ c ≠ equalsSign ∧ c ≠ 0x0A := by
  have bound := value.toNat_lt
  have facts (n : Nat) (small : n < 16) : isHexDigit (hexDigit n) = true ∧
      isJsSpace (hexDigit n) = false ∧ hexDigit n ≠ equalsSign ∧ hexDigit n ≠ 0x0A := by
    obtain ⟨isN, solid, notEquals, notNewline⟩ := hexDigit_facts n small
    exact ⟨by rw [isHexDigit, isN]; rfl, solid, notEquals, notNewline⟩
  simp only [hex2, List.mem_cons, List.not_mem_nil, or_false] at mem
  rcases mem with rfl | rfl
  · exact facts _ (by omega)
  · exact facts _ (Nat.mod_lt _ (by omega))

/-- Two digits at the head of a field are its byte. -/
theorem hexByte_of_field {line key rest : JsString} {value : UInt8}
    (found : field line key = some (hex2 value ++ rest)) :
    hexByte line key = some (value.toNat : Int) := by
  have digits : ((hex2 value ++ rest).takeWhile isHexDigit).take 2 = hex2 value := by
    rw [List.takeWhile_append_of_pos fun c mem => (mem_hex2 mem).1]
    exact List.take_left' rfl
  rw [hexByte, found]
  simp only [Option.bind_eq_bind, Option.bind_some, digits, parseInt_hex2]
  rfl

theorem word_hex2 (rest : JsString) : word (hex2 value ++ rest) =
    some (hex2 value ++ rest.takeWhile fun c => !isJsSpace c) :=
  word_append (List.cons_ne_nil _ _) (fun _ mem => (mem_hex2 mem).2.1) rest

theorem plain_hex2 : equalsSign ∉ hex2 value :=
  fun mem => (mem_hex2 mem).2.2.1 rfl

theorem plain_text (byte : ClassByte) : equalsSign ∉ byte.text := by
  rw [ClassByte.text, List.mem_append, not_or]
  refine ⟨plain_hex2 byte.value, ?_⟩
  cases isGloss : byte.gloss with
  | none => exact List.not_mem_nil
  | some gloss =>
    simp only [List.mem_append, not_or]
    exact ⟨⟨by decide, (byte.plain gloss isGloss).2⟩, by decide⟩

/-- A byte at the head of what follows a sign. -/
theorem word_byte (tail : JsString) (more : List JsString) :
    ∃ rest, word (fields ((hex2 value ++ tail) :: more)) = some (hex2 value ++ rest) := by
  cases more with
  | nil =>
    rw [fields_singleton]
    exact ⟨_, word_hex2 value tail⟩
  | cons =>
    rw [fields_cons, List.append_assoc]
    exact ⟨_, word_hex2 value _⟩

theorem solid_of_all {text : JsString} (all : text.all (fun c => !isJsSpace c) = true) :
    ∀ c ∈ text, isJsSpace c = false :=
  fun c mem => by simpa using List.all_eq_true.mp all c mem

theorem IsHex.of_all {text : JsString} (some : text ≠ []) (all : text.all isHexDigit = true) :
    IsHex text :=
  ⟨some, List.all_eq_true.mp all⟩

section Interface

variable (interface : UsbInterface)

/-- The texts in front of the labels of an `I:` line. -/
theorem plain_interface : equalsSign ∉ interface.number ∧ equalsSign ∉ interface.alternate ∧
    equalsSign ∉ interface.endpoints := by
  obtain ⟨number, alternate, endpoints⟩ := interface.plain
  exact ⟨number.2, alternate.2, endpoints.2⟩

theorem hexByte_class : hexByte interface.line (js "Cls") =
    some (interface.interfaceClass.value.toNat : Int) := by
  obtain ⟨number, alternate, endpoints⟩ := plain_interface interface
  obtain ⟨rest, isWord⟩ := word_byte interface.interfaceClass.value _
    [hex2 interface.interfaceSubClass ++ js " Prot", hex2 interface.interfaceProtocol ++ js " Driver",
      interface.driver.getD (js "(none)")]
  apply hexByte_of_field
  exact field_fields [[], interface.number, interface.alternate]
    [js "I:  If#", js " Alt", js " #EPs"] (by decide) (by simp [number, alternate])
    (by decide) endpoints (by decide) (List.cons_ne_nil _ _) isWord

theorem hexByte_subClass : hexByte interface.line (js "Sub") =
    some (interface.interfaceSubClass.toNat : Int) := by
  obtain ⟨number, alternate, endpoints⟩ := plain_interface interface
  obtain ⟨rest, isWord⟩ := word_byte interface.interfaceSubClass (js " Prot")
    [hex2 interface.interfaceProtocol ++ js " Driver", interface.driver.getD (js "(none)")]
  apply hexByte_of_field
  exact field_fields [[], interface.number, interface.alternate, interface.endpoints]
    [js "I:  If#", js " Alt", js " #EPs", js " Cls"] (by decide)
    (by simp [number, alternate, endpoints]) (by decide) (plain_text _) (by decide)
    (List.cons_ne_nil _ _) isWord

theorem hexByte_protocol : hexByte interface.line (js "Prot") =
    some (interface.interfaceProtocol.toNat : Int) := by
  obtain ⟨number, alternate, endpoints⟩ := plain_interface interface
  obtain ⟨rest, isWord⟩ := word_byte interface.interfaceProtocol (js " Driver")
    [interface.driver.getD (js "(none)")]
  apply hexByte_of_field
  exact field_fields [[], interface.number, interface.alternate, interface.endpoints,
      interface.interfaceClass.text]
    [js "I:  If#", js " Alt", js " #EPs", js " Cls", js " Sub"] (by decide)
    (by simp [number, alternate, endpoints, plain_text]) (by decide) (plain_hex2 _) (by decide)
    (List.cons_ne_nil _ _) isWord

theorem field_driver : field interface.line (js "Driver") =
    some (interface.driver.getD (js "(none)")) := by
  obtain ⟨number, alternate, endpoints⟩ := plain_interface interface
  have solid : interface.driver.getD (js "(none)") ≠ [] ∧
      ∀ c ∈ interface.driver.getD (js "(none)"), isJsSpace c = false := by
    cases isDriver : interface.driver with
    | none => exact ⟨by decide, solid_of_all rfl⟩
    | some name =>
      obtain ⟨some, -, solid⟩ := interface.named name isDriver
      exact ⟨some, solid⟩
  have isWord : word (fields [interface.driver.getD (js "(none)")]) =
      some (interface.driver.getD (js "(none)")) := by
    rw [fields_singleton]
    simpa using word_append solid.1 solid.2 []
  exact field_fields [[], interface.number, interface.alternate, interface.endpoints,
      interface.interfaceClass.text, hex2 interface.interfaceSubClass]
    [js "I:  If#", js " Alt", js " #EPs", js " Cls", js " Sub", js " Prot"] (by decide)
    (by simp [number, alternate, endpoints, plain_text, plain_hex2]) (by decide) (plain_hex2 _)
    (by decide) (List.cons_ne_nil _ _) isWord

end Interface

section Device

variable (device : UsbDevice)

theorem hexByte_deviceClass : hexByte device.descriptorLine (js "Cls") =
    some (device.deviceClass.value.toNat : Int) := by
  obtain ⟨rest, isWord⟩ := word_byte device.deviceClass.value _ [device.descriptor]
  apply hexByte_of_field
  exact field_fields [[]] [js "D:  Ver"] (by decide) (by decide) (by decide)
    device.plain.2 (by decide) (List.cons_ne_nil _ _) isWord

/-- Digits stand for no white space and no sign. -/
theorem hex_solid {text : JsString} (hex : IsHex text) :
    equalsSign ∉ text ∧ ∀ c ∈ text, isJsSpace c = false := by
  refine ⟨fun mem => absurd (hex.2 _ mem) (by decide), fun c mem => ?_⟩
  have range : 0x30 ≤ c.toNat ∧ c.toNat ≤ 0x66 := by
    have isHex := hex.2 c mem
    unfold isHexDigit hexValue at isHex
    split_ifs at isHex
    · omega
    · omega
    · omega
    · cases isHex
  rw [← Bool.not_eq_true]
  intro isSpace
  simp only [isJsSpace, Bool.or_eq_true, Bool.and_eq_true, decide_eq_true_eq] at isSpace
  have toNat {d : UInt16} (same : c = d) : c.toNat = d.toNat := congrArg UInt16.toNat same
  rcases isSpace with ((((((((((low | same) | same) | same) | low) | same) | same) | same) | same) |
    same) | same)
  all_goals first | omega | (have value := toNat same; simp at value; omega)

theorem field_vendor : field device.productLine (js "Vendor") = some device.vendor := by
  have isWord := word_append device.ids.1.1 (hex_solid device.ids.1).2
    (js " ProdID" ++ equalsSign :: fields [device.product ++ js " Rev", device.revision])
  have ends : (js " ProdID" ++ equalsSign ::
      fields [device.product ++ js " Rev", device.revision]).takeWhile
        (fun c => !isJsSpace c) = [] := rfl
  rw [ends, List.append_nil, ← List.append_assoc, ← fields_cons] at isWord
  exact @field_fields (js "Vendor") [] (js "P:  Vendor") [] [] _ _ (by decide) (by decide)
    (by decide) (by decide) (by decide) (List.cons_ne_nil _ _) isWord

theorem field_product : field device.productLine (js "ProdID") = some device.product := by
  have isWord := word_append device.ids.2.1 (hex_solid device.ids.2).2
    (js " Rev" ++ equalsSign :: fields [device.revision])
  have ends : (js " Rev" ++ equalsSign :: fields [device.revision]).takeWhile
      (fun c => !isJsSpace c) = [] := rfl
  rw [ends, List.append_nil, ← List.append_assoc, ← fields_cons] at isWord
  exact field_fields [[]] [js "P:  Vendor"] (by decide) (by decide)
    (by decide) (hex_solid device.ids.1).1 (by decide) (List.cons_ne_nil _ _) isWord

end Device

variable {key : JsString}

theorem stringField_printed (named : equalsSign ∉ key ∧ trim (0x20 :: key) = key ∧ key ≠ [])
    (text : JsString) : stringField (fields [js "S:  " ++ key, text]) =
      if trim text = [] then none else some (key, trim text) := by
  have plain : equalsSign ∉ js "S:  " ++ key := plain_append (by decide) named.1
  rw [stringField, fields_cons, fields_singleton, takeWhile_equals plain]
  have longer : (js "S:  " ++ key).length ≠
      (js "S:  " ++ key ++ equalsSign :: text).length := by
    rw [@List.length_append _ _ (equalsSign :: text), List.length_cons]
    omega
  have value : (js "S:  " ++ key ++ equalsSign :: text).drop ((js "S:  " ++ key).length + 1) =
      text := by
    rw [← List.drop_drop, List.drop_left]
    rfl
  have head : (js "S:  " ++ key).drop 3 = 0x20 :: key := rfl
  simp only [longer, if_false, value, head, named.2.1, named.2.2, false_or]

/-! ### A record -/

/-- A text as it is read: trimmed, and left out if nothing is left of it. -/
def trimmedText (text : Option JsString) : Option JsString :=
  (text.map trim).filter fun text => text ≠ []

def UsbInterface.parsed (interface : UsbInterface) : ParsedUsbInterface where
  interfaceClass := interface.interfaceClass.value.toNat
  interfaceSubClass := interface.interfaceSubClass.toNat
  interfaceProtocol := interface.interfaceProtocol.toNat
  driver := interface.driver

def UsbDevice.parsed (device : UsbDevice) : ParsedUsbDevice where
  vidPid := lowerAscii device.vendor ++ colon :: lowerAscii device.product
  bDeviceClass := device.deviceClass.value.toNat
  manufacturer := trimmedText device.manufacturerText
  product := trimmedText device.productText
  interfaces := device.interfaces.map UsbInterface.parsed

/-- The lower case of hexadecimal digits. -/
def LowersHex (toLowerCase : JsString → JsString) : Prop :=
  ∀ text, IsHex text → toLowerCase text = lowerAscii text

variable {toLowerCase : JsString → JsString}

theorem applyLine_descriptor (device : UsbDevice) (acc : DeviceAccumulator) :
    applyLine toLowerCase acc device.descriptorLine =
      { acc with bDeviceClass := some (device.deviceClass.value.toNat : Int) } := by
  have isDescriptor : (js "D:").isPrefixOf device.descriptorLine = true := rfl
  rw [applyLine, if_pos isDescriptor, hexByte_deviceClass]

theorem applyLine_product (lowers : LowersHex toLowerCase) (device : UsbDevice)
    (acc : DeviceAccumulator) : applyLine toLowerCase acc device.productLine =
      { acc with vidPid := some device.parsed.vidPid } := by
  have notDescriptor : (js "D:").isPrefixOf device.productLine = false := rfl
  have isProduct : (js "P:").isPrefixOf device.productLine = true := rfl
  rw [applyLine, notDescriptor, if_neg Bool.false_ne_true, if_pos isProduct, applyProductLine,
    field_vendor, field_product]
  simp only [lowers _ device.ids.1, lowers _ device.ids.2]
  rfl

theorem applyLine_interface (interface : UsbInterface) (acc : DeviceAccumulator) :
    applyLine toLowerCase acc interface.line =
      { acc with interfaces := acc.interfaces ++ [interface.parsed] } := by
  have starts : applyLine toLowerCase acc interface.line = applyInterfaceLine interface.line acc :=
    rfl
  have driver : (some (interface.driver.getD (js "(none)"))).filter
      (fun driver => driver ≠ js "(none)") = interface.driver := by
    cases isDriver : interface.driver with
    | none => rfl
    | some name =>
      obtain ⟨-, named, -⟩ := interface.named name isDriver
      simp [named]
  rw [starts, applyInterfaceLine, hexByte_class, hexByte_subClass, hexByte_protocol, field_driver,
    driver]
  rfl

theorem applyLine_string (named : equalsSign ∉ key ∧ trim (0x20 :: key) = key ∧ key ≠ [])
    (text : JsString) (acc : DeviceAccumulator) :
    applyLine toLowerCase acc (fields [js "S:  " ++ key, text]) =
      if trim text = [] then acc
      else if key = js "Manufacturer" then { acc with manufacturer := some (trim text) }
      else if key = js "Product" then { acc with product := some (trim text) }
      else acc := by
  have starts : applyLine toLowerCase acc (fields [js "S:  " ++ key, text]) =
      applyStringLine (fields [js "S:  " ++ key, text]) acc := rfl
  rw [starts, applyStringLine, stringField_printed named]
  by_cases blank : trim text = []
  · rw [if_pos blank, if_pos blank]
  · rw [if_neg blank, if_neg blank]

theorem foldl_stringLines (named : equalsSign ∉ key ∧ trim (0x20 :: key) = key ∧ key ≠ [])
    (text : Option JsString) (acc : DeviceAccumulator) :
    (stringLines key text).foldl (applyLine toLowerCase) acc =
      match trimmedText text with
      | none => acc
      | some text =>
        if key = js "Manufacturer" then { acc with manufacturer := some text }
        else if key = js "Product" then { acc with product := some text }
        else acc := by
  cases text with
  | none => rfl
  | some text =>
    rw [stringLines, Option.toList_some, List.map_singleton, List.foldl_cons, List.foldl_nil,
      applyLine_string named, trimmedText, Option.map_some, Option.filter_some]
    by_cases blank : trim text = []
    · simp [blank]
    · simp [blank]

theorem foldl_interfaces (interfaces : List UsbInterface) (acc : DeviceAccumulator) :
    (interfaces.flatMap UsbInterface.printed).foldl (applyLine toLowerCase) acc =
      { acc with interfaces := acc.interfaces ++ interfaces.map UsbInterface.parsed } := by
  induction interfaces generalizing acc with
  | nil => simp
  | cons interface rest ih =>
    have endpoints (lines : List JsString) (acc : DeviceAccumulator) :
        (lines.map fun line => js "E:" ++ line).foldl (applyLine toLowerCase) acc = acc := by
      induction lines with
      | nil => rfl
      | cons line lines ih => exact ih
    rw [List.flatMap_cons, List.foldl_append, UsbInterface.printed, List.foldl_cons,
      applyLine_interface, endpoints, ih]
    simp

theorem foldl_blank (blanks : Nat) (acc : DeviceAccumulator) :
    (List.replicate blanks []).foldl (applyLine toLowerCase) acc = acc := by
  induction blanks with
  | zero => rfl
  | succ blanks ih => exact ih

variable (text : Option JsString)

theorem foldl_manufacturer (acc : DeviceAccumulator) :
    (stringLines (js "Manufacturer") text).foldl (applyLine toLowerCase) acc =
      { acc with manufacturer := (trimmedText text).or acc.manufacturer } := by
  rw [foldl_stringLines (by decide)]
  cases trimmedText text <;> rfl

theorem foldl_product (acc : DeviceAccumulator) :
    (stringLines (js "Product") text).foldl (applyLine toLowerCase) acc =
      { acc with product := (trimmedText text).or acc.product } := by
  rw [foldl_stringLines (by decide)]
  cases trimmedText text <;> rfl

theorem foldl_serial (acc : DeviceAccumulator) :
    (stringLines (js "SerialNumber") text).foldl (applyLine toLowerCase) acc = acc := by
  rw [foldl_stringLines (by decide)]
  cases trimmedText text <;> rfl

theorem finish_body (lowers : LowersHex toLowerCase) (device : UsbDevice) :
    finish (device.body.foldl (applyLine toLowerCase) emptyAccumulator) = [device.parsed] := by
  have configuration (acc : DeviceAccumulator) :
      applyLine toLowerCase acc (js "C:" ++ device.configuration) = acc := rfl
  simp only [UsbDevice.body, List.foldl_cons, List.foldl_append, applyLine_descriptor,
    applyLine_product lowers, foldl_manufacturer, foldl_product, foldl_serial, configuration,
    foldl_interfaces, foldl_blank, emptyAccumulator, Option.or_none, List.nil_append]
  rfl

/-! ### Records one after another -/

theorem foldl_line_body {lines : List JsString}
    (inside : ∀ line ∈ lines, opensRecord line = false) (scan : DeviceScan) :
    lines.foldl (DeviceScan.line toLowerCase) scan =
      { scan with acc := lines.foldl (applyLine toLowerCase) scan.acc } := by
  induction lines generalizing scan with
  | nil => rfl
  | cons line lines ih =>
    rw [List.forall_mem_cons] at inside
    rw [List.foldl_cons, List.foldl_cons, ih inside.2, DeviceScan.line, inside.1]
    rfl

/-- The devices that were read before stay in front. -/
theorem foldl_line_out (lines : List JsString) (out : List ParsedUsbDevice)
    (acc : DeviceAccumulator) :
    lines.foldl (DeviceScan.line toLowerCase) ⟨out, acc⟩ =
      let scan := lines.foldl (DeviceScan.line toLowerCase) ⟨[], acc⟩
      ⟨out ++ scan.out, scan.acc⟩ := by
  induction lines generalizing out acc with
  | nil => simp
  | cons line lines ih =>
    simp only [List.foldl_cons, DeviceScan.line]
    split
    · rw [ih, ih ([] ++ finish acc)]
      simp
    · exact ih out _

/-- What follows a record does not depend on it. -/
theorem parseLines_append (first second : List JsString)
    (opens : ∀ line ∈ second.head?, opensRecord line = true) :
    parseLines toLowerCase (first ++ second) =
      parseLines toLowerCase first ++ parseLines toLowerCase second := by
  cases second with
  | nil => simp [parseLines, emptyAccumulator, finish]
  | cons line rest =>
    have isOpening : opensRecord line = true := opens line rfl
    simp only [parseLines, List.foldl_append, List.foldl_cons, DeviceScan.line, isOpening, if_true]
    rw [foldl_line_out, foldl_line_out rest ([] ++ finish emptyAccumulator)]
    simp [emptyAccumulator, finish]

theorem opens_flatMap (devices : List UsbDevice) :
    ∀ line ∈ (devices.flatMap UsbDevice.printed).head?, opensRecord line = true := by
  intro line isFirst
  cases devices with
  | nil => cases isFirst
  | cons =>
    cases isFirst
    rfl

theorem oneLine_append {first second : JsString} (left : OneLine first) (right : OneLine second) :
    OneLine (first ++ second) := by
  rw [OneLine, List.mem_append, not_or]
  exact ⟨left, right⟩

theorem oneLine_fields {segments : List JsString} (lines : ∀ segment ∈ segments, OneLine segment) :
    OneLine (fields segments) := by
  induction segments with
  | nil => exact List.not_mem_nil
  | cons first rest ih =>
    rw [List.forall_mem_cons] at lines
    cases rest with
    | nil =>
      rw [fields_singleton]
      exact lines.1
    | cons =>
      rw [fields_cons]
      have sign : OneLine [equalsSign] := by unfold OneLine; decide
      exact oneLine_append lines.1 (oneLine_append sign (ih lines.2))

theorem oneLine_hex2 : OneLine (hex2 value) := fun mem => (mem_hex2 mem).2.2.2 rfl

theorem oneLine_hex {text : JsString} (hex : IsHex text) : OneLine text :=
  fun mem => absurd (hex.2 _ mem) (by decide)

theorem oneLine_text (byte : ClassByte) : OneLine byte.text := by
  refine oneLine_append (oneLine_hex2 _) ?_
  have plain := byte.plain
  cases isGloss : byte.gloss with
  | none => exact List.not_mem_nil
  | some gloss =>
    have opening : OneLine (js "(") := by unfold OneLine; decide
    have closing : OneLine (js ")") := by unfold OneLine; decide
    exact oneLine_append (oneLine_append opening (plain gloss isGloss).1) closing

/-- A line behind the first of a record: it opens no record and does not break. -/
def Inside (line : JsString) : Prop := opensRecord line = false ∧ OneLine line

theorem inside_interface (interface : UsbInterface) : ∀ line ∈ interface.printed, Inside line := by
  intro line mem
  rcases List.mem_cons.mp mem with rfl | isEndpoint
  · refine ⟨rfl, oneLine_fields ?_⟩
    obtain ⟨number, alternate, endpoints⟩ := interface.plain
    simp only [List.forall_mem_cons]
    refine ⟨?_, oneLine_append number.1 ?_, oneLine_append alternate.1 ?_,
      oneLine_append endpoints.1 ?_, oneLine_append (oneLine_text _) ?_,
      oneLine_append (oneLine_hex2 _) ?_, oneLine_append (oneLine_hex2 _) ?_, ?_, nofun⟩
    on_goal 8 =>
      cases isDriver : interface.driver with
      | none => unfold OneLine; decide
      | some name =>
        obtain ⟨-, -, solid⟩ := interface.named name isDriver
        exact fun mem => absurd (solid _ mem) (by decide)
    all_goals (unfold OneLine; decide)
  · obtain ⟨text, isLine, rfl⟩ := List.mem_map.mp isEndpoint
    have label : OneLine (js "E:") := by unfold OneLine; decide
    exact ⟨rfl, oneLine_append label (interface.lines text isLine)⟩

theorem inside_strings {text : Option JsString} (named : OneLine key)
    (line : ∀ given ∈ text, OneLine given) : ∀ line ∈ stringLines key text, Inside line := by
  intro printed mem
  obtain ⟨given, isText, rfl⟩ := List.mem_map.mp mem
  have label : OneLine (js "S:  ") := by unfold OneLine; decide
  refine ⟨rfl, oneLine_fields ?_⟩
  simp only [List.forall_mem_cons]
  exact ⟨oneLine_append label named, line given (Option.mem_toList.mp isText), nofun⟩

theorem inside_body (device : UsbDevice) : ∀ line ∈ device.body, Inside line := by
  have lines := device.lines
  have texts := device.texts
  simp only [List.forall_mem_cons, List.forall_mem_append, Option.mem_toList] at lines texts
  obtain ⟨-, descriptor, revision, configuration, -⟩ := lines
  obtain ⟨⟨manufacturer, product⟩, serial⟩ := texts
  simp only [UsbDevice.body, List.forall_mem_cons, List.forall_mem_append]
  refine ⟨⟨rfl, oneLine_fields ?_⟩, ⟨rfl, oneLine_fields ?_⟩, ⟨⟨⟨inside_strings ?_ manufacturer,
    inside_strings ?_ product⟩, inside_strings ?_ serial⟩, ⟨rfl, oneLine_append ?_ configuration⟩,
    ?_⟩, ?_⟩
  · simp only [List.forall_mem_cons]
    refine ⟨?_, oneLine_append device.plain.1 ?_, oneLine_append (oneLine_text _) ?_, descriptor,
      nofun⟩
    all_goals (unfold OneLine; decide)
  · simp only [List.forall_mem_cons]
    refine ⟨?_, oneLine_append (oneLine_hex device.ids.1) ?_,
      oneLine_append (oneLine_hex device.ids.2) ?_, revision, nofun⟩
    all_goals (unfold OneLine; decide)
  · unfold OneLine; decide
  · unfold OneLine; decide
  · unfold OneLine; decide
  · unfold OneLine; decide
  · intro line mem
    obtain ⟨interface, -, isLine⟩ := List.mem_flatMap.mp mem
    exact inside_interface interface line isLine
  · intro line mem
    obtain ⟨-, rfl⟩ := List.mem_replicate.mp mem
    exact ⟨rfl, List.not_mem_nil⟩

theorem parseLines_printed (lowers : LowersHex toLowerCase) (device : UsbDevice) :
    parseLines toLowerCase device.printed = [device.parsed] := by
  have opens : opensRecord (js "T:" ++ device.topology) = true := rfl
  rw [parseLines, UsbDevice.printed, List.foldl_cons, DeviceScan.line, if_pos opens,
    foldl_line_body fun line mem => (inside_body device line mem).1]
  exact finish_body lowers device

theorem parseLines_flatMap (lowers : LowersHex toLowerCase) (devices : List UsbDevice) :
    parseLines toLowerCase (devices.flatMap UsbDevice.printed) = devices.map UsbDevice.parsed := by
  induction devices with
  | nil => rfl
  | cons device rest ih =>
    rw [List.flatMap_cons, parseLines_append _ _ (opens_flatMap rest), ih,
      parseLines_printed lowers]
    rfl

theorem oneLine_printed (device : UsbDevice) : ∀ line ∈ device.printed, OneLine line := by
  intro line mem
  rcases List.mem_cons.mp mem with rfl | inBody
  · have label : OneLine (js "T:") := by unfold OneLine; decide
    exact oneLine_append label (device.lines _ List.mem_cons_self)
  · exact (inside_body device line inBody).2

theorem parse_render (lowers : LowersHex toLowerCase) (devices : List UsbDevice) :
    parseUsbDevices toLowerCase (render devices) = devices.map UsbDevice.parsed := by
  cases devices with
  | nil => rfl
  | cons device rest =>
    have lines : ∀ line ∈ (device :: rest).flatMap UsbDevice.printed, OneLine line := by
      intro line mem
      obtain ⟨other, -, isLine⟩ := List.mem_flatMap.mp mem
      exact oneLine_printed other line isLine
    rw [parseUsbDevices, render, List.splitOn_intercalate _ lines (List.cons_ne_nil _ _),
      parseLines_flatMap lowers]

/-! ### Damage -/

/-- A record whose line `k + 1` is replaced by another text. -/
def UsbDevice.damaged (device : UsbDevice) (k : Nat) (text : JsString) : List JsString :=
  (js "T:" ++ device.topology) :: (device.body.take k ++ text :: device.body.drop (k + 1))

/-- A text of records, one of which is damaged. -/
def renderDamaged (before : List UsbDevice) (damaged : List JsString) (after : List UsbDevice) :
    JsString :=
  [0x0A].intercalate (before.flatMap UsbDevice.printed ++ damaged ++
    after.flatMap UsbDevice.printed)

theorem splitOn_lines {lines : List JsString} (one : ∀ line ∈ lines, OneLine line) :
    (lines.flatMap fun line => line.splitOn 0x0A) = lines := by
  induction lines with
  | nil => rfl
  | cons line lines ih =>
    rw [List.forall_mem_cons] at one
    rw [List.flatMap_cons, List.splitOn_eq_singleton one.1, ih one.2]
    rfl

/-- What is read of the other records does not depend on the damage. -/
theorem parse_damaged (lowers : LowersHex toLowerCase) (device : UsbDevice) (k : Nat)
    (text : JsString) : ∃ found, ∀ before after : List UsbDevice,
      parseUsbDevices toLowerCase (renderDamaged before (device.damaged k text) after) =
        before.map UsbDevice.parsed ++ found ++ after.map UsbDevice.parsed := by
  refine ⟨parseLines toLowerCase ((device.damaged k text).flatMap fun line => line.splitOn 0x0A),
    fun before after => ?_⟩
  have lines (devices : List UsbDevice) :
      ∀ line ∈ devices.flatMap UsbDevice.printed, OneLine line := by
    intro line mem
    obtain ⟨other, -, isLine⟩ := List.mem_flatMap.mp mem
    exact oneLine_printed other line isLine
  have some : before.flatMap UsbDevice.printed ++ device.damaged k text ++
      after.flatMap UsbDevice.printed ≠ [] := by
    simp [UsbDevice.damaged]
  have topology : (js "T:" ++ device.topology).splitOn 0x0A = [js "T:" ++ device.topology] :=
    List.splitOn_eq_singleton (oneLine_printed device _ List.mem_cons_self)
  have opens : ∀ line ∈ ((device.damaged k text).flatMap fun line => line.splitOn 0x0A).head?,
      opensRecord line = true := by
    intro line isFirst
    rw [UsbDevice.damaged, List.flatMap_cons, topology] at isFirst
    cases isFirst
    rfl
  rw [parseUsbDevices, renderDamaged, splitOn_join some, List.flatMap_append, List.flatMap_append,
    splitOn_lines (lines before), splitOn_lines (lines after),
    parseLines_append _ _ (opens_flatMap after), parseLines_append _ _ opens,
    parseLines_flatMap lowers, parseLines_flatMap lowers]

theorem selectUniqueDevice_eq (records : List ParsedUsbDevice) (vidPid : JsString)
    (device : ParsedUsbDevice) :
    selectUniqueDevice records vidPid = .inl device ↔
      (records.filter fun record => record.vidPid = vidPid) = [device] := by
  unfold selectUniqueDevice
  split
  · next only isOnly => rw [isOnly, Sum.inl.injEq, List.cons.injEq, and_iff_left rfl]
  · next others =>
      refine iff_of_false nofun fun isOnly => ?_
      exact others device isOnly

/-- The devices that were printed are read in their order; a line that is replaced, other than the
first of a record, changes what is read of that record only; and one device is selected exactly
where one record has the id. -/
theorem usb_devices_read {toLowerCase : JsString → JsString} (lowers : LowersHex toLowerCase) :
    (∀ devices, parseUsbDevices toLowerCase (render devices) = devices.map UsbDevice.parsed) ∧
    (∀ (device : UsbDevice) (k : Nat) (text : JsString), ∃ found, ∀ before after,
      parseUsbDevices toLowerCase (renderDamaged before (device.damaged k text) after) =
        before.map UsbDevice.parsed ++ found ++ after.map UsbDevice.parsed) ∧
    ∀ records vidPid device, selectUniqueDevice records vidPid = .inl device ↔
      (records.filter fun record => record.vidPid = vidPid) = [device] :=
  ⟨parse_render lowers, parse_damaged lowers, selectUniqueDevice_eq⟩

/-- A modem whose manufacturer is a blank. -/
def blankNamed : UsbDevice where
  topology := js "  Bus=04 Lev=03"
  version := js " 2.00"
  deviceClass := ⟨0, some (js ">ifc "), by unfold Plain; decide⟩
  descriptor := js "00 Prot=00"
  vendor := js "2C7C"
  product := js "0801"
  revision := js "05.04"
  manufacturerText := some (js " ")
  productText := some (js " RM530N-GL")
  serialText := none
  configuration := js "  #Ifs= 1"
  interfaces := [⟨js " 4", js " 0", js " 3", ⟨0xFF, some (js "vend."), by unfold Plain; decide⟩,
    0xFF, 0xFF, some (js "qmi_wwan"), [js "  Ad=81(I)"], by unfold Plain; decide,
    fun name isName => Option.some.inj isName ▸ ⟨by decide, by decide, solid_of_all rfl⟩,
    by unfold OneLine; decide⟩]
  blanks := 1
  ids := ⟨.of_all (by decide) rfl, .of_all (by decide) rfl⟩
  plain := by unfold Plain; decide
  lines := by unfold OneLine; decide
  texts := by unfold OneLine; decide

theorem lowersHex_ascii : LowersHex lowerAscii := fun _ _ => rfl

theorem usb_device_read : parseUsbDevices lowerAscii (render [blankNamed]) = [blankNamed.parsed] :=
  (usb_devices_read lowersHex_ascii).1 [blankNamed]

/-- The blank manufacturer is not read as an empty text; it is left out. -/
theorem usb_blank_omitted :
    (parseUsbDevices lowerAscii (render [blankNamed])).map ParsedUsbDevice.manufacturer = [none] ∧
      blankNamed.manufacturerText.map trim = some [] := by
  rw [parse_render lowersHex_ascii]
  decide

end ModemStack.UsbMode
