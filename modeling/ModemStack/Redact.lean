import ModemStack.Text.JsValue

/-!
Redaction: the value under a sensitive key is replaced, however deep it lies.

Keys are what is looked at. Arrays are walked item by item, so that what stands in an array is
found only below the keys of the objects in it.
-/

namespace ModemStack

open ModemStack.Text

def REDACTED : JsString := js "[redacted]"

/-! ### Sensitive keys -/

def SENSITIVE_KEYS : List JsString :=
  [js "iccid", js "imsi", js "eid", js "imei", js "equipmentidentifier", js "equipment-identifier",
    js "equipment_identifier", js "pin", js "pin2", js "newpin", js "puk", js "puk2",
    js "password", js "passwd", js "subscriptionid"]

def LOCATION_KEYS : List JsString :=
  [js "latitude", js "longitude", js "altitude", js "lat", js "lon", js "lng", js "nmea",
    js "nmeasentences", js "coordinates"]

def SMS_SENSITIVE_KEYS : List JsString :=
  [js "smstext", js "smsbody", js "smsfrom", js "smssender", js "smsnumber", js "messagetext",
    js "messagebody", js "msisdn", js "sender", js "sms.content.text", js "sms.content.number"]

def USSD_SENSITIVE_KEYS : List JsString :=
  [js "ussd", js "ussdcommand", js "ussdreply", js "ussdresponse", js "ussdtext",
    js "networknotification", js "networkrequest"]

def OWN_NUMBER_SENSITIVE_KEYS : List JsString :=
  [js "ownnumber", js "ownnumbers", js "phonenumber", js "phonenumbers", js "simnumber",
    js "subscribernumber", js "modemgenericownnumbers", js "modemownnumbers"]

/-- `toLowerCase` as far as it can give a text of ASCII: of all other characters only the Kelvin
sign is lowered to an ASCII letter. -/
def lowerKey (key : JsString) : JsString :=
  lowerAscii (key.map fun c => if c = 0x212A then 0x4B else c)

/-- A text without some characters. -/
def without (dropped : JsString) (text : JsString) : JsString :=
  text.filter fun c => !dropped.contains c

def isSmsSensitiveKey (key : JsString) : Bool :=
  SMS_SENSITIVE_KEYS.contains (without (js "_-") (lowerKey key))

def isUssdSensitiveKey (key : JsString) : Bool :=
  USSD_SENSITIVE_KEYS.contains (without (js "_-") (lowerKey key))

def isOwnNumberSensitiveKey (key : JsString) : Bool :=
  OWN_NUMBER_SENSITIVE_KEYS.contains (without (js "_.-") (lowerKey key))

/-- What follows the last dot, if there is one. -/
def dottedLeaf (text : JsString) : Option JsString :=
  if text.contains fullStop then some (text.reverse.takeWhile (· ≠ fullStop)).reverse else none

def isSensitiveKey (key : JsString) : Bool :=
  let lower := lowerKey key
  SENSITIVE_KEYS.contains lower || LOCATION_KEYS.contains lower || isSmsSensitiveKey key ||
    isUssdSensitiveKey key || isOwnNumberSensitiveKey key ||
    (dottedLeaf lower).any fun leaf => SENSITIVE_KEYS.contains leaf || LOCATION_KEYS.contains leaf

/-! ### The walk -/

mutual

def redactValue (underSensitiveKey : Bool) : JsValue → JsValue
  | .array items => if underSensitiveKey then .string REDACTED else .array (redactItems items)
  | .object plain members =>
    if underSensitiveKey then .string REDACTED
    else if plain then .objectOf (redactMembers members)
    else .object plain members
  | value => if underSensitiveKey then .string REDACTED else value

def redactItems : List JsValue → List JsValue
  | [] => []
  | item :: rest => redactValue false item :: redactItems rest

def redactMembers : List (JsString × JsValue) → List (JsString × JsValue)
  | [] => []
  | (key, child) :: rest => (key, redactValue (isSensitiveKey key) child) :: redactMembers rest

end

def redact (value : JsValue) : JsValue := redactValue false value

@[simp] theorem redactValue_sensitive (value : JsValue) :
    redactValue true value = .string REDACTED := by
  cases value <;> rfl

@[simp] theorem redactValue_object (members : List (JsString × JsValue)) :
    redactValue false (.object true members) = .objectOf (redactMembers members) := rfl

theorem redactItems_eq_map (items : List JsValue) :
    redactItems items = items.map (redactValue false) := by
  induction items with
  | nil => rfl
  | cons item rest ih => rw [redactItems, ih, List.map_cons]

theorem redactMembers_eq_map (members : List (JsString × JsValue)) :
    redactMembers members =
      members.map fun entry => (entry.1, redactValue (isSensitiveKey entry.1) entry.2) := by
  induction members with
  | nil => rfl
  | cons entry rest ih => rw [redactMembers, ih, List.map_cons]

/-! ### Objects that were built -/

open JsValue

variable {entries other : List (JsString × JsValue)}

theorem redact_objectOf (entries : List (JsString × JsValue)) :
    redactValue false (.objectOf entries) = .object (keepsPrototype entries)
      ((membersOf entries).map fun item =>
        (item.1, if keepsPrototype entries then redactValue (isSensitiveKey item.1) item.2
          else item.2)) := by
  rw [objectOf_eq]
  cases keepsPrototype entries with
  | false => simp [redactValue]
  | true =>
    obtain ⟨nodup, named⟩ := keys_membersOf entries
    have keys : ((membersOf entries).map fun item =>
        (item.1, redactValue (isSensitiveKey item.1) item.2)).map Prod.fst =
          (membersOf entries).map Prod.fst := by
      simp [Function.comp_def]
    rw [redactValue_object, redactMembers_eq_map,
      objectOf_of_nodup (by rwa [keys]) (by rwa [keys])]
    rfl

/-- What is seen of a property. -/
theorem get_redact_objectOf {key : JsString} (named : key ≠ protoKey) :
    (redactValue false (.objectOf entries)).get key = (lastOf key entries).map fun value =>
      if keepsPrototype entries then redactValue (isSensitiveKey key) value else value := by
  rw [redact_objectOf, JsValue.get, getItem_map (fun key value =>
    if keepsPrototype entries then redactValue (isSensitiveKey key) value else value),
    getItem_membersOf named]

theorem redact_objectOf_congr (underSensitiveKey : Bool)
    (keys : entries.map Prod.fst = other.map Prod.fst)
    (plain : keepsPrototype entries = keepsPrototype other)
    (same : ∀ key ≠ protoKey,
      (lastOf key entries).map (fun value =>
        if keepsPrototype entries then redactValue (isSensitiveKey key) value else value) =
      (lastOf key other).map fun value =>
        if keepsPrototype entries then redactValue (isSensitiveKey key) value else value) :
    redactValue underSensitiveKey (.objectOf entries) =
      redactValue underSensitiveKey (.objectOf other) := by
  cases underSensitiveKey with
  | true => rw [redactValue_sensitive, redactValue_sensitive]
  | false =>
    rw [redact_objectOf, redact_objectOf, ← plain]
    congr 1
    exact membersOf_congr (fun key value =>
      if keepsPrototype entries then redactValue (isSensitiveKey key) value else value) keys same

/-- Objects made of the same items, whose values look the same or are. -/
theorem redact_objectOf_map {α : Type} (items : List (JsString × α)) (f g : α → JsValue)
    (underSensitiveKey : Bool)
    (plain : keepsPrototype (items.map fun item => (item.1, f item.2)) =
      keepsPrototype (items.map fun item => (item.1, g item.2)))
    (same : ∀ key ≠ protoKey, ∀ value, lastOf key items = some value → f value = g value ∨
      keepsPrototype (items.map fun item => (item.1, f item.2)) = true ∧
        redactValue (isSensitiveKey key) (f value) = redactValue (isSensitiveKey key) (g value)) :
    redactValue underSensitiveKey (.objectOf (items.map fun item => (item.1, f item.2))) =
      redactValue underSensitiveKey (.objectOf (items.map fun item => (item.1, g item.2))) := by
  refine redact_objectOf_congr underSensitiveKey ?_ plain fun key named => ?_
  · simp [Function.comp_def]
  · rw [lastOf_map (fun _ value => f value), lastOf_map (fun _ value => g value)]
    cases isLast : lastOf key items with
    | none => rfl
    | some value =>
      simp only [Option.map_some]
      rcases same key named value isLast with equal | ⟨isPlain, alike⟩
      · rw [equal]
      · rw [if_pos isPlain, if_pos isPlain, alike]

end ModemStack
