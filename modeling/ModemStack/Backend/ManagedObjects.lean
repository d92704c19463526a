import ModemStack.Text.JsString

/-!
Decoded D-Bus values, and lookups in a `GetManagedObjects` tree.
-/

namespace ModemStack.Backend

open ModemStack.Text

/-- Integers are exact; no lookup tells other doubles apart. -/
inductive DbusNumber where
  | integer (value : Int)
  | other
deriving DecidableEq

/-- 64-bit integers are bigints, byte arrays are no arrays. -/
inductive DbusValue where
  | string (value : JsString)
  | number (value : DbusNumber)
  | boolean (value : Bool)
  | bigint (value : Int)
  | bytes (value : List UInt8)
  | variant (signature : JsString) (value : DbusValue)
  | array (items : List DbusValue)

structure DbusVariant where
  signature : JsString
  value : DbusValue

abbrev DecodedProps := List (JsString × DbusVariant)

abbrev DecodedInterfaces := List (JsString × DecodedProps)

abbrev DecodedObject := JsString × DecodedInterfaces

abbrev DecodedManagedObjects := List DecodedObject

/-! ### Names on the bus -/

def modemIface : JsString := js "org.freedesktop.ModemManager1.Modem"

def modem3gppIface : JsString := js "org.freedesktop.ModemManager1.Modem.Modem3gpp"

def simIface : JsString := js "org.freedesktop.ModemManager1.Sim"

/-! ### Lookups -/

def findObject (tree : DecodedManagedObjects) (path : JsString) : Option DecodedObject :=
  tree.find? fun object => object.1 = path

def findInterface (tree : DecodedManagedObjects) (path iface : JsString) :
    Option DecodedProps := do
  let object ← findObject tree path
  let found ← object.2.find? fun interface => interface.1 = iface
  return found.2

def pathsWithInterface (tree : DecodedManagedObjects) (iface : JsString) : List JsString :=
  (tree.filter fun object => object.2.any fun interface => interface.1 = iface).map Prod.fst

def propValue (props : Option DecodedProps) (name : JsString) : Option DbusValue := do
  let props ← props
  let found ← props.find? fun entry => entry.1 = name
  return found.2.value

def stringProp (props : Option DecodedProps) (name : JsString) : Option JsString :=
  match propValue props name with
  | some (.string value) => some value
  | _ => none

def numberProp (props : Option DecodedProps) (name : JsString) : Option DbusNumber :=
  match propValue props name with
  | some (.number value) => some value
  | _ => none

/-- Items that are no strings are dropped. -/
def stringArrayProp (props : Option DecodedProps) (name : JsString) : Option (List JsString) :=
  match propValue props name with
  | some (.array items) => some (items.filterMap fun
      | .string value => some value
      | _ => none)
  | _ => none

/-- The properties of the object a property names. -/
def followObjectPath (tree : DecodedManagedObjects) (props : Option DecodedProps)
    (propName iface : JsString) : Option DecodedProps :=
  match propValue props propName with
  | some (.string target) => findInterface tree target iface
  | _ => none

end ModemStack.Backend
