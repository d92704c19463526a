import ModemStack.Text.Json

/-!
Flat records of strings and numbers in JSON documents.
-/

namespace ModemStack.Text

inductive RecordValue where
  | string (value : JsString)
  | number (value : JsNumber)
deriving DecidableEq

/-- A flat object, by its keys. -/
abbrev FlatRecord : Type := JsString → Option RecordValue

def recordValue : Json JsNumber → Option RecordValue
  | .string value => some (.string value)
  | .number .infinite => none
  | .number value => some (.number value)
  | _ => none

/-- Each member has to be a string or a finite number; `__proto__` is not looked at. -/
def flatRecord : Json JsNumber → Option FlatRecord
  | .object members =>
    if members.all fun entry => entry.1 = js "__proto__" ||
        ((member members entry.1).bind recordValue).isSome then
      some fun key => (member members key).bind recordValue
    else none
  | _ => none

end ModemStack.Text
