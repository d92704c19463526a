import ModemStack.Text.JsValue

/-!
Schemas of JavaScript values, and what they accept.
-/

namespace ModemStack.Text

open ModemStack.Data

inductive Schema where
  /-- A string of at least `least` units. -/
  | string (least : Nat)
  | matching (test : JsString → Bool)
  | enum (values : List JsString)
  | boolean
  | literal (value : Nat)
  | number
  | natural (most : Nat)
  /-- At least `least` items. -/
  | array (item : Schema) (least : Nat)
  | record (value : Schema)
  /-- These keys and no others; an optional one may be missing. -/
  | strictObject (fields : List (JsString × Bool × Schema))
  | unknown

namespace Schema

/-- A field that must be there. -/
def field (key : String) (schema : Schema) : JsString × Bool × Schema := (js key, false, schema)

def optionalField (key : String) (schema : Schema) : JsString × Bool × Schema :=
  (js key, true, schema)

mutual

def accepts : Schema → JsValue → Bool
  | .string least, .string text => least ≤ text.length
  | .matching test, .string text => test text
  | .enum values, .string text => values.contains text
  | .boolean, .bool _ => true
  | .literal value, .number given => given = .finite value
  | .number, .number given =>
    match given with
    | .nan | .infinite _ => false
    | _ => true
  | .natural most, .number given =>
    match given with
    | .negativeZero => true
    | .finite value => value.den = 1 && 0 ≤ value.num && value.num ≤ most
    | _ => false
  | .array item least, .array items =>
    least ≤ items.length && items.all fun value => item.accepts value
  | .record schema, .object plain members =>
    plain && members.all fun entry => schema.accepts entry.2
  | .strictObject fields, .object _ members =>
    acceptsFields fields members &&
      members.all fun entry => (fields.map Prod.fst).contains entry.1
  | .unknown, _ => true
  | _, _ => false

/-- Every field is there and accepted, or it is missing and optional. -/
def acceptsFields : List (JsString × Bool × Schema) → List (JsString × JsValue) → Bool
  | [], _ => true
  | (key, missing, schema) :: rest, members =>
    (match OrderedMap.getItem key members with
      | some value => schema.accepts value
      | none => missing) && acceptsFields rest members

end

end Schema

end ModemStack.Text
