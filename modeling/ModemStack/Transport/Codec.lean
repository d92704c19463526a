import ModemStack.Text.Number
import ModemStack.Transport.Signature

/-!
The signature-aware codec between public values and what the D-Bus library marshals.

64-bit integers are `bigint` outside and decimal text, then long integers, inside; a variant carries
its signature as text outside and as a parsed tree inside.
-/

namespace ModemStack.Transport

open ModemStack.Text

/-- A value on either side of the codec. The last two are the library's own. -/
inductive CodecValue where
  | undefined
  | string (text : JsString)
  | number (value : Double)
  | boolean (value : Bool)
  | bigint (value : Int)
  /-- A `Uint8Array`. -/
  | bytes (bytes : List UInt8)
  | array (items : List CodecValue)
  | variant (signature : JsString) (value : CodecValue)
  | long (value : Int)
  | tree (node : SignatureNode)

inductive CodecError where
  | unsupportedSignature (signature unsupported : JsString)
  | bigIntRequired (signature : JsString) (received : CodecValue)
  | sixtyFourBitRange (signature : JsString) (value : Int)
  | error (message : JsString)
  /-- A property of `undefined` was read. -/
  | typeError

def int64Min : Int := -2 ^ 63

def int64Max : Int := 2 ^ 63 - 1

def uint64Max : Int := 2 ^ 64 - 1

/-- `toString` of a `bigint`. -/
def printInt (value : Int) : JsString :=
  if value < 0 then minusSign :: printNat value.natAbs else printNat value.natAbs

/-! ### Encode -/

def encode64 (type : TypeCode) (value : CodecValue) (min max : Int) :
    Except CodecError CodecValue :=
  match value with
  | .bigint number =>
    if number < min ∨ max < number then .error (.sixtyFourBitRange [type.unit] number)
    else .ok (.string (printInt number))
  | _ => .error (.bigIntRequired [type.unit] value)

mutual

def encodeNode (node : SignatureNode) (value : CodecValue) : Except CodecError CodecValue :=
  match node with
  | .leaf .x => encode64 .x value int64Min int64Max
  | .leaf .t => encode64 .t value 0 uint64Max
  | .leaf .v =>
    match value with
    | .variant signature inner =>
      if unsupportedType ∈ signature then
        .error (.unsupportedSignature signature [unsupportedType])
      else match parseSignature signature with
        | .error message => .error (.error message)
        | .ok [node] => do
            let encoded ← encodeNode node inner
            return .array [.string signature, encoded]
        | .ok _ => .error (.error (js "Variant signature \"" ++ signature ++
            js "\" must be exactly one complete type"))
    | _ => .error
        (.error (js "Expected a DbusVariant (\x7b signature, value \x7d) for variant field"))
  | .leaf _ => .ok value
  | .array element =>
    match value with
    | .bytes bytes =>
      if element.type = TypeCode.y.unit then .ok (.bytes bytes)
      else .error (.error (js "Expected array for signature \"a" ++ [element.type] ++ js "\""))
    | .array items => do
        let encoded ← encodeItems element items
        return .array encoded
    | _ => .error (.error (js "Expected array for signature \"a" ++ [element.type] ++ js "\""))
  | .struct fields =>
    match value with
    | .array items =>
      if items.length ≠ fields.length then
        .error (.error (js "Struct arity " ++ printNat items.length ++ js " does not match " ++
          printNat fields.length ++ js " field types"))
      else do
        let encoded ← encodeEach fields items
        return .array encoded
    | _ => .error (.error (js "Expected array for struct value"))
  | .dictEntry fields =>
    match value with
    | .array [key, value] =>
      match fields with
      | [] => .error .typeError
      | keyNode :: others => do
          let key ← encodeNode keyNode key
          match others with
          | [] => .error .typeError
          | valueNode :: _ => do
              let value ← encodeNode valueNode value
              return .array [key, value]
    | _ => .error (.error (js "Expected [key, value] pair for dict entry"))

/-- The items of an array. -/
def encodeItems (element : SignatureNode) : List CodecValue → Except CodecError (List CodecValue)
  | [] => .ok []
  | item :: items => do
      let encoded ← encodeNode element item
      let others ← encodeItems element items
      return encoded :: others

/-- Values, each with its own type; there are as many of both. -/
def encodeEach (nodes : List SignatureNode) :
    List CodecValue → Except CodecError (List CodecValue)
  | [] => .ok []
  | value :: values =>
    match nodes with
    | [] => .ok []
    | node :: nodes => do
        let encoded ← encodeNode node value
        let others ← encodeEach nodes values
        return encoded :: others

end

def encodeBody (signature : JsString) (args : List CodecValue) :
    Except CodecError (List CodecValue) :=
  if unsupportedType ∈ signature then .error (.unsupportedSignature signature [unsupportedType])
  else match parseSignature signature with
    | .error message => .error (.error message)
    | .ok nodes =>
      if nodes.length ≠ args.length then
        .error (.error (js "Body arity " ++ printNat args.length ++
          js " does not match signature \"" ++ signature ++ js "\" (" ++ printNat nodes.length ++
          js " types)"))
      else encodeEach nodes args

/-! ### Decode -/

def decode64 (type : TypeCode) : CodecValue → Except CodecError CodecValue
  | .long number | .bigint number => .ok (.bigint number)
  | value => .error (.bigIntRequired [type.unit] value)

/-- The types whose values pass through as they are. -/
def basicTypes : List TypeCode := [.y, .b, .n, .q, .i, .u, .d, .s, .o, .g]

def decodeBasic (type : TypeCode) (value : CodecValue) : Except CodecError CodecValue :=
  if type ∈ basicTypes then .ok value
  else .error (.unsupportedSignature [type.unit] [type.unit])

/-- What a value that the library leaves out is decoded to. -/
def decodeMissing : SignatureNode → Except CodecError CodecValue
  | .leaf .x => decode64 .x .undefined
  | .leaf .t => decode64 .t .undefined
  | .leaf .v => .error (.error (js "Malformed variant from library (expected [tree, [value]])"))
  | .leaf type => decodeBasic type .undefined
  | .array element =>
    .error (.error (js "Expected array while decoding \"a" ++ [element.type] ++ js "\""))
  | .struct _ => .error (.error (js "Expected array while decoding struct"))
  | .dictEntry _ => .error (.error (js "Expected [key, value] pair while decoding dict entry"))

mutual

def decodeNode (node : SignatureNode) (value : CodecValue) : Except CodecError CodecValue :=
  match node with
  | .leaf .x => decode64 .x value
  | .leaf .t => decode64 .t value
  | .leaf .v =>
    match value with
    | .array [.array [.tree node], .array inner] =>
      match inner with
      | [] => do
          let decoded ← decodeMissing node
          return .variant (signatureFromNode node) decoded
      | value :: _ => do
          let decoded ← decodeNode node value
          return .variant (signatureFromNode node) decoded
    -- what stands in for a tree is taken for one
    | .array [.array [_], .array _] => .error .typeError
    | .array [_, _] => .error (.error (js "Malformed variant tree from library"))
    | _ => .error (.error (js "Malformed variant from library (expected [tree, [value]])"))
  | .leaf type => decodeBasic type value
  | .array element =>
    match value with
    | .bytes bytes =>
      if element.type = TypeCode.y.unit then .ok (.bytes bytes)
      else .error (.error (js "Expected array while decoding \"a" ++ [element.type] ++ js "\""))
    | .array items => do
        let decoded ← decodeItems element items
        return .array decoded
    | _ => .error (.error (js "Expected array while decoding \"a" ++ [element.type] ++ js "\""))
  | .struct fields =>
    match value with
    | .array items => do
        let decoded ← decodeEach fields items
        return .array decoded
    | _ => .error (.error (js "Expected array while decoding struct"))
  | .dictEntry fields =>
    match value with
    | .array [key, value] =>
      match fields with
      | [] => .error .typeError
      | keyNode :: others => do
          let key ← decodeNode keyNode key
          match others with
          | [] => .error .typeError
          | valueNode :: _ => do
              let value ← decodeNode valueNode value
              return .array [key, value]
    | _ => .error (.error (js "Expected [key, value] pair while decoding dict entry"))

def decodeItems (element : SignatureNode) : List CodecValue → Except CodecError (List CodecValue)
  | [] => .ok []
  | item :: items => do
      let decoded ← decodeNode element item
      let others ← decodeItems element items
      return decoded :: others

/-- One value for each type, whatever the library has left out. -/
def decodeEach (nodes : List SignatureNode) :
    List CodecValue → Except CodecError (List CodecValue)
  | [] => nodes.mapM decodeMissing
  | value :: values =>
    match nodes with
    | [] => .ok []
    | node :: nodes => do
        let decoded ← decodeNode node value
        let others ← decodeEach nodes values
        return decoded :: others

end

def decodeBody (signature : JsString) (body : List CodecValue) :
    Except CodecError (List CodecValue) :=
  if unsupportedType ∈ signature then .error (.unsupportedSignature signature [unsupportedType])
  else match parseSignature signature with
    | .error message => .error (.error message)
    | .ok nodes => decodeEach nodes body

end ModemStack.Transport
