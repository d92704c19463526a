import ModemStack.Text.JsValue
import ModemStack.Text.Numeral

/-!
Mode masks and their names, and the pairs of an allowed and a preferred mask a modem
advertises.

A mask is a safe integer. `&` sees its low 32 bits and answers a signed number.
-/

namespace ModemStack.Radio

open ModemStack.Text

abbrev ModeName := JsString

def modeNone : ModeName := js "none"

def modeAny : ModeName := js "any"

def modeAnyValue : Nat := 0xffffffff

def namedBits : List (Nat × ModeName) :=
  [(1, js "cs"), (2, js "2g"), (4, js "3g"), (8, js "4g"), (16, js "5g")]

/-- `left & right` -/
def bitAnd (left right : Nat) : Int :=
  Int.bmod ((left % 2 ^ 32) &&& (right % 2 ^ 32) : Nat) (2 ^ 32)

def modeName (bit : Nat) : ModeName :=
  (namedBits.lookup bit).getD (js "mode-bit-" ++ printNat bit)

def nameToBit (name : ModeName) : Option Nat :=
  (namedBits.map fun item => (item.2, item.1)).lookup name

/-- The passthrough spelling of a bit that has no name. -/
def passthroughBit (name : ModeName) : Option Nat :=
  (numeralAfter (js "mode-bit-") name).bind fun digits => (safeInteger digits).filter (0 < ·)

def modeValue (name : ModeName) : Option Nat :=
  if name = modeNone then some 0
  else if name = modeAny then some modeAnyValue
  else (nameToBit name).or (passthroughBit name)

def isNamedMode (name : ModeName) : Bool :=
  name = modeNone || name = modeAny || (namedBits.map Prod.snd).contains name

/-- The names of a mask's bits, from the lowest on. -/
def modeNames (mask : Nat) : List ModeName :=
  if mask = 0 ∨ 2 ^ 53 ≤ mask then []
  else if mask = modeAnyValue then [modeAny]
  else
    let bits := ((List.range 53).map (2 ^ ·)).takeWhile fun bit => bit ≤ mask
    (bits.filter fun bit => bitAnd mask bit ≠ 0).map modeName

/-- `left | right` -/
def bitOr (left : Int) (right : Nat) : Int :=
  Int.bmod (((left % 2 ^ 32).toNat ||| (right % 2 ^ 32)) : Nat) (2 ^ 32)

/-- `mask >>> 0` -/
def unsigned (mask : Int) : Nat := (mask % 2 ^ 32).toNat

def encodeFrom (mask : Int) : List ModeName → Except ModeName Nat
  | [] => .ok (unsigned mask)
  | name :: rest =>
    match modeValue name with
    | none => .error name
    | some value => encodeFrom (bitOr mask value) rest

/-- A mask from the names of its bits, or the name that has no place in one. -/
def encodeModeNames (names : List ModeName) : Except ModeName Nat := encodeFrom 0 names

inductive ModeCombinationAnomaly where
  | unnamedAllowedBit
  | unnamedPreferredBit
  | preferredNotInAllowed
  | preferredNotSingular
  | emptyAllowed
deriving DecidableEq

inductive ModeCombinationClassification where
  | named
  | unknownCombination
deriving DecidableEq

structure ModeCombination where
  allowedMask : Nat
  allowed : List ModeName
  preferredMask : Nat
  preferred : ModeName
  classification : ModeCombinationClassification
  anomalies : List ModeCombinationAnomaly
deriving DecidableEq

structure ModeCombinationSet where
  combinations : List ModeCombination
  undecodable : List JsValue

def isUnnamed (names : List ModeName) : Bool := names.any fun name => !isNamedMode name

def modeCombination (allowedMask preferredMask : Nat) : ModeCombination :=
  let allowed := modeNames allowedMask
  let preferredNames := modeNames preferredMask
  let anomalies :=
    (if allowed = [] then [.emptyAllowed] else []) ++
    (if isUnnamed allowed then [.unnamedAllowedBit] else []) ++
    (if isUnnamed preferredNames then [.unnamedPreferredBit] else []) ++
    (if 1 < preferredNames.length then [.preferredNotSingular] else []) ++
    if preferredNames ≠ [] ∧ preferredMask ≠ modeAnyValue ∧
        bitAnd preferredMask allowedMask ≠ preferredMask then [.preferredNotInAllowed]
    else []
  { allowedMask
    allowed
    preferredMask
    preferred := if preferredNames = [] then modeNone else (js "+").intercalate preferredNames
    classification := if anomalies = [] then .named else .unknownCombination
    anomalies }

/-! ### Reading a modem's answer -/

/-- A number that is a mask. -/
def maskOf : JsValue → Option Nat
  | .number .negativeZero => some 0
  | .number (.finite value) =>
    if (Double.finite value).isSafeNatural then some value.num.toNat else none
  | _ => none

def decodePair : JsValue → Option (Nat × Nat)
  | .array [allowed, preferred] =>
    match maskOf allowed, maskOf preferred with
    | some allowedMask, some preferredMask => some (allowedMask, preferredMask)
    | _, _ => none
  | _ => none

def decodeModeCombination (value : JsValue) : Option ModeCombination :=
  (decodePair value).map fun pair => modeCombination pair.1 pair.2

/-- The members of a catalogue: the combinations they are, and those that are none. -/
def decodeMembers : List JsValue → ModeCombinationSet
  | [] => ⟨[], []⟩
  | member :: rest =>
    let decoded := decodeMembers rest
    match decodePair member with
    | none => { decoded with undecodable := member :: decoded.undecodable }
    | some (allowedMask, preferredMask) =>
      { decoded with
        combinations := modeCombination allowedMask preferredMask :: decoded.combinations }

def decodeSupportedModeCombinations : JsValue → ModeCombinationSet
  | .array members => decodeMembers members
  | _ => ⟨[], []⟩

end ModemStack.Radio
