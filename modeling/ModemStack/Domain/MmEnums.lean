import Mathlib.Data.List.Dedup
import ModemStack.Domain.PhysicalIdentity
import ModemStack.Text.Number

/-!
The enumerations of ModemManager by their numbers, and the names that modems are presented under.
-/

namespace ModemStack.Domain

open ModemStack.Text

/-! ### Masks -/

/-- `(mask & (1 << bit)) !== 0` -/
def hasBit (mask : Double) (bit : Nat) : Bool :=
  match mask with
  | .finite value =>
    let whole := if 0 ≤ value then value.floor else value.ceil
    (whole % 2 ^ 32).toNat.testBit bit
  | _ => false

def accessTechBits : List (Nat × RadioAccessTechnology) :=
  [(1, .gsm), (2, .gsm), (3, .gsm), (4, .gsm), (5, .umts), (6, .umts), (7, .umts), (8, .umts),
    (9, .umts), (14, .lte), (15, .nr), (16, .lte), (17, .lte)]

/-- A set, in no order that is looked at. -/
def decodeMmAccessTechnologies (mask : Option Double) : List RadioAccessTechnology :=
  match mask with
  | none => []
  | some mask =>
    if mask.le (.finite 0) then []
    else ((accessTechBits.filter fun entry => hasBit mask entry.1).map Prod.snd).dedup

def modeTokens : List (Nat × JsString) :=
  [(1, js "2g"), (2, js "3g"), (3, js "4g"), (4, js "5g")]

def modeMaskToLabel (mask : Option Double) : Option JsString :=
  match mask with
  | none => none
  | some mask =>
    if mask.le (.finite 0) then none
    else
      match (modeTokens.filter fun entry => hasBit mask entry.1).map Prod.snd with
      | [] => none
      | named => some named.reverse.flatten

/-! ### Numbered values -/

def enumName (names : List (Double × JsString)) (value : Double) : Option JsString :=
  (names.find? fun entry => entry.1.same value).map Prod.snd

def mmStates : List (Double × JsString) :=
  [(.finite (-1), js "failed"), (.finite 1, js "initializing"), (.finite 2, js "locked"),
    (.finite 3, js "disabled"), (.finite 4, js "disabling"), (.finite 5, js "enabling"),
    (.finite 6, js "enabled"), (.finite 7, js "searching"), (.finite 8, js "registered"),
    (.finite 9, js "disconnecting"), (.finite 10, js "connecting"), (.finite 11, js "connected")]

def decodeMmState (state : Option Double) : JsString :=
  (state.bind (enumName mmStates)).getD (js "unknown")

def registrationStates : List (Double × JsString) :=
  [(.finite 0, js "idle"), (.finite 1, js "home"), (.finite 6, js "home"), (.finite 7, js "home"),
    (.finite 2, js "searching"), (.finite 3, js "denied"), (.finite 5, js "roaming"),
    (.finite 8, js "roaming"), (.finite 9, js "roaming"), (.finite 11, js "emergency-only")]

def decodeRegistrationState (state : Option Double) : JsString :=
  (state.bind (enumName registrationStates)).getD (js "unknown")

def stateFailedReasons : List (Double × JsString) :=
  [(.finite 0, js "none"), (.finite 1, js "unknown-reason"), (.finite 2, js "sim-missing"),
    (.finite 3, js "sim-error"), (.finite 4, js "unknown-capabilities"),
    (.finite 5, js "esim-without-profiles")]

def decodeStateFailedReason (value : Option Double) : Option JsString :=
  value.bind (enumName stateFailedReasons)

def unlocks : List (Double × JsString) :=
  [(.finite 1, js "none"), (.finite 2, js "sim-pin"), (.finite 3, js "sim-pin2"),
    (.finite 4, js "sim-puk"), (.finite 5, js "sim-puk2")]

def decodeUnlockRequired (lock : Option Double) : Option JsString := lock.bind (enumName unlocks)

def simTypes : List (Double × JsString) := [(.finite 1, js "physical"), (.finite 2, js "esim")]

def decodeSimType (value : Option Double) : Option JsString := value.bind (enumName simTypes)

def esimStatuses : List (Double × JsString) :=
  [(.finite 1, js "no-profiles"), (.finite 2, js "with-profiles")]

def decodeEsimStatus (value : Option Double) : Option JsString := value.bind (enumName esimStatuses)

structure Mm3gppLacCi where
  mcc : JsString
  mnc : JsString
  locationAreaCode : JsString
  cellId : JsString
  trackingAreaCode : JsString
deriving DecidableEq

def decode3gppLacCi (value : Option JsString) : Option Mm3gppLacCi :=
  value.bind fun value =>
    match ((trim value).splitOn 0x2C).map trim with
    | [mcc, mnc, locationAreaCode, cellId, trackingAreaCode] =>
      if mcc = [] ∨ mnc = [] ∨ cellId = [] then none
      else some ⟨mcc, mnc, locationAreaCode, cellId, trackingAreaCode⟩
    | _ => none

/-! ### Presentation -/

structure ModemHardwareIdentity where
  model : Option JsString
  manufacturer : Option JsString
  firmwareRevision : Option JsString
  equipmentId : Option JsString

def mmcliEmpty : JsString := js "--"

def isUninformativeIdentity (value : Option JsString) : Bool :=
  match value.map trim with
  | none => true
  | some trimmed => trimmed = [] || trimmed = mmcliEmpty || isDigits 1 4 trimmed

/-- `/^\s*\[[^\]]*]\s*$/` -/
def isBracketed (text : JsString) : Bool :=
  match text.dropWhile isJsSpace with
  | 0x5B :: inner =>
    match inner.dropWhile (· ≠ 0x5D) with
    | _ :: rest => rest.all isJsSpace
    | [] => false
  | _ => false

/-- `text.replace(/\s*\[[^\]]*]\s*$/, '')` -/
def dropBracketed : JsString → JsString
  | [] => []
  | c :: rest => if isBracketed (c :: rest) then [] else c :: dropBracketed rest

/-- `text.split(/\s{2,}/)[0]` -/
def beforeGap : JsString → JsString
  | c :: d :: rest => if isJsSpace c && isJsSpace d then [] else c :: beforeGap (d :: rest)
  | short => short

def isAsciiLetter (c : UInt16) : Bool :=
  (0x41 ≤ c.toNat && c.toNat ≤ 0x5A) || (0x61 ≤ c.toNat && c.toNat ≤ 0x7A)

def firmwareIdentityLabel (revision : Option JsString) : Option JsString :=
  match revision.map trim with
  | none => none
  | some trimmed =>
    if trimmed = [] ∨ trimmed = mmcliEmpty then none
    else
      let head := trim (beforeGap (trim (dropBracketed trimmed)))
      if 3 ≤ head.length ∧ head.any isAsciiLetter then some head else none

def modemHardwareLabel (identity : ModemHardwareIdentity) : JsString :=
  let model := identity.model.map trim
  let manufacturer := identity.manufacturer.map trim
  if !isUninformativeIdentity model then model.getD []
  else
    match firmwareIdentityLabel identity.firmwareRevision with
    | some firmware => firmware
    | none =>
      if !isUninformativeIdentity manufacturer then manufacturer.getD []
      else js "Cellular modem"

def modemHardwareName (identity : ModemHardwareIdentity) : JsString :=
  let label := modemHardwareLabel identity
  match identity.equipmentId.map trim with
  | none => label
  | some equipmentId =>
    if equipmentId = [] ∨ equipmentId = mmcliEmpty then label
    else label ++ js " - " ++ equipmentId.drop (equipmentId.length - 5)

end ModemStack.Domain
