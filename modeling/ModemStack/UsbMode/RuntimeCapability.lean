import ModemStack.Text.Number
import ModemStack.Text.Pattern

/-!
Switching the USB composition of a module the catalog does not know: the vendor's
own READ and SET commands, and reading the current composition from a reply.
-/

namespace ModemStack.UsbMode

open ModemStack.Text

inductive RuntimeCompositionVendor where
  | fibocom
  | quectel
  | simcom
  | sierra
deriving DecidableEq

namespace RuntimeCompositionVendor

def name : RuntimeCompositionVendor → JsString
  | .fibocom => js "fibocom"
  | .quectel => js "quectel"
  | .simcom => js "simcom"
  | .sierra => js "sierra"

def all : List RuntimeCompositionVendor := [.fibocom, .quectel, .simcom, .sierra]

end RuntimeCompositionVendor

/-- What a vendor calls a composition: a number, or a code. `=` is `Object.is`. -/
inductive RuntimeCompositionMode where
  | number (value : Double)
  | code (text : JsString)
deriving DecidableEq

/-- The mode as a template writes it. -/
def RuntimeCompositionMode.text : RuntimeCompositionMode → JsString
  | .number value => value.text
  | .code text => text

inductive RuntimeCompositionCapability where
  | available (current : RuntimeCompositionMode) (returnPathProven : Bool)
      (offerable : List RuntimeCompositionMode)
  | unknown
deriving DecidableEq

structure RuntimeCompositionQuery where
  current : JsString
  enumerate : JsString

def runtimeCompositionQueryRegistry : RuntimeCompositionVendor → RuntimeCompositionQuery
  | .fibocom => ⟨js "AT+GTUSBMODE?", js "AT+GTUSBMODE=?"⟩
  | .quectel => ⟨js "AT+QCFG=\"usbnet\"", js "AT+QCFG=?"⟩
  | .simcom => ⟨js "AT+CUSBPIDSWITCH?", js "AT+CUSBPIDSWITCH=?"⟩
  | .sierra => ⟨js "AT!USBCOMP?", js "AT!USBCOMP=?"⟩

/-! ### Commands -/

def decimalSetCommand (start : JsString) : RuntimeCompositionMode → Option JsString
  | .number value => if value.isSafeNatural then some (start ++ value.text) else none
  | .code _ => none

/-- `toUpperCase` of ASCII text. -/
def upperAscii (text : JsString) : JsString :=
  text.map fun c => if 0x61 ≤ c.toNat ∧ c.toNat ≤ 0x7A then UInt16.ofNat (c.toNat - 0x20) else c

/-- The SET command of SIMCom, for a code of four hexadecimal digits. -/
def simcomSetCommand : RuntimeCompositionMode → Option JsString
  | .number _ => none
  | .code text =>
    if text.length = 4 ∧ (Pattern.hex4.exec text).isSome then
      some (js "AT+CUSBPIDSWITCH=" ++ upperAscii text ++ js ",1,1")
    else none

def runtimeCompositionSetRegistry :
    RuntimeCompositionVendor → RuntimeCompositionMode → Option JsString
  | .fibocom => decimalSetCommand (js "AT+GTUSBMODE=")
  | .quectel => decimalSetCommand (js "AT+QCFG=\"usbnet\",")
  | .simcom => simcomSetCommand
  | .sierra => decimalSetCommand (js "AT!USBCOMP=")

/-- The vendor that a text names, its case and the space around it aside. No character
outside ASCII is lowered to a letter of a vendor's name. -/
def normalizedVendor (vendor : JsString) : Option RuntimeCompositionVendor :=
  RuntimeCompositionVendor.all.find? fun known => known.name = lowerAscii (trim vendor)

def buildRuntimeCompositionSetCommand (vendor : JsString) (target : RuntimeCompositionMode) :
    Option JsString :=
  (normalizedVendor vendor).bind fun known => runtimeCompositionSetRegistry known target

/-! ### Replies -/

/-- The line that answers a vendor's READ command, its value captured. -/
def currentPattern : RuntimeCompositionVendor → Pattern
  | .fibocom => .all [.lineStart, .spaces, .literal (js "+GTUSBMODE:"), .spaces,
      .group .digits, .spaces, .lineEnd]
  | .quectel => .all [.lineStart, .spaces, .literal (js "+QCFG:"), .spaces,
      .literal (js "\"usbnet\""), .spaces, .literal (js ","), .spaces,
      .group .digits, .spaces, .lineEnd]
  | .simcom => .all [.lineStart, .spaces, .literal (js "+CUSBPIDSWITCH:"), .spaces,
      .group .hex4, .spaces, .lineEnd]
  | .sierra => .all [.lineStart, .spaces, .literal (js "!USBCOMP:"), .spaces,
      .group .digits, .optional (.all [.spaces, .literal (js ","), .anything]), .lineEnd]

/-- A captured value as the vendor's mode. -/
def capturedMode (vendor : RuntimeCompositionVendor) (captured : JsString) :
    RuntimeCompositionMode :=
  match vendor with
  | .simcom => .code (upperAscii captured)
  | _ => .number (.ofDigits captured)

def readRuntimeCompositionCurrent (vendor response : JsString) : Option RuntimeCompositionMode := do
  let known ← normalizedVendor vendor
  let groups ← (currentPattern known).exec response
  pure (capturedMode known (groups.headD []))

@[simp] theorem normalizedVendor_name (vendor : RuntimeCompositionVendor) :
    normalizedVendor vendor.name = some vendor := by
  cases vendor <;> decide

variable {target : RuntimeCompositionMode}

theorem decimalSetCommand_start {start command : JsString}
    (built : decimalSetCommand start target = some command) : start <+: command := by
  cases target with
  | number =>
    have same := (Option.ite_none_right_eq_some.mp built).2
    rw [← Option.some.inj same]
    exact List.prefix_append _ _
  | code => cases built

theorem simcomSetCommand_start {command : JsString}
    (built : simcomSetCommand target = some command) : js "AT+CUSBPIDSWITCH=" <+: command := by
  cases target with
  | number => cases built
  | code =>
    have same := (Option.ite_none_right_eq_some.mp built).2
    rw [← Option.some.inj same, List.append_assoc]
    exact List.prefix_append _ _

/-- A SET command is never the vendor's READ command. -/
theorem setCommand_ne_query {vendor : RuntimeCompositionVendor} {command : JsString}
    (built : buildRuntimeCompositionSetCommand vendor.name target = some command) :
    command ≠ (runtimeCompositionQueryRegistry vendor).current := by
  rw [buildRuntimeCompositionSetCommand, normalizedVendor_name, Option.bind_some] at built
  rintro rfl
  cases vendor with
  | fibocom | quectel => exact absurd (decimalSetCommand_start built) (by decide)
  | simcom => exact absurd (simcomSetCommand_start built) (by decide)
  | sierra => exact absurd (decimalSetCommand_start built) (by decide)

end ModemStack.UsbMode
