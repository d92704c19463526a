import ModemStack.Backend.NmcliNmPort
import ModemStack.NetworkManager.Adapter
import ModemStack.Text.Pattern

/-!
What the nmcli adapter writes of a GSM profile, and what it reads back.

A whole profile is nine fields; a patch writes those it names, and the manual operator with the
roaming; the two Auto-APN transitions write the credentials and the mode at once.
-/

namespace ModemStack.Backend

open ModemStack.Data ModemStack.Ports ModemStack.Text
open ModemStack.NetworkManager (GsmProfile)

/-! ### Fields -/

inductive ProfileField where
  | connectionName
  | apn
  | username
  | password
  | passwordFlags
  | homeOnly
  | networkId
  | autoConfig
  | autoconnect
  | autoconnectRetries
deriving DecidableEq

def ProfileField.key : ProfileField → JsString
  | .connectionName => js "connection.id"
  | .apn => js "gsm.apn"
  | .username => js "gsm.username"
  | .password => js "gsm.password"
  | .passwordFlags => js "gsm.password-flags"
  | .homeOnly => js "gsm.home-only"
  | .networkId => js "gsm.network-id"
  | .autoConfig => js "gsm.auto-config"
  | .autoconnect => js "connection.autoconnect"
  | .autoconnectRetries => js "connection.autoconnect-retries"

/-- `READBACK_FIELDS`, by their keys. -/
def readbackFields : List ProfileField :=
  [.connectionName, .apn, .username, .password, .passwordFlags, .homeOnly, .networkId, .autoConfig,
    .autoconnect, .autoconnectRetries]

theorem mem_readbackFields (field : ProfileField) : field ∈ readbackFields := by
  cases field <;> decide

@[simp] theorem key_inj {field other : ProfileField} : field.key = other.key ↔ field = other := by
  have nodup : (readbackFields.map ProfileField.key).Nodup := by decide
  constructor
  · exact List.inj_on_of_nodup_map nodup (mem_readbackFields field) (mem_readbackFields other)
  · exact congrArg ProfileField.key

/-! ### Writes -/

/-- `value || ''` -/
def cliArg (value : Option JsString) : JsString := value.getD []

def passwordFlags (password : Option JsString) : JsString :=
  if cliArg password = [] then js "4" else js "0"

def yesNo (value : Bool) : JsString := if value then js "yes" else js "no"

def networkIdField (input : GsmProfileInput) : JsString :=
  if input.homeOnly then [] else cliArg input.networkId

def gsmFieldPairs (input : GsmProfileInput) : List (ProfileField × JsString) :=
  let auto := input.autoConfig
  [(.apn, if auto then [] else input.apn),
    (.username, if auto then [] else cliArg input.username),
    (.password, if auto then [] else cliArg input.password),
    (.passwordFlags, passwordFlags (if auto then none else input.password)),
    (.homeOnly, yesNo input.homeOnly),
    (.networkId, networkIdField input),
    (.autoConfig, yesNo auto),
    (.autoconnect, js "yes"),
    (.autoconnectRetries, js "2")]

def flattenPairs (pairs : List (ProfileField × JsString)) : List JsString :=
  pairs.flatMap fun pair => [pair.1.key, pair.2]

def createGsmArgs (input : GsmProfileInput) : List JsString :=
  [js "connection", js "add", js "type", js "gsm", js "con-name", input.connectionName] ++
    flattenPairs (gsmFieldPairs input)

/-- `if (value !== undefined) pairs.push(key, value)` -/
def pushed (field : ProfileField) (value : Option JsString) : List (ProfileField × JsString) :=
  value.toList.map fun value => (field, value)

/-- The manual operator moves with the roaming. -/
def roamingFields (patch : GsmProfilePatch) : List (ProfileField × JsString) :=
  match patch.homeOnly with
  | some homeOnly => [(.homeOnly, yesNo homeOnly),
      (.networkId, if homeOnly then [] else cliArg patch.networkId)]
  | none => pushed .networkId patch.networkId

/-- The pairs of `patchPairs`, before they are laid out. -/
def patchFields (patch : GsmProfilePatch) : List (ProfileField × JsString) :=
  pushed .connectionName patch.connectionName ++ pushed .apn patch.apn ++
    pushed .username patch.username ++ pushed .password patch.password ++
    pushed .passwordFlags (patch.password.map fun password => passwordFlags (some password)) ++
    pushed .autoConfig (patch.autoConfig.map yesNo) ++ roamingFields patch

def patchPairs (patch : GsmProfilePatch) : List JsString := flattenPairs (patchFields patch)

structure ManualApn where
  apn : JsString
  username : Option JsString
  password : Option JsString
deriving DecidableEq

def autoFields : List (ProfileField × JsString) :=
  [(.apn, []), (.username, []), (.password, []), (.passwordFlags, js "4"),
    (.autoConfig, js "yes")]

def manualFields (creds : ManualApn) : List (ProfileField × JsString) :=
  [(.apn, creds.apn), (.username, cliArg creds.username), (.password, cliArg creds.password),
    (.passwordFlags, passwordFlags creds.password), (.autoConfig, js "no")]

def modifyArgs (id : JsString) (pairs : List JsString) : List JsString :=
  [js "connection", js "modify", id] ++ pairs

def toAutoArgs (id : JsString) : List JsString := modifyArgs id (flattenPairs autoFields)

def toManualArgs (id : JsString) (creds : ManualApn) : List JsString :=
  modifyArgs id (flattenPairs (manualFields creds))

/-! ### Readback -/

/-- The lines `key:value`, split on the first colon. -/
def parseTerse (stdout : JsString) : OrderedMap JsString JsString :=
  (stdout.splitOn 0x0A).foldl (fun settings line =>
    let key := line.takeWhile fun c => c ≠ 0x3A
    if key.length < line.length then settings.set key (line.drop (key.length + 1)) else settings)
    .empty

def buildProfile (id : JsString) (settings : OrderedMap JsString JsString) : GsmProfile :=
  let value (field : ProfileField) : JsString := (settings.get field.key).getD []
  let nonEmpty (field : ProfileField) : Option JsString :=
    if value field = [] then none else some (value field)
  { connectionId := id
    connectionName := value .connectionName
    apn := value .apn
    homeOnly := value .homeOnly = js "yes"
    autoConfig := value .autoConfig = js "yes"
    username := nonEmpty .username
    password := nonEmpty .password
    networkId := nonEmpty .networkId }

/-- `/\(([^)]+)\) successfully added/` -/
def addedPattern : Pattern :=
  .all [.literal (js "("), .group (.run (fun c => c ≠ 0x29) 1 none),
    .literal (js ") successfully added")]

/-! ### Activation -/

structure AutoApnTransitionResult where
  receipt : PolicyReceipt
  /-- The one advisory, `autoApnUnavailable`. -/
  advisory : Bool
deriving DecidableEq

/-- `/gsm[_-]?apn[_-]?failed/i`, of text in lower case. -/
def apnFailed : Pattern :=
  let joint := Pattern.run (fun c => c = 0x5F || c = 0x2D) 0 (some 1)
  .all [.literal (js "gsm"), joint, .literal (js "apn"), joint, .literal (js "failed")]

def matchesLower (p : Pattern) (text : JsString) : Bool := (p.exec (lowerAscii text)).isSome

def classifyActivation (result : NmcliResult) (underAuto : Bool) : AutoApnTransitionResult :=
  if result.exitCode = 0 then ⟨⟨.connection, .applied, js "connection activated"⟩, false⟩
  else if result.exitCode = 3 || matchesLower (.literal (js "timeout")) result.stderr then
    ⟨⟨.connection, .pending, js "activation wait timed out; terminal state unknown"⟩, false⟩
  else if underAuto && (matchesLower apnFailed result.stderr ||
      matchesLower apnFailed result.stdout) then
    ⟨⟨.connection, .unsupported, js "Auto-APN found no operator match for this SIM"⟩, true⟩
  else
    ⟨⟨.connection, .failed, if result.stderr = [] then js "connection activation failed"
      else result.stderr⟩, false⟩

end ModemStack.Backend
