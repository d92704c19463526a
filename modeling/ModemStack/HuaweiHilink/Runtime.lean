import ModemStack.HuaweiHilink.Session

/-!
The surfaces of the HiLink provider.

Writes are chained and own the router session; everything else logs in when it runs. What an
observation is normalized to is left out: it is the replies themselves here.
-/

namespace ModemStack.HuaweiHilink

open ModemStack.Async ModemStack.Async.Program ModemStack.Domain ModemStack.Providers
open ModemStack.Text

/-! ### Operations -/

inductive CapabilityKind where
  | status
  | signal
  | mode
  | data
deriving DecidableEq

inductive WriteKind where
  | mode
  | data
deriving DecidableEq

def WriteKind.capability : WriteKind → CapabilityKind
  | .mode => .mode
  | .data => .data

/-- What is read and written: `mode` is the current mode, not the list of modes. -/
def CapabilityKind.path : CapabilityKind → JsString
  | .status => HILINK_PATHS.status
  | .signal => HILINK_PATHS.signal
  | .mode => HILINK_PATHS.mode
  | .data => HILINK_PATHS.data

def capabilityPath : CapabilityKind → JsString
  | .status => HILINK_PATHS.status
  | .signal => HILINK_PATHS.signal
  | .mode => HILINK_PATHS.modeList
  | .data => HILINK_PATHS.data

/-- `string | boolean` -/
inductive WriteValue where
  | text (value : JsString)
  | flag (value : Bool)
deriving DecidableEq

/-- `String(value)` -/
def WriteValue.string : WriteValue → JsString
  | .text value => value
  | .flag true => js "true"
  | .flag false => js "false"

/-- `Boolean(value)` -/
def WriteValue.boolean : WriteValue → Bool
  | .text value => value ≠ []
  | .flag value => value

/-- The value of an operation is the body of a reply. -/
abbrev HilinkResult : Type := OperationResult JsString

def applied (generation : DeviceGeneration) (body : JsString) : HilinkResult :=
  .applied body generation

def refused (generation : DeviceGeneration) (reason : JsString) : HilinkResult :=
  .refused reason generation

def requestSucceeded (status : Nat) (body : JsString) : Bool :=
  200 ≤ status && status < 300 && respondsOk body

def writeDocument (kind : WriteKind) (value : WriteValue) : JsString :=
  match kind with
  | .mode => js "<?xml version=\"1.0\" encoding=\"UTF-8\"?><request><NetworkMode>" ++
      value.string ++ js "</NetworkMode></request>"
  | .data => js "<?xml version=\"1.0\" encoding=\"UTF-8\"?><request><dataswitch>" ++
      (if value.boolean then js "1" else js "0") ++ js "</dataswitch></request>"

def readbackMatches (kind : WriteKind) (body : JsString) (value : WriteValue) : Bool :=
  match kind with
  | .mode => parseHilinkXmlValue body (js "NetworkMode") = some value.string
  | .data =>
    match parseHilinkDataCapability body with
    | .reported enabled => enabled = value.boolean
    | .unavailable _ => false

def capabilitySupported (kind : CapabilityKind) (body : JsString) : Bool :=
  match kind with
  | .mode =>
    match parseHilinkCapabilities body none with
    | .reported _ _ => true
    | .unavailable _ => false
  | .data =>
    match parseHilinkDataCapability body with
    | .reported _ => true
    | .unavailable _ => false
  | _ => (parseHilinkXmlValue body (js "code")).isNone && hasResponse body

/-- The mode is in the list of modes. -/
def modeOffered (body : JsString) (value : WriteValue) : Bool :=
  match parseHilinkCapabilities body none with
  | .reported modes _ => modes.any fun mode => mode.id = value.string
  | .unavailable _ => false

/-! ### The provider -/

inductive HilinkUse where
  | sessionProbe (request : ProviderMatchRequest)
  | authenticateProfile (request : ProviderMatchRequest) (candidates : List JsString)
  | observe (context : ProviderExecutionContext)
  | capability (kind : CapabilityKind) (context : ProviderExecutionContext)
  | read (kind : CapabilityKind) (profile : HilinkProfile) (context : ProviderExecutionContext)
  | write (kind : WriteKind) (profile : HilinkProfile) (context : ProviderExecutionContext)
      (value : WriteValue)

/-- An observation is made of the bodies of four replies. -/
inductive HilinkOutcome where
  | fingerprint (result : FingerprintResult)
  | profile (result : AuthenticatedProfileResult)
  | observation (input : Option (ObservationReads JsString))
  | capability (result : CapabilityResult)
  | operation (result : HilinkResult)

namespace HuaweiProvider

open HilinkSessionRuntime

variable {ε : Type} (self : HilinkOptions) (id : Nat)

def strong : ClaimedStrength := ⟨.strong, strong_ne_none⟩

def sessionProbe (request : ProviderMatchRequest) : HilinkTask ε FingerprintResult := do
  let profile := HILINK_PROFILES.find? fun candidate => some candidate.firmware = request.firmware
  let response ← HilinkSessionRuntime.request self id .get HILINK_PATHS.session none []
  let found := response.status = 200 && (parseHilinkSession response.body).isSome
  pure
    { signal := if found && profile.isSome then .match else .unknown
      strength := strong
      profiles := profile.toList.map HilinkProfile.id
      detail := if found then js "session-token-evidence" else js "session-token-not-proven" }

def authenticateProfile (request : ProviderMatchRequest) (candidates : List JsString) :
    HilinkTask ε AuthenticatedProfileResult := do
  let candidate := match candidates with
    | [candidate] => hilinkProfile candidate
    | _ => none
  match candidate with
  | none => pure (.refused (js "profile-mismatch"))
  | some candidate =>
    let result ← (authenticate self id request candidate true).call .settled
    match result with
    | .ready _ => pure (.matched candidate.id (js "login-ok"))
    | .refused reason =>
      pure (if reason = .unreachable then .unavailable reason.text else .refused reason.text)

def sessionFor (context : ProviderExecutionContext) : HilinkTask ε (Option HilinkSession) := do
  match ← cachedSession context.request with
  | some cached => pure (some cached)
  | none =>
    match hilinkProfile context.profile with
    | none => pure none
    | some profile =>
      let result ← (authenticate self id context.request profile true).call .settled
      match result with
      | .ready session => pure (some session)
      | .refused _ => pure none

/-- The four requests are sent before the first of them is answered. -/
def requestAll (session : HilinkSession) : HilinkTask ε (ObservationReads HilinkHttpResponse) := do
  let request := fun path =>
    httpRequest self .get path none [js "Cookie: " ++ session.cookie]
  let status := request HILINK_PATHS.status
  let signal := request HILINK_PATHS.signal
  let modeList := request HILINK_PATHS.modeList
  let mode := request HILINK_PATHS.mode
  modify (HilinkShared.send id status)
  modify (HilinkShared.send id signal)
  modify (HilinkShared.send id modeList)
  modify (HilinkShared.send id mode)
  perform (HilinkCall.requestAll ⟨status, signal, modeList, mode⟩)

def observe (context : ProviderExecutionContext) :
    HilinkTask ε (Option (ObservationReads JsString)) := do
  match ← (sessionFor self id context).call .settled with
  | none => pure none
  | some ready =>
    let replies ← requestAll self id ready
    pure (some ⟨replies.status.body, replies.signal.body, replies.modeList.body,
      replies.mode.body⟩)

def capability (kind : CapabilityKind) (context : ProviderExecutionContext) :
    HilinkTask ε CapabilityResult := do
  match ← (sessionFor self id context).call .settled with
  | none => pure ⟨.unknown, strong, js "session-unavailable"⟩
  | some session =>
    let response ← getResponse self id (capabilityPath kind) session
    let supported := capabilitySupported kind response.body && !authExpired response
    pure ⟨if supported then .match else .mismatch, strong,
      if supported then js "capability-reported" else js "capability-refused"⟩

def readOperation (kind : CapabilityKind) (profile : HilinkProfile)
    (context : ProviderExecutionContext) : HilinkTask ε HilinkResult := do
  let generation := context.request.generation
  let result ← (authenticate self id context.request profile false).call .settled
  match result with
  | .refused reason => pure (refused generation reason.text)
  | .ready session =>
    let response ← getResponse self id kind.path session
    if authExpired response then pure (refused generation (js "auth-expired"))
    else if response.status < 200 ∨ 300 ≤ response.status then
      pure (refused generation (js "http-failure"))
    else pure (applied generation response.body)

/-- The second session, in which the write is read back. -/
def readback (profile : HilinkProfile) (context : ProviderExecutionContext) (kind : WriteKind)
    (value : WriteValue) : HilinkTask ε HilinkResult := do
  let generation := context.request.generation
  let fresh ← (authenticate self id context.request profile false).call .settled
  match fresh with
  | .refused reason => pure (refused generation reason.text)
  | .ready session =>
    let readback ← getResponse self id kind.capability.path session
    if authExpired readback then pure (refused generation (js "auth-expired"))
    else if readbackMatches kind readback.body value then
      pure (applied generation readback.body)
    else pure (refused generation (js "not-applied"))

/-- What a write does while it owns the router session. -/
def writeOwned (profile : HilinkProfile) (context : ProviderExecutionContext) (kind : WriteKind)
    (value : WriteValue) : HilinkTask ε HilinkResult := do
  let generation := context.request.generation
  let ready ← (authenticate self id context.request profile false).call .settled
  match ready with
  | .refused reason => pure (refused generation reason.text)
  | .ready session =>
    let capability ← getResponse self id (capabilityPath kind.capability) session
    if authExpired capability then pure (refused generation (js "auth-expired"))
    else if !capabilitySupported kind.capability capability.body then
      pure (refused generation (js "capability-unavailable"))
    else if kind = .mode ∧ !modeOffered capability.body value then
      pure (refused generation (js "capability-unavailable"))
    else
      let posted ← postResponse self id kind.capability.path (writeDocument kind value) session
      if authExpired posted then pure (refused generation (js "auth-expired"))
      else if !requestSucceeded posted.status posted.body then
        pure (refused generation (js "http-failure"))
      else readback self id profile context kind value

def releaseLease (lease : Nat) : HilinkTask ε Unit := do
  modify (HilinkShared.released id lease)
  perform (HilinkCall.release lease)

def writeTransaction (profile : HilinkProfile) (context : ProviderExecutionContext)
    (kind : WriteKind) (value : WriteValue) : HilinkTask ε HilinkResult := do
  match ← perform HilinkCall.acquire with
  | .refused => pure (refused context.request.generation (js "busy"))
  | .acquired lease =>
    modify (HilinkShared.acquired id lease)
    (writeOwned self id profile context kind value).ensuring (releaseLease id lease)

def write (profile : HilinkProfile) (context : ProviderExecutionContext) (kind : WriteKind)
    (value : WriteValue) : HilinkTask ε HilinkResult :=
  withDevice id context.request (writeTransaction self id profile context kind value)

def body (id : Nat) : HilinkUse → HilinkTask ε HilinkOutcome
  | .sessionProbe request => do return .fingerprint (← sessionProbe self id request)
  | .authenticateProfile request candidates => do
      return .profile (← authenticateProfile self id request candidates)
  | .observe context => do return .observation (← observe self id context)
  | .capability kind context => do return .capability (← capability self id kind context)
  | .read kind profile context => do return .operation (← readOperation self id kind profile context)
  | .write kind profile context value => do
      return .operation (← write self id profile context kind value)

end HuaweiProvider

end ModemStack.HuaweiHilink
