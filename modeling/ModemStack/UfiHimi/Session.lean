import ModemStack.Async.EventLoop
import ModemStack.Providers.Contracts
import ModemStack.Text.FlatRecord

/-!
Sessions of a Qualcomm UFI device, and the reads that are made in one.

A login is made once for each modem and generation, whatever comes of it. What the bodies are
normalized to is left out.
-/

namespace ModemStack.UfiHimi

open ModemStack.Async ModemStack.Async.Program ModemStack.Domain ModemStack.Providers
open ModemStack.Text

/-! ### Requests -/

inductive UfiReadCommand where
  | getoverview
  | getsysinfo
  | getallstatus
  | getapninfo
  | getnetworkmode
  | gethimiusbtether
  | getproduceinfo
deriving DecidableEq

inductive UfiCommand where
  | read (command : UfiReadCommand)
  | login
deriving DecidableEq

def UfiCommand.text : UfiCommand → JsString
  | .read .getoverview => js "getoverview"
  | .read .getsysinfo => js "getsysinfo"
  | .read .getallstatus => js "getallstatus"
  | .read .getapninfo => js "getapninfo"
  | .read .getnetworkmode => js "getnetworkmode"
  | .read .gethimiusbtether => js "gethimiusbtether"
  | .read .getproduceinfo => js "getproduceinfo"
  | .login => js "login"

def UFI_API_PATH : JsString := js "/himiapi/json"

def UFI_PROFILE : JsString := js "ufi-himi-read-only"

def UFI_SESSION_REFUSAL : JsString := js "SessionOut"

def UFI_MATCHED_USB_IDS : List JsString := [js "05c6:9024", js "05c6:9091"]

structure UfiHttpRequest where
  url : JsString
  command : UfiCommand
  body : JsString
  headers : List JsString
  interfaceName : JsString

structure UfiHttpResponse where
  status : Nat
  body : JsString

structure UfiReply where
  reply : JsString
  session : Option JsString
  params : Option FlatRecord

/-- A member that may be missing, but not be something else. -/
def optionalMember {α : Type} (members : List (JsString × Json JsNumber)) (key : JsString)
    (read : Json JsNumber → Option α) : Option (Option α) :=
  match member members key with
  | none => some none
  | some value => (read value).map some

def stringOf : Json JsNumber → Option JsString
  | .string value => some value
  | _ => none

def parseUfiReply (body : JsString) : Option UfiReply :=
  match parse body with
  | some (.object members) => do
      let reply ← (member members (js "reply")).bind stringOf
      let session ← optionalMember members (js "session") stringOf
      let params ← optionalMember members (js "params") flatRecord
      some ⟨reply, session, params⟩
  | _ => none

structure UfiCredentials where
  username : JsString
  password : JsString

structure UfiOptions where
  interfaceName : JsString
  adminUrl : JsString
  credentials : UfiCredentials

inductive UfiCall where
  | request (request : UfiHttpRequest)
  | settled

@[reducible] def UfiCall.Answer : UfiCall → Type
  | .request _ => UfiHttpResponse
  | .settled => Unit

def sessionKey (request : ProviderMatchRequest) : JsString :=
  request.physicalModemId.text ++ js ":" ++ printNat request.generation

/-- A modem in a generation. -/
abbrev Lifetime : Type := PhysicalModemId × DeviceGeneration

def lifetimeOf (request : ProviderMatchRequest) : Lifetime :=
  (request.physicalModemId, request.generation)

/-- The sessions and the keys that are spent; and for whom logins were sent, newest first. -/
structure UfiShared where
  sessions : JsString → Option JsString
  spent : JsString → Bool
  logins : List Lifetime

abbrev UfiTask (ε α : Type) : Type := Program UfiShared UfiCall UfiCall.Answer ε α

namespace UfiShared

def new : UfiShared := ⟨fun _ => none, fun _ => false, []⟩

def spend (key : JsString) (s : UfiShared) : UfiShared :=
  { s with spent := Function.update s.spent key true }

def logIn (lifetime : Lifetime) (s : UfiShared) : UfiShared :=
  { s with logins := lifetime :: s.logins }

def hold (key session : JsString) (s : UfiShared) : UfiShared :=
  { s with sessions := Function.update s.sessions key (some session) }

def forget (key : JsString) (s : UfiShared) : UfiShared :=
  { s with sessions := Function.update s.sessions key none }

end UfiShared

namespace UfiSessionRuntime

variable {ε : Type} (self : UfiOptions)

def httpRequest (command : UfiCommand) (fields : List (JsString × JsString))
    (session : Option JsString) : UfiHttpRequest where
  url := self.adminUrl ++ UFI_API_PATH
  command
  body := stringify printNat (.object (fields.map fun field => (field.1, .string field.2)))
  headers := session.toList.map (js "Authorization: " ++ ·) ++
    [js "Content-Type: application/json;charset=UTF-8"]
  interfaceName := self.interfaceName

def session (request : ProviderMatchRequest) : UfiTask ε (Option JsString) := do
  let key := sessionKey request
  let s ← get
  match s.sessions key with
  | some held => pure (some held)
  | none =>
    if s.spent key then pure none
    else
      modify (UfiShared.spend key)
      modify (UfiShared.logIn (lifetimeOf request))
      let response ← perform (UfiCall.request (httpRequest self .login
        [(js "cmdid", js "login"), (js "username", self.credentials.username),
          (js "password", self.credentials.password)] none))
      let reply := if response.status = 200 then parseUfiReply response.body else none
      let session := (reply.filter fun reply => reply.reply = js "ok").bind UfiReply.session
      match session.filter (· ≠ []) with
      | none => pure none
      | some session =>
        modify (UfiShared.hold key session)
        pure (some session)

def read (command : UfiReadCommand) (session : JsString) : UfiTask ε UfiHttpResponse :=
  perform (UfiCall.request (httpRequest self (.read command)
    [(js "cmdid", (UfiCommand.read command).text), (js "sessionId", session)] (some session)))

def forgetSession (request : ProviderMatchRequest) : UfiTask ε Unit :=
  modify (UfiShared.forget (sessionKey request))

end UfiSessionRuntime

/-! ### The provider -/

/-- The bodies of one read cycle, by their commands. -/
abbrev UfiBodies : Type := List (UfiReadCommand × JsString)

def bodyOf (bodies : Option UfiBodies) (command : UfiReadCommand) : JsString :=
  ((bodies.getD []).find? fun entry => entry.1 = command).elim [] Prod.snd

/-- The reply is positive and brings parameters. -/
def answersOk (body : JsString) : Bool :=
  (parseUfiReply body).any fun reply => reply.reply = js "ok" && reply.params.isSome

inductive UfiUse where
  | fingerprint (request : ProviderMatchRequest)
  | capability (context : ProviderExecutionContext)
  | observe (context : ProviderExecutionContext)
  | readSignal (context : ProviderExecutionContext)
  | readDetails (context : ProviderExecutionContext)

inductive UfiOutcome where
  | fingerprint (result : FingerprintResult)
  | capability (result : CapabilityResult)
  | bodies (bodies : Option UfiBodies)

namespace UfiHimiProvider

open UfiSessionRuntime

variable {ε : Type} (self : UfiOptions)

def strong : ClaimedStrength := ⟨.strong, strong_ne_none⟩

/-- The reads are sent one after the other. -/
def readAll (session : JsString) : List UfiReadCommand → UfiTask ε UfiBodies
  | [] => pure []
  | command :: rest => do
      let response ← read self command session
      let bodies ← readAll session rest
      pure ((command, if response.status = 200 then response.body else []) :: bodies)

def fetch (request : ProviderMatchRequest) (commands : List UfiReadCommand) :
    UfiTask ε (Option UfiBodies) := do
  match ← (session self request).call .settled with
  | none => pure none
  | some session =>
    let bodies ← readAll self session commands
    let refused := bodies.any fun entry =>
      (parseUfiReply entry.2).any fun reply => reply.reply = UFI_SESSION_REFUSAL
    if refused then
      forgetSession request
      pure (some bodies)
    else pure (some bodies)

def usbEvidencePermitsProbe (request : ProviderMatchRequest) : Bool :=
  let enumerated := request.passiveFacts.filter fun fact => fact.kind = .usb
  enumerated.isEmpty || enumerated.any fun fact => fact.value ∈ UFI_MATCHED_USB_IDS

def fingerprint (request : ProviderMatchRequest) : UfiTask ε FingerprintResult := do
  if !usbEvidencePermitsProbe request then
    pure ⟨.unknown, strong, [], js "usb-id-is-not-himi"⟩
  else
    let bodies ← (fetch self request [.getallstatus]).call .settled
    let matched := answersOk (bodyOf bodies .getallstatus)
    pure ⟨if matched then .match else .unknown, strong, if matched then [UFI_PROFILE] else [],
      if matched then js "himi-json-shape" else js "himi-json-not-proven"⟩

def capability (context : ProviderExecutionContext) : UfiTask ε CapabilityResult := do
  let bodies ← (fetch self context.request [.getsysinfo]).call .settled
  let supported := answersOk (bodyOf bodies .getsysinfo)
  pure ⟨if supported then .match else .mismatch, strong,
    if supported then js "telemetry-reported" else js "telemetry-refused"⟩

def observe (context : ProviderExecutionContext) : UfiTask ε (Option UfiBodies) :=
  (fetch self context.request
    [.getsysinfo, .getoverview, .getallstatus, .getproduceinfo]).call .settled

def readSignal (context : ProviderExecutionContext) : UfiTask ε (Option UfiBodies) :=
  (fetch self context.request [.getsysinfo, .getoverview, .getallstatus]).call .settled

def readDetails (context : ProviderExecutionContext) : UfiTask ε (Option UfiBodies) :=
  (fetch self context.request [.getoverview, .getsysinfo, .getproduceinfo]).call .settled

def body (_ : Nat) : UfiUse → UfiTask ε UfiOutcome
  | .fingerprint request => do return .fingerprint (← fingerprint self request)
  | .capability context => do return .capability (← capability self context)
  | .observe context => do return .bodies (← observe self context)
  | .readSignal context => do return .bodies (← readSignal self context)
  | .readDetails context => do return .bodies (← readDetails self context)

/-- What any calls and answers lead to from the start. -/
def run (turns : List (Turn UfiUse UfiCall UfiCall.Answer ε)) :
    EventLoop UfiShared UfiUse UfiCall UfiCall.Answer ε UfiOutcome :=
  EventLoop.run (body self) ⟨.new, []⟩ turns

end UfiHimiProvider

end ModemStack.UfiHimi
