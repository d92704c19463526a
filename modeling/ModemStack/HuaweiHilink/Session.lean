import ModemStack.Async.EventLoop
import ModemStack.Async.SerialQueue
import ModemStack.HuaweiHilink.Protocol
import ModemStack.Providers.Contracts
import ModemStack.Text.Base64
import ModemStack.Text.Json

/-!
Sessions of a HiLink device: how requests are sent, how a login is made and how the writes to one
device are chained.

The digest is a parameter: nothing is done with it but to send it.
-/

namespace ModemStack.HuaweiHilink

open ModemStack.Async ModemStack.Async.Program ModemStack.Domain ModemStack.Providers
open ModemStack.Text

/-! ### Paths and profiles -/

namespace HILINK_PATHS

def session : JsString := js "/api/webserver/SesTokInfo"
def loginState : JsString := js "/api/user/state-login"
def login : JsString := js "/api/user/login"
def status : JsString := js "/api/monitoring/status"
def signal : JsString := js "/api/device/signal"
def modeList : JsString := js "/api/net/net-mode-list"
def mode : JsString := js "/api/net/net-mode"
def data : JsString := js "/api/dialup/mobile-dataswitch"

end HILINK_PATHS

structure HilinkProfile where
  id : JsString
  firmware : JsString
  passwordType : PasswordType
deriving DecidableEq

def HILINK_PROFILES : List HilinkProfile :=
  [⟨js "e3372h-22.200-password-type-3", js "22.200.05.00.1080", .three⟩,
    ⟨js "e3372h-22.333-password-type-4", js "22.333.01.00.00", .four⟩]

def hilinkProfile (profileId : JsString) : Option HilinkProfile :=
  HILINK_PROFILES.find? fun profile => profile.id = profileId

structure HilinkCredentials where
  username : JsString
  password : JsString

structure HilinkOptions where
  interfaceName : JsString
  adminUrl : JsString
  credentials : HilinkCredentials
  /-- SHA-256, in hexadecimal digits. -/
  sha256 : JsString → JsString

/-! ### Requests -/

inductive HttpMethod where
  | get
  | post
deriving DecidableEq

structure HilinkHttpRequest where
  method : HttpMethod
  url : JsString
  body : Option JsString
  headers : List JsString
  interfaceName : JsString
deriving DecidableEq

/-- Header names are ASCII. -/
structure HilinkHttpResponse where
  status : Nat
  body : JsString
  headers : List (JsString × JsString)

structure ObservationReads (α : Type) where
  status : α
  signal : α
  modeList : α
  mode : α

inductive OwnershipResult where
  | acquired (lease : Nat)
  | refused

/-- What is awaited: replies, the ownership of the router session, the writes before, and functions
of the provider itself. -/
inductive HilinkCall where
  | request (request : HilinkHttpRequest)
  | requestAll (requests : ObservationReads HilinkHttpRequest)
  | acquire
  | release (lease : Nat)
  | prior
  | settled

@[reducible] def HilinkCall.Answer : HilinkCall → Type
  | .request _ => HilinkHttpResponse
  | .requestAll _ => ObservationReads HilinkHttpResponse
  | .acquire => OwnershipResult
  | _ => Unit

/-- A request, by the task that sent it. -/
structure Sent where
  task : Nat
  request : HilinkHttpRequest

/-- What a task does with the ownership. -/
inductive LeaseEvent where
  | acquired (task lease : Nat)
  | released (task lease : Nat)
deriving DecidableEq

def LeaseEvent.task : LeaseEvent → Nat
  | .acquired task _ | .released task _ => task

/-- The sessions and the chains of writes; and all requests and what was done with the ownership,
newest first. -/
structure HilinkShared where
  authenticated : JsString → Option HilinkSession
  serial : SerialQueue JsString
  sent : List Sent
  leases : List LeaseEvent

abbrev HilinkTask (ε α : Type) : Type := Program HilinkShared HilinkCall HilinkCall.Answer ε α

namespace HilinkShared

def new : HilinkShared := ⟨fun _ => none, .empty, [], []⟩

def send (task : Nat) (request : HilinkHttpRequest) (s : HilinkShared) : HilinkShared :=
  { s with sent := ⟨task, request⟩ :: s.sent }

def cache (key : JsString) (session : HilinkSession) (s : HilinkShared) : HilinkShared :=
  { s with authenticated := Function.update s.authenticated key (some session) }

def enqueue (task : Nat) (key : JsString) (s : HilinkShared) : HilinkShared :=
  { s with serial := s.serial.enqueue task key }

def start (task : Nat) (s : HilinkShared) : HilinkShared :=
  { s with serial := s.serial.setPhase task .running }

/-- `release()`, and the chain is dropped if nothing was chained behind it. -/
def finish (task : Nat) (key : JsString) (s : HilinkShared) : HilinkShared :=
  let serial := s.serial.setPhase task .settled
  { s with serial := if serial.tails key = some task then serial.drop key else serial }

def acquired (task lease : Nat) (s : HilinkShared) : HilinkShared :=
  { s with leases := .acquired task lease :: s.leases }

def released (task lease : Nat) (s : HilinkShared) : HilinkShared :=
  { s with leases := .released task lease :: s.leases }

end HilinkShared

inductive HilinkSessionFailure where
  | authExpired
  | httpFailure
  | malformed
  | profileMismatch
  | unreachable
deriving DecidableEq

def HilinkSessionFailure.text : HilinkSessionFailure → JsString
  | .authExpired => js "auth-expired"
  | .httpFailure => js "http-failure"
  | .malformed => js "malformed"
  | .profileMismatch => js "profile-mismatch"
  | .unreachable => js "unreachable"

inductive HilinkSessionResult where
  | ready (session : HilinkSession)
  | refused (reason : HilinkSessionFailure)

def escapeXml (value : JsString) : JsString :=
  value.flatMap fun c =>
    if c = 0x26 then js "&amp;"
    else if c = 0x3C then js "&lt;"
    else if c = 0x3E then js "&gt;"
    else if c = 0x22 then js "&quot;"
    else if c = 0x27 then js "&apos;"
    else [c]

def responseHeader (response : HilinkHttpResponse) (name : JsString) : Option JsString :=
  (response.headers.find? fun header => lowerAscii header.1 = name).map Prod.snd

/-- The text before the first delimiter. -/
def before (delimiter : UInt16) (text : JsString) : JsString := text.takeWhile (· ≠ delimiter)

def loggedInSession (response : HilinkHttpResponse) (fallback : HilinkSession) : HilinkSession :=
  let cookie := (responseHeader response (js "set-cookie")).map fun header =>
    trim (before 0x3B header)
  let tokenHeader := (responseHeader response (js "__requestverificationtoken")).or
    (responseHeader response (js "__requestverificationtokenone"))
  let token := tokenHeader.map fun header => trim (before 0x23 header)
  ⟨cookie.getD fallback.cookie, token.getD fallback.token⟩

def authExpired (response : HilinkHttpResponse) : Bool :=
  response.status = 401 || response.status = 403 ||
    parseHilinkXmlValue response.body (js "code") = some (js "125002")

def sessionKey (context : ProviderMatchRequest) : JsString :=
  context.physicalModemId.text ++ js ":" ++ printNat context.generation

namespace HilinkSessionRuntime

variable {ε α : Type} (self : HilinkOptions) (id : Nat)

def derivePassword (profile : HilinkProfile) (username password token : JsString) : JsString :=
  if profile.passwordType = .three then base64 password
  else base64 (self.sha256 (username ++ base64 (self.sha256 password) ++ token))

def loginDocument (profile : HilinkProfile) (username password token : JsString) : JsString :=
  js "<?xml version=\"1.0\" encoding=\"UTF-8\"?><request><Username>" ++ escapeXml username ++
    js "</Username><Password>" ++ derivePassword self profile username password token ++
    js "</Password><password_type>" ++ profile.passwordType.text ++
    js "</password_type></request>"

def httpRequest (method : HttpMethod) (path : JsString) (body : Option JsString)
    (headers : List JsString) : HilinkHttpRequest :=
  ⟨method, self.adminUrl ++ path, body, headers, self.interfaceName⟩

def request (method : HttpMethod) (path : JsString) (body : Option JsString)
    (headers : List JsString) : HilinkTask ε HilinkHttpResponse := do
  let request := httpRequest self method path body headers
  modify (HilinkShared.send id request)
  perform (HilinkCall.request request)

def getResponse (path : JsString) (session : HilinkSession) : HilinkTask ε HilinkHttpResponse :=
  request self id .get path none [js "Cookie: " ++ session.cookie]

def postResponse (path body : JsString) (session : HilinkSession) :
    HilinkTask ε HilinkHttpResponse :=
  request self id .post path (some body)
    [js "Cookie: " ++ session.cookie, js "__RequestVerificationToken: " ++ session.token,
      js "Content-Type: application/xml"]

def authenticate (context : ProviderMatchRequest) (profile : HilinkProfile) (cache : Bool) :
    HilinkTask ε HilinkSessionResult := do
  let sessionResponse ← request self id .get HILINK_PATHS.session none []
  if sessionResponse.status = 401 ∨ sessionResponse.status = 403 then
    pure (.refused .authExpired)
  else if sessionResponse.status ≠ 200 then pure (.refused .unreachable)
  else
    match parseHilinkSession sessionResponse.body with
    | none => pure (.refused .malformed)
    | some initial =>
      let stateResponse ← getResponse self id HILINK_PATHS.loginState initial
      if authExpired stateResponse then pure (.refused .authExpired)
      else
        match parseHilinkUserState stateResponse.body with
        | none => pure (.refused .malformed)
        | some state =>
          if state.passwordType ≠ profile.passwordType then pure (.refused .profileMismatch)
          else
            let login ← postResponse self id HILINK_PATHS.login
              (loginDocument self profile self.credentials.username
                self.credentials.password initial.token) initial
            if authExpired login then pure (.refused .authExpired)
            else if login.status ≠ 200 ∨ !respondsOk login.body then
              pure (.refused .httpFailure)
            else
              let session := loggedInSession login initial
              if cache then modify (HilinkShared.cache (sessionKey context) session)
              pure (.ready session)

/-- Run after the functions that were given for the same modem before, whether they succeed. -/
def withDevice (context : ProviderMatchRequest) (run : HilinkTask ε α) : HilinkTask ε α := do
  let key := context.physicalModemId.text
  modify (HilinkShared.enqueue id key)
  yield .prior
  modify (HilinkShared.start id)
  (run.call .settled).ensuring (modify (HilinkShared.finish id key))

def cachedSession (context : ProviderMatchRequest) : HilinkTask ε (Option HilinkSession) := do
  pure ((← get).authenticated (sessionKey context))

end HilinkSessionRuntime

end ModemStack.HuaweiHilink
