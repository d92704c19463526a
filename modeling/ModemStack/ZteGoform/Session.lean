import ModemStack.Async.EventLoop
import ModemStack.Providers.Contracts
import ModemStack.Text.Base64
import ModemStack.Text.FlatRecord
import ModemStack.Text.NumericString

/-!
Sessions of a ZTE goform device, and the evidence that a login is decided on.

The evidence is cached when it is read and kept for the generation, also when a login has failed
since. Beside what the runtime holds stands what it does not know: the counter of the device and
which logins were sent on which evidence.
-/

namespace ModemStack.ZteGoform

open ModemStack.Async ModemStack.Async.Program ModemStack.Domain ModemStack.Providers
open ModemStack.Text

/-! ### Profiles -/

inductive ZteAlgorithm where
  | legacyBase64
  | loginSaltedSha256
  | multiUserSaltedSha256
deriving DecidableEq

structure ZteProfile where
  id : JsString
  firmware : JsString
  algorithm : ZteAlgorithm
deriving DecidableEq

def ZTE_PROFILES : List ZteProfile :=
  [⟨js "mf79u-legacy", js "MF79U", .legacyBase64⟩,
    ⟨js "mf79u-ld-salted", js "MF79U", .loginSaltedSha256⟩,
    ⟨js "mf266-salted", js "MF266", .multiUserSaltedSha256⟩]

def ZTE_UNKNOWN_PROFILE : JsString := js "zte-unknown-read-only"

def zteProfilesForFirmware (firmware : Option JsString) : List ZteProfile :=
  ZTE_PROFILES.filter fun profile => some profile.firmware = firmware

def zteProfileById (profileId : JsString) : Option ZteProfile :=
  ZTE_PROFILES.find? fun profile => profile.id = profileId

/-! ### Records -/

abbrev ZteRecord : Type := FlatRecord

def parseZteRecord (body : JsString) : Option ZteRecord := (parse body).bind flatRecord

/-- A natural number, written as a number or a string. -/
def evidenceNumber : Option RecordValue → Option Nat
  | some (.string value) => if trim value = [] then none else (numberOf value).bind natural
  | some (.number value) => natural value
  | none => none
where
  natural : JsNumber → Option Nat
    | .integer value => if 0 ≤ value then some value.toNat else none
    | _ => none

def upperAscii (text : JsString) : JsString :=
  text.map fun c => if 0x61 ≤ c.toNat ∧ c.toNat ≤ 0x7A then UInt16.ofNat (c.toNat - 0x20) else c

/-- The text of a number names no family. -/
def versionText : Option RecordValue → JsString
  | some (.string value) => upperAscii value
  | _ => []

def includesText (text part : JsString) : Bool := text.tails.any fun rest => part.isPrefixOf rest

def profileFromEvidence (firmware : Option JsString) (record : ZteRecord) : Option ZteProfile :=
  let versionEvidence := versionText (record (js "wa_inner_version")) ++ js " " ++
    versionText (record (js "cr_version"))
  let family := if includesText versionEvidence (js "MF266") then some (js "MF266")
    else if includesText versionEvidence (js "MF79U") then some (js "MF79U")
    else firmware
  let hasLd := match record (js "LD") with
    | some (.string ld) => !ld.isEmpty
    | _ => false
  let profileId := if family = some (js "MF266") then
      if hasLd then some (js "mf266-salted") else none
    else if family = some (js "MF79U") then
      some (if hasLd then js "mf79u-ld-salted" else js "mf79u-legacy")
    else none
  (zteProfilesForFirmware family).find? fun profile => some profile.id = profileId

/-! ### The device -/

/-- The attempts that remain, and how long the device stays locked. -/
structure ZteDevice where
  remaining : Nat
  lockTime : Nat
deriving DecidableEq

def ZteDevice.Locked (device : ZteDevice) : Prop := device.remaining = 0 ∨ 0 < device.lockTime

instance (device : ZteDevice) : Decidable device.Locked := inferInstanceAs (Decidable (_ ∨ _))

/-- What may become of a device that rejects no login: it gives attempts back, and its lock runs
out. -/
def ZteDevice.Relaxes (next device : ZteDevice) : Prop :=
  device.remaining ≤ next.remaining ∧ next.lockTime ≤ device.lockTime

instance (next device : ZteDevice) : Decidable (next.Relaxes device) :=
  inferInstanceAs (Decidable (_ ∧ _))

/-- Evidence; after how many logins it was asked for, if these had all been answered by then, and
what the device reported. -/
structure ZteEvidence where
  record : ZteRecord
  profile : Option ZteProfile
  readAt : Option Nat
  reported : Option ZteDevice

def ZteEvidence.remainingAttempts (evidence : ZteEvidence) : Option Nat :=
  evidenceNumber (evidence.record (js "psw_fail_num_str"))

def ZteEvidence.lockTime (evidence : ZteEvidence) : Option Nat :=
  evidenceNumber (evidence.record (js "login_lock_time"))

structure ZteSession where
  cookie : JsString
  ad : Option JsString

/-! ### Requests -/

inductive HttpMethod where
  | get
  | post
deriving DecidableEq

structure ZteHttpRequest where
  method : HttpMethod
  url : JsString
  body : Option JsString
  headers : List JsString
  interfaceName : JsString
deriving DecidableEq

/-- Header names are ASCII. -/
structure ZteHttpResponse where
  status : Nat
  body : JsString
  headers : List (JsString × JsString)

/-- What is awaited: replies, to a read of the evidence, a login or another read, and the read of the
evidence itself. -/
inductive ZteCall where
  | evidence (request : ZteHttpRequest)
  | login (request : ZteHttpRequest)
  | read (request : ZteHttpRequest)
  | returned (evidence : Option ZteEvidence)

@[reducible] def ZteCall.Answer : ZteCall → Type
  | .evidence _ | .login _ | .read _ => ZteHttpResponse
  | _ => Unit

/-- A read of the evidence that was sent: after how many logins, if these had all been answered, and
what the device has reported. -/
structure Ask where
  readAt : Option Nat
  reported : Option ZteDevice

/-- A login that was sent: on which evidence, after how many others, and to which device. -/
structure LoginSent where
  evidence : ZteEvidence
  before : Nat
  device : ZteDevice

/-- What the runtime holds; and the device, the reads and the logins, newest first. -/
structure ZteShared where
  sessions : JsString → Option ZteSession
  evidence : JsString → Option ZteEvidence
  device : ZteDevice
  asks : Nat → Ask
  known : List ZteEvidence
  unanswered : List Nat
  logins : List LoginSent

abbrev ZteTask (ε α : Type) : Type := Program ZteShared ZteCall ZteCall.Answer ε α

namespace ZteShared

def new (device : ZteDevice) : ZteShared :=
  ⟨fun _ => none, fun _ => none, device, fun _ => ⟨none, none⟩, [], [], []⟩

def ask (task : Nat) (s : ZteShared) : ZteShared :=
  let readAt := if s.unanswered = [] then some s.logins.length else none
  { s with asks := Function.update s.asks task ⟨readAt, none⟩ }

/-- The device answers the read of a task. -/
def report (task : Nat) (s : ZteShared) : ZteShared :=
  { s with asks := Function.update s.asks task ⟨(s.asks task).readAt, some s.device⟩ }

def learn (key : JsString) (evidence : ZteEvidence) (s : ZteShared) : ZteShared :=
  { s with
    evidence := Function.update s.evidence key (some evidence)
    known := evidence :: s.known }

def send (task : Nat) (evidence : ZteEvidence) (s : ZteShared) : ZteShared :=
  { s with
    unanswered := task :: s.unanswered
    logins := ⟨evidence, s.logins.length, s.device⟩ :: s.logins }

def answer (task : Nat) (s : ZteShared) : ZteShared :=
  { s with unanswered := s.unanswered.filter (· ≠ task) }

def logIn (key : JsString) (session : ZteSession) (s : ZteShared) : ZteShared :=
  { s with sessions := Function.update s.sessions key (some session) }

end ZteShared

structure ZteCredentials where
  username : JsString
  password : JsString

structure ZteOptions where
  interfaceName : JsString
  adminUrl : JsString
  credentials : ZteCredentials
  /-- SHA-256, in hexadecimal digits. -/
  sha256 : JsString → JsString

namespace ZTE_PATHS

def get : JsString := js "/goform/goform_get_cmd_process"
def set : JsString := js "/goform/goform_set_cmd_process"

end ZTE_PATHS

def ZTE_EVIDENCE_CMD : JsString :=
  js "LD,psw_fail_num_str,login_lock_time,wa_inner_version,cr_version"

def formHexDigit (n : Nat) : UInt16 := UInt16.ofNat (if n < 10 then 0x30 + n else 0x37 + n)

/-- A byte in an `application/x-www-form-urlencoded` text. -/
def formByte (b : UInt8) : JsString :=
  let n := b.toNat
  if n = 0x20 then js "+"
  else if (0x30 ≤ n ∧ n ≤ 0x39) ∨ (0x41 ≤ n ∧ n ≤ 0x5A) ∨ (0x61 ≤ n ∧ n ≤ 0x7A) ∨ n = 0x2A ∨
      n = 0x2D ∨ n = 0x2E ∨ n = 0x5F then [UInt16.ofNat n]
  else [0x25, formHexDigit (n / 16), formHexDigit (n % 16)]

def formEncode (text : JsString) : JsString := (encodeUtf8 text).flatMap formByte

/-- `new URLSearchParams(fields).toString()` -/
def searchParams (fields : List (JsString × JsString)) : JsString :=
  (js "&").intercalate (fields.map fun field => formEncode field.1 ++ js "=" ++ formEncode field.2)

def stokCookie (response : ZteHttpResponse) : Option JsString :=
  (response.headers.find? fun header => lowerAscii header.1 = js "set-cookie").bind fun header =>
    let cookie := trim (header.2.takeWhile (· ≠ 0x3B))
    if (js "stok=").isPrefixOf cookie then some cookie else none

inductive ZteLoginResult where
  | accepted (cookie : JsString)
  | refused (detail : JsString)

def classifyLogin (response : ZteHttpResponse) : ZteLoginResult :=
  let result := (parseZteRecord response.body).bind fun record => record (js "result")
  if response.status ≠ 200 ∨ result = some (.string (js "1")) then
    .refused (js "protocol-mismatch")
  else if result = some (.string (js "3")) then .refused (js "auth-rejection")
  else
    match stokCookie response with
    | some cookie =>
      if result = some (.string (js "0")) then .accepted cookie
      else .refused (js "protocol-mismatch")
    | none => .refused (js "protocol-mismatch")

/-- What is to be done on the evidence: nothing, or a login of a kind. -/
inductive LoginPlan where
  | refuse (detail : JsString)
  | legacy
  | salted (ld : JsString)
  | multiUser (ld : JsString)

def LoginPlan.sends : LoginPlan → Bool
  | .refuse _ => false
  | _ => true

/-- What `authenticateProfile` checks before it logs in. -/
def loginPlan (evidence : ZteEvidence) (profile : ZteProfile) : LoginPlan :=
  match evidence.remainingAttempts, evidence.lockTime with
  | some remainingAttempts, some lockTime =>
    if 0 < lockTime ∨ remainingAttempts = 0 then .refuse (js "lockout")
    else if evidence.profile.map ZteProfile.id ≠ some profile.id then
      .refuse (js "protocol-mismatch")
    else
      match profile.algorithm, evidence.record (js "LD") with
      | .legacyBase64, _ => .legacy
      | .loginSaltedSha256, some (.string ld) => .salted ld
      | .multiUserSaltedSha256, some (.string ld) => .multiUser ld
      | _, _ => .refuse (js "protocol-mismatch")
  | _, _ => .refuse (js "protocol-mismatch")

def sessionKey (request : ProviderMatchRequest) : JsString :=
  request.physicalModemId.text ++ js ":" ++ printNat request.generation

namespace ZteSessionRuntime

variable {ε : Type} (self : ZteOptions) (id : Nat)

def sha256 (value : JsString) : JsString := upperAscii (self.sha256 value)

def request (method : HttpMethod) (path : JsString) (body cookie : Option JsString) :
    ZteHttpRequest :=
  let form := if method = .post then
    [js "Content-Type: application/x-www-form-urlencoded; charset=UTF-8"] else []
  { method
    url := self.adminUrl ++ path
    body
    headers := form ++ cookie.toList.map (js "Cookie: " ++ ·) ++
      [js "Origin: " ++ self.adminUrl, js "Referer: " ++ self.adminUrl ++ js "/index.html"]
    interfaceName := self.interfaceName }

def getRequest (cmd : JsString) (cookie : Option JsString) (multiData : Bool) : ZteHttpRequest :=
  let query := [(js "isTest", js "false"), (js "cmd", cmd)] ++
    if multiData then [(js "multi_data", js "1")] else []
  request self .get (ZTE_PATHS.get ++ js "?" ++ searchParams query) none cookie

/-- Read the evidence and cache it. -/
def probeEvidence (request : ProviderMatchRequest) : ZteTask ε (Option ZteEvidence) := do
  modify (ZteShared.ask id)
  let response ← perform (ZteCall.evidence (getRequest self ZTE_EVIDENCE_CMD none true))
  let asked := (← get).asks id
  let record := if response.status = 200 then parseZteRecord response.body else none
  match record with
  | none => pure none
  | some record =>
    let evidence : ZteEvidence :=
      ⟨record, profileFromEvidence request.firmware record, asked.readAt, asked.reported⟩
    modify (ZteShared.learn (sessionKey request) evidence)
    pure (some evidence)

/-- `await this.probeEvidence(request)` -/
def probed (request : ProviderMatchRequest) : ZteTask ε (Option ZteEvidence) :=
  (probeEvidence self id request).attempt.bind fun outcome =>
    .await (.returned (outcome.toOption.bind fun evidence => evidence)) fun _ => ofExcept outcome

def post (evidence : ZteEvidence) (fields : List (JsString × JsString)) :
    ZteTask ε ZteHttpResponse := do
  modify (ZteShared.send id evidence)
  let outcome ← settle
    (ZteCall.login (request self .post ZTE_PATHS.set (some (searchParams fields)) none))
  modify (ZteShared.answer id)
  ofExcept outcome

def login (request : ProviderMatchRequest) (profile : ZteProfile) (evidence : ZteEvidence)
    (password : JsString) : ZteTask ε AuthenticatedProfileResult := do
  let response ← post self id evidence
    [(js "goformId", js "LOGIN"), (js "isTest", js "false"), (js "password", password)]
  match classifyLogin response with
  | .refused detail => pure (.refused detail)
  | .accepted cookie =>
    modify (ZteShared.logIn (sessionKey request) ⟨cookie, none⟩)
    pure (.matched profile.id (js "login-ok"))

def loginSalted (request : ProviderMatchRequest) (profile : ZteProfile) (evidence : ZteEvidence)
    (ld : JsString) : ZteTask ε AuthenticatedProfileResult := do
  let response ← post self id evidence
    [(js "goformId", js "LOGIN_MULTI_USER"), (js "isTest", js "false"),
      (js "password", sha256 self (sha256 self self.credentials.password ++ ld)),
      (js "IP", js "localhost"), (js "user", self.credentials.username)]
  match classifyLogin response with
  | .refused detail => pure (.refused detail)
  | .accepted cookie =>
    let reply ← perform (ZteCall.read (getRequest self (js "RD") (some cookie) false))
    let rd := (parseZteRecord reply.body).bind fun record => record (js "RD")
    match evidence.record (js "wa_inner_version"), evidence.record (js "cr_version"), rd with
    | some (.string waVersion), some (.string crVersion), some (.string rd) =>
      let ad := sha256 self (sha256 self (waVersion ++ crVersion) ++ rd)
      modify (ZteShared.logIn (sessionKey request) ⟨cookie, some ad⟩)
      pure (.matched profile.id (js "login-ok"))
    | _, _, _ => pure (.refused (js "protocol-mismatch"))

/-- Log in as the evidence says, or not at all. -/
def authenticateOn (request : ProviderMatchRequest) (profile : ZteProfile)
    (evidence : ZteEvidence) : ZteTask ε AuthenticatedProfileResult :=
  match loginPlan evidence profile with
  | .refuse detail => pure (.refused detail)
  | .legacy => login self id request profile evidence (base64 self.credentials.password)
  | .salted ld => login self id request profile evidence
      (sha256 self (sha256 self self.credentials.password ++ ld))
  | .multiUser ld => loginSalted self id request profile evidence ld

/-- The profile of an only candidate. -/
def soleProfile (candidates : List JsString) : Option ZteProfile :=
  match candidates with
  | [candidate] => zteProfileById candidate
  | _ => none

def authenticateProfile (request : ProviderMatchRequest) (candidates : List JsString) :
    ZteTask ε AuthenticatedProfileResult := do
  if candidates = [ZTE_UNKNOWN_PROFILE] then
    pure (.matched ZTE_UNKNOWN_PROFILE (js "read-only-fingerprint"))
  else
    match soleProfile candidates with
    | none => pure (.refused (js "profile-mismatch"))
    | some profile =>
      match (← get).evidence (sessionKey request) with
      | some evidence => authenticateOn self id request profile evidence
      | none =>
        match ← probed self id request with
        | none => pure (.refused (js "protocol-mismatch"))
        | some evidence => authenticateOn self id request profile evidence

end ZteSessionRuntime

/-! ### The provider -/

inductive ZteUse where
  | fingerprint (request : ProviderMatchRequest)
  | authenticateProfile (request : ProviderMatchRequest) (candidates : List JsString)
  | capability
  | observe (context : ProviderExecutionContext)
  /-- The device changes. -/
  | device (next : ZteDevice)
  /-- The device answers the read of a task. -/
  | report (task : Nat)

inductive ZteOutcome where
  | fingerprint (result : FingerprintResult)
  | profile (result : AuthenticatedProfileResult)
  | capability (result : CapabilityResult)
  | observation (body : Option JsString)
  | device

namespace ZteGoformProvider

open ZteSessionRuntime

variable {ε : Type} (self : ZteOptions) (id : Nat)

def strong : ClaimedStrength := ⟨.strong, strong_ne_none⟩

def fingerprint (request : ProviderMatchRequest) : ZteTask ε FingerprintResult := do
  match ← probed self id request with
  | some evidence =>
    pure ⟨.match, strong, [(evidence.profile.map ZteProfile.id).getD ZTE_UNKNOWN_PROFILE],
      js "zte-goform-shape"⟩
  | none => pure ⟨.unknown, strong, [], js "zte-goform-not-proven"⟩

def capability : ZteTask ε CapabilityResult := do
  let response ← perform (ZteCall.read
    (getRequest self (js "network_type,signalbar,rssi,lte_rsrp,lte_rsrq,lte_snr") none false))
  let supported := response.status = 200 && (parseZteRecord response.body).isSome
  pure ⟨if supported then .match else .mismatch, strong,
    if supported then js "telemetry-reported" else js "telemetry-refused"⟩

/-- What the body is normalized to is left out. -/
def observe (context : ProviderExecutionContext) : ZteTask ε (Option JsString) := do
  let session := (← get).sessions (sessionKey context.request)
  let cmd := js "network_type,signalbar,rssi,lte_rsrp,lte_rsrq,lte_snr,network_provider,cell_id"
  let response ← perform (ZteCall.read
    (getRequest self cmd (session.map ZteSession.cookie) false))
  pure (if response.status = 200 then some response.body else none)

def body (id : Nat) : ZteUse → ZteTask ε ZteOutcome
  | .fingerprint request => do return .fingerprint (← fingerprint self id request)
  | .authenticateProfile request candidates => do
      return .profile (← authenticateProfile self id request candidates)
  | .capability => do return .capability (← capability self)
  | .observe context => do return .observation (← observe self context)
  | .device next => do
      modify fun s => { s with device := next }
      return .device
  | .report task => do
      modify (ZteShared.report task)
      return .device

end ZteGoformProvider

end ModemStack.ZteGoform
