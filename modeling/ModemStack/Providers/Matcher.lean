import Mathlib.Algebra.Order.Ring.Rat
import Mathlib.Data.List.Sort
import ModemStack.Async.EventLoop
import ModemStack.Data.OrderedMap
import ModemStack.Providers.Contracts
import ModemStack.Text.Json

/-!
The provider matcher: evidence is gathered stage by stage, the candidates are ranked, and the one
at the top is confirmed by at most one login and by its capability readers.

`evaluate` keeps what it has found to itself. What the calls of one matcher share is the cache.
-/

namespace ModemStack.Providers

open ModemStack.Async ModemStack.Data ModemStack.Domain ModemStack.Text

def strengthPoints : EvidenceStrength → Nat
  | .none => 0
  | .weak => 1
  | .moderate => 2
  | .strong => 3

structure Candidate (ε : Type) where
  provider : ProviderDefinition ε
  profile : JsString
  points : Nat

def scoreOf (points : Nat) : MatcherScore :=
  if points = 0 then .unsupported
  else if points = 1 then .maybe
  else if points = 2 then .likely
  else .supported

def confidenceOf (points : Nat) : Rat := min 1 (points / 3)

def factJson (fact : PassiveFact) : Json Nat :=
  .object [(js "kind", .string fact.kind.text), (js "value", .string fact.value)]

def signatureJson (request : ProviderMatchRequest) (registryRevision : Nat) : Json Nat :=
  .object [(js "registryRevision", .number registryRevision),
    (js "generation", .number request.generation),
    (js "transport", .string request.transport.text),
    (js "passiveFacts", .array (request.passiveFacts.map factJson)),
    (js "composition", .string request.composition),
    (js "firmware", (request.firmware.map Json.string).getD .null)]

def cacheSignature (request : ProviderMatchRequest) (registryRevision : Nat) : JsString :=
  stringify printNat (signatureJson request registryRevision)

/-! ### What an evaluation has found -/

/-- The key under which a candidate is kept. -/
def candidateKey (provider profile : JsString) : JsString := provider ++ 0 :: profile

abbrev Candidates (ε : Type) := OrderedMap JsString (Candidate ε)

variable {ε : Type}

def addCandidate (candidates : Candidates ε) (provider : ProviderDefinition ε)
    (profile : JsString) (strength : EvidenceStrength) : Candidates ε :=
  let key := candidateKey provider.id profile
  match candidates.get key with
  | none => candidates.set key ⟨provider, profile, strengthPoints strength⟩
  | some existing =>
    candidates.set key { existing with points := existing.points + strengthPoints strength }

structure Findings (ε : Type) where
  evidence : List MatcherEvidence
  conflicts : List MatcherEvidence
  candidates : Candidates ε

namespace Findings

/-- The item is evidence, and may be a conflict too. -/
def push (found : Findings ε) (item : MatcherEvidence) (conflict : Bool) : Findings ε :=
  { found with
    evidence := found.evidence ++ [item]
    conflicts := if conflict then found.conflicts ++ [item] else found.conflicts }

def addCandidates (found : Findings ε) (provider : ProviderDefinition ε)
    (profiles : List JsString) (strength : EvidenceStrength) : Findings ε :=
  let add candidates profile := addCandidate candidates provider profile strength
  { found with candidates := profiles.foldl add found.candidates }

end Findings

def unresolvedResult (status : UnresolvedStatus) (request : ProviderMatchRequest) (points : Nat)
    (found : Findings ε) : ProviderMatchResult :=
  .unresolved status ⟨scoreOf points, confidenceOf points, found.evidence, found.conflicts,
    request.generation, request.physicalModemId⟩

def selectedResult (request : ProviderMatchRequest) (top : Candidate ε) (found : Findings ε)
    (operations : ProviderOperationsSurface) : ProviderMatchResult :=
  .selected top.provider.id top.profile operations (operations.access = .readWrite)
    ⟨.supported, confidenceOf top.points, found.evidence, found.conflicts, request.generation,
      request.physicalModemId⟩

/-- The profile of an item about one profile. -/
def soleProfile : List JsString → Option JsString
  | [profile] => some profile
  | _ => none

/-! ### Transport and passive facts -/

def transportMatches (request : ProviderMatchRequest) (provider : ProviderDefinition ε) : Bool :=
  request.transport ∈ provider.eligibleTransports

def transportEvidence (request : ProviderMatchRequest) (provider : ProviderDefinition ε) :
    MatcherEvidence where
  provider := provider.id
  profile := none
  stage := .transportEligibility
  source := request.transport.text
  signal := if transportMatches request provider then .match else .mismatch
  strength := .none
  detail := if transportMatches request provider then js "eligible-transport"
    else js "ineligible-transport"

def eligible (registry : ProviderRegistry ε) (request : ProviderMatchRequest) :
    List (ProviderDefinition ε) :=
  registry.list.filter (transportMatches request)

def passiveSignal (request : ProviderMatchRequest) (matcher : PassiveMatcher) : MatcherSignal :=
  let actual := (request.passiveFacts.filter fun fact => fact.kind = matcher.fact).map
    PassiveFact.value
  if actual.length = 0 then .unknown
  else if actual.any fun value => value ∈ matcher.expected then .match
  else .mismatch

def passiveMatch (request : ProviderMatchRequest) (provider : ProviderDefinition ε)
    (found : Findings ε) (matcher : PassiveMatcher) : Findings ε :=
  let signal := passiveSignal request matcher
  let item : MatcherEvidence :=
    { provider := provider.id
      profile := soleProfile matcher.profiles
      stage := .passiveFacts
      source := matcher.id
      signal
      strength := matcher.strength
      detail := if signal = .match then js "expected-fact-present"
        else js "expected-fact-not-proven" }
  let found := found.push item (signal = .mismatch && matcher.required)
  if signal = .match then found.addCandidates provider matcher.profiles matcher.strength else found

/-- The stages before the first await. -/
def passiveFindings (registry : ProviderRegistry ε) (request : ProviderMatchRequest) :
    Findings ε :=
  (eligible registry request).foldl
    (fun found provider => provider.passiveMatchers.foldl (passiveMatch request provider) found)
    ⟨registry.list.map (transportEvidence request), [], .empty⟩

/-! ### What a device is asked -/

inductive Op where
  | run (probe : FunctionRef) (request : ProviderMatchRequest)
  | authenticate (login : FunctionRef) (request : ProviderMatchRequest)
      (profileCandidates : List JsString)
  | read (reader : FunctionRef) (context : ProviderExecutionContext)
  | settled

abbrev Ans : Op → Type
  | .run _ _ => FingerprintResult
  | .authenticate _ _ _ => AuthenticatedProfileResult
  | .read _ _ => CapabilityResult
  | .settled => Unit

abbrev Evaluation (ε α : Type) := Program Unit Op Ans ε α

def fingerprinted (provider : ProviderDefinition ε) (probe : UnauthenticatedProbe)
    (found : Findings ε) (result : FingerprintResult) : Findings ε :=
  let item : MatcherEvidence :=
    { provider := provider.id
      profile := soleProfile result.profiles
      stage := .unauthenticatedFingerprint
      source := probe.id
      signal := result.signal
      strength := result.strength
      detail := result.detail }
  let found := found.push item (result.signal = .mismatch)
  if result.signal = .match then found.addCandidates provider result.profiles result.strength
  else found

def runProbes (request : ProviderMatchRequest) :
    List (ProviderDefinition ε × UnauthenticatedProbe) → Findings ε → Evaluation ε (Findings ε)
  | [], found => pure found
  | (provider, probe) :: rest, found =>
    (Program.perform (.run probe.run request)).bind fun result =>
      runProbes request rest (fingerprinted provider probe found result)

def probesOf (providers : List (ProviderDefinition ε)) :
    List (ProviderDefinition ε × UnauthenticatedProbe) :=
  providers.flatMap fun provider => provider.unauthenticatedProbes.map fun probe => (provider, probe)

/-- The candidates by their points, the first found first among equals. -/
def ranked (candidates : Candidates ε) : List (Candidate ε) :=
  candidates.values.insertionSort fun left right => right.points ≤ left.points

def capabilityRead (reader : CapabilityReader) (top : Candidate ε) (found : Findings ε)
    (result : CapabilityResult) : Candidate ε × Findings ε :=
  let item : MatcherEvidence :=
    { provider := top.provider.id
      profile := some top.profile
      stage := .capabilityRead
      source := reader.id
      signal := result.signal
      strength := result.strength
      detail := result.detail }
  (if result.signal = .match then
      { top with points := top.points + strengthPoints result.strength }
    else top, found.push item (result.signal = .mismatch))

def readCapabilities (context : ProviderExecutionContext) :
    List CapabilityReader → Candidate ε → Findings ε → Evaluation ε (Candidate ε × Findings ε)
  | [], top, found => pure (top, found)
  | reader :: rest, top, found =>
    (Program.perform (.read reader.read context)).bind fun result =>
      let next := capabilityRead reader top found result
      readCapabilities context rest next.1 next.2

/-- The capability stage, and the decision on the top candidate. -/
def confirm (request : ProviderMatchRequest) (top : Candidate ε) (found : Findings ε) :
    Evaluation ε ProviderMatchResult := do
  let (top, found) ← readCapabilities ⟨request, top.profile⟩ top.provider.capabilityReaders top found
  if scoreOf top.points ≠ .supported then
    pure (unresolvedResult .ambiguous request top.points found)
  else do
    let operations ← Program.ofExcept (top.provider.operations top.profile)
    pure (selectedResult request top found operations)

def authenticationMatched (profile : JsString) : AuthenticatedProfileResult → Bool
  | .matched answered _ => answered = profile
  | _ => false

def authenticationEvidence (login : AuthenticatedProfile) (top : Candidate ε)
    (auth : AuthenticatedProfileResult) : MatcherEvidence where
  provider := top.provider.id
  profile := some top.profile
  stage := .authenticatedProfile
  source := login.algorithm
  signal := if authenticationMatched top.profile auth then .match else
    match auth with
    | .unavailable _ => .unknown
    | _ => .mismatch
  strength := .strong
  detail := auth.detail

/-- The login, for a provider that has one, and what comes after it. -/
def confirmTop (request : ProviderMatchRequest) (top : Candidate ε) (found : Findings ε) :
    Evaluation ε ProviderMatchResult :=
  match top.provider.authenticatedProfile with
  | none => confirm request top found
  | some login => do
      let auth ← Program.perform (.authenticate login.authenticate request [top.profile])
      let matched := authenticationMatched top.profile auth
      let found := found.push (authenticationEvidence login top auth) !matched
      if matched then
        confirm request { top with points := top.points + strengthPoints .strong } found
      else pure (unresolvedResult .ambiguous request top.points found)

def decideCandidates (request : ProviderMatchRequest) (found : Findings ε) :
    Evaluation ε ProviderMatchResult :=
  match ranked found.candidates with
  | [] => pure (unresolvedResult .unsupported request 0 found)
  | top :: rest =>
    if rest.head?.any fun second => second.points = top.points then
      pure (unresolvedResult .ambiguous request top.points found)
    else confirmTop request top found

def evaluate (registry : ProviderRegistry ε) (request : ProviderMatchRequest) :
    Evaluation ε ProviderMatchResult :=
  (runProbes request (probesOf (eligible registry request))
    (passiveFindings registry request)).bind (decideCandidates request)

/-! ### The cache -/

structure CacheEntry where
  signature : JsString
  result : ProviderMatchResult

structure ProviderMatcher where
  cache : OrderedMap PhysicalModemId CacheEntry

/-- A call of `match`, with the registry as it stands at that moment. -/
structure MatchCall (ε : Type) where
  registry : ProviderRegistry ε
  request : ProviderMatchRequest

namespace MatchCall

def key (call : MatchCall ε) : PhysicalModemId := call.request.physicalModemId

def signature (call : MatchCall ε) : JsString :=
  cacheSignature call.request call.registry.revision

end MatchCall

namespace ProviderMatcher

def new : ProviderMatcher := ⟨.empty⟩

def hit (matcher : ProviderMatcher) (call : MatchCall ε) : Option ProviderMatchResult :=
  match matcher.cache.get call.key with
  | some cached => if cached.signature = call.signature then some cached.result else none
  | none => none

def store (matcher : ProviderMatcher) (call : MatchCall ε) (result : ProviderMatchResult) :
    ProviderMatcher :=
  ⟨matcher.cache.set call.key ⟨call.signature, result⟩⟩

/-- `match`: the call goes on one turn after its evaluation has settled. -/
def «match» (call : MatchCall ε) : Program ProviderMatcher Op Ans ε ProviderMatchResult := do
  let matcher ← Program.get
  match matcher.hit call with
  | some result => pure result
  | none => do
      let evaluation := (evaluate call.registry call.request).hosted Program.perform ()
      let result ← evaluation.call .settled
      Program.modify (·.store call result)
      pure result

/-- The calls of one matcher on the event loop. -/
abbrev Loop (ε : Type) := EventLoop ProviderMatcher (MatchCall ε) Op Ans ε ProviderMatchResult

def loop : Loop ε := ⟨new, []⟩

end ProviderMatcher

end ModemStack.Providers
