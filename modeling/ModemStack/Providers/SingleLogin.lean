import ModemStack.Async.CallTrace
import ModemStack.Providers.Matcher

/-!
How often a matcher logs in for one modem and one signature.

An evaluation logs in at most once. The cache is filled when an evaluation has ended, though: a call
that comes before, or after one that rejected, starts another evaluation. `sole_login` says when no
second login is sent.
-/

namespace ModemStack.Providers

open ModemStack.Async ModemStack.Domain ModemStack.Text

variable {ε : Type}

def Op.isLogin : Op → Bool
  | .authenticate _ _ _ => true
  | _ => false

/-- The modem and the cache signature of a call. -/
def MatchCall.scope (call : MatchCall ε) : PhysicalModemId × JsString := (call.key, call.signature)

namespace ProviderMatcher

abbrev Trace (ε : Type) := Traced ProviderMatcher (MatchCall ε) Op Ans ε ProviderMatchResult

def body (_ : Nat) (call : MatchCall ε) : Program ProviderMatcher Op Ans ε ProviderMatchResult :=
  «match» call

def trace (turns : List (Turn (MatchCall ε) Op Ans ε)) : Trace ε :=
  turns.foldl (Traced.turn body) ⟨loop, []⟩

/-- How many logins were sent in a scope. -/
def logins (scope : PhysicalModemId × JsString) (t : Trace ε) : Nat :=
  Traced.count MatchCall.scope Op.isLogin scope t.made

/-- A call that the cache does not answer is made in a scope in which no evaluation is under way
and none has logged in. -/
def Alone (t : Trace ε) : Turn (MatchCall ε) Op Ans ε → Prop
  | .start call => t.loop.shared.hit call ≠ none ∨
      (∀ other p, (other, p) ∈ t.loop.tasks → other.scope = call.scope → p.pending = none) ∧
        logins call.scope t = 0
  | .resume _ _ => True

end ProviderMatcher

/-! ### One evaluation -/

section Evaluation

variable {request : ProviderMatchRequest}

theorem runProbes_calls (probes : List (ProviderDefinition ε × UnauthenticatedProbe))
    (found : Findings ε) : (runProbes request probes found).Calls fun op => ¬ op.isLogin := by
  induction probes generalizing found with
  | nil => trivial
  | cons probe rest ih =>
    refine (Program.calls_perform ?_).bind fun result => ih _
    exact Bool.false_ne_true

theorem readCapabilities_calls (context : ProviderExecutionContext)
    (readers : List CapabilityReader) (top : Candidate ε) (found : Findings ε) :
    (readCapabilities context readers top found).Calls fun op => ¬ op.isLogin := by
  induction readers generalizing top found with
  | nil => trivial
  | cons reader rest ih =>
    refine (Program.calls_perform ?_).bind fun result => ih _ _
    exact Bool.false_ne_true

theorem confirm_calls (top : Candidate ε) (found : Findings ε) :
    (confirm request top found).Calls fun op => ¬ op.isLogin := by
  refine (readCapabilities_calls _ _ top found).bind fun (top, found) => ?_
  refine Program.calls_ite trivial (Program.Calls.bind ?_ fun operations => trivial)
  cases top.provider.operations top.profile <;> trivial

theorem confirmTop_once (top : Candidate ε) (found : Findings ε) :
    (confirmTop request top found).CallsOnce (Op.isLogin ·) := by
  unfold confirmTop
  split
  · exact (confirm_calls top found).once
  · refine Program.CallsOnce.bind ?_ fun auth => ?_
    · refine ⟨fun answer => ?_, fun _ answer => ?_⟩
      all_goals cases answer <;> trivial
    · exact Program.calls_ite (confirm_calls _ _) trivial

theorem evaluate_once (registry : ProviderRegistry ε) (request : ProviderMatchRequest) :
    (evaluate registry request).CallsOnce (Op.isLogin ·) := by
  refine (runProbes_calls _ _).bindOnce fun found => ?_
  unfold decideCandidates
  split
  · trivial
  · split
    · trivial
    · exact confirmTop_once _ found

end Evaluation

/-! ### The calls of a matcher -/

namespace ProviderMatcher

theorem match_once (call : MatchCall ε) : («match» call).CallsOnce (Op.isLogin ·) := by
  refine Program.Calls.bindOnce Program.calls_get fun matcher => ?_
  cases matcher.hit call with
  | some => trivial
  | none =>
    refine Program.CallsOnce.bind ?_ fun result => Program.Calls.bind trivial fun _ => trivial
    refine ((evaluate_once _ _).hosted ()).attempt.bind fun outcome => ⟨Bool.false_ne_true, ?_⟩
    intro answer
    cases outcome <;> trivial

theorem match_hit {matcher : ProviderMatcher} {call : MatchCall ε} {result : ProviderMatchResult}
    (hit : matcher.hit call = some result) : ((«match» call).advance matcher).1 = .ret result := by
  have reads (next : ProviderMatcher → Program ProviderMatcher Op Ans ε ProviderMatchResult) :
      (Program.get >>= next).advance matcher = (next matcher).advance matcher := rfl
  rw [«match», reads, hit]
  rfl

theorem lone_of_alone {t : Trace ε} {turn : Turn (MatchCall ε) Op Ans ε} (alone : Alone t turn) :
    Traced.Lone body MatchCall.scope Op.isLogin t turn := by
  cases turn with
  | start =>
    obtain hit | clear := alone
    · obtain ⟨result, hit⟩ := Option.ne_none_iff_exists'.mp hit
      refine .inl ?_
      rw [body, match_hit hit]
      rfl
    · exact .inr clear
  | resume => trivial

/-- In a run whose calls all come alone, no modem is sent a second login for a signature. -/
theorem sole_login (turns : List (Turn (MatchCall ε) Op Ans ε))
    (alone : AllowsEvents (Traced.turn body) Alone ⟨loop, []⟩ turns)
    (scope : PhysicalModemId × JsString) : logins scope (trace turns) ≤ 1 := by
  have lone : AllowsEvents (Traced.turn body) (Traced.Lone body MatchCall.scope Op.isLogin)
      ⟨loop, []⟩ turns := alone.mono fun _ _ => lone_of_alone
  exact Traced.once_of_lone (fun _ => match_once) lone scope

/-- A provider with a login and a capability reader. -/
def fixture : ProviderDefinition Unit where
  id := js "fixture-a"
  profileVersion := js "1"
  eligibleTransports := [.network]
  passiveMatchers := [⟨js "fixture-a.model", .model, [js "fixture-model"], [js "fixture-profile"],
    ⟨.strong, strong_ne_none⟩, true⟩]
  unauthenticatedProbes := []
  authenticatedProfile := some ⟨js "fixture-owner-selected", 0⟩
  capabilityReaders := [⟨js "fixture-a.signal", 1⟩]
  operations := fun _ => .ok ⟨.readOnly⟩

/-- A call in a generation. -/
def callIn (generation : DeviceGeneration) : MatchCall Unit where
  registry := ⟨[fixture], 1, List.nodup_singleton _, rfl⟩
  request :=
    { physicalModemId := ⟨js "serial:provider-conformance", by decide⟩
      generation
      transport := .network
      passiveFacts := [⟨.model, js "fixture-model"⟩]
      composition := js "ethernet-router"
      firmware := some (js "1.0.0") }

/-- The login matches, and the capability can be read. -/
def matching : (op : Op) → Except Unit (Ans op)
  | .run _ _ => .ok ⟨.unknown, ⟨.weak, nofun⟩, [], []⟩
  | .authenticate _ _ _ => .ok (.matched (js "fixture-profile") (js "profile-confirmed"))
  | .read _ _ => .ok ⟨.match, ⟨.weak, nofun⟩, js "signal-readable"⟩
  | .settled => .ok ()

/-- A call is made and answered, up to the filling of the cache. -/
def answeredAs (task : Nat) (generation : DeviceGeneration) :
    List (Turn (MatchCall Unit) Op Ans Unit) :=
  [.start (callIn generation), .resume task matching, .resume task matching, .resume task matching]

/-- The cache answers the second call. -/
def runRepeated : List (Turn (MatchCall Unit) Op Ans Unit) :=
  answeredAs 0 1 ++ [.start (callIn 1)]

theorem sole_login_repeated : logins (callIn 1).scope (trace runRepeated) ≤ 1 := by
  refine sole_login runRepeated ⟨.inr ⟨nofun, rfl⟩, trivial, trivial, trivial, .inl ?_, trivial⟩ _
  decide +kernel

/-- The second call comes before the first has ended. -/
def runTogether : List (Turn (MatchCall Unit) Op Ans Unit) :=
  [.start (callIn 1), .start (callIn 1)]

/-- The second call comes after the capability reader has thrown. -/
def runRejected : List (Turn (MatchCall Unit) Op Ans Unit) :=
  [.start (callIn 1), .resume 0 matching, .resume 0 fun _ => .error (), .resume 0 matching,
    .start (callIn 1)]

/-- The last call comes after a call of another generation. -/
def runReturned : List (Turn (MatchCall Unit) Op Ans Unit) :=
  answeredAs 0 1 ++ answeredAs 1 2 ++ [.start (callIn 1)]

theorem sole_login_fails : logins (callIn 1).scope (trace runTogether) = 2 ∧
    logins (callIn 1).scope (trace runRejected) = 2 ∧
    logins (callIn 1).scope (trace runReturned) = 2 := by
  refine ⟨?_, ?_, ?_⟩
  all_goals decide +kernel

end ProviderMatcher

end ModemStack.Providers
