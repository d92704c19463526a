import ModemStack.Providers.Decision

/-!
What the calls of a matcher return, in any run and in any order of registration.

The answers are those of the devices, the same each time (`Fixed`). A call then returns the
decision on its request, cached or not (`outcome_eq_decision`), so what holds of decisions holds of
calls.
-/

namespace ModemStack.Providers

open ModemStack.Async ModemStack.Data ModemStack.Domain ModemStack.Text

variable {ε : Type}

/-! ### The signature -/

theorem transport_text_injective {transport transport' : ProviderTransport}
    (same : transport.text = transport'.text) : transport = transport' := by
  cases transport <;> cases transport' <;> first | rfl | exact absurd same (by decide)

theorem factKind_text_injective {kind kind' : PassiveFactKind} (same : kind.text = kind'.text) :
    kind = kind' := by
  cases kind <;> cases kind' <;> first | rfl | exact absurd same (by decide)

theorem facts_injective {value : Nat → JsNumber} {facts facts' : List PassiveFact}
    (same : Json.mapItems value (facts.map factJson) = Json.mapItems value (facts'.map factJson)) :
    facts = facts' := by
  induction facts generalizing facts' with
  | nil =>
    cases facts' with
    | nil => rfl
    | cons => simp [Json.mapItems] at same
  | cons fact facts ih =>
    cases facts' with
    | nil => simp [Json.mapItems] at same
    | cons fact' facts' =>
      obtain ⟨kind, text⟩ := fact
      obtain ⟨kind', text'⟩ := fact'
      simp only [List.map_cons, Json.mapItems, factJson, Json.map, Json.mapMembers,
        List.cons.injEq, Json.object.injEq, Prod.mk.injEq, Json.string.injEq, true_and,
        and_true] at same
      obtain ⟨⟨sameKind, rfl⟩, rest⟩ := same
      rw [factKind_text_injective sameKind, ih rest]

/-- The two numbers come first. -/
theorem cacheSignature_text (request : ProviderMatchRequest) (revision : Nat) :
    ∃ rest, cacheSignature request revision =
      openBrace :: (quote (js "registryRevision") ++ colon :: (printNat revision ++
        comma :: (quote (js "generation") ++ colon :: (printNat request.generation ++
          comma :: rest)))) := by
  refine ⟨quote (js "transport") ++ colon :: (stringify printNat (.string request.transport.text) ++
    stringifyMembers printNat [(js "passiveFacts", .array (request.passiveFacts.map factJson)),
      (js "composition", .string request.composition),
      (js "firmware", (request.firmware.map Json.string).getD .null)]), ?_⟩
  simp only [cacheSignature, signatureJson, stringify, stringifyMembers]

theorem cacheSignature_injective {request request' : ProviderMatchRequest} {revision revision' : Nat}
    (modem : request.physicalModemId = request'.physicalModemId)
    (same : cacheSignature request revision = cacheSignature request' revision') :
    request = request' ∧ revision = revision' := by
  have read := congrArg parse same
  simp only [cacheSignature, parse_stringify prints_printNat, Option.some.injEq] at read
  simp only [signatureJson, Json.map, Json.mapMembers, Json.object.injEq, List.cons.injEq,
    Prod.mk.injEq, Json.string.injEq, Json.array.injEq, true_and, and_true] at read
  obtain ⟨-, -, transport, facts, composition, firmware⟩ := read
  -- numbers that a reader would round alike are still written apart
  have numbers : revision = revision' ∧ request.generation = request'.generation := by
    obtain ⟨rest, text⟩ := cacheSignature_text request revision
    obtain ⟨rest', text'⟩ := cacheSignature_text request' revision'
    rw [text, text'] at same
    have first := (List.cons.inj (List.append_cancel_left (List.cons.inj same).2)).2
    obtain ⟨sameRevision, second⟩ := printNat_comma first
    have last := (List.cons.inj (List.append_cancel_left second)).2
    exact ⟨sameRevision, (printNat_comma last).1⟩
  have sameFirmware : request.firmware = request'.firmware := by
    cases isFirmware : request.firmware <;> cases isFirmware' : request'.firmware <;>
      simp [isFirmware, isFirmware', Json.map] at firmware ⊢
    exact firmware
  obtain ⟨id, number, bus, list, name, version⟩ := request
  obtain ⟨id', number', bus', list', name', version'⟩ := request'
  obtain rfl : id = id' := modem
  obtain ⟨rfl, rfl⟩ := numbers
  obtain rfl : bus = bus' := transport_text_injective transport
  obtain rfl : list = list' := facts_injective facts
  obtain rfl : name = name' := composition
  obtain rfl : version = version' := sameFirmware
  exact ⟨rfl, rfl⟩

/-! ### The cache -/

/-- A call with the registry as it was after some of its registrations. -/
def Registered (registry : ProviderRegistry ε) (call : MatchCall ε) : Prop :=
  call.registry.definitions <+: registry.definitions

/-- The run of a matcher with one registry, whose calls are answered the same way each time. -/
def Fixed (answers : (op : Op) → Except ε (Ans op)) (registry : ProviderRegistry ε) :
    Turn (MatchCall ε) Op Ans ε → Prop
  | .start call => Registered registry call
  | .resume _ answer => answer = answers

namespace ProviderMatcher

variable {answers : (op : Op) → Except ε (Ans op)} {registry : ProviderRegistry ε}

/-- A call with the modem and the signature of another is that call. -/
theorem call_eq {call call' : MatchCall ε} (registered : Registered registry call)
    (registered' : Registered registry call') (key : call.key = call'.key)
    (signature : call.signature = call'.signature) : call = call' := by
  obtain ⟨request, revision⟩ := cacheSignature_injective key signature
  have length : call.registry.definitions.length = call'.registry.definitions.length := by
    rw [← call.registry.counted, ← call'.registry.counted, revision]
  have definitions : call.registry.definitions = call'.registry.definitions := by
    obtain ⟨rest, isPrefix⟩ := registered
    obtain ⟨rest', isPrefix'⟩ := registered'
    exact (List.append_inj (isPrefix.trans isPrefix'.symm) length).1
  obtain ⟨registry, asked⟩ := call
  obtain ⟨registry', asked'⟩ := call'
  obtain rfl : asked = asked' := request
  obtain rfl : registry = registry' := ProviderRegistry.ext_definitions definitions
  rfl

/-- What the cache answers is the decision. -/
def Right (answers : (op : Op) → Except ε (Ans op)) (registry : ProviderRegistry ε)
    (matcher : ProviderMatcher) : Prop :=
  ∀ call result, Registered registry call → matcher.hit call = some result →
    decision answers call = .ok result

variable {matcher : ProviderMatcher}

theorem hit_eq_some {call : MatchCall ε} {result : ProviderMatchResult}
    (hit : matcher.hit call = some result) :
    matcher.cache.get call.key = some ⟨call.signature, result⟩ := by
  unfold ProviderMatcher.hit at hit
  split at hit
  · next cached found =>
    split at hit
    · next same =>
      cases hit
      rw [found, ← same]
    · cases hit
  · cases hit

theorem right_new : Right answers registry new := by
  intro call result _ hit
  cases hit_eq_some hit

theorem Right.store (right : Right answers registry matcher) {call : MatchCall ε}
    (registered : Registered registry call) {result : ProviderMatchResult}
    (decides : decision answers call = .ok result) :
    Right answers registry (matcher.store call result) := by
  intro other found registered' hit
  have entry := hit_eq_some hit
  rw [ProviderMatcher.store, OrderedMap.get_set] at entry
  split at entry
  · next key =>
    obtain ⟨signature, rfl⟩ := CacheEntry.mk.inj (Option.some.inj entry)
    rw [← call_eq registered registered' key.symm signature]
    exact decides
  · refine right other found registered' ?_
    rw [ProviderMatcher.hit, entry]
    exact if_pos rfl

/-- What the calls of a fixed run rely on and guarantee: their answers, and which operations they
await. -/
def contract (answers : (op : Op) → Except ε (Ans op)) (call : MatchCall ε) :
    Contract ProviderMatcher Op Ans ε where
  rely _ _ := True
  guarantee _ _ := True
  fair _ op answer := answer = answers op
  call op _ := op ∈ (evaluate call.registry call.request).callsUnder answers ∨ op = .settled

def discipline (answers : (op : Op) → Except ε (Ans op)) (registry : ProviderRegistry ε) :
    Discipline ProviderMatcher (MatchCall ε) Op Ans ε ProviderMatchResult where
  invariant := Right answers registry
  fresh _ _ := True
  contract _ := contract answers
  done _ call outcome _ := outcome = decision answers call

theorem discipline_lawful : (discipline answers registry).Lawful where
  refl _ _ _ := trivial
  trans := by
    intros
    trivial
  others := by
    intros
    trivial
  fresh := by
    intros
    trivial

theorem begins {i : Nat} {call : MatchCall ε} (right : Right answers registry matcher)
    (registered : Registered registry call) :
    (discipline answers registry).Begins body i call matcher := by
  unfold Discipline.Begins body «match»
  rw [Program.meets_monad_bind, Program.meets_get, onOutcome_ok]
  cases hit : matcher.hit call with
  | some result => exact ⟨right, trivial, fun _ _ _ => (right call result registered hit).symm⟩
  | none =>
    rw [Program.meets_monad_bind, Program.meets_call]
    refine Program.meets_under _ right (fun _ _ => trivial) (fun _ _ _ fair => fair)
      (fun op mem _ => .inl mem) fun begun s right => ?_
    refine ⟨right, trivial, fun now _ right => ⟨.inr rfl, fun _ _ => ?_⟩⟩
    cases decides : decision answers call with
    | error =>
      rw [decision] at decides
      rw [decides]
      exact ⟨right, trivial, fun _ _ _ => decides.symm⟩
    | ok =>
      rw [decision] at decides
      rw [decides, onOutcome_ok]
      exact ⟨right.store registered decides, trivial, fun _ _ _ => decides.symm⟩

/-! ### Runs -/

/-- The run of a matcher with one registry, whose calls are answered the same way each time. -/
def FixedRun (answers : (op : Op) → Except ε (Ans op)) (registry : ProviderRegistry ε)
    (turns : List (Turn (MatchCall ε) Op Ans ε)) : Prop :=
  ∀ turn ∈ turns, Fixed answers registry turn

/-- In a run, the task with a number is a call. -/
def Calls (turns : List (Turn (MatchCall ε) Op Ans ε)) (task : Nat) (call : MatchCall ε) : Prop :=
  ((loop.run body turns).tasks[task]?).map Prod.fst = some call

variable {turns : List (Turn (MatchCall ε) Op Ans ε)} {task : Nat} {call : MatchCall ε}

theorem kept_run (fixed : FixedRun answers registry turns) :
    (discipline answers registry).Kept (loop.run body turns) := by
  have allows : EventLoop.Allows body (fun _ turn => Fixed answers registry turn) loop turns :=
    EventLoop.allows_of_forall fun turn mem _ => fixed turn mem
  exact (Discipline.kept_empty right_new fun _ => trivial).run discipline_lawful
    (fun kept registered => begins kept.invariant registered)
    (fun _ isFixed _ op _ _ => congrFun isFixed op) allows

theorem Calls.same {other : MatchCall ε} {p : Program ProviderMatcher Op Ans ε ProviderMatchResult}
    (calls : Calls turns task call) (found : (loop.run body turns).tasks[task]? = some (other, p)) :
    other = call := by
  rw [Calls, found] at calls
  exact Option.some.inj calls

theorem outcome_eq_decision (fixed : FixedRun answers registry turns)
    (calls : Calls turns task call) {outcome : Except ε ProviderMatchResult}
    (settled : (loop.run body turns).outcome task = some outcome) :
    outcome = decision answers call := by
  obtain ⟨other, p, found, done⟩ := (kept_run fixed).done discipline_lawful settled
  obtain rfl := calls.same found
  exact done

theorem pending_not_login (fixed : FixedRun answers registry turns) (calls : Calls turns task call)
    (tied : Tied (contributions answers call)) {op : Op}
    (pending : (loop.run body turns).pending task = some op) : ¬ op.isLogin := by
  obtain ⟨other, p, found, isCall⟩ := (kept_run fixed).call discipline_lawful pending
  obtain rfl := calls.same found
  rcases isCall with mem | rfl
  · exact no_login_of_tied tied op mem
  · exact Bool.false_ne_true

/-- A selected provider was ahead of all others, supported and, if it has a login, logged in; a tie
selects nobody and logs in nowhere; and where no two providers' candidates share a key, the order of
registration does not change what is said. -/
theorem decides_alike (fixed : FixedRun answers registry turns) (calls : Calls turns task call) :
    (∀ provider profile operations writable base, (loop.run body turns).outcome task =
        some (.ok (.selected provider profile operations writable base)) →
      ∃ definition, definition.id = provider ∧ Chosen answers call definition profile) ∧
    (Tied (contributions answers call) →
      (∀ op, (loop.run body turns).pending task = some op → ¬ op.isLogin) ∧
      ∀ result, (loop.run body turns).outcome task = some (.ok result) →
        result.verdict.provider = none) ∧
    (KeysApart (contributions answers call) → ∀ registry' turns' task' call',
      FixedRun answers registry' turns' → Calls turns' task' call' →
      call.request = call'.request → call.registry.list.Perm call'.registry.list →
      ∀ outcome outcome', (loop.run body turns).outcome task = some outcome →
        (loop.run body turns').outcome task' = some outcome' → said outcome = said outcome') := by
  refine ⟨?_, ?_, ?_⟩
  · intro provider profile operations writable base settled
    exact chosen_of_selected (outcome_eq_decision fixed calls settled).symm
  · intro tied
    constructor
    · intro op pending
      exact pending_not_login fixed calls tied pending
    · intro result settled
      exact unresolved_of_tied tied (outcome_eq_decision fixed calls settled).symm
  · intro apart registry' turns' task' call' fixed' calls' request perm outcome outcome' settled
      settled'
    rw [outcome_eq_decision fixed calls settled, outcome_eq_decision fixed' calls' settled']
    exact verdict_perm request perm apart

theorem fixed_answered : FixedRun matching (callIn 1).registry (answeredAs 0 1) :=
  List.forall_mem_cons.mpr ⟨List.prefix_refl _, List.forall_mem_cons.mpr ⟨rfl,
    List.forall_mem_cons.mpr ⟨rfl, List.forall_mem_singleton.mpr rfl⟩⟩⟩

theorem decides_alike_answered : ∃ definition, definition.id = js "fixture-a" ∧
    Chosen matching (callIn 1) definition (js "fixture-profile") := by
  have calls : Calls (answeredAs 0 1) 0 (callIn 1) := rfl
  exact (decides_alike fixed_answered calls).1 _ _ _ _ _ rfl

/-- A provider with one passive matcher, for one profile. -/
def passiveProvider (id profile : JsString) : ProviderDefinition Unit where
  id
  profileVersion := js "1"
  eligibleTransports := [.network]
  passiveMatchers := [⟨js "model", .model, [js "fixture-model"], [profile], ⟨.strong, strong_ne_none⟩, true⟩]
  unauthenticatedProbes := []
  authenticatedProfile := none
  capabilityReaders := []
  operations := fun _ => .ok ⟨.readOnly⟩

/-- The ids and the profiles of the two differ, the joined texts do not. -/
def clashing : ProviderDefinition Unit × ProviderDefinition Unit :=
  (passiveProvider (js "a") (js "b" ++ 0 :: js "c"), passiveProvider (js "a" ++ 0 :: js "b") (js "c"))

def clashingCall (first second : ProviderDefinition Unit)
    (distinct : ([first, second].map ProviderDefinition.id).Nodup) : MatchCall Unit where
  registry := ⟨[first, second], 2, distinct, rfl⟩
  request := (callIn 1).request

def clashingRun (call : MatchCall Unit) : List (Turn (MatchCall Unit) Op Ans Unit) :=
  [.start call, .resume 0 matching]

theorem decides_alike_fails :
    let call := clashingCall clashing.1 clashing.2 (by decide)
    let call' := clashingCall clashing.2 clashing.1 (by decide)
    call.registry.list.Perm call'.registry.list ∧
      FixedRun matching call.registry (clashingRun call) ∧
      FixedRun matching call'.registry (clashingRun call') ∧
      (((loop.run body (clashingRun call)).outcome 0).bind said).bind Verdict.provider =
        some (js "a") ∧
      (((loop.run body (clashingRun call')).outcome 0).bind said).bind Verdict.provider =
        some (js "a" ++ 0 :: js "b") := by
  refine ⟨List.Perm.swap .., ?_, ?_, ?_, ?_⟩
  · exact List.forall_mem_cons.mpr ⟨List.prefix_refl _, List.forall_mem_singleton.mpr rfl⟩
  · exact List.forall_mem_cons.mpr ⟨List.prefix_refl _, List.forall_mem_singleton.mpr rfl⟩
  · decide
  · decide

end ProviderMatcher

end ModemStack.Providers
