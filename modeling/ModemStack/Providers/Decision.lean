import ModemStack.Providers.Candidates
import ModemStack.Providers.SingleLogin

/-!
What a match decides when its probes, its login and its readers answer as they do.

`decision` is the outcome of an evaluation. It names the leader of the contributions or nobody
(`chosen_of_selected`, `unresolved_of_tied`), and the order in which the providers are registered
shows only in the evidence (`verdict_perm`).
-/

namespace ModemStack.Providers

open ModemStack.Async ModemStack.Data ModemStack.Text

variable {ε : Type} (answers : (op : Op) → Except ε (Ans op))

def passiveContributions (request : ProviderMatchRequest) (provider : ProviderDefinition ε) :
    List (Contribution ε) :=
  provider.passiveMatchers.flatMap fun matcher =>
    if passiveSignal request matcher = .match then
      matcher.profiles.map fun profile => ⟨provider, profile, matcher.strength⟩
    else []

/-- A probe that rejects contributes nothing. -/
def probeContributions (request : ProviderMatchRequest)
    (probe : ProviderDefinition ε × UnauthenticatedProbe) : List (Contribution ε) :=
  match answers (.run probe.2.run request) with
  | .ok result =>
    if result.signal = .match then
      result.profiles.map fun profile => ⟨probe.1, profile, result.strength⟩
    else []
  | .error _ => []

/-- Everything that matches, passive facts first. -/
def contributions (call : MatchCall ε) : List (Contribution ε) :=
  let providers := eligible call.registry call.request
  providers.flatMap (passiveContributions call.request) ++
    (probesOf providers).flatMap (probeContributions answers call.request)

/-- The outcome of an evaluation. -/
def decision (call : MatchCall ε) : Except ε ProviderMatchResult :=
  (evaluate call.registry call.request).under answers

/-- What the capability readers that match add. -/
def readerPoints (context : ProviderExecutionContext) (readers : List CapabilityReader) : Nat :=
  (readers.map fun reader =>
    match answers (.read reader.read context) with
    | .ok result => if result.signal = .match then strengthPoints result.strength else 0
    | .error _ => 0).sum

/-- The points a candidate ends with: the total, the login and the capabilities. -/
def finalPoints (call : MatchCall ε) (provider : ProviderDefinition ε) (profile : JsString) : Nat :=
  total (contributions answers call) (candidateKey provider.id profile) +
    (if provider.authenticatedProfile.isSome then strengthPoints .strong else 0) +
    readerPoints answers ⟨call.request, profile⟩ provider.capabilityReaders

/-- The points from which on a candidate is supported. -/
def threshold : Nat := 3

/-- A provider that may be selected: eligible, ahead of every other candidate, with enough points,
and with a login that matched if it has one. -/
structure Chosen (call : MatchCall ε) (provider : ProviderDefinition ε) (profile : JsString) :
    Prop where
  listed : provider ∈ call.registry.list
  eligible : call.request.transport ∈ provider.eligibleTransports
  leads : Leads (contributions answers call) (candidateKey provider.id profile)
  enough : threshold ≤ finalPoints answers call provider profile
  authenticated : ∀ login, provider.authenticatedProfile = some login → ∃ detail,
    answers (.authenticate login.authenticate call.request [profile]) =
      .ok (.matched profile detail)

inductive MatchStatus where
  | unsupported
  | ambiguous
  | selected
deriving DecidableEq

/-- What is to be the same in every order of registration. -/
structure Verdict where
  status : MatchStatus
  provider : Option JsString
  profile : Option JsString
  score : MatcherScore
  writable : Bool
deriving DecidableEq

def ProviderMatchResult.verdict : ProviderMatchResult → Verdict
  | .unresolved .unsupported base => ⟨.unsupported, none, none, base.score, false⟩
  | .unresolved .ambiguous base => ⟨.ambiguous, none, none, base.score, false⟩
  | .selected provider profile _ writable base =>
    ⟨.selected, some provider, some profile, base.score, writable⟩

/-- The verdict, or none of a match that rejects. -/
def said : Except ε ProviderMatchResult → Option Verdict
  | .ok result => some result.verdict
  | .error _ => none

/-! ### The evidence -/

variable {answers} {request : ProviderMatchRequest}

theorem candidates_addCandidates (found : Findings ε) (provider : ProviderDefinition ε)
    (profiles : List JsString) (strength : EvidenceStrength) :
    (found.addCandidates provider profiles strength).candidates =
      (profiles.map fun profile => (⟨provider, profile, strength⟩ : Contribution ε)).foldl
        addContribution found.candidates := by
  rw [List.foldl_map]
  rfl

theorem candidates_passiveMatch (provider : ProviderDefinition ε) (found : Findings ε)
    (matchers : List PassiveMatcher) :
    (matchers.foldl (passiveMatch request provider) found).candidates =
      (matchers.flatMap fun matcher =>
        if passiveSignal request matcher = .match then
          matcher.profiles.map fun profile =>
            (⟨provider, profile, matcher.strength⟩ : Contribution ε)
        else []).foldl addContribution found.candidates := by
  induction matchers generalizing found with
  | nil => rfl
  | cons matcher matchers ih =>
    rw [List.foldl_cons, ih, List.flatMap_cons, List.foldl_append]
    congr 1
    unfold passiveMatch
    by_cases matched : passiveSignal request matcher = .match
    · simp only [matched, if_true]
      exact candidates_addCandidates _ _ _ _
    · simp only [if_neg matched]
      rfl

theorem candidates_passive (providers : List (ProviderDefinition ε)) (found : Findings ε) :
    (providers.foldl (fun found provider =>
        provider.passiveMatchers.foldl (passiveMatch request provider) found) found).candidates =
      (providers.flatMap (passiveContributions request)).foldl addContribution
        found.candidates := by
  induction providers generalizing found with
  | nil => rfl
  | cons provider providers ih =>
    rw [List.foldl_cons, ih, List.flatMap_cons, List.foldl_append, candidates_passiveMatch]
    rfl

theorem candidates_fingerprinted (provider : ProviderDefinition ε) (probe : UnauthenticatedProbe)
    (found : Findings ε) (result : FingerprintResult)
    (answered : answers (.run probe.run request) = .ok result) :
    (fingerprinted provider probe found result).candidates =
      (probeContributions answers request (provider, probe)).foldl addContribution
        found.candidates := by
  have contributed : probeContributions answers request (provider, probe) =
      if result.signal = .match then
        result.profiles.map fun profile => ⟨provider, profile, result.strength⟩
      else [] := by
    rw [probeContributions, answered]
  rw [contributed]
  unfold fingerprinted
  by_cases matched : result.signal = .match
  · simp only [matched, if_true]
    exact candidates_addCandidates _ _ _ _
  · simp only [if_neg matched]
    rfl

/-- A probe of the list rejects. -/
def Rejects (answers : (op : Op) → Except ε (Ans op)) (request : ProviderMatchRequest)
    (probes : List (ProviderDefinition ε × UnauthenticatedProbe)) : Prop :=
  ∃ probe ∈ probes, ∃ error, answers (.run probe.2.run request) = .error error

variable (answers request) in
theorem under_runProbes (probes : List (ProviderDefinition ε × UnauthenticatedProbe))
    (found : Findings ε) :
    match (runProbes request probes found).under answers with
    | .ok found' => ¬ Rejects answers request probes ∧ found'.candidates =
        (probes.flatMap (probeContributions answers request)).foldl addContribution
          found.candidates
    | .error _ => Rejects answers request probes := by
  induction probes generalizing found with
  | nil => exact ⟨fun ⟨_, mem, _⟩ => absurd mem List.not_mem_nil, rfl⟩
  | cons probe rest ih =>
    rw [runProbes, Program.under_bind, Program.under_perform]
    cases answered : answers (.run probe.2.run request) with
    | error error => exact ⟨probe, List.mem_cons_self, error, answered⟩
    | ok result =>
      have spec := ih (fingerprinted probe.1 probe.2 found result)
      change match (runProbes request rest _).under answers with | .ok _ => _ | .error _ => _
      cases rests : (runProbes request rest
          (fingerprinted probe.1 probe.2 found result)).under answers with
      | error error =>
        rw [rests] at spec
        obtain ⟨other, mem, error, answered⟩ := spec
        exact ⟨other, List.mem_cons_of_mem _ mem, error, answered⟩
      | ok =>
        rw [rests] at spec
        obtain ⟨accepts, candidates⟩ := spec
        refine ⟨?_, ?_⟩
        · rintro ⟨other, mem, error, rejects⟩
          rcases List.mem_cons.mp mem with rfl | later
          · rw [answered] at rejects
            cases rejects
          · exact accepts ⟨other, later, error, rejects⟩
        · rw [candidates, candidates_fingerprinted _ _ _ _ answered, List.flatMap_cons,
            List.foldl_append]

variable (answers) in
/-- The findings that are ranked, or the rejection of a probe. -/
theorem under_evaluate (call : MatchCall ε) :
    (∃ error, decision answers call = .error error ∧
        Rejects answers call.request (probesOf (eligible call.registry call.request))) ∨
      ∃ found, decision answers call = (decideCandidates call.request found).under answers ∧
        ¬ Rejects answers call.request (probesOf (eligible call.registry call.request)) ∧
        found.candidates = tally (contributions answers call) := by
  have spec := under_runProbes answers call.request
    (probesOf (eligible call.registry call.request)) (passiveFindings call.registry call.request)
  rw [decision, evaluate, Program.under_bind]
  cases ran : (runProbes call.request (probesOf (eligible call.registry call.request))
      (passiveFindings call.registry call.request)).under answers with
  | error error =>
    rw [ran] at spec
    exact .inl ⟨error, rfl, spec⟩
  | ok found =>
    rw [ran] at spec
    refine .inr ⟨found, rfl, spec.1, ?_⟩
    rw [spec.2, passiveFindings, candidates_passive, tally, contributions, List.foldl_append]

/-! ### The top candidate -/

theorem under_readCapabilities (context : ProviderExecutionContext)
    (readers : List CapabilityReader) (top top' : Candidate ε) (found found' : Findings ε)
    (read : (readCapabilities context readers top found).under answers = .ok (top', found')) :
    top'.provider = top.provider ∧ top'.profile = top.profile ∧
      top'.points = top.points + readerPoints answers context readers := by
  induction readers generalizing top found with
  | nil =>
    cases read
    exact ⟨rfl, rfl, rfl⟩
  | cons reader rest ih =>
    rw [readCapabilities, Program.under_bind, Program.under_perform] at read
    cases answered : answers (.read reader.read context) with
    | error =>
      rw [answered] at read
      cases read
    | ok result =>
      rw [answered] at read
      obtain ⟨provider, profile, points⟩ := ih _ _ read
      have adds : readerPoints answers context (reader :: rest) =
          (if result.signal = .match then strengthPoints result.strength else 0) +
            readerPoints answers context rest := by
        rw [readerPoints, List.map_cons, List.sum_cons, answered]
        rfl
      rw [adds]
      unfold capabilityRead at provider profile points
      by_cases matched : result.signal = .match
      · simp only [if_pos matched] at provider profile points ⊢
        exact ⟨provider, profile, by omega⟩
      · simp only [if_neg matched] at provider profile points ⊢
        exact ⟨provider, profile, by omega⟩

/-- What the readers do to the candidate does not depend on what else was found. -/
theorem readCapabilities_map (context : ProviderExecutionContext)
    (readers : List CapabilityReader) (top : Candidate ε) (found found' : Findings ε) :
    ((readCapabilities context readers top found).under answers).map Prod.fst =
      ((readCapabilities context readers top found').under answers).map Prod.fst := by
  induction readers generalizing top found found' with
  | nil => rfl
  | cons reader rest ih =>
    simp only [readCapabilities, Program.under_bind, Program.under_perform]
    cases answers (.read reader.read context) with
    | error => rfl
    | ok => exact ih _ _ _

theorem said_confirm (top : Candidate ε) (found found' : Findings ε) :
    said ((confirm request top found).under answers) =
      said ((confirm request top found').under answers) := by
  have same : ((readCapabilities ⟨request, top.profile⟩ top.provider.capabilityReaders top
        found).under answers).map Prod.fst =
      ((readCapabilities ⟨request, top.profile⟩ top.provider.capabilityReaders top
        found').under answers).map Prod.fst := readCapabilities_map _ _ top found found'
  simp only [confirm, Program.under_monad_bind]
  cases ran : (readCapabilities ⟨request, top.profile⟩ top.provider.capabilityReaders top
      found).under answers with
  | error error =>
    rw [ran] at same
    cases ran' : (readCapabilities ⟨request, top.profile⟩ top.provider.capabilityReaders top
        found').under answers with
    | error => rfl
    | ok => rw [ran'] at same; cases same
  | ok next =>
    rw [ran] at same
    cases ran' : (readCapabilities ⟨request, top.profile⟩ top.provider.capabilityReaders top
        found').under answers with
    | error => rw [ran'] at same; cases same
    | ok next' =>
      rw [ran'] at same
      obtain ⟨last, found⟩ := next
      obtain ⟨last', found'⟩ := next'
      obtain rfl : last = last' := Except.ok.inj same
      simp only [Except.bind]
      split
      · rfl
      · simp only [Program.under_monad_bind, Program.under_ofExcept]
        cases last.provider.operations last.profile <;> rfl

theorem said_confirmTop (top : Candidate ε) (found found' : Findings ε) :
    said ((confirmTop request top found).under answers) =
      said ((confirmTop request top found').under answers) := by
  unfold confirmTop
  split
  · exact said_confirm top found found'
  · next login isLogin =>
    simp only [Program.under_monad_bind, Program.under_perform]
    cases answers (.authenticate login.authenticate request [top.profile]) with
    | error => rfl
    | ok =>
      simp only [Except.bind]
      split
      · exact said_confirm _ _ _
      · rfl

variable {writable : Bool} {provider profile : JsString} {operations : ProviderOperationsSurface}
  {base : MatchResultBase}

theorem confirm_selected {top : Candidate ε} {found : Findings ε}
    (selects : (confirm request top found).under answers =
      .ok (.selected provider profile operations writable base)) :
    provider = top.provider.id ∧ profile = top.profile ∧ threshold ≤ top.points +
      readerPoints answers ⟨request, top.profile⟩ top.provider.capabilityReaders := by
  simp only [confirm, Program.under_monad_bind] at selects
  cases ran : (readCapabilities ⟨request, top.profile⟩ top.provider.capabilityReaders top
      found).under answers with
  | error =>
    rw [ran] at selects
    cases selects
  | ok next =>
    obtain ⟨last, found⟩ := next
    obtain ⟨isProvider, isProfile, points⟩ := under_readCapabilities _ _ _ _ _ _ ran
    rw [ran] at selects
    simp only [Except.bind] at selects
    split at selects
    · cases selects
    · next supported =>
      simp only [Program.under_monad_bind, Program.under_ofExcept] at selects
      cases operated : last.provider.operations last.profile with
      | error =>
        rw [operated] at selects
        cases selects
      | ok =>
        rw [operated] at selects
        cases selects
        refine ⟨by rw [isProvider], isProfile, ?_⟩
        rw [← points]
        unfold scoreOf at supported
        unfold threshold
        split_ifs at supported with zero one two
        · exact absurd nofun supported
        · exact absurd nofun supported
        · exact absurd nofun supported
        · omega

theorem confirmTop_selected {top : Candidate ε} {found : Findings ε}
    (selects : (confirmTop request top found).under answers =
      .ok (.selected provider profile operations writable base)) :
    provider = top.provider.id ∧ profile = top.profile ∧
      threshold ≤ top.points +
        (if top.provider.authenticatedProfile.isSome then strengthPoints .strong else 0) +
        readerPoints answers ⟨request, top.profile⟩ top.provider.capabilityReaders ∧
      ∀ login, top.provider.authenticatedProfile = some login → ∃ detail,
        answers (.authenticate login.authenticate request [top.profile]) =
          .ok (.matched top.profile detail) := by
  unfold confirmTop at selects
  split at selects
  · next noLogin =>
    obtain ⟨isProvider, isProfile, enough⟩ := confirm_selected selects
    rw [noLogin]
    exact ⟨isProvider, isProfile, enough, nofun⟩
  · next login isLogin =>
    simp only [Program.under_monad_bind, Program.under_perform] at selects
    cases answered : answers (.authenticate login.authenticate request [top.profile]) with
    | error =>
      rw [answered] at selects
      cases selects
    | ok auth =>
      rw [answered] at selects
      simp only [Except.bind] at selects
      split at selects
      · next matched =>
        obtain ⟨isProvider, isProfile, enough⟩ := confirm_selected selects
        rw [isLogin]
        refine ⟨isProvider, isProfile, enough, ?_⟩
        rintro _ ⟨⟩
        cases auth with
        | matched answeredProfile detail =>
          obtain rfl : answeredProfile = top.profile := by
            simpa [authenticationMatched] using matched
          exact ⟨detail, answered⟩
        | refused | unavailable => cases matched
      · cases selects

/-! ### The decision -/

theorem mem_contributions {call : MatchCall ε} {contribution : Contribution ε}
    (mem : contribution ∈ contributions answers call) :
    contribution.provider ∈ eligible call.registry call.request := by
  rcases List.mem_append.mp mem with passive | active
  · obtain ⟨provider, listed, mem⟩ := List.mem_flatMap.mp passive
    obtain ⟨matcher, -, mem⟩ := List.mem_flatMap.mp mem
    split at mem
    · obtain ⟨profile, -, rfl⟩ := List.mem_map.mp mem
      exact listed
    · cases mem
  · obtain ⟨probe, isProbe, mem⟩ := List.mem_flatMap.mp active
    obtain ⟨provider, listed, isProbe⟩ := List.mem_flatMap.mp isProbe
    obtain ⟨probe, -, rfl⟩ := List.mem_map.mp isProbe
    unfold probeContributions at mem
    split at mem
    · split at mem
      · obtain ⟨profile, -, rfl⟩ := List.mem_map.mp mem
        exact listed
      · cases mem
    · cases mem

theorem chosen_of_selected {call : MatchCall ε}
    (selects : decision answers call = .ok (.selected provider profile operations writable base)) :
    ∃ definition, definition.id = provider ∧ Chosen answers call definition profile := by
  obtain ⟨error, rejects, -⟩ | ⟨found, decides, -, candidates⟩ := under_evaluate answers call
  · rw [rejects] at selects
    cases selects
  · rw [decides, decideCandidates, candidates] at selects
    have order : Ranking (contributions answers call) (ranked (tally (contributions answers call))) :=
      ranking
    generalize ranked (tally (contributions answers call)) = candidates at order selects
    cases order with
    | empty => cases selects
    | tie same tied highest =>
      simp only [List.head?_cons, Option.any_some, same, decide_true, if_true] at selects
      cases selects
    | leader behind leads kept =>
      rename_i top rest
      simp only [behind] at selects
      obtain ⟨isProvider, isProfile, enough, authenticated⟩ := confirmTop_selected selects
      obtain ⟨points, contribution, mem, -, sameProvider, -⟩ := kept
      have listed := mem_contributions mem
      rw [sameProvider] at listed
      obtain ⟨listed, eligible⟩ := List.mem_filter.mp listed
      subst isProfile
      refine ⟨top.provider, isProvider.symm, listed, of_decide_eq_true eligible, leads, ?_,
        authenticated⟩
      rw [finalPoints]
      rw [points] at enough
      exact enough

theorem unresolved_of_tied {call : MatchCall ε} (tied : Tied (contributions answers call))
    {result : ProviderMatchResult} (decides : decision answers call = .ok result) :
    result.verdict.provider = none := by
  cases result with
  | unresolved status base => cases status <;> rfl
  | selected =>
    obtain ⟨definition, -, chosen⟩ := chosen_of_selected decides
    exact absurd tied chosen.leads.not_tied

theorem no_login_of_tied {call : MatchCall ε} (tied : Tied (contributions answers call)) :
    ∀ op ∈ (evaluate call.registry call.request).callsUnder answers, ¬ op.isLogin := by
  intro op mem
  rcases Program.mem_callsUnder_bind.mp mem with probing | ⟨found, ran, mem⟩
  · exact (runProbes_calls _ _).callsUnder probing
  · have candidates : found.candidates = tally (contributions answers call) := by
      have spec := under_runProbes answers call.request
        (probesOf (eligible call.registry call.request))
        (passiveFindings call.registry call.request)
      rw [ran] at spec
      rw [spec.2, passiveFindings, candidates_passive, tally, contributions, List.foldl_append]
    have order : Ranking (contributions answers call) (ranked found.candidates) :=
      candidates ▸ ranking
    unfold decideCandidates at mem
    generalize ranked found.candidates = ranked at order mem
    cases order with
    | empty => cases mem
    | tie same tied highest =>
      simp only [List.head?_cons, Option.any_some, same, decide_true, if_true] at mem
      cases mem
    | leader behind leads kept => exact absurd tied leads.not_tied

section Order

variable {call call' : MatchCall ε}

theorem eligible_perm (request : call.request = call'.request)
    (perm : call.registry.list.Perm call'.registry.list) :
    (eligible call.registry call.request).Perm (eligible call'.registry call'.request) := by
  rw [eligible, eligible, request]
  exact perm.filter _

theorem probesOf_perm {providers providers' : List (ProviderDefinition ε)}
    (perm : providers.Perm providers') : (probesOf providers).Perm (probesOf providers') :=
  perm.flatMap_right _

theorem contributions_perm (request : call.request = call'.request)
    (perm : call.registry.list.Perm call'.registry.list) :
    (contributions answers call).Perm (contributions answers call') := by
  have providers := eligible_perm request perm
  rw [contributions, contributions, request] at *
  exact (providers.flatMap_right _).append ((probesOf_perm providers).flatMap_right _)

theorem rejects_perm {probes probes' : List (ProviderDefinition ε × UnauthenticatedProbe)}
    (perm : probes.Perm probes') (rejects : Rejects answers request probes) :
    Rejects answers request probes' := by
  obtain ⟨probe, mem, isRejected⟩ := rejects
  exact ⟨probe, perm.mem_iff.mp mem, isRejected⟩

theorem same_leader {top top' : Candidate ε} {all all' : List (Contribution ε)}
    (perm : all.Perm all') (apart : KeysApart all) (leads : Leads all top.key)
    (kept : Kept all top.key top) (leads' : Leads all' top'.key) (kept' : Kept all' top'.key top') :
    top = top' := by
  have sameKey : top.key = top'.key := leads.eq ((leads_perm perm _).mpr leads')
  obtain ⟨points, contribution, mem, isKey, provider, profile⟩ := kept
  obtain ⟨points', contribution', mem', isKey', provider', profile'⟩ := kept'
  have sameProvider : contribution.provider = contribution'.provider := by
    refine apart contribution mem contribution' (perm.mem_iff.mpr mem') ?_
    rw [isKey, isKey', sameKey]
  obtain ⟨definition, name, sum⟩ := top
  obtain ⟨definition', name', sum'⟩ := top'
  obtain rfl : definition = definition' := provider.symm.trans (sameProvider.trans provider')
  obtain rfl : name = name' := by simpa [Candidate.key, candidateKey] using sameKey
  obtain rfl : sum = sum' := by
    rw [show sum = _ from points, show sum' = _ from points', total_perm perm]
    rfl
  rfl

/-- Registered in another order, the same providers give the same verdict. -/
theorem verdict_perm (request : call.request = call'.request)
    (perm : call.registry.list.Perm call'.registry.list)
    (apart : KeysApart (contributions answers call)) :
    said (decision answers call) = said (decision answers call') := by
  have probes := probesOf_perm (eligible_perm request perm)
  have contributed : (contributions answers call).Perm (contributions answers call') :=
    contributions_perm request perm
  obtain ⟨error, rejects, rejected⟩ | ⟨found, decides, accepted, candidates⟩ :=
    under_evaluate answers call
  · obtain ⟨error', rejects', -⟩ | ⟨found', -, accepted', -⟩ := under_evaluate answers call'
    · rw [rejects, rejects']
      rfl
    · rw [request] at rejected
      exact absurd (rejects_perm (request ▸ probes) rejected) accepted'
  · obtain ⟨error', -, rejected'⟩ | ⟨found', decides', -, candidates'⟩ :=
      under_evaluate answers call'
    · rw [← request] at rejected'
      exact absurd (rejects_perm (request ▸ probes.symm) rejected') accepted
    · rw [decides, decides', decideCandidates, decideCandidates, candidates, candidates', request]
      have order : Ranking (contributions answers call)
        (ranked (tally (contributions answers call))) := ranking
      have order' : Ranking (contributions answers call')
        (ranked (tally (contributions answers call'))) := ranking
      generalize ranked (tally (contributions answers call)) = ranked at order ⊢
      generalize Providers.ranked (tally (contributions answers call')) = ranked' at order' ⊢
      cases order with
      | empty none =>
        cases order' with
        | empty => rfl
        | tie same tied highest =>
          exact absurd (List.perm_nil.mp (none ▸ contributed.symm)) highest.1.choose_spec.1.ne_nil
        | leader behind leads kept =>
          exact absurd (List.perm_nil.mp (none ▸ contributed.symm)) leads.1.ne_nil
      | tie same tied highest =>
        cases order' with
        | empty none =>
          exact absurd (List.perm_nil.mp (none ▸ contributed)) highest.1.choose_spec.1.ne_nil
        | tie same' tied' highest' =>
          simp only [List.head?_cons, Option.any_some, same, same', decide_true, if_true]
          have points := highest.eq ((highest_perm contributed _).mpr highest')
          simp only [Program.under, said, pure, unresolvedResult,
            ProviderMatchResult.verdict, points]
        | leader behind leads kept => exact absurd ((tied_perm contributed).mp tied) leads.not_tied
      | leader behind leads kept =>
        cases order' with
        | empty none => exact absurd (List.perm_nil.mp (none ▸ contributed)) leads.1.ne_nil
        | tie same' tied' highest' =>
          exact absurd ((tied_perm contributed).mpr tied') leads.not_tied
        | leader behind' leads' kept' =>
          obtain rfl := same_leader contributed apart leads kept leads' kept'
          simp only [behind, behind', Bool.false_eq_true, if_false]
          exact said_confirmTop _ _ _

end Order

end ModemStack.Providers
