import ModemStack.Async.Steps
import ModemStack.Transport.Subscriptions

/-!
The match rules on the bus are those of the live subscriptions.

A `subscribe` whose `AddMatch` fails leaves its record and its count behind, and the bus that
an attempt is about to publish misses what happens to rules its iteration has passed:
`matchRules_run` holds of the runs in which none of this happens and no `RemoveMatch` fails.
-/

namespace ModemStack.Transport

open ModemStack.Async ModemStack.Data ModemStack.Text

/-! ### The property -/

structure MatchRules (reconnect : Reconnect) (t : DbusTransport) : Prop where
  installed : t.state = .connected → t.signals.adding = [] → t.signals.removing = [] →
    ∃ b, t.bus = some b ∧ ∀ rule, rule ∈ (t.buses b).rules ↔
      ∃ record ∈ t.signals.subscriptions, record.rule = rule
  counted : ∀ rule, t.signals.count rule =
    t.signals.subscriptions.countP fun record => record.rule = rule
  rejected : ∀ id ∈ t.signals.rejected, ∀ record ∈ t.signals.subscriptions, record.id ≠ id
  countedDown : ∀ id rule, t.signals.handles.get id = some ⟨rule, false⟩ →
    (t.unsubscribe id).signals.handles.get id = some ⟨rule, true⟩ ∧
      ∀ other, (t.unsubscribe id).signals.count other =
        if other = rule then t.signals.count rule - 1 else t.signals.count other
  once : ∀ id rule, t.signals.handles.get id = some ⟨rule, true⟩ → t.unsubscribe id = t ∧
    ∀ event, (t.step reconnect event).signals.handles.get id = some ⟨rule, true⟩

/-! ### Events under which it holds -/

namespace Phase

/-- The iteration has come to the rule inserted at `since`. -/
def Met : Phase → Nat → Prop
  | .handshake, _ => False
  | .addMatch reached _, since => since ≤ reached
  | .reissued, _ => True

/-- The iteration is past the rule inserted at `since`. -/
def installed : Phase → Nat → Bool
  | .handshake, _ => false
  | .addMatch reached _, since => since < reached
  | .reissued, _ => true

theorem met_of_installed {phase : Phase} {since : Nat} (isInstalled : phase.installed since) :
    phase.Met since := by
  cases phase with
  | handshake => cases isInstalled
  | addMatch => exact Nat.le_of_lt (of_decide_eq_true isInstalled)
  | reissued => trivial

end Phase

/-- No `AddMatch` of a `subscribe` fails; a rule is inserted while no attempt has ended its
iteration, and deleted while none has come to it; no `RemoveMatch` on the current bus fails. -/
def RulesApart (t : DbusTransport) : Event → Prop
  | .added call false => call ∉ t.signals.adding
  | .subscribe spec => t.signals.count (buildMatchRule spec) = 0 → t.closing = false →
      ∀ b owner, (t.buses b).attempt ≠ some ⟨owner, .reissued⟩
  | .unsubscribe id => ∀ rule known, t.signals.handles.get id = some ⟨rule, false⟩ →
      t.signals.matchRuleRefcount.get rule = some known → known.count ≤ 1 → t.closing = false →
      ∀ b owner phase, (t.buses b).attempt = some ⟨owner, phase⟩ → ¬ phase.Met known.since
  | .removed call false => call ∈ t.signals.removing → t.state = .connected →
      t.bus ≠ some call.bus
  | _ => True

/-! ### What the buses owe -/

namespace SignalRegistry

def adds (signals : SignalRegistry) (b : Nat) (rule : JsString) : Nat :=
  signals.adding.countP fun call => call.bus = b ∧ call.rule = rule

def removes (signals : SignalRegistry) (b : Nat) (rule : JsString) : Nat :=
  signals.removing.countP fun call => call.bus = b ∧ call.rule = rule

def since (signals : SignalRegistry) (rule : JsString) : Option Nat :=
  (signals.matchRuleRefcount.get rule).map RuleCount.since

/-- How often a rule is to be on a bus whose attempt is in a phase. -/
def owed (signals : SignalRegistry) (phase : Phase) (rule : JsString) : Nat :=
  match signals.since rule with
  | some since => if phase.installed since then 1 else 0
  | none => 0

variable {signals : SignalRegistry}

variable {rule : JsString}

theorem owed_congr {signals' : SignalRegistry} (same : signals'.since rule = signals.since rule)
    (phase : Phase) : signals'.owed phase rule = signals.owed phase rule := by
  unfold owed
  rw [same]

/-- A rule that a call is adding is owed, and no other call adds it. -/
theorem Counted.adds_le (counted : signals.Counted) (b : Nat) (rule : JsString) :
    signals.adds b rule ≤ signals.owed .reissued rule := by
  have once : signals.adds b rule ≤ 1 := by
    have all : signals.adds b rule ≤ (signals.adding.map AddMatch.rule).count rule := by
      rw [List.count, List.countP_map]
      refine List.countP_mono_left fun call _ awaited => ?_
      simpa using (of_decide_eq_true awaited).2
    exact Nat.le_trans all (List.nodup_iff_count_le_one.mp counted.addingRules rule)
  unfold owed since
  cases isKnown : signals.matchRuleRefcount.get rule with
  | some => simpa [Phase.installed] using once
  | none =>
    simp only [Option.map_none, Nat.le_zero_eq]
    refine List.countP_eq_zero.mpr fun call isCall awaited => ?_
    obtain ⟨-, record, isRecord, -, same⟩ := counted.adding call isCall
    refine absurd isKnown (counted.known_iff.mpr ⟨record, isRecord, ?_⟩)
    exact same.trans (of_decide_eq_true awaited).2

theorem Counted.count_eq_zero_iff (counted : signals.Counted) :
    signals.count rule = 0 ↔ signals.since rule = none := by
  unfold SignalRegistry.count since
  cases isKnown : signals.matchRuleRefcount.get rule with
  | none => simp
  | some known => simpa using Nat.ne_of_gt (counted.used rule known isKnown)

theorem since_enrol (signals : SignalRegistry) (spec : SignalSpec) (rule : JsString) :
    (signals.enrol spec).since rule =
      if rule = buildMatchRule spec then some ((signals.since rule).getD (signals.inserted + 1))
      else signals.since rule := by
  unfold since
  rw [get_enrol]
  split_ifs
  · rw [Option.map_some, stamp]
    cases signals.matchRuleRefcount.get rule <;> rfl
  · rfl

/-- A rule that is inserted is owed to the published bus. -/
theorem owed_enrol_new {spec : SignalSpec} (isNew : signals.since (buildMatchRule spec) = none)
    (rule : JsString) : (signals.enrol spec).owed .reissued rule =
      signals.owed .reissued rule + if buildMatchRule spec = rule then 1 else 0 := by
  unfold owed
  rw [since_enrol]
  by_cases same : buildMatchRule spec = rule
  · rw [if_pos same.symm, ← same, isNew]
    simp [Phase.installed]
  · rw [if_neg (Ne.symm same), if_neg same, Nat.add_zero]

theorem adds_cons (id b : Nat) (rule other : JsString) :
    adds { signals with adding := AddMatch.mk id b rule :: signals.adding } b other =
      signals.adds b other + if rule = other then 1 else 0 := by
  simp [adds, List.countP_cons]

theorem removes_cons (b : Nat) (rule other : JsString) :
    removes { signals with removing := RemoveMatch.mk b rule :: signals.removing } b other =
      signals.removes b other + if rule = other then 1 else 0 := by
  simp [removes, List.countP_cons]

theorem adds_erase {call : AddMatch} (awaited : call ∈ signals.adding) (b : Nat)
    (rule : JsString) : adds { signals with adding := signals.adding.erase call } b rule +
      (if call.bus = b ∧ call.rule = rule then 1 else 0) = signals.adds b rule := by
  unfold adds
  rw [(List.perm_cons_erase awaited).countP_eq, List.countP_cons]
  simp only [decide_eq_true_eq]

theorem removes_erase {call : RemoveMatch} (awaited : call ∈ signals.removing) (b : Nat)
    (rule : JsString) : removes { signals with removing := signals.removing.erase call } b rule +
      (if call.bus = b ∧ call.rule = rule then 1 else 0) = signals.removes b rule := by
  unfold removes
  rw [(List.perm_cons_erase awaited).countP_eq, List.countP_cons]
  simp only [decide_eq_true_eq]

theorem since_retire (id : Nat) (isKnown : signals.count rule ≠ 0) (other : JsString) :
    (signals.retire id rule).since other =
      if other = rule ∧ signals.count rule = 1 then none else signals.since other := by
  unfold since
  rw [get_retire]
  by_cases same : other = rule
  · subst same
    by_cases isLast : signals.count other ≤ 1
    · have isOne : signals.count other = 1 := by omega
      rw [if_pos rfl, if_pos isLast, if_pos ⟨rfl, isOne⟩, Option.map_none]
    · have notOne : signals.count other ≠ 1 := by omega
      rw [if_pos rfl, if_neg isLast, if_neg fun both => notOne both.2, stamp]
      cases isSome : signals.matchRuleRefcount.get other with
      | none => exact absurd (by simp [SignalRegistry.count, isSome]) isKnown
      | some => rfl
  · rw [if_neg same, if_neg fun both => same both.1]

end SignalRegistry

/-! ### What the steps keep -/

structure RulesKept (t : DbusTransport) : Prop where
  stamped : t.signals.Stamped
  counted : t.signals.Counted
  noneRejected : t.signals.rejected = []
  closing : t.closing → t.state ≠ .connected
  connected : t.state = .connected → t.bus ≠ none
  fresh : ∀ b, t.created ≤ b → (t.buses b).attempt = none
  published : ∀ b, t.bus = some b → b < t.created ∧ (t.buses b).attempt = none
  adding : ∀ call ∈ t.signals.adding, call.bus < t.created ∧ (t.buses call.bus).attempt = none
  removing : ∀ call ∈ t.signals.removing,
    call.bus < t.created ∧ (t.buses call.bus).attempt = none
  current : t.state = .connected → ∀ b, t.bus = some b → ∀ rule,
    (t.buses b).rules.count rule + t.signals.adds b rule =
      t.signals.owed .reissued rule + t.signals.removes b rule
  attempts : t.closing = false → ∀ b owner phase, (t.buses b).attempt = some ⟨owner, phase⟩ →
    ∀ rule, (t.buses b).rules.count rule = t.signals.owed phase rule
  meets : t.closing = false → ∀ b owner reached rule,
    (t.buses b).attempt = some ⟨owner, .addMatch reached rule⟩ →
      t.signals.since rule = some reached

namespace RulesKept

variable {reconnect : Reconnect} {t : DbusTransport}

theorem new : RulesKept .new := by
  constructor
  case stamped => exact ⟨List.nodup_nil, .nil, nofun, nofun⟩
  case counted =>
    exact ⟨List.nodup_nil, nofun, fun _ => rfl, nofun, nofun, nofun, nofun, List.nodup_nil,
      List.nodup_nil⟩
  all_goals simp [DbusTransport.new]

/-! ### The property from the invariant -/

theorem mem_rules (kept : RulesKept t) (isConnected : t.state = .connected)
    (notAdding : t.signals.adding = []) (notRemoving : t.signals.removing = []) {b : Nat}
    (isBus : t.bus = some b) (rule : JsString) : rule ∈ (t.buses b).rules ↔
      ∃ record ∈ t.signals.subscriptions, record.rule = rule := by
  have current := kept.current isConnected b isBus rule
  have noAdds : t.signals.adds b rule = 0 := by simp [SignalRegistry.adds, notAdding]
  have noRemoves : t.signals.removes b rule = 0 := by simp [SignalRegistry.removes, notRemoving]
  rw [noAdds, noRemoves, SignalRegistry.owed, SignalRegistry.since] at current
  rw [← kept.counted.known_iff, ← List.count_pos_iff]
  cases isKnown : t.signals.matchRuleRefcount.get rule with
  | some => simp_all [Phase.installed]
  | none => simp_all

end RulesKept

/-! ### Steps that leave the rules alone -/

def Event.onSignals : Event → Bool
  | .subscribe _ | .added _ _ | .unsubscribe _ | .removed _ _ => true
  | _ => false

/-- What happens to the rules while the transport only loses a bus or ends an attempt. -/
structure Quiet (t t' : DbusTransport) : Prop where
  signals : t'.signals = t.signals
  created : t'.created = t.created
  bus : ∀ b, t'.bus = some b → t.bus = some b
  state : t'.state = .connected → t.state = .connected ∧ t'.bus = t.bus
  closing : t.closing → t'.closing
  closed : t'.closing → t.closing ∨ t'.state ≠ .connected
  buses : ∀ b, (t'.buses b).rules = (t.buses b).rules ∧
    ((t'.buses b).attempt = (t.buses b).attempt ∨ (t'.buses b).attempt = none)

namespace Quiet

variable {reconnect : Reconnect} {t t' t'' : DbusTransport}

theorem refl : Quiet t t :=
  ⟨rfl, rfl, fun _ => id, fun h => ⟨h, rfl⟩, id, .inl, fun _ => ⟨rfl, .inl rfl⟩⟩

theorem trans (first : Quiet t t') (second : Quiet t' t'') : Quiet t t'' := by
  constructor
  · exact second.signals.trans first.signals
  · exact second.created.trans first.created
  · exact fun b isBus => first.bus b (second.bus b isBus)
  · intro isConnected
    obtain ⟨isConnected, same⟩ := second.state isConnected
    obtain ⟨isConnected, same'⟩ := first.state isConnected
    exact ⟨isConnected, same.trans same'⟩
  · exact fun isClosing => second.closing (first.closing isClosing)
  · intro isClosing
    rcases second.closed isClosing with isClosing | notConnected
    · rcases first.closed isClosing with isClosing | notConnected
      · exact .inl isClosing
      · exact .inr fun isConnected => notConnected (second.state isConnected).1
    · exact .inr notConnected
  · intro b
    obtain ⟨rules, attempt⟩ := first.buses b
    obtain ⟨rules', attempt'⟩ := second.buses b
    refine ⟨rules'.trans rules, ?_⟩
    rcases attempt' with same | ended
    · rw [same]
      exact attempt
    · exact .inr ended

theorem onBus {b : Nat} {change : Bus → Bus} (rules : (change (t.buses b)).rules = (t.buses b).rules)
    (attempt : (change (t.buses b)).attempt = (t.buses b).attempt ∨
      (change (t.buses b)).attempt = none) : Quiet t (t.onBus b change) := by
  refine ⟨rfl, rfl, fun _ => id, fun h => ⟨h, rfl⟩, id, .inl, fun b' => ?_⟩
  rw [DbusTransport.buses_onBus]
  by_cases same : b' = b
  · subst same
    rw [if_pos rfl]
    exact ⟨rules, attempt⟩
  · rw [if_neg same]
    exact ⟨rfl, .inl rfl⟩

theorem quiesce : Quiet t t.quiesce := by
  unfold DbusTransport.quiesce
  cases t.bus with
  | none => exact .refl
  | some => exact .onBus rfl (.inl rfl)

theorem attemptFailed : Quiet t (t.attemptFailed reconnect) := by
  unfold DbusTransport.attemptFailed
  split
  · exact .refl
  · split_ifs
    · exact ⟨rfl, rfl, fun _ => id, nofun, id, .inl, fun _ => ⟨rfl, .inl rfl⟩⟩
    · exact ⟨rfl, rfl, fun _ => id, fun h => ⟨h, rfl⟩, id, .inl, fun _ => ⟨rfl, .inl rfl⟩⟩

theorem abort {b : Nat} {owner : Owner} : Quiet t (t.abort reconnect b owner) := by
  have ended : Quiet t (t.onBus b fun bus =>
      { bus with carries := false, closed := true, attempt := none }) := .onBus rfl (.inr rfl)
  cases owner with
  | connect => exact ended
  | reconnectLoop => exact ended.trans attemptFailed

theorem disconnect : Quiet t t.disconnect := by
  unfold DbusTransport.disconnect
  cases t.bus with
  | none =>
    exact ⟨rfl, rfl, nofun, nofun, fun _ => rfl, fun _ => .inr nofun,
      fun _ => ⟨rfl, .inl rfl⟩⟩
  | some b =>
    have closed : Quiet t (t.onBus b fun bus => { bus with carries := false, closed := true }) :=
      .onBus rfl (.inl rfl)
    exact closed.trans ⟨rfl, rfl, nofun, nofun, fun _ => rfl, fun _ => .inr nofun,
      fun _ => ⟨rfl, .inl rfl⟩⟩

theorem resumeCloser {k : Nat} : Quiet t (t.resumeCloser k) := by
  have resumed (closers : List Closer) : Quiet t { t with closers } :=
    ⟨rfl, rfl, fun _ => id, fun h => ⟨h, rfl⟩, id, .inl, fun _ => ⟨rfl, .inl rfl⟩⟩
  unfold DbusTransport.resumeCloser
  split
  · exact resumed _
  · exact resumed _
  · split_ifs
    · exact resumed _
    · exact .refl
  · exact .refl

/-- A drop leaves the rules alone, up to the bus that the loop begins to establish. -/
theorem lose {b : Nat} : Quiet t (t.lose reconnect b) ∨
    ∃ t', Quiet t t' ∧ t.lose reconnect b = t'.establish .reconnectLoop := by
  have lost : Quiet t (t.onBus b fun bus => { bus with lost := true }) := .onBus rfl (.inl rfl)
  simp only [DbusTransport.lose, DbusTransport.handleDrop]
  have down (state : State) (loop : Option ReconnectLoop) (notConnected : state ≠ .connected) :
      Quiet t { (t.onBus b fun bus => { bus with lost := true }).quiesce with
        state, loop, bus := none } :=
    (lost.trans quiesce).trans ⟨rfl, rfl, nofun, fun h => absurd h notConnected, id, .inl,
      fun _ => ⟨rfl, .inl rfl⟩⟩
  split_ifs
  · exact .inl lost
  · exact .inl lost
  · exact .inr ⟨_, down .reconnecting _ nofun, rfl⟩
  · exact .inl (down .disconnected _ nofun)
  · exact .inl lost

theorem wake : Quiet t (t.wake reconnect) ∨
    ∃ t', Quiet t t' ∧ t.wake reconnect = t'.establish .reconnectLoop := by
  have looped (loop : Option ReconnectLoop) : Quiet t { t with loop } :=
    ⟨rfl, rfl, fun _ => id, fun h => ⟨h, rfl⟩, id, .inl, fun _ => ⟨rfl, .inl rfl⟩⟩
  unfold DbusTransport.wake
  split
  · split_ifs
    · exact .inl (looped _)
    · exact .inr ⟨_, looped _, rfl⟩
  · exact .inl .refl

/-- Only the events about subscriptions change the registry. -/
theorem signals_step {event : Event} (other : event.onSignals = false) :
    (t.step reconnect event).signals = t.signals := by
  cases event with
  | connect =>
    simp only [DbusTransport.step]
    split_ifs <;> rfl
  | disconnect => exact disconnect.signals
  | lost b =>
    rcases (lose : Quiet t (t.lose reconnect b) ∨ _) with quiet | ⟨t', quiet, same⟩
    · exact quiet.signals
    · exact (congrArg DbusTransport.signals same).trans quiet.signals
  | handshake b ok | addMatch b ok =>
    simp only [DbusTransport.step]
    split
    · cases ok with
      | true => rfl
      | false => exact abort.signals
    · rfl
  | reissued =>
    simp only [DbusTransport.step]
    split
    · split_ifs
      · exact abort.signals
      · rfl
    · rfl
  | wake =>
    rcases (wake : Quiet t (t.wake reconnect) ∨ _) with quiet | ⟨t', quiet, same⟩
    · exact quiet.signals
    · exact (congrArg DbusTransport.signals same).trans quiet.signals
  | closer => exact resumeCloser.signals
  | subscribe | added | unsubscribe | removed => cases other

end Quiet

namespace RulesKept

variable {reconnect : Reconnect} {t t' : DbusTransport}

theorem quiet (kept : RulesKept t) (quiet : Quiet t t') : RulesKept t' := by
  have opening (notClosing : t'.closing = false) : t.closing = false := by
    by_contra isClosing
    simp [quiet.closing (by simpa using isClosing)] at notClosing
  have ended {b : Nat} (isNone : (t.buses b).attempt = none) : (t'.buses b).attempt = none :=
    (quiet.buses b).2.elim (fun same => same.trans isNone) id
  have still {b : Nat} {attempt : Attempt} (isAttempt : (t'.buses b).attempt = some attempt) :
      (t.buses b).attempt = some attempt :=
    (quiet.buses b).2.elim (fun same => same.symm.trans isAttempt)
      fun isNone => nomatch isNone.symm.trans isAttempt
  constructor
  · exact quiet.signals ▸ kept.stamped
  · exact quiet.signals ▸ kept.counted
  · exact quiet.signals ▸ kept.noneRejected
  · intro isClosing isConnected
    rcases quiet.closed isClosing with wasClosing | notConnected
    · exact kept.closing wasClosing (quiet.state isConnected).1
    · exact notConnected isConnected
  · intro isConnected
    obtain ⟨wasConnected, same⟩ := quiet.state isConnected
    exact same ▸ kept.connected wasConnected
  · exact fun b notCreated => ended (kept.fresh b (quiet.created ▸ notCreated))
  · intro b isBus
    obtain ⟨isCreated, isNone⟩ := kept.published b (quiet.bus b isBus)
    exact ⟨quiet.created ▸ isCreated, ended isNone⟩
  · rw [quiet.signals, quiet.created]
    exact fun call mem => ⟨(kept.adding call mem).1, ended (kept.adding call mem).2⟩
  · rw [quiet.signals, quiet.created]
    exact fun call mem => ⟨(kept.removing call mem).1, ended (kept.removing call mem).2⟩
  · intro isConnected b isBus rule
    rw [quiet.signals, (quiet.buses b).1]
    exact kept.current (quiet.state isConnected).1 b (quiet.bus b isBus) rule
  · intro notClosing b owner phase isAttempt rule
    rw [quiet.signals, (quiet.buses b).1]
    exact kept.attempts (opening notClosing) b owner phase (still isAttempt) rule
  · intro notClosing b owner reached rule isAttempt
    rw [quiet.signals]
    exact kept.meets (opening notClosing) b owner reached rule (still isAttempt)

theorem establish (kept : RulesKept t) (owner : Owner) : RulesKept (t.establish owner) := by
  obtain ⟨stamped, counted, noneRejected, closing, connected, fresh, published, adding, removing,
    current, attempts, meets⟩ := kept
  constructor
  case stamped => exact stamped
  case counted => exact counted
  case noneRejected => exact noneRejected
  case closing => exact closing
  case connected => exact connected
  case current =>
    intro isConnected b isBus rule
    have isCreated : b ≠ t.created := Nat.ne_of_lt (published b isBus).1
    rw [DbusTransport.buses_establish, if_neg isCreated]
    exact current isConnected b isBus rule
  case attempts =>
    intro notClosing b owner' phase isAttempt rule
    rw [DbusTransport.buses_establish] at isAttempt ⊢
    split_ifs at isAttempt ⊢ with isNew
    · cases isAttempt
      unfold SignalRegistry.owed
      cases (t.establish owner).signals.since rule <;> rfl
    · exact attempts notClosing b owner' phase isAttempt rule
  all_goals simp only [DbusTransport.buses_establish]
  all_goals simp only [DbusTransport.establish]
  all_goals grind

/-! ### Attempts -/

variable {b : Nat} {rule : JsString} {owner : Owner}

/-- Only the bus of an attempt changes. -/
theorem onAttempt (kept : RulesKept t) {attempt : Attempt}
    (isAttempt : (t.buses b).attempt = some attempt) {change : Bus → Bus}
    (attempts : t.closing = false → ∀ owner phase,
      (change (t.buses b)).attempt = some ⟨owner, phase⟩ → ∀ rule,
        (change (t.buses b)).rules.count rule = t.signals.owed phase rule)
    (meets : t.closing = false → ∀ owner reached rule,
      (change (t.buses b)).attempt = some ⟨owner, .addMatch reached rule⟩ →
        t.signals.since rule = some reached) : RulesKept (t.onBus b change) := by
  have isCreated : b < t.created := by
    by_contra notCreated
    exact nomatch (kept.fresh b (Nat.le_of_not_lt notCreated)).symm.trans isAttempt
  have other {b' : Nat} (isNone : (t.buses b').attempt = none) : b' ≠ b := by
    rintro rfl
    exact nomatch isNone.symm.trans isAttempt
  have unchanged {b' : Nat} (isNone : (t.buses b').attempt = none) :
      (t.onBus b change).buses b' = t.buses b' := by
    rw [DbusTransport.buses_onBus, if_neg (other isNone)]
  constructor
  case stamped => exact kept.stamped
  case counted => exact kept.counted
  case noneRejected => exact kept.noneRejected
  case closing => exact kept.closing
  case connected => exact kept.connected
  case fresh =>
    intro b' notCreated
    have isNone := kept.fresh b' notCreated
    rw [unchanged isNone, isNone]
  case published =>
    intro b' isBus
    obtain ⟨isCreated, isNone⟩ := kept.published b' isBus
    exact ⟨isCreated, by rw [unchanged isNone, isNone]⟩
  case adding =>
    intro call mem
    obtain ⟨isCreated, isNone⟩ := kept.adding call mem
    exact ⟨isCreated, by rw [unchanged isNone, isNone]⟩
  case removing =>
    intro call mem
    obtain ⟨isCreated, isNone⟩ := kept.removing call mem
    exact ⟨isCreated, by rw [unchanged isNone, isNone]⟩
  case current =>
    intro isConnected b' isBus rule
    rw [unchanged (kept.published b' isBus).2]
    exact kept.current isConnected b' isBus rule
  case attempts =>
    intro notClosing b' owner phase isAttempt' rule
    by_cases same : b' = b
    · subst same
      rw [DbusTransport.buses_onBus, if_pos rfl] at isAttempt' ⊢
      exact attempts notClosing owner phase isAttempt' rule
    · rw [DbusTransport.buses_onBus, if_neg same] at isAttempt' ⊢
      exact kept.attempts notClosing b' owner phase isAttempt' rule
  case meets =>
    intro notClosing b' owner reached rule isAttempt'
    by_cases same : b' = b
    · subst same
      rw [DbusTransport.buses_onBus, if_pos rfl] at isAttempt'
      exact meets notClosing owner reached rule isAttempt'
    · rw [DbusTransport.buses_onBus, if_neg same] at isAttempt'
      exact kept.meets notClosing b' owner reached rule isAttempt'

theorem installed_nextPhase {signals : SignalRegistry} (stamped : signals.Stamped) (reached : Nat)
    {since : Nat} (isKnown : signals.since rule = some since) :
    (signals.nextPhase reached).installed since = decide (since ≤ reached) := by
  obtain ⟨known, isCount, rfl⟩ := Option.map_eq_some_iff.mp isKnown
  unfold SignalRegistry.nextPhase
  split
  next isNone => simpa [Phase.installed] using stamped.nextRule_none isNone isCount
  next next count isNext =>
    obtain ⟨-, later, first⟩ := stamped.nextRule_some isNext
    have first := first rule known isCount
    simp only [Phase.installed, decide_eq_decide]
    omega

/-- The iteration of an attempt goes on: its bus has the rules up to `reached`. -/
theorem reissueRules (kept : RulesKept t) {attempt : Attempt} {reached : Nat}
    (isAttempt : (t.buses b).attempt = some attempt) {change : Bus → Bus}
    (rules : t.closing = false → ∀ rule, (change (t.buses b)).rules.count rule =
      match t.signals.since rule with
      | some since => if since ≤ reached then 1 else 0
      | none => 0) : RulesKept ((t.onBus b change).reissueRules b owner reached) := by
  simp only [DbusTransport.reissueRules, DbusTransport.onBus_onBus]
  refine kept.onAttempt isAttempt ?_ ?_
  · intro notClosing owner' phase isPhase rule
    cases isPhase
    refine (rules notClosing rule).trans ?_
    unfold SignalRegistry.owed
    cases isKnown : t.signals.since rule with
    | none => rfl
    | some =>
      have installed := installed_nextPhase kept.stamped reached isKnown
      simp only [DbusTransport.onBus, installed, decide_eq_true_eq]
  · intro notClosing owner' reached' rule isPhase
    have isNext : t.signals.nextPhase reached = .addMatch reached' rule :=
      congrArg Attempt.phase (Option.some.inj isPhase)
    unfold SignalRegistry.nextPhase at isNext
    split at isNext
    next => cases isNext
    next next count found =>
      cases isNext
      rw [SignalRegistry.since, (kept.stamped.nextRule_some found).1]
      rfl

theorem handshake (kept : RulesKept t)
    (isAttempt : (t.buses b).attempt = some ⟨owner, .handshake⟩) :
    RulesKept ((t.attachHandlers b).reissueRules b owner 0) := by
  refine kept.reissueRules isAttempt fun notClosing rule => ?_
  refine (kept.attempts notClosing b owner .handshake isAttempt rule).trans ?_
  unfold SignalRegistry.owed SignalRegistry.since
  cases isKnown : t.signals.matchRuleRefcount.get rule with
  | none => rfl
  | some =>
    have positive := kept.stamped.positive _ (kept.stamped.mem.mp isKnown)
    simp only [Option.map_some, Phase.installed, Bool.false_eq_true, if_false]
    rw [if_neg (Nat.not_le_of_lt positive)]

theorem addMatch (kept : RulesKept t) {b reached : Nat}
    (isAttempt : (t.buses b).attempt = some ⟨owner, .addMatch reached rule⟩) :
    RulesKept ((t.install b rule).reissueRules b owner reached) := by
  refine kept.reissueRules isAttempt fun notClosing other => ?_
  have before := kept.attempts notClosing b owner _ isAttempt other
  have isReached := kept.meets notClosing b owner reached rule isAttempt
  obtain ⟨known, isKnown, isSince⟩ := Option.map_eq_some_iff.mp isReached
  simp only [List.count_cons, before, SignalRegistry.owed]
  by_cases same : rule = other
  · subst same
    simp [isReached, Phase.installed]
  · unfold SignalRegistry.since
    cases isOther : t.signals.matchRuleRefcount.get other with
    | none => simp [same]
    | some known' =>
      have differs : known'.since ≠ reached := fun equal =>
        same (kept.stamped.injective isKnown isOther (isSince.trans equal.symm))
      have order : known'.since < reached ↔ known'.since ≤ reached := by omega
      simp [Phase.installed, same, order]

theorem publish (kept : RulesKept t) (isAttempt : (t.buses b).attempt = some ⟨owner, .reissued⟩)
    (notClosing : t.closing = false) : RulesKept (t.publish b owner) := by
  have ended : RulesKept (t.onBus b fun bus => { bus with attempt := none }) :=
    kept.onAttempt isAttempt nofun nofun
  have isCreated : b < t.created := by
    by_contra notCreated
    exact nomatch (kept.fresh b (Nat.le_of_not_lt notCreated)).symm.trans isAttempt
  have noAdds (rule : JsString) : t.signals.adds b rule = 0 := by
    refine List.countP_eq_zero.mpr fun call isCall awaited => ?_
    have isNone := (kept.adding call isCall).2
    rw [(of_decide_eq_true awaited).1] at isNone
    exact nomatch isNone.symm.trans isAttempt
  have noRemoves (rule : JsString) : t.signals.removes b rule = 0 := by
    refine List.countP_eq_zero.mpr fun call isCall awaited => ?_
    have isNone := (kept.removing call isCall).2
    rw [(of_decide_eq_true awaited).1] at isNone
    exact nomatch isNone.symm.trans isAttempt
  have isBus : (t.publish b owner).buses b = { t.buses b with attempt := none } := by
    simp [DbusTransport.publish]
  exact { ended with
    closing := fun isClosing => nomatch (notClosing : (t.publish b owner).closing = _).symm.trans isClosing
    connected := fun _ => nofun
    published := by
      rintro _ ⟨⟩
      exact ⟨isCreated, by rw [isBus]⟩
    current := by
      rintro - _ ⟨⟩ rule
      have signals : (t.publish b owner).signals = t.signals := rfl
      rw [isBus, signals, noAdds rule, noRemoves rule]
      exact kept.attempts notClosing b owner .reissued isAttempt rule }

/-! ### Subscriptions -/

/-- The subscriptions change, and the rules on buses that no attempt is to establish. -/
theorem ruled (kept : RulesKept t) {signals : SignalRegistry} {rules : Nat → List JsString}
    (stamped : signals.Stamped) (counted : signals.Counted) (rejected : signals.rejected = [])
    (adding : ∀ call ∈ signals.adding, call ∈ t.signals.adding ∨ t.ruleBus = some call.bus)
    (removing : ∀ call ∈ signals.removing, call ∈ t.signals.removing ∨ t.ruleBus = some call.bus)
    (current : ∀ b, t.ruleBus = some b → ∀ rule,
      (rules b).count rule + signals.adds b rule =
        signals.owed .reissued rule + signals.removes b rule)
    (attempts : t.closing = false → ∀ b owner phase,
      (t.buses b).attempt = some ⟨owner, phase⟩ → rules b = (t.buses b).rules ∧
        ∀ rule, signals.owed phase rule = t.signals.owed phase rule)
    (meets : t.closing = false → ∀ b owner reached rule,
      (t.buses b).attempt = some ⟨owner, .addMatch reached rule⟩ →
        signals.since rule = some reached) : RulesKept (t.ruled signals rules) := by
  have published {b : Nat} (isRuleBus : t.ruleBus = some b) :
      b < t.created ∧ (t.buses b).attempt = none := by
    unfold DbusTransport.ruleBus at isRuleBus
    split_ifs at isRuleBus
    exact kept.published b isRuleBus
  exact { kept with
    stamped, counted, meets
    noneRejected := rejected
    adding := fun call mem => (adding call mem).elim (kept.adding call) published
    removing := fun call mem => (removing call mem).elim (kept.removing call) published
    current := fun isConnected b isBus =>
      current b ((if_pos isConnected).trans isBus)
    attempts := by
      intro notClosing b owner phase isAttempt rule
      obtain ⟨same, owed⟩ := attempts notClosing b owner phase isAttempt
      have before := kept.attempts notClosing b owner phase isAttempt rule
      rw [← same, ← owed rule] at before
      exact before }

theorem current_ruleBus (kept : RulesKept t) (isRuleBus : t.ruleBus = some b) (rule : JsString) :
    (t.buses b).rules.count rule + t.signals.adds b rule =
      t.signals.owed .reissued rule + t.signals.removes b rule := by
  unfold DbusTransport.ruleBus at isRuleBus
  split_ifs at isRuleBus with isConnected
  exact kept.current isConnected b isRuleBus rule

/-- A rule that is inserted comes after those an iteration has met. -/
theorem owed_enrol (kept : RulesKept t) {spec : SignalSpec} (notClosing : t.closing = false)
    (apart : t.signals.count (buildMatchRule spec) = 0 → t.closing = false →
      ∀ b owner, (t.buses b).attempt ≠ some ⟨owner, .reissued⟩) {phase : Phase}
    (isAttempt : (t.buses b).attempt = some ⟨owner, phase⟩) (rule : JsString) :
    (t.signals.enrol spec).owed phase rule = t.signals.owed phase rule := by
  unfold SignalRegistry.owed
  rw [SignalRegistry.since_enrol]
  split_ifs with same
  · subst same
    cases isSince : t.signals.since (buildMatchRule spec) with
    | some => rfl
    | none =>
      have isNew := kept.counted.count_eq_zero_iff.mpr isSince
      cases phase with
      | handshake => rfl
      | addMatch reached next =>
        obtain ⟨known, isKnown, rfl⟩ :=
          Option.map_eq_some_iff.mp (kept.meets notClosing b owner reached next isAttempt)
        have before := kept.stamped.inserted _ (kept.stamped.mem.mp isKnown)
        have notMet : ¬ t.signals.inserted + 1 < known.since := by
          simp only at before
          omega
        simp [Phase.installed, notMet]
      | reissued => exact absurd isAttempt (apart isNew notClosing b owner)
  · rfl

theorem subscribe (kept : RulesKept t) {spec : SignalSpec}
    (apart : RulesApart t (.subscribe spec)) : RulesKept (t.subscribe spec) := by
  obtain ⟨subscriptions, nextSubId, handles, adding, removing, rejected⟩ :=
    SignalRegistry.enrol_others t.signals spec
  have stamped := kept.stamped.enrol spec
  have counted := kept.counted.enrol spec
  have isRecord : SubscriptionRecord.mk t.signals.nextSubId spec (buildMatchRule spec) ∈
      (t.signals.enrol spec).subscriptions := by simp [subscriptions]
  have otherIds : ∀ call ∈ t.signals.adding, call.id ≠ t.signals.nextSubId := by
    intro call mem
    obtain ⟨-, record, isRecord, isId, -⟩ := kept.counted.adding call mem
    exact isId ▸ Nat.ne_of_lt (kept.counted.older record isRecord)
  have meets : t.closing = false → ∀ b owner reached rule,
      (t.buses b).attempt = some ⟨owner, .addMatch reached rule⟩ →
        (t.signals.enrol spec).since rule = some reached := by
    intro notClosing b owner reached rule isAttempt
    have isReached := kept.meets notClosing b owner reached rule isAttempt
    rw [SignalRegistry.since_enrol, isReached]
    split_ifs
    · rfl
    · rfl
  have attempts : t.closing = false → ∀ b owner phase,
      (t.buses b).attempt = some ⟨owner, phase⟩ → (t.buses b).rules = (t.buses b).rules ∧
        ∀ rule, (t.signals.enrol spec).owed phase rule = t.signals.owed phase rule :=
    fun notClosing _ _ _ isAttempt => ⟨rfl, kept.owed_enrol notClosing apart isAttempt⟩
  have handedOver (known : ∀ b, t.ruleBus = some b →
      t.signals.count (buildMatchRule spec) ≠ 0) : RulesKept { t with
        signals := (t.signals.enrol spec).handOver t.signals.nextSubId (buildMatchRule spec) } := by
    refine kept.ruled (stamped.of_eq rfl rfl)
      (counted.handOver isRecord (adding ▸ otherIds)) (rejected.trans kept.noneRejected)
      (fun call mem => .inl (adding ▸ mem)) (fun call mem => .inl (removing ▸ mem)) ?_ attempts meets
    intro b isRuleBus rule
    have isKnown := mt kept.counted.count_eq_zero_iff.mpr (known b isRuleBus)
    have same : (t.signals.enrol spec).since rule = t.signals.since rule := by
      obtain ⟨since, isSince⟩ := Option.ne_none_iff_exists'.mp isKnown
      rw [SignalRegistry.since_enrol]
      split_ifs with same
      · rw [same, isSince]
        rfl
      · rfl
    have current := kept.current_ruleBus isRuleBus rule
    rw [← SignalRegistry.owed_congr same] at current
    simp only [SignalRegistry.adds, SignalRegistry.removes] at current ⊢
    rw [← adding, ← removing] at current
    exact current
  unfold DbusTransport.subscribe
  cases isRuleBus : t.ruleBus with
  | none => exact handedOver (by simp [isRuleBus])
  | some b =>
    by_cases isNew : t.signals.count (buildMatchRule spec) = 0
    · simp only [if_pos isNew]
      have isUnknown := kept.counted.count_eq_zero_iff.mp isNew
      have noHandle : (t.signals.enrol spec).handles.get t.signals.nextSubId = none := by
        rw [handles]
        cases isHandle : t.signals.handles.get t.signals.nextSubId with
        | none => rfl
        | some => exact absurd (kept.counted.handed _ _ isHandle) (Nat.lt_irrefl _)
      have otherRules : ∀ call ∈ t.signals.adding, call.rule ≠ buildMatchRule spec := by
        intro call mem same
        obtain ⟨-, record, isRecord, -, isRule⟩ := kept.counted.adding call mem
        have isKnown := kept.counted.known_iff.mpr ⟨record, isRecord, isRule.trans same⟩
        exact isKnown (Option.map_eq_none_iff.mp isUnknown)
      refine kept.ruled (stamped.of_eq rfl rfl)
        (counted.await isRecord noHandle
          (adding ▸ fun call mem => ⟨otherIds call mem, otherRules call mem⟩) b)
        (rejected.trans kept.noneRejected) ?_ (fun call mem => .inl (removing ▸ mem)) ?_
        attempts meets
      · intro call mem
        rcases List.mem_cons.mp mem with rfl | mem
        · exact .inr isRuleBus
        · exact .inl (adding ▸ mem)
      · intro b' isRuleBus' rule
        obtain rfl : b = b' := Option.some.inj (isRuleBus.symm.trans isRuleBus')
        have current := kept.current_ruleBus isRuleBus rule
        have adds : (t.signals.enrol spec).adds b rule = t.signals.adds b rule := by
          unfold SignalRegistry.adds
          rw [adding]
        have removes : (t.signals.enrol spec).removes b rule = t.signals.removes b rule := by
          unfold SignalRegistry.removes
          rw [removing]
        have owed := SignalRegistry.owed_enrol_new isUnknown rule
        change (t.buses b).rules.count rule + SignalRegistry.adds { t.signals.enrol spec with
          adding := AddMatch.mk t.signals.nextSubId b (buildMatchRule spec) ::
            (t.signals.enrol spec).adding } b rule =
          (t.signals.enrol spec).owed .reissued rule + (t.signals.enrol spec).removes b rule
        rw [SignalRegistry.adds_cons, adds, owed, removes]
        omega
    · simp only [if_neg isNew]
      exact handedOver fun _ _ => isNew

/-- The answer to an `AddMatch` or a `RemoveMatch` changes the rules of one bus. -/
theorem onRules (kept : RulesKept t) {signals : SignalRegistry} {rules : List JsString}
    (isNone : (t.buses b).attempt = none)
    (same : signals.matchRuleRefcount = t.signals.matchRuleRefcount)
    (inserted : signals.inserted = t.signals.inserted) (counted : signals.Counted)
    (rejected : signals.rejected = t.signals.rejected)
    (adding : ∀ call ∈ signals.adding, call ∈ t.signals.adding)
    (removing : ∀ call ∈ signals.removing, call ∈ t.signals.removing)
    (current : ∀ b', t.ruleBus = some b' → ∀ rule,
      (if b' = b then rules else (t.buses b').rules).count rule + signals.adds b' rule =
        t.signals.owed .reissued rule + signals.removes b' rule) :
    RulesKept { t.onBus b fun bus => { bus with rules } with signals } := by
  have since (rule : JsString) : signals.since rule = t.signals.since rule := by
    unfold SignalRegistry.since
    rw [same]
  rw [DbusTransport.onBus_rules]
  refine kept.ruled (kept.stamped.of_eq same inserted) counted (rejected.trans kept.noneRejected)
    (fun call mem => .inl (adding call mem)) (fun call mem => .inl (removing call mem)) ?_ ?_ ?_
  · intro b' isRuleBus rule
    rw [Function.update_apply, SignalRegistry.owed_congr (since rule)]
    exact current b' isRuleBus rule
  · intro notClosing b' owner phase isAttempt
    have differs : b' ≠ b := by
      rintro rfl
      exact nomatch isNone.symm.trans isAttempt
    exact ⟨Function.update_of_ne differs _ _, fun rule => SignalRegistry.owed_congr (since rule) phase⟩
  · intro notClosing b' owner reached rule isAttempt
    rw [since]
    exact kept.meets notClosing b' owner reached rule isAttempt

theorem added (kept : RulesKept t) (call : AddMatch) {ok : Bool}
    (apart : RulesApart t (.added call ok)) : RulesKept (t.added call ok) := by
  unfold DbusTransport.added
  by_cases awaited : call ∈ t.signals.adding
  · rw [if_pos awaited]
    obtain rfl : ok = true := by
      by_contra failed
      rw [Bool.not_eq_true] at failed
      subst failed
      exact apart awaited
    obtain ⟨-, record, isRecord, isId, isRule⟩ := kept.counted.adding call awaited
    have counted : SignalRegistry.Counted ((SignalRegistry.handOver
        { t.signals with adding := t.signals.adding.erase call } call.id call.rule)) := by
      rw [← isId, ← isRule]
      exact (kept.counted.answer call).handOver isRecord (isId ▸ kept.counted.of_answer awaited)
    refine kept.onRules (kept.adding call awaited).2 rfl rfl counted rfl
      (fun other mem => List.mem_of_mem_erase mem) (fun other mem => mem) fun b isRuleBus rule => ?_
    have current := kept.current_ruleBus isRuleBus rule
    have adds : (SignalRegistry.handOver { t.signals with adding := t.signals.adding.erase call }
        call.id call.rule).adds b rule + (if call.bus = b ∧ call.rule = rule then 1 else 0) =
          t.signals.adds b rule := SignalRegistry.adds_erase awaited b rule
    have removes : (SignalRegistry.handOver { t.signals with adding := t.signals.adding.erase call }
        call.id call.rule).removes b rule = t.signals.removes b rule := rfl
    rw [removes]
    by_cases here : b = call.bus
    · subst here
      rw [if_pos rfl, List.count_cons]
      simp only [true_and, beq_iff_eq] at adds ⊢
      omega
    · simp only [here, Ne.symm here, false_and, if_false] at adds ⊢
      omega
  · rw [if_neg awaited]
    exact kept

theorem removed (kept : RulesKept t) (call : RemoveMatch) {ok : Bool}
    (apart : RulesApart t (.removed call ok)) : RulesKept (t.removed call ok) := by
  unfold DbusTransport.removed
  by_cases awaited : call ∈ t.signals.removing
  · rw [if_pos awaited]
    have counted : SignalRegistry.Counted
        { t.signals with removing := t.signals.removing.erase call } := { kept.counted with }
    cases ok with
    | true =>
      refine kept.onRules (kept.removing call awaited).2 rfl rfl counted rfl
        (fun other mem => mem) (fun other mem => List.mem_of_mem_erase mem) fun b isRuleBus rule => ?_
      have current := kept.current_ruleBus isRuleBus rule
      have removes := SignalRegistry.removes_erase awaited b rule
      have adds := kept.counted.adds_le b rule
      have stays : SignalRegistry.adds { t.signals with
        removing := t.signals.removing.erase call } b rule = t.signals.adds b rule := rfl
      rw [stays]
      by_cases here : b = call.bus
      · subst here
        rw [if_pos rfl, List.count_erase]
        simp only [true_and, beq_iff_eq] at removes ⊢
        omega
      · simp only [here, Ne.symm here, false_and, if_false] at removes ⊢
        omega
    | false =>
      refine kept.ruled (kept.stamped.of_eq rfl rfl) counted kept.noneRejected
        (fun other mem => .inl mem) (fun other mem => .inl (List.mem_of_mem_erase mem)) ?_
        (fun _ _ _ _ _ => ⟨rfl, fun _ => rfl⟩) kept.meets
      intro b isRuleBus rule
      have current := kept.current_ruleBus isRuleBus rule
      have removes := SignalRegistry.removes_erase awaited b rule
      have there : call.bus ≠ b := by
        rintro rfl
        unfold DbusTransport.ruleBus at isRuleBus
        split_ifs at isRuleBus with isConnected
        exact apart awaited isConnected isRuleBus
      rw [if_neg fun both => there both.1, Nat.add_zero] at removes
      change (t.buses b).rules.count rule + t.signals.adds b rule =
        t.signals.owed .reissued rule + SignalRegistry.removes
          { t.signals with removing := t.signals.removing.erase call } b rule
      rw [removes]
      exact current
  · rw [if_neg awaited]
    exact kept

variable {id : Nat}

theorem unsubscribe (kept : RulesKept t) (apart : RulesApart t (.unsubscribe id)) :
    RulesKept (t.unsubscribe id) := by
  unfold DbusTransport.unsubscribe
  split
  next rule isHandle =>
    obtain ⟨subscriptions, nextSubId, handles, adding, removing, rejected⟩ :=
      SignalRegistry.retire_others t.signals id rule
    have stamped := kept.stamped.retire id rule
    have counted := kept.counted.retire isHandle
    obtain ⟨record, isRecord, -, isRule⟩ := kept.counted.live id rule isHandle
    have isKnown := kept.counted.known_iff.mpr ⟨record, isRecord, isRule⟩
    obtain ⟨known, isKnown⟩ := Option.ne_none_iff_exists'.mp isKnown
    have isSince : t.signals.since rule = some known.since := by
      rw [SignalRegistry.since, isKnown, Option.map_some]
    have isCount : t.signals.count rule = known.count := by
      rw [SignalRegistry.count, isKnown, Option.map_some, Option.getD_some]
    have since : ∀ other, (t.signals.retire id rule).since other =
        if other = rule ∧ t.signals.count rule = 1 then none else t.signals.since other :=
      SignalRegistry.since_retire id (by
        rw [isCount]
        exact Nat.ne_of_gt (kept.counted.used rule known isKnown))
    have notMet (isLast : t.signals.count rule = 1) (notClosing : t.closing = false) {b : Nat}
        {owner : Owner} {phase : Phase} (isAttempt : (t.buses b).attempt = some ⟨owner, phase⟩) :
        ¬ phase.Met known.since :=
      apart rule known isHandle isKnown (Nat.le_of_eq (isCount ▸ isLast)) notClosing b owner phase
        isAttempt
    have attempts : t.closing = false → ∀ b owner phase,
        (t.buses b).attempt = some ⟨owner, phase⟩ → (t.buses b).rules = (t.buses b).rules ∧
          ∀ other, (t.signals.retire id rule).owed phase other = t.signals.owed phase other := by
      intro notClosing b owner phase isAttempt
      refine ⟨rfl, fun other => ?_⟩
      unfold SignalRegistry.owed
      rw [since]
      split_ifs with isLast
      · obtain ⟨rfl, isLast⟩ := isLast
        have notInstalled := mt Phase.met_of_installed (notMet isLast notClosing isAttempt)
        simp [isSince, notInstalled]
      · rfl
    have meets : t.closing = false → ∀ b owner reached other,
        (t.buses b).attempt = some ⟨owner, .addMatch reached other⟩ →
          (t.signals.retire id rule).since other = some reached := by
      intro notClosing b owner reached other isAttempt
      have isReached := kept.meets notClosing b owner reached other isAttempt
      rw [since, if_neg, isReached]
      rintro ⟨rfl, isLast⟩
      have same := Option.some.inj (isSince.symm.trans isReached)
      exact notMet isLast notClosing isAttempt (Nat.le_of_eq same)
    have adds (b : Nat) (other : JsString) :
        (t.signals.retire id rule).adds b other = t.signals.adds b other := by
      unfold SignalRegistry.adds
      rw [adding]
    have removes (b : Nat) (other : JsString) :
        (t.signals.retire id rule).removes b other = t.signals.removes b other := by
      unfold SignalRegistry.removes
      rw [removing]
    have retired (shared : ∀ b, t.ruleBus = some b → t.signals.count rule ≠ 1) :
        RulesKept { t with signals := t.signals.retire id rule } := by
      refine kept.ruled stamped counted (rejected.trans kept.noneRejected)
        (fun call mem => .inl (adding ▸ mem)) (fun call mem => .inl (removing ▸ mem)) ?_ attempts meets
      intro b isRuleBus other
      have same : (t.signals.retire id rule).since other = t.signals.since other := by
        rw [since, if_neg fun both => shared b isRuleBus both.2]
      rw [adds, removes, SignalRegistry.owed_congr same]
      exact kept.current_ruleBus isRuleBus other
    cases isRuleBus : t.ruleBus with
    | none => exact retired (by simp [isRuleBus])
    | some b =>
      by_cases isLast : t.signals.count rule = 1
      · simp only [if_pos isLast]
        refine kept.ruled (stamped.of_eq rfl rfl) { counted with } (rejected.trans kept.noneRejected)
          (fun call mem => .inl (adding ▸ mem)) ?_ ?_ attempts meets
        · intro call mem
          rcases List.mem_cons.mp mem with rfl | mem
          · exact .inr isRuleBus
          · exact .inl (removing ▸ mem)
        · intro b' isRuleBus' other
          obtain rfl : b = b' := Option.some.inj (isRuleBus.symm.trans isRuleBus')
          have current := kept.current_ruleBus isRuleBus other
          have owed : (t.signals.retire id rule).owed .reissued other +
              (if rule = other then 1 else 0) = t.signals.owed .reissued other := by
            unfold SignalRegistry.owed
            rw [since]
            by_cases same : rule = other
            · subst same
              simp [isLast, isSince, Phase.installed]
            · simp [same, Ne.symm same]
          change (t.buses b).rules.count other + (t.signals.retire id rule).adds b other =
            (t.signals.retire id rule).owed .reissued other + SignalRegistry.removes
              { t.signals.retire id rule with
                removing := RemoveMatch.mk b rule :: (t.signals.retire id rule).removing } b other
          rw [SignalRegistry.removes_cons, adds, removes]
          omega
      · simp only [if_neg isLast]
        exact retired fun _ _ => isLast
  next => exact kept

/-! ### Steps and runs -/

theorem step (kept : RulesKept t) {event : Event} (apart : RulesApart t event) :
    RulesKept (t.step reconnect event) := by
  cases event with
  | connect =>
    simp only [DbusTransport.step]
    split_ifs with idle
    · exact kept
    · have connecting : Quiet t { t with state := .connecting } :=
        ⟨rfl, rfl, fun _ => id, nofun, id, .inl, fun _ => ⟨rfl, .inl rfl⟩⟩
      exact (kept.quiet connecting).establish .connect
  | disconnect => exact kept.quiet .disconnect
  | lost b =>
    have dropped : Quiet t (t.lose reconnect b) ∨
        ∃ t', Quiet t t' ∧ t.lose reconnect b = t'.establish .reconnectLoop := Quiet.lose
    rcases dropped with quiet | ⟨t', quiet, same⟩
    · exact kept.quiet quiet
    · simpa only [DbusTransport.step, same] using (kept.quiet quiet).establish .reconnectLoop
  | handshake b ok =>
    simp only [DbusTransport.step]
    split
    next owner isAttempt =>
      cases ok with
      | true => exact kept.handshake isAttempt
      | false => exact kept.quiet .abort
    next => exact kept
  | addMatch b ok =>
    simp only [DbusTransport.step]
    split
    next owner since rule isAttempt =>
      cases ok with
      | true => exact kept.addMatch isAttempt
      | false => exact kept.quiet .abort
    next => exact kept
  | reissued =>
    simp only [DbusTransport.step]
    split
    next owner isAttempt =>
      by_cases isClosing : t.closing
      · rw [if_pos isClosing]
        exact kept.quiet .abort
      · rw [if_neg isClosing]
        exact kept.publish isAttempt (by simpa using isClosing)
    next => exact kept
  | wake =>
    have woken : Quiet t (t.wake reconnect) ∨
        ∃ t', Quiet t t' ∧ t.wake reconnect = t'.establish .reconnectLoop := Quiet.wake
    rcases woken with quiet | ⟨t', quiet, same⟩
    · exact kept.quiet quiet
    · simpa only [DbusTransport.step, same] using (kept.quiet quiet).establish .reconnectLoop
  | closer => exact kept.quiet .resumeCloser
  | subscribe => exact kept.subscribe apart
  | added call ok => exact kept.added call apart
  | unsubscribe => exact kept.unsubscribe apart
  | removed call ok => exact kept.removed call apart

theorem run {events : List Event}
    (apart : AllowsEvents (DbusTransport.step reconnect) RulesApart .new events) :
    RulesKept (.run reconnect events) :=
  foldl_invariant (fun _ _ kept apart => kept.step apart) new apart

/-! ### Handles -/

theorem unsubscribe_signals (isHandle : t.signals.handles.get id = some ⟨rule, false⟩) : ∃ removing,
      (t.unsubscribe id).signals = { t.signals.retire id rule with removing } := by
  unfold DbusTransport.unsubscribe
  rw [isHandle]
  cases t.ruleBus with
  | none => exact ⟨_, rfl⟩
  | some =>
    by_cases isLast : t.signals.count rule = 1
    · exact ⟨_, by simp only [if_pos isLast]; rfl⟩
    · exact ⟨_, by simp only [if_neg isLast]; rfl⟩

/-- Only the handle that `unsubscribe` is called on changes once it is handed over. -/
theorem handles_step (kept : RulesKept t) {handle : Subscription}
    (isHandle : t.signals.handles.get id = some handle) {event : Event}
    (other : event ≠ .unsubscribe id) :
    (t.step reconnect event).signals.handles.get id = some handle := by
  have handedOver {other : Nat} (differs : id ≠ other) (rule : JsString) (removed : Bool) :
      (t.signals.handles.set other ⟨rule, removed⟩).get id = some handle := by
    rw [OrderedMap.get_set, if_neg differs]
    exact isHandle
  cases event with
  | subscribe spec =>
    obtain ⟨-, -, handles, -⟩ := SignalRegistry.enrol_others t.signals spec
    have isOld : id ≠ t.signals.nextSubId := Nat.ne_of_lt (kept.counted.handed id handle isHandle)
    have isHandedOver : ((t.signals.enrol spec).handOver t.signals.nextSubId
        (buildMatchRule spec)).handles.get id = some handle := by
      rw [SignalRegistry.handOver, handles]
      exact handedOver isOld _ _
    simp only [DbusTransport.step, DbusTransport.subscribe]
    split
    · split_ifs
      · exact handles ▸ isHandle
      · exact isHandedOver
    · exact isHandedOver
  | added call ok =>
    simp only [DbusTransport.step, DbusTransport.added]
    split_ifs with awaited isOk
    · have noHandle := (kept.counted.adding call awaited).1
      refine handedOver ?_ _ _
      rintro rfl
      cases noHandle.symm.trans isHandle
    · exact isHandle
    · exact isHandle
  | unsubscribe id' =>
    have differs : id ≠ id' := by
      rintro rfl
      exact other rfl
    simp only [DbusTransport.step, DbusTransport.unsubscribe]
    split
    next rule _ =>
      obtain ⟨-, -, handles, -⟩ := SignalRegistry.retire_others t.signals id' rule
      have retired : (t.signals.retire id' rule).handles.get id = some handle :=
        handles ▸ handedOver differs _ _
      split
      · split_ifs <;> exact retired
      · exact retired
    next => exact isHandle
  | removed =>
    simp only [DbusTransport.step, DbusTransport.removed]
    split_ifs <;> exact isHandle
  | _ =>
    rw [Quiet.signals_step]
    · exact isHandle
    · rfl

theorem matchRules (kept : RulesKept t) : MatchRules reconnect t := by
  constructor
  · intro isConnected notAdding notRemoving
    obtain ⟨b, isBus⟩ := Option.ne_none_iff_exists'.mp (kept.connected isConnected)
    exact ⟨b, isBus, kept.mem_rules isConnected notAdding notRemoving isBus⟩
  · exact kept.counted.counts
  · rw [kept.noneRejected]
    exact nofun
  · intro id rule isHandle
    obtain ⟨removing, same⟩ := unsubscribe_signals isHandle
    obtain ⟨-, -, handles, -⟩ := SignalRegistry.retire_others t.signals id rule
    rw [same]
    constructor
    · simp only [handles, OrderedMap.get_set, if_true]
    · exact SignalRegistry.count_retire t.signals id rule
  · intro id rule isHandle
    have unchanged : t.unsubscribe id = t := by
      unfold DbusTransport.unsubscribe
      rw [isHandle]
    refine ⟨unchanged, fun event => ?_⟩
    by_cases same : event = .unsubscribe id
    · subst same
      rw [DbusTransport.step, unchanged]
      exact isHandle
    · exact kept.handles_step isHandle same

end RulesKept

/-- In a run in which no call about a rule fails and rules are inserted and deleted apart from
the iterations of attempts, the rules on the bus are those of the subscriptions. -/
theorem matchRules_run (reconnect : Reconnect) (events : List Event)
    (apart : AllowsEvents (DbusTransport.step reconnect) RulesApart .new events) :
    MatchRules reconnect (.run reconnect events) :=
  (RulesKept.run apart).matchRules

def modemAdded : SignalSpec := ⟨js "o.f.D", js "A", none, none⟩

def modemAddedRule : JsString := buildMatchRule modemAdded

/-- A rule is added and removed on one bus, and a second bus follows. -/
def runSubscribing : List Event :=
  [.connect, .handshake 0 true, .reissued 0, .subscribe modemAdded,
    .added (AddMatch.mk 1 0 modemAddedRule) true, .unsubscribe 1,
    .removed (RemoveMatch.mk 0 modemAddedRule) true, .lost 0, .handshake 1 true, .reissued 1]

theorem matchRules_subscribing :
    MatchRules DEFAULT_RECONNECT (.run DEFAULT_RECONNECT runSubscribing) := by
  refine matchRules_run DEFAULT_RECONNECT runSubscribing
    ⟨trivial, trivial, trivial, ?_, trivial, ?_, trivial, trivial, trivial, trivial, trivial⟩
  · intro _ _ b owner isAttempt
    match b with
    | 0 => cases isAttempt
    | b + 1 => cases isAttempt
  · intro rule known _ _ _ _ b owner phase isAttempt
    match b with
    | 0 => cases isAttempt
    | b + 1 => cases isAttempt

/-- A subscription outlives its `subscribe`, a rule outlives its subscription on the bus that was
being established and where its removal failed, and a subscription is left without its rule. -/
theorem matchRules_fails :
    ¬ MatchRules DEFAULT_RECONNECT (.run DEFAULT_RECONNECT
      [.connect, .handshake 0 true, .reissued 0, .subscribe modemAdded,
        .added (AddMatch.mk 1 0 modemAddedRule) false]) ∧
    ¬ MatchRules DEFAULT_RECONNECT (.run DEFAULT_RECONNECT
      [.subscribe modemAdded, .connect, .handshake 0 true, .unsubscribe 1, .addMatch 0 true,
        .reissued 0]) ∧
    ¬ MatchRules DEFAULT_RECONNECT (.run DEFAULT_RECONNECT
      [.connect, .handshake 0 true, .subscribe modemAdded, .reissued 0]) ∧
    ¬ MatchRules DEFAULT_RECONNECT (.run DEFAULT_RECONNECT
      [.connect, .handshake 0 true, .reissued 0, .subscribe modemAdded,
        .added (AddMatch.mk 1 0 modemAddedRule) true, .unsubscribe 1,
        .removed (RemoveMatch.mk 0 modemAddedRule) false]) := by
  refine ⟨fun rules => ?_, fun rules => ?_, fun rules => ?_, fun rules => ?_⟩
  · exact rules.rejected 1 List.mem_cons_self (SubscriptionRecord.mk 1 modemAdded modemAddedRule)
      List.mem_cons_self rfl
  · obtain ⟨b, isBus, installed⟩ := rules.installed rfl rfl rfl
    cases isBus
    obtain ⟨record, mem, -⟩ := (installed modemAddedRule).mp List.mem_cons_self
    cases mem
  · obtain ⟨b, isBus, installed⟩ := rules.installed rfl rfl rfl
    cases isBus
    have isRule := (installed modemAddedRule).mpr
      ⟨SubscriptionRecord.mk 1 modemAdded modemAddedRule, List.mem_cons_self, rfl⟩
    cases isRule
  · obtain ⟨b, isBus, installed⟩ := rules.installed rfl rfl rfl
    cases isBus
    obtain ⟨record, mem, -⟩ := (installed modemAddedRule).mp List.mem_cons_self
    cases mem

end ModemStack.Transport
