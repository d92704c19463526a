import ModemStack.Async.Timed
import ModemStack.Backend.RecoveryLadder
import ModemStack.Domain.PhysicalIdentity
import ModemStack.Text.Number

/-!
The power hook that cycles a port of a USB hub, and waits for the modem to come back.

Its command is bounded by a timeout; the poller that it asks about the modem is awaited as it is.
-/

namespace ModemStack.Power

open ModemStack.Async ModemStack.Backend ModemStack.Domain ModemStack.Text

structure UhubctlPortMapping where
  hubLocation : JsString
  port : Nat

structure UhubctlResult where
  stdout : JsString
  stderr : JsString
  exitCode : Double

/-- What the hook is built over. Its calls move the clock, if at all, forward. -/
structure HookDeps (σ : Type) where
  ports : List (JsString × UhubctlPortMapping)
  run : List JsString → Clock σ → Promise JsString UhubctlResult × Clock σ
  idPathFor : JsString → Timed σ JsString (Option JsString)
  enumerationTimeoutMs : Nat
  commandTimeoutMs : Nat
  pollIntervalMs : Nat
  powerOffDelaySeconds : Double
  /-- When the signal is aborted. -/
  abortedAt : Option Nat
  forward : ∀ stableKey s, s.now ≤ (idPathFor stableKey s).2.now

/-! ### The command -/

def isHubLocation (token : JsString) : Bool :=
  match token.splitOn 0x2D with
  | [bus] => isDigits 1 3 bus
  | [bus, path] => isDigits 1 3 bus && (path.splitOn fullStop).all (isDigits 1 3)
  | _ => false

def isAllowedArgv (token : JsString) : Bool :=
  [js "-l", js "-p", js "-a", js "-d", js "cycle"].contains token || isHubLocation token ||
    isDigits 1 3 token

def cycleArgv (mapping : UhubctlPortMapping) (powerOffDelaySeconds : Double) : List JsString :=
  [js "-l", mapping.hubLocation, js "-p", printNat mapping.port, js "-a", js "cycle", js "-d",
    powerOffDelaySeconds.text]

/-- The arguments, if each of them is allowed. -/
def uhubctlCycleArgv (mapping : UhubctlPortMapping) (powerOffDelaySeconds : Double) :
    Except JsString (List JsString) :=
  let argv := cycleArgv mapping powerOffDelaySeconds
  match argv.find? fun token => !isAllowedArgv token with
  | some token => .error (js "refusing to run uhubctl: argv token '" ++ token ++
      js "' is not allowlisted")
  | none => .ok argv

section Hook

/-! ### The wait -/

variable {σ : Type} (deps : HookDeps σ)

def isAborted (time : Nat) : Bool := deps.abortedAt.any fun aborted => aborted ≤ time

def powerCycleCancelled : PowerCycleResult := ⟨.failed, js "power cycle cancelled by the caller"⟩

def cancelled : Timed σ JsString (Option PowerCycleResult) := fun s =>
  (.value (if isAborted deps s.now then some powerCycleCancelled else none), s)

/-- The path that was observed, if it is the expected one or none was expected. -/
def reappeared (expected observed : Option JsString) : Option JsString :=
  observed.filter fun path => expected.all fun before => path = before

def cycleApplied (path : JsString) : PowerCycleResult :=
  ⟨.applied, js "port cycled; modem re-enumerated at ID_PATH '" ++ path ++ js "'"⟩

def quoted (path : Option JsString) (missing : String) : JsString :=
  match path with
  | some path => js "'" ++ path ++ js "'"
  | none => js missing

def notReenumerated (expected observed : Option JsString) : PowerCycleResult :=
  ⟨.failed, js "modem did not re-enumerate within " ++ printNat deps.enumerationTimeoutMs ++
    js "ms — expected ID_PATH " ++ quoted expected "(any device)" ++ js ", observed " ++
    quoted observed "no device"⟩

/-- The `while` of the wait. Each round takes time, so that as many rounds as milliseconds to the
deadline are enough (`reenumerationLoop_cases`). -/
def reenumerationLoop (stableKey : JsString) (expected : Option JsString) (deadline : Nat) :
    Nat → Option JsString → Timed σ JsString PowerCycleResult
  | 0, observed => pure (notReenumerated deps expected observed)
  | rounds + 1, observed => do
      let time ← Timed.now
      if time < deadline then
        match ← cancelled deps with
        | some abort => pure abort
        | none => do
            let observed ← deps.idPathFor stableKey
            match reappeared expected observed with
            | some path => pure (cycleApplied path)
            | none => do
                Timed.sleep deps.pollIntervalMs
                reenumerationLoop stableKey expected deadline rounds observed
      else pure (notReenumerated deps expected observed)

def awaitReenumeration (stableKey : JsString) (expected : Option JsString) :
    Timed σ JsString PowerCycleResult := do
  let start ← Timed.now
  reenumerationLoop deps stableKey expected (start + deps.enumerationTimeoutMs)
    deps.enumerationTimeoutMs none

/-! ### The cycle -/

def runFailed (argv : List JsString) (error : JsString) : PowerCycleResult :=
  ⟨.failed, js "uhubctl " ++ [0x20].intercalate argv ++ js " failed: " ++ error⟩

def runExited (argv : List JsString) (result : UhubctlResult) : PowerCycleResult :=
  let output := if trim result.stderr ≠ [] then trim result.stderr
    else if trim result.stdout ≠ [] then trim result.stdout else js "(no output)"
  ⟨.failed, js "uhubctl " ++ [0x20].intercalate argv ++ js " exited " ++ result.exitCode.text ++
    js ": " ++ output⟩

/-- `withTimeout(Promise.resolve(deps.runner.run(argv)), ...)` -/
def bounded (answer : Promise JsString UhubctlResult) (commandTimeoutMs : Nat) :
    Promise JsString UhubctlResult :=
  withTimeout answer commandTimeoutMs
    (js "uhubctl did not return within " ++ printNat commandTimeoutMs ++ js "ms")

def runCommand (argv : List JsString) : Timed σ JsString UhubctlResult := fun s =>
  Timed.settle (bounded (deps.run argv s).1 deps.commandTimeoutMs) (deps.run argv s).2

def cycleMapped (stableKey : JsString) (mapping : UhubctlPortMapping) :
    Timed σ JsString PowerCycleResult := do
  let expected ← deps.idPathFor stableKey
  match uhubctlCycleArgv mapping deps.powerOffDelaySeconds with
  | .error error => pure ⟨.failed, error⟩
  | .ok argv => do
      match ← (runCommand deps argv).attempt with
      | .error error => pure (runFailed argv error)
      | .ok result =>
        if result.exitCode.same (.finite 0) then awaitReenumeration deps stableKey expected
        else pure (runExited argv result)

def portFor (stableKey : JsString) : Option UhubctlPortMapping :=
  (deps.ports.find? fun entry => entry.1 = stableKey).map Prod.snd

/-- `cycle`, whose task waits `queuedMs` behind the earlier ones of its key. -/
def cycle (stableKey : JsString) (queuedMs : Nat) : Timed σ JsString PowerCycleResult :=
  match portFor deps stableKey with
  | none => pure ⟨.unsupported, js "no uhubctl hub/port mapping is configured for stable key '" ++
      stableKey ++ js "'"⟩
  | some mapping => do
      match ← cancelled deps with
      | some abort => pure abort
      | none => do
          Timed.settle (.resolves queuedMs ())
          cycleMapped deps stableKey mapping

/-! ### How each part can end -/

variable {deps} {stableKey : JsString} {expected : Option JsString} {deadline : Nat}

end Hook

/-! ### A hook among runners and pollers of any behaviour -/

structure PollCall where
  calledAt : Nat
  answer : Promise JsString (Option JsString)

structure RunCall where
  argv : List JsString
  calledAt : Nat
  answer : Promise JsString UhubctlResult

/-- The calls that a hook has made. -/
structure HookLog where
  polls : List PollCall
  runs : List RunCall

structure HookConfig where
  ports : List (JsString × UhubctlPortMapping)
  enumerationTimeoutMs : Nat
  commandTimeoutMs : Nat
  pollIntervalMs : Nat
  powerOffDelaySeconds : Double

/-- What each call is answered, the first one first, and when the signal is aborted. -/
structure HookWorld where
  polls : Nat → Promise JsString (Option JsString)
  runs : Nat → Promise JsString UhubctlResult
  abortedAt : Option Nat

namespace HookWorld

variable (config : HookConfig) (world : HookWorld)

def poll : Timed HookLog JsString (Option JsString) := fun s =>
  let answer := world.polls s.rest.polls.length
  Timed.settle answer ⟨s.now, { s.rest with polls := s.rest.polls ++ [⟨s.now, answer⟩] }⟩

def deps : HookDeps HookLog :=
  { config with
    run := fun argv s =>
      let answer := world.runs s.rest.runs.length
      (answer, ⟨s.now, { s.rest with runs := s.rest.runs ++ [⟨argv, s.now, answer⟩] }⟩)
    idPathFor := fun _ => world.poll
    abortedAt := world.abortedAt
    forward := fun _ s => by
      show s.now ≤ (world.poll s).2.now
      unfold poll
      dsimp only
      cases world.polls s.rest.polls.length with
      | never => exact Nat.le_refl _
      | _ => exact Nat.le_add_right _ _ }

/-- A cycle that is asked for at `begun`. -/
def cycled (stableKey : JsString) (queuedMs begun : Nat) :
    Ended JsString PowerCycleResult × Clock HookLog :=
  cycle (world.deps config) stableKey queuedMs ⟨begun, ⟨[], []⟩⟩

/-- How long the hook waits for a command. -/
def spent (answer : Promise JsString UhubctlResult) : Nat :=
  match bounded answer config.commandTimeoutMs with
  | .resolves ms _ | .rejects ms _ => ms
  | .never => 0

variable {config world} {stableKey : JsString} {s polled : Clock HookLog}

/-- A later poll that did not show what the first one lets the hook wait for. -/
def Missed (log : HookLog) (poll : PollCall) (ms : Nat) : Prop :=
  poll ∈ log.polls.tail ∧ ∃ first ∈ log.polls.head?, ∃ ms' expected observed,
    first.answer = .resolves ms' expected ∧ poll.answer = .resolves ms observed ∧
      reappeared expected observed = none

/-- The polls are answered and the command is over by a time, and those that did not show the
modem a poll interval earlier. -/
structure InTime (config : HookConfig) (log : HookLog) (limit : Nat) : Prop where
  answered : ∀ poll ∈ log.polls, ∃ ms observed, poll.answer = .resolves ms observed ∧
    poll.calledAt + ms ≤ limit
  ran : ∀ run ∈ log.runs, run.calledAt + spent config run.answer ≤ limit
  paused : ∀ poll ms, Missed log poll ms →
    poll.calledAt + ms + timerDelay config.pollIntervalMs ≤ limit

/-- The command was run and exited with 0, and a later poll showed the path of the poll before it,
or any path if that one showed none. -/
def Proven (log : HookLog) : Prop :=
  ∃ first run later ms before ms' result ms'' path, log.polls.head? = some first ∧
    log.runs = [run] ∧ later ∈ log.polls.tail ∧
    first.answer = .resolves ms before ∧ first.calledAt + ms ≤ run.calledAt ∧
    run.answer = .resolves ms' result ∧ result.exitCode.same (.finite 0) = true ∧
    run.calledAt + ms' ≤ later.calledAt ∧ later.answer = .resolves ms'' (some path) ∧
    (before = none ∨ before = some path)

/-- The time by which a cycle has to be over. -/
def limit (config : HookConfig) (queuedMs begun : Nat) : Nat :=
  begun + queuedMs + (config.commandTimeoutMs + config.enumerationTimeoutMs + config.pollIntervalMs)

structure Answers (config : HookConfig) (world : HookWorld) (stableKey : JsString)
    (queuedMs begun : Nat) : Prop where
  settles : ∃ result, (cycled config world stableKey queuedMs begun).1 = .value result
  inTime : (cycled config world stableKey queuedMs begun).2.now ≤ limit config queuedMs begun
  once : (cycled config world stableKey queuedMs begun).2.rest.runs.length ≤ 1
  mapped : ∀ run ∈ (cycled config world stableKey queuedMs begun).2.rest.runs,
    ∃ mapping, portFor (world.deps config) stableKey = some mapping ∧
      run.argv = cycleArgv mapping config.powerOffDelaySeconds
  proven : ∀ result, (cycled config world stableKey queuedMs begun).1 = .value result →
    result.status = .applied → Proven (cycled config world stableKey queuedMs begun).2.rest

end HookWorld

end ModemStack.Power
