import ModemStack.Power.UhubctlHook

/-!
The harness that cycles the port of a modem and judges, from what its hook polled, whether the
modem left the bus and came back.
-/

namespace ModemStack.Power

open ModemStack.Async ModemStack.Backend ModemStack.Text

inductive HilCyclePhase where
  | preCapture
  | cycle
  | disappeared
  | reenumerated
  | mmRedetect
  | emit
deriving DecidableEq

inductive HilCycleFailure where
  | hubMapUnreadable
  | hubMapSlotUnmapped
  | preCaptureFailed
  | slotNotEnumerated
  | mmSlotAbsent
  | powerCycleUnsupported
  | powerCycleFailed
  | noVbusDrop
  | reenumerationTimeout
  | mmRedetectTimeout
  | mmSlotMismatch
deriving DecidableEq

structure MmSlotRecord where
  path : JsString
  device : JsString

inductive HilCycleOutcome where
  | pass (slot idPath mmDevice : JsString) (disappearedMs reenumeratedMs : Nat)
  | failed (reason : HilCycleFailure) (detail : JsString)

structure HilCycleArgs where
  slot : JsString
  mmSlot : JsString

structure PresenceSample where
  atMs : Nat
  idPath : Option JsString

/-- What was called; the polls of the hook are told from that of the harness. -/
inductive HilCall where
  | portMap
  | usbSweep
  | mmSlots
  | poll
  | hookPoll
deriving DecidableEq

inductive Fate where
  | resolved
  | rejected
  | never
deriving DecidableEq

def fate {ε α : Type} : Promise ε α → Fate
  | .resolves _ _ => .resolved
  | .rejects _ _ => .rejected
  | .never => .never

/-- What the harness holds, and what it has met. -/
structure HilRecord where
  calls : List (HilCall × Fate)
  phases : List HilCyclePhase
  recording : Bool
  trace : List PresenceSample
  /-- How many samples there were when the command was issued. -/
  issued : Option Nat
  runs : Nat
  startedAt : Nat
  listings : List (List MmSlotRecord)
  answered : Option PowerCycleResult

def HilRecord.count (record : HilRecord) (call : HilCall) : Nat :=
  record.calls.countP fun made => made.1 = call

def newRecord : HilRecord :=
  ⟨[], [], false, [], none, 0, 0, [], none⟩

/-- What each call is answered, the first one of its kind first, and what the harness is given. -/
structure HilDeps where
  portMap : Promise JsString (List (JsString × UhubctlPortMapping))
  usbSweep : Promise JsString JsString
  mmSlots : Nat → Promise JsString (List MmSlotRecord)
  poll : Promise JsString (Option JsString)
  hookPolls : Nat → Promise JsString (Option JsString)
  commands : Nat → Promise JsString UhubctlResult
  abortedAt : Option Nat
  enumerationTimeoutMs : Nat
  commandTimeoutMs : Nat
  pollIntervalMs : Nat
  powerOffDelaySeconds : Double
  reenumerationDeadlineMs : Nat
  mmRedetectTimeoutMs : Nat
  mmPollIntervalMs : Nat

abbrev Hil := Timed HilRecord JsString

variable (deps : HilDeps) (args : HilCycleArgs)

/-- Call a dependency and await its answer. -/
def ask {α : Type} (call : HilCall) (answer : Promise JsString α) : Hil α := fun s =>
  Timed.settle answer ⟨s.now, { s.rest with calls := s.rest.calls ++ [(call, fate answer)] }⟩

def phase (reached : HilCyclePhase) : Hil Unit :=
  Timed.modify fun record => { record with phases := record.phases ++ [reached] }

/-- `await deps.mmSlots()` -/
def readSlots : Hil (List MmSlotRecord) := do
  let record ← Timed.get
  let listing ← ask .mmSlots (deps.mmSlots (record.count .mmSlots))
  Timed.modify fun record => { record with listings := record.listings ++ [listing] }
  pure listing

def isSlot (selector : JsString) (record : MmSlotRecord) : Bool :=
  record.path = selector || (0x2F :: selector).isSuffixOf record.path || record.device = selector

def matchMmSlot (records : List MmSlotRecord) (selector : JsString) : Option MmSlotRecord :=
  records.find? (isSlot selector)

/-! ### The recording poller and the hook over it -/

/-- `recorder.idPathFor` -/
def recorded : Hil (Option JsString) := do
  let record ← Timed.get
  let idPath ← ask .hookPoll (deps.hookPolls (record.count .hookPoll))
  let time ← Timed.now
  Timed.modify fun record =>
    if record.recording then { record with trace := record.trace ++ [⟨time, idPath⟩] } else record
  pure idPath

theorem recorded_forward (s : Clock HilRecord) : s.now ≤ (recorded deps s).2.now := by
  unfold recorded
  rw [Timed.bind_value Timed.get_run, Timed.bind_run, ask]
  cases deps.hookPolls (s.rest.count .hookPoll) with
  | resolves | rejects => exact Nat.le_add_right _ _
  | never => exact Nat.le_refl _

/-- `createUhubctlPowerHook` over the map and the recorder. -/
def hilHook (ports : List (JsString × UhubctlPortMapping)) : HookDeps HilRecord where
  ports := ports
  run := fun _ s => (deps.commands s.rest.runs,
    ⟨s.now, { s.rest with runs := s.rest.runs + 1, issued := some s.rest.trace.length }⟩)
  idPathFor := fun _ => recorded deps
  enumerationTimeoutMs := deps.enumerationTimeoutMs
  commandTimeoutMs := deps.commandTimeoutMs
  pollIntervalMs := deps.pollIntervalMs
  powerOffDelaySeconds := deps.powerOffDelaySeconds
  abortedAt := deps.abortedAt
  forward := fun _ => recorded_forward deps

/-! ### The phases -/

def names (texts : List JsString) : JsString :=
  if texts = [] then js "(none)" else (js ", ").intercalate texts

/-- What the capture before the cycle leaves: the map, the path of the slot and its modem. -/
structure Baseline where
  ports : List (JsString × UhubctlPortMapping)
  idPath : JsString
  before : MmSlotRecord

/-- The body of the first `try`. -/
def capture : Hil (JsString × List MmSlotRecord) := do
  let sweep ← ask .usbSweep deps.usbSweep
  let mmBefore ← readSlots deps
  pure (sweep, mmBefore)

def preCapture (ports : List (JsString × UhubctlPortMapping)) :
    Hil (Except HilCycleOutcome Baseline) := do
  phase .preCapture
  match ← (capture deps).attempt with
  | .error error => pure (.error (.failed .preCaptureFailed error))
  | .ok (sweep, mmBefore) =>
    if trim sweep = [] then
      pure (.error (.failed .preCaptureFailed
        (js "the /sys/bus/usb/devices sweep produced no output")))
    else do
      match ← (ask .poll deps.poll).attempt with
      | .error error =>
        pure (.error (.failed .preCaptureFailed
          (js "resolving the slot ID_PATH failed: " ++ error)))
      | .ok none =>
        pure (.error (.failed .slotNotEnumerated
          (js "nothing is enumerated at slot '" ++ args.slot ++
            js "' right now — there is no baseline ID_PATH, so a re-enumeration " ++
            js "could not be proven")))
      | .ok (some idPath) =>
        match matchMmSlot mmBefore args.mmSlot with
        | none =>
          pure (.error (.failed .mmSlotAbsent
            (js "ModemManager does not report a modem matching '" ++ args.mmSlot ++
              js "' before the cycle (reported: " ++
              names (mmBefore.map MmSlotRecord.path) ++ js ")")))
        | some before => pure (.ok ⟨ports, idPath, before⟩)

/-- `await hook.cycle(...)`, its polls recorded. -/
def cycleHook (ports : List (JsString × UhubctlPortMapping)) : Hil PowerCycleResult := do
  phase .cycle
  let startedAt ← Timed.now
  Timed.modify fun record => { record with recording := true, startedAt }
  let result ← Power.cycle (hilHook deps ports) args.slot 0
  Timed.modify fun record => { record with recording := false, answered := some result }
  pure result

def statusText : PowerStatus → JsString
  | .applied => js "applied"
  | .unsupported => js "unsupported"
  | .failed => js "failed"

/-- The first sample without the path, and those after it. -/
def firstGone (idPath : JsString) (trace : List PresenceSample) : List PresenceSample :=
  trace.dropWhile fun sample => sample.idPath = some idPath

/-- What the trace and the answer of the hook prove: the times of the disappearance and of the
return. -/
def judge (baseline : Baseline) (result : PowerCycleResult) :
    Hil (Except HilCycleOutcome (Nat × Nat)) := do
  let record ← Timed.get
  if result.status = .unsupported then
    pure (.error (.failed .powerCycleUnsupported result.reason))
  else
    match firstGone baseline.idPath record.trace with
    | [] =>
      pure (.error (.failed .noVbusDrop
        (js "the modem never left the bus during the cycle — ID_PATH '" ++ baseline.idPath ++
          js "' was present in all " ++ printNat record.trace.length ++
          js " sample(s). A zero exit from uhubctl does not prove VBUS was cut; run RB-10’s " ++
          js "manual two-phase `-a off` / sweep / `-a on` proof to settle whether this hub " ++
          js "really switches per-port power.")))
    | gone :: later => do
        let disappearedMs := gone.atMs - record.startedAt
        phase .disappeared
        match later.find? fun sample => sample.idPath = some baseline.idPath with
        | none =>
          pure (.error (.failed .reenumerationTimeout
            (js "ID_PATH '" ++ baseline.idPath ++ js "' left the bus after " ++
              printNat disappearedMs ++ js "ms and never came back (hook verdict: " ++
              statusText result.status ++ js " — " ++ result.reason ++ js ")")))
        | some back =>
          let reenumeratedMs := back.atMs - record.startedAt
          if deps.reenumerationDeadlineMs < reenumeratedMs then
            pure (.error (.failed .reenumerationTimeout
              (js "ID_PATH '" ++ baseline.idPath ++ js "' came back after " ++
                printNat reenumeratedMs ++ js "ms, past the " ++
                printNat deps.reenumerationDeadlineMs ++ js "ms deadline")))
          else if result.status ≠ .applied then
            pure (.error (.failed .powerCycleFailed result.reason))
          else do
            phase .reenumerated
            pure (.ok (disappearedMs, reenumeratedMs))

def isListed (before : MmSlotRecord) (listing : List MmSlotRecord) : Bool :=
  listing.any fun record => record.device = before.device

/-- The `for` that waits for ModemManager. Each round takes time, so that one round more than there
are milliseconds to the deadline is enough. -/
def redetect (before : MmSlotRecord) (deadline : Nat) : Nat → Hil (Except HilCycleOutcome Unit)
  | 0 => pure (.error (.failed .mmRedetectTimeout []))
  | rounds + 1 => do
      match ← (readSlots deps).attempt with
      | .error error =>
        pure (.error (.failed .mmRedetectTimeout
          (js "re-reading ModemManager failed: " ++ error)))
      | .ok lastSeen =>
        if isListed before lastSeen then pure (.ok ())
        else
          match matchMmSlot lastSeen args.mmSlot with
          | some atSelector =>
            pure (.error (.failed .mmSlotMismatch
              (js "ModemManager re-detected '" ++ args.mmSlot ++ js "' with device '" ++
                atSelector.device ++ js "', expected '" ++ before.device ++ js "'")))
          | none => do
              let time ← Timed.now
              if deadline ≤ time then
                pure (.error (.failed .mmRedetectTimeout
                  (js "ModemManager did not re-report device '" ++ before.device ++
                    js "' within " ++ printNat deps.mmRedetectTimeoutMs ++ js "ms (reported: " ++
                    names (lastSeen.map MmSlotRecord.device) ++ js ")")))
              else do
                Timed.sleep deps.mmPollIntervalMs
                redetect before deadline rounds

/-- What follows the cycle. -/
def verify (baseline : Baseline) (result : PowerCycleResult) : Hil HilCycleOutcome := do
  match ← judge deps baseline result with
  | .error outcome => pure outcome
  | .ok (disappearedMs, reenumeratedMs) => do
      phase .mmRedetect
      let time ← Timed.now
      match ← redetect deps args baseline.before (time + deps.mmRedetectTimeoutMs)
          (deps.mmRedetectTimeoutMs + 1) with
      | .error outcome => pure outcome
      | .ok () => do
          phase .emit
          pure (.pass args.slot baseline.idPath baseline.before.device disappearedMs reenumeratedMs)

def hilCycle : Hil HilCycleOutcome := do
  match ← (ask .portMap deps.portMap).attempt with
  | .error error => pure (.failed .hubMapUnreadable error)
  | .ok ports =>
    if (ports.find? fun entry => entry.1 = args.slot) = none then
      pure (.failed .hubMapSlotUnmapped
        (js "no hub/port entry for slot '" ++ args.slot ++
          js "' in the --hub-map file (mapped keys: " ++ names (ports.map Prod.fst) ++ js ")"))
    else do
      match ← preCapture deps args ports with
      | .error outcome => pure outcome
      | .ok baseline => do
          let result ← cycleHook deps args baseline.ports
          verify deps args baseline result

namespace Hil

variable {deps args} {α β : Type}

/-! ### Runs that resolve -/

/-- Every call has settled, and every poll of the hook has resolved. -/
def Good (record : HilRecord) : Prop :=
  ∀ made ∈ record.calls, made.2 ≠ .never ∧ (made.1 = .hookPoll → made.2 = .resolved)

variable (ports : List (JsString × UhubctlPortMapping))

variable (baseline : Baseline)

variable (result : PowerCycleResult)

/-- A sample without the path is followed by one with it, in time. -/
def Returned (deadlineMs startedAt : Nat) (idPath : JsString) (trace : List PresenceSample) :
    Prop :=
  ∃ gone later back, firstGone idPath trace = gone :: later ∧
    later.find? (fun sample => sample.idPath = some idPath) = some back ∧
    back.atMs - startedAt ≤ deadlineMs

/-- What the harness accepts: the hook answered applied, its trace lost the path and had it again in
time, and a later listing has the device that the first one had. -/
structure Accepts (deps : HilDeps) (args : HilCycleArgs) (record : HilRecord) (idPath : JsString)
    (before : MmSlotRecord) : Prop where
  polled : ∃ ms, deps.poll = .resolves ms (some idPath)
  answered : ∃ result, record.answered = some result ∧ result.status = .applied
  returned : Returned deps.reenumerationDeadlineMs record.startedAt idPath record.trace
  listed : ∃ first more, record.listings = first :: more ∧
    matchMmSlot first args.mmSlot = some before ∧
    ∃ listing ∈ more, isListed before listing = true

/-- A run that starts at `begun`. -/
def cycled (deps : HilDeps) (args : HilCycleArgs) (begun : Nat) :
    Ended JsString HilCycleOutcome × Clock HilRecord :=
  hilCycle deps args ⟨begun, newRecord⟩

/-- After the command was issued a sample showed nothing at the slot, and a later one, in time, the
path. -/
def Evident (deadlineMs : Nat) (record : HilRecord) (idPath : JsString) : Prop :=
  ∃ issued gone back, record.issued = some issued ∧
    [gone, back].Sublist (record.trace.drop issued) ∧ gone.idPath = none ∧
    back.idPath = some idPath ∧ back.atMs - record.startedAt ≤ deadlineMs

structure Proven (deps : HilDeps) (args : HilCycleArgs) (record : HilRecord)
    (idPath device : JsString) : Prop where
  evident : Evident deps.reenumerationDeadlineMs record idPath
  samePath : ∃ ms, deps.poll = .resolves ms (some idPath)
  applied : ∃ result, record.answered = some result ∧ result.status = .applied
  sameDevice : ∃ first more, record.listings = first :: more ∧
    (∃ before, matchMmSlot first args.mmSlot = some before ∧ before.device = device) ∧
    ∃ listing ∈ more, ∃ modem ∈ listing, modem.device = device

end Hil

end ModemStack.Power
