import ModemStack.Backend.ManagedObjects

/-!
The USSD session machine: which verb is legal in which state, and where each event leads.
-/

namespace ModemStack.Ussd

open ModemStack.Backend ModemStack.Text

inductive UssdRefusalReason where
  | unsupported
  | lteOnlyUnsupported
  | carrierRejected
  | notRegistered
  | sessionBusy
  | noSession
  | invalidState
  | timeout
  | transportFailed
deriving DecidableEq

inductive UssdSessionState where
  | idle
  | initiating
  | active
  | awaitingReply
  | responding
  | cancelling
  | closed
deriving DecidableEq

inductive UssdSessionOutcome where
  | completed
  | cancelled
  | timedOut
  | failed
deriving DecidableEq

inductive UssdRepliedState where
  | awaitingReply
  | active
  | released
deriving DecidableEq

inductive UssdSessionEvent where
  | initiate
  | respond
  | cancel
  | replied (sessionState : UssdRepliedState)
  | cancelled
  | networkReleased
  | timeout
  | failed (reason : UssdRefusalReason)
deriving DecidableEq

/-- An outcome is present at `closed` only, a refusal only with the outcome `failed`. -/
structure UssdSessionSnapshot where
  state : UssdSessionState
  outcome : Option UssdSessionOutcome
  refusal : Option UssdRefusalReason
  closes : outcome.isSome ↔ state = .closed
  fails : refusal.isSome → outcome = some .failed
deriving DecidableEq

def IDLE_SESSION : UssdSessionSnapshot := ⟨.idle, none, none, by simp, by simp⟩

namespace UssdSessionState

theorem initiating_ne_closed : initiating ≠ closed := by decide

theorem responding_ne_closed : responding ≠ closed := by decide

theorem cancelling_ne_closed : cancelling ≠ closed := by decide

def acceptsInitiate : UssdSessionState → Bool
  | .idle => true
  | _ => false

def acceptsRespond : UssdSessionState → Bool
  | .awaitingReply => true
  | _ => false

def acceptsCancel : UssdSessionState → Bool
  | .initiating | .active | .awaitingReply | .responding => true
  | _ => false

/-- A call is in flight. -/
def inFlight : UssdSessionState → Bool
  | .initiating | .responding => true
  | _ => false

end UssdSessionState

/-- A refusal, or the snapshot the machine moves to. -/
abbrev UssdTransition := Except UssdRefusalReason UssdSessionSnapshot

def openAt (state : UssdSessionState) (live : state ≠ .closed := by decide) : UssdSessionSnapshot :=
  ⟨state, none, none, by simpa using live, by simp⟩

def closeWith (outcome : UssdSessionOutcome) : UssdSessionSnapshot :=
  ⟨.closed, some outcome, none, by simp, by simp⟩

def closeFailed (reason : UssdRefusalReason) : UssdSessionSnapshot :=
  ⟨.closed, some .failed, some reason, by simp, by simp⟩

def reduceUssdSession (snapshot : UssdSessionSnapshot) (event : UssdSessionEvent) :
    UssdTransition :=
  let state := snapshot.state
  if state = .closed then .error .noSession
  else
    match event with
    | .initiate => if state.acceptsInitiate then .ok (openAt .initiating) else .error .sessionBusy
    | .respond => if state.acceptsRespond then .ok (openAt .responding) else .error .invalidState
    | .cancel =>
      if state.acceptsCancel then .ok (openAt .cancelling)
      else .error (if state ≠ .idle then .invalidState else .noSession)
    | .replied sessionState =>
      if state.inFlight then
        match sessionState with
        | .released => .ok (closeWith .completed)
        | .active => .ok (openAt .active)
        | .awaitingReply => .ok (openAt .awaitingReply)
      else .error .invalidState
    | .cancelled => if state = .cancelling then .ok (closeWith .cancelled) else .error .invalidState
    | .networkReleased =>
      if state = .idle then .error .noSession
      else .ok (closeWith (if state = .cancelling then .cancelled else .completed))
    | .timeout => if state = .idle then .error .noSession else .ok (closeWith .timedOut)
    | .failed reason => if state = .idle then .error .noSession else .ok (closeFailed reason)

def isUssdSessionOpen (snapshot : UssdSessionSnapshot) : Bool :=
  snapshot.state ≠ .idle && snapshot.state ≠ .closed

/-- The session is open and nothing is under way on it. -/
def UssdSessionSnapshot.Resting (snapshot : UssdSessionSnapshot) : Prop :=
  snapshot = openAt .active ∨ snapshot = openAt .awaitingReply

section Transitions

variable {snapshot after : UssdSessionSnapshot}

theorem initiate_accepted (accepted : reduceUssdSession snapshot .initiate = .ok after) :
    snapshot.state = .idle ∧ after = openAt .initiating := by
  obtain ⟨state, outcome, refusal, closes, fails⟩ := snapshot
  cases state <;> simp_all [reduceUssdSession, UssdSessionState.acceptsInitiate]

theorem respond_accepted (accepted : reduceUssdSession snapshot .respond = .ok after) :
    snapshot.state = .awaitingReply ∧ after = openAt .responding := by
  obtain ⟨state, outcome, refusal, closes, fails⟩ := snapshot
  cases state <;> simp_all [reduceUssdSession, UssdSessionState.acceptsRespond]

theorem cancel_accepted (accepted : reduceUssdSession snapshot .cancel = .ok after) :
    isUssdSessionOpen snapshot ∧ after = openAt .cancelling := by
  obtain ⟨state, outcome, refusal, closes, fails⟩ := snapshot
  cases state <;> simp_all [reduceUssdSession, UssdSessionState.acceptsCancel, isUssdSessionOpen]

end Transitions

/-! ### The state read -/

def USSD_STATE_UNKNOWN : DbusNumber := .integer 0

def USSD_STATE_IDLE : DbusNumber := .integer 1

def USSD_STATE_ACTIVE : DbusNumber := .integer 2

def USSD_STATE_USER_RESPONSE : DbusNumber := .integer 3

/-- What is neither an open session nor a prompt is taken as released. -/
def decodeRepliedState (state : DbusNumber) : UssdRepliedState :=
  if state = USSD_STATE_USER_RESPONSE then .awaitingReply
  else if state = USSD_STATE_ACTIVE then .active
  else .released

/-- The body of a reply, or the rejection of the call. -/
abbrev Reply (ε : Type) := Except ε (List DbusValue)

def firstString (body : List DbusValue) : JsString :=
  match body.head? with
  | some (.string value) => value
  | _ => js ""

def readUssdState {ε : Type} : Reply ε → DbusNumber
  | .ok (.number value :: _) => value
  | .ok (.variant _ (.number value) :: _) => value
  | _ => USSD_STATE_UNKNOWN

/-- What the modem is registered on, as far as anyone has looked. -/
structure UssdRegistrationFacts where
  registered : Bool
  csDomain : Option Bool
  accessTechnologies : Option (List JsString)

end ModemStack.Ussd
