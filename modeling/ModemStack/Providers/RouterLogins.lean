import ModemStack.UfiHimi.Session
import ModemStack.ZteGoform.LoginSafety

/-!
How often the router providers log in.

A UFI device is logged in to once for each modem and generation (`sole_login`). A ZTE device may be
logged in to again and again on the same evidence, also when it has locked itself since
(`careful_fails`).
-/

namespace ModemStack.Providers

open ModemStack.Async ModemStack.Async.Program ModemStack.Domain ModemStack.Text

namespace UfiLogins

open ModemStack.UfiHimi UfiSessionRuntime UfiHimiProvider

variable {ε : Type}

/-- No login was sent twice, and for each one its key is spent. -/
structure Sound (s : UfiShared) : Prop where
  once : s.logins.Nodup
  spent : ∀ request, lifetimeOf request ∈ s.logins → s.spent (sessionKey request) = true

theorem sound_new : Sound .new := ⟨.nil, nofun⟩

/-- Requests of one lifetime have one key. -/
theorem sessionKey_congr {request other : ProviderMatchRequest}
    (same : lifetimeOf request = lifetimeOf other) : sessionKey request = sessionKey other := by
  rw [sessionKey, sessionKey, show request.physicalModemId = other.physicalModemId from
    congrArg Prod.fst same, show request.generation = other.generation from congrArg Prod.snd same]

theorem Sound.logIn {s : UfiShared} (sound : Sound s) {request : ProviderMatchRequest}
    (unspent : s.spent (sessionKey request) = false) :
    Sound ((s.spend (sessionKey request)).logIn (lifetimeOf request)) := by
  constructor
  · refine List.nodup_cons.mpr ⟨fun mem => ?_, sound.once⟩
    cases unspent.symm.trans (sound.spent request mem)
  · intro other mem
    simp only [UfiShared.spend, UfiShared.logIn]
    rcases List.mem_cons.mp mem with same | old
    · rw [sessionKey_congr same, Function.update_self]
    · by_cases same : sessionKey other = sessionKey request
      · rw [same, Function.update_self]
      · rw [Function.update_of_ne same]
        exact sound.spent other old

/-- Any answer is possible. -/
abbrev anyAnswer (_ : UfiShared) (op : UfiCall) (_ : Except ε op.Answer) : Prop := True

section Meets

variable {self : UfiOptions} {begun s : UfiShared}

/-- The function keeps the logins single. -/
abbrev Keeps {α : Type} (p : UfiTask ε α) (begun s : UfiShared) : Prop :=
  p.Meets Sound (.ofFair anyAnswer) (fun _ _ s => Sound s) begun s

theorem keeps_bind {α β : Type} {p : UfiTask ε α} {f : α → UfiTask ε β} (first : Keeps p begun s)
    (rest : ∀ value begun s, Sound s → Keeps (f value) begun s) : Keeps (p >>= f) begun s := by
  rw [Keeps, meets_monad_bind]
  refine first.mono fun outcome begun s sound => ?_
  cases outcome with
  | error => exact sound
  | ok value => exact rest value begun s sound

theorem keeps_perform (sound : Sound s) (request : UfiHttpRequest) :
    Keeps (perform (UfiCall.request request) : UfiTask ε _) begun s :=
  meets_perform.mpr ⟨sound, trivial, fun _ _ sound => ⟨trivial, fun _ _ => sound⟩⟩

theorem keeps_call {α : Type} {p : UfiTask ε α} (keeps : Keeps p begun s) :
    Keeps (p.call .settled) begun s := by
  rw [Keeps, meets_call]
  refine keeps.mono fun outcome begun s sound => ?_
  exact ⟨sound, trivial, fun _ _ sound => ⟨trivial, fun _ _ => sound⟩⟩

theorem keeps_session (sound : Sound s) (request : ProviderMatchRequest) :
    Keeps (session self request : UfiTask ε _) begun s := by
  rw [Keeps, session, meets_monad_bind, meets_get, onOutcome_ok]
  split
  · exact sound
  · split
    · exact sound
    · next unspent =>
      have sent := sound.logIn (Bool.eq_false_iff.mpr unspent)
      rw [meets_monad_bind, meets_modify, onOutcome_ok, meets_monad_bind, meets_modify, onOutcome_ok]
      refine keeps_bind (keeps_perform sent _) fun response begun s sound => ?_
      dsimp only
      split
      · exact sound
      · exact ⟨sound.once, sound.spent⟩

theorem keeps_readAll (sound : Sound s) (token : JsString) (commands : List UfiReadCommand) :
    Keeps (readAll self token commands : UfiTask ε _) begun s := by
  induction commands generalizing begun s with
  | nil => exact sound
  | cons command rest ih =>
    refine keeps_bind (keeps_perform sound _) fun response begun s sound => ?_
    exact keeps_bind (ih sound) fun bodies begun s sound => sound

theorem keeps_fetch (sound : Sound s) (request : ProviderMatchRequest)
    (commands : List UfiReadCommand) :
    Keeps ((fetch self request commands).call .settled : UfiTask ε _) begun s := by
  refine keeps_call (keeps_bind (keeps_call (keeps_session sound request)) ?_)
  intro found begun s sound
  cases found with
  | none => exact sound
  | some token =>
    refine keeps_bind (keeps_readAll sound token commands) fun bodies begun s sound => ?_
    dsimp only
    split
    · exact ⟨sound.once, sound.spent⟩
    · exact sound

theorem keeps_body (sound : Sound s) (task : Nat) (use : UfiUse) :
    Keeps (body self task use : UfiTask ε _) begun s := by
  cases use with
  | fingerprint =>
    refine keeps_bind ?_ fun _ _ _ sound => sound
    unfold fingerprint
    split
    · exact sound
    · exact keeps_bind (keeps_fetch sound _ _) fun _ _ _ sound => sound
  | capability =>
    refine keeps_bind ?_ fun _ _ _ sound => sound
    exact keeps_bind (keeps_fetch sound _ _) fun _ _ _ sound => sound
  | observe | readSignal | readDetails => exact keeps_bind (keeps_fetch sound _ _) fun _ _ _ sound => sound

end Meets

/-- No modem is logged in to twice in a generation. -/
theorem once_logins (self : UfiOptions)
    (turns : List (Turn UfiUse UfiCall UfiCall.Answer ε)) :
    (UfiHimiProvider.run self turns).shared.logins.Nodup := by
  have sound : Sound (UfiHimiProvider.run self turns).shared := by
    refine EventLoop.run_ofFair anyAnswer (fun task use s sound => keeps_body sound task use)
      sound_new ?_
    exact EventLoop.allows_of_forall fun _ _ _ _ _ _ _ _ => trivial
  exact sound.once

end UfiLogins

namespace RouterLogins

open ModemStack.ZteGoform ModemStack.UfiHimi ZteGoformProvider

variable {ε : Type}

/-- Whatever the calls, the answers and their order: a ZTE device that is honest is logged in to
carefully, if the evidence that is taken is fresh; and a UFI device once for each modem and
generation. -/
theorem careful_run (zte : ZteOptions) (device : ZteDevice) (turns : List (ZteTurn ε))
    (allows : EventLoop.Allows (ZteGoformProvider.body zte)
      (fun loop turn => Honest loop turn ∧ Fresh loop turn) ⟨.new device, []⟩ turns)
    (ufi : UfiOptions) (others : List (Turn UfiUse UfiCall UfiCall.Answer ε)) :
    (∀ login ∈ (ZteGoformProvider.run zte device turns).shared.logins, Careful login) ∧
      (UfiHimiProvider.run ufi others).shared.logins.Nodup :=
  ⟨careful_of_fresh zte device turns allows, UfiLogins.once_logins ufi others⟩

/-! ### A second login on the same evidence -/

def zteOptions : ZteOptions :=
  ⟨js "eth9", js "http://192.168.0.1", ⟨js "admin", js "wrong"⟩, id⟩

def ufiOptions : UfiOptions := ⟨js "eth9", js "http://192.168.100.1", ⟨js "admin", js "admin"⟩⟩

theorem usb_ne_nil : js "usb:1" ≠ [] := by decide

def request : ProviderMatchRequest :=
  ⟨⟨js "usb:1", usb_ne_nil⟩, 1, .network, [], js "rndis", some (js "MF79U")⟩

/-- The body of a reply. -/
def bodyOf (fields : List (String × String)) : JsString :=
  stringify printNat (.object (fields.map fun field => (js field.1, .string (js field.2))))

/-- The evidence shows one attempt; the login is rejected. -/
def answers (op : ZteCall) : Except Unit op.Answer :=
  match op with
  | .evidence _ => .ok ⟨200, bodyOf [("psw_fail_num_str", "1"), ("login_lock_time", "0")], []⟩
  | .login _ => .ok ⟨200, bodyOf [("result", "3")], []⟩
  | .read _ => .ok ⟨200, [], []⟩
  | .returned _ => .ok ()

def authenticates : ZteTurn Unit := .start (.authenticateProfile request [js "mf79u-legacy"])

/-- The evidence is read, and a login on it is rejected: the device is locked. -/
def rejected : List (ZteTurn Unit) :=
  [.start (.fingerprint request), .start (.report 0), .resume 0 answers, .resume 0 answers,
    authenticates, .start (.device ⟨0, 300⟩), .resume 2 answers]

/-- A login on old evidence, sent to a locked device. -/
def careless (login : LoginSent) : Bool :=
  login.evidence.readAt ≠ some login.before && decide login.device.Locked

/-- The evidence is not read again after the login that was rejected: the next login is sent to the
device that this one has locked. -/
theorem careful_fails :
    EventLoop.Allows (ZteGoformProvider.body zteOptions) Honest ⟨.new ⟨1, 0⟩, []⟩
        (rejected ++ [authenticates]) ∧
      ∃ login ∈
          (ZteGoformProvider.run zteOptions ⟨1, 0⟩ (rejected ++ [authenticates])).shared.logins,
        login.evidence.readAt ≠ some login.before ∧ login.device.Locked := by
  constructor
  · decide +kernel
  · have found : (ZteGoformProvider.run zteOptions ⟨1, 0⟩
        (rejected ++ [authenticates])).shared.logins.any careless = true := by decide +kernel
    obtain ⟨login, mem, isCareless⟩ := List.any_eq_true.mp found
    refine ⟨login, mem, ?_⟩
    simpa [careless] using isCareless

theorem careful_rejected :
    (ZteGoformProvider.run zteOptions ⟨1, 0⟩ rejected).shared.logins.length = 1 ∧
      (∀ login ∈ (ZteGoformProvider.run zteOptions ⟨1, 0⟩ rejected).shared.logins,
        Careful login) ∧
      (UfiHimiProvider.run ufiOptions
        ([] : List (Turn UfiUse UfiCall UfiCall.Answer Unit))).shared.logins.Nodup :=
  ⟨by decide +kernel,
    careful_run zteOptions ⟨1, 0⟩ rejected (by decide +kernel) ufiOptions []⟩

end RouterLogins

end ModemStack.Providers
