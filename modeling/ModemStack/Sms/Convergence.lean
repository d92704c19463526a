import ModemStack.Async.Steps
import ModemStack.Sms.DbusMessaging

/-!
Convergence of the inbox.

What decides is the newest of what is known about a path: its row, the reads of it and the
listings under way, in the order in which they began. The newest is right unless a signal about
the path is still to be delivered. A read or a listing that began earlier may overwrite it, and
then nothing corrects the row: `converged_run` holds of the runs in which none does.
-/

namespace ModemStack.Sms

open ModemStack.Async ModemStack.Data ModemStack.Text

/-! ### Tasks -/

/-- The call a task awaits is for what the modem has: the listing, or a message it holds. -/
def Task.Readable (modem : OrderedMap Nat SmsProps) : Task → Prop
  | .read path none => modem.get path ≠ none
  | .listing none => True
  | .listed path none _ _ => modem.get path ≠ none
  | _ => False

/-- A task may still write the row of a path, where the modem has `props`. -/
def Task.Writes (path : Nat) (props : Option SmsProps) : Task → Prop
  | .read other none => other = path ∧ props ≠ none
  | .read _ (some none) => False
  | .read other (some (some _)) => other = path
  | .listing _ | .listed _ _ _ _ => True

/-- Just one message of the list is at the path, the one made of `props`, or none. -/
def Lists (messages : List SmsMessage) (path : Nat) (props : Option SmsProps) : Prop :=
  ∀ message, (message ∈ messages ∧ message.id = path) ↔
    props.map (smsFromProps path) = some message

/-- Undisturbed, a task ends with the row of a path right, where the modem has `props`. -/
def Task.RightFor (cap path : Nat) (props : Option SmsProps) : Task → Prop
  | .read other reply => other = path ∧ props ≠ none ∧ (reply = none ∨ reply = some props)
  | .listing none => True
  | .listing (some none) => False
  | .listing (some (some paths)) => paths.Nodup ∧ (path ∈ paths ↔ props ≠ none)
  | .listed other reply rest messages =>
    (messages.length + rest.length < cap ∧ (other :: rest).Nodup) ∧
    (path ∈ rest → props ≠ none ∧ Lists messages path none) ∧
    (path = other → (reply = none ∧ props ≠ none ∨ reply = some props) ∧
      Lists messages path none) ∧
    (path ≠ other → path ∉ rest → Lists messages path props)

namespace Inbox

variable {port : SmsPort} {s : Inbox} {path id : Nat}

/-! ### The property -/

/-- The message the modem holds at a path. -/
def held (s : Inbox) (path : Nat) : Option SmsMessage := (s.modem.get path).map (smsFromProps path)

def row (s : Inbox) (path : Nat) : Option SmsMessage := s.store.rows.get path

/-- Every message the modem holds. -/
def messages (s : Inbox) : List SmsMessage :=
  s.modem.items.map fun item => smsFromProps item.1 item.2

/-- Wired, the bus up, no signal in flight and nothing under way. -/
structure Quiet (s : Inbox) : Prop where
  wired : s.wiring = .wired
  connected : s.connected
  signals : s.signals = []
  tasks : ∀ id, s.tasks id = none

structure Converged (port : SmsPort) (s : Inbox) : Prop where
  rows : ∀ path, s.row path = s.held path
  snapshot : s.store.snapshot port.smsTimestampEpoch port.cap =
    sortAndCapSms port.smsTimestampEpoch s.messages port.cap

/-! ### Steps under which it holds -/

/-- A read or a listing that ends leaves alone the rows to which something newer has been
applied, listings find at most as many messages as the cap, and while the bus is up no listing
and no read of a message that is there is rejected. -/
def InOrder (port : SmsPort) (s : Inbox) : Event → Prop
  | .resume id => ∀ task, s.tasks id = some task →
      (∀ event, (s.turn port task).1 = some event → ∀ path, id ≤ s.applied path →
        (s.store.apply event).1.rows.get path = s.row path) ∧
      ∀ paths, task = .listing (some (some paths)) → paths.length ≤ port.cap
  | .reject id => s.connected → ∀ task, s.tasks id = some task → ¬ Task.Readable s.modem task
  | _ => True

/-! ### The newest is right -/

/-- The last signal in flight about a path. -/
def lastAbout (path : Nat) (signals : List Signal) : Option Signal :=
  (signals.filter fun signal => signal.path = path).getLast?

/-- A signal in flight will tell how things are at the path. -/
def Announced (s : Inbox) (path : Nat) : Prop :=
  match lastAbout path s.signals with
  | some (.added _) => s.modem.get path ≠ none
  | some (.deleted _) => s.modem.get path = none
  | none => False

/-- The newest of what is known about a path, begun at `k`, is right: the row or a task. -/
def Newest (cap : Nat) (s : Inbox) (path : Nat) : Prop :=
  ∃ k, (∀ id task, s.tasks id = some task → task.Writes path (s.modem.get path) → id ≤ k) ∧
    s.applied path ≤ k ∧
    (s.applied path = k ∧ s.row path = s.held path ∨
      ∃ task, s.tasks k = some task ∧ task.RightFor cap path (s.modem.get path))

structure Settling (port : SmsPort) (s : Inbox) : Prop where
  tasks : ∀ id, s.clock ≤ id → s.tasks id = none
  applied : ∀ path, s.applied path < s.clock
  distinct : s.modem.keys.Nodup
  rows : s.store.rows.keys.Nodup
  silent : s.connected = false ∨ s.wiring = .subscribing → s.signals = []
  gone : ∀ path other, lastAbout path s.signals = some (.deleted other) → s.modem.get path = none
  right : s.connected → s.wiring = .wired → ∀ path, s.Announced path ∨ s.Newest port.cap path

section Congr

variable {s' : Inbox} {cap : Nat}

theorem Announced.congr (announced : s.Announced path)
    (signals : lastAbout path s'.signals = lastAbout path s.signals)
    (modem : s'.modem.get path = s.modem.get path) : s'.Announced path := by
  rwa [Announced, signals, modem]

theorem Newest.congr (newest : s.Newest cap path) (tasks : s'.tasks = s.tasks)
    (applied : s'.applied path = s.applied path) (row : s'.row path = s.row path)
    (modem : s'.modem.get path = s.modem.get path) : s'.Newest cap path := by
  rwa [Newest, tasks, applied, row, held, modem]

end Congr

theorem lastAbout_append {signals : List Signal} {signal : Signal} :
    lastAbout path (signals ++ [signal]) =
      if signal.path = path then some signal else lastAbout path signals := by
  by_cases same : signal.path = path <;> simp [lastAbout, List.filter_append, same]

theorem lastAbout_cons {signals : List Signal} {signal : Signal} :
    lastAbout path (signal :: signals) =
      if signal.path = path then some ((lastAbout path signals).getD signal)
      else lastAbout path signals := by
  by_cases same : signal.path = path <;>
    simp [lastAbout, same, List.getLast?_cons]

namespace Settling

theorem new : Settling port .new := by
  constructor <;> simp [Inbox.new, lastAbout, OrderedMap.keys, OrderedMap.empty, SmsInboxStore.new]

variable {task : Task}

theorem lt_clock (settling : Settling port s) (isTask : s.tasks id = some task) : id < s.clock := by
  by_contra ge
  simp [settling.tasks id (Nat.le_of_not_lt ge)] at isTask

/-- A listing that has just begun, while the bus is up, is the newest for every path. -/
theorem resync (settling : Settling port s) {connected : Bool}
    (down : connected = false → s.connected = false) :
    Settling port { s with connected, wiring := .wired }.resync := by
  constructor
  · intro id le
    simp only [Inbox.resync, start] at le ⊢
    rw [Function.update_of_ne (by omega)]
    exact settling.tasks id (by omega)
  · intro path
    exact Nat.lt_succ_of_lt (settling.applied path)
  · exact settling.distinct
  · exact settling.rows
  · rintro (isDown | ⟨⟨⟩⟩)
    exact settling.silent (.inl (down isDown))
  · exact settling.gone
  · intro isUp _ path
    change connected = true at isUp
    refine .inr ⟨s.clock, fun id task isTask _ => ?_, (settling.applied path).le, .inr ?_⟩
    · simp only [Inbox.resync, start, Function.update_apply] at isTask
      split at isTask
      · next same => exact same.le
      · exact (settling.lt_clock isTask).le
    · refine ⟨.listing none, ?_, trivial⟩
      simp [Inbox.resync, start, call, isUp]

/-- Before it is wired, nothing is asked of the inbox. -/
theorem unwired (settling : Settling port s) {connected : Bool} {wiring : Wiring}
    (quiet : connected = false ∨ wiring = .subscribing →
      s.connected = false ∨ s.wiring = .subscribing) (notYet : wiring ≠ .wired) :
    Settling port { s with connected, wiring } :=
  ⟨settling.tasks, settling.applied, settling.distinct, settling.rows,
    fun silent => settling.silent (quiet silent), settling.gone, fun _ wired => absurd wired notYet⟩

theorem reconnected (settling : Settling port s) : Settling port (s.step port .reconnected) := by
  simp only [Inbox.step]
  split
  · next wired =>
    have same : { s with connected := true } = { s with connected := true, wiring := .wired } := by
      rw [← wired]
    rw [same]
    exact settling.resync nofun
  · next unwired =>
    refine settling.unwired ?_ unwired
    rintro (⟨⟨⟩⟩ | subscribing)
    exact .inr subscribing

theorem subscribed (settling : Settling port s) : Settling port (s.step port .subscribed) := by
  simp only [Inbox.step]
  split
  · refine settling.unwired ?_ nofun
    rintro (down | ⟨⟨⟩⟩)
    exact .inl down
  · exact settling.resync fun down => down
  · exact settling

/-- The modem changes and the change is announced, as far as anyone listens. -/
theorem change (settling : Settling port s) (signal : Signal) {modem : OrderedMap Nat SmsProps}
    (distinct : modem.keys.Nodup)
    (others : ∀ path, path ≠ signal.path → modem.get path = s.modem.get path)
    (tells : match signal with
      | .added path => modem.get path ≠ none
      | .deleted path => modem.get path = none) : Settling port ({ s with modem }.send signal) := by
  unfold send
  split
  · next heard =>
    have up : s.connected ∧ s.wiring ≠ .subscribing := by
      cases signal <;> simp_all [hears]
    constructor
    · exact settling.tasks
    · exact settling.applied
    · exact distinct
    · exact settling.rows
    · rintro (down | unsubscribed)
      · exact absurd up.1 (by simpa using down)
      · exact absurd unsubscribed up.2
    · intro path other last
      simp only [lastAbout_append] at last
      split at last
      · next same =>
        cases last
        exact same ▸ tells
      · next differs =>
        rw [others path (Ne.symm differs)]
        exact settling.gone path other last
    · intro connected wired path
      by_cases same : signal.path = path
      · left
        simp only [Announced, lastAbout_append, if_pos same]
        cases signal <;> exact same ▸ tells
      · have modemSame := others path (Ne.symm same)
        rcases settling.right connected wired path with announced | newest
        · exact .inl (announced.congr (by simp only [lastAbout_append, if_neg same]) modemSame)
        · exact .inr (newest.congr rfl rfl rfl modemSame)
  · next unheard =>
    constructor
    · exact settling.tasks
    · exact settling.applied
    · exact distinct
    · exact settling.rows
    · exact settling.silent
    · intro path other last
      change lastAbout path s.signals = _ at last
      by_cases same : signal.path = path
      · cases signal with
        | deleted => exact same ▸ tells
        | added =>
          have silent : s.signals = [] := by
            refine settling.silent ?_
            cases connected : s.connected with
            | false => exact .inl rfl
            | true => exact .inr (by simpa [hears, connected] using unheard)
          simp [silent, lastAbout] at last
      · rw [others path (Ne.symm same)]
        exact settling.gone path other last
    · intro connected wired
      refine absurd ?_ unheard
      change s.connected = true at connected
      change s.wiring = .wired at wired
      cases signal <;> simp [hears, connected, wired]

theorem put (settling : Settling port s) (path : Nat) (props : SmsProps) :
    Settling port (s.step port (.put path props)) := by
  refine settling.change (.added path) (OrderedMap.nodup_set settling.distinct _ _) ?_ ?_
  · intro other differs
    exact (OrderedMap.get_set _ _ _ _).trans (if_neg differs)
  · simp

theorem remove (settling : Settling port s) (path : Nat) :
    Settling port (s.step port (.remove path)) := by
  refine settling.change (.deleted path) (OrderedMap.nodup_filter settling.distinct _) ?_ ?_
  · intro other differs
    exact (OrderedMap.get_filter _ _ _).trans (if_pos (decide_eq_true differs))
  · simp

theorem drop (settling : Settling port s) : Settling port (s.step port .drop) := by
  constructor
  · intro id le
    simp [step, settling.tasks id le]
  · exact settling.applied
  · exact settling.distinct
  · exact settling.rows
  · exact fun _ => rfl
  · exact nofun
  · exact nofun

/-- A delivered `Added` starts a read, the newest for its path if there is a message. -/
theorem deliver_added (settling : Settling port s) {added : Nat} {signals : List Signal}
    (isNext : s.signals = .added added :: signals) :
    Settling port ({ s with signals }.onSignal (.added added)) := by
  have last (path : Nat) : lastAbout path s.signals = if added = path then
      some ((lastAbout path signals).getD (.added added)) else lastAbout path signals := by
    rw [isNext, lastAbout_cons]
    rfl
  have taskCases {id : Nat} {task : Task} (isTask : (onSignal { s with signals } (.added added)).tasks
      id = some task) : id = s.clock ∧ task = .read added s.call ∨ s.tasks id = some task := by
    simp only [onSignal, start, Function.update_apply] at isTask
    split at isTask
    · next same => exact .inl ⟨same, (Option.some.inj isTask).symm⟩
    · exact .inr isTask
  constructor
  · intro id le
    simp only [onSignal, start] at le ⊢
    rw [Function.update_of_ne (by omega)]
    exact settling.tasks id (by omega)
  · exact fun path => Nat.lt_succ_of_lt (settling.applied path)
  · exact settling.distinct
  · exact settling.rows
  · intro quiet
    have silent := settling.silent quiet
    rw [isNext] at silent
    cases silent
  · intro path other gone
    change lastAbout path signals = _ at gone
    refine settling.gone path other ?_
    rw [last, gone]
    split <;> rfl
  · intro connected wired path
    change s.connected = true at connected
    by_cases reads : added = path ∧ s.modem.get path ≠ none
    · obtain ⟨rfl, there⟩ := reads
      refine .inr ⟨s.clock, fun id task isTask _ => ?_, (settling.applied added).le, .inr ?_⟩
      · rcases taskCases isTask with ⟨rfl, -⟩ | old
        · exact Nat.le_refl _
        · exact (settling.lt_clock old).le
      · refine ⟨.read added none, ?_, rfl, there, .inl rfl⟩
        simp [onSignal, start, call, connected]
    · rcases settling.right connected wired path with announced | ⟨k, newer, applied, isRight⟩
      · refine .inl ?_
        unfold Announced at announced ⊢
        rw [last] at announced
        change match lastAbout path signals with
          | some (.added _) => s.modem.get path ≠ none
          | some (.deleted _) => s.modem.get path = none
          | none => False
        by_cases same : added = path
        · rw [if_pos same] at announced
          cases tail : lastAbout path signals with
          | some => simpa only [tail, Option.getD_some] using announced
          | none =>
            simp only [tail, Option.getD_none] at announced
            exact absurd ⟨same, announced⟩ reads
        · rw [if_neg same] at announced
          exact announced
      · refine .inr ⟨k, fun id task isTask writes => ?_, applied, ?_⟩
        · rcases taskCases isTask with ⟨-, rfl⟩ | old
          · refine absurd ?_ reads
            simpa [call, connected, Task.Writes, onSignal, start] using writes
          · exact newer id task old writes
        · rcases isRight with row | ⟨task, isTask, right⟩
          · exact .inl row
          · refine .inr ⟨task, ?_, right⟩
            simp only [onSignal, start]
            rw [Function.update_of_ne (settling.lt_clock isTask).ne]
            exact isTask

/-- A delivered `Deleted` clears the row, which is then the newest for its path. -/
theorem deliver_deleted (settling : Settling port s) {deleted : Nat} {signals : List Signal}
    (isNext : s.signals = .deleted deleted :: signals) :
    Settling port ({ s with signals }.onSignal (.deleted deleted)) := by
  have last (path : Nat) : lastAbout path s.signals = if deleted = path then
      some ((lastAbout path signals).getD (.deleted deleted)) else lastAbout path signals := by
    rw [isNext, lastAbout_cons]
    rfl
  have rowOf (path : Nat) : (onSignal { s with signals } (.deleted deleted)).row path =
      if path = deleted then none else s.row path :=
    SmsInboxStore.get_deleted deleted path
  have appliedTo (path : Nat) : (onSignal { s with signals } (.deleted deleted)).applied path =
      if deleted = path then s.clock else s.applied path := by
    have le := (settling.applied path).le
    simp only [onSignal, emit, concerns, decide_eq_true_eq]
    split
    · exact Nat.max_eq_right le
    · rfl
  constructor
  · intro id le
    simp only [onSignal, emit] at le ⊢
    exact settling.tasks id (by omega)
  · intro path
    rw [appliedTo]
    change (if deleted = path then s.clock else s.applied path) < s.clock + 1
    have lt := settling.applied path
    split <;> omega
  · exact settling.distinct
  · exact SmsInboxStore.nodup_apply settling.rows _
  · intro quiet
    have silent := settling.silent quiet
    rw [isNext] at silent
    cases silent
  · intro path other gone
    change lastAbout path signals = _ at gone
    refine settling.gone path other ?_
    rw [last, gone]
    split <;> rfl
  · intro connected wired path
    by_cases same : deleted = path
    · subst same
      cases there : s.modem.get deleted with
      | none =>
        refine .inr ⟨s.clock, fun id task isTask _ => (settling.lt_clock isTask).le, ?_, .inl ⟨?_, ?_⟩⟩
        · rw [appliedTo, if_pos rfl]
        · rw [appliedTo, if_pos rfl]
        · rw [rowOf, if_pos rfl]
          simp [held, onSignal, emit, there]
      | some =>
        -- A message is there again, so a later signal tells of it.
        left
        cases tail : lastAbout deleted signals with
        | none =>
          have gone := settling.gone deleted deleted (by rw [last, if_pos rfl, tail]; rfl)
          exact absurd there (by simp [gone])
        | some signal =>
          cases signal with
          | deleted other =>
            have gone := settling.gone deleted other (by rw [last, if_pos rfl, tail]; rfl)
            exact absurd there (by simp [gone])
          | added => simp [Announced, onSignal, emit, tail, there]
    · have differs : path ≠ deleted := Ne.symm same
      rcases settling.right connected wired path with announced | newest
      · refine .inl (announced.congr ?_ rfl)
        rw [last, if_neg same]
        rfl
      · refine .inr (newest.congr rfl ?_ ?_ rfl)
        · rw [appliedTo, if_neg same]
        · rw [rowOf, if_neg differs]

theorem deliver (settling : Settling port s) : Settling port (s.step port .deliver) := by
  simp only [step]
  split
  · exact settling
  · next signal signals isNext =>
    cases signal with
    | added => exact settling.deliver_added isNext
    | deleted => exact settling.deliver_deleted isNext

/-- A call is answered in a way that leaves right what was. -/
theorem reply (settling : Settling port s) (id : Nat) {change : Task → Task}
    (writes : s.connected → ∀ task path, s.tasks id = some task →
      (change task).Writes path (s.modem.get path) → task.Writes path (s.modem.get path))
    (right : s.connected → ∀ task path, s.tasks id = some task →
      task.RightFor port.cap path (s.modem.get path) →
      (change task).RightFor port.cap path (s.modem.get path)) :
    Settling port { s with tasks := Function.update s.tasks id ((s.tasks id).map change) } := by
  constructor
  · intro other le
    simp only [Function.update_apply]
    split
    · next same =>
      subst same
      simp [settling.tasks other le]
    · exact settling.tasks other le
  · exact settling.applied
  · exact settling.distinct
  · exact settling.rows
  · exact settling.silent
  · exact settling.gone
  · intro connected wired path
    change s.connected = true at connected
    rcases settling.right connected wired path with announced | ⟨k, newer, applied, isRight⟩
    · exact .inl announced
    · refine .inr ⟨k, fun other task isTask wrote => ?_, applied, ?_⟩
      · simp only [Function.update_apply] at isTask
        split at isTask
        · next same =>
          subst same
          obtain ⟨before, isBefore, rfl⟩ := Option.map_eq_some_iff.mp isTask
          exact newer other before isBefore (writes connected before path isBefore wrote)
        · exact newer other task isTask wrote
      · rcases isRight with row | ⟨task, isTask, isRight⟩
        · exact .inl row
        · by_cases same : k = id
          · subst same
            refine .inr ⟨change task, ?_, right connected task path isTask isRight⟩
            simp [isTask]
          · exact .inr ⟨task, by simp [Function.update_of_ne same, isTask], isRight⟩

theorem answer (settling : Settling port s) (id : Nat) : Settling port (s.step port (.answer id)) := by
  simp only [step]
  split
  · refine settling.reply id (fun _ task path _ => ?_) (fun _ task path _ => ?_)
    · rcases task with ⟨other, _ | reply⟩ | (_ | reply) | ⟨other, _ | reply, rest, messages⟩
      · cases there : s.modem.get other with
        | none => simp [Task.answer, Task.Writes, there]
        | some =>
          simp only [Task.answer, Task.Writes, there]
          rintro rfl
          exact ⟨rfl, by simp [there]⟩
      · exact fun writes => writes
      · exact fun writes => writes
      · exact fun writes => writes
      · exact fun writes => writes
      · exact fun writes => writes
    · rcases task with ⟨other, _ | reply⟩ | (_ | reply) | ⟨other, _ | reply, rest, messages⟩
      · rintro ⟨rfl, there, -⟩
        exact ⟨rfl, there, .inr rfl⟩
      · exact fun right => right
      · exact fun _ => ⟨settling.distinct, OrderedMap.mem_keys⟩
      · exact fun right => right
      · rintro ⟨fits, later, here, done⟩
        exact ⟨fits, later, fun same => ⟨.inr (same ▸ rfl), (here same).2⟩, done⟩
      · exact fun right => right
  · exact settling

theorem reject (settling : Settling port s) (id : Nat) (inOrder : InOrder port s (.reject id)) :
    Settling port (s.step port (.reject id)) := by
  refine settling.reply id (fun connected task path isTask => ?_)
    (fun connected task path isTask => ?_)
  · rcases task with ⟨other, _ | reply⟩ | (_ | reply) | ⟨other, _ | reply, rest, messages⟩
    · exact False.elim
    · exact fun writes => writes
    · exact fun writes => writes
    · exact fun writes => writes
    · exact fun writes => writes
    · exact fun writes => writes
  · have unreadable := inOrder connected task isTask
    rcases task with ⟨other, _ | reply⟩ | (_ | reply) | ⟨other, _ | reply, rest, messages⟩
    · rintro ⟨rfl, there, -⟩
      exact absurd there unreadable
    · exact fun right => right
    · exact absurd trivial unreadable
    · exact fun right => right
    · rintro ⟨fits, later, here, done⟩
      refine ⟨fits, later, ?_, done⟩
      rintro rfl
      obtain ⟨⟨-, there⟩ | replied, -⟩ := here rfl
      · exact absurd there unreadable
      · cases replied
    · exact fun right => right

/-- How a task that is right for a path goes on: by the right event, or as a right task. -/
def GoesRight (port : SmsPort) (s : Inbox) (path : Nat) :
    Option SmsInboxEvent × Option Task → Prop
  | (some event, none) => concerns path event ∧ (s.store.apply event).1.rows.get path = s.held path
  | (none, some task) => task.RightFor port.cap path (s.modem.get path)
  | _ => False

theorem readNext_goesRight (connected : s.connected) {messages : List SmsMessage} {rest : List Nat}
    (fits : messages.length + rest.length ≤ port.cap) (distinct : rest.Nodup)
    (later : path ∈ rest → s.modem.get path ≠ none ∧ Lists messages path none)
    (done : path ∉ rest → Lists messages path (s.modem.get path)) :
    GoesRight port s path (s.readNext port messages rest) := by
  cases rest with
  | nil =>
    refine ⟨rfl, SmsInboxStore.get_rowsOf fun message => ?_⟩
    rw [mem_sortAndCapSms (by simpa using fits)]
    exact done List.not_mem_nil message
  | cons next rest =>
    have notAgain := (List.nodup_cons.mp distinct).1
    rw [List.length_cons] at fits
    refine ⟨⟨by omega, distinct⟩, ?_, ?_, ?_⟩
    · exact fun mem => later (List.mem_cons_of_mem next mem)
    · rintro rfl
      obtain ⟨there, none⟩ := later List.mem_cons_self
      exact ⟨.inl ⟨by simp [call, connected], there⟩, none⟩
    · exact fun differs notLater => done (by simp [differs, notLater])

theorem turn_goesRight (connected : s.connected)
    (right : task.RightFor port.cap path (s.modem.get path))
    (fits : ∀ paths, task = .listing (some (some paths)) → paths.length ≤ port.cap) :
    GoesRight port s path (s.turn port task) := by
  rcases task with ⟨other, _ | _ | props⟩ | (_ | _ | paths) | ⟨other, _ | reply, rest, messages⟩
  · exact right
  · obtain ⟨-, there, replied⟩ := right
    simp only [reduceCtorEq, Option.some.injEq, false_or] at replied
    exact absurd replied.symm there
  · obtain ⟨rfl, there, replied⟩ := right
    simp only [reduceCtorEq, Option.some.injEq, false_or] at replied
    refine ⟨decide_eq_true rfl, (SmsInboxStore.get_added _ _).trans ?_⟩
    rw [held, ← replied]
    exact if_pos rfl
  · trivial
  · exact right
  · have le := fits paths rfl
    obtain ⟨distinct, listed⟩ := right
    refine readNext_goesRight connected ?_ ?_ ?_ ?_
    · simpa using length_selectReadablePaths paths
    · exact (List.take_sublist _ _).nodup ((List.perm_insertionSort _ _).nodup_iff.mpr distinct)
    · exact fun mem => ⟨listed.mp ((mem_selectReadablePaths le).mp mem), by simp [Lists]⟩
    · intro notListed
      have gone : s.modem.get path = none := by
        by_contra there
        exact notListed ((mem_selectReadablePaths le).mpr (listed.mpr there))
      simp [Lists, gone]
  · exact right
  · obtain ⟨⟨fits, distinct⟩, later, here, done⟩ := right
    obtain ⟨notAgain, distinct⟩ := List.nodup_cons.mp distinct
    have skips (differs : path ≠ other) (props : Option SmsProps) (before : Lists messages path props) :
        Lists (messages ++ (reply.map (smsFromProps other)).toList) path props := by
      intro message
      rw [← before message]
      cases reply with
      | none => simp
      | some =>
        simp only [Option.map_some, Option.toList_some, List.mem_append, List.mem_singleton]
        constructor
        · rintro ⟨mem | rfl, isPath⟩
          · exact ⟨mem, isPath⟩
          · exact absurd isPath.symm differs
        · rintro ⟨mem, isPath⟩
          exact ⟨.inl mem, isPath⟩
    refine readNext_goesRight connected ?_ distinct ?_ ?_
    · cases reply <;> simp <;> omega
    · intro mem
      obtain ⟨there, none⟩ := later mem
      exact ⟨there, skips (fun same => notAgain (same ▸ mem)) _ none⟩
    · intro notLater
      by_cases same : path = other
      · subst same
        obtain ⟨⟨replied, -⟩ | replied, none⟩ := here rfl
        · cases replied
        · rw [← Option.some.inj replied]
          intro message
          have noOther : ¬ (message ∈ messages ∧ message.id = path) := by
            rw [none message]
            simp
          cases reply with
          | none => simpa using noOther
          | some =>
            simp only [Option.map_some, Option.toList_some, List.mem_append,
              List.mem_singleton, Option.some.injEq]
            constructor
            · rintro ⟨mem | rfl, isPath⟩
              · exact absurd ⟨mem, isPath⟩ noOther
              · rfl
            · rintro rfl
              exact ⟨.inr rfl, rfl⟩
      · exact skips same _ (done same notLater)

theorem get_of_not_concerns {store : SmsInboxStore} {event : SmsInboxEvent}
    (elsewhere : concerns path event = false) :
    (store.apply event).1.rows.get path = store.rows.get path := by
  cases event with
  | added => rw [SmsInboxStore.get_added, if_neg (Ne.symm (of_decide_eq_false elsewhere))]
  | deleted => rw [SmsInboxStore.get_deleted, if_neg (Ne.symm (of_decide_eq_false elsewhere))]
  | resynced => cases elsewhere

/-- A task emits only about the rows it may write, and goes on as a task for these. -/
theorem turn_writes (port : SmsPort) (s : Inbox) (path : Nat) (task : Task)
    (props : Option SmsProps) :
    (∀ event, (s.turn port task).1 = some event → concerns path event → task.Writes path props) ∧
    ∀ task', (s.turn port task).2 = some task' → task'.Writes path props →
      task.Writes path props := by
  rcases task with ⟨other, _ | _ | found⟩ | (_ | _ | paths) | ⟨other, _ | reply, rest, messages⟩
  · constructor
    · nofun
    · rintro _ ⟨⟩ writes
      exact writes
  · constructor <;> nofun
  · constructor
    · rintro _ ⟨⟩ about
      have same : other = path := of_decide_eq_true about
      exact same
    · nofun
  · exact ⟨fun _ _ _ => trivial, fun _ _ _ => trivial⟩
  · exact ⟨fun _ _ _ => trivial, fun _ _ _ => trivial⟩
  · exact ⟨fun _ _ _ => trivial, fun _ _ _ => trivial⟩
  · exact ⟨fun _ _ _ => trivial, fun _ _ _ => trivial⟩
  · exact ⟨fun _ _ _ => trivial, fun _ _ _ => trivial⟩

/-- The fields of the inbox after a turn. -/
theorem resume_fields (port : SmsPort) (s : Inbox) (id : Nat) (task : Task) :
    (s.resume port id task).tasks = Function.update s.tasks id (s.turn port task).2 ∧
    (s.resume port id task).modem = s.modem ∧ (s.resume port id task).signals = s.signals ∧
    (s.resume port id task).connected = s.connected ∧
    (s.resume port id task).wiring = s.wiring ∧ (s.resume port id task).clock = s.clock := by
  simp only [Inbox.resume]
  split <;> exact ⟨rfl, rfl, rfl, rfl, rfl, rfl⟩

/-- The row of a path after a turn, and what was last applied to it. -/
theorem resume_row (port : SmsPort) (s : Inbox) (id : Nat) (task : Task) (path : Nat) :
    (∃ event, (s.turn port task).1 = some event ∧ concerns path event ∧
      (s.resume port id task).row path = (s.store.apply event).1.rows.get path ∧
      (s.resume port id task).applied path = max (s.applied path) id) ∨
    (∀ event, (s.turn port task).1 = some event → concerns path event = false) ∧
      (s.resume port id task).row path = s.row path ∧
      (s.resume port id task).applied path = s.applied path := by
  simp only [Inbox.resume]
  split
  · next none => exact .inr ⟨fun event isEvent => by simp [none] at isEvent, rfl, rfl⟩
  · next event isEvent =>
    cases about : concerns path event with
    | true => exact .inl ⟨event, isEvent, about, rfl, by simp [emit, about]⟩
    | false =>
      refine .inr ⟨fun other isOther => ?_, get_of_not_concerns about, by simp [emit, about]⟩
      cases isEvent.symm.trans isOther
      exact about

theorem resume (settling : Settling port s) (isTask : s.tasks id = some task)
    (inOrder : InOrder port s (.resume id)) : Settling port (s.resume port id task) := by
  obtain ⟨keeps, fits⟩ := inOrder task isTask
  obtain ⟨tasks, modem, signals, isConnected, wiring, clock⟩ := resume_fields port s id task
  have below := settling.lt_clock isTask
  constructor
  · intro other le
    rw [clock] at le
    rw [tasks, Function.update_of_ne (by omega)]
    exact settling.tasks other le
  · intro path
    rw [clock]
    have lt := settling.applied path
    rcases resume_row port s id task path with ⟨-, -, -, -, applied⟩ | ⟨-, -, applied⟩
    · rw [applied]
      omega
    · rw [applied]
      exact lt
  · rw [modem]
    exact settling.distinct
  · simp only [Inbox.resume]
    split
    · exact settling.rows
    · exact SmsInboxStore.nodup_apply settling.rows _
  · rw [isConnected, wiring, signals]
    exact settling.silent
  · rw [signals, modem]
    exact settling.gone
  · intro connected wired path
    rw [isConnected] at connected
    rw [wiring] at wired
    rcases settling.right connected wired path with announced | ⟨k, newer, applied, isRight⟩
    · exact .inl (announced.congr (by rw [signals]) (by rw [modem]))
    · have writes := turn_writes port s path task (s.modem.get path)
      have row := resume_row port s id task path
      right
      refine ⟨k, fun other task' isTask' wrote => ?_, ?_, ?_⟩
      · rw [modem] at wrote
        rw [tasks, Function.update_apply] at isTask'
        split at isTask'
        · next same =>
          rw [same]
          exact newer id task isTask (writes.2 task' isTask' wrote)
        · exact newer other task' isTask' wrote
      · rcases row with ⟨event, isEvent, about, -, applied'⟩ | ⟨-, -, applied'⟩
        · rw [applied']
          exact Nat.max_le.mpr ⟨applied, newer id task isTask (writes.1 event isEvent about)⟩
        · rw [applied']
          exact applied
      · rw [held, modem, ← held]
        rcases isRight with ⟨isRow, rowRight⟩ | ⟨other, isOther, otherRight⟩
        · left
          rcases row with ⟨event, isEvent, about, row, applied'⟩ | ⟨-, row, applied'⟩
          · -- Older than the row, so it leaves the row alone.
            have le := newer id task isTask (writes.1 event isEvent about)
            rw [← isRow] at le
            rw [row, keeps event isEvent path le, applied', Nat.max_eq_left le]
            exact ⟨isRow, rowRight⟩
          · rw [row, applied']
            exact ⟨isRow, rowRight⟩
        · by_cases same : k = id
          · subst same
            cases isTask.symm.trans isOther
            have goes := turn_goesRight connected otherRight fits
            cases isTurn : s.turn port task with
            | mk event task' =>
              rw [isTurn] at goes row
              cases event with
              | some event =>
                cases task' with
                | some => exact goes.elim
                | none =>
                  left
                  rcases row with ⟨_, ⟨⟩, -, row, applied'⟩ | ⟨elsewhere, -⟩
                  · exact ⟨applied'.trans (Nat.max_eq_right applied), row.trans goes.2⟩
                  · exact absurd (elsewhere event rfl) (by simp [goes.1])
              | none =>
                cases task' with
                | none => exact goes.elim
                | some task' =>
                  right
                  refine ⟨task', ?_, goes⟩
                  rw [tasks, Function.update_self, isTurn]
          · right
            refine ⟨other, ?_, otherRight⟩
            rw [tasks, Function.update_of_ne same]
            exact isOther

theorem step (settling : Settling port s) {event : Event} (inOrder : InOrder port s event) :
    Settling port (s.step port event) := by
  cases event with
  | put path props => exact settling.put path props
  | remove path => exact settling.remove path
  | drop => exact settling.drop
  | reconnected => exact settling.reconnected
  | subscribed => exact settling.subscribed
  | deliver => exact settling.deliver
  | answer id => exact settling.answer id
  | reject id => exact settling.reject id inOrder
  | resume =>
    simp only [Inbox.step]
    split
    · exact settling
    · next task isTask => exact settling.resume isTask inOrder

theorem row_of_quiet (settling : Settling port s) (quiet : s.Quiet) (path : Nat) :
    s.row path = s.held path := by
  rcases settling.right quiet.connected quiet.wired path with announced | ⟨k, -, -, row | task⟩
  · simp [Announced, quiet.signals, lastAbout] at announced
  · exact row.2
  · obtain ⟨task, isTask, -⟩ := task
    rw [quiet.tasks k] at isTask
    cases isTask

/-- The rows are the messages of the modem, in some order. -/
theorem rows_perm (settling : Settling port s) (rows : ∀ path, s.row path = s.held path) :
    s.store.rows.values.Perm s.messages ∧ (s.store.rows.values.map SmsMessage.id).Nodup := by
  have isRow {item : Nat × SmsMessage} (mem : item ∈ s.store.rows.items) :
      s.held item.1 = some item.2 :=
    (rows item.1).symm.trans (OrderedMap.get_of_mem_items settling.rows mem)
  have ids : s.store.rows.values.map SmsMessage.id = s.store.rows.keys := by
    rw [OrderedMap.values, OrderedMap.keys, List.map_map]
    refine List.map_congr_left fun item mem => ?_
    obtain ⟨props, -, same⟩ := Option.map_eq_some_iff.mp (isRow mem)
    exact congrArg SmsMessage.id same.symm
  have distinct : (s.store.rows.values.map SmsMessage.id).Nodup := ids ▸ settling.rows
  refine ⟨(List.perm_ext_iff_of_nodup (distinct.of_map _) ?_).mpr fun message => ?_, distinct⟩
  · have sameIds : s.messages.map SmsMessage.id = s.modem.keys := by
      rw [messages, OrderedMap.keys, List.map_map]
      rfl
    exact .of_map SmsMessage.id (sameIds ▸ settling.distinct)
  · constructor
    · intro mem
      obtain ⟨item, isItem, rfl⟩ := List.mem_map.mp mem
      obtain ⟨props, there, same⟩ := Option.map_eq_some_iff.mp (isRow isItem)
      exact List.mem_map.mpr ⟨_, OrderedMap.mem_items_of_get there, same⟩
    · intro mem
      obtain ⟨item, isItem, rfl⟩ := List.mem_map.mp mem
      have isRow : s.row item.1 = some (smsFromProps item.1 item.2) := by
        rw [rows, held, OrderedMap.get_of_mem_items settling.distinct isItem]
        rfl
      exact OrderedMap.mem_values_of_get isRow

theorem converged (settling : Settling port s) (quiet : s.Quiet) : Converged port s := by
  have rows := settling.row_of_quiet quiet
  obtain ⟨perm, distinct⟩ := settling.rows_perm rows
  exact ⟨rows, sortAndCapSms_perm perm distinct⟩

end Settling

end Inbox

end ModemStack.Sms
