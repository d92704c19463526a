import ModemStack.Async.Steps
import ModemStack.Backend.ManagedObjects
import ModemStack.Data.OrderedMap

/-!
`Signal.Setup` once per epoch and modem.

A modem is marked as applied before it is looked at whether it has the `Signal` interface, and a
reply is recorded whatever the epoch has become. `honest_run` says at which events neither does
harm.
-/

namespace ModemStack.Backend

open ModemStack.Async ModemStack.Data ModemStack.Text

inductive SignalCadence where
  | active
  | unsupported
  | unknown
deriving DecidableEq

def signalIface : JsString := js "org.freedesktop.ModemManager1.Modem.Signal"

def hasInterface (tree : DecodedManagedObjects) (path iface : JsString) : Bool :=
  (findInterface tree path iface).isSome

/-- A `Setup` call. Kept for the proofs: the epoch that was current when it was sent. -/
structure SetupCall where
  epoch : JsString
  path : JsString
  current : Option JsString
  succeeded : Option Bool
deriving DecidableEq

def SetupCall.scope (call : SetupCall) : JsString × JsString := (call.epoch, call.path)

/-- Kept for the proofs: the refreshes so far. -/
structure SignalSetupManager where
  currentEpoch : Option JsString
  applied : List JsString
  cadence : OrderedMap JsString SignalCadence
  calls : List SetupCall
  refreshes : List (JsString × DecodedManagedObjects)

namespace SignalSetupManager

inductive Event where
  | applyForEpoch (epoch : JsString) (tree : DecodedManagedObjects)
  | replied (call : Nat) (succeeded : Bool)

def new : SignalSetupManager := ⟨none, [], .empty, [], []⟩

def cadenceFor (m : SignalSetupManager) (modemPath : JsString) : SignalCadence :=
  (m.cadence.get modemPath).getD .unknown

def setCadence (m : SignalSetupManager) (modemPath : JsString) (cadence : SignalCadence) :
    SignalSetupManager :=
  { m with cadence := m.cadence.set modemPath cadence }

def appliedKey (epoch modemPath : JsString) : JsString := epoch ++ 0 :: modemPath

/-- `#setupOne`, to the call. -/
def setupOne (m : SignalSetupManager) (epoch modemPath : JsString) (tree : DecodedManagedObjects) :
    SignalSetupManager :=
  if m.currentEpoch ≠ some epoch then m
  else if ¬ hasInterface tree modemPath signalIface then m.setCadence modemPath .unsupported
  else { m with calls := m.calls ++ [⟨epoch, modemPath, m.currentEpoch, none⟩] }

def applyOne (epoch : JsString) (tree : DecodedManagedObjects) (m : SignalSetupManager)
    (modemPath : JsString) : SignalSetupManager :=
  let key := appliedKey epoch modemPath
  if key ∈ m.applied then m
  else { m with applied := key :: m.applied }.setupOne epoch modemPath tree

def applyForEpoch (m : SignalSetupManager) (epoch : JsString) (tree : DecodedManagedObjects) :
    SignalSetupManager :=
  (pathsWithInterface tree modemIface).foldl (applyOne epoch tree)
    { m with currentEpoch := some epoch, refreshes := m.refreshes ++ [(epoch, tree)] }

/-- `#setupOne` goes on with the reply. -/
def replied (m : SignalSetupManager) (call : Nat) (succeeded : Bool) : SignalSetupManager :=
  match m.calls[call]? with
  | some ⟨epoch, path, current, none⟩ =>
    { m with calls := m.calls.set call ⟨epoch, path, current, some succeeded⟩ }.setCadence path
      (if succeeded then .active else .unsupported)
  | _ => m

def step (m : SignalSetupManager) : Event → SignalSetupManager
  | .applyForEpoch epoch tree => m.applyForEpoch epoch tree
  | .replied call succeeded => m.replied call succeeded

def run (events : List Event) : SignalSetupManager := events.foldl step new

/-! ### The property -/

variable {m : SignalSetupManager}

/-- The modem is in some tree of the epoch. -/
def Present (m : SignalSetupManager) (epoch path : JsString) : Prop :=
  ∃ tree, (epoch, tree) ∈ m.refreshes ∧ path ∈ pathsWithInterface tree modemIface

/-- Some tree of the epoch shows the modem with its `Signal` interface. -/
def Exposed (m : SignalSetupManager) (epoch path : JsString) : Prop :=
  ∃ tree, (epoch, tree) ∈ m.refreshes ∧ path ∈ pathsWithInterface tree modemIface ∧
    hasInterface tree path signalIface

/-- A `Setup` call of the epoch for the path, with its reply, if it came. -/
def Setup (m : SignalSetupManager) (epoch path : JsString) (reply : Option Bool) : Prop :=
  ∃ call ∈ m.calls, call.epoch = epoch ∧ call.path = path ∧ call.succeeded = reply

def setups (m : SignalSetupManager) (epoch path : JsString) : List SetupCall :=
  m.calls.filter fun call => call.epoch = epoch ∧ call.path = path

structure Honest (m : SignalSetupManager) : Prop where
  once : ∀ epoch path, (m.setups epoch path).length ≤ 1
  current : ∀ call ∈ m.calls, call.current = some call.epoch
  covered : ∀ epoch path, m.Exposed epoch path → ∃ reply, m.Setup epoch path reply
  last : (∀ call ∈ m.calls, call.succeeded ≠ none) → ∀ epoch path, m.currentEpoch = some epoch →
    m.Present epoch path → (m.cadenceFor path = .active ↔ m.Setup epoch path (some true))

/-- The cadence says what the `Setup` of the epoch came to, unless that is not known yet. -/
def RightFor (m : SignalSetupManager) (epoch path : JsString) : Prop :=
  m.Setup epoch path none ∨ (m.cadenceFor path = .active ↔ m.Setup epoch path (some true))

/-- A modem that counts as applied was in an earlier tree of the epoch, and if it shows `Signal` its
`Setup` was sent; the cadences of an epoch that comes back are its own. A reply of another epoch
finds its modem absent from the current one, or not set up yet, or comes to the same. -/
def Timely (m : SignalSetupManager) : Event → Prop
  | .applyForEpoch epoch tree =>
    (∀ path ∈ pathsWithInterface tree modemIface, appliedKey epoch path ∈ m.applied →
      m.Present epoch path ∧
        (hasInterface tree path signalIface → ∃ reply, m.Setup epoch path reply)) ∧
    ∀ path, m.Present epoch path → m.RightFor epoch path
  | .replied call succeeded => ∀ sent, m.calls[call]? = some sent → sent.succeeded = none →
      ∀ epoch, m.currentEpoch = some epoch → sent.epoch ≠ epoch → m.Present epoch sent.path →
        m.Setup epoch sent.path none ∨ (succeeded = true ↔ m.Setup epoch sent.path (some true))

/-! ### One refresh -/

/-- What one path of a refresh can come to. -/
inductive Applied (m : SignalSetupManager) (epoch path : JsString) (signal : Bool) :
    SignalSetupManager → Prop where
  | skipped (already : appliedKey epoch path ∈ m.applied) : Applied m epoch path signal m
  | unsupported (isNew : appliedKey epoch path ∉ m.applied) (none : signal = false) :
      Applied m epoch path signal { m with
        applied := appliedKey epoch path :: m.applied
        cadence := m.cadence.set path .unsupported }
  | sent (isNew : appliedKey epoch path ∉ m.applied) (some : signal = true) :
      Applied m epoch path signal { m with
        applied := appliedKey epoch path :: m.applied
        calls := m.calls ++ [⟨epoch, path, m.currentEpoch, none⟩] }

theorem applyOne_cases {epoch : JsString} (path : JsString) (tree : DecodedManagedObjects)
    (current : m.currentEpoch = some epoch) :
    Applied m epoch path (hasInterface tree path signalIface) (applyOne epoch tree m path) := by
  unfold applyOne
  by_cases already : appliedKey epoch path ∈ m.applied
  · simp only [if_pos already]
    exact .skipped already
  · simp only [if_neg already, setupOne, current, ne_eq, not_true_eq_false, if_false]
    by_cases signal : hasInterface tree path signalIface = true
    · rw [if_neg (not_not.mpr signal), ← current]
      exact .sent already signal
    · rw [if_pos signal, ← current]
      exact .unsupported already (Bool.not_eq_true _ |>.mp signal)

theorem Setup.later {epoch path : JsString} {reply : Option Bool} (setup : m.Setup epoch path reply)
    (calls : List SetupCall) : Setup { m with calls := m.calls ++ calls } epoch path reply := by
  obtain ⟨call, mem, isSetup⟩ := setup
  exact ⟨call, List.mem_append_left _ mem, isSetup⟩

/-- The calls are marked, single and of their time. -/
structure Orderly (m : SignalSetupManager) : Prop where
  marked : ∀ call ∈ m.calls, appliedKey call.epoch call.path ∈ m.applied
  distinct : (m.calls.map SetupCall.scope).Nodup
  current : ∀ call ∈ m.calls, call.current = some call.epoch

theorem Orderly.not_setup (orderly : Orderly m) {epoch path : JsString}
    (isNew : appliedKey epoch path ∉ m.applied) (reply : Option Bool) :
    ¬ m.Setup epoch path reply := by
  rintro ⟨call, mem, rfl, rfl, -⟩
  exact isNew (orderly.marked call mem)

/-- In a refresh of `epoch` with `paths`, those that meet `Done` have been seen to. -/
structure Refreshing (epoch : JsString) (tree : DecodedManagedObjects)
    (m : SignalSetupManager) (Done : JsString → Prop) : Prop where
  isCurrent : m.currentEpoch = some epoch
  orderly : Orderly m
  exhausted : ∀ path ∈ pathsWithInterface tree modemIface,
    appliedKey epoch path ∈ m.applied → Done path
  applied : ∀ path, Done path → appliedKey epoch path ∈ m.applied
  right : ∀ path, Done path → m.RightFor epoch path
  covered : ∀ path ∈ pathsWithInterface tree modemIface, Done path →
    hasInterface tree path signalIface → ∃ reply, m.Setup epoch path reply

theorem key_inj {epoch path other : JsString}
    (same : appliedKey epoch path = appliedKey epoch other) : path = other :=
  (List.cons.inj (List.append_cancel_left same)).2

section Refresh

variable {epoch path : JsString} {tree : DecodedManagedObjects} {Done : JsString → Prop}

theorem Refreshing.applyOne (refreshing : Refreshing epoch tree m Done)
    (mem : path ∈ pathsWithInterface tree modemIface) :
    Refreshing epoch tree (applyOne epoch tree m path) (fun other => Done other ∨ other = path) := by
  have cases := applyOne_cases path tree refreshing.isCurrent
  generalize SignalSetupManager.applyOne epoch tree m path = m' at cases ⊢
  cases cases with
  | skipped already =>
    have isDone : ∀ other, Done other ∨ other = path → Done other := by
      rintro other (done | rfl)
      · exact done
      · exact refreshing.exhausted other mem already
    exact
      { isCurrent := refreshing.isCurrent
        orderly := refreshing.orderly
        exhausted := fun other isPath key => .inl (refreshing.exhausted other isPath key)
        applied := fun other done => refreshing.applied other (isDone other done)
        right := fun other done => refreshing.right other (isDone other done)
        covered := fun other isPath done => refreshing.covered other isPath (isDone other done) }
  | unsupported isNew none =>
    have differs {other : JsString} (done : Done other) : other ≠ path := by
      rintro rfl
      exact isNew (refreshing.applied other done)
    refine ⟨refreshing.isCurrent, ⟨fun call mem => ?_, refreshing.orderly.distinct,
      refreshing.orderly.current⟩, fun other isPath key => ?_, fun other done => ?_,
      fun other done => ?_, fun other isPath done signal => ?_⟩
    · exact List.mem_cons_of_mem _ (refreshing.orderly.marked call mem)
    · rcases List.mem_cons.mp key with same | old
      · exact .inr (key_inj same)
      · exact .inl (refreshing.exhausted other isPath old)
    · rcases done with done | rfl
      · exact List.mem_cons_of_mem _ (refreshing.applied other done)
      · exact List.mem_cons_self
    · rcases done with done | rfl
      · refine (refreshing.right other done).imp_right fun right => ?_
        rw [cadenceFor, OrderedMap.get_set, if_neg (differs done)]
        exact right
      · refine .inr ⟨fun active => ?_, fun setup => ?_⟩
        · rw [cadenceFor, OrderedMap.get_set, if_pos rfl] at active
          cases active
        · exact absurd setup (refreshing.orderly.not_setup isNew _)
    · rcases done with done | rfl
      · exact refreshing.covered other isPath done signal
      · rw [none] at signal
        cases signal
  | sent isNew some =>
    have differs {other : JsString} (done : Done other) : other ≠ path := by
      rintro rfl
      exact isNew (refreshing.applied other done)
    have made : Setup { m with
        applied := appliedKey epoch path :: m.applied
        calls := m.calls ++ [⟨epoch, path, m.currentEpoch, none⟩] } epoch path none :=
      ⟨_, List.mem_append_right _ List.mem_cons_self, rfl, rfl, rfl⟩
    have same {other : JsString} (differs : other ≠ path) (reply : Option Bool) :
        Setup { m with
          applied := appliedKey epoch path :: m.applied
          calls := m.calls ++ [⟨epoch, path, m.currentEpoch, none⟩] } epoch other reply ↔
        m.Setup epoch other reply := by
      constructor
      · rintro ⟨call, mem, isEpoch, isPath, isReply⟩
        rcases List.mem_append.mp mem with old | isNew
        · exact ⟨call, old, isEpoch, isPath, isReply⟩
        · rw [List.mem_singleton.mp isNew] at isPath
          exact absurd isPath.symm differs
      · exact fun setup => setup.later _
    refine ⟨refreshing.isCurrent, ⟨fun call mem => ?_, ?_, fun call mem => ?_⟩,
      fun other isPath key => ?_, fun other done => ?_, fun other done => ?_,
      fun other isPath done signal => ?_⟩
    · rcases List.mem_append.mp mem with old | isNew
      · exact List.mem_cons_of_mem _ (refreshing.orderly.marked call old)
      · rw [List.mem_singleton.mp isNew]
        exact List.mem_cons_self
    · rw [List.map_append, List.map_singleton]
      refine List.nodup_append.mpr ⟨refreshing.orderly.distinct, List.nodup_singleton _, ?_⟩
      intro scope mem last isLast same
      obtain ⟨call, isCall, rfl⟩ := List.mem_map.mp mem
      rw [List.mem_singleton.mp isLast] at same
      obtain ⟨isEpoch, isPath⟩ := Prod.mk.inj same
      exact refreshing.orderly.not_setup isNew _ ⟨call, isCall, isEpoch, isPath, rfl⟩
    · rcases List.mem_append.mp mem with old | isNew
      · exact refreshing.orderly.current call old
      · rw [List.mem_singleton.mp isNew]
        exact refreshing.isCurrent
    · rcases List.mem_cons.mp key with same | old
      · exact .inr (key_inj same)
      · exact .inl (refreshing.exhausted other isPath old)
    · rcases done with done | rfl
      · exact List.mem_cons_of_mem _ (refreshing.applied other done)
      · exact List.mem_cons_self
    · rcases done with done | rfl
      · unfold RightFor
        rw [same (differs done), same (differs done)]
        exact refreshing.right other done
      · exact .inl made
    · rcases done with done | rfl
      · obtain ⟨reply, setup⟩ := refreshing.covered other isPath done signal
        exact ⟨reply, (same (differs done) reply).mpr setup⟩
      · exact ⟨_, made⟩

theorem Refreshing.foldl {paths : List JsString} (refreshing : Refreshing epoch tree m Done)
    (sub : ∀ path ∈ paths, path ∈ pathsWithInterface tree modemIface) :
    Refreshing epoch tree (paths.foldl (SignalSetupManager.applyOne epoch tree) m)
      (fun other => Done other ∨ other ∈ paths) := by
  induction paths generalizing m Done with
  | nil => simpa using refreshing
  | cons path paths ih =>
    have first := refreshing.applyOne (sub path List.mem_cons_self)
    have rest := ih first fun other mem => sub other (List.mem_cons_of_mem _ mem)
    simpa only [List.foldl_cons, List.mem_cons, or_assoc] using rest

end Refresh

/-- What no refresh takes back. -/
structure Keeps (m m' : SignalSetupManager) : Prop where
  refreshes : m'.refreshes = m.refreshes
  applied : ∀ key ∈ m.applied, key ∈ m'.applied
  setup : ∀ epoch path reply, m.Setup epoch path reply → m'.Setup epoch path reply

theorem keeps_applyOne {epoch : JsString} (path : JsString) (tree : DecodedManagedObjects)
    (current : m.currentEpoch = some epoch) : Keeps m (applyOne epoch tree m path) ∧
      (applyOne epoch tree m path).currentEpoch = some epoch := by
  have cases := applyOne_cases path tree current
  generalize applyOne epoch tree m path = m' at cases ⊢
  cases cases with
  | skipped => exact ⟨⟨rfl, fun _ mem => mem, fun _ _ _ setup => setup⟩, current⟩
  | unsupported =>
    exact ⟨⟨rfl, fun _ mem => List.mem_cons_of_mem _ mem, fun _ _ _ setup => setup⟩, current⟩
  | sent =>
    exact ⟨⟨rfl, fun _ mem => List.mem_cons_of_mem _ mem, fun _ _ _ setup => setup.later _⟩,
      current⟩

theorem keeps_foldl {epoch : JsString} {tree : DecodedManagedObjects} (paths : List JsString)
    (current : m.currentEpoch = some epoch) : Keeps m (paths.foldl (applyOne epoch tree) m) := by
  induction paths generalizing m with
  | nil => exact ⟨rfl, fun _ mem => mem, fun _ _ _ setup => setup⟩
  | cons path paths ih =>
    obtain ⟨first, still⟩ := keeps_applyOne path tree current
    have rest := ih still
    exact ⟨rest.refreshes.trans first.refreshes,
      fun key mem => rest.applied key (first.applied key mem),
      fun epoch path reply setup => rest.setup _ _ _ (first.setup _ _ _ setup)⟩

/-! ### Runs -/

structure Sound (m : SignalSetupManager) : Prop where
  orderly : Orderly m
  covered : ∀ epoch path, m.Exposed epoch path → ∃ reply, m.Setup epoch path reply
  present : ∀ epoch path, m.Present epoch path → appliedKey epoch path ∈ m.applied
  right : ∀ epoch path, m.currentEpoch = some epoch → m.Present epoch path → m.RightFor epoch path

theorem sound_new : Sound new where
  orderly := ⟨nofun, List.nodup_nil, nofun⟩
  covered := by
    rintro epoch path ⟨tree, mem, -⟩
    cases mem
  present := by
    rintro epoch path ⟨tree, mem, -⟩
    cases mem
  right := nofun

theorem Sound.honest (sound : Sound m) : Honest m where
  once epoch path := by
    have count : (m.setups epoch path).length =
        (m.calls.map SetupCall.scope).count (epoch, path) := by
      rw [List.count_eq_countP, List.countP_map, List.countP_eq_length_filter, setups]
      congr 2
      funext call
      rw [Function.comp_apply, Bool.eq_iff_iff]
      simp [SetupCall.scope]
    rw [count]
    exact List.nodup_iff_count_le_one.mp sound.orderly.distinct _
  current := sound.orderly.current
  covered := sound.covered
  last replied epoch path current present := by
    refine (sound.right epoch path current present).resolve_left ?_
    rintro ⟨call, mem, -, -, pending⟩
    exact replied call mem pending

theorem Sound.applyForEpoch (sound : Sound m) {epoch : JsString} {tree : DecodedManagedObjects}
    (timely : m.Timely (.applyForEpoch epoch tree)) : Sound (m.applyForEpoch epoch tree) := by
  obtain ⟨applied, returned⟩ := timely
  have begun : Refreshing epoch tree
      { m with currentEpoch := some epoch, refreshes := m.refreshes ++ [(epoch, tree)] }
      (m.Present epoch) := by
    refine ⟨rfl, ⟨sound.orderly.marked, sound.orderly.distinct, sound.orderly.current⟩,
      fun path mem key => (applied path mem key).1,
      fun path present => sound.present epoch path present, returned, ?_⟩
    exact fun path mem present signal =>
      (applied path mem (sound.present epoch path present)).2 signal
  have ended := begun.foldl fun path mem => mem
  have keeps : Keeps
      { m with currentEpoch := some epoch, refreshes := m.refreshes ++ [(epoch, tree)] }
      (m.applyForEpoch epoch tree) := keeps_foldl _ rfl
  rw [← SignalSetupManager.applyForEpoch] at ended
  have isRefresh {epoch' : JsString} {tree' : DecodedManagedObjects}
      (mem : (epoch', tree') ∈ (m.applyForEpoch epoch tree).refreshes) :
      (epoch', tree') ∈ m.refreshes ∨ epoch' = epoch ∧ tree' = tree := by
    rw [keeps.refreshes] at mem
    rcases List.mem_append.mp mem with old | isNew
    · exact .inl old
    · exact .inr (Prod.mk.inj (List.mem_singleton.mp isNew))
  refine ⟨ended.orderly, ?_, ?_, ?_⟩
  · rintro epoch' path ⟨tree', mem, isModem, signal⟩
    rcases isRefresh mem with old | ⟨rfl, rfl⟩
    · obtain ⟨reply, setup⟩ := sound.covered epoch' path ⟨tree', old, isModem, signal⟩
      exact ⟨reply, keeps.setup _ _ _ setup⟩
    · exact ended.covered path isModem (.inr isModem) signal
  · rintro epoch' path ⟨tree', mem, isModem⟩
    rcases isRefresh mem with old | ⟨rfl, rfl⟩
    · exact keeps.applied _ (sound.present epoch' path ⟨tree', old, isModem⟩)
    · exact ended.applied path (.inr isModem)
  · rintro epoch' path current ⟨tree', mem, isModem⟩
    obtain rfl : epoch = epoch' := Option.some.inj (ended.isCurrent.symm.trans current)
    rcases isRefresh mem with old | ⟨-, rfl⟩
    · exact ended.right path (.inl ⟨tree', old, isModem⟩)
    · exact ended.right path (.inr isModem)

section Reply

variable {call : Nat} {epoch path : JsString} {current : Option JsString} {succeeded : Bool}

theorem replied_cases (m : SignalSetupManager) (call : Nat) (succeeded : Bool) :
    (∃ epoch path current, m.calls[call]? = some ⟨epoch, path, current, none⟩ ∧
      m.replied call succeeded =
        { m with
          calls := m.calls.set call ⟨epoch, path, current, some succeeded⟩
          cadence := m.cadence.set path (if succeeded then .active else .unsupported) }) ∨
      m.replied call succeeded = m := by
  unfold replied
  split
  · next epoch path current found => exact .inl ⟨epoch, path, current, found, rfl⟩
  · exact .inr rfl

theorem setup_set (orderly : Orderly m) (succeeded : Bool)
    (found : m.calls[call]? = some ⟨epoch, path, current, none⟩)
    (cadence : OrderedMap JsString SignalCadence) (epoch' path' : JsString)
    (reply : Option Bool) :
    Setup { m with
        calls := m.calls.set call ⟨epoch, path, current, some succeeded⟩
        cadence } epoch' path' reply ↔
      if (epoch', path') = (epoch, path) then reply = some succeeded
      else m.Setup epoch' path' reply := by
  obtain ⟨lt, -⟩ := List.getElem?_eq_some_iff.mp found
  have at' (i : Nat) : (m.calls.set call ⟨epoch, path, current, some succeeded⟩)[i]? =
      if call = i then some ⟨epoch, path, current, some succeeded⟩ else m.calls[i]? := by
    by_cases same : call = i
    · subst same
      rw [List.getElem?_set_self lt, if_pos rfl]
    · rw [List.getElem?_set_ne same, if_neg same]
  by_cases isThis : (epoch', path') = (epoch, path)
  · rw [if_pos isThis]
    obtain ⟨rfl, rfl⟩ := Prod.mk.inj isThis
    constructor
    · rintro ⟨other, mem, isEpoch, isPath, rfl⟩
      obtain ⟨i, isOther⟩ := List.mem_iff_getElem?.mp mem
      rw [at' i] at isOther
      split at isOther
      · cases isOther
        rfl
      · next differs =>
        have scopes : (m.calls.map SetupCall.scope)[i]? =
            (m.calls.map SetupCall.scope)[call]? := by
          rw [List.getElem?_map, List.getElem?_map, isOther, found]
          exact congrArg some (Prod.ext isEpoch isPath)
        have valid : i < (m.calls.map SetupCall.scope).length := by
          rw [List.length_map]
          exact (List.getElem?_eq_some_iff.mp isOther).1
        exact absurd ((List.getElem?_inj valid orderly.distinct).mp scopes).symm differs
    · rintro rfl
      exact ⟨_, List.mem_iff_getElem?.mpr ⟨call, by rw [at', if_pos rfl]⟩, rfl, rfl, rfl⟩
  · rw [if_neg isThis]
    constructor
    · rintro ⟨other, mem, rfl, rfl, isReply⟩
      obtain ⟨i, isOther⟩ := List.mem_iff_getElem?.mp mem
      rw [at' i] at isOther
      split at isOther
      · cases isOther
        exact absurd rfl isThis
      · exact ⟨other, List.mem_of_getElem? isOther, rfl, rfl, isReply⟩
    · rintro ⟨other, mem, rfl, rfl, isReply⟩
      obtain ⟨i, isOther⟩ := List.mem_iff_getElem?.mp mem
      refine ⟨other, List.mem_iff_getElem?.mpr ⟨i, ?_⟩, rfl, rfl, isReply⟩
      rw [at', if_neg, isOther]
      rintro rfl
      rw [found] at isOther
      cases isOther
      exact isThis rfl

theorem Sound.replied (sound : Sound m) (timely : m.Timely (.replied call succeeded)) :
    Sound (m.replied call succeeded) := by
  obtain ⟨epoch, path, current, found, isNext⟩ | still := replied_cases m call succeeded
  · rw [isNext]
    have setup := setup_set sound.orderly succeeded found
      (m.cadence.set path (if succeeded then .active else .unsupported))
    have known : (⟨epoch, path, current, none⟩ : SetupCall) ∈ m.calls := List.mem_of_getElem? found
    have scopes : (m.calls.set call ⟨epoch, path, current, some succeeded⟩).map SetupCall.scope =
        m.calls.map SetupCall.scope := by
      obtain ⟨lt, isCall⟩ := List.getElem?_eq_some_iff.mp found
      have inside : call < (m.calls.map SetupCall.scope).length := by rwa [List.length_map]
      have same : SetupCall.scope ⟨epoch, path, current, some succeeded⟩ =
          (m.calls.map SetupCall.scope)[call] := by
        rw [List.getElem_map, isCall]
        rfl
      rw [List.map_set, same, List.set_getElem_self]
    refine ⟨⟨fun other mem => ?_, ?_, fun other mem => ?_⟩, fun epoch' path' exposed => ?_,
      sound.present, fun epoch' path' isCurrent present => ?_⟩
    · rcases List.mem_or_eq_of_mem_set mem with old | rfl
      · exact sound.orderly.marked other old
      · exact sound.orderly.marked ⟨epoch, path, current, none⟩ known
    · rw [scopes]
      exact sound.orderly.distinct
    · rcases List.mem_or_eq_of_mem_set mem with old | rfl
      · exact sound.orderly.current other old
      · exact sound.orderly.current ⟨epoch, path, current, none⟩ known
    · obtain ⟨reply, isSetup⟩ := sound.covered epoch' path' exposed
      by_cases isThis : (epoch', path') = (epoch, path)
      · exact ⟨some succeeded, by rw [setup, if_pos isThis]⟩
      · exact ⟨reply, by rw [setup, if_neg isThis]; exact isSetup⟩
    · unfold RightFor
      rw [setup, setup, cadenceFor, OrderedMap.get_set]
      by_cases isPath : path' = path
      · subst isPath
        have reads : ((some (if succeeded then SignalCadence.active else .unsupported)).getD
            .unknown = .active) ↔ succeeded = true := by
          cases succeeded <;> simp
        rw [if_pos rfl, reads]
        by_cases isEpoch : epoch' = epoch
        · subst isEpoch
          rw [if_pos rfl, if_pos rfl]
          exact .inr (by simp [eq_comm])
        · have differs : (epoch', path') ≠ (epoch, path') := fun same => isEpoch (Prod.mk.inj same).1
          rw [if_neg differs, if_neg differs]
          exact timely _ found rfl epoch' isCurrent (Ne.symm isEpoch) present
      · have differs : (epoch', path') ≠ (epoch, path) := fun same => isPath (Prod.mk.inj same).2
        rw [if_neg differs, if_neg differs, if_neg isPath]
        exact sound.right epoch' path' isCurrent present
  · rw [still]
    exact sound

end Reply

theorem Sound.step (sound : Sound m) {event : Event} (timely : m.Timely event) :
    Sound (m.step event) := by
  cases event with
  | applyForEpoch => exact sound.applyForEpoch timely
  | replied => exact sound.replied timely

/-- After a run whose events are all timely, each modem of each epoch has been set up at most once
and in its epoch, every modem shown with `Signal` has been, and the cadences are those of the last
epoch. -/
theorem honest_run (events : List Event) (timely : AllowsEvents step Timely new events) :
    Honest (run events) :=
  Sound.honest (foldl_invariant (fun _ _ sound timely => sound.step timely) sound_new timely)

/-! ### Runs by example -/

/-- One modem, without and with its `Signal` interface. -/
def treeOf (signal : Bool) : DecodedManagedObjects :=
  [(js "/m", (modemIface, []) :: if signal then [(signalIface, [])] else [])]

def timelyRun : List Event :=
  [.applyForEpoch (js ":1.1") (treeOf true), .replied 0 true]

theorem honest_timelyRun : AllowsEvents step Timely new timelyRun ∧ Honest (run timelyRun) := by
  have timely : AllowsEvents step Timely new timelyRun := by
    refine ⟨⟨?_, ?_⟩, ?_, trivial⟩
    · intro path mem key
      cases key
    · rintro path ⟨tree, mem, -⟩
      cases mem
    · intro sent found pending epoch current differs present
      cases Option.some.inj found
      exact absurd (Option.some.inj current) differs
  exact ⟨timely, honest_run timelyRun timely⟩

/-- The modem shows `Signal` only in the second refresh of its epoch. -/
def lateInterface : List Event :=
  [.applyForEpoch (js ":1.1") (treeOf false), .applyForEpoch (js ":1.1") (treeOf true)]

/-- The reply of the first epoch comes after that of the second. -/
def lateReply : List Event :=
  [.applyForEpoch (js ":1.1") (treeOf true), .applyForEpoch (js ":1.2") (treeOf true),
    .replied 1 true, .replied 0 false]

theorem setup_honest_fails : ¬ Honest (run lateInterface) ∧ ¬ Honest (run lateReply) := by
  constructor
  · intro honest
    have exposed : Exposed (run lateInterface) (js ":1.1") (js "/m") :=
      ⟨treeOf true, List.mem_cons_of_mem _ List.mem_cons_self, by decide, by decide⟩
    obtain ⟨reply, call, mem, -⟩ := honest.covered _ _ exposed
    have none : (run lateInterface).calls = [] := by decide
    rw [none] at mem
    cases mem
  · intro honest
    have calls : (run lateReply).calls =
        [⟨js ":1.1", js "/m", some (js ":1.1"), some false⟩,
          ⟨js ":1.2", js "/m", some (js ":1.2"), some true⟩] := by decide
    have last := honest.last (by rw [calls]; decide) (js ":1.2") (js "/m") (by decide)
      ⟨treeOf true, List.mem_cons_of_mem _ List.mem_cons_self, by decide⟩
    have active := last.mpr
      ⟨_, by rw [calls]; exact List.mem_cons_of_mem _ List.mem_cons_self, rfl, rfl, rfl⟩
    exact absurd active (by decide)

end SignalSetupManager

end ModemStack.Backend
