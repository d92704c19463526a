import ModemStack.Async.Steps
import ModemStack.Backend.ActiveConnections

/-!
What the quiesce leases of the nmcli adapter do to the connections they hold down.

A lease does not record what it found, and its release looks neither at that nor at the other
leases on the interface. `restores_run` says at which calls this does no harm.
-/

namespace ModemStack.Backend

open ModemStack.Async ModemStack.Async.Program ModemStack.Text

/-- The connection and the interface of a lease. -/
def HeldLease.scope (held : HeldLease) : JsString × JsString :=
  (held.lease.connectionId, held.lease.deviceIfname)

namespace QuiesceRestoration

/-! ### Runs -/

inductive PortCall where
  | acquireQuiesceLease (connectionId deviceIfname : JsString)
  | releaseQuiesceLease (held : HeldLease)
  | sweepExpiredLeases (now : Option Int)
  | activate (connectionId deviceIfname : JsString)
  | deactivate (connectionId deviceIfname : JsString)
deriving DecidableEq

/-- `clock` is what the call reads, `outside` what happens before each of its runs of nmcli. -/
structure PortEvent where
  call : PortCall
  clock : Int
  outside : List (ActiveConnections → ActiveConnections)

/-- Whether the connection was active when the first of the leases on it was acquired, and whether
something was activated or deactivated since. -/
structure Opening where
  found : Bool
  moved : Bool

abbrev Openings : Type := JsString × JsString → Option Opening

/-- A run of nmcli, in the call `event`, after the calls `before`. -/
structure Made where
  command : NmcliCall
  port : NmState
  world : World
  event : PortEvent
  before : List PortEvent
  openings : Openings

/-- `events`, `openings` and `made` are kept for the proofs. -/
structure LeaseRun where
  leases : List HeldLease
  active : ActiveConnections
  events : List PortEvent
  openings : Openings
  made : List Made

def LeaseRun.start (active : ActiveConnections) : LeaseRun := ⟨[], active, [], fun _ => none, []⟩

def task (leaseTtlMs : Int) (holder : Nat) : PortCall → NmTask Unit
  | .acquireQuiesceLease connectionId deviceIfname => do
      let _ ← NmcliNmPort.acquireQuiesceLease holder connectionId deviceIfname
  | .releaseQuiesceLease held => NmcliNmPort.releaseQuiesceLease held
  | .sweepExpiredLeases now => NmcliNmPort.sweepExpiredLeases leaseTtlMs now
  | .activate connectionId deviceIfname => do
      let _ ← NmcliNmPort.activate connectionId deviceIfname
  | .deactivate connectionId deviceIfname => do
      let _ ← NmcliNmPort.deactivate connectionId deviceIfname

/-- The openings after a call that left `leases`. -/
def reopen (run : LeaseRun) (found : ActiveConnections) (leases : List HeldLease) :
    PortCall → Openings
  | .acquireQuiesceLease connectionId deviceIfname =>
    let scope := (connectionId, deviceIfname)
    if leases = run.leases ∨ scope ∈ run.leases.map HeldLease.scope then run.openings
    else Function.update run.openings scope
      (some ⟨found.on deviceIfname = some connectionId, false⟩)
  | .releaseQuiesceLease _ | .sweepExpiredLeases _ => run.openings
  | .activate _ _ | .deactivate _ _ =>
    fun scope => (run.openings scope).map fun opening => { opening with moved := true }

variable (leaseTtlMs : Int)

def step (run : LeaseRun) (event : PortEvent) : LeaseRun :=
  let port : NmState := ⟨run.leases, event.clock⟩
  let world : World := ⟨run.active, event.outside⟩
  let p := task leaseTtlMs run.events.length event.call
  let (_, port', world') := p.alone World.nmcli port world
  let made := (p.callsAlone World.nmcli port world).map fun made =>
    ⟨made.1, made.2.1, made.2.2, event, run.events, run.openings⟩
  { leases := port'.leases
    active := world'.active
    events := run.events ++ [event]
    openings := reopen run world.found port'.leases event.call
    made := run.made ++ made }

/-! ### The property -/

def PortEvent.now (event : PortEvent) : Int :=
  match event.call with
  | .sweepExpiredLeases now => now.getD event.clock
  | _ => event.clock

def Expired (event : PortEvent) (held : HeldLease) : Prop :=
  leaseTtlMs ≤ event.now - held.lease.acquiredAt

/-- The call releases the lease, or finds it expired. -/
def Ends (event : PortEvent) (held : HeldLease) : Prop :=
  match event.call with
  | .releaseQuiesceLease released => held = released
  | .sweepExpiredLeases _ => Expired leaseTtlMs event held
  | _ => False

/-- What nmcli makes of it. -/
def Made.after (made : Made) : ActiveConnections :=
  (World.nmcli made.command made.world).2.active

/-- A call of the adapter that may disconnect the connection from the interface. -/
def Disconnects (call : PortCall) (connectionId deviceIfname : JsString) : Prop :=
  call = .acquireQuiesceLease connectionId deviceIfname ∨
    call = .deactivate connectionId deviceIfname

structure Reactivates (made : Made) (held : HeldLease) : Prop where
  ends : Ends leaseTtlMs made.event held
  first : ∀ earlier ∈ made.before.drop (held.holder + 1), ¬ Ends leaseTtlMs earlier held
  restored : (∀ other ∈ made.port.leases, other.scope ≠ held.scope) →
    ∃ opening, made.openings held.scope = some opening ∧ (opening.moved = false →
      (made.after.on held.lease.deviceIfname = some held.lease.connectionId ↔
        opening.found = true))
  unheld : ∀ other ∈ made.port.leases, other.lease.deviceIfname = held.lease.deviceIfname →
    Expired leaseTtlMs made.event other

structure Restores (run : LeaseRun) : Prop where
  once : ∀ held, (run.made.map Made.command).count (.reactivate held) ≤ 1
  reactivates : ∀ made ∈ run.made, ∀ held, made.command = .reactivate held →
    Reactivates leaseTtlMs made held
  own : ∀ made ∈ run.made, ∀ deviceIfname, made.command = .disconnect deviceIfname →
    ∃ connectionId, Disconnects made.event.call connectionId deviceIfname ∧
      ∀ other, made.world.found.on deviceIfname = some other → other = connectionId

/-- The connection was active when the first of these leases was acquired, or something was
activated or deactivated since, or nmcli takes no such names. -/
def Due (openings : Openings) (held : HeldLease) : Prop :=
  ∀ opening, openings held.scope = some opening → opening.found = true ∨ opening.moved = true ∨
    ¬ (IsName held.lease.deviceIfname ∧ IsName held.lease.connectionId)

/-- A lease that ends leaves no other unexpired lease on its interface, and is due if it is the last
on its connection; nothing else becomes active on an interface between the listing and the
disconnect. -/
structure Careful (run : LeaseRun) (event : PortEvent) : Prop where
  alone : ∀ held ∈ run.leases, Ends leaseTtlMs event held → ∀ other ∈ run.leases,
    other.lease.deviceIfname = held.lease.deviceIfname → ¬ Ends leaseTtlMs event other →
      Expired leaseTtlMs event other
  due : ∀ held ∈ run.leases, Ends leaseTtlMs event held →
    (∀ other ∈ run.leases, other.scope = held.scope → Ends leaseTtlMs event other) →
      Due run.openings held
  still : ∀ connectionId deviceIfname, Disconnects event.call connectionId deviceIfname →
    let world : World := ⟨run.active, event.outside⟩
    world.found.on deviceIfname = some connectionId →
      ∀ other, (world.after world.found).found.on deviceIfname = some other →
        other = connectionId

/-! ### What each call does -/

section Calls

variable {leaseTtlMs} {port : NmState} {world : World}

variable (connectionId deviceIfname : JsString)

theorem calls_quiesce :
    (NmcliNmPort.quiesce connectionId deviceIfname).callsAlone World.nmcli port world =
      (.listActive, port, world) ::
        if world.found.on deviceIfname = some connectionId then
          [(.disconnect deviceIfname, port, world.after world.found)]
        else [] := by
  simp only [NmcliNmPort.quiesce, activeUuidOn, callsAlone_monad_bind, callsAlone_perform,
    alone_monad_bind, alone_perform, World.nmcli, alone_pure, callsAlone_pure, List.append_nil,
    ActiveConnections.activeUuid_listing, List.cons_append, List.nil_append]
  split <;> simp [World.nmcli]

theorem mem_quiesce {connectionId deviceIfname : JsString} {made : NmcliCall × NmState × World}
    (mem : made ∈ (NmcliNmPort.quiesce connectionId deviceIfname).callsAlone World.nmcli port world) :
    made.1 = .listActive ∨ world.found.on deviceIfname = some connectionId ∧
      made = (.disconnect deviceIfname, port, world.after world.found) := by
  rw [calls_quiesce] at mem
  rcases List.mem_cons.mp mem with rfl | second
  · exact .inl rfl
  · split at second
    · next isActive => exact .inr ⟨isActive, List.mem_singleton.mp second⟩
    · cases second

theorem alone_quiesce (port : NmState) (world : World) (connectionId deviceIfname : JsString) :
    ∃ world', (NmcliNmPort.quiesce connectionId deviceIfname).alone World.nmcli port world =
      (.ok (), port, world') := by
  simp only [NmcliNmPort.quiesce, activeUuidOn, alone_monad_bind, alone_perform, World.nmcli,
    alone_pure]
  split
  · exact ⟨_, rfl⟩
  · exact ⟨_, rfl⟩

theorem calls_deactivate :
    (NmcliNmPort.deactivate connectionId deviceIfname).callsAlone World.nmcli port world =
      (NmcliNmPort.quiesce connectionId deviceIfname).callsAlone World.nmcli port world := by
  simp only [NmcliNmPort.deactivate, NmcliNmPort.quiesce, activeUuidOn, callsAlone_monad_bind,
    callsAlone_perform, alone_monad_bind, alone_perform, World.nmcli, alone_pure]
  split <;> simp

theorem calls_acquire (holder : Nat) (connectionId deviceIfname : JsString) :
    (NmcliNmPort.acquireQuiesceLease holder connectionId deviceIfname).callsAlone World.nmcli port
        world =
      (NmcliNmPort.quiesce connectionId deviceIfname).callsAlone World.nmcli port world := by
  obtain ⟨world', quiesced⟩ := alone_quiesce port world connectionId deviceIfname
  simp only [NmcliNmPort.acquireQuiesceLease, callsAlone_monad_bind, quiesced, callsAlone_get,
    alone_get, List.nil_append]
  split <;> simp

theorem calls_activate :
    (NmcliNmPort.activate connectionId deviceIfname).callsAlone World.nmcli port world =
      [(.up connectionId deviceIfname, port, world)] := by
  simp only [NmcliNmPort.activate, callsAlone_monad_bind, callsAlone_perform, alone_perform,
    World.nmcli, callsAlone_pure, List.append_nil]

theorem calls_release (held : HeldLease) :
    (NmcliNmPort.releaseQuiesceLease held).callsAlone World.nmcli port world =
      if held ∈ port.leases then
        let leases := port.leases.filter fun other => other ≠ held
        [(.reactivate held, { port with leases }, world)]
      else [] := by
  simp only [NmcliNmPort.releaseQuiesceLease, NmcliNmPort.delete, callsAlone_monad_bind,
    callsAlone_get, alone_get, List.nil_append]
  split <;> simp [World.nmcli]

/-- No call but an acquisition adds to the table, and it adds one lease at most. -/
theorem leases_acquire (port : NmState) (world : World) (holder : Nat)
    (connectionId deviceIfname : JsString) :
    let after := ((NmcliNmPort.acquireQuiesceLease holder connectionId deviceIfname).alone
      World.nmcli port world).2.1.leases
    after = port.leases ∨
      after = port.leases ++ [⟨holder, ⟨connectionId, deviceIfname, port.clock⟩⟩] := by
  obtain ⟨world', quiesced⟩ := alone_quiesce port world connectionId deviceIfname
  simp only [NmcliNmPort.acquireQuiesceLease, alone_monad_bind, quiesced, alone_get]
  split
  · exact .inr rfl
  · exact .inl rfl

theorem leases_release (held : HeldLease) :
    ((NmcliNmPort.releaseQuiesceLease held).alone World.nmcli port world).2.1.leases =
      port.leases.filter fun other => other ≠ held := by
  simp only [NmcliNmPort.releaseQuiesceLease, NmcliNmPort.delete, alone_monad_bind, alone_get]
  split
  · rfl
  · next absent =>
      refine (List.filter_eq_self.mpr fun other mem => ?_).symm
      rw [decide_eq_true_eq]
      rintro rfl
      exact absent mem

theorem port_activate :
    ((NmcliNmPort.activate connectionId deviceIfname).alone World.nmcli port world).2.1 = port := by
  simp only [NmcliNmPort.activate, alone_monad_bind, alone_perform, World.nmcli, alone_pure]

theorem port_deactivate :
    ((NmcliNmPort.deactivate connectionId deviceIfname).alone World.nmcli port world).2.1 =
      port := by
  simp only [NmcliNmPort.deactivate, activeUuidOn, alone_monad_bind, alone_perform, World.nmcli,
    alone_pure]
  split <;> rfl

/-! ### A sweep -/

def isExpired (leaseTtlMs now : Int) (held : HeldLease) : Bool :=
  leaseTtlMs ≤ now - held.lease.acquiredAt

theorem sweepOver_cons (leaseTtlMs now : Int) (held : HeldLease) (rest : List HeldLease) :
    NmcliNmPort.sweepOver leaseTtlMs now (held :: rest) =
      if isExpired leaseTtlMs now held then do
        NmcliNmPort.delete held
        let _ ← perform (.reactivate held)
        NmcliNmPort.sweepOver leaseTtlMs now rest
      else NmcliNmPort.sweepOver leaseTtlMs now rest := by
  simp only [NmcliNmPort.sweepOver, isExpired, decide_eq_true_eq]

theorem leases_sweepOver (now : Int) (rest : List HeldLease) :
    ((NmcliNmPort.sweepOver leaseTtlMs now rest).alone World.nmcli port world).2.1.leases =
      port.leases.filter fun other => !(other ∈ rest && isExpired leaseTtlMs now other) := by
  induction rest generalizing port world with
  | nil => simp [NmcliNmPort.sweepOver]
  | cons held rest ih =>
    rw [sweepOver_cons]
    by_cases expired : isExpired leaseTtlMs now held = true
    · simp only [if_pos expired, NmcliNmPort.delete, alone_monad_bind, alone_modify,
        alone_perform, World.nmcli, ih, List.filter_filter]
      refine List.filter_congr fun other _ => ?_
      by_cases same : other = held <;> simp [same, expired]
    · rw [if_neg expired, ih]
      refine List.filter_congr fun other _ => ?_
      by_cases same : other = held <;> simp [same, expired]

theorem commands_sweepOver (now : Int) (rest : List HeldLease) :
    ((NmcliNmPort.sweepOver leaseTtlMs now rest).callsAlone World.nmcli port world).map Prod.fst =
      (rest.filter (isExpired leaseTtlMs now)).map .reactivate := by
  induction rest generalizing port world with
  | nil => rfl
  | cons held rest ih =>
    rw [sweepOver_cons]
    by_cases expired : isExpired leaseTtlMs now held = true
    · simp [expired, NmcliNmPort.delete, World.nmcli, ih]
    · simp [expired, ih]

/-- The table in which a lease is reactivated: that lease is gone, and what else is gone had
expired. -/
theorem calls_sweepOver (now : Int) (rest : List HeldLease) :
    ∀ made ∈ (NmcliNmPort.sweepOver leaseTtlMs now rest).callsAlone World.nmcli port world,
      ∀ held, made.1 = .reactivate held → held ∈ rest ∧ isExpired leaseTtlMs now held = true ∧
        made.2.1.leases ⊆ port.leases ∧ held ∉ made.2.1.leases ∧
        ∀ other ∈ port.leases, other ∉ made.2.1.leases → isExpired leaseTtlMs now other = true := by
  induction rest generalizing port world with
  | nil =>
    intro made mem
    cases mem
  | cons first rest ih =>
    intro made mem held isReactivate
    rw [sweepOver_cons] at mem
    by_cases expired : isExpired leaseTtlMs now first = true
    · simp only [if_pos expired, NmcliNmPort.delete, callsAlone_monad_bind, callsAlone_modify,
        alone_modify, callsAlone_perform, alone_perform, World.nmcli, List.nil_append,
        List.cons_append, List.mem_cons] at mem
      rcases mem with rfl | later
      · cases isReactivate
        refine ⟨List.mem_cons_self, expired, fun _ => List.mem_of_mem_filter, ?_,
          fun other mem gone => ?_⟩
        · simp
        · have same : other = first := by simpa [mem] using gone
          exact same ▸ expired
      · obtain ⟨isRest, isOver, sub, absent, gone⟩ := ih made later held isReactivate
        refine ⟨List.mem_cons_of_mem _ isRest, isOver, ?_, absent, fun other mem away => ?_⟩
        · exact fun other mem => List.mem_of_mem_filter (sub mem)
        · by_cases same : other = first
          · exact same ▸ expired
          · exact gone other (List.mem_filter.mpr ⟨mem, by simpa using same⟩) away
    · rw [if_neg expired] at mem
      obtain ⟨isRest, others⟩ := ih made mem held isReactivate
      exact ⟨List.mem_cons_of_mem _ isRest, others⟩

end Calls

/-! ### One call -/

section Step

variable {leaseTtlMs} {run : LeaseRun} {event : PortEvent}

/-- The runs of nmcli of one call. -/
def callsOf (leaseTtlMs : Int) (run : LeaseRun) (event : PortEvent) :
    List (NmcliCall × NmState × World) :=
  (task leaseTtlMs run.events.length event.call).callsAlone World.nmcli
    ⟨run.leases, event.clock⟩ ⟨run.active, event.outside⟩

theorem callsOf_discard {α : Type} (p : NmTask α) (port : NmState) (world : World) :
    (do let _ ← p : NmTask Unit).callsAlone World.nmcli port world =
      p.callsAlone World.nmcli port world := by
  rw [callsAlone_monad_bind]
  split <;> exact List.append_nil _

theorem alone_discard {α : Type} (p : NmTask α) (port : NmState) (world : World) :
    ((do let _ ← p : NmTask Unit).alone World.nmcli port world).2 =
      (p.alone World.nmcli port world).2 := by
  rw [alone_monad_bind]
  split
  · next ended =>
      rw [ended]
      rfl
  · next ended => rw [ended]

theorem leases_step (leaseTtlMs : Int) (run : LeaseRun) (event : PortEvent) :
    ((step leaseTtlMs run event).leases.Sublist run.leases ∧
      ∀ held ∈ (step leaseTtlMs run event).leases, ¬ Ends leaseTtlMs event held) ∨
    ∃ connectionId deviceIfname, event.call = .acquireQuiesceLease connectionId deviceIfname ∧
      (step leaseTtlMs run event).leases =
        run.leases ++ [⟨run.events.length, ⟨connectionId, deviceIfname, event.clock⟩⟩] := by
  obtain ⟨call, clock, outside⟩ := event
  cases call with
  | acquireQuiesceLease connectionId deviceIfname =>
    have cases := leases_acquire ⟨run.leases, clock⟩ ⟨run.active, outside⟩ run.events.length
      connectionId deviceIfname
    simp only [step, task, alone_discard]
    rcases cases with same | added
    · rw [same]
      exact .inl ⟨List.Sublist.refl _, fun _ _ => id⟩
    · exact .inr ⟨connectionId, deviceIfname, rfl, added⟩
  | releaseQuiesceLease =>
    simp only [step, task, leases_release]
    refine .inl ⟨List.filter_sublist, fun other mem => ?_⟩
    simpa [Ends] using (List.mem_filter.mp mem).2
  | sweepExpiredLeases now =>
    simp only [step, task, NmcliNmPort.sweepExpiredLeases, alone_monad_bind, alone_get,
      leases_sweepOver]
    refine .inl ⟨List.filter_sublist, fun other mem => ?_⟩
    obtain ⟨isLease, kept⟩ := List.mem_filter.mp mem
    simpa [Ends, Expired, isExpired, PortEvent.now, isLease] using kept
  | activate =>
    simp only [step, task, alone_discard, port_activate]
    exact .inl ⟨List.Sublist.refl _, fun _ _ => id⟩
  | deactivate =>
    simp only [step, task, alone_discard, port_deactivate]
    exact .inl ⟨List.Sublist.refl _, fun _ _ => id⟩

/-- What a call reactivates it ends, in a table without that lease, which lacks nothing else that
the call does not end. -/
theorem reactivate_of_mem {made : NmcliCall × NmState × World} (mem : made ∈ callsOf leaseTtlMs run event)
    {held : HeldLease} (isReactivate : made.1 = .reactivate held) :
    Ends leaseTtlMs event held ∧ held ∈ run.leases ∧ made.2.1.leases ⊆ run.leases ∧
      held ∉ made.2.1.leases ∧
      ∀ other ∈ run.leases, other ∉ made.2.1.leases → Ends leaseTtlMs event other := by
  obtain ⟨call, clock, outside⟩ := event
  cases call with
  | acquireQuiesceLease =>
    rw [callsOf, task, callsOf_discard, calls_acquire] at mem
    rcases mem_quiesce mem with isList | ⟨-, rfl⟩
    · rw [isReactivate] at isList
      cases isList
    · cases isReactivate
  | releaseQuiesceLease =>
    rw [callsOf, task, calls_release] at mem
    split at mem
    · next isLease =>
        obtain rfl := List.mem_singleton.mp mem
        cases isReactivate
        refine ⟨rfl, isLease, fun _ => List.mem_of_mem_filter, by simp, fun other mem gone => ?_⟩
        have same : other = held := by simpa [mem] using gone
        exact same
    · cases mem
  | sweepExpiredLeases now =>
    simp only [callsOf, task, NmcliNmPort.sweepExpiredLeases, callsAlone_monad_bind,
      callsAlone_get, alone_get, List.nil_append] at mem
    obtain ⟨isLease, expired, sub, absent, gone⟩ := calls_sweepOver _ _ made mem held isReactivate
    have ends {other : HeldLease} (expired : isExpired leaseTtlMs (now.getD clock) other = true) :
        Ends leaseTtlMs ⟨.sweepExpiredLeases now, clock, outside⟩ other := by
      simpa [Ends, Expired, isExpired, PortEvent.now] using expired
    exact ⟨ends expired, isLease, sub, absent, fun other mem away => ends (gone other mem away)⟩
  | activate =>
    rw [callsOf, task, callsOf_discard, calls_activate] at mem
    obtain rfl := List.mem_singleton.mp mem
    cases isReactivate
  | deactivate =>
    rw [callsOf, task, callsOf_discard, calls_deactivate] at mem
    rcases mem_quiesce mem with isList | ⟨-, rfl⟩
    · rw [isReactivate] at isList
      cases isList
    · cases isReactivate

/-- What a call disconnects it has found active. -/
theorem disconnect_of_mem {made : NmcliCall × NmState × World} (mem : made ∈ callsOf leaseTtlMs run event)
    {deviceIfname : JsString} (isDisconnect : made.1 = .disconnect deviceIfname) :
    let world : World := ⟨run.active, event.outside⟩
    ∃ connectionId, Disconnects event.call connectionId deviceIfname ∧
      world.found.on deviceIfname = some connectionId ∧ made.2.2 = world.after world.found := by
  obtain ⟨call, clock, outside⟩ := event
  cases call with
  | acquireQuiesceLease connectionId device =>
    rw [callsOf, task, callsOf_discard, calls_acquire] at mem
    rcases mem_quiesce mem with isList | ⟨isActive, rfl⟩
    · rw [isDisconnect] at isList
      cases isList
    · cases isDisconnect
      exact ⟨connectionId, .inl rfl, isActive, rfl⟩
  | releaseQuiesceLease =>
    rw [callsOf, task, calls_release] at mem
    split at mem
    · obtain rfl := List.mem_singleton.mp mem
      cases isDisconnect
    · cases mem
  | sweepExpiredLeases =>
    simp only [callsOf, task, NmcliNmPort.sweepExpiredLeases, callsAlone_monad_bind,
      callsAlone_get, alone_get, List.nil_append] at mem
    have command := List.mem_map_of_mem (f := Prod.fst) mem
    rw [commands_sweepOver] at command
    obtain ⟨held, -, same⟩ := List.mem_map.mp command
    rw [isDisconnect] at same
    cases same
  | activate =>
    rw [callsOf, task, callsOf_discard, calls_activate] at mem
    obtain rfl := List.mem_singleton.mp mem
    cases isDisconnect
  | deactivate connectionId device =>
    rw [callsOf, task, callsOf_discard, calls_deactivate] at mem
    rcases mem_quiesce mem with isList | ⟨isActive, rfl⟩
    · rw [isDisconnect] at isList
      cases isList
    · cases isDisconnect
      exact ⟨connectionId, .inr rfl, isActive, rfl⟩

/-- No command is run twice in a call. -/
theorem nodup_commands (nodup : run.leases.Nodup) :
    ((callsOf leaseTtlMs run event).map Prod.fst).Nodup := by
  obtain ⟨call, clock, outside⟩ := event
  have quiesce (connectionId deviceIfname : JsString) :
      (((NmcliNmPort.quiesce connectionId deviceIfname).callsAlone World.nmcli
        ⟨run.leases, clock⟩ ⟨run.active, outside⟩).map Prod.fst).Nodup := by
    rw [calls_quiesce]
    split <;> simp
  cases call with
  | acquireQuiesceLease connectionId deviceIfname =>
    rw [callsOf, task, callsOf_discard, calls_acquire]
    exact quiesce connectionId deviceIfname
  | releaseQuiesceLease =>
    rw [callsOf, task, calls_release]
    split <;> simp
  | sweepExpiredLeases =>
    simp only [callsOf, task, NmcliNmPort.sweepExpiredLeases, callsAlone_monad_bind,
      callsAlone_get, alone_get, List.nil_append, commands_sweepOver]
    refine List.Nodup.map (fun _ _ same => ?_) (nodup.filter _)
    exact NmcliCall.reactivate.inj same
  | activate =>
    rw [callsOf, task, callsOf_discard, calls_activate]
    exact List.nodup_singleton _
  | deactivate connectionId deviceIfname =>
    rw [callsOf, task, callsOf_discard, calls_deactivate]
    exact quiesce connectionId deviceIfname

end Step

/-! ### Runs -/

section Runs

variable {leaseTtlMs} {run : LeaseRun} {event : PortEvent}

/-- What every run keeps, whatever the calls. -/
structure Sound (leaseTtlMs : Int) (run : LeaseRun) : Prop where
  nodup : run.leases.Nodup
  older : ∀ held ∈ run.leases, held.holder < run.events.length
  unended : ∀ held ∈ run.leases, ∀ earlier ∈ run.events.drop (held.holder + 1),
    ¬ Ends leaseTtlMs earlier held
  opened : ∀ held ∈ run.leases, run.openings held.scope ≠ none
  named : ∀ scope opening, run.openings scope = some opening → opening.found = true →
    IsName scope.2 ∧ IsName scope.1
  once : ∀ held, (run.made.map Made.command).count (.reactivate held) ≤ 1
  spent : ∀ made ∈ run.made, ∀ held, made.command = .reactivate held →
    held ∉ run.leases ∧ held.holder < run.events.length

theorem made_step : (step leaseTtlMs run event).made = run.made ++
    (callsOf leaseTtlMs run event).map fun made =>
      ⟨made.1, made.2.1, made.2.2, event, run.events, run.openings⟩ := rfl

theorem events_step : (step leaseTtlMs run event).events = run.events ++ [event] := rfl

theorem commands_step : (step leaseTtlMs run event).made.map Made.command =
    run.made.map Made.command ++ (callsOf leaseTtlMs run event).map Prod.fst := by
  rw [made_step, List.map_append, List.map_map]
  rfl

variable {held : HeldLease}

/-- A lease in the table after a call was there before, and not ended, or is the one acquired. -/
theorem lease_step (mem : held ∈ (step leaseTtlMs run event).leases) :
    held ∈ run.leases ∧ ¬ Ends leaseTtlMs event held ∨
      held.holder = run.events.length ∧
        event.call = .acquireQuiesceLease held.lease.connectionId held.lease.deviceIfname := by
  rcases leases_step leaseTtlMs run event with
    ⟨sub, unended⟩ | ⟨connectionId, deviceIfname, isAcquire, added⟩
  · exact .inl ⟨sub.subset mem, unended held mem⟩
  · rw [added] at mem
    rcases List.mem_append.mp mem with old | isNew
    · refine .inl ⟨old, ?_⟩
      rw [Ends, isAcquire]
      exact id
    · obtain rfl := List.mem_singleton.mp isNew
      exact .inr ⟨rfl, isAcquire⟩

theorem openings_step : (step leaseTtlMs run event).openings =
    reopen run (World.mk run.active event.outside).found (step leaseTtlMs run event).leases
      event.call := rfl

theorem reopen_open {found : ActiveConnections} {leases : List HeldLease} {call : PortCall}
    {scope : JsString × JsString} (isOpen : run.openings scope ≠ none) :
    reopen run found leases call scope ≠ none := by
  cases call with
  | acquireQuiesceLease =>
    simp only [reopen]
    split
    · exact isOpen
    · rw [Function.update_apply]
      split
      · exact Option.some_ne_none _
      · exact isOpen
  | releaseQuiesceLease | sweepExpiredLeases => exact isOpen
  | activate | deactivate => exact mt Option.map_eq_none_iff.mp isOpen

theorem Sound.opened_step (sound : Sound leaseTtlMs run)
    (mem : held ∈ (step leaseTtlMs run event).leases) :
    (step leaseTtlMs run event).openings held.scope ≠ none := by
  rw [openings_step]
  rcases lease_step mem with ⟨old, -⟩ | ⟨isNew, isAcquire⟩
  · exact reopen_open (sound.opened held old)
  · rw [isAcquire]
    simp only [reopen]
    split
    · next same =>
        rcases same with unchanged | isHeld
        · rw [unchanged] at mem
          exact absurd isNew (Nat.ne_of_lt (sound.older held mem))
        · obtain ⟨other, isLease, isScope⟩ := List.mem_map.mp isHeld
          rw [HeldLease.scope, ← isScope]
          exact sound.opened other isLease
    · rw [HeldLease.scope, Function.update_self]
      exact Option.some_ne_none _

theorem reopen_named {found : ActiveConnections} {leases : List HeldLease} {call : PortCall}
    (named : ∀ scope opening, run.openings scope = some opening → opening.found = true →
      IsName scope.2 ∧ IsName scope.1) {scope : JsString × JsString} {opening : Opening}
    (isOpening : reopen run found leases call scope = some opening)
    (isFound : opening.found = true) : IsName scope.2 ∧ IsName scope.1 := by
  have moved (isMoved : (run.openings scope).map (fun opening => { opening with moved := true }) =
      some opening) : IsName scope.2 ∧ IsName scope.1 := by
    obtain ⟨old, isOld, rfl⟩ := Option.map_eq_some_iff.mp isMoved
    exact named scope old isOld isFound
  cases call with
  | acquireQuiesceLease =>
    simp only [reopen] at isOpening
    split at isOpening
    · exact named scope opening isOpening isFound
    · rw [Function.update_apply] at isOpening
      split at isOpening
      · next same =>
          cases isOpening
          rw [same]
          exact ActiveConnections.on_named (of_decide_eq_true isFound)
      · exact named scope opening isOpening isFound
  | releaseQuiesceLease | sweepExpiredLeases => exact named scope opening isOpening isFound
  | activate | deactivate => exact moved isOpening

theorem Sound.nodup_step (sound : Sound leaseTtlMs run) :
    (step leaseTtlMs run event).leases.Nodup := by
  rcases leases_step leaseTtlMs run event with ⟨sub, -⟩ | ⟨connectionId, deviceIfname, -, added⟩
  · exact sound.nodup.sublist sub
  · rw [added]
    refine List.nodup_append.mpr ⟨sound.nodup, List.nodup_singleton _, ?_⟩
    rintro held mem _ isNew rfl
    rw [List.mem_singleton.mp isNew] at mem
    exact absurd (sound.older _ mem) (Nat.lt_irrefl _)

theorem Sound.unended_step (sound : Sound leaseTtlMs run)
    (mem : held ∈ (step leaseTtlMs run event).leases) :
    ∀ earlier ∈ (step leaseTtlMs run event).events.drop (held.holder + 1),
      ¬ Ends leaseTtlMs earlier held := by
  rw [events_step]
  intro earlier isEarlier
  rcases lease_step mem with ⟨old, unended⟩ | ⟨isNew, -⟩
  · rw [List.drop_append_of_le_length (sound.older held old)] at isEarlier
    rcases List.mem_append.mp isEarlier with before | last
    · exact sound.unended held old earlier before
    · rw [List.mem_singleton.mp last]
      exact unended
  · rw [isNew, List.drop_of_length_le (by simp)] at isEarlier
    cases isEarlier

/-- What a call reactivates is in the table no more. -/
theorem spent_step (known : held.holder < run.events.length)
    (gone : held ∉ run.leases ∨ Ends leaseTtlMs event held) :
    held ∉ (step leaseTtlMs run event).leases ∧
      held.holder < (step leaseTtlMs run event).events.length := by
  constructor
  · intro mem
    rcases lease_step mem with ⟨old, unended⟩ | ⟨isNew, -⟩
    · exact gone.elim (fun absent => absent old) unended
    · exact absurd isNew (Nat.ne_of_lt known)
  · rw [events_step, List.length_append]
    exact Nat.lt_succ_of_lt known

theorem Sound.step (sound : Sound leaseTtlMs run) :
    Sound leaseTtlMs (step leaseTtlMs run event) where
  nodup := sound.nodup_step
  older held mem := by
    rw [events_step, List.length_append, List.length_singleton]
    rcases lease_step mem with ⟨old, -⟩ | ⟨isNew, -⟩
    · exact Nat.lt_succ_of_lt (sound.older held old)
    · exact Nat.lt_succ_of_le (Nat.le_of_eq isNew)
  unended held mem := sound.unended_step mem
  opened held mem := sound.opened_step mem
  named scope opening isOpening isFound := reopen_named sound.named isOpening isFound
  once held := by
    rw [commands_step, List.count_append]
    by_cases already : ∃ made ∈ run.made, made.command = .reactivate held
    · obtain ⟨made, mem, isReactivate⟩ := already
      have absent := (sound.spent made mem held isReactivate).1
      have none : ((callsOf leaseTtlMs run event).map Prod.fst).count (.reactivate held) = 0 := by
        rw [List.count_eq_zero]
        intro isCommand
        obtain ⟨call, isCall, same⟩ := List.mem_map.mp isCommand
        exact absent (reactivate_of_mem isCall same).2.1
      rw [none]
      exact sound.once held
    · have none : (run.made.map Made.command).count (.reactivate held) = 0 := by
        rw [List.count_eq_zero]
        intro isCommand
        obtain ⟨made, mem, same⟩ := List.mem_map.mp isCommand
        exact already ⟨made, mem, same⟩
      rw [none, Nat.zero_add]
      exact List.nodup_iff_count_le_one.mp (nodup_commands sound.nodup) _
  spent made mem held isReactivate := by
    rw [made_step] at mem
    rcases List.mem_append.mp mem with old | isNew
    · have spent := sound.spent made old held isReactivate
      exact spent_step spent.2 (.inl spent.1)
    · obtain ⟨call, isCall, rfl⟩ := List.mem_map.mp isNew
      have facts := reactivate_of_mem isCall isReactivate
      exact spent_step (sound.older held facts.2.1) (.inr facts.1)

/-- A release ends one lease, a sweep those that have expired. -/
theorem ends_other {held other : HeldLease} (ends : Ends leaseTtlMs event held)
    (endsOther : Ends leaseTtlMs event other) : other = held ∨ Expired leaseTtlMs event other := by
  obtain ⟨call, clock, outside⟩ := event
  cases call with
  | releaseQuiesceLease => exact .inl (endsOther.trans ends.symm)
  | sweepExpiredLeases => exact .inr endsOther
  | acquireQuiesceLease | activate | deactivate => exact ends.elim

/-- After a reactivation the connection is active, exactly if the names are such as nmcli takes. -/
theorem on_reactivated {made : Made} (isReactivate : made.command = .reactivate held) :
    made.after.on held.lease.deviceIfname = some held.lease.connectionId ↔
      IsName held.lease.deviceIfname ∧ IsName held.lease.connectionId := by
  constructor
  · exact ActiveConnections.on_named
  · intro names
    rw [Made.after, isReactivate]
    exact ActiveConnections.on_up_self names

theorem Sound.reactivates (sound : Sound leaseTtlMs run) (careful : Careful leaseTtlMs run event)
    {call : NmcliCall × NmState × World} (isCall : call ∈ callsOf leaseTtlMs run event)
    (isReactivate : call.1 = .reactivate held) :
    Reactivates leaseTtlMs ⟨call.1, call.2.1, call.2.2, event, run.events, run.openings⟩ held := by
  obtain ⟨ends, isLease, sub, absent, gone⟩ := reactivate_of_mem isCall isReactivate
  refine ⟨ends, sound.unended held isLease, fun last => ?_, fun other mem sameDevice => ?_⟩
  · obtain ⟨opening, isOpening⟩ := Option.ne_none_iff_exists'.mp (sound.opened held isLease)
    refine ⟨opening, isOpening, fun unmoved => ?_⟩
    rw [on_reactivated isReactivate]
    have allEnd : ∀ other ∈ run.leases, other.scope = held.scope → Ends leaseTtlMs event other :=
      fun other mem sameScope => gone other mem fun still => last other still sameScope
    have due := careful.due held isLease ends allEnd opening isOpening
    constructor
    · intro names
      rcases due with found | moved | unnamed
      · exact found
      · rw [moved] at unmoved
        cases unmoved
      · exact absurd names unnamed
    · exact sound.named held.scope opening isOpening
  · by_cases endsOther : Ends leaseTtlMs event other
    · refine (ends_other ends endsOther).resolve_left ?_
      rintro rfl
      exact absent mem
    · exact careful.alone held isLease ends other (sub mem) sameDevice endsOther

theorem Restores.step (restores : Restores leaseTtlMs run) (sound : Sound leaseTtlMs run)
    (careful : Careful leaseTtlMs run event) : Restores leaseTtlMs (step leaseTtlMs run event) where
  once := sound.step.once
  reactivates made mem held isReactivate := by
    rw [made_step] at mem
    rcases List.mem_append.mp mem with old | isNew
    · exact restores.reactivates made old held isReactivate
    · obtain ⟨call, isCall, rfl⟩ := List.mem_map.mp isNew
      exact sound.reactivates careful isCall isReactivate
  own made mem deviceIfname isDisconnect := by
    rw [made_step] at mem
    rcases List.mem_append.mp mem with old | isNew
    · exact restores.own made old deviceIfname isDisconnect
    · obtain ⟨call, isCall, rfl⟩ := List.mem_map.mp isNew
      obtain ⟨connectionId, disconnects, isActive, isWorld⟩ :=
        disconnect_of_mem isCall isDisconnect
      refine ⟨connectionId, disconnects, fun other isOther => ?_⟩
      rw [isWorld] at isOther
      exact careful.still connectionId deviceIfname disconnects isActive other isOther

end Runs

def oneActive : ActiveConnections := ActiveConnections.empty.up (js "7d3e") (js "wwan0")

/-- Another connection becomes active between the listing and the disconnect. -/
def overtaken : LeaseRun :=
  step 60000 (.start oneActive) ⟨.deactivate (js "7d3e") (js "wwan0"), 0,
    [id, fun active => active.up (js "9a1b") (js "wwan0")]⟩

end QuiesceRestoration

end ModemStack.Backend
