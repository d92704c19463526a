import ModemStack.Backend.ObserverLaws

/-!
Epochs: which trees may remove rows, in which order trees are reconciled, and whether
the tracked owner is the announced one.

A refresh under way is not looked at when a query names an owner, and owners are told
apart by their names only. In runs where a query names an owner only while no refresh
is under way, a query that an owner event has overtaken confirms the tracked owner, an
owner does not come back while a refresh for it is under way, and no listener throws
when an owner is announced, rows are removed by trees of the current epoch alone, in the
order of their requests (`epoch_scoped`).
-/

namespace ModemStack.Backend

open ModemStack.Text

/-- An observer, and what has happened to it. -/
structure Watch where
  observer : Observer
  /-- How many requests had been made when the tracked owner last changed. -/
  began : Nat
  /-- The requests whose trees were reconciled, the latest first. -/
  reconciled : List Nat
  /-- The owner after the last owner event, or after a query that was made since. -/
  announced : Option Owner
  /-- How many queries had been made at the last owner event. -/
  asked : Nat

/-- The owner that an owner event leaves the name with. -/
def announcement : Observer.Event → Option (Option Owner)
  | .nameOwnerChanged signal _ => match routeOwnerSignal signal with
    | .unrelated => none
    | .lost => some none
    | .owned owner => some (some owner)
  | .disconnected _ => some none
  | _ => none

namespace Observer

/-- The request whose tree is reconciled in a step, if there is one. -/
def reconciledBy (o : Observer) : Event → List Nat
  | .treeReply id (some _) _ _ => match o.refreshes.find? fun refresh => refresh.id = id with
    | some refresh => if o.Superseded refresh.epochOwner then [] else [id]
    | none => []
  | _ => []

end Observer

namespace Watch

open Observer

def init : Watch := ⟨.init, 0, [], none, 0⟩

/-- What has been announced after a step: by an owner event, or by a query that no owner
event has overtaken. -/
def announcedAfter (w : Watch) (event : Event) : Option Owner :=
  match announcement event, event with
  | some announced, _ => announced
  | none, .ownerReply id reply _ => if id < w.asked then w.announced else queriedOwner reply
  | none, _ => w.announced

def next (w : Watch) (event : Event) (o' : Observer) : Watch where
  observer := o'
  began := if o'.currentOwner = w.observer.currentOwner then w.began else w.observer.requested
  reconciled := w.observer.reconciledBy event ++ w.reconciled
  announced := w.announcedAfter event
  asked := if (announcement event).isSome then w.observer.queried else w.asked

/-- No listener throws when a new owner is announced, and no refresh for it is under way. -/
def OrderlySignal (w : Watch) (throws : Bool) : OwnerSignal → Prop
  | .owned owner => w.observer.currentOwner = some owner ∨
      throws = false ∧ ∀ refresh ∈ w.observer.refreshes, refresh.epochOwner ≠ owner
  | _ => True

/-- No owner is taken on while a refresh that could be mistaken for its own is under way,
and no query takes back what an owner event has announced. -/
def Orderly (w : Watch) : Event → Prop
  | .nameOwnerChanged signal throws => w.OrderlySignal throws (routeOwnerSignal signal)
  | .ownerReply id reply _ =>
    ((queriedOwner reply).isSome → w.observer.refreshes = []) ∧
      (id < w.asked → queriedOwner reply = w.observer.currentOwner)
  | _ => True

/-- The states reached when every step is orderly. -/
inductive Run : Watch → Prop
  | init : Run init
  | step {w : Watch} {o' : Observer} (event : Event) (run : Run w) (orderly : w.Orderly event)
      (isNext : w.observer.step event = some o') : Run (w.next event o')

/-! ### One refresh at a time -/

/-- At most one refresh is under way, and its tree may be reconciled after all others; if
its owner is the tracked one, it was asked for in this epoch. -/
structure Ordered (o : Observer) (began : Nat) (reconciled : List Nat) : Prop where
  single : o.refreshes.length ≤ 1
  idle : o.refreshing = false → o.refreshes = []
  current : ∀ r ∈ o.refreshes, o.currentOwner = some r.epochOwner → began ≤ r.id
  began : began ≤ o.requested
  before : ∀ id ∈ reconciled, id < o.requested
  after : ∀ id ∈ reconciled, ∀ r ∈ o.refreshes, id < r.id

variable {w : Watch} {o o' : Observer} {event : Event} {began : Nat} {reconciled : List Nat}

theorem ordered_of_none (none : o.refreshes = []) (began_le : began ≤ o.requested)
    (before : ∀ id ∈ reconciled, id < o.requested) : Ordered o began reconciled where
  single := by simp [none]
  idle _ := none
  current := by simp [none]
  began := began_le
  before := before
  after := by simp [none]

theorem Ordered.runRefresh (ordered : Ordered o began reconciled) (none : o.refreshes = [])
    (owner : Owner) (starting : Bool) : Ordered (o.runRefresh owner starting) began reconciled where
  single := by simp [Observer.runRefresh, none]
  idle := by rintro ⟨⟩
  current := by
    intro r mem _
    obtain rfl : r = ⟨o.requested, owner, starting⟩ := by simpa [Observer.runRefresh, none] using mem
    exact ordered.began
  began := Nat.le_succ_of_le ordered.began
  before id mem := Nat.lt_succ_of_lt (ordered.before id mem)
  after := by
    intro id mem r isLast
    obtain rfl : r = ⟨o.requested, owner, starting⟩ := by
      simpa [Observer.runRefresh, none] using isLast
    exact ordered.before id mem

theorem Ordered.scheduleRefresh (ordered : Ordered o began reconciled) :
    Ordered o.scheduleRefresh began reconciled := by
  have scheduled := scheduleRefresh_cases o
  generalize o.scheduleRefresh = o' at scheduled
  cases scheduled with
  | ignored => exact ordered
  | queued => exact { ordered with }
  | requested owner tracked idle => exact ordered.runRefresh (ordered.idle idle) owner false

theorem finishRefresh_ordered (none : o.refreshes = []) (began_le : began ≤ o.requested)
    (before : ∀ id ∈ reconciled, id < o.requested) : Ordered o.finishRefresh began reconciled := by
  have finished := finishRefresh_cases o
  generalize o.finishRefresh = o' at finished
  cases finished with
  | done | dropped => exact ordered_of_none none began_le before
  | requested =>
    apply Ordered.runRefresh
    · exact ordered_of_none none began_le before
    · exact none

theorem Ordered.settleStart (ordered : Ordered o began reconciled) (starting rejected : Bool) :
    Ordered (o.settleStart starting rejected) began reconciled := by
  cases starting with
  | false => exact ordered
  | true => exact { ordered with }

/-- An owner that no refresh under way is for may be taken on at any time. -/
theorem Ordered.takeOwner (ordered : Ordered o began reconciled) {began' : Nat}
    (owner : Option Owner) (others : ∀ r ∈ o.refreshes, owner ≠ some r.epochOwner)
    (began_le : began' ≤ o.requested) :
    Ordered { o with currentOwner := owner } began' reconciled where
  single := ordered.single
  idle := ordered.idle
  current r mem tracked := absurd tracked (others r mem)
  began := began_le
  before := ordered.before
  after := ordered.after

theorem Ordered.handleSourceGone (ordered : Ordered o began reconciled) {began' : Nat}
    (began_le : began' ≤ o.requested) (throws : Bool) :
    Ordered (o.handleSourceGone throws).1 began' reconciled := by
  rw [Observer.handleSourceGone, markUnavailable_fst]
  exact { ordered.takeOwner none (fun _ _ => by rintro ⟨⟩) began_le with }

/-! ### What a step does to the epoch -/

theorem began_le (ordered : Ordered w.observer w.began w.reconciled) (event : Event)
    (o' : Observer) : (w.next event o').began ≤ w.observer.requested := by
  unfold next
  simp only
  split_ifs
  · exact ordered.began
  · exact Nat.le_refl _

/-- A step that keeps the owner and reconciles nothing. -/
theorem Ordered.stay (same : o'.currentOwner = w.observer.currentOwner)
    (quiet : w.observer.reconciledBy event = [])
    (ordered : Ordered o' w.began w.reconciled) :
    Ordered o' (w.next event o').began (w.next event o').reconciled := by
  unfold next
  rw [if_pos same, quiet]
  exact ordered

theorem settleRefresh_currentOwner (wired : o.Wired) (refresh : Refresh)
    (reply : Option DecodedManagedObjects) (throws rethrows : Bool) :
    (o.settleRefresh refresh reply throws rethrows).currentOwner = o.currentOwner := by
  obtain ⟨store, rejected, -, -, settled⟩ :=
    settleRefresh_cases wired.valid refresh reply throws rethrows
  rw [settled, settleStart_currentOwner, finishRefresh_currentOwner]
  rfl

theorem mem_reconciledBy {id other : Nat} {reply : Option DecodedManagedObjects}
    {throws rethrows : Bool}
    (mem : other ∈ o.reconciledBy (.treeReply id reply throws rethrows)) :
    other = id ∧ ∃ refresh ∈ o.refreshes, refresh.id = id := by
  unfold reconciledBy at mem
  split at mem
  next same =>
    cases same
    split at mem
    next refresh found =>
      split_ifs at mem
      · cases mem
      · have isId := List.find?_some found
        exact ⟨List.mem_singleton.mp mem, refresh, List.mem_of_find?_eq_some found,
          by simpa using isId⟩
    next => cases mem
  next => cases mem

theorem Ordered.treeReply (ordered : Ordered w.observer w.began w.reconciled)
    (wired : w.observer.Wired) {refresh : Refresh} (mem : refresh ∈ w.observer.refreshes)
    (reply : Option DecodedManagedObjects) (throws rethrows : Bool) :
    let o' := w.observer.settleRefresh refresh reply throws rethrows
    let w' := w.next (.treeReply refresh.id reply throws rethrows) o'
    Ordered o' w'.began w'.reconciled := by
  obtain ⟨store, rejected, -, -, settled⟩ :=
    settleRefresh_cases wired.valid refresh reply throws rethrows
  have none : w.observer.refreshes.erase refresh = [] := by
    have shorter := List.length_erase_of_mem mem
    have single := ordered.single
    exact List.eq_nil_of_length_eq_zero (by omega)
  intro o' w'
  have began_same : w'.began = w.began :=
    if_pos (settleRefresh_currentOwner wired refresh reply throws rethrows)
  rw [began_same]
  show Ordered (w.observer.settleRefresh refresh reply throws rethrows) _ _
  rw [settled]
  apply Ordered.settleStart
  refine finishRefresh_ordered none ordered.began ?_
  intro id isReconciled
  rcases List.mem_append.mp isReconciled with now | earlier
  · obtain ⟨rfl, asked, memAsked, isId⟩ := mem_reconciledBy now
    rw [← isId]
    exact wired.ids asked memAsked
  · exact ordered.before id earlier

/-- Marking the rows changes nothing that is ordered. -/
theorem Ordered.markUnavailable (ordered : Ordered o began reconciled) (throws : Bool)
    (reason : ObservationFailureReason) :
    Ordered (o.markUnavailable throws reason).1 began reconciled := by
  rw [markUnavailable_fst]
  exact { ordered with }

variable {throws : Bool}

theorem Ordered.nameOwnerChanged (ordered : Ordered w.observer w.began w.reconciled)
    (wired : w.observer.Wired) {signal : SignalEvent}
    (orderly : w.Orderly (.nameOwnerChanged signal throws))
    (isNext : w.observer.onNameOwnerChanged signal throws = o') :
    Ordered o' (w.next (.nameOwnerChanged signal throws) o').began
      (w.next (.nameOwnerChanged signal throws) o').reconciled := by
  unfold onNameOwnerChanged at isNext
  split at isNext
  next =>
    subst isNext
    exact ordered.stay rfl rfl
  next =>
    subst isNext
    exact ordered.handleSourceGone (began_le ordered _ _) throws
  next owner routed =>
    simp only [Orderly, OrderlySignal, routed] at orderly
    simp only at isNext
    split_ifs at isNext with same threw
    · subst isNext
      exact ordered.stay rfl rfl
    · obtain ⟨quiet, -⟩ := orderly.resolve_left same
      rw [markUnavailable_throws wired.valid threw] at quiet
      cases quiet
    · obtain ⟨-, others⟩ := orderly.resolve_left same
      rw [← isNext]
      apply Ordered.scheduleRefresh
      have marked := ordered.markUnavailable throws .sourceUnavailable
      refine marked.takeOwner (some owner) ?_ ?_
      · rw [markUnavailable_fst]
        intro r mem taken
        exact others r mem (Option.some.inj taken).symm
      · rw [markUnavailable_fst]
        exact began_le ordered _ _

theorem Ordered.ownerReply (ordered : Ordered w.observer w.began w.reconciled) {adoption : Adoption}
    {reply : Option (List DbusValue)} (orderly : w.Orderly (.ownerReply adoption.id reply throws))
    (isNext : w.observer.settleAdoption adoption reply throws = o') :
    Ordered o' (w.next (.ownerReply adoption.id reply throws) o').began
      (w.next (.ownerReply adoption.id reply throws) o').reconciled := by
  have isBegan := began_le ordered (.ownerReply adoption.id reply throws) o'
  have pending : Ordered { w.observer with adoptions := w.observer.adoptions.erase adoption }
    w.began w.reconciled := { ordered with }
  unfold settleAdoption at isNext
  split at isNext
  next =>
    rw [← isNext] at isBegan ⊢
    exact (pending.handleSourceGone isBegan throws).settleStart _ _
  next owner named =>
    have none : w.observer.refreshes = [] := orderly.1 (by rw [named]; rfl)
    rw [← isNext] at isBegan ⊢
    apply Ordered.runRefresh
    · exact ordered_of_none none isBegan ordered.before
    · exact none

theorem Ordered.step (ordered : Ordered w.observer w.began w.reconciled)
    (wired : w.observer.Wired) (orderly : w.Orderly event)
    (isNext : w.observer.step event = some o') :
    Ordered o' (w.next event o').began (w.next event o').reconciled := by
  cases event with
  | start =>
    obtain rfl := Option.some.inj isNext
    unfold Observer.start
    split_ifs
    · exact ordered.stay rfl rfl
    · exact .stay rfl rfl { ordered with }
  | connected ok =>
    obtain rfl := eq_of_guarded isNext
    cases ok <;> exact .stay rfl rfl { ordered with }
  | subscribed =>
    obtain ⟨listener, rfl⟩ := step_subscribed isNext
    unfold startSubscribed
    split_ifs <;> exact .stay rfl rfl { ordered with }
  | adopted =>
    obtain rfl := eq_of_guarded isNext
    unfold startAdopted
    simp only
    split_ifs
    · refine .stay (scheduleRefresh_currentOwner _) rfl ?_
      apply Ordered.scheduleRefresh
      exact { ordered with }
    · exact .stay rfl rfl { ordered with }
  | stop =>
    obtain rfl := Option.some.inj isNext
    unfold Observer.stop
    split_ifs
    · exact ordered.stay rfl rfl
    · exact .stay rfl rfl { ordered with }
    · exact .stay rfl rfl { ordered with }
  | objectSignal =>
    obtain rfl := eq_of_guarded isNext
    unfold onObjectSignal
    split_ifs
    · exact ordered.stay rfl rfl
    · exact .stay rfl rfl { ordered with }
    · exact .stay (scheduleRefresh_currentOwner _) rfl ordered.scheduleRefresh
  | nameOwnerChanged =>
    obtain rfl := eq_of_guarded isNext
    exact ordered.nameOwnerChanged wired orderly rfl
  | disconnected throws =>
    obtain rfl := eq_of_guarded isNext
    exact ordered.handleSourceGone (began_le ordered _ _) throws
  | reconnected =>
    obtain rfl := eq_of_guarded isNext
    exact .stay rfl rfl { ordered with }
  | ownerReply =>
    obtain ⟨adoption, -, rfl, rfl⟩ := step_ownerReply isNext
    exact ordered.ownerReply orderly rfl
  | treeReply id reply throws rethrows =>
    obtain ⟨refresh, mem, rfl, rfl⟩ := step_treeReply isNext
    exact ordered.treeReply wired mem reply throws rethrows

/-! ### The announced owner -/

theorem announced_nameOwnerChanged (agree : w.observer.currentOwner = w.announced)
    (wired : w.observer.Wired) {signal : SignalEvent}
    (orderly : w.Orderly (.nameOwnerChanged signal throws)) :
    (w.observer.onNameOwnerChanged signal throws).currentOwner =
      w.announcedAfter (.nameOwnerChanged signal throws) := by
  unfold onNameOwnerChanged
  split
  next routed => simpa only [announcedAfter, announcement, routed] using agree
  next routed => simp only [announcedAfter, announcement, routed, handleSourceGone_currentOwner]
  next owner routed =>
    simp only [Orderly, OrderlySignal, routed] at orderly
    simp only [announcedAfter, announcement, routed]
    split_ifs with same threw
    · exact same
    · obtain ⟨quiet, -⟩ := orderly.resolve_left same
      rw [markUnavailable_throws wired.valid threw] at quiet
      cases quiet
    · rw [scheduleRefresh_currentOwner]

theorem announced_ownerReply (agree : w.observer.currentOwner = w.announced) {id : Nat}
    {adoption : Adoption} {reply : Option (List DbusValue)}
    (orderly : w.Orderly (.ownerReply id reply throws)) :
    (w.observer.settleAdoption adoption reply throws).currentOwner =
      w.announcedAfter (.ownerReply id reply throws) := by
  have answered : (w.observer.settleAdoption adoption reply throws).currentOwner =
      queriedOwner reply := by
    unfold settleAdoption
    split
    next named => rw [settleStart_currentOwner, handleSourceGone_currentOwner, named]
    next owner named => rw [named, Observer.runRefresh]
  simp only [announcedAfter, announcement]
  split_ifs with overtaken
  · rw [answered, orderly.2 overtaken, agree]
  · exact answered

theorem announced_step (agree : w.observer.currentOwner = w.announced)
    (wired : w.observer.Wired) (orderly : w.Orderly event)
    (isNext : w.observer.step event = some o') : o'.currentOwner = w.announcedAfter event := by
  cases event with
  | start =>
    obtain rfl := Option.some.inj isNext
    unfold Observer.start
    split_ifs <;> exact agree
  | connected ok =>
    obtain rfl := eq_of_guarded isNext
    cases ok <;> exact agree
  | subscribed =>
    obtain ⟨listener, rfl⟩ := step_subscribed isNext
    unfold startSubscribed
    split_ifs <;> exact agree
  | adopted =>
    obtain rfl := eq_of_guarded isNext
    unfold startAdopted
    simp only
    split_ifs
    · rw [scheduleRefresh_currentOwner]
      exact agree
    · exact agree
  | stop =>
    obtain rfl := Option.some.inj isNext
    unfold Observer.stop
    split_ifs <;> exact agree
  | objectSignal =>
    obtain rfl := eq_of_guarded isNext
    unfold onObjectSignal
    split_ifs
    · exact agree
    · exact agree
    · rw [scheduleRefresh_currentOwner]
      exact agree
  | nameOwnerChanged =>
    obtain rfl := eq_of_guarded isNext
    exact announced_nameOwnerChanged agree wired orderly
  | disconnected throws =>
    obtain rfl := eq_of_guarded isNext
    exact handleSourceGone_currentOwner _ throws
  | reconnected =>
    obtain rfl := eq_of_guarded isNext
    exact agree
  | ownerReply =>
    obtain ⟨adoption, -, -, rfl⟩ := step_ownerReply isNext
    exact announced_ownerReply agree orderly
  | treeReply =>
    obtain ⟨refresh, -, -, rfl⟩ := step_treeReply isNext
    rw [settleRefresh_currentOwner wired]
    exact agree

/-! ### What every orderly run keeps -/

structure Steady (w : Watch) : Prop where
  wired : w.observer.Wired
  ordered : Ordered w.observer w.began w.reconciled
  announced : w.observer.currentOwner = w.announced

theorem Run.steady (run : w.Run) : w.Steady := by
  induction run with
  | init =>
    have ordered : Ordered Observer.init 0 [] :=
      ordered_of_none rfl (Nat.le_refl _) (by rintro id ⟨⟩)
    exact ⟨wired_init, ordered, rfl⟩
  | step event _ orderly isNext ih =>
    exact ⟨ih.wired.step isNext, ih.ordered.step ih.wired orderly isNext,
      announced_step ih.announced ih.wired orderly isNext⟩

/-! ### Removed rows -/

/-- Every row of the earlier store is there in the later one. -/
def KeepsRows (store store' : ObservationRowStore) : Prop :=
  ∀ path, store'.rows.get path = none → store.rows.get path = none

theorem keepsRows_markUnavailable {store : ObservationRowStore}
    (valid : ∀ row ∈ store.rows.values, row.snapshot.Valid)
    (reason : ObservationFailureReason) : KeepsRows store (store.markUnavailable reason).1 := by
  intro path gone
  rw [ObservationRowStore.markUnavailable_get reason valid] at gone
  exact Option.map_eq_none_iff.mp gone

theorem keepsRows_handleSourceGone (valid : o.ValidRows) (throws : Bool) :
    KeepsRows o.store (o.handleSourceGone throws).1.store := by
  rw [Observer.handleSourceGone, markUnavailable_fst]
  exact keepsRows_markUnavailable valid .sourceUnavailable

theorem keepsRows_onNameOwnerChanged (valid : o.ValidRows) (signal : SignalEvent)
    (throws : Bool) : KeepsRows o.store (o.onNameOwnerChanged signal throws).store := by
  unfold onNameOwnerChanged
  split
  next => exact fun _ gone => gone
  next => exact keepsRows_handleSourceGone valid throws
  next owner =>
    simp only
    split_ifs
    · exact fun _ gone => gone
    · rw [markUnavailable_fst]
      exact keepsRows_markUnavailable valid .sourceUnavailable
    · rw [scheduleRefresh_store, markUnavailable_fst]
      exact keepsRows_markUnavailable valid .sourceUnavailable

/-- A call that fails removes nothing. -/
theorem keepsRows_catchRefresh (valid : o.ValidRows) (epochOwner : Owner) (throws : Bool) :
    KeepsRows o.store (o.catchRefresh epochOwner throws).1.store := by
  have caught := catchRefresh_cases valid epochOwner throws
  generalize o.catchRefresh epochOwner throws = outcome at caught
  cases caught with
  | late => exact fun _ gone => gone
  | marked => exact keepsRows_markUnavailable valid .busError

/-- A tree removes the rows it omits, when its owner is the tracked one. -/
theorem removed_by_tryRefresh (valid : o.ValidRows) {epochOwner : Owner}
    {tree : DecodedManagedObjects} {throws rethrows : Bool} {path : JsString}
    (here : o.store.rows.get path ≠ none)
    (gone : (o.tryRefresh epochOwner tree throws rethrows).1.store.rows.get path = none) :
    o.currentOwner = some epochOwner ∧ path ∉ modemPaths tree := by
  obtain ⟨row, isRow⟩ := Option.ne_none_iff_exists'.mp here
  have still := ObservationRowStore.reconcile_valid tree valid
  have taken := tryRefresh_cases valid epochOwner tree throws rethrows
  generalize o.tryRefresh epochOwner tree throws rethrows = outcome at taken gone
  cases taken with
  | discarded => exact absurd gone here
  | reconciled tracked live => exact ⟨tracked, ObservationRowStore.not_mem_of_removed isRow gone⟩
  | interrupted tracked live store rows cause rejected only =>
    have removed := keepsRows_markUnavailable (by rw [rows]; exact still) .busError path gone
    rw [rows] at removed
    exact ⟨tracked, ObservationRowStore.not_mem_of_removed isRow removed⟩

/-- In every run, a step that removes a row is the reply to a request for the tracked
owner, with a tree that omits the row. -/
theorem removed_by_step (wired : o.Wired) (isNext : o.step event = some o') {path : JsString}
    (here : o.store.rows.get path ≠ none) (gone : o'.store.rows.get path = none) :
    ∃ id tree throws rethrows, event = .treeReply id (some tree) throws rethrows ∧
      path ∉ modemPaths tree ∧
      ∃ refresh ∈ o.refreshes, refresh.id = id ∧ o.currentOwner = some refresh.epochOwner := by
  have same (store : o'.store = o.store) : False := here (by rw [← store]; exact gone)
  have kept (keeps : KeepsRows o.store o'.store) : False := here (keeps path gone)
  cases event with
  | start =>
    obtain rfl := Option.some.inj isNext
    refine (same ?_).elim
    unfold Observer.start
    split_ifs <;> rfl
  | connected ok =>
    obtain rfl := eq_of_guarded isNext
    refine (same ?_).elim
    cases ok <;> rfl
  | subscribed =>
    obtain ⟨listener, rfl⟩ := step_subscribed isNext
    refine (same ?_).elim
    unfold startSubscribed
    split_ifs <;> rfl
  | adopted =>
    obtain rfl := eq_of_guarded isNext
    refine (same ?_).elim
    unfold startAdopted
    simp only
    split_ifs
    · exact scheduleRefresh_store _
    · rfl
  | stop =>
    obtain rfl := Option.some.inj isNext
    refine (same ?_).elim
    unfold Observer.stop
    split_ifs <;> rfl
  | objectSignal =>
    obtain rfl := eq_of_guarded isNext
    refine (same ?_).elim
    unfold onObjectSignal
    split_ifs
    · rfl
    · rfl
    · exact scheduleRefresh_store _
  | nameOwnerChanged signal throws =>
    obtain rfl := eq_of_guarded isNext
    exact (kept (keepsRows_onNameOwnerChanged wired.valid signal throws)).elim
  | disconnected throws =>
    obtain rfl := eq_of_guarded isNext
    exact (kept (keepsRows_handleSourceGone wired.valid throws)).elim
  | reconnected =>
    obtain rfl := eq_of_guarded isNext
    exact (same rfl).elim
  | ownerReply id reply throws =>
    obtain ⟨adoption, -, -, rfl⟩ := step_ownerReply isNext
    have pendingValid : ValidRows { o with adoptions := o.adoptions.erase adoption } :=
      wired.valid
    refine (kept ?_).elim
    unfold settleAdoption
    split
    next =>
      rw [settleStart_store]
      exact keepsRows_handleSourceGone pendingValid throws
    next => exact fun _ gone => gone
  | treeReply id reply throws rethrows =>
    obtain ⟨refresh, mem, isId, rfl⟩ := step_treeReply isNext
    have pendingValid : (o.without refresh).ValidRows := wired.valid
    unfold settleRefresh at gone kept
    simp only [settleStart_store, finishRefresh_store] at gone kept
    cases reply with
    | none => exact (kept (keepsRows_catchRefresh pendingValid refresh.epochOwner rethrows)).elim
    | some tree =>
      obtain ⟨tracked, omits⟩ := removed_by_tryRefresh pendingValid here gone
      exact ⟨id, tree, throws, rethrows, rfl, omits, refresh, mem, isId, tracked⟩

/-- In an orderly run, a row is removed only by a tree that omits it and was asked for after
the tracked owner had become the tracked one; trees are reconciled in the order of their
requests; and the tracked owner is the announced one. -/
theorem epoch_scoped (run : w.Run) :
    (∀ event o' path, w.observer.step event = some o' →
      w.observer.store.rows.get path ≠ none → o'.store.rows.get path = none →
        ∃ id tree throws rethrows, event = .treeReply id (some tree) throws rethrows ∧
          path ∉ modemPaths tree ∧ w.observer.currentOwner.isSome ∧ w.began ≤ id) ∧
      (∀ event, ∀ id ∈ w.observer.reconciledBy event, ∀ earlier ∈ w.reconciled, earlier < id) ∧
      (w.observer.Quiescent → w.observer.currentOwner = w.announced) := by
  have steady := run.steady
  refine ⟨?_, ?_, fun _ => steady.announced⟩
  · intro event o' path isNext here gone
    obtain ⟨id, tree, throws, rethrows, rfl, omits, refresh, mem, rfl, tracked⟩ :=
      removed_by_step steady.wired isNext here gone
    exact ⟨refresh.id, tree, throws, rethrows, rfl, omits, by rw [tracked]; rfl,
      steady.ordered.current refresh mem tracked⟩
  · intro event id now earlier mem
    cases event with
    | treeReply asked reply throws rethrows =>
      obtain ⟨rfl, refresh, memRefresh, isId⟩ := mem_reconciledBy now
      rw [← isId]
      exact steady.ordered.after earlier mem refresh memRefresh
    | _ => cases now

/-! ### Three runs -/

instance (w : Watch) (throws : Bool) : (routed : OwnerSignal) →
    Decidable (w.OrderlySignal throws routed)
  | .owned _ => inferInstanceAs (Decidable (_ ∨ _))
  | .lost | .unrelated => .isTrue trivial

instance (w : Watch) : (event : Event) → Decidable (w.Orderly event)
  | .nameOwnerChanged signal throws =>
    inferInstanceAs (Decidable (w.OrderlySignal throws (routeOwnerSignal signal)))
  | .ownerReply _ _ _ => inferInstanceAs (Decidable (_ ∧ _))
  | .start | .connected _ | .subscribed _ | .adopted | .stop | .objectSignal _ _
  | .disconnected _ | .reconnected | .treeReply _ _ _ _ => .isTrue trivial

/-- The state after a list of events. -/
def along (w : Watch) : List Event → Option Watch
  | [] => some w
  | event :: events => (w.observer.step event).bind fun o' => (w.next event o').along events

/-- The state after a list of orderly events. -/
def follow (w : Watch) : List Event → Option Watch
  | [] => some w
  | event :: events =>
    if w.Orderly event then
      (w.observer.step event).bind fun o' => (w.next event o').follow events
    else none

theorem Run.follow {last : Watch} {events : List Event} (run : w.Run)
    (followed : w.follow events = some last) : last.Run := by
  induction events generalizing w with
  | nil =>
    obtain rfl := Option.some.inj followed
    exact run
  | cons event events ih =>
    obtain ⟨orderly, rest⟩ := Option.ite_none_right_eq_some.mp followed
    obtain ⟨o', isNext, rest⟩ := Option.bind_eq_some_iff.mp rest
    exact ih (run.step event orderly isNext) rest

/-- An observer gets a row, and then asks again because of a signal. -/
def changed : List Event := starting ++ [.ownerReply 0 (some [.string someOwner]) false,
  .treeReply 0 (some (Watched.searchingModems ["/0"])) false false, .adopted,
  .objectSignal 0 objectSignal]

def asking : Watch := (init.follow changed).getD init

def answered : Observer :=
  (asking.observer.step (.treeReply 1 (some []) false false)).getD .init

/-- The row is removed by the answer, which was asked for in the epoch. -/
theorem epoch_scoped_removed : ∃ id tree throws rethrows,
    answered.store.rows.get (js "/0") = none ∧
      Event.treeReply 1 (some []) false false = .treeReply id (some tree) throws rethrows ∧
      asking.began ≤ id := by
  have possible : (init.follow changed).isSome := by decide
  have run : asking.Run := by
    obtain ⟨last, followed⟩ := Option.isSome_iff_exists.mp possible
    rw [asking, followed]
    exact Run.init.follow followed
  have here : asking.observer.store.rows.get (js "/0") ≠ none := by decide
  have gone : answered.store.rows.get (js "/0") = none := by decide
  obtain ⟨id, tree, throws, rethrows, isReply, -, -, current⟩ :=
    (epoch_scoped run).1 (.treeReply 1 (some []) false false) answered (js "/0") rfl here gone
  exact ⟨id, tree, throws, rethrows, gone, isReply, current⟩

def otherOwner : Owner := js ":1.9"

/-- A query that names the owner while a refresh is under way makes a second one, whose
tree is reconciled first; and a query that an owner event has overtaken takes its owner
back. -/
theorem epoch_scoped_fails :
    (∃ w, init.along (starting ++ [.nameOwnerChanged ownerSignal false,
        .ownerReply 0 (some [.string someOwner]) false, .treeReply 1 (some []) false false]) =
          some w ∧
      0 ∈ w.observer.reconciledBy (.treeReply 0 (some []) false false) ∧ 1 ∈ w.reconciled) ∧
    ∃ w, init.along (starting ++ [.nameOwnerChanged ownerSignal false,
        .ownerReply 0 (some [.string otherOwner]) false, .treeReply 0 (some []) false false,
        .treeReply 1 (some []) false false, .adopted]) = some w ∧
      w.observer.Quiescent ∧ w.announced = some someOwner ∧
      w.observer.currentOwner = some otherOwner := by
  constructor
  · exact ⟨_, rfl, by decide, by decide⟩
  · exact ⟨_, rfl, by decide, by decide, by decide⟩

end Watch

end ModemStack.Backend
