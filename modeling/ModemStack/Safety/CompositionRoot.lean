import ModemStack.Async.Steps
import ModemStack.Text.JsString

/-!
The composition root: one in a process, an actor for each modem, and the ownership leases that it
acquires and gives back when it is disposed of.

An event is a call, or the answer of the ownership port to what a call awaits. Leases are numbered
like the acquisitions they come from.
-/

namespace ModemStack.Safety

open ModemStack.Async ModemStack.Text

inductive ResourceOwnershipResult where
  | acquired
  | refused
deriving DecidableEq

/-- A call of `acquireOwnership`: it awaits the port, or has settled. -/
inductive Acquisition (ε : Type) where
  | pending
  | resolved (result : ResourceOwnershipResult)
  | rejected (error : ε)

/-- The call of `dispose` that gives the leases back: not made yet, awaiting the release of
`lease` with `rest` to follow, or settled. -/
inductive Disposal (ε : Type) where
  | waiting
  | releasing (lease : Nat) (rest : List Nat)
  | settled (result : Except ε Unit)

/-- The root. Kept for the proofs: how often each lease has had its `release` called. -/
structure CompositionRoot (ε : Type) where
  compositionRootExists : Bool
  actors : JsString → Option Nat
  actorsMade : Nat
  ownershipLeases : List Nat
  disposed : Bool
  disposal : Disposal ε
  acquisitions : Nat → Option (Acquisition ε)
  requested : Nat
  releases : Nat → Nat

namespace CompositionRoot

variable {ε : Type}

inductive Event (ε : Type) where
  | actorFor (modemId : JsString)
  | acquireOwnership
  | answered (id : Nat) (answer : Except ε ResourceOwnershipResult)
  | dispose
  | released (answer : Except ε Unit)

def new : CompositionRoot ε where
  compositionRootExists := true
  actors _ := none
  actorsMade := 0
  ownershipLeases := []
  disposed := false
  disposal := .waiting
  acquisitions _ := none
  requested := 0
  releases _ := 0

def actorFor (r : CompositionRoot ε) (modemId : JsString) : CompositionRoot ε :=
  match r.actors modemId with
  | some _ => r
  | none =>
    { r with
      actors := Function.update r.actors modemId (some r.actorsMade)
      actorsMade := r.actorsMade + 1 }

/-- `acquireOwnership`, to its await. -/
def acquireOwnership (r : CompositionRoot ε) : CompositionRoot ε :=
  { r with
    acquisitions := Function.update r.acquisitions r.requested (some .pending)
    requested := r.requested + 1 }

/-- `acquireOwnership` goes on with the answer of the port. -/
def answered (r : CompositionRoot ε) (id : Nat) (answer : Except ε ResourceOwnershipResult) :
    CompositionRoot ε :=
  match r.acquisitions id with
  | some .pending =>
    match answer with
    | .ok .acquired =>
      { r with
        acquisitions := Function.update r.acquisitions id (some (.resolved .acquired))
        ownershipLeases := r.ownershipLeases ++ [id] }
    | .ok .refused =>
      { r with acquisitions := Function.update r.acquisitions id (some (.resolved .refused)) }
    | .error error =>
      { r with acquisitions := Function.update r.acquisitions id (some (.rejected error)) }
  | _ => r

/-- The `finally` of `dispose`. -/
def finishDispose (r : CompositionRoot ε) (result : Except ε Unit) : CompositionRoot ε :=
  { r with actors := fun _ => none, compositionRootExists := false, disposal := .settled result }

/-- The loop of `dispose` over the leases that are left, to its next await. -/
def releaseNext (r : CompositionRoot ε) : List Nat → CompositionRoot ε
  | [] => r.finishDispose (.ok ())
  | lease :: rest =>
    { r with
      disposal := .releasing lease rest
      releases := Function.update r.releases lease (r.releases lease + 1) }

def dispose (r : CompositionRoot ε) : CompositionRoot ε :=
  if r.disposed then r
  else
    { r with disposed := true, ownershipLeases := [] }.releaseNext r.ownershipLeases.reverse

/-- `dispose` goes on with the answer to a release. -/
def released (r : CompositionRoot ε) (answer : Except ε Unit) : CompositionRoot ε :=
  match r.disposal, answer with
  | .releasing _ rest, .ok () => r.releaseNext rest
  | .releasing _ _, .error error => r.finishDispose (.error error)
  | _, _ => r

def step (r : CompositionRoot ε) : Event ε → CompositionRoot ε
  | .actorFor modemId => r.actorFor modemId
  | .acquireOwnership => r.acquireOwnership
  | .answered id answer => r.answered id answer
  | .dispose => r.dispose
  | .released answer => r.released answer

def run (events : List (Event ε)) : CompositionRoot ε := events.foldl step new

/-! ### The property -/

def Acquired (r : CompositionRoot ε) (id : Nat) : Prop :=
  r.acquisitions id = some (.resolved .acquired)

/-- Every lease ever acquired has had its release called exactly once. -/
def Released (r : CompositionRoot ε) : Prop := ∀ id, r.Acquired id → r.releases id = 1

/-- `dispose` has settled. -/
def Settled (r : CompositionRoot ε) : Prop := ∃ result, r.disposal = .settled result

/-- No call of `acquireOwnership` awaits the port. -/
def Answered (r : CompositionRoot ε) : Prop := ∀ id, r.acquisitions id ≠ some .pending

/-- No lease is acquired once `dispose` has been called, and a release rejects only when no other
lease is left. -/
def Spared (r : CompositionRoot ε) : Event ε → Prop
  | .answered id (.ok .acquired) => r.acquisitions id = some .pending → r.disposed = false
  | .released (.error _) => ∀ lease rest, r.disposal = .releasing lease rest → rest = []
  | _ => True

/-! ### The invariant -/

/-- The leases whose release is still to be called. -/
def ahead (r : CompositionRoot ε) : List Nat :=
  match r.disposal with
  | .waiting => r.ownershipLeases
  | .releasing _ rest => rest
  | .settled _ => []

structure Sound (r : CompositionRoot ε) : Prop where
  begun : r.disposed = false ↔ r.disposal = .waiting
  distinct : r.ahead.Nodup
  acquired : ∀ id ∈ r.ahead, r.Acquired id ∧ r.releases id = 0
  once : ∀ id, r.releases id ≠ 0 → r.Acquired id ∧ r.releases id = 1
  fresh : ∀ id, r.requested ≤ id → r.acquisitions id = none

/-- Every lease acquired has been released, or will be. -/
def Covered (r : CompositionRoot ε) : Prop :=
  ∀ id, r.Acquired id → id ∈ r.ahead ∨ r.releases id = 1

variable {r : CompositionRoot ε}

theorem sound_new : Sound (.new : CompositionRoot ε) where
  begun := ⟨fun _ => rfl, fun _ => rfl⟩
  distinct := .nil
  acquired := nofun
  once _ released := absurd rfl released
  fresh _ _ := rfl

/-! ### The loop of `dispose` -/

variable {leases : List Nat} {id : Nat}

@[simp] theorem acquired_releaseNext : (r.releaseNext leases).Acquired id ↔ r.Acquired id := by
  cases leases <;> exact Iff.rfl

@[simp] theorem ahead_releaseNext : (r.releaseNext leases).ahead = leases.tail := by
  cases leases <;> rfl

/-- The loop goes on with leases that are acquired and have not been released. -/
structure Loops (r : CompositionRoot ε) (leases : List Nat) : Prop where
  disposed : r.disposed = true
  distinct : leases.Nodup
  acquired : ∀ id ∈ leases, r.Acquired id ∧ r.releases id = 0
  once : ∀ id, r.releases id ≠ 0 → r.Acquired id ∧ r.releases id = 1
  fresh : ∀ id, r.requested ≤ id → r.acquisitions id = none

theorem Loops.sound (loops : Loops r leases) : Sound (r.releaseNext leases) := by
  cases leases with
  | nil =>
    constructor
    · simp [releaseNext, finishDispose, loops.disposed]
    · exact .nil
    · exact nofun
    · exact loops.once
    · exact loops.fresh
  | cons lease rest =>
    obtain ⟨apart, distinct⟩ := List.nodup_cons.mp loops.distinct
    obtain ⟨isLease, unreleased⟩ := loops.acquired lease List.mem_cons_self
    constructor
    · simp [releaseNext, loops.disposed]
    · exact distinct
    · intro id mem
      have differs : id ≠ lease := by
        rintro rfl
        exact apart mem
      obtain ⟨isAcquired, zero⟩ := loops.acquired id (List.mem_cons_of_mem lease mem)
      exact ⟨isAcquired, by simp [releaseNext, differs, zero]⟩
    · intro id released
      by_cases same : id = lease
      · subst same
        exact ⟨isLease, by simp [releaseNext, unreleased]⟩
      · simp only [releaseNext, Function.update_of_ne same] at released ⊢
        exact loops.once id released
    · exact loops.fresh

theorem Loops.covered (loops : Loops r leases) :
    Covered (r.releaseNext leases) ↔ ∀ id, r.Acquired id → id ∈ leases ∨ r.releases id = 1 := by
  unfold Covered
  simp only [acquired_releaseNext, ahead_releaseNext]
  refine forall_congr' fun id => imp_congr_right fun _ => ?_
  cases leases with
  | nil => rfl
  | cons lease rest =>
    by_cases same : id = lease
    · subst same
      simp [releaseNext, (loops.acquired id List.mem_cons_self).2]
    · simp [releaseNext, same]

theorem Sound.loops (sound : Sound r) {lease : Nat} {rest : List Nat}
    (releasing : r.disposal = .releasing lease rest) : Loops r rest := by
  have isAhead : r.ahead = rest := by simp [ahead, releasing]
  have disposed : r.disposed = true := by
    rw [← Bool.not_eq_false, sound.begun, releasing]
    exact nofun
  exact ⟨disposed, isAhead ▸ sound.distinct, isAhead ▸ sound.acquired, sound.once, sound.fresh⟩

theorem Sound.disposes (sound : Sound r) (undisposed : r.disposed = false) :
    Loops { r with disposed := true, ownershipLeases := [] } r.ownershipLeases.reverse := by
  have isAhead : r.ahead = r.ownershipLeases := by simp [ahead, sound.begun.mp undisposed]
  refine ⟨rfl, List.nodup_reverse.mpr (isAhead ▸ sound.distinct), fun id mem => ?_, sound.once,
    sound.fresh⟩
  exact sound.acquired id (isAhead ▸ List.mem_reverse.mp mem)

/-! ### The steps -/

section Acquisitions

variable {acquisitions : Nat → Option (Acquisition ε)} {requested : Nat}

/-- A call of `acquireOwnership`, or an answer that is no lease. -/
theorem Sound.withAcquisitions (sound : Sound r)
    (same : ∀ id, acquisitions id = some (.resolved .acquired) ↔ r.Acquired id)
    (fresh : ∀ id, requested ≤ id → acquisitions id = none) :
    Sound { r with acquisitions, requested } where
  begun := sound.begun
  distinct := sound.distinct
  acquired id mem := ⟨(same id).mpr (sound.acquired id mem).1, (sound.acquired id mem).2⟩
  once id released := ⟨(same id).mpr (sound.once id released).1, (sound.once id released).2⟩
  fresh := fresh

theorem covered_withAcquisitions
    (same : ∀ id, acquisitions id = some (.resolved .acquired) ↔ r.Acquired id) :
    Covered { r with acquisitions, requested } ↔ r.Covered :=
  forall_congr' fun id => imp_congr_left (same id)

end Acquisitions

theorem acquired_update (none : ¬ r.Acquired id) (acquisition : Acquisition ε)
    (noLease : acquisition ≠ .resolved .acquired) (i : Nat) :
    Function.update r.acquisitions id (some acquisition) i = some (.resolved .acquired) ↔
      r.Acquired i := by
  by_cases same : i = id
  · subst same
    simp [none, noLease]
  · simp [Acquired, same]

theorem Sound.fresh_update (sound : Sound r) {acquisition : Acquisition ε}
    (made : r.acquisitions id = some .pending) (i : Nat) (le : r.requested ≤ i) :
    Function.update r.acquisitions id (some acquisition) i = none := by
  have differs : i ≠ id := by
    rintro rfl
    rw [sound.fresh i le] at made
    cases made
  rw [Function.update_of_ne differs, sound.fresh i le]

theorem not_acquired_of_pending (pending : r.acquisitions id = some .pending) :
    ¬ r.Acquired id := by
  simp [Acquired, pending]

/-- A lease is pushed: it is ahead if `dispose` has not been called, and lost otherwise. -/
theorem Sound.answered_acquired (sound : Sound r) (pending : r.acquisitions id = some .pending) :
    Sound (r.answered id (.ok .acquired)) ∧
      (Covered (r.answered id (.ok .acquired)) ↔ r.Covered ∧ r.disposed = false) := by
  have isNew : ¬ r.Acquired id := not_acquired_of_pending pending
  have unreleased : r.releases id = 0 := by
    by_contra released
    exact isNew (sound.once id released).1
  have notAhead : id ∉ r.ahead := fun mem => isNew (sound.acquired id mem).1
  have acquired (i : Nat) : (r.answered id (.ok .acquired)).Acquired i ↔ i = id ∨ r.Acquired i := by
    by_cases same : i = id
    · subst same
      simp [answered, pending, Acquired]
    · simp [answered, pending, Acquired, same]
  have ahead : (r.answered id (.ok .acquired)).ahead =
      if r.disposed then r.ahead else r.ahead ++ [id] := by
    have begun := sound.begun
    unfold CompositionRoot.ahead
    cases isDisposal : r.disposal with
    | waiting => simp [answered, pending, isDisposal, begun.mpr isDisposal]
    | releasing | settled =>
      have disposed : r.disposed = true := by simpa [isDisposal] using begun
      simp [answered, pending, isDisposal, disposed]
  have releases (i : Nat) : (r.answered id (.ok .acquired)).releases i = r.releases i := by
    simp [answered, pending]
  constructor
  · constructor
    · simpa [answered, pending] using sound.begun
    · rw [ahead]
      split
      · exact sound.distinct
      · exact List.nodup_append.mpr ⟨sound.distinct, by simp, by
          rintro i mem _ last rfl
          exact notAhead (List.mem_singleton.mp last ▸ mem)⟩
    · intro i mem
      rw [acquired, releases]
      rw [ahead] at mem
      have mem : i ∈ r.ahead ∨ i = id := by
        split at mem
        · exact .inl mem
        · simpa using mem
      obtain mem | rfl := mem
      · exact ⟨.inr (sound.acquired i mem).1, (sound.acquired i mem).2⟩
      · exact ⟨.inl rfl, unreleased⟩
    · intro i released
      rw [releases] at released ⊢
      rw [acquired]
      exact ⟨.inr (sound.once i released).1, (sound.once i released).2⟩
    · intro i le
      have le : r.requested ≤ i := by simpa [answered, pending] using le
      simpa [answered, pending] using sound.fresh_update pending i le
  · unfold Covered
    simp only [acquired, releases, ahead]
    constructor
    · intro covered
      have undisposed : r.disposed = false := by
        by_contra disposed
        have mem := covered id (.inl rfl)
        simp [Bool.not_eq_false _ |>.mp disposed, unreleased, notAhead] at mem
      refine ⟨fun i isAcquired => ?_, undisposed⟩
      obtain mem | once := covered i (.inr isAcquired)
      · simp only [undisposed, Bool.false_eq_true, if_false, List.mem_append,
          List.mem_singleton] at mem
        obtain mem | rfl := mem
        · exact .inl mem
        · exact absurd isAcquired isNew
      · exact .inr once
    · rintro ⟨covered, undisposed⟩ i (rfl | isAcquired)
      · simp [undisposed]
      · obtain mem | once := covered i isAcquired
        · simp [undisposed, mem]
        · exact .inr once

/-- A release that rejects ends the loop. -/
theorem Sound.released_rejected (sound : Sound r) {lease : Nat} {rest : List Nat}
    (releasing : r.disposal = .releasing lease rest) {error : ε} :
    Sound (r.finishDispose (.error error)) ∧
      (Covered (r.finishDispose (.error error)) ↔ r.Covered ∧ rest = []) := by
  have loops := sound.loops releasing
  have isAhead : r.ahead = rest := by simp [ahead, releasing]
  constructor
  · constructor
    · simp [finishDispose, loops.disposed]
    · exact .nil
    · exact nofun
    · exact sound.once
    · exact sound.fresh
  · constructor
    · intro covered
      have once (id : Nat) (isAcquired : r.Acquired id) : r.releases id = 1 :=
        (covered id isAcquired).resolve_left nofun
      refine ⟨fun id isAcquired => .inr (once id isAcquired), ?_⟩
      refine List.eq_nil_iff_forall_not_mem.mpr fun id mem => ?_
      obtain ⟨isAcquired, zero⟩ := loops.acquired id mem
      rw [once id isAcquired] at zero
      cases zero
    · rintro ⟨covered, rfl⟩ id isAcquired
      exact .inr ((covered id isAcquired).resolve_left (by simp [isAhead]))

/-- The event keeps the invariant, and no lease is lost to it exactly when it is spared. -/
def Exact (r : CompositionRoot ε) (event : Event ε) (r' : CompositionRoot ε) : Prop :=
  Sound r' ∧ (Covered r' ↔ r.Covered ∧ Spared r event)

theorem exact_of_spared {event : Event ε} {r' : CompositionRoot ε} (spared : Spared r event)
    (sound : Sound r') (same : Covered r' ↔ r.Covered) : Exact r event r' :=
  ⟨sound, same.trans (and_iff_left spared).symm⟩

/-- An answer that is no lease. -/
theorem Sound.exact_answered (sound : Sound r) {event : Event ε}
    (pending : r.acquisitions id = some .pending) {acquisition : Acquisition ε}
    (noLease : acquisition ≠ .resolved .acquired) (spared : Spared r event) : Exact r event
      { r with acquisitions := Function.update r.acquisitions id (some acquisition) } := by
  have same := acquired_update (not_acquired_of_pending pending) acquisition noLease
  exact exact_of_spared spared (sound.withAcquisitions same (sound.fresh_update pending))
    (covered_withAcquisitions same)

theorem Sound.exact (sound : Sound r) (event : Event ε) : Exact r event (r.step event) := by
  cases event with
  | actorFor =>
    refine exact_of_spared trivial ?_ ?_
    · simp only [step, actorFor]
      split
      · exact sound
      · exact ⟨sound.begun, sound.distinct, sound.acquired, sound.once, sound.fresh⟩
    · simp only [step, actorFor]
      split <;> exact Iff.rfl
  | acquireOwnership =>
    have isNew : ¬ r.Acquired r.requested := by
      simp [Acquired, sound.fresh r.requested (Nat.le_refl _)]
    have same := acquired_update isNew .pending nofun
    refine exact_of_spared trivial (sound.withAcquisitions same fun id le => ?_)
      (covered_withAcquisitions same)
    rw [Function.update_of_ne (by omega), sound.fresh id (by omega)]
  | answered id answer =>
    by_cases pending : r.acquisitions id = some .pending
    · cases answer with
      | error =>
        simp only [step, answered, pending]
        exact sound.exact_answered pending nofun trivial
      | ok result =>
        cases result with
        | acquired =>
          have spared : Spared r (.answered id (.ok .acquired)) ↔ r.disposed = false :=
            forall_prop_of_true pending
          unfold Exact
          rw [spared]
          exact sound.answered_acquired pending
        | refused =>
          simp only [step, answered, pending]
          exact sound.exact_answered pending nofun trivial
    · have unchanged : r.step (.answered id answer) = r := by simp only [step, answered]
      have spared : Spared r (.answered id answer) := by
        unfold Spared
        split
        · next isAnswer =>
          cases isAnswer
          exact fun isPending => absurd isPending pending
        · next isAnswer => cases isAnswer
        · trivial
      rw [unchanged]
      exact exact_of_spared spared sound Iff.rfl
  | dispose =>
    simp only [step, dispose]
    split
    · exact exact_of_spared trivial sound Iff.rfl
    · next disposed =>
      have undisposed := Bool.not_eq_true _ |>.mp disposed
      have loops := sound.disposes undisposed
      have isAhead : r.ahead = r.ownershipLeases := by simp [ahead, sound.begun.mp undisposed]
      refine exact_of_spared trivial loops.sound (loops.covered.trans ?_)
      simp only [Covered, isAhead, List.mem_reverse]
      exact Iff.rfl
  | released answer =>
    by_cases releasing : ∃ lease rest, r.disposal = .releasing lease rest
    · obtain ⟨lease, rest, releasing⟩ := releasing
      cases answer with
      | ok =>
        have loops := sound.loops releasing
        have isAhead : r.ahead = rest := by simp [ahead, releasing]
        simp only [step, released, releasing]
        refine exact_of_spared trivial loops.sound (loops.covered.trans ?_)
        simp only [Covered, isAhead]
      | error error =>
        have spared : Spared r (.released (.error error)) ↔ rest = [] := by
          simp [Spared, releasing]
        simp only [step, released, releasing, Exact, spared]
        exact sound.released_rejected releasing
    · have unchanged : r.step (.released answer) = r := by
        simp only [step, released]
        split
        · next isDisposal => exact absurd ⟨_, _, isDisposal⟩ releasing
        · next isDisposal => exact absurd ⟨_, _, isDisposal⟩ releasing
        · rfl
      have spared : Spared r (.released answer) := by
        unfold Spared
        split
        · next isAnswer => cases isAnswer
        · exact fun lease rest isDisposal => absurd ⟨lease, rest, isDisposal⟩ releasing
        · trivial
      rw [unchanged]
      exact exact_of_spared spared sound Iff.rfl

/-! ### The result -/

/-- Once `dispose` has settled, every lease acquired so far has had its release called exactly once
if, and only if, none was acquired after `dispose` had been called and no release rejected while
others were left. -/
theorem released_iff (events : List (Event ε)) (settled : (run events).Settled) :
    (run events).Released ↔ AllowsEvents step Spared new events := by
  have covered : Covered (run events) ↔ Covered (new : CompositionRoot ε) ∧
      AllowsEvents step Spared new events :=
    foldl_iff (fun _ event sound => (sound.exact event).1)
      (fun _ event sound => (sound.exact event).2) sound_new
  have covered_new : Covered (new : CompositionRoot ε) := nofun
  rw [and_iff_right covered_new] at covered
  rw [← covered]
  refine forall_congr' fun id => imp_congr_right fun _ => ?_
  obtain ⟨result, settled⟩ := settled
  simp [ahead, settled]

/-- Three leases, given back in reverse; the last release rejects. -/
def runDisposed : List (Event Unit) :=
  [.acquireOwnership, .answered 0 (.ok .acquired), .acquireOwnership, .acquireOwnership,
    .answered 2 (.ok .acquired), .answered 1 (.ok .acquired), .dispose, .released (.ok ()),
    .released (.ok ()), .released (.error ())]

theorem released_disposed : (run runDisposed).Released := by
  refine (released_iff runDisposed ⟨_, rfl⟩).mpr ?_
  refine ⟨trivial, fun _ => rfl, trivial, trivial, fun _ => rfl, fun _ => rfl, trivial, trivial,
    trivial, ?_, trivial⟩
  rintro lease rest ⟨⟩
  rfl

/-- The first of two releases rejects. -/
def runRejected : List (Event Unit) :=
  [.acquireOwnership, .answered 0 (.ok .acquired), .acquireOwnership, .answered 1 (.ok .acquired),
    .dispose, .released (.error ())]

/-- A lease is acquired while another one is released. -/
def runLate : List (Event Unit) :=
  [.acquireOwnership, .answered 0 (.ok .acquired), .acquireOwnership, .dispose,
    .answered 1 (.ok .acquired), .released (.ok ()), .dispose]

theorem released_fails :
    ((run runRejected).Settled ∧ (run runRejected).Answered ∧ ¬ (run runRejected).Released) ∧
      (run runLate).Settled ∧ (run runLate).Answered ∧ ¬ (run runLate).Released := by
  refine ⟨⟨⟨_, rfl⟩, ?_, fun released => ?_⟩, ⟨_, rfl⟩, ?_, fun released => ?_⟩
  · intro id
    match id with
    | 0 => exact nofun
    | 1 => exact nofun
    | id + 2 => exact nofun
  · cases released 0 rfl
  · intro id
    match id with
    | 0 => exact nofun
    | 1 => exact nofun
    | id + 2 => exact nofun
  · cases released 1 rfl

end CompositionRoot

end ModemStack.Safety
