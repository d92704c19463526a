import ModemStack.Async.EventLoop
import ModemStack.Async.Steps

/-!
The calls that the tasks of a loop make, in order, and how often a kind of call is made.

A function makes a kind of call at most once (`CallsOnce`). Many such functions, each of some scope,
make it at most once in each scope if none is started in a scope where another one is under way or
has made it (`once_of_lone`).
-/

namespace ModemStack.Async

variable {σ τ κ S Op Op' : Type} {Ans : Op → Type} {ε α β : Type}

namespace Program

/-- After a call that meets `Call` the function makes no other one. -/
def CallsOnce (Call : Op → Prop) : Program σ Op Ans ε α → Prop
  | .ret _ | .fail _ => True
  | .read next => ∀ s, (next s).CallsOnce Call
  | .write _ next => next.CallsOnce Call
  | .await op next => (∀ answer, (next answer).CallsOnce Call) ∧
      (Call op → ∀ answer, (next answer).Calls fun op => ¬ Call op)

variable {Call : Op → Prop}

variable {p : Program σ Op Ans ε α}

theorem Calls.once (never : p.Calls fun op => ¬ Call op) : p.CallsOnce Call := by
  induction p with
  | ret => trivial
  | fail => trivial
  | read next ih => exact fun s => ih s (never s)
  | write update next ih => exact ih never
  | await op next ih =>
    exact ⟨fun answer => ih answer (never.2 answer), fun isCall => absurd isCall never.1⟩

theorem CallsOnce.bind {p : Program σ Op Ans ε β} {f : β → Program σ Op Ans ε α}
    (first : p.CallsOnce Call) (rest : ∀ value, (f value).Calls fun op => ¬ Call op) :
    (p.bind f).CallsOnce Call := by
  induction p with
  | ret value => exact (rest value).once
  | fail => trivial
  | read next ih => exact fun s => ih s (first s)
  | write update next ih => exact ih first
  | await op next ih =>
    exact ⟨fun answer => ih answer (first.1 answer),
      fun isCall answer => (first.2 isCall answer).bind rest⟩

theorem Calls.bindOnce {p : Program σ Op Ans ε β} {f : β → Program σ Op Ans ε α}
    (first : p.Calls fun op => ¬ Call op) (rest : ∀ value, (f value).CallsOnce Call) :
    (p.bind f).CallsOnce Call := by
  induction p with
  | ret value => exact rest value
  | fail => trivial
  | read next ih => exact fun s => ih s (first s)
  | write update next ih => exact ih first
  | await op next ih =>
    exact ⟨fun answer => ih answer (first.2 answer), fun isCall => absurd isCall first.1⟩

theorem CallsOnce.attempt (once : p.CallsOnce Call) : p.attempt.CallsOnce Call := by
  induction p with
  | ret => trivial
  | fail => trivial
  | read next ih => exact fun s => ih s (once s)
  | write update next ih => exact ih once
  | await op next ih =>
    exact ⟨fun answer => ih answer (once.1 answer),
      fun isCall answer => (once.2 isCall answer).attempt⟩

theorem CallsOnce.advance {s : σ} (once : p.CallsOnce Call) : (p.advance s).1.CallsOnce Call := by
  induction p generalizing s with
  | read next ih => exact ih s (once s)
  | write update next ih => exact ih once
  | _ => exact once

/-- A hosted function awaits what it calls. -/
theorem hosted_perform_await {op : Op} {next : Except ε (Ans op) → Program τ Op Ans ε α}
    {own : τ} : (await op next).hosted (perform (σ := σ)) own =
      .await op fun answer => (next answer).hosted perform own := by
  rw [Program.hosted, perform, Program.attempt, Program.bind]
  congr 1
  funext answer
  cases answer <;> rfl

theorem Calls.hostedPerform {p : Program τ Op Ans ε α} (calls : p.Calls Call) (own : τ) :
    (p.hosted (perform (σ := σ)) own).Calls Call := by
  induction p generalizing own with
  | ret => trivial
  | fail => trivial
  | read next ih => exact ih own (calls own) own
  | write update next ih => exact ih calls (update own)
  | await op next ih =>
    rw [hosted_perform_await]
    exact ⟨calls.1, fun answer => ih answer (calls.2 answer) own⟩

theorem CallsOnce.hosted {p : Program τ Op Ans ε α} (once : p.CallsOnce Call) (own : τ) :
    (p.hosted (perform (σ := σ)) own).CallsOnce Call := by
  induction p generalizing own with
  | ret => trivial
  | fail => trivial
  | read next ih => exact ih own (once own) own
  | write update next ih => exact ih once (update own)
  | await op next ih =>
    rw [hosted_perform_await]
    refine ⟨fun answer => ih answer (once.1 answer) own, fun isCall answer => ?_⟩
    exact (once.2 isCall answer).hostedPerform own

end Program

/-! ### The calls of a loop -/

/-- A loop, and the calls made so far with what the calling task was called with. -/
structure Traced (σ κ Op : Type) (Ans : Op → Type) (ε α : Type) where
  loop : EventLoop σ κ Op Ans ε α
  made : List (κ × Op)

namespace Traced

-- what the task with a given number and call runs
variable (body : Nat → κ → Program σ Op Ans ε α)

/-- What the task of a turn awaits when the turn is over. -/
def madeBy (loop : EventLoop σ κ Op Ans ε α) : Turn κ Op Ans ε → Option (κ × Op)
  | .start call =>
    ((body loop.tasks.length call).advance loop.shared).1.pending.map fun op => (call, op)
  | .resume task answer =>
    match loop.tasks[task]? with
    | some (call, .await op next) =>
      ((next (answer op)).advance loop.shared).1.pending.map fun op => (call, op)
    | _ => none

def turn (t : Traced σ κ Op Ans ε α) (first : Turn κ Op Ans ε) : Traced σ κ Op Ans ε α :=
  ⟨t.loop.turn body first, t.made ++ (madeBy body t.loop first).toList⟩

/-! ### At most once in each scope -/

section Once

variable [DecidableEq S] (scope : κ → S) (Call : Op → Bool)

/-- How many calls of the kind were made in a scope. -/
def count (s : S) (made : List (κ × Op)) : Nat :=
  made.countP fun entry => scope entry.1 = s && Call entry.2

/-- No function of the scope is under way, and none has made the call. -/
def Clear (t : Traced σ κ Op Ans ε α) (s : S) : Prop :=
  (∀ other p, (other, p) ∈ t.loop.tasks → scope other = s → p.pending = none) ∧
    count scope Call s t.made = 0

/-- A function that does not settle at once is started in a clear scope. -/
def Lone (t : Traced σ κ Op Ans ε α) : Turn κ Op Ans ε → Prop
  | .start call => ((body t.loop.tasks.length call).advance t.loop.shared).1.pending = none ∨
      Clear scope Call t (scope call)
  | .resume _ _ => True

/-- What the task may still do: the call was not made in its scope, or it makes none. -/
def Spent (made : List (κ × Op)) (call : κ) : Program σ Op Ans ε α → Prop
  | .await _ next => (∀ answer, (next answer).Calls fun op => ¬ Call op) ∨
      count scope Call (scope call) made = 0 ∧ ∀ answer, (next answer).CallsOnce (Call ·)
  | _ => True

structure Single (t : Traced σ κ Op Ans ε α) : Prop where
  once : ∀ s, count scope Call s t.made ≤ 1
  apart : ∀ (i j : Nat) call other (p q : Program σ Op Ans ε α), t.loop.tasks[i]? = some (call, p) →
    t.loop.tasks[j]? = some (other, q) → p.pending ≠ none → q.pending ≠ none →
    scope call = scope other → i = j
  spent : ∀ (i : Nat) call p, t.loop.tasks[i]? = some (call, p) → Spent scope Call t.made call p

variable {scope Call} {made : List (κ × Op)}

theorem count_append (s : S) (made later : List (κ × Op)) :
    count scope Call s (made ++ later) = count scope Call s made + count scope Call s later :=
  List.countP_append

variable {call : κ} {p : Program σ Op Ans ε α}

theorem count_of_not_call {op : Op} (notCall : Call op = false) (s : S) :
    count scope Call s [(call, op)] = 0 := by
  simp [count, notCall]

theorem count_of_ne {op : Op} {s : S} (differs : scope call ≠ s) :
    count scope Call s [(call, op)] = 0 := by
  simp [count, differs]

theorem Spent.congr {made' : List (κ × Op)} (spent : Spent scope Call made call p)
    (same : p.pending ≠ none →
      count scope Call (scope call) made' = count scope Call (scope call) made) :
    Spent scope Call made' call p := by
  cases p with
  | await op next =>
    unfold Spent
    rw [same (Option.some_ne_none op)]
    exact spent
  | _ => trivial

/-- The turn of a task that may still make the call only if it was not made in its scope. -/
theorem spent_advance {s : σ} (fits : (p.Calls fun op => ¬ Call op) ∨
      count scope Call (scope call) made = 0 ∧ p.CallsOnce (Call ·))
    (once : ∀ s, count scope Call s made ≤ 1) :
    let made' := made ++ ((p.advance s).1.pending.map fun op => (call, op)).toList
    Spent scope Call made' call (p.advance s).1 ∧ ∀ s, count scope Call s made' ≤ 1 := by
  have rests := Program.settled_advance p s
  have fits' : ((p.advance s).1.Calls fun op => ¬ Call op) ∨
      count scope Call (scope call) made = 0 ∧ (p.advance s).1.CallsOnce (Call ·) :=
    fits.imp Program.Calls.advance fun ⟨zero, once⟩ => ⟨zero, once.advance⟩
  generalize (p.advance s).1 = stands at rests fits' ⊢
  cases stands with
  | read | write => exact rests.elim
  | ret | fail => exact ⟨trivial, by simpa [Program.pending] using once⟩
  | await op next =>
    simp only [Program.pending, Option.map_some, Option.toList_some]
    by_cases isCall : Call op = true
    · obtain never | ⟨zero, callsOnce⟩ := fits'
      · exact absurd isCall never.1
      · refine ⟨.inl (callsOnce.2 isCall), fun s => ?_⟩
        rw [count_append]
        by_cases same : scope call = s
        · have atMost : count scope Call s [(call, op)] ≤ 1 := List.countP_le_length
          rw [← same] at atMost ⊢
          omega
        · rw [count_of_ne same]
          exact once s
    · have none : ∀ s, count scope Call s (made ++ [(call, op)]) = count scope Call s made := by
        intro s
        rw [count_append, count_of_not_call (Bool.not_eq_true _ |>.mp isCall), Nat.add_zero]
      refine ⟨?_, fun s => (none s).symm ▸ once s⟩
      obtain never | ⟨zero, callsOnce⟩ := fits'
      · exact .inl never.2
      · exact .inr ⟨(none _).trans zero, callsOnce.1⟩

variable {body} {t : Traced σ κ Op Ans ε α}

/-- One task has moved. The others that are under way are of other scopes, unless it settled. -/
theorem Single.moved (single : Single scope Call t) {i : Nat} {s shared : σ}
    {tasks : List (κ × Program σ Op Ans ε α)} (here : tasks[i]? = some (call, (p.advance s).1))
    (there : ∀ j, j ≠ i → tasks[j]? = t.loop.tasks[j]?)
    (fits : (p.advance s).1.pending ≠ none → (p.Calls fun op => ¬ Call op) ∨
      count scope Call (scope call) t.made = 0 ∧ p.CallsOnce (Call ·))
    (others : (p.advance s).1.pending ≠ none → ∀ j, j ≠ i → ∀ other q,
      t.loop.tasks[j]? = some (other, q) → q.pending ≠ none → scope call ≠ scope other) :
    Single scope Call
      ⟨⟨shared, tasks⟩, t.made ++ ((p.advance s).1.pending.map fun op => (call, op)).toList⟩ := by
  by_cases awaits : (p.advance s).1.pending = none
  · have quiet : t.made ++ ((p.advance s).1.pending.map fun op => (call, op)).toList = t.made := by
      rw [awaits]
      exact List.append_nil _
    rw [quiet]
    have old {j : Nat} {other : κ} {q : Program σ Op Ans ε α} (found : tasks[j]? = some (other, q))
        (waits : q.pending ≠ none) : t.loop.tasks[j]? = some (other, q) := by
      by_cases same : j = i
      · rw [same, here] at found
        cases found
        exact absurd awaits waits
      · rw [← there j same, found]
    refine ⟨single.once, fun j k other another q r atJ atK waits waits' same => ?_, ?_⟩
    · exact single.apart j k other another q r (old atJ waits) (old atK waits') waits waits' same
    · intro j other q found
      by_cases waits : q.pending = none
      · cases q with
        | await => cases waits
        | _ => trivial
      · exact single.spent j other q (old found waits)
  · obtain ⟨spent, once⟩ := spent_advance (s := s) (fits awaits) single.once
    have differs := others awaits
    refine ⟨once, fun j k other another q r atJ atK waits waits' same => ?_, ?_⟩
    · by_cases isJ : j = i
      · by_cases isK : k = i
        · rw [isJ, isK]
        · rw [isJ, here] at atJ
          cases atJ
          rw [there k isK] at atK
          exact absurd same (differs k isK another r atK waits')
      · rw [there j isJ] at atJ
        by_cases isK : k = i
        · rw [isK, here] at atK
          cases atK
          exact absurd same.symm (differs j isJ other q atJ waits)
        · rw [there k isK] at atK
          exact single.apart j k other another q r atJ atK waits waits' same
    · intro j other q found
      by_cases isJ : j = i
      · rw [isJ, here] at found
        cases found
        exact spent
      · rw [there j isJ] at found
        refine (single.spent j other q found).congr fun waits => ?_
        rw [count_append]
        cases (p.advance s).1.pending with
        | none => rfl
        | some => exact Nat.add_eq_left.mpr (count_of_ne (differs j isJ other q found waits))

theorem Single.turn (single : Single scope Call t)
    (bodies : ∀ i call, (body i call).CallsOnce (Call ·)) {first : Turn κ Op Ans ε}
    (lone : Lone body scope Call t first) : Single scope Call (t.turn body first) := by
  cases first with
  | start call =>
    have clear : ((body t.loop.tasks.length call).advance t.loop.shared).1.pending ≠ none →
        Clear scope Call t (scope call) := lone.resolve_left
    refine single.moved (i := t.loop.tasks.length) ?_ (fun j ne => ?_)
      (fun waits => .inr ⟨(clear waits).2, bodies _ _⟩)
      (fun waits j ne other q found waits' same => ?_)
    · simp
    · rcases Nat.lt_or_gt_of_ne ne with lt | gt
      · exact List.getElem?_append_left lt
      · rw [List.getElem?_eq_none_iff.mpr, List.getElem?_eq_none_iff.mpr (Nat.le_of_lt gt)]
        rw [List.length_append, List.length_singleton]
        exact gt
    · exact waits' ((clear waits).1 other q (List.mem_of_getElem? found) same.symm)
  | resume task answer =>
    rcases t.loop.resume_cases task with ⟨call, op, next, awaits⟩ | idle
    · have unspent : ((next (answer op)).Calls fun op => ¬ Call op) ∨
          count scope Call (scope call) t.made = 0 ∧ (next (answer op)).CallsOnce (Call ·) :=
        (single.spent task call _ awaits).imp (· _) fun ⟨zero, once⟩ => ⟨zero, once _⟩
      obtain ⟨lt, -⟩ := List.getElem?_eq_some_iff.mp awaits
      have moved : t.turn body (.resume task answer) =
          ⟨⟨((next (answer op)).advance t.loop.shared).2,
            t.loop.tasks.set task (call, ((next (answer op)).advance t.loop.shared).1)⟩,
            t.made ++ (((next (answer op)).advance t.loop.shared).1.pending.map
              fun op => (call, op)).toList⟩ := by
        rw [Traced.turn, EventLoop.resume_awaiting awaits, madeBy, awaits]
      rw [moved]
      refine single.moved (List.getElem?_set_self lt) (fun j ne => List.getElem?_set_ne ne.symm)
        (fun _ => unspent) (fun _ j ne other q found waits same => ?_)
      exact ne (single.apart task j call other _ q awaits found (Option.some_ne_none op) waits
        same).symm
    · have still : t.turn body (.resume task answer) = t := by
        have nothing : madeBy body t.loop (.resume task answer) = none := by
          rw [madeBy]
          split
          · next awaits => rw [EventLoop.pending, awaits] at idle; cases idle
          · rfl
        rw [Traced.turn, EventLoop.resume_idle idle, nothing]
        simp
      rw [still]
      exact single

/-- In a run whose functions are started alone in their scopes, each scope has at most one call of
the kind. -/
theorem once_of_lone (bodies : ∀ i call, (body i call).CallsOnce (Call ·)) {s : σ}
    {turns : List (Turn κ Op Ans ε)}
    (lone : AllowsEvents (turn body) (Lone body scope Call) ⟨⟨s, []⟩, []⟩ turns) (sc : S) :
    count scope Call sc (turns.foldl (turn body) ⟨⟨s, []⟩, []⟩).made ≤ 1 := by
  have start : Single scope Call (⟨⟨s, []⟩, []⟩ : Traced σ κ Op Ans ε α) := by
    constructor
    · exact fun _ => Nat.zero_le 1
    · intro i j call other p q found
      cases found
    · intro i call p found
      cases found
  exact (foldl_invariant (fun _ _ single lone => single.turn bodies lone) start lone).once sc

end Once

end Traced

end ModemStack.Async
