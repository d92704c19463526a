import ModemStack.Async.Steps
import ModemStack.Storage.SerialRewrite
import ModemStack.Usage.PolicyWrite
import ModemStack.Usage.Sampler

/-!
Calls of `setUsagePolicy` one after the other.

A load that cannot read the file starts from an empty policy. `policySequence_lawful` says what
each call leaves of what its load has found.
-/

namespace ModemStack.Usage

open ModemStack.Async ModemStack.Async.Program ModemStack.Data ModemStack.Domain
  ModemStack.Storage ModemStack.Text

/-- Read one slot's persisted policy. -/
def getUsagePolicy (task nowMs : Nat) (logicalSlotId : JsString) :
    RowProgram (Json Double) JsString (List PersistedUsagePolicySlot) JsString UsagePolicy := do
  let state ← usagePolicyFormat.load task nowMs
  pure (selectUsagePolicy state logicalSlotId)

/-- The policy as the sampler is given it. -/
def UsagePolicy.desired (usage : UsagePolicy) : DesiredUsage where
  cycleDay := usage.cycleDay.map fun day => .finite day.val
  thresholdBytes := usage.thresholdBytes.map fun bytes => .finite bytes

/-! ### A writer and its calls -/

/-- What the file system answers a call, as its own state `ω` has it. -/
abbrev FileAnswers (ω : Type) := (op : FileCall (Json Double)) → ω → Except JsString Unit × ω

/-- The policy file, the live sampler, if there is one, and the file system. -/
structure PolicyWriter (ω : Type) where
  file : RowFile (Json Double) JsString (List PersistedUsagePolicySlot)
  sampler : Option UsageSamplingState
  system : ω

/-- A call and its time, which `epochMillis` passes. -/
structure PolicyRequest where
  request : SetUsagePolicyRequest
  nowMs : { t : Nat // t < 2 ^ 53 }

namespace PolicyWriter

variable {ω : Type}

/-- One call from beginning to end. -/
def set (answers : FileAnswers ω) (writer : PolicyWriter ω) (call : PolicyRequest) :
    Except JsString SetUsagePolicyResult × PolicyWriter ω :=
  let live := writer.sampler.map fun state slotId usage =>
    let result := (applyPolicy state slotId usage.desired call.nowMs.val).2
    .ok ⟨result.cycleStartMs, result.cycleReset⟩
  let (result, file, system) := (setUsagePolicy 0 ⟨call.request, call.nowMs.val, live⟩).alone
    answers writer.file writer.system
  let sampler := match result with
    | .ok (.applied slotId usage (some _)) => writer.sampler.map fun state =>
      (applyPolicy state slotId.val usage.desired call.nowMs.val).1
    | _ => writer.sampler
  (result, ⟨file, sampler, system⟩)

def step (answers : FileAnswers ω) (writer : PolicyWriter ω) (call : PolicyRequest) :
    PolicyWriter ω := (writer.set answers call).2

/-- What `getUsagePolicy` answers where the file system fails no call. -/
def readBack (writer : PolicyWriter ω) (slotId : JsString) : Except JsString UsagePolicy :=
  ((getUsagePolicy 0 0 slotId).alone (fun _ _ => (.ok (), ())) writer.file ()).1

/-- The policy of a slot that the next load finds: the one that reads back, or none where the
file system does not let it read the file. -/
def Finds (answers : FileAnswers ω) (writer : PolicyWriter ω) (slotId : JsString)
    (usage : UsagePolicy) : Prop :=
  if (answers .readFile writer.system).1.isOk then writer.readBack slotId = .ok usage
  else usage = ⟨none, none⟩

end PolicyWriter

/-- A field after a request: kept where the request leaves it out, none where it is `null`, and
else the number of the request. -/
def Change.Replaces {α : Type} (change : Change Double) (number : α → Nat) (before after : Option α) :
    Prop :=
  match change with
  | .keep => after = before
  | .clear => after = none
  | .set value => ∃ a, after = some a ∧ value.same (.finite (number a)) = true

/-- The sampler has the policy of a slot, and of every other slot what it had. -/
structure Holds (before after : UsageSamplingState) (slotId : JsString) (usage : UsagePolicy) :
    Prop where
  policy : after.policies.get slotId = some usage.desired
  override : after.policyOverrides.get slotId = some usage.desired
  others : ∀ other, other ≠ slotId → after.policies.get other = before.policies.get other ∧
    after.policyOverrides.get other = before.policyOverrides.get other

/-- After an applied call: exactly the given fields of its slot are replaced in what its load
found, which is else what reads back, and the sampler holds the policy. -/
structure PolicyWriter.Applied {ω : Type} (answers : FileAnswers ω) (before : PolicyWriter ω)
    (request : SetUsagePolicyRequest) (slotId : SlotId) (usage : UsagePolicy)
    (after : PolicyWriter ω) : Prop where
  slot : request.logicalSlotId = some slotId.val
  replaced : ∃ previous, before.Finds answers slotId.val previous ∧
    request.cycleDay.Replaces (fun day : CycleDay => day.val) previous.cycleDay usage.cycleDay ∧
      request.thresholdBytes.Replaces id previous.thresholdBytes usage.thresholdBytes
  stored : after.readBack slotId.val = .ok usage
  others : ∀ other, other ≠ slotId.val → ∃ previous, before.Finds answers other previous ∧
    after.readBack other = .ok previous
  sampler : match before.sampler, after.sampler with
    | some state, some state' => Holds state state' slotId.val usage
    | none, none => True
    | _, _ => False

/-- After a call that is not applied: nothing reads back otherwise than before, a stored document
is as it was, and so is the sampler. -/
structure PolicyWriter.Unchanged {ω : Type} (before after : PolicyWriter ω) : Prop where
  readBack : ∀ slotId, after.readBack slotId = before.readBack slotId
  stored : usagePolicyFormat.Stored before.file.disk.file →
    after.file.disk.file = before.file.disk.file
  sampler : after.sampler = before.sampler

/-- What a call leaves. It never throws. -/
def PolicyWriter.Lawful {ω : Type} (answers : FileAnswers ω) (before : PolicyWriter ω)
    (call : PolicyRequest) : Prop :=
  match before.set answers call with
  | (.ok (.applied slotId usage _), after) => before.Applied answers call.request slotId usage after
  | (.ok (.rejected _ _), after) => before.Unchanged after
  | (.ok (.failed _ _), after) => before.Unchanged after
  | (.error _, _) => False

/-! ### What reads back -/

def policyOf (rows : List PersistedUsagePolicySlot) : UsagePolicy :=
  (rows.head?.map (·.toUsagePolicy)).getD ⟨none, none⟩

section ReadBack

variable {ω : Type} (answers : FileAnswers ω) (writer : PolicyWriter ω) (slotId : JsString)

theorem readBack_eq : writer.readBack slotId =
    .ok (policyOf (usagePolicyFormat.rowsOf writer.file.disk.file slotId)) := by
  have succeeds : ∀ (op : FileCall (Json Double)) (w : Unit),
      ((fun _ _ => (.ok (), ()) : FileAnswers Unit) op w).1 = .ok () := fun _ _ => rfl
  obtain ⟨outcome, s', w', loads, -, found⟩ :=
    RowFile.alone_load usagePolicyFormat (fun _ _ => (.ok (), ()) : FileAnswers Unit) 0 0
      writer.file ()
  obtain ⟨current, isCurrent⟩ := RowFile.alone_load_ok usagePolicyFormat
    (fun _ _ => (.ok (), ()) : FileAnswers Unit) 0 succeeds 0 writer.file ()
  rw [loads] at isCurrent
  have rows : current.rows slotId = usagePolicyFormat.rowsOf writer.file.disk.file slotId :=
    congrFun (found current isCurrent) slotId
  rw [PolicyWriter.readBack, getUsagePolicy, alone_monad_bind, loads]
  simp only [show outcome = .ok current from isCurrent, alone_pure]
  rw [selectUsagePolicy_rows, rows, policyOf]

theorem finds_iff {usage : UsagePolicy} : writer.Finds answers slotId usage ↔
    usage = policyOf (usagePolicyFormat.found (answers .readFile writer.system).1
      writer.file.disk.file slotId) := by
  rw [PolicyWriter.Finds, readBack_eq, Format.found]
  split
  · rw [Except.ok.injEq]
    exact eq_comm
  · rfl

end ReadBack

/-! ### Requests -/

theorem replaces_of_check {α ε : Type} {isValid : Double → Option α} {number : α → Nat}
    {rejection : ε} {change : Change Double} {checked : Change α} {before : Option α}
    (valid : ∀ value a, isValid value = some a → value.same (.finite (number a)) = true)
    (isChecked : change.check isValid rejection = .ok checked) :
    change.Replaces number before (checked.of before) := by
  cases change with
  | keep | clear =>
    cases isChecked
    rfl
  | set value =>
    rw [Change.check] at isChecked
    split at isChecked
    · next a isValue =>
      cases isChecked
      exact ⟨a, rfl, valid value a isValue⟩
    · cases isChecked

theorem naturalOf_same {value : Double} {n : Nat} (isNatural : naturalOf value = some n) :
    value.same (.finite n) = true := by
  cases value with
  | nan | infinite => cases isNatural
  | negativeZero =>
    cases isNatural
    rfl
  | finite value =>
    obtain ⟨⟨whole, positive⟩, isNumber⟩ := Option.ite_none_right_eq_some.mp isNatural
    cases isNumber
    have same : ((value.num.toNat : Nat) : Rat) = value := by
      rw [← Int.cast_natCast, Int.toNat_of_nonneg positive]
      exact Rat.coe_int_num_of_den_eq_one whole
    rw [same]
    simp

theorem isValidCycleDay_same {value : Double} {day : CycleDay}
    (valid : isValidCycleDay value = some day) : value.same (.finite day.val) = true := by
  obtain ⟨n, isNatural, isDay⟩ := Option.bind_eq_some_iff.mp valid
  split at isDay
  · cases isDay
    exact naturalOf_same isNatural
  · cases isDay

/-- A merged policy has exactly the given fields replaced. -/
theorem mergePolicy_replaces {request : SetUsagePolicyRequest} {change : UsagePolicyChange}
    (valid : validateRequest request = .ok change) (previous : UsagePolicy) :
    request.cycleDay.Replaces (fun day : CycleDay => day.val) previous.cycleDay
        (mergePolicy previous change).cycleDay ∧
      request.thresholdBytes.Replaces id previous.thresholdBytes
        (mergePolicy previous change).thresholdBytes := by
  obtain ⟨-, day, bytes⟩ := validateRequest_ok valid
  exact ⟨replaces_of_check (fun _ _ => isValidCycleDay_same) day,
    replaces_of_check (fun _ _ => naturalOf_same) bytes⟩

/-! ### The calls -/

theorem holds_applyPolicy (state : UsageSamplingState) (slotId : JsString) (usage : UsagePolicy)
    (now : Nat) : Holds state (applyPolicy state slotId usage.desired now).1 slotId usage := by
  have kept : (applyPolicy state slotId usage.desired now).1.policies =
      state.policies.set slotId usage.desired ∧
      (applyPolicy state slotId usage.desired now).1.policyOverrides =
        state.policyOverrides.set slotId usage.desired := by
    unfold applyPolicy
    simp only
    split
    · exact ⟨rfl, rfl⟩
    · split
      · exact ⟨rfl, rfl⟩
      · exact ⟨rfl, rfl⟩
  constructor
  · rw [kept.1, OrderedMap.get_set, if_pos rfl]
  · rw [kept.2, OrderedMap.get_set, if_pos rfl]
  · intro other differs
    rw [kept.1, kept.2, OrderedMap.get_set, OrderedMap.get_set, if_neg differs, if_neg differs]
    exact ⟨rfl, rfl⟩

section Calls

variable {ω : Type} (answers : FileAnswers ω)

theorem unchanged_of_leaves {before after : PolicyWriter ω}
    (leaves : usagePolicyFormat.Leaves before.file.disk.file after.file.disk.file)
    (sampler : after.sampler = before.sampler) : before.Unchanged after := by
  refine ⟨fun slotId => ?_, leaves.same, sampler⟩
  rw [readBack_eq, readBack_eq, leaves.rows]

/-- What a save of a change leaves to read back. -/
theorem readBack_saved {current : PersistedUsagePolicy} {change : UsagePolicyChange} {nowMs : Nat}
    {after : PolicyWriter ω} (saved : after.file.disk.file =
      some (.whole (usagePolicyFormat.write (current.withChange nowMs change)))) :
    after.readBack change.logicalSlotId.val =
        .ok (mergePolicy (selectUsagePolicy current change.logicalSlotId.val) change) ∧
      ∀ other, other ≠ change.logicalSlotId.val →
        after.readBack other = .ok (policyOf (current.rows other)) := by
  have rows : usagePolicyFormat.rowsOf after.file.disk.file =
      (current.withChange nowMs change).rows := by
    rw [saved]
    exact Format.rowsOf_written _
  constructor
  · rw [readBack_eq, rows, rows_withChange_self, policyOf, head_toSlots]
  · intro other differs
    rw [readBack_eq, rows, rows_withChange_other differs]

theorem lawful_set (writer : PolicyWriter ω) (call : PolicyRequest) :
    writer.Lawful answers call := by
  rw [PolicyWriter.Lawful, PolicyWriter.set, setUsagePolicy]
  cases valid : validateRequest call.request with
  | error =>
    simp only [alone_pure]
    exact unchanged_of_leaves (Format.leaves_refl _ _) rfl
  | ok change =>
    obtain ⟨outcome, s', w', rewrites, left⟩ := RowFile.alone_rewrite usagePolicyFormat answers 0
      call.nowMs.val change.logicalSlotId.val (·.withChange call.nowMs.val change) writer.file
      writer.system
    simp only [alone_monad_bind, alone_attempt, rewrites]
    cases outcome with
    | error => exact unchanged_of_leaves left rfl
    | ok current =>
      obtain ⟨found, saved⟩ := left
      have selected : policyOf (usagePolicyFormat.found (answers .readFile writer.system).1
          writer.file.disk.file change.logicalSlotId.val) =
          selectUsagePolicy current change.logicalSlotId.val := by
        rw [← found, selectUsagePolicy_rows]
        rfl
      have applied (after : PolicyWriter ω) (isFile : after.file = s')
          (sampler : match writer.sampler, after.sampler with
            | some state, some state' => Holds state state' change.logicalSlotId.val
                (mergePolicy (selectUsagePolicy current change.logicalSlotId.val) change)
            | none, none => True
            | _, _ => False) :
          writer.Applied answers call.request change.logicalSlotId
            (mergePolicy (selectUsagePolicy current change.logicalSlotId.val) change) after := by
        rw [← isFile] at saved
        obtain ⟨stored, others⟩ := readBack_saved saved
        refine ⟨(validateRequest_ok valid).1, ⟨_, (finds_iff answers writer _).mpr selected.symm,
          mergePolicy_replaces valid _⟩, stored, fun other differs => ?_, sampler⟩
        refine ⟨_, (finds_iff answers writer other).mpr rfl, ?_⟩
        rw [others other differs, ← found]
        rfl
      cases live : writer.sampler with
      | none => exact applied _ rfl (by rw [live]; trivial)
      | some state =>
        refine applied _ rfl ?_
        rw [live]
        exact holds_applyPolicy state _ _ _

/-! ### Sequences of calls -/

/-- Every call of a sequence is lawful in the state it finds. -/
theorem policySequence_lawful (writer : PolicyWriter ω) (calls : List PolicyRequest) :
    AllowsEvents (PolicyWriter.step answers) (PolicyWriter.Lawful answers) writer calls :=
  allowsEvents_of_forall fun call _ writer => lawful_set answers writer call

variable {answers}

end Calls

/-- The file cannot be read, and with the policy of one slot that of the other is gone. -/
theorem unread_policy_dropped :
    let slotA : SlotId := ⟨js "slot-a", by decide⟩
    let slotB : SlotId := ⟨js "slot-b", by decide⟩
    let stored := PersistedUsagePolicy.json ⟨0, toSlots slotB ⟨some ⟨7, by decide⟩, none⟩⟩
    let writer : PolicyWriter Unit := ⟨.empty ⟨some (.whole stored), none⟩, none, ()⟩
    let answers : FileAnswers Unit := fun op _ => match op with
      | .readFile => (.error (js "EIO"), ())
      | _ => (.ok (), ())
    let call : PolicyRequest := ⟨⟨some slotA.val, .set (.finite 5), .keep⟩, ⟨1000, by decide⟩⟩
    (∃ usage, (writer.set answers call).1 = .ok (.applied slotA usage none)) ∧
      writer.readBack slotB.val = .ok ⟨some ⟨7, by decide⟩, none⟩ ∧
        (writer.step answers call).readBack slotB.val = .ok ⟨none, none⟩ := by
  intro slotA slotB stored writer answers call
  refine ⟨⟨⟨some ⟨5, by decide⟩, none⟩, ?_⟩, ?_, ?_⟩
  · rfl
  · rw [readBack_eq]
    decide
  · rw [readBack_eq]
    decide

end ModemStack.Usage
