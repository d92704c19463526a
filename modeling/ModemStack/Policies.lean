import ModemStack.Fcc.UnlockPolicy
import ModemStack.Usage.PolicyWrite

/-!
The two policy files an operator writes to. Calls are not queued: two that are under way at
a time are both built on what the file held before either, and the later rename drops the
row of the earlier one. A load that cannot read the file starts from an empty policy.
-/

namespace ModemStack

open ModemStack.Async ModemStack.Fcc ModemStack.Storage ModemStack.Text
  ModemStack.Usage

abbrev UsagePolicyTurn := Turn SetUsagePolicyCall (FileCall (Json Double)) FileCall.Answer JsString

def setCycleDay (slotId : String) (day : Nat) : SetUsagePolicyCall where
  request := ⟨some (js slotId), .set (.finite day), .keep⟩
  nowMs := 1000
  sampler := none

def succeeds {κ : Type} (task : Nat) : Turn κ (FileCall (Json Double)) FileCall.Answer JsString :=
  .resume task fun _ => .ok ()

/-- A day in each of two rows. -/
def rowOf (slotId : SlotId) (day : CycleDay) : List PersistedUsagePolicySlot :=
  toSlots slotId ⟨some day, none⟩

def slotA : SlotId := ⟨js "slot-a", by decide⟩

def slotB : SlotId := ⟨js "slot-b", by decide⟩

/-- The file cannot be read, then the save succeeds. -/
def unreadable : List UsagePolicyTurn :=
  .start (setCycleDay "slot-b" 7) :: .resume 0 (fun _ => .error (js "EIO")) ::
    List.replicate 4 (succeeds 0)

end ModemStack
