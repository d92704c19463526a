import ModemStack.Backend.RecoveryLadder
import ModemStack.Domain.Snapshot

/-!
Whose a fault is, and that no data which is not trusted sets the ladder going.
-/

namespace ModemStack.Backend

open ModemStack.Async ModemStack.Domain

structure FaultSymptoms where
  sourceHealth : SourceHealth
  presence : Presence
  mmState : MmState
  registration : RegistrationStatus
  nmActivation : NmActivation

def attributeFault (symptoms : FaultSymptoms) : FaultAttribution :=
  if symptoms.sourceHealth ≠ .live then .indeterminate
  else if symptoms.presence = .absent then .indeterminate
  else if symptoms.mmState = .failed then .modemFault
  else if symptoms.registration = .denied then .networkFault
  else if isRegistered symptoms.registration && symptoms.nmActivation ≠ .activated then .networkFault
  else .indeterminate

def symptomsFromSnapshot (snapshot : CellularSnapshot) : FaultSymptoms :=
  ⟨snapshot.sourceHealth, snapshot.presence, snapshot.mmState, snapshot.registration.status,
    snapshot.nmActivation⟩

def attributeSnapshot (snapshot : CellularSnapshot) : FaultAttribution :=
  attributeFault (symptomsFromSnapshot snapshot)

theorem attributeSnapshot_modemFault {snapshot : CellularSnapshot} :
    attributeSnapshot snapshot = .modemFault ↔
      snapshot.sourceHealth = .live ∧ snapshot.presence = .present ∧ snapshot.mmState = .failed := by
  unfold attributeSnapshot attributeFault symptomsFromSnapshot
  cases snapshot.presence <;> grind

namespace RecoveryLadder

variable {ε : Type} {config : RecoveryLadderConfig} {l : RecoveryLadder ε} {id : Nat} {run : Run ε}

/-- The run goes on, has a report or has come to a rung. -/
def Run.Acts (run : Run ε) : Prop := run.phase.Live ∨ run.steps ≠ [] ∨ run.reached ≠ none

/-- Policy, attribution and budget let the run act. -/
def Run.Allowed (run : Run ε) : Prop :=
  run.recovery.enabled ∧ run.request.attribution = .modemFault ∧
    ∃ state, run.decision = some (.proceed state)

def Allowed (l : RecoveryLadder ε) : Prop :=
  ∀ id run, l.runs id = some run → run.Acts → run.Allowed

theorem Allowed.put {run' : Run ε} (allowed : Allowed l) (acts : run'.Acts → run'.Allowed) :
    Allowed (l.put id run') := by
  intro other after isAfter
  simp only [RecoveryLadder.put, Function.update_apply] at isAfter
  split at isAfter
  · cases isAfter
    exact acts
  · exact allowed other after isAfter

theorem Allowed.request (allowed : Allowed l) (recovery : DesiredRecovery)
    (request : RecoveryRequest) : Allowed (l.request config recovery request) := by
  simp only [RecoveryLadder.request]
  split
  · exact allowed.put (by simp [Run.Acts, Phase.Live])
  · next enabled =>
    split
    · exact allowed.put (by simp [Run.Acts, Phase.Live])
    · next attributed =>
      split
      · exact allowed.put (by simp [Run.Acts, Phase.Live])
      · exact allowed.put (by simp [Run.Acts, Phase.Live])
      · next state decides =>
        obtain ⟨phase, steps, -, same⟩ := runRungs_idles config
          ({ l with requested := l.requested + 1 }.setState request.stableKey state) l.requested
          ⟨recovery, request, .asking .nmCycle [], [], l.recoveries request.stableKey,
            some (.proceed state), [], none⟩ [] LADDER_ORDER
        rw [decides, same]
        exact allowed.put fun _ =>
          ⟨eq_true_of_ne_false enabled, not_not.mp attributed, state, rfl⟩

/-- A turn is that of a run that goes on, and changes nothing it is allowed by. -/
theorem Allowed.turn (allowed : Allowed l) (isRun : l.runs id = some run) {l' : RecoveryLadder ε}
    (turned : Turned l id run l') : Allowed l' := by
  have live : run.phase.Live → run.Allowed := fun live => allowed id run isRun (.inl live)
  cases turned with
  | same => exact allowed
  | decided rung rest asks => exact allowed.put fun _ => live (by simp [asks, Phase.Live])
  | powers rest told => exact allowed.put fun _ => live (by simp [told, Phase.Live])
  | queues rung rest told => exact allowed.put fun _ => live (by simp [told, Phase.Live])
  | idles phase steps goesOn => exact allowed.put fun _ => live goesOn
  | recovers rung rest probes => exact allowed.put fun _ => live (by simp [probes, Phase.Live])

theorem allowed_run (config : RecoveryLadderConfig) (events : List (Event ε)) :
    Allowed (RecoveryLadder.run config events) :=
  foldl_keeps (fun _ event allowed => step_cases event allowed
    (fun recovery request _ => allowed.request recovery request)
    (fun _ _ _ isRun turned => allowed.turn isRun turned) (fun _ _ => allowed)
    (fun _ _ _ => allowed) fun _ _ => allowed) fun _ _ isRun => by cases isRun

/-- A run acts on a modem only if policy, attribution and budget let it; where its attribution is
that of a snapshot, a live source has seen the modem present and failed. -/
def Evidenced (l : RecoveryLadder ε) : Prop :=
  ∀ id run, l.runs id = some run → run.Acts → run.Allowed ∧
    ∀ snapshot, run.request.attribution = attributeSnapshot snapshot →
      snapshot.sourceHealth = .live ∧ snapshot.presence = .present ∧ snapshot.mmState = .failed

theorem evidenced_run (config : RecoveryLadderConfig) (events : List (Event ε)) :
    Evidenced (RecoveryLadder.run config events) := by
  intro id run isRun acts
  have allowed := allowed_run config events id run isRun acts
  exact ⟨allowed, fun snapshot attributes =>
    attributeSnapshot_modemFault.mp (attributes.symm.trans allowed.2.1)⟩

end RecoveryLadder

end ModemStack.Backend
