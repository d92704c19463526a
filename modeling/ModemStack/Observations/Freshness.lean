import ModemStack.Async.Steps
import ModemStack.Domain.Observation
import ModemStack.Domain.State
import ModemStack.Text.DoubleSum

/-!
How an observation ages.

A fresh one becomes stale when it is overtaken, or when nobody has looked within its window, and
stays as it is from then on. The instant at which the window closed is recorded as a whole number of
milliseconds, and an evaluation throws where it is none (`freshness_iff`).
-/

namespace ModemStack.Observations

open ModemStack.Async ModemStack.Domain ModemStack.Text

/-- How long a value is reported fresh. -/
structure FreshnessWindow where
  ttlMs : Double
  nonNegative : (Double.finite 0).le ttlMs = true

/-- The time at which an observation is looked at, and what is current then. -/
structure FreshnessEvaluation where
  evaluatedAt : EpochMillis
  safe : evaluatedAt < 2 ^ 53
  window : FreshnessWindow
  currentSourceEpoch : Option SourceEpoch
  currentGeneration : Option DeviceGeneration
  sourceHealthy : Option Bool

def epochMillis (value : Double) : Except DomainError EpochMillis :=
  if value.isSafeNatural then .ok value.toNatural
  else .error ⟨js "epochMillis must be a non-negative safe integer, got " ++ value.text⟩

def isCurrentGeneration (completion current : DeviceGeneration) : Bool := completion = current

variable {α : Type}

/-- How long ago a value was observed; 0 for a clock that moved back. -/
def observationAgeMs (envelope : ObservationEnvelope α) (evaluatedAt : EpochMillis) : Nat :=
  evaluatedAt - envelope.observedAt

def staleReason (envelope : ObservationEnvelope α) (evaluation : FreshnessEvaluation) :
    Option ObservationStaleReason :=
  if evaluation.currentGeneration.any fun current =>
      !isCurrentGeneration envelope.generation current then
    some .sourceEpochSuperseded
  else if evaluation.currentSourceEpoch.any fun current => envelope.sourceEpoch ≠ current then
    some .sourceEpochSuperseded
  else if evaluation.sourceHealthy = some false then some .sourceDegraded
  else if evaluation.window.ttlMs.lt
      (.finite (observationAgeMs envelope evaluation.evaluatedAt)) then
    some .ttlExpired
  else none

/-- When the reading became stale: as its window closed, else as it is evaluated. -/
def staleSince (envelope : ObservationEnvelope α) (evaluation : FreshnessEvaluation) :
    ObservationStaleReason → Except DomainError EpochMillis
  | .ttlExpired => epochMillis (.addNatural envelope.observedAt evaluation.window.ttlMs)
  | _ => .ok evaluation.evaluatedAt

def evaluateFreshness (envelope : ObservationEnvelope α) (evaluation : FreshnessEvaluation) :
    Except DomainError (ObservationEnvelope α) :=
  match envelope.reading with
  | .unavailable _ _ => .ok envelope
  | .stale _ _ _ => .ok envelope
  | .fresh value =>
    match staleReason envelope evaluation with
    | none => .ok envelope
    | some reason => do
        let since ← staleSince envelope evaluation reason
        return { envelope with reading := .stale since reason value }

/-- What a caller holds after an evaluation. -/
def reevaluate (envelope : ObservationEnvelope α) (evaluation : FreshnessEvaluation) :
    ObservationEnvelope α :=
  match evaluateFreshness envelope evaluation with
  | .ok evaluated => evaluated
  | .error _ => envelope

/-! ### The property -/

/-- Its generation or its source epoch is not the current one. -/
def Superseded (envelope : ObservationEnvelope α) (evaluation : FreshnessEvaluation) : Prop :=
  (∃ current, evaluation.currentGeneration = some current ∧ envelope.generation ≠ current) ∨
    ∃ current, evaluation.currentSourceEpoch = some current ∧ envelope.sourceEpoch ≠ current

def Degraded (evaluation : FreshnessEvaluation) : Prop := evaluation.sourceHealthy = some false

/-- Its age exceeds the window. -/
def Expired (envelope : ObservationEnvelope α) (evaluation : FreshnessEvaluation) : Prop :=
  evaluation.window.ttlMs.lt (.finite (observationAgeMs envelope evaluation.evaluatedAt)) = true

/-- The cause of highest precedence. -/
def IsCause (envelope : ObservationEnvelope α) (evaluation : FreshnessEvaluation) :
    ObservationStaleReason → Prop
  | .sourceEpochSuperseded => Superseded envelope evaluation
  | .sourceDegraded => ¬ Superseded envelope evaluation ∧ Degraded evaluation
  | .ttlExpired =>
    ¬ Superseded envelope evaluation ∧ ¬ Degraded evaluation ∧ Expired envelope evaluation

/-- What an observation becomes by an evaluation. -/
structure Ages (envelope : ObservationEnvelope α) (evaluation : FreshnessEvaluation)
    (evaluated : ObservationEnvelope α) : Prop where
  provenance : { evaluated with reading := envelope.reading } = envelope
  unavailable : ∀ since reason, envelope.reading = .unavailable since reason → evaluated = envelope
  stale : ∀ since reason value, envelope.reading = .stale since reason value →
    evaluated = envelope
  fresh : ∀ value, envelope.reading = .fresh value →
    (¬ Superseded envelope evaluation ∧ ¬ Degraded evaluation ∧ ¬ Expired envelope evaluation) ∧
        evaluated = envelope ∨
      ∃ since reason, evaluated.reading = .stale since reason value ∧
        IsCause envelope evaluation reason ∧ (envelope.observedAt ≤ evaluation.evaluatedAt →
          envelope.observedAt ≤ since ∧ since ≤ evaluation.evaluatedAt)

/-- The evaluation does not throw, and the same evaluation changes nothing more. -/
def Monotone (envelope : ObservationEnvelope α) (evaluation : FreshnessEvaluation) : Prop :=
  ∃ evaluated, evaluateFreshness envelope evaluation = .ok evaluated ∧
    Ages envelope evaluation evaluated ∧ evaluateFreshness evaluated evaluation = .ok evaluated

def IsStale (envelope : ObservationEnvelope α) : Prop :=
  ∃ since reason value, envelope.reading = .stale since reason value

/-- Every evaluation of a sequence is monotone, and what has become stale stays as it is. -/
structure MonotoneRun (envelope : ObservationEnvelope α) (evaluations : List FreshnessEvaluation) :
    Prop where
  each : AllowsEvents reevaluate Monotone envelope evaluations
  stays : ∀ before after, evaluations = before ++ after →
    IsStale (before.foldl reevaluate envelope) →
    evaluations.foldl reevaluate envelope = before.foldl reevaluate envelope

/-- If a fresh observation is stale only by its age, its window closed at a whole number. -/
def ClosesWhole (envelope : ObservationEnvelope α) (evaluation : FreshnessEvaluation) : Prop :=
  (∃ value, envelope.reading = .fresh value) → IsCause envelope evaluation .ttlExpired →
    (Double.addNatural envelope.observedAt evaluation.window.ttlMs).isSafeNatural = true

/-! ### Causes -/

variable {envelope : ObservationEnvelope α} {evaluation : FreshnessEvaluation}

theorem staleReason_spec (envelope : ObservationEnvelope α) (evaluation : FreshnessEvaluation) :
    match staleReason envelope evaluation with
    | some reason => IsCause envelope evaluation reason
    | none =>
      ¬ Superseded envelope evaluation ∧ ¬ Degraded evaluation ∧
        ¬ Expired envelope evaluation := by
  have generation : (evaluation.currentGeneration.any fun current =>
      !isCurrentGeneration envelope.generation current) = true ↔
      ∃ current, evaluation.currentGeneration = some current ∧ envelope.generation ≠ current := by
    cases evaluation.currentGeneration <;> simp [isCurrentGeneration]
  have epoch : (evaluation.currentSourceEpoch.any fun current =>
      envelope.sourceEpoch ≠ current) = true ↔
      ∃ current, evaluation.currentSourceEpoch = some current ∧
        envelope.sourceEpoch ≠ current := by
    cases evaluation.currentSourceEpoch <;> simp
  unfold staleReason
  by_cases replaced : (evaluation.currentGeneration.any fun current =>
      !isCurrentGeneration envelope.generation current) = true
  · rw [if_pos replaced]
    exact .inl (generation.mp replaced)
  rw [if_neg replaced]
  by_cases differs : (evaluation.currentSourceEpoch.any fun current =>
      envelope.sourceEpoch ≠ current) = true
  · rw [if_pos differs]
    exact .inr (epoch.mp differs)
  rw [if_neg differs]
  have current : ¬ Superseded envelope evaluation := by
    rintro (byGeneration | byEpoch)
    · exact replaced (generation.mpr byGeneration)
    · exact differs (epoch.mpr byEpoch)
  by_cases degraded : evaluation.sourceHealthy = some false
  · rw [if_pos degraded]
    exact ⟨current, degraded⟩
  rw [if_neg degraded]
  by_cases expired : evaluation.window.ttlMs.lt
      (.finite (observationAgeMs envelope evaluation.evaluatedAt)) = true
  · rw [if_pos expired]
    exact ⟨current, degraded, expired⟩
  · rw [if_neg expired]
    exact ⟨current, degraded, expired⟩

/-! ### The instant -/

/-- The window of an expired observation closed after it was observed and before now. -/
theorem closing_between (expired : Expired envelope evaluation) :
    ∃ closing : Rat,
      Double.addNatural envelope.observedAt evaluation.window.ttlMs = .finite closing ∧
        (envelope.observedAt : Rat) ≤ closing ∧ closing ≤ evaluation.evaluatedAt := by
  obtain ⟨window, age, atWindow, atAge, less⟩ := Double.lt_iff.mp expired
  obtain ⟨zero, window', atZero, atWindow', most⟩ := Double.le_iff.mp evaluation.window.nonNegative
  cases atWindow.symm.trans atWindow'
  cases atAge
  cases atZero
  cases isTtl : evaluation.window.ttlMs with
  | nan =>
    rw [isTtl] at atWindow
    cases atWindow
  | infinite negative =>
    rw [isTtl] at atWindow
    cases atWindow
    rw [Prod.Lex.toLex_lt_toLex] at less
    rw [Prod.Lex.toLex_le_toLex] at most
    cases negative <;> simp at less most
  | negativeZero =>
    rw [isTtl] at atWindow
    cases atWindow
    have older : (0 : Rat) < observationAgeMs envelope evaluation.evaluatedAt := by
      simpa [Prod.Lex.toLex_lt_toLex] using less
    have observed : envelope.observedAt ≤ evaluation.evaluatedAt := by
      have positive : 0 < observationAgeMs envelope evaluation.evaluatedAt := by
        exact_mod_cast older
      exact Nat.le_of_lt (Nat.lt_of_sub_pos positive)
    exact ⟨envelope.observedAt, rfl, le_refl _, by exact_mod_cast observed⟩
  | finite ttl =>
    rw [isTtl] at atWindow
    cases atWindow
    have nonNegative : 0 ≤ ttl := by simpa [Prod.Lex.toLex_le_toLex] using most
    have older : ttl < observationAgeMs envelope evaluation.evaluatedAt := by
      simpa [Prod.Lex.toLex_lt_toLex] using less
    have positive : 0 < observationAgeMs envelope evaluation.evaluatedAt := by
      exact_mod_cast lt_of_le_of_lt nonNegative older
    have age : (observationAgeMs envelope evaluation.evaluatedAt : Rat) =
        evaluation.evaluatedAt - envelope.observedAt := by
      rw [observationAgeMs, Nat.cast_sub (Nat.le_of_lt (Nat.lt_of_sub_pos positive))]
    rw [age] at older
    exact Double.ofRat_between (by linarith) (by linarith) evaluation.safe

/-- The instant is recorded exactly if it is a whole number, and lies between. -/
theorem epochMillis_closing (expired : Expired envelope evaluation) :
    ((Double.addNatural envelope.observedAt evaluation.window.ttlMs).isSafeNatural = true ∧
        ∃ since, epochMillis (.addNatural envelope.observedAt evaluation.window.ttlMs) = .ok since ∧
          envelope.observedAt ≤ since ∧ since ≤ evaluation.evaluatedAt) ∨
      (Double.addNatural envelope.observedAt evaluation.window.ttlMs).isSafeNatural = false ∧
        ∃ error,
          epochMillis (.addNatural envelope.observedAt evaluation.window.ttlMs) = .error error := by
  obtain ⟨closing, isClosing, later, earlier⟩ := closing_between expired
  rw [isClosing]
  unfold epochMillis
  cases whole : (Double.finite closing).isSafeNatural with
  | false => exact .inr ⟨rfl, _, rfl⟩
  | true =>
    rw [Double.isSafeNatural, decide_eq_true_eq] at whole
    obtain ⟨denominator, nonNegative, _⟩ := whole
    have same : closing = closing.num.toNat := by
      rw [← Int.cast_natCast, Int.toNat_of_nonneg nonNegative]
      exact (Rat.den_eq_one_iff closing).mp denominator |>.symm
    rw [same] at later earlier
    refine .inl ⟨rfl, closing.num.toNat, rfl, ?_, ?_⟩
    · exact_mod_cast later
    · exact_mod_cast earlier

/-! ### One evaluation -/

theorem evaluate_of_reading (fresh : ∀ value, envelope.reading ≠ .fresh value)
    (evaluation : FreshnessEvaluation) : evaluateFreshness envelope evaluation = .ok envelope := by
  unfold evaluateFreshness
  split
  · rfl
  · rfl
  · next value isFresh => exact absurd isFresh (fresh value)

theorem monotone_of_reading (fresh : ∀ value, envelope.reading ≠ .fresh value) :
    Monotone envelope evaluation := by
  have same := evaluate_of_reading fresh evaluation
  refine ⟨envelope, same,
    ⟨rfl, fun _ _ _ => rfl, fun _ _ _ _ => rfl, fun value isFresh => ?_⟩, same⟩
  exact absurd isFresh (fresh value)

/-- A fresh observation ages by a cause whose instant can be recorded. -/
theorem monotone_of_cause {value : α} (isFresh : envelope.reading = .fresh value)
    {reason : ObservationStaleReason} (isReason : staleReason envelope evaluation = some reason)
    {since : EpochMillis} (recorded : staleSince envelope evaluation reason = .ok since)
    (between : envelope.observedAt ≤ evaluation.evaluatedAt →
      envelope.observedAt ≤ since ∧ since ≤ evaluation.evaluatedAt) :
    Monotone envelope evaluation := by
  have cause := staleReason_spec envelope evaluation
  rw [isReason] at cause
  refine ⟨{ envelope with reading := .stale since reason value }, ?_, ?_, ?_⟩
  · unfold evaluateFreshness
    simp only [isFresh, isReason, recorded]
    rfl
  · refine ⟨rfl, fun since reason isReading => ?_, fun since reason value isReading => ?_,
      fun value' isReading => ?_⟩
    · cases isFresh.symm.trans isReading
    · cases isFresh.symm.trans isReading
    · cases isFresh.symm.trans isReading
      exact .inr ⟨since, reason, rfl, cause, between⟩
  · rfl

theorem monotone_iff : Monotone envelope evaluation ↔ ClosesWhole envelope evaluation := by
  by_cases fresh : ∃ value, envelope.reading = .fresh value
  swap
  · have notFresh : ∀ value, envelope.reading ≠ .fresh value := fun value isFresh =>
      fresh ⟨value, isFresh⟩
    exact iff_of_true (monotone_of_reading notFresh) fun isFresh => absurd isFresh fresh
  obtain ⟨value, isFresh⟩ := fresh
  have cause := staleReason_spec envelope evaluation
  cases isReason : staleReason envelope evaluation with
  | none =>
    rw [isReason] at cause
    have same : evaluateFreshness envelope evaluation = .ok envelope := by
      unfold evaluateFreshness
      simp only [isFresh, isReason]
    refine iff_of_true ⟨envelope, same, ⟨rfl, fun _ _ _ => rfl, fun _ _ _ _ => rfl, ?_⟩, same⟩ ?_
    · exact fun _ _ => .inl ⟨cause, rfl⟩
    · exact fun _ expired => absurd expired.2.2 cause.2.2
  | some reason =>
    rw [isReason] at cause
    cases reason with
    | sourceEpochSuperseded =>
      refine iff_of_true (monotone_of_cause isFresh isReason rfl fun le => ⟨le, le_refl _⟩) ?_
      exact fun _ expired => absurd cause expired.1
    | sourceDegraded =>
      refine iff_of_true (monotone_of_cause isFresh isReason rfl fun le => ⟨le, le_refl _⟩) ?_
      exact fun _ expired => absurd cause.2 expired.2.1
    | ttlExpired =>
      rcases epochMillis_closing cause.2.2 with ⟨whole, since, recorded, between⟩ | thrown
      · refine iff_of_true ?_ fun _ _ => whole
        exact monotone_of_cause isFresh isReason recorded fun _ => between
      · obtain ⟨fraction, error, throws⟩ := thrown
        refine iff_of_false ?_ fun closes => ?_
        · rintro ⟨evaluated, isEvaluated, _⟩
          unfold evaluateFreshness at isEvaluated
          simp only [isFresh, isReason, staleSince, throws] at isEvaluated
          cases isEvaluated
        · cases fraction.symm.trans (closes ⟨value, isFresh⟩ cause)

/-! ### Sequences -/

theorem stale_run (stale : IsStale envelope) (evaluations : List FreshnessEvaluation) :
    evaluations.foldl reevaluate envelope = envelope := by
  obtain ⟨since, reason, value, isStale⟩ := stale
  induction evaluations with
  | nil => rfl
  | cons evaluation evaluations ih =>
    have same : reevaluate envelope evaluation = envelope := by
      rw [reevaluate, evaluate_of_reading (fun value isFresh => ?_) evaluation]
      cases isStale.symm.trans isFresh
    rw [List.foldl_cons, same, ih]

/-- Freshness is monotone over a sequence of evaluations exactly if no fresh observation that
expires closed its window at a fraction of a millisecond. -/
theorem freshness_iff (envelope : ObservationEnvelope α) (evaluations : List FreshnessEvaluation) :
    MonotoneRun envelope evaluations ↔
      AllowsEvents reevaluate ClosesWhole envelope evaluations := by
  have each : AllowsEvents reevaluate Monotone envelope evaluations ↔
      AllowsEvents reevaluate ClosesWhole envelope evaluations :=
    ⟨fun all => all.mono fun _ _ => monotone_iff.mp,
      fun all => all.mono fun _ _ => monotone_iff.mpr⟩
  rw [← each]
  refine ⟨MonotoneRun.each, fun monotone => ⟨monotone, ?_⟩⟩
  rintro before after rfl stale
  rw [List.foldl_append, stale_run stale]

/-- Half a millisecond. -/
def halfWindow : FreshnessWindow := ⟨.finite (mkRat 1 2), by decide⟩

theorem addNatural_half : Double.addNatural 0 halfWindow.ttlMs = .finite (mkRat 1 2) := by
  have unit : max (Double.log2 1 2 - 52) (-1074) = -53 := by decide
  have value : Double.scaled (2 ^ 52) 2 (-53) = mkRat 1 2 := by decide
  have rounds : roundHalfEven (1 * 2 ^ (- -(53 : Int)).toNat) 2 = 2 ^ 52 := by decide
  have finite : ¬ (overflow : Rat) ≤ mkRat 1 2 := by
    have large : (1 : Rat) ≤ overflow := by exact_mod_cast Nat.one_le_two_pow
    have small : mkRat 1 2 < 1 := by decide
    exact not_le.mpr (small.trans_le large)
  have nearest : Double.nearest 1 2 = .finite (mkRat 1 2) := by
    unfold Double.nearest
    rw [if_neg one_ne_zero]
    simp only [unit]
    rw [if_neg (by decide : ¬ (0 : Int) ≤ -53), rounds, value, if_neg finite]
  rw [halfWindow, Double.addNatural, Nat.cast_zero, zero_add, Double.ofRat, if_pos (by decide)]
  exact nearest

/-- A value observed at the epoch and looked at one millisecond later has outlived half of one. -/
theorem half_window_throws :
    ¬ MonotoneRun
      (freshObservation (js "modemmanager") ⟨js "slot:a", 0, 0, 0, none⟩ (71 : Nat))
      [⟨1, by decide, halfWindow, none, none, none⟩] := by
  rintro ⟨⟨monotone, _⟩, _⟩
  have expired : halfWindow.ttlMs.lt (.finite 1) = true := by decide
  have current : ¬ Superseded
      (freshObservation (js "modemmanager") ⟨js "slot:a", 0, 0, 0, none⟩ (71 : Nat))
      ⟨1, by decide, halfWindow, none, none, none⟩ := by
    rintro (⟨_, ⟨⟩, _⟩ | ⟨_, ⟨⟩, _⟩)
  have whole : (Double.addNatural 0 halfWindow.ttlMs).isSafeNatural = true :=
    monotone_iff.mp monotone ⟨71, rfl⟩ ⟨current, nofun, expired⟩
  rw [addNatural_half] at whole
  exact absurd whole (by decide)

end ModemStack.Observations
