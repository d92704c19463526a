import Mathlib.Algebra.BigOperators.Group.List.Basic
import Mathlib.Algebra.GroupWithZero.Nat
import ModemStack.Async.FixedAnswers
import ModemStack.Providers.Matcher

/-!
The candidates of an evaluation whose probes answer as they do, and which of them leads.

What was matched is a list of contributions. The candidates are its totals by key, and neither the
totals nor the leader depend on the order of the list.
-/

namespace ModemStack.Providers

open ModemStack.Data ModemStack.Text

variable {ε : Type}

/-- One matched fact or fingerprint, for one profile. -/
structure Contribution (ε : Type) where
  provider : ProviderDefinition ε
  profile : JsString
  strength : EvidenceStrength

namespace Contribution

def key (contribution : Contribution ε) : JsString :=
  candidateKey contribution.provider.id contribution.profile

def points (contribution : Contribution ε) : Nat := strengthPoints contribution.strength

end Contribution

/-- What all contributions to a key add up to. -/
def total (contributions : List (Contribution ε)) (key : JsString) : Nat :=
  ((contributions.filter fun contribution => contribution.key = key).map Contribution.points).sum

def Contributed (contributions : List (Contribution ε)) (key : JsString) : Prop :=
  ∃ contribution ∈ contributions, contribution.key = key

/-- Every other candidate has fewer points. -/
def Leads (contributions : List (Contribution ε)) (key : JsString) : Prop :=
  Contributed contributions key ∧ ∀ other, Contributed contributions other → other ≠ key →
    total contributions other < total contributions key

/-- The most points of a candidate. -/
def Highest (contributions : List (Contribution ε)) (points : Nat) : Prop :=
  (∃ key, Contributed contributions key ∧ total contributions key = points) ∧
    ∀ key, Contributed contributions key → total contributions key ≤ points

/-- Two candidates share the top. -/
def Tied (contributions : List (Contribution ε)) : Prop :=
  ∃ key other, key ≠ other ∧ Contributed contributions key ∧ Contributed contributions other ∧
    total contributions other = total contributions key ∧
    Highest contributions (total contributions key)

/-- No two providers' candidates share a key. -/
def KeysApart (contributions : List (Contribution ε)) : Prop :=
  ∀ contribution ∈ contributions, ∀ other ∈ contributions, contribution.key = other.key →
    contribution.provider = other.provider

/-! ### Order -/

section Order

variable {contributions contributions' : List (Contribution ε)}

theorem total_perm (perm : contributions.Perm contributions') (key : JsString) :
    total contributions key = total contributions' key :=
  ((perm.filter _).map _).sum_eq

theorem contributed_perm (perm : contributions.Perm contributions') (key : JsString) :
    Contributed contributions key ↔ Contributed contributions' key := by
  constructor
  · rintro ⟨contribution, mem, isKey⟩
    exact ⟨contribution, perm.mem_iff.mp mem, isKey⟩
  · rintro ⟨contribution, mem, isKey⟩
    exact ⟨contribution, perm.mem_iff.mpr mem, isKey⟩

theorem Contributed.ne_nil {key : JsString} (contributed : Contributed contributions key) :
    contributions ≠ [] := by
  obtain ⟨contribution, mem, -⟩ := contributed
  exact List.ne_nil_of_mem mem

theorem leads_perm (perm : contributions.Perm contributions') (key : JsString) :
    Leads contributions key ↔ Leads contributions' key := by
  simp only [Leads, contributed_perm perm, total_perm perm]

theorem highest_perm (perm : contributions.Perm contributions') (points : Nat) :
    Highest contributions points ↔ Highest contributions' points := by
  simp only [Highest, contributed_perm perm, total_perm perm]

theorem tied_perm (perm : contributions.Perm contributions') :
    Tied contributions ↔ Tied contributions' := by
  simp only [Tied, contributed_perm perm, total_perm perm, highest_perm perm]

theorem Highest.eq {points points' : Nat} (highest : Highest contributions points)
    (highest' : Highest contributions points') : points = points' := by
  obtain ⟨⟨key, contributed, rfl⟩, most⟩ := highest
  obtain ⟨⟨key', contributed', rfl⟩, most'⟩ := highest'
  exact Nat.le_antisymm (most' key contributed) (most key' contributed')

theorem Leads.eq {key key' : JsString} (leads : Leads contributions key)
    (leads' : Leads contributions key') : key = key' := by
  by_contra differ
  exact Nat.lt_asymm (leads.2 key' leads'.1 (Ne.symm differ)) (leads'.2 key leads.1 differ)

theorem Leads.not_tied {key : JsString} (leads : Leads contributions key) :
    ¬ Tied contributions := by
  rintro ⟨first, second, differ, isFirst, isSecond, same, highest⟩
  have most := highest.2 key leads.1
  by_cases isKey : first = key
  · have less := leads.2 second isSecond fun other => differ (isKey.trans other.symm)
    rw [same, isKey] at less
    exact Nat.lt_irrefl _ less
  · exact absurd (leads.2 first isFirst isKey) (Nat.not_lt.mpr most)

end Order

/-! ### The candidates kept -/

def addContribution (candidates : Candidates ε) (contribution : Contribution ε) : Candidates ε :=
  addCandidate candidates contribution.provider contribution.profile contribution.strength

def tally (contributions : List (Contribution ε)) : Candidates ε :=
  contributions.foldl addContribution .empty

/-- The candidate of a key: the provider and the profile of its first contribution, and the total. -/
def Kept (contributions : List (Contribution ε)) (key : JsString) (candidate : Candidate ε) :
    Prop :=
  candidate.points = total contributions key ∧ ∃ contribution ∈ contributions,
    contribution.key = key ∧ contribution.provider = candidate.provider ∧
      contribution.profile = candidate.profile

theorem total_concat (contributions : List (Contribution ε)) (last : Contribution ε)
    (key : JsString) : total (contributions ++ [last]) key =
      total contributions key + if last.key = key then last.points else 0 := by
  unfold total
  by_cases isKey : last.key = key <;> simp [isKey]

theorem total_eq_zero {contributions : List (Contribution ε)} {key : JsString}
    (none : ∀ contribution ∈ contributions, contribution.key ≠ key) :
    total contributions key = 0 := by
  have empty : (contributions.filter fun contribution => contribution.key = key) = [] := by
    simpa [List.filter_eq_nil_iff] using none
  rw [total, empty]
  rfl

theorem get_addContribution (candidates : Candidates ε) (last : Contribution ε) (key : JsString) :
    (addContribution candidates last).get key =
      if key = last.key then some (match candidates.get key with
        | none => ⟨last.provider, last.profile, last.points⟩
        | some existing => { existing with points := existing.points + last.points })
      else candidates.get key := by
  have added : addContribution candidates last = match candidates.get last.key with
      | none => candidates.set last.key ⟨last.provider, last.profile, last.points⟩
      | some existing => candidates.set last.key
          { existing with points := existing.points + last.points } := rfl
  rw [added]
  cases found : candidates.get last.key with
  | none | some =>
    simp only [OrderedMap.get_set]
    by_cases same : key = last.key
    · rw [if_pos same, if_pos same, same, found]
    · rw [if_neg same, if_neg same]

theorem get_tally (contributions : List (Contribution ε)) (key : JsString) :
    match (tally contributions).get key with
    | none => ∀ contribution ∈ contributions, contribution.key ≠ key
    | some candidate => Kept contributions key candidate := by
  induction contributions using List.reverseRecOn with
  | nil => exact fun _ mem => absurd mem List.not_mem_nil
  | append_singleton contributions last ih =>
    rw [tally, List.foldl_concat, ← tally, get_addContribution]
    by_cases isKey : key = last.key
    · rw [if_pos isKey]
      cases found : (tally contributions).get key with
      | none =>
        rw [found] at ih
        refine ⟨?_, last, by simp, isKey.symm, rfl, rfl⟩
        rw [total_concat, total_eq_zero ih, if_pos isKey.symm, Nat.zero_add]
      | some =>
        rw [found] at ih
        obtain ⟨points, contribution, mem, isContribution⟩ := ih
        refine ⟨?_, contribution, by simp [mem], isContribution⟩
        rw [total_concat, if_pos isKey.symm, ← points]
    · rw [if_neg isKey]
      cases found : (tally contributions).get key with
      | none =>
        rw [found] at ih
        intro contribution mem
        rcases List.mem_append.mp mem with earlier | isLast
        · exact ih contribution earlier
        · exact List.mem_singleton.mp isLast ▸ Ne.symm isKey
      | some =>
        rw [found] at ih
        obtain ⟨points, contribution, mem, isContribution⟩ := ih
        refine ⟨?_, contribution, by simp [mem], isContribution⟩
        rw [total_concat, if_neg (Ne.symm isKey), Nat.add_zero, points]

theorem nodup_tally (contributions : List (Contribution ε)) : (tally contributions).keys.Nodup := by
  induction contributions using List.reverseRecOn with
  | nil => exact List.nodup_nil
  | append_singleton contributions last ih =>
    rw [tally, List.foldl_concat, addContribution, addCandidate]
    split
    · exact OrderedMap.nodup_set ih _ _
    · exact OrderedMap.nodup_set ih _ _

/-! ### The ranking -/

def Candidate.key (candidate : Candidate ε) : JsString :=
  candidateKey candidate.provider.id candidate.profile

theorem Kept.key_eq {contributions : List (Contribution ε)} {key : JsString}
    {candidate : Candidate ε} (kept : Kept contributions key candidate) : candidate.key = key := by
  obtain ⟨-, contribution, -, isKey, provider, profile⟩ := kept
  rw [← isKey, Candidate.key, Contribution.key, provider, profile]

theorem Kept.contributed {contributions : List (Contribution ε)} {key : JsString}
    {candidate : Candidate ε} (kept : Kept contributions key candidate) :
    Contributed contributions key := by
  obtain ⟨-, contribution, mem, isKey, -⟩ := kept
  exact ⟨contribution, mem, isKey⟩

section Ranking

variable {contributions : List (Contribution ε)}

theorem mem_values_tally {candidate : Candidate ε} :
    candidate ∈ (tally contributions).values ↔ Kept contributions candidate.key candidate ∧
      (tally contributions).get candidate.key = some candidate := by
  constructor
  · intro mem
    obtain ⟨⟨key, value⟩, isItem, rfl⟩ := List.mem_map.mp mem
    have found := OrderedMap.get_of_mem_items (nodup_tally contributions) isItem
    have kept := get_tally contributions key
    rw [found] at kept
    rw [kept.key_eq]
    exact ⟨kept, found⟩
  · exact fun ⟨_, found⟩ => OrderedMap.mem_values_of_get found

theorem exists_candidate {key : JsString} (contributed : Contributed contributions key) :
    ∃ candidate ∈ (tally contributions).values, Kept contributions key candidate := by
  have spec := get_tally contributions key
  cases found : (tally contributions).get key with
  | none =>
    rw [found] at spec
    obtain ⟨contribution, mem, isKey⟩ := contributed
    exact absurd isKey (spec contribution mem)
  | some candidate =>
    rw [found] at spec
    exact ⟨candidate, OrderedMap.mem_values_of_get found, spec⟩

theorem mem_ranked {candidate : Candidate ε} :
    candidate ∈ ranked (tally contributions) ↔ candidate ∈ (tally contributions).values :=
  List.mem_insertionSort _

theorem ranked_nodup : ((ranked (tally contributions)).map Candidate.key).Nodup := by
  have perm : (ranked (tally contributions)).Perm (tally contributions).values :=
    List.perm_insertionSort _ _
  have keys : (tally contributions).values.map Candidate.key = (tally contributions).keys := by
    rw [OrderedMap.values, OrderedMap.keys, List.map_map]
    refine List.map_congr_left fun item mem => ?_
    have found := OrderedMap.get_of_mem_items (nodup_tally contributions) mem
    have kept := get_tally contributions item.1
    rw [found] at kept
    exact kept.key_eq
  exact (perm.map _).nodup_iff.mpr (keys ▸ nodup_tally contributions)

/-- What the ranking can look like: no candidates, a tie at the top, or a leader. -/
inductive Ranking (contributions : List (Contribution ε)) : List (Candidate ε) → Prop where
  | empty (none : contributions = []) : Ranking contributions []
  | tie {top second : Candidate ε} {rest : List (Candidate ε)} (same : second.points = top.points)
      (tied : Tied contributions) (highest : Highest contributions top.points) :
      Ranking contributions (top :: second :: rest)
  | leader {top : Candidate ε} {rest : List (Candidate ε)}
      (behind : (rest.head?.any fun second => second.points = top.points) = false)
      (leads : Leads contributions top.key) (kept : Kept contributions top.key top) :
      Ranking contributions (top :: rest)

theorem ranking : Ranking contributions (ranked (tally contributions)) := by
  have sorted : (ranked (tally contributions)).Pairwise
      fun left right => right.points ≤ left.points :=
    haveI : Std.Total fun left right : Candidate ε => right.points ≤ left.points :=
      ⟨fun left right => Nat.le_total right.points left.points⟩
    haveI : IsTrans (Candidate ε) fun left right => right.points ≤ left.points :=
      ⟨fun _ _ _ first second => Nat.le_trans second first⟩
    List.pairwise_insertionSort _ _
  have distinct : ((ranked (tally contributions)).map Candidate.key).Nodup := ranked_nodup
  have keptOf : ∀ candidate ∈ ranked (tally contributions),
      Kept contributions candidate.key candidate :=
    fun candidate mem => (mem_values_tally.mp (mem_ranked.mp mem)).1
  have candidateOf : ∀ key, Contributed contributions key →
      ∃ candidate ∈ ranked (tally contributions), Kept contributions key candidate := by
    intro key contributed
    obtain ⟨candidate, mem, kept⟩ := exists_candidate contributed
    exact ⟨candidate, mem_ranked.mpr mem, kept⟩
  generalize ranked (tally contributions) = candidates at sorted distinct keptOf candidateOf ⊢
  cases candidates with
  | nil =>
    refine .empty (List.eq_nil_iff_forall_not_mem.mpr fun contribution mem => ?_)
    obtain ⟨_, none, -⟩ := candidateOf contribution.key ⟨contribution, mem, rfl⟩
    cases none
  | cons top rest =>
    have keptTop := keptOf top List.mem_cons_self
    obtain ⟨below, sorted⟩ := List.pairwise_cons.mp sorted
    obtain ⟨isNew, distinct⟩ := List.nodup_cons.mp distinct
    have highest : Highest contributions top.points := by
      refine ⟨⟨top.key, keptTop.contributed, keptTop.1.symm⟩, fun key contributed => ?_⟩
      obtain ⟨candidate, mem, kept⟩ := candidateOf key contributed
      rw [← kept.1]
      rcases List.mem_cons.mp mem with rfl | later
      · exact Nat.le_refl _
      · exact below candidate later
    cases rest with
    | nil =>
      refine .leader rfl ⟨keptTop.contributed, fun other contributed differs => ?_⟩ keptTop
      obtain ⟨candidate, mem, kept⟩ := candidateOf other contributed
      obtain rfl := List.mem_singleton.mp mem
      exact absurd kept.key_eq.symm differs
    | cons second rest =>
      have keptSecond := keptOf second (List.mem_cons_of_mem _ List.mem_cons_self)
      have differ : top.key ≠ second.key := fun same =>
        isNew (List.mem_map.mpr ⟨second, List.mem_cons_self, same.symm⟩)
      by_cases same : second.points = top.points
      · refine .tie same ⟨top.key, second.key, differ, keptTop.contributed,
          keptSecond.contributed, ?_, ?_⟩ highest
        · rw [← keptSecond.1, ← keptTop.1, same]
        · rw [← keptTop.1]
          exact highest
      · refine .leader (by simp [same]) ⟨keptTop.contributed, ?_⟩ keptTop
        intro other contributed differs
        obtain ⟨candidate, mem, kept⟩ := candidateOf other contributed
        rw [← kept.1, ← keptTop.1]
        have less : second.points < top.points :=
          Nat.lt_of_le_of_ne (below second List.mem_cons_self) same
        rcases List.mem_cons.mp mem with rfl | later
        · exact absurd kept.key_eq.symm differs
        · rcases List.mem_cons.mp later with rfl | last
          · exact less
          · exact Nat.lt_of_le_of_lt ((List.pairwise_cons.mp sorted).1 candidate last) less

end Ranking

end ModemStack.Providers
