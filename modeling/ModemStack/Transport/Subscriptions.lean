import Mathlib.Data.List.Nodup
import ModemStack.Transport.Connection

/-!
The bookkeeping of subscriptions: counts, handles and the order in which rules were inserted.
None of it depends on what the bus answers.
-/

namespace ModemStack.Transport.SignalRegistry

open ModemStack.Data ModemStack.Text

variable {signals : SignalRegistry}

/-! ### Counts -/

/-- The stamp of a rule that is set. -/
def stamp (signals : SignalRegistry) (rule : JsString) : Nat :=
  match signals.matchRuleRefcount.get rule with
  | some known => known.since
  | none => signals.inserted + 1

@[simp] theorem get_setCount (signals : SignalRegistry) (rule other : JsString) (count : Nat) :
    (signals.setCount rule count).matchRuleRefcount.get other =
      if other = rule then some ⟨count, signals.stamp rule⟩
      else signals.matchRuleRefcount.get other := by
  unfold setCount stamp
  cases signals.matchRuleRefcount.get rule <;> exact OrderedMap.get_set _ _ _ _

/-- What the counting leaves alone. -/
theorem setCount_others (signals : SignalRegistry) (rule : JsString) (count : Nat) :
    (signals.setCount rule count).subscriptions = signals.subscriptions ∧
      (signals.setCount rule count).nextSubId = signals.nextSubId ∧
      (signals.setCount rule count).handles = signals.handles ∧
      (signals.setCount rule count).adding = signals.adding ∧
      (signals.setCount rule count).removing = signals.removing ∧
      (signals.setCount rule count).rejected = signals.rejected := by
  unfold setCount
  cases signals.matchRuleRefcount.get rule <;> exact ⟨rfl, rfl, rfl, rfl, rfl, rfl⟩

theorem enrol_others (signals : SignalRegistry) (spec : SignalSpec) :
    (signals.enrol spec).subscriptions = signals.subscriptions ++
        [SubscriptionRecord.mk signals.nextSubId spec (buildMatchRule spec)] ∧
      (signals.enrol spec).nextSubId = signals.nextSubId + 1 ∧
      (signals.enrol spec).handles = signals.handles ∧
      (signals.enrol spec).adding = signals.adding ∧
      (signals.enrol spec).removing = signals.removing ∧
      (signals.enrol spec).rejected = signals.rejected :=
  setCount_others _ _ _

theorem get_enrol (signals : SignalRegistry) (spec : SignalSpec) (rule : JsString) :
    (signals.enrol spec).matchRuleRefcount.get rule =
      if rule = buildMatchRule spec then some ⟨signals.count rule + 1, signals.stamp rule⟩
      else signals.matchRuleRefcount.get rule := by
  rw [SignalRegistry.enrol, get_setCount]
  split_ifs with same
  · rw [same]
    rfl
  · rfl

theorem retire_others (signals : SignalRegistry) (id : Nat) (rule : JsString) :
    (signals.retire id rule).subscriptions =
        signals.subscriptions.filter (fun record => record.id ≠ id) ∧
      (signals.retire id rule).nextSubId = signals.nextSubId ∧
      (signals.retire id rule).handles = signals.handles.set id ⟨rule, true⟩ ∧
      (signals.retire id rule).adding = signals.adding ∧
      (signals.retire id rule).removing = signals.removing ∧
      (signals.retire id rule).rejected = signals.rejected := by
  unfold SignalRegistry.retire
  by_cases isLast : signals.count rule ≤ 1
  · simp only [if_pos isLast, and_self]
  · simp only [if_neg isLast]
    exact setCount_others _ _ _

theorem get_retire (signals : SignalRegistry) (id : Nat) (rule other : JsString) :
    (signals.retire id rule).matchRuleRefcount.get other =
      if other = rule then
        if signals.count rule ≤ 1 then none else some ⟨signals.count rule - 1, signals.stamp rule⟩
      else signals.matchRuleRefcount.get other := by
  unfold SignalRegistry.retire
  by_cases isLast : signals.count rule ≤ 1
  · simp only [if_pos isLast, OrderedMap.get_filter]
    by_cases same : other = rule
    · simp [same]
    · simp [same]
  · simp only [if_neg isLast, get_setCount]
    rfl

theorem count_retire (signals : SignalRegistry) (id : Nat) (rule other : JsString) :
    (signals.retire id rule).count other =
      if other = rule then signals.count rule - 1 else signals.count other := by
  rw [SignalRegistry.count, get_retire]
  by_cases same : other = rule
  · by_cases isLast : signals.count rule ≤ 1
    · simp only [if_pos same, if_pos isLast, Option.map_none, Option.getD_none]
      omega
    · simp only [if_pos same, if_neg isLast, Option.map_some, Option.getD_some]
  · simp only [if_neg same]
    rfl

/-! ### The order of insertion -/

structure Stamped (signals : SignalRegistry) : Prop where
  distinct : signals.matchRuleRefcount.keys.Nodup
  inOrder : (signals.matchRuleRefcount.items.map fun item => item.2.since).Pairwise (· < ·)
  positive : ∀ item ∈ signals.matchRuleRefcount.items, 0 < item.2.since
  inserted : ∀ item ∈ signals.matchRuleRefcount.items, item.2.since ≤ signals.inserted

theorem setItem_since {rule : JsString} {known : RuleCount} {count : Nat}
    {items : List (JsString × RuleCount)} (here : OrderedMap.getItem rule items = some known) :
    (OrderedMap.setItem rule { known with count } items).map (fun item => item.2.since) =
      items.map fun item => item.2.since := by
  induction items with
  | nil => cases here
  | cons item items ih =>
    obtain ⟨first, old⟩ := item
    rw [OrderedMap.getItem] at here
    split_ifs at here with same
    · cases here
      simp [OrderedMap.setItem, same]
    · simp [OrderedMap.setItem, same, ih here]

theorem Stamped.setCount (stamped : signals.Stamped) (rule : JsString) (count : Nat) :
    (signals.setCount rule count).Stamped := by
  unfold SignalRegistry.setCount
  cases isKnown : signals.matchRuleRefcount.get rule with
  | some known =>
    have same := @setItem_since rule known count _ isKnown
    have others (bound : Nat → Prop)
        (all : ∀ item ∈ signals.matchRuleRefcount.items, bound item.2.since) :
        ∀ item ∈ (signals.matchRuleRefcount.set rule { known with count }).items,
          bound item.2.since := by
      intro item mem
      have stamp : item.2.since ∈ signals.matchRuleRefcount.items.map fun item => item.2.since :=
        same ▸ List.mem_map_of_mem mem
      obtain ⟨old, isOld, stamp⟩ := List.mem_map.mp stamp
      exact stamp ▸ all old isOld
    constructor
    · exact OrderedMap.nodup_set stamped.distinct _ _
    · exact same ▸ stamped.inOrder
    · exact others (0 < ·) stamped.positive
    · exact others (· ≤ signals.inserted) stamped.inserted
  | none =>
    have isNew : rule ∉ signals.matchRuleRefcount.items.map Prod.fst := by
      intro mem
      obtain ⟨item, isItem, rfl⟩ := List.mem_map.mp mem
      exact nomatch isKnown.symm.trans (OrderedMap.get_of_mem_items stamped.distinct isItem)
    have items : (signals.matchRuleRefcount.set rule ⟨count, signals.inserted + 1⟩).items =
        signals.matchRuleRefcount.items ++ [(rule, ⟨count, signals.inserted + 1⟩)] :=
      OrderedMap.setItem_new isNew
    constructor
    · exact OrderedMap.nodup_set stamped.distinct _ _
    · rw [items, List.map_append, List.pairwise_append]
      refine ⟨stamped.inOrder, List.pairwise_singleton _ _, ?_⟩
      intro since mem last isLast
      obtain ⟨item, isItem, rfl⟩ := List.mem_map.mp mem
      rw [List.mem_singleton.mp isLast]
      exact Nat.lt_succ_of_le (stamped.inserted item isItem)
    · rw [items]
      intro item mem
      rcases List.mem_append.mp mem with old | new
      · exact stamped.positive item old
      · rw [List.mem_singleton.mp new]
        exact Nat.succ_pos _
    · rw [items]
      intro item mem
      rcases List.mem_append.mp mem with old | new
      · exact Nat.le_succ_of_le (stamped.inserted item old)
      · obtain rfl := List.mem_singleton.mp new
        exact Nat.le_refl _

theorem Stamped.filter (stamped : signals.Stamped) (keep : JsString → Bool) :
    Stamped { signals with matchRuleRefcount := signals.matchRuleRefcount.filter keep } := by
  have kept : (signals.matchRuleRefcount.filter keep).items.Sublist
      signals.matchRuleRefcount.items := List.filter_sublist
  constructor
  · exact stamped.distinct.sublist (kept.map _)
  · exact stamped.inOrder.sublist (kept.map _)
  · exact fun item mem => stamped.positive item (kept.subset mem)
  · exact fun item mem => stamped.inserted item (kept.subset mem)

theorem Stamped.of_eq (stamped : signals.Stamped) {signals' : SignalRegistry}
    (rules : signals'.matchRuleRefcount = signals.matchRuleRefcount)
    (inserted : signals'.inserted = signals.inserted) : signals'.Stamped := by
  constructor
  · exact rules ▸ stamped.distinct
  · exact rules ▸ stamped.inOrder
  · exact rules ▸ stamped.positive
  · exact rules ▸ inserted ▸ stamped.inserted

theorem Stamped.enrol (stamped : signals.Stamped) (spec : SignalSpec) :
    (signals.enrol spec).Stamped := by
  unfold SignalRegistry.enrol
  refine Stamped.setCount ?_ _ _
  exact stamped.of_eq rfl rfl

theorem Stamped.retire (stamped : signals.Stamped) (id : Nat) (rule : JsString) :
    (signals.retire id rule).Stamped := by
  unfold SignalRegistry.retire
  by_cases isLast : signals.count rule ≤ 1
  · simp only [if_pos isLast]
    exact (stamped.filter fun key => key ≠ rule).of_eq rfl rfl
  · simp only [if_neg isLast]
    refine Stamped.setCount ?_ _ _
    exact stamped.of_eq rfl rfl

variable {known : RuleCount} {rule : JsString} {record : SubscriptionRecord}

theorem Stamped.mem (stamped : signals.Stamped) : signals.matchRuleRefcount.get rule = some known ↔
      (rule, known) ∈ signals.matchRuleRefcount.items :=
  ⟨OrderedMap.mem_items_of_get, OrderedMap.get_of_mem_items stamped.distinct⟩

/-- Two rules have two stamps. -/
theorem Stamped.injective (stamped : signals.Stamped) {rule other : JsString}
    {known known' : RuleCount} (here : signals.matchRuleRefcount.get rule = some known)
    (there : signals.matchRuleRefcount.get other = some known') (same : known.since = known'.since) :
    rule = other := by
  have distinct : (signals.matchRuleRefcount.items.map fun item => item.2.since).Nodup :=
    stamped.inOrder.imp Nat.ne_of_lt
  exact congrArg Prod.fst (List.inj_on_of_nodup_map distinct (stamped.mem.mp here)
    (stamped.mem.mp there) same)

theorem Stamped.nextRule_some (stamped : signals.Stamped) {since : Nat}
    (next : signals.nextRule since = some (rule, known)) :
    signals.matchRuleRefcount.get rule = some known ∧ since < known.since ∧
      ∀ other known', signals.matchRuleRefcount.get other = some known' → since < known'.since →
        known.since ≤ known'.since := by
  obtain ⟨later, before, after, split, earlier⟩ := List.find?_eq_some_iff_append.mp next
  have later : since < known.since := by simpa using later
  have mem : (rule, known) ∈ signals.matchRuleRefcount.items := by simp [split]
  refine ⟨stamped.mem.mpr mem, later, ?_⟩
  intro other known' isKnown isLater
  have distinct := List.pairwise_map.mp stamped.inOrder
  have isItem := stamped.mem.mp isKnown
  rw [split] at distinct isItem
  rcases List.mem_append.mp isItem with isBefore | isAfter
  · have := earlier _ isBefore
    simp only [Bool.not_eq_eq_eq_not, Bool.not_true, decide_eq_false_iff_not] at this
    exact absurd isLater this
  · rcases List.mem_cons.mp isAfter with same | isAfter
    · cases same
      exact Nat.le_refl _
    · have order := (List.pairwise_cons.mp (List.pairwise_append.mp distinct).2.1).1 _ isAfter
      exact Nat.le_of_lt order

theorem Stamped.nextRule_none (stamped : signals.Stamped) {since : Nat}
    (next : signals.nextRule since = none)
    (isKnown : signals.matchRuleRefcount.get rule = some known) : known.since ≤ since := by
  have := List.find?_eq_none.mp next _ (stamped.mem.mp isKnown)
  simpa using this

/-! ### Subscriptions and handles -/

structure Counted (signals : SignalRegistry) : Prop where
  distinct : (signals.subscriptions.map SubscriptionRecord.id).Nodup
  older : ∀ record ∈ signals.subscriptions, record.id < signals.nextSubId
  counts : ∀ rule, signals.count rule =
    signals.subscriptions.countP fun record => record.rule = rule
  used : ∀ rule known, signals.matchRuleRefcount.get rule = some known → 0 < known.count
  handed : ∀ id handle, signals.handles.get id = some handle → id < signals.nextSubId
  live : ∀ id rule, signals.handles.get id = some ⟨rule, false⟩ →
    ∃ record ∈ signals.subscriptions, record.id = id ∧ record.rule = rule
  adding : ∀ call ∈ signals.adding, signals.handles.get call.id = none ∧
    ∃ record ∈ signals.subscriptions, record.id = call.id ∧ record.rule = call.rule
  addingIds : (signals.adding.map AddMatch.id).Nodup
  addingRules : (signals.adding.map AddMatch.rule).Nodup

/-- A rule is known when a subscription uses it. -/
theorem Counted.known_iff (counted : signals.Counted) : signals.matchRuleRefcount.get rule ≠ none ↔
      ∃ record ∈ signals.subscriptions, record.rule = rule := by
  have counts := counted.counts rule
  constructor
  · intro isKnown
    obtain ⟨known, isKnown⟩ := Option.ne_none_iff_exists'.mp isKnown
    have used := counted.used rule known isKnown
    rw [SignalRegistry.count, isKnown, Option.map_some, Option.getD_some] at counts
    rw [counts] at used
    obtain ⟨record, mem, same⟩ := List.countP_pos_iff.mp used
    exact ⟨record, mem, by simpa using same⟩
  · rintro ⟨record, mem, same⟩ isNone
    rw [SignalRegistry.count, isNone, Option.map_none, Option.getD_none] at counts
    have none := List.countP_eq_zero.mp counts.symm record mem
    exact none (by simpa using same)

theorem Counted.enrol (counted : signals.Counted) (spec : SignalSpec) :
    (signals.enrol spec).Counted := by
  obtain ⟨subscriptions, nextSubId, handles, adding, -, -⟩ := enrol_others signals spec
  constructor
  · rw [subscriptions, List.map_append, List.nodup_append]
    refine ⟨counted.distinct, List.nodup_singleton _, ?_⟩
    intro id mem last isLast
    obtain ⟨record, isRecord, rfl⟩ := List.mem_map.mp mem
    rw [List.mem_singleton.mp isLast]
    exact Nat.ne_of_lt (counted.older record isRecord)
  · rw [subscriptions, nextSubId]
    intro record mem
    rcases List.mem_append.mp mem with old | new
    · exact Nat.lt_succ_of_lt (counted.older record old)
    · rw [List.mem_singleton.mp new]
      exact Nat.lt_succ_self _
  · intro rule
    rw [subscriptions, List.countP_append, List.countP_singleton, ← counted.counts rule,
      SignalRegistry.count, get_enrol]
    by_cases same : rule = buildMatchRule spec
    · simp [same]
    · simp [same, Ne.symm same]
      rfl
  · intro rule known isKnown
    rw [get_enrol] at isKnown
    split_ifs at isKnown
    · cases isKnown
      exact Nat.succ_pos _
    · exact counted.used rule known isKnown
  · rw [handles, nextSubId]
    exact fun id handle isHandle => Nat.lt_succ_of_lt (counted.handed id handle isHandle)
  · rw [handles, subscriptions]
    intro id rule isHandle
    obtain ⟨record, mem, same⟩ := counted.live id rule isHandle
    exact ⟨record, List.mem_append_left _ mem, same⟩
  · rw [handles, subscriptions, adding]
    intro call mem
    obtain ⟨noHandle, record, isRecord, same⟩ := counted.adding call mem
    exact ⟨noHandle, record, List.mem_append_left _ isRecord, same⟩
  · rw [adding]
    exact counted.addingIds
  · rw [adding]
    exact counted.addingRules

/-- Deleting the record of an id takes one from the count of its rule. -/
theorem countP_retire {subscriptions : List SubscriptionRecord}
    (distinct : (subscriptions.map SubscriptionRecord.id).Nodup) (mem : record ∈ subscriptions)
    (rule : JsString) :
    (subscriptions.filter fun other => other.id ≠ record.id).countP (fun other => other.rule = rule) +
        (if record.rule = rule then 1 else 0) =
      subscriptions.countP fun other => other.rule = rule := by
  induction subscriptions with
  | nil => cases mem
  | cons first rest ih =>
    rw [List.map_cons, List.nodup_cons] at distinct
    rcases List.mem_cons.mp mem with rfl | later
    · have others : rest.filter (fun other => decide (other.id ≠ record.id)) = rest := by
        refine List.filter_eq_self.mpr fun other isOther => ?_
        have differs : other.id ≠ record.id := fun same =>
          distinct.1 (same ▸ List.mem_map_of_mem isOther)
        simpa using differs
      rw [List.filter_cons_of_neg (by simp), others, List.countP_cons]
      simp
    · have differs : first.id ≠ record.id := fun same =>
        distinct.1 (same ▸ List.mem_map_of_mem later)
      rw [List.filter_cons_of_pos (by simpa using differs), List.countP_cons, List.countP_cons,
        ← ih distinct.2 later]
      omega

theorem Counted.retire (counted : signals.Counted) {id : Nat}
    (isHandle : signals.handles.get id = some ⟨rule, false⟩) :
    (signals.retire id rule).Counted := by
  obtain ⟨subscriptions, nextSubId, handles, adding, -, -⟩ := retire_others signals id rule
  obtain ⟨record, isRecord, rfl, rfl⟩ := counted.live id rule isHandle
  have kept {other : SubscriptionRecord} (mem : other ∈ signals.subscriptions)
      (differs : other.id ≠ record.id) :
      other ∈ signals.subscriptions.filter fun other => other.id ≠ record.id :=
    List.mem_filter.mpr ⟨mem, by simpa using differs⟩
  constructor
  · rw [subscriptions]
    exact counted.distinct.sublist (List.filter_sublist.map _)
  · rw [subscriptions, nextSubId]
    exact fun other mem => counted.older other (List.mem_of_mem_filter mem)
  · intro other
    have retired := countP_retire counted.distinct isRecord other
    rw [← counted.counts other] at retired
    rw [subscriptions, count_retire]
    by_cases same : other = record.rule
    · subst same
      rw [if_pos rfl] at retired ⊢
      omega
    · rw [if_neg (Ne.symm same)] at retired
      rw [if_neg same]
      omega
  · intro other known isKnown
    rw [get_retire] at isKnown
    split_ifs at isKnown with same isLast
    · cases isKnown
      simp only
      omega
    · exact counted.used other known isKnown
  · rw [handles, nextSubId]
    intro other handle isOther
    rw [OrderedMap.get_set] at isOther
    split_ifs at isOther with same
    · exact same ▸ counted.older record isRecord
    · exact counted.handed other handle isOther
  · rw [handles, subscriptions]
    intro other rule isOther
    rw [OrderedMap.get_set] at isOther
    split_ifs at isOther with same
    · cases isOther
    · obtain ⟨found, mem, isId, isRule⟩ := counted.live other rule isOther
      exact ⟨found, kept mem (isId ▸ same), isId, isRule⟩
  · rw [handles, subscriptions, adding]
    intro call mem
    obtain ⟨noHandle, found, isFound, isId, isRule⟩ := counted.adding call mem
    have differs : call.id ≠ record.id := by
      intro same
      rw [same] at noHandle
      cases noHandle.symm.trans isHandle
    refine ⟨?_, found, kept isFound (isId ▸ differs), isId, isRule⟩
    rw [OrderedMap.get_set, if_neg differs]
    exact noHandle
  · rw [adding]
    exact counted.addingIds
  · rw [adding]
    exact counted.addingRules

theorem Counted.handOver (counted : signals.Counted) (isRecord : record ∈ signals.subscriptions)
    (answered : ∀ call ∈ signals.adding, call.id ≠ record.id) :
    (signals.handOver record.id record.rule).Counted := by
  obtain ⟨distinct, older, counts, used, handed, live, adding, addingIds, addingRules⟩ := counted
  refine ⟨distinct, older, counts, used, ?_, ?_, ?_, addingIds, addingRules⟩
  · intro id handle isHandle
    rw [SignalRegistry.handOver, OrderedMap.get_set] at isHandle
    split_ifs at isHandle with same
    · exact same ▸ older record isRecord
    · exact handed id handle isHandle
  · intro id rule isHandle
    rw [SignalRegistry.handOver, OrderedMap.get_set] at isHandle
    split_ifs at isHandle with same
    · cases isHandle
      exact ⟨record, isRecord, same.symm, rfl⟩
    · exact live id rule isHandle
  · intro call mem
    obtain ⟨noHandle, found⟩ := adding call mem
    refine ⟨?_, found⟩
    rw [SignalRegistry.handOver, OrderedMap.get_set, if_neg (answered call mem)]
    exact noHandle

/-- A call is awaited for a record that has no handle and whose rule no other call adds. -/
theorem Counted.await (counted : signals.Counted) (isRecord : record ∈ signals.subscriptions)
    (noHandle : signals.handles.get record.id = none)
    (others : ∀ call ∈ signals.adding, call.id ≠ record.id ∧ call.rule ≠ record.rule) (bus : Nat) :
    Counted { signals with
      adding := AddMatch.mk record.id bus record.rule :: signals.adding } := by
  obtain ⟨distinct, older, counts, used, handed, live, adding, addingIds, addingRules⟩ := counted
  refine ⟨distinct, older, counts, used, handed, live, ?_, ?_, ?_⟩
  · intro call mem
    rcases List.mem_cons.mp mem with rfl | mem
    · exact ⟨noHandle, record, isRecord, rfl, rfl⟩
    · exact adding call mem
  · refine List.nodup_cons.mpr ⟨fun mem => ?_, addingIds⟩
    obtain ⟨call, isCall, same⟩ := List.mem_map.mp mem
    exact (others call isCall).1 same
  · refine List.nodup_cons.mpr ⟨fun mem => ?_, addingRules⟩
    obtain ⟨call, isCall, same⟩ := List.mem_map.mp mem
    exact (others call isCall).2 same

theorem Counted.answer (counted : signals.Counted) (call : AddMatch) :
    Counted { signals with adding := signals.adding.erase call } := by
  obtain ⟨distinct, older, counts, used, handed, live, adding, addingIds, addingRules⟩ := counted
  have kept : (signals.adding.erase call).Sublist signals.adding := List.erase_sublist
  exact ⟨distinct, older, counts, used, handed, live, fun other mem => adding other (kept.subset mem),
    addingIds.sublist (kept.map _), addingRules.sublist (kept.map _)⟩

theorem Counted.of_answer (counted : signals.Counted) {call : AddMatch}
    (isCall : call ∈ signals.adding) : ∀ other ∈ signals.adding.erase call, other.id ≠ call.id := by
  intro other mem same
  have distinct : signals.adding.Nodup := List.Nodup.of_map _ counted.addingIds
  have isOther := (distinct.mem_erase_iff.mp mem)
  exact isOther.1 (List.inj_on_of_nodup_map counted.addingIds isOther.2 isCall same)

end ModemStack.Transport.SignalRegistry
