import ModemStack.Data.FirstItems
import ModemStack.Sms.Inbox

/-!
The inbox over a run of events.

The rows after a run are the messages that an event brought and no later one took away
(`get_run`), and the visible inbox is the newest of them. An event is answered with whether it
changes the rows, which is whether it changes the visible inbox just if it leaves the rows
alone or changes one that is new enough to be visible (`answered_iff`).
-/

namespace ModemStack.Sms

open ModemStack.Data ModemStack.Text

/-! ### What a run retains -/

/-- After the event the inbox has the message, whatever it had before. -/
def Brings : SmsInboxEvent → SmsMessage → Prop
  | .added added, message => message = added
  | .deleted _, _ => False
  | .resynced messages, message =>
    ∃ front back, messages = front ++ message :: back ∧ ∀ other ∈ back, other.id ≠ message.id

/-- The event leaves a message with that id alone. -/
def Spares : SmsInboxEvent → Nat → Prop
  | .added added, id => id ≠ added.id
  | .deleted deleted, id => id ≠ deleted
  | .resynced _, _ => False

/-- An event of the run brought the message, and no later one touched it. -/
def Retained (events : List SmsInboxEvent) (message : SmsMessage) : Prop :=
  ∃ front event back, events = front ++ event :: back ∧ Brings event message ∧
    ∀ later ∈ back, Spares later message.id

/-- Where an item stands in a list that another comes last in. -/
theorem split_concat {α : Type} {items front back : List α} {item last : α}
    (split : items ++ [last] = front ++ item :: back) :
    (items = front ∧ last = item ∧ back = []) ∨
      ∃ before, back = before ++ [last] ∧ items = front ++ item :: before := by
  induction back using List.reverseRecOn with
  | nil =>
    obtain ⟨sameFront, sameLast⟩ := List.append_inj' split rfl
    exact .inl ⟨sameFront, (List.cons.inj sameLast).1, rfl⟩
  | append_singleton before other _ =>
    rw [← List.cons_append, ← List.append_assoc] at split
    obtain ⟨sameFront, sameLast⟩ := List.append_inj' split rfl
    obtain rfl := (List.cons.inj sameLast).1
    exact .inr ⟨before, rfl, sameFront⟩

theorem retained_concat {events : List SmsInboxEvent} {event : SmsInboxEvent}
    {message : SmsMessage} :
    Retained (events ++ [event]) message ↔
      Brings event message ∨ (Retained events message ∧ Spares event message.id) := by
  constructor
  · rintro ⟨front, bringer, back, split, brings, spared⟩
    rcases split_concat split with ⟨rfl, rfl, rfl⟩ | ⟨before, rfl, rfl⟩
    · exact .inl brings
    · refine .inr ⟨⟨front, bringer, before, rfl, brings, ?_⟩, spared event (by simp)⟩
      exact fun later mem => spared later (List.mem_append_left _ mem)
  · rintro (brings | ⟨⟨front, bringer, back, rfl, brings, spared⟩, spares⟩)
    · exact ⟨events, event, [], rfl, brings, nofun⟩
    · refine ⟨front, bringer, back ++ [event], by simp, brings, fun later mem => ?_⟩
      rcases List.mem_append.mp mem with earlier | isEvent
      · exact spared later earlier
      · exact List.mem_singleton.mp isEvent ▸ spares

namespace SmsInboxStore

variable {message : SmsMessage}

/-- The last message of each id is the one that is held. -/
theorem get_rowsOf_iff {messages : List SmsMessage} :
    (rowsOf messages).get message.id = some message ↔ Brings (.resynced messages) message := by
  induction messages using List.reverseRecOn with
  | nil =>
    refine iff_of_false (Option.some_ne_none message).symm ?_
    rintro ⟨front, back, split, _⟩
    exact absurd split.symm (by simp)
  | append_singleton messages last ih =>
    have held : (rowsOf (messages ++ [last])).get message.id =
        if message.id = last.id then some last else (rowsOf messages).get message.id := by
      rw [rowsOf, OrderedMap.ofItems, List.map_append, List.map_singleton, List.foldl_concat,
        OrderedMap.get_set]
      rfl
    rw [held]
    constructor
    · intro here
      split at here
      · cases here
        exact ⟨messages, [], rfl, by simp⟩
      · next differs =>
        obtain ⟨front, back, rfl, unique⟩ := ih.mp here
        refine ⟨front, back ++ [last], by simp, fun other mem => ?_⟩
        rcases List.mem_append.mp mem with earlier | isLast
        · exact unique other earlier
        · exact List.mem_singleton.mp isLast ▸ Ne.symm differs
    · rintro ⟨front, back, split, unique⟩
      rcases split_concat split with ⟨rfl, rfl, rfl⟩ | ⟨before, rfl, rfl⟩
      · exact if_pos rfl
      · rw [if_neg (Ne.symm (unique last (by simp)))]
        exact ih.mpr ⟨front, before, rfl, fun other mem =>
          unique other (List.mem_append_left _ mem)⟩

/-- What one event does to what is held under an id. -/
theorem get_apply {store : SmsInboxStore} {event : SmsInboxEvent} :
    (store.apply event).1.rows.get message.id = some message ↔
      Brings event message ∨
        (store.rows.get message.id = some message ∧ Spares event message.id) := by
  cases event with
  | added added =>
    rw [get_added]
    by_cases same : message.id = added.id
    · rw [if_pos same, Option.some.injEq, Brings, Spares]
      simp [same, eq_comm]
    · rw [if_neg same, Brings, Spares]
      have other : message ≠ added := fun isSame => same (isSame ▸ rfl)
      simp [other, same]
  | deleted id =>
    rw [get_deleted]
    by_cases same : message.id = id
    · simp [Brings, Spares, same]
    · simp [Brings, Spares, same]
  | resynced messages =>
    show (rowsOf messages).get message.id = some message ↔ _
    rw [get_rowsOf_iff]
    simp [Spares]

/-- The store after a run of events. -/
def run (events : List SmsInboxEvent) : SmsInboxStore :=
  events.foldl (fun store event => (store.apply event).1) new

theorem run_concat (events : List SmsInboxEvent) (event : SmsInboxEvent) :
    run (events ++ [event]) = ((run events).apply event).1 := by
  rw [run, List.foldl_concat]
  rfl

theorem get_run {events : List SmsInboxEvent} :
    (run events).rows.get message.id = some message ↔ Retained events message := by
  induction events using List.reverseRecOn with
  | nil =>
    refine iff_of_false nofun ?_
    rintro ⟨front, event, back, split, _⟩
    exact absurd split.symm (by simp)
  | append_singleton events event ih => rw [run_concat, get_apply, ih, retained_concat]

/-! ### Rows under their ids -/

structure Keyed (store : SmsInboxStore) : Prop where
  distinct : store.rows.keys.Nodup
  byId : ∀ id message, store.rows.get id = some message → message.id = id

theorem keyed_new : Keyed new := ⟨.nil, nofun⟩

theorem Keyed.apply {store : SmsInboxStore} (keyed : Keyed store) (event : SmsInboxEvent) :
    Keyed (store.apply event).1 := by
  refine ⟨nodup_apply keyed.distinct event, fun id message held => ?_⟩
  cases event with
  | added =>
    rw [get_added] at held
    split at held
    · next same => exact Option.some.inj held ▸ same.symm
    · exact keyed.byId id message held
  | deleted =>
    rw [get_deleted] at held
    split at held
    · cases held
    · exact keyed.byId id message held
  | resynced =>
    obtain ⟨other, _, same⟩ := List.mem_map.mp (OrderedMap.mem_of_get_ofItems held)
    cases same
    rfl

theorem keyed_run (events : List SmsInboxEvent) : Keyed (run events) := by
  induction events using List.reverseRecOn with
  | nil => exact keyed_new
  | append_singleton events event ih =>
    rw [run_concat]
    exact ih.apply event

variable {store : SmsInboxStore}

theorem Keyed.mem_values (keyed : Keyed store) :
    message ∈ store.rows.values ↔ store.rows.get message.id = some message := by
  constructor
  · intro mem
    obtain ⟨item, listed, rfl⟩ := List.mem_map.mp mem
    have held := OrderedMap.get_of_mem_items keyed.distinct listed
    rw [keyed.byId item.1 item.2 held]
    exact held
  · exact OrderedMap.mem_values_of_get

theorem Keyed.ids (keyed : Keyed store) :
    store.rows.values.map SmsMessage.id = store.rows.keys := by
  rw [OrderedMap.values, OrderedMap.keys, List.map_map]
  refine List.map_congr_left fun item listed => ?_
  exact keyed.byId item.1 item.2 (OrderedMap.get_of_mem_items keyed.distinct listed)

theorem Keyed.nodup_ids (keyed : Keyed store) : (store.rows.values.map SmsMessage.id).Nodup := by
  rw [keyed.ids]
  exact keyed.distinct

end SmsInboxStore

theorem distinguishes_of_ids {smsTimestampEpoch : JsString → WithBot Int}
    {messages : List SmsMessage} (distinct : (messages.map SmsMessage.id).Nodup) :
    Distinguishes (newestFirst smsTimestampEpoch) messages := by
  intro x mem y mem' before after
  exact List.inj_on_of_nodup_map distinct mem mem' (newestFirst_antisymm before after)

/-! ### What an event changes -/

/-- The messages that an event leaves behind. -/
def leaves (rows : List SmsMessage) : SmsInboxEvent → List SmsMessage
  | .added added => added :: rows.filter fun other => other.id ≠ added.id
  | .deleted id => rows.filter fun other => other.id ≠ id
  | .resynced messages => (SmsInboxStore.rowsOf messages).values

namespace SmsInboxStore

theorem Keyed.rowsOf (messages : List SmsMessage) : Keyed ⟨rowsOf messages⟩ :=
  keyed_new.apply (.resynced messages)

theorem nodup_leaves {rows : List SmsMessage} (distinct : (rows.map SmsMessage.id).Nodup)
    (event : SmsInboxEvent) : ((leaves rows event).map SmsMessage.id).Nodup := by
  cases event with
  | added =>
    rw [leaves, List.map_cons, List.nodup_cons]
    refine ⟨fun mem => ?_, distinct.sublist (List.filter_sublist.map _)⟩
    obtain ⟨other, kept, same⟩ := List.mem_map.mp mem
    exact of_decide_eq_true (List.mem_filter.mp kept).2 same
  | deleted => exact distinct.sublist (List.filter_sublist.map _)
  | resynced messages => exact (Keyed.rowsOf messages).nodup_ids

theorem mem_leaves {rows : List SmsMessage} {event : SmsInboxEvent} {message : SmsMessage} :
    message ∈ leaves rows event ↔
      Brings event message ∨ (message ∈ rows ∧ Spares event message.id) := by
  cases event with
  | added | deleted => simp [leaves, Brings, Spares]
  | resynced messages =>
    rw [leaves, (Keyed.rowsOf messages).mem_values, ← get_rowsOf_iff]
    simp [Spares]

theorem mem_apply (keyed : Keyed store) {event : SmsInboxEvent} {message : SmsMessage} :
    message ∈ (store.apply event).1.rows.values ↔ message ∈ leaves store.rows.values event := by
  rw [(keyed.apply event).mem_values, get_apply, mem_leaves, keyed.mem_values]

theorem perm_leaves (keyed : Keyed store) (event : SmsInboxEvent) :
    (store.apply event).1.rows.values.Perm (leaves store.rows.values event) := by
  refine (List.perm_ext_iff_of_nodup ?_ ?_).mpr fun message => mem_apply keyed
  · exact (keyed.apply event).nodup_ids.of_map
  · exact (nodup_leaves keyed.nodup_ids event).of_map

theorem items_any_eq_false (store other : SmsInboxStore) (keyed : Keyed other) :
    (other.rows.items.any fun item => store.rows.get item.1 ≠ some item.2) = false ↔
      ∀ message ∈ other.rows.values, store.rows.get message.id = some message := by
  rw [List.any_eq_false]
  constructor
  · intro none_differs message mem
    obtain ⟨item, listed, rfl⟩ := List.mem_map.mp mem
    have same := none_differs item listed
    rw [decide_eq_true_eq, not_not] at same
    rw [keyed.byId item.1 item.2 (OrderedMap.get_of_mem_items keyed.distinct listed)]
    exact same
  · intro all item listed
    have same := all item.2 (List.mem_map_of_mem listed)
    rw [keyed.byId item.1 item.2 (OrderedMap.get_of_mem_items keyed.distinct listed)] at same
    rw [decide_eq_true_eq, not_not]
    exact same

/-- The answer says whether the rows changed. -/
theorem answer_iff (keyed : Keyed store) (event : SmsInboxEvent) :
    (store.apply event).2 = false ↔
      ∀ message, message ∈ store.rows.values ↔ message ∈ leaves store.rows.values event := by
  cases event with
  | added added =>
    have answer : (store.apply (.added added)).2 = false ↔ added ∈ store.rows.values := by
      rw [keyed.mem_values, apply, applyAdded]
      split
      · next held => exact iff_of_true rfl held
      · next differs => exact iff_of_false (by simp) differs
    rw [answer]
    constructor
    · intro listed message
      rw [mem_leaves]
      constructor
      · intro mem
        by_cases same : message.id = added.id
        · exact .inl (List.inj_on_of_nodup_map keyed.nodup_ids mem listed same)
        · exact .inr ⟨mem, same⟩
      · rintro (rfl | ⟨mem, _⟩)
        · exact listed
        · exact mem
    · intro same
      exact (same added).mpr (mem_leaves.mpr (.inl rfl))
  | deleted id =>
    rw [apply, Option.isSome_eq_false_iff, Option.isNone_iff_eq_none]
    constructor
    · intro missing message
      rw [mem_leaves]
      constructor
      · intro mem
        refine .inr ⟨mem, ?_⟩
        rintro rfl
        rw [keyed.mem_values.mp mem] at missing
        cases missing
      · rintro (none_brought | ⟨mem, _⟩)
        · exact none_brought.elim
        · exact mem
    · intro same
      rw [Option.eq_none_iff_forall_not_mem]
      intro message held
      have isId := keyed.byId id message held
      have mem := keyed.mem_values.mpr (isId.symm ▸ held)
      rcases mem_leaves.mp ((same message).mp mem) with brings | ⟨_, spares⟩
      · exact brings
      · exact spares isId
  | resynced messages =>
    have next := Keyed.rowsOf messages
    have lengths (other : SmsInboxStore) : other.rows.items.length = other.rows.values.length :=
      (List.length_map _).symm
    rw [apply, applyResynced, Bool.or_eq_false_iff, decide_eq_false_iff_not, not_not,
      items_any_eq_false store ⟨SmsInboxStore.rowsOf messages⟩ next, lengths store,
      lengths ⟨SmsInboxStore.rowsOf messages⟩, leaves]
    constructor
    · rintro ⟨sameLength, all⟩ message
      have within : (SmsInboxStore.rowsOf messages).values ⊆ store.rows.values :=
        fun message mem => keyed.mem_values.mpr (all message mem)
      have permuted := (List.subperm_of_subset next.nodup_ids.of_map within).perm_of_length_le
        sameLength.ge
      exact permuted.symm.mem_iff
    · intro same
      have permuted := (List.perm_ext_iff_of_nodup keyed.nodup_ids.of_map
        next.nodup_ids.of_map).mpr same
      exact ⟨permuted.symm.length_eq,
        fun message mem => keyed.mem_values.mp ((same message).mpr mem)⟩

end SmsInboxStore

/-! ### The visible inbox -/

open SmsInboxStore

section Visible

variable (smsTimestampEpoch : JsString → WithBot Int) (cap : Nat)

/-- The event leaves the rows alone, or it brings or takes one that fewer than `cap` are ahead
of. -/
def Shows (rows : List SmsMessage) (event : SmsInboxEvent) : Prop :=
  (∀ message, message ∈ rows ↔ message ∈ leaves rows event) ∨
    (∃ message ∈ rows, message ∉ leaves rows event ∧
      ahead (newestFirst smsTimestampEpoch) rows message < cap) ∨
    ∃ message ∈ leaves rows event, message ∉ rows ∧
      ahead (newestFirst smsTimestampEpoch) (leaves rows event) message < cap

def rowsAfter (events : List SmsInboxEvent) : List SmsMessage := (run events).rows.values

/-- What the inbox shows after a run. -/
def shown (events : List SmsInboxEvent) : List SmsMessage :=
  (run events).snapshot smsTimestampEpoch cap

variable {smsTimestampEpoch} {cap}

variable (events : List SmsInboxEvent)

variable (event : SmsInboxEvent)

theorem shown_concat_eq_iff :
    shown smsTimestampEpoch cap (events ++ [event]) = shown smsTimestampEpoch cap events ↔
      (∀ message ∈ rowsAfter events,
        ahead (newestFirst smsTimestampEpoch) (rowsAfter events) message < cap →
          message ∈ leaves (rowsAfter events) event) ∧
      ∀ message ∈ leaves (rowsAfter events) event,
        ahead (newestFirst smsTimestampEpoch) (leaves (rowsAfter events) event) message < cap →
          message ∈ rowsAfter events := by
  have keyed := keyed_run events
  have distinct' := nodup_leaves keyed.nodup_ids event
  have after : shown smsTimestampEpoch cap (events ++ [event]) =
      firstItems (newestFirst smsTimestampEpoch) cap (leaves (rowsAfter events) event) := by
    rw [shown, run_concat]
    exact sortAndCapSms_perm (perm_leaves keyed event) (keyed.apply event).nodup_ids
  rw [after, eq_comm]
  exact firstItems_eq_iff keyed.nodup_ids.of_map distinct'.of_map
    (distinguishes_of_ids keyed.nodup_ids) (distinguishes_of_ids distinct')

/-- The answer is whether the visible inbox changed, just if the event shows. -/
theorem answered_iff :
    (((run events).apply event).2 = true ↔
        shown smsTimestampEpoch cap (events ++ [event]) ≠ shown smsTimestampEpoch cap events) ↔
      Shows smsTimestampEpoch cap (rowsAfter events) event := by
  have answer := answer_iff (keyed_run events) event
  change _ ↔ ∀ message, message ∈ rowsAfter events ↔ message ∈ leaves (rowsAfter events) event
    at answer
  rw [← Bool.not_eq_false, answer, ne_eq, shown_concat_eq_iff, Shows]
  by_cases same : ∀ message, message ∈ rowsAfter events ↔ message ∈ leaves (rowsAfter events) event
  · refine iff_of_true (iff_of_false (not_not.mpr same) (not_not.mpr ?_)) (.inl same)
    exact ⟨fun message mem _ => (same message).mp mem, fun message mem _ => (same message).mpr mem⟩
  · rw [or_iff_right same, iff_true_left same, Classical.not_and_iff_not_or_not]
    simp only [not_forall, exists_prop, and_comm]

/-- A listing settles what is shown, whatever came before. -/
theorem shown_resynced (events other : List SmsInboxEvent) (messages : List SmsMessage) :
    shown smsTimestampEpoch cap (events ++ [.resynced messages]) =
      shown smsTimestampEpoch cap (other ++ [.resynced messages]) := by
  rw [shown, shown, run_concat, run_concat]
  rfl

/-- The same event again changes nothing. -/
theorem apply_again : (run (events ++ [event])).apply event = (run (events ++ [event]), false) := by
  have keyed := keyed_run events
  have answer : ((run (events ++ [event])).apply event).2 = false := by
    rw [answer_iff (keyed_run _)]
    intro message
    rw [run_concat, mem_leaves, mem_apply keyed, mem_leaves]
    tauto
  refine Prod.ext ?_ answer
  rw [run_concat] at answer ⊢
  cases event with
  | added added =>
    have held : ((run events).apply (.added added)).1.rows.get added.id = some added :=
      get_apply.mpr (.inl rfl)
    rw [apply, applyAdded, if_pos held]
  | deleted => simp only [apply, OrderedMap.filter, List.filter_filter, Bool.and_self]
  | resynced => rfl

/-- What is shown are the newest of the messages that the run retains. -/
theorem shown_retained :
    ∃ sorted : List SmsMessage, sorted.Pairwise (newestFirst smsTimestampEpoch) ∧
      sorted.Nodup ∧ (∀ message, message ∈ sorted ↔ Retained events message) ∧
      shown smsTimestampEpoch cap events = sorted.take cap := by
  have keyed := keyed_run events
  have permuted := List.perm_insertionSort (newestFirst smsTimestampEpoch) (rowsAfter events)
  refine ⟨(rowsAfter events).insertionSort (newestFirst smsTimestampEpoch),
    List.pairwise_insertionSort _ _, permuted.nodup_iff.mpr keyed.nodup_ids.of_map, ?_, rfl⟩
  intro message
  rw [permuted.mem_iff, ← get_run]
  exact keyed.mem_values

/-! ### The laws of a run -/

variable (smsTimestampEpoch) (cap) in
/-- What the inbox owes to a run of events. -/
structure InboxLaws (events : List SmsInboxEvent) : Prop where
  answered : ∀ front event back, events = front ++ event :: back →
    (((run front).apply event).2 = true ↔
      shown smsTimestampEpoch cap (front ++ [event]) ≠ shown smsTimestampEpoch cap front)
  resynced : ∀ front messages back, events = front ++ .resynced messages :: back →
    ∀ other, shown smsTimestampEpoch cap (front ++ [.resynced messages]) =
      shown smsTimestampEpoch cap (other ++ [.resynced messages])
  repeated : ∀ front event back, events = front ++ event :: back →
    (run (front ++ [event])).apply event = (run (front ++ [event]), false)
  listed : ∀ front back, events = front ++ back → ∃ sorted : List SmsMessage,
    sorted.Pairwise (newestFirst smsTimestampEpoch) ∧ sorted.Nodup ∧
      (∀ message, message ∈ sorted ↔ Retained front message) ∧
        shown smsTimestampEpoch cap front = sorted.take cap

/-- The laws hold of the runs in which no event changes only rows beyond the cap. -/
theorem inboxLaws_iff (smsTimestampEpoch : JsString → WithBot Int) (cap : Nat)
    (events : List SmsInboxEvent) :
    InboxLaws smsTimestampEpoch cap events ↔
      ∀ front event back, events = front ++ event :: back →
        Shows smsTimestampEpoch cap (rowsAfter front) event := by
  constructor
  · intro laws front event back split
    exact (answered_iff front event).mp (laws.answered front event back split)
  · intro shows_each
    refine ⟨fun front event back split => ?_, fun front messages _ _ other => ?_,
      fun front event _ _ => apply_again front event, fun front _ _ => shown_retained front⟩
    · exact (answered_iff front event).mpr (shows_each front event back split)
    · exact shown_resynced front other messages

end Visible

/-- A message behind one that fills the inbox is answered as a change, and is not shown. -/
theorem behindCap_answered :
    ((run [.added ⟨2, none, none, [], .received⟩]).apply
        (.added ⟨1, none, none, [], .received⟩)).2 = true ∧
      shown (fun _ => ⊥) 1
          [.added ⟨2, none, none, [], .received⟩, .added ⟨1, none, none, [], .received⟩] =
        shown (fun _ => ⊥) 1 [.added ⟨2, none, none, [], .received⟩] := by
  decide

end ModemStack.Sms
