import Mathlib.Data.List.Sort
import Mathlib.Order.WithBot
import ModemStack.Data.OrderedMap
import ModemStack.Text.JsString

/-!
SMS messages, their order, and the store that folds inbox events into rows.

A message object is known by the index `n` of its path
`/org/freedesktop/ModemManager1/SMS/<n>`, which is its id too. When a timestamp lies is a
parameter, `⊥` where it does not parse: nothing here depends on the calendar.
-/

namespace ModemStack.Sms

open ModemStack.Data ModemStack.Text

inductive SmsState where
  | unknown
  | stored
  | receiving
  | received
  | sending
  | sent
deriving DecidableEq

structure SmsMessage where
  id : Nat
  sender : Option JsString
  timestamp : Option JsString
  text : JsString
  state : SmsState
deriving DecidableEq

/-- The decoded `Sms` properties of a message object. -/
structure SmsProps where
  Number : Option JsString
  Timestamp : Option JsString
  Text : Option JsString
  State : Option Nat
deriving DecidableEq

def SMS_STATE_BY_ORDINAL : List SmsState :=
  [.unknown, .stored, .receiving, .received, .sending, .sent]

def stateFromOrdinal : Option Nat → SmsState
  | none => .unknown
  | some ordinal => SMS_STATE_BY_ORDINAL[ordinal]?.getD .unknown

def smsFromProps (path : Nat) (props : SmsProps) : SmsMessage where
  id := path
  sender := props.Number.filter (· ≠ js "")
  timestamp := props.Timestamp.filter (· ≠ js "")
  text := props.Text.getD (js "")
  state := stateFromOrdinal props.State

/-- The highest indices, at most `cap` of them. -/
def selectReadablePaths (paths : List Nat) (cap : Nat) : List Nat :=
  (paths.insertionSort fun a b => b ≤ a).take cap

/-! ### Order -/

section Order

variable (smsTimestampEpoch : JsString → WithBot Int)

def epoch (message : SmsMessage) : WithBot Int :=
  match message.timestamp with
  | none => ⊥
  | some timestamp => smsTimestampEpoch timestamp

/-- `a` does not sort after `b`: the later epoch first, of equal ones the higher index. -/
def newestFirst (a b : SmsMessage) : Prop :=
  -- the order that computes: `Int` has another, as a conditionally complete lattice
  @LT.lt (WithBot Int) WithBot.instLT (epoch smsTimestampEpoch b) (epoch smsTimestampEpoch a) ∨
    epoch smsTimestampEpoch a = epoch smsTimestampEpoch b ∧ b.id ≤ a.id

instance : DecidableRel (newestFirst smsTimestampEpoch) := fun _ _ =>
  inferInstanceAs (Decidable (_ ∨ _))

def sortAndCapSms (messages : List SmsMessage) (cap : Nat) : List SmsMessage :=
  (messages.insertionSort (newestFirst smsTimestampEpoch)).take cap

variable {smsTimestampEpoch} {messages messages' : List SmsMessage} {cap : Nat}

instance : IsTrans SmsMessage (newestFirst smsTimestampEpoch) where
  trans a b c ab bc := by
    rcases ab with ab | ⟨ab, le⟩
    · rcases bc with bc | ⟨bc, -⟩
      · exact .inl (bc.trans ab)
      · exact .inl (bc ▸ ab)
    · rcases bc with bc | ⟨bc, le'⟩
      · exact .inl (ab ▸ bc)
      · exact .inr ⟨ab.trans bc, le'.trans le⟩

instance : Std.Total (newestFirst smsTimestampEpoch) where
  total a b := by
    rcases lt_trichotomy (epoch smsTimestampEpoch a) (epoch smsTimestampEpoch b) with lt | eq | gt
    · exact .inr (.inl lt)
    · rcases Nat.le_total a.id b.id with le | le
      · exact .inr (.inr ⟨eq.symm, le⟩)
      · exact .inl (.inr ⟨eq, le⟩)
    · exact .inl (.inl gt)

theorem newestFirst_antisymm {a b : SmsMessage} (ab : newestFirst smsTimestampEpoch a b)
    (ba : newestFirst smsTimestampEpoch b a) : a.id = b.id := by
  rcases ab with ab | ⟨same, le⟩
  · rcases ba with ba | ⟨same, -⟩
    · exact absurd ab ba.not_gt
    · exact absurd ab same.not_lt
  · rcases ba with ba | ⟨-, le'⟩
    · exact absurd ba same.not_lt
    · exact Nat.le_antisymm le' le

/-- The order of the messages handed in does not show: their ids tell them apart. -/
theorem sortAndCapSms_perm (perm : messages.Perm messages')
    (distinct : (messages.map SmsMessage.id).Nodup) :
    sortAndCapSms smsTimestampEpoch messages cap = sortAndCapSms smsTimestampEpoch messages' cap := by
  have same : messages.insertionSort (newestFirst smsTimestampEpoch) =
      messages'.insertionSort (newestFirst smsTimestampEpoch) := by
    refine List.Perm.eq_of_pairwise ?_ (List.pairwise_insertionSort _ messages)
      (List.pairwise_insertionSort _ messages') ?_
    · intro a b mem mem' ab ba
      have isA := (List.mem_insertionSort _).mp mem
      have isB := perm.mem_iff.mpr ((List.mem_insertionSort _).mp mem')
      exact List.inj_on_of_nodup_map distinct isA isB (newestFirst_antisymm ab ba)
    · exact (List.perm_insertionSort _ _).trans (perm.trans (List.perm_insertionSort _ _).symm)
  rw [sortAndCapSms, sortAndCapSms, same]

/-- Below the cap the list is only reordered. -/
theorem mem_sortAndCapSms (le : messages.length ≤ cap) {message : SmsMessage} :
    message ∈ sortAndCapSms smsTimestampEpoch messages cap ↔ message ∈ messages := by
  rw [sortAndCapSms, List.take_of_length_le (by rwa [List.length_insertionSort]),
    List.mem_insertionSort]

theorem mem_selectReadablePaths {paths : List Nat} (le : paths.length ≤ cap) {path : Nat} :
    path ∈ selectReadablePaths paths cap ↔ path ∈ paths := by
  rw [selectReadablePaths, List.take_of_length_le (by rwa [List.length_insertionSort]),
    List.mem_insertionSort]

theorem length_selectReadablePaths (paths : List Nat) :
    (selectReadablePaths paths cap).length ≤ cap := by
  rw [selectReadablePaths, List.length_take]
  exact Nat.min_le_left _ _

end Order

/-! ### The store -/

inductive SmsInboxEvent where
  | added (message : SmsMessage)
  | deleted (id : Nat)
  | resynced (messages : List SmsMessage)

structure SmsInboxStore where
  rows : OrderedMap Nat SmsMessage

namespace SmsInboxStore

def new : SmsInboxStore := ⟨.empty⟩

def applyAdded (store : SmsInboxStore) (message : SmsMessage) : SmsInboxStore × Bool :=
  if store.rows.get message.id = some message then (store, false)
  else (⟨store.rows.set message.id message⟩, true)

/-- A map of messages by their ids. -/
def rowsOf (messages : List SmsMessage) : OrderedMap Nat SmsMessage :=
  .ofItems (messages.map fun message => (message.id, message))

def applyResynced (store : SmsInboxStore) (messages : List SmsMessage) : SmsInboxStore × Bool :=
  let next := rowsOf messages
  (⟨next⟩, next.items.length ≠ store.rows.items.length ||
    next.items.any fun item => store.rows.get item.1 ≠ some item.2)

/-- The store after an event, and whether the event changed it. -/
def apply (store : SmsInboxStore) : SmsInboxEvent → SmsInboxStore × Bool
  | .added message => store.applyAdded message
  | .deleted id => (⟨store.rows.filter (· ≠ id)⟩, (store.rows.get id).isSome)
  | .resynced messages => store.applyResynced messages

def snapshot (smsTimestampEpoch : JsString → WithBot Int) (store : SmsInboxStore) (cap : Nat) :
    List SmsMessage :=
  sortAndCapSms smsTimestampEpoch store.rows.values cap

variable {store : SmsInboxStore}

theorem get_added (message : SmsMessage) (path : Nat) :
    (store.apply (.added message)).1.rows.get path =
      if path = message.id then some message else store.rows.get path := by
  simp only [apply, applyAdded]
  split
  · next held =>
    split
    · next same => rw [same, held]
    · rfl
  · simp

theorem get_deleted (id path : Nat) : (store.apply (.deleted id)).1.rows.get path =
    if path = id then none else store.rows.get path := by
  simp only [apply, OrderedMap.get_filter]
  split <;> simp_all

/-- The row of a path after a listing that has it at most once. -/
theorem get_rowsOf {messages : List SmsMessage} {path : Nat} {held : Option SmsMessage}
    (lists : ∀ message, (message ∈ messages ∧ message.id = path) ↔ held = some message) :
    (rowsOf messages).get path = held := by
  have isListed {message : SmsMessage} (isRow : (rowsOf messages).get path = some message) :
      message ∈ messages ∧ message.id = path := by
    obtain ⟨other, mem, same⟩ := List.mem_map.mp (OrderedMap.mem_of_get_ofItems isRow)
    cases same
    exact ⟨mem, rfl⟩
  cases isRow : (rowsOf messages).get path with
  | some message => exact ((lists message).mp (isListed isRow)).symm
  | none =>
    cases held with
    | none => rfl
    | some message =>
      obtain ⟨mem, rfl⟩ := (lists message).mpr rfl
      exact absurd isRow (OrderedMap.get_ofItems_ne_none (List.mem_map_of_mem mem))

/-- The rows keep distinct ids. -/
theorem nodup_apply (distinct : store.rows.keys.Nodup) (event : SmsInboxEvent) :
    (store.apply event).1.rows.keys.Nodup := by
  cases event with
  | added =>
    simp only [apply, applyAdded]
    split
    · exact distinct
    · exact OrderedMap.nodup_set distinct _ _
  | deleted => exact OrderedMap.nodup_filter distinct _
  | resynced => exact OrderedMap.nodup_ofItems _

end SmsInboxStore

end ModemStack.Sms
