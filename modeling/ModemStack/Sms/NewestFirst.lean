import ModemStack.Data.StableSort
import ModemStack.Sms.Inbox
import ModemStack.Text.DoubleSum
import ModemStack.Text.NumericString

/-!
The newest messages first, cut to a cap.

The sort is the engine's: it takes the comparison of two messages. On messages with numeric ids
that comparison is an order, and the sort is settled but for messages that it cannot tell apart.
-/

namespace ModemStack.Sms.Ordering

open ModemStack.Data ModemStack.Text

structure SmsMessage where
  id : JsString
  sender : Option JsString
  timestamp : Option JsString
  text : JsString
  state : SmsState

/-! ### The comparison -/

/-- `/T\d{2}:\d{2}:\d{2}[+-]\d{2}$/` of the last twelve code units. -/
def hasHoursOnlyOffset : JsString → Bool
  | [t, h, h', c, m, m', c', s, s', sign, o, o'] =>
    t = 0x54 && [h, h', m, m', s, s', o, o'].all isDigitUnit && c = 0x3A && c' = 0x3A &&
      (sign = plusSign || sign = minusSign)
  | _ => false

def widenOffset (timestamp : JsString) : JsString :=
  if hasHoursOnlyOffset (timestamp.drop (timestamp.length - 12)) then timestamp ++ js ":00"
  else timestamp

section Compare

variable (dateParse : JsString → Option Int)

/-- `Date.parse`, minus infinity where that is `NaN`. -/
def smsTimestampEpoch (timestamp : JsString) : Option Int := dateParse (widenOffset timestamp)

def epoch (message : SmsMessage) : Option Int :=
  message.timestamp.bind (smsTimestampEpoch dateParse)

/-- The sign of `x - y`, both of them maybe minus infinity; `NaN` counts as 0. -/
def epochDelta : Option Int → Option Int → Ordering
  | none, none => .eq
  | none, some _ => .lt
  | some _, none => .gt
  | some x, some y => if x < y then .lt else if y < x then .gt else .eq

/-- The sign of `x - y`; `NaN` counts as 0. -/
def numberDelta (x y : Double) : Ordering :=
  if x.lt y then .lt else if y.lt x then .gt else .eq

/-- By the timestamps, and by the ids of messages that these do not tell apart. -/
def compareSms (a b : SmsMessage) : Ordering :=
  match epochDelta (epoch dateParse b) (epoch dateParse a) with
  | .lt => .lt
  | .gt => .gt
  | .eq => numberDelta (numberDouble b.id) (numberDouble a.id)

variable (sort : (SmsMessage → SmsMessage → Ordering) → List SmsMessage → List SmsMessage)

def sortAndCapSms (messages : List SmsMessage) (cap : Nat) : List SmsMessage :=
  (sort (compareSms dateParse) messages).take cap

end Compare

/-! ### The order -/

def Numeric (message : SmsMessage) : Prop := numberDouble message.id ≠ .nan

/-- One instant is later than another; what has none is before all that have. -/
def Later : Option Int → Option Int → Prop
  | some x, some y => y < x
  | some _, none => True
  | none, _ => False

/-- The message may stand before the other: it is later, or of the same instant and its id is no
smaller. -/
def NewestFirst (dateParse : JsString → Option Int) (a b : SmsMessage) : Prop :=
  Later (epoch dateParse a) (epoch dateParse b) ∨
    epoch dateParse a = epoch dateParse b ∧
      (numberDouble a.id).lt (numberDouble b.id) = false

/-- What the comparison tells messages apart by. -/
def sortKey (dateParse : JsString → Option Int) (message : SmsMessage) :
    Option Int × Option (Int × Rat) :=
  (epoch dateParse message, (numberDouble message.id).place)

section Order

variable {dateParse : JsString → Option Int} {messages : List SmsMessage}

theorem compareSms_eq (a b : SmsMessage) : compareSms dateParse a b =
    (epochDelta (epoch dateParse b) (epoch dateParse a)).then
      (numberDelta (numberDouble b.id) (numberDouble a.id)) := by
  rw [compareSms]
  cases epochDelta (epoch dateParse b) (epoch dateParse a) <;> rfl

variable {x y : Option Int}

theorem epochDelta_gt_iff : epochDelta x y = .gt ↔ Later x y := by
  cases x with
  | none => cases y <;> simp [epochDelta, Later]
  | some =>
    cases y with
    | none => simp [epochDelta, Later]
    | some =>
      simp only [epochDelta, Later]
      split_ifs <;> simp only [true_iff, false_iff] <;> omega

theorem epochDelta_swap (x y : Option Int) : epochDelta y x = (epochDelta x y).swap := by
  cases x with
  | none => cases y <;> rfl
  | some =>
    cases y with
    | none => rfl
    | some =>
      simp only [epochDelta]
      split_ifs <;> first | rfl | omega

theorem epochDelta_lt_iff : epochDelta x y = .lt ↔ Later y x := by
  rw [← epochDelta_gt_iff, epochDelta_swap x y]
  cases epochDelta x y <;> decide

theorem epochDelta_eq_iff : epochDelta x y = .eq ↔ x = y := by
  cases x with
  | none => cases y <;> simp [epochDelta]
  | some =>
    cases y with
    | none => simp [epochDelta]
    | some =>
      simp only [epochDelta, Option.some.injEq]
      split_ifs <;> simp only [true_iff, false_iff] <;> omega

theorem not_later_trans {x y z : Option Int} (first : ¬ Later x y) (second : ¬ Later y z) :
    ¬ Later x z := by
  intro later
  cases x with
  | none => exact later
  | some =>
    cases y with
    | none => exact first trivial
    | some =>
      cases z with
      | none => exact second trivial
      | some =>
        simp only [Later] at first second later
        omega

theorem consistent_epoch :
    Consistent (fun a b => epochDelta (epoch dateParse b) (epoch dateParse a)) messages where
  swap _ _ _ _ := epochDelta_swap _ _
  trans _ _ _ _ _ _ first second := by
    rw [ne_eq, epochDelta_gt_iff] at first second ⊢
    exact not_later_trans second first

/-! ### The ids -/

theorem Numeric.place {message : SmsMessage} (numeric : Numeric message) :
    ∃ place, (numberDouble message.id).place = some place := by
  unfold Numeric at numeric
  cases atId : numberDouble message.id with
  | nan => exact absurd atId numeric
  | _ => exact ⟨_, rfl⟩

theorem numberDelta_gt_iff {x y : Double} : numberDelta x y = .gt ↔ y.lt x = true := by
  unfold numberDelta
  split_ifs with less greater
  · simp only [false_iff, Bool.not_eq_true]
    exact Double.not_lt_of_lt less
  · simp only [true_iff]
    exact greater
  · simp only [false_iff]
    exact greater

theorem numberDelta_swap (x y : Double) : numberDelta y x = (numberDelta x y).swap := by
  unfold numberDelta
  split_ifs with less greater
  · rw [Double.not_lt_of_lt less] at greater
    cases greater
  all_goals rfl

theorem lt_places {x y : Double} {a b : Int × Rat} (atX : x.place = some a)
    (atY : y.place = some b) : x.lt y = true ↔ toLex a < toLex b := by
  rw [Double.lt_iff]
  constructor
  · rintro ⟨a', b', atX', atY', less⟩
    cases atX.symm.trans atX'
    cases atY.symm.trans atY'
    exact less
  · intro less
    exact ⟨a, b, atX, atY, less⟩

theorem numberDelta_eq_iff {x y : Double} {a b : Int × Rat} (atX : x.place = some a)
    (atY : y.place = some b) : numberDelta x y = .eq ↔ a = b := by
  have less := lt_places atX atY
  have greater := lt_places atY atX
  unfold numberDelta
  rcases lt_trichotomy (toLex a) (toLex b) with below | level | above
  · rw [if_pos (less.mpr below)]
    simp only [reduceCtorEq, false_iff]
    rintro rfl
    exact lt_irrefl _ below
  · rw [if_neg (fun isLess => (less.mp isLess).ne level),
      if_neg (fun isGreater => (greater.mp isGreater).ne level.symm)]
    simp only [true_iff]
    exact toLex.injective level
  · rw [if_neg (fun isLess => lt_asymm above (less.mp isLess)), if_pos (greater.mpr above)]
    simp only [reduceCtorEq, false_iff]
    rintro rfl
    exact lt_irrefl _ above

theorem consistent_id (numeric : ∀ message ∈ messages, Numeric message) :
    Consistent (fun a b => numberDelta (numberDouble b.id) (numberDouble a.id)) messages where
  swap _ _ _ _ := numberDelta_swap _ _
  trans a memA b memB c memC first second := by
    obtain ⟨placeA, atA⟩ := (numeric a memA).place
    obtain ⟨placeB, atB⟩ := (numeric b memB).place
    obtain ⟨placeC, atC⟩ := (numeric c memC).place
    rw [ne_eq, numberDelta_gt_iff] at first second ⊢
    rw [lt_places atA atB, not_lt] at first
    rw [lt_places atB atC, not_lt] at second
    rw [lt_places atA atC, not_lt]
    exact second.trans first

/-- On messages with numeric ids the comparison is an order. -/
theorem consistent_compareSms (numeric : ∀ message ∈ messages, Numeric message) :
    Consistent (compareSms dateParse) messages := by
  rw [show compareSms dateParse = _ from funext₂ compareSms_eq]
  exact consistent_epoch.then (consistent_id numeric)

theorem newestFirst_of_compareSms {a b : SmsMessage} (notAfter : compareSms dateParse a b ≠ .gt) :
    NewestFirst dateParse a b := by
  rw [compareSms_eq] at notAfter
  cases delta : epochDelta (epoch dateParse b) (epoch dateParse a) with
  | lt => exact .inl (epochDelta_lt_iff.mp delta)
  | gt => exact absurd (by rw [delta]; rfl) notAfter
  | eq =>
    rw [delta] at notAfter
    refine .inr ⟨(epochDelta_eq_iff.mp delta).symm, ?_⟩
    rw [← Bool.not_eq_true, ← numberDelta_gt_iff]
    exact notAfter

theorem compareSms_eq_iff {a b : SmsMessage} (numericA : Numeric a) (numericB : Numeric b) :
    compareSms dateParse a b = .eq ↔ sortKey dateParse a = sortKey dateParse b := by
  obtain ⟨placeA, atA⟩ := numericA.place
  obtain ⟨placeB, atB⟩ := numericB.place
  rw [compareSms_eq, sortKey, sortKey, Prod.mk.injEq, atA, atB, Option.some.injEq,
    Ordering.then_eq_eq, epochDelta_eq_iff, numberDelta_eq_iff atB atA]
  exact and_congr eq_comm eq_comm

/-! ### The cut -/

/-- The answer is the head of the sorted messages, and which messages it has in which place is
settled but for those of one instant and one id. These keep the order they came in. -/
structure OrderedPrefix (dateParse : JsString → Option Int)
    (sort : (SmsMessage → SmsMessage → Ordering) → List SmsMessage → List SmsMessage)
    (messages : List SmsMessage) (cap : Nat) : Prop where
  consistent : Consistent (compareSms dateParse) messages
  cut : ∃ sorted : List SmsMessage, sorted.Perm messages ∧
    sorted.Pairwise (NewestFirst dateParse) ∧
    (∀ message ∈ messages,
      sorted.filter (fun other => sortKey dateParse message = sortKey dateParse other) =
        messages.filter fun other => sortKey dateParse message = sortKey dateParse other) ∧
    sortAndCapSms dateParse sort messages cap = sorted.take cap
  keys : ∀ other : List SmsMessage, other.Perm messages →
    (sortAndCapSms dateParse sort other cap).map (sortKey dateParse) =
      (sortAndCapSms dateParse sort messages cap).map (sortKey dateParse)
  same : (∀ a ∈ messages, ∀ b ∈ messages, sortKey dateParse a = sortKey dateParse b → a = b) →
    ∀ other : List SmsMessage, other.Perm messages →
      sortAndCapSms dateParse sort other cap = sortAndCapSms dateParse sort messages cap

variable {sort : (SmsMessage → SmsMessage → Ordering) → List SmsMessage → List SmsMessage}
variable {cap : Nat}

/-- A key that tells apart what `sortKey` does is settled in the sorted list. -/
theorem sorted_keys (sorts : Sorts sort) (numeric : ∀ message ∈ messages, Numeric message)
    {κ : Type} {key : SmsMessage → κ}
    (level : ∀ a ∈ messages, ∀ b ∈ messages,
      sortKey dateParse a = sortKey dateParse b ↔ key a = key b)
    {other : List SmsMessage} (perm : other.Perm messages) :
    (sort (compareSms dateParse) other).map key =
      (sort (compareSms dateParse) messages).map key := by
  have numericOther : ∀ message ∈ other, Numeric message :=
    fun message mem => numeric message (perm.mem_iff.mp mem)
  refine (consistent_compareSms numeric).keys_eq ?_ ((sorts.perm _ other).trans perm)
    (sorts.perm _ messages) (sorts.sorted _ other (consistent_compareSms numericOther))
    (sorts.sorted _ messages (consistent_compareSms numeric))
  intro a memA b memB
  exact (compareSms_eq_iff (numeric a memA) (numeric b memB)).trans (level a memA b memB)

theorem ordered_prefix (sorts : Sorts sort) (numeric : ∀ message ∈ messages, Numeric message) :
    OrderedPrefix dateParse sort messages cap where
  consistent := consistent_compareSms numeric
  cut := by
    refine ⟨sort (compareSms dateParse) messages, sorts.perm _ _, ?_, ?_, rfl⟩
    · exact (sorts.sorted _ _ (consistent_compareSms numeric)).imp newestFirst_of_compareSms
    · intro message mem
      have level {list : List SmsMessage} (subset : ∀ other ∈ list, other ∈ messages) :
          list.filter (fun other => compareSms dateParse message other = .eq) =
            list.filter fun other => sortKey dateParse message = sortKey dateParse other := by
        refine List.filter_congr fun other memOther => ?_
        exact decide_eq_decide.mpr
          (compareSms_eq_iff (numeric message mem) (numeric other (subset other memOther)))
      have stable := sorts.stable (compareSms dateParse) messages (consistent_compareSms numeric)
        message mem
      rw [level fun other memOther => (sorts.perm _ messages).mem_iff.mp memOther,
        level fun other memOther => memOther] at stable
      exact stable
  keys other perm := by
    rw [sortAndCapSms, sortAndCapSms, List.map_take, List.map_take]
    rw [sorted_keys sorts numeric (fun a _ b _ => Iff.rfl) perm]
  same distinct other perm := by
    have level : ∀ a ∈ messages, ∀ b ∈ messages,
        sortKey dateParse a = sortKey dateParse b ↔ id a = id b :=
      fun a memA b memB => ⟨distinct a memA b memB, congrArg (sortKey dateParse)⟩
    have sorted := sorted_keys sorts numeric level perm
    rw [List.map_id, List.map_id] at sorted
    rw [sortAndCapSms, sortAndCapSms, sorted]

end Order

def undated (id text : String) : SmsMessage where
  id := js id
  sender := none
  timestamp := none
  text := js text
  state := .received

def dated (id timestamp : String) : SmsMessage :=
  { undated id timestamp with timestamp := some (js timestamp) }

theorem numeric_zero (text : String) : Numeric (undated "0" text) := by
  show numberDouble (js "0") ≠ .nan
  decide

theorem ordered_prefix_epoch :
    OrderedPrefix (fun timestamp => if timestamp = js "1970-01-01" then some 0 else none)
      sortMembers [undated "0" "first", dated "0" "1970-01-01"] 1 :=
  ordered_prefix sorts_sortMembers fun message mem => by
    rcases List.mem_pair.mp mem with rfl | rfl
    · exact numeric_zero "first"
    · exact numeric_zero "1970-01-01"

/-! ### Messages that nothing tells apart -/

theorem compareSms_level {dateParse : JsString → Option Int} (id text text' : String) :
    compareSms dateParse (undated id text) (undated id text') = .eq := by
  rw [compareSms_eq]
  show numberDelta (numberDouble (js id)) (numberDouble (js id)) = .eq
  rw [numberDelta, Double.lt_irrefl]
  rfl

/-- Two undated messages of one id: each order of them comes back as it was. -/
theorem order_shows :
    (∀ message ∈ [undated "0" "first", undated "0" "second"], Numeric message) ∧
      ∀ sort, Sorts sort →
        sortAndCapSms (fun _ => none) sort [undated "0" "first", undated "0" "second"] 2 ≠
          sortAndCapSms (fun _ => none) sort [undated "0" "second", undated "0" "first"] 2 := by
  constructor
  · intro message mem
    rcases List.mem_pair.mp mem with rfl | rfl
    · exact numeric_zero "first"
    · exact numeric_zero "second"
  · intro sort sorts same
    have kept (text text' : String) :
        sort (compareSms fun _ => none) [undated "0" text, undated "0" text'] =
          [undated "0" text, undated "0" text'] := by
      refine sorts.level fun a memA b memB => ?_
      rcases List.mem_pair.mp memA with rfl | rfl <;> rcases List.mem_pair.mp memB with rfl | rfl
      all_goals exact compareSms_level "0" _ _
    rw [sortAndCapSms, sortAndCapSms, kept, kept] at same
    have texts := congrArg (List.map SmsMessage.text) same
    exact absurd texts (by decide)

end ModemStack.Sms.Ordering
