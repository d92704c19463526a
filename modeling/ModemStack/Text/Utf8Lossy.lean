import ModemStack.Text.Utf8

/-!
UTF-8 of what is no text, and of bytes that are none.

Decoded bytes are well formed whatever they are (`wellFormed_decodeUtf8`). A byte that begins a
character ends whatever was begun before it (`decodeUtf8_begins`), and cutting bytes in two never
decodes to less (`length_decodeUtf8_append`).
-/

namespace ModemStack.Text

/-! ### Decoded bytes are well formed -/

/-- Whatever bytes complete the character, it is one. -/
def Sound : Nat → Nat → Continuation → Prop
  | 0, code, second =>
    ∀ k < 0x40, second.lower ≤ 0x80 + k → 0x80 + k ≤ second.upper → IsScalar (code * 0x40 + k)
  | more + 1, code, second =>
    ∀ k < 0x40, second.lower ≤ 0x80 + k → 0x80 + k ≤ second.upper →
      Sound more (code * 0x40 + k) .any

def Utf8State.Sound : Utf8State → Prop
  | .start => True
  | .owes more code second => Text.Sound more code second

theorem wellFormed_replacement : WellFormed [replacement] := .unit (by decide) (by decide) .nil

theorem wellFormed_unitsOf {code : Nat} (scalar : IsScalar code) : WellFormed (unitsOf code) := by
  obtain ⟨top, notSurrogate⟩ := scalar
  unfold unitsOf
  split
  · next small =>
    have same : (UInt16.ofNat code).toNat = code := UInt16.toNat_ofNat_of_lt' small
    refine .unit ?_ ?_ .nil
    · rw [isLead, same, Bool.and_eq_false_iff, decide_eq_false_iff_not, decide_eq_false_iff_not]
      omega
    · rw [isTrail, same, Bool.and_eq_false_iff, decide_eq_false_iff_not, decide_eq_false_iff_not]
      omega
  · have lead : (UInt16.ofNat (0xD800 + (code - 0x10000) / 0x400)).toNat =
        0xD800 + (code - 0x10000) / 0x400 :=
      UInt16.toNat_ofNat_of_lt' (show _ < 0x10000 by omega)
    have trail : (UInt16.ofNat (0xDC00 + (code - 0x10000) % 0x400)).toNat =
        0xDC00 + (code - 0x10000) % 0x400 :=
      UInt16.toNat_ofNat_of_lt' (show _ < 0x10000 by omega)
    refine .pair ?_ ?_ .nil
    · rw [isLead, lead, Bool.and_eq_true, decide_eq_true_eq, decide_eq_true_eq]
      omega
    · rw [isTrail, trail, Bool.and_eq_true, decide_eq_true_eq, decide_eq_true_eq]
      omega

theorem firstByte_sound {b : Nat} (lt : b < 0x100) :
    WellFormed (firstByte b).1 ∧ (firstByte b).2.Sound := by
  unfold firstByte
  split
  · next ascii =>
    have scalar : IsScalar b := ⟨by omega, by omega⟩
    have units := wellFormed_unitsOf scalar
    rw [unitsOf, if_pos (by omega)] at units
    exact ⟨units, trivial⟩
  split
  · exact ⟨wellFormed_replacement, trivial⟩
  split
  · refine ⟨.nil, fun k small _ _ => ?_⟩
    unfold IsScalar
    omega
  split
  · refine ⟨.nil, fun k small low high k' small' _ _ => ?_⟩
    simp only [Continuation.lower, Continuation.upper] at low high
    unfold IsScalar
    omega
  split
  · refine ⟨.nil, fun k small low high k' small' _ _ => ?_⟩
    simp only [Continuation.lower, Continuation.upper] at low high
    unfold IsScalar
    omega
  split
  · refine ⟨.nil, fun k small low high k' small' _ _ => ?_⟩
    unfold IsScalar
    omega
  split
  · refine ⟨.nil, fun k small low high k' small' _ _ k'' small'' _ _ => ?_⟩
    simp only [Continuation.lower, Continuation.upper] at low high
    unfold IsScalar
    omega
  split
  · refine ⟨.nil, fun k small low high k' small' _ _ k'' small'' _ _ => ?_⟩
    unfold IsScalar
    omega
  split
  · refine ⟨.nil, fun k small low high k' small' _ _ k'' small'' _ _ => ?_⟩
    simp only [Continuation.lower, Continuation.upper] at low high
    unfold IsScalar
    omega
  · exact ⟨wellFormed_replacement, trivial⟩

theorem decodeByte_sound {state : Utf8State} (sound : state.Sound) (b : UInt8) :
    WellFormed (decodeByte state b).1 ∧ (decodeByte state b).2.Sound := by
  have first := firstByte_sound b.toNat_lt
  cases state with
  | start => exact first
  | owes more code second =>
    by_cases inside : second.lower ≤ b.toNat ∧ b.toNat ≤ second.upper
    · have low := second.lower_ge
      have high : second.upper ≤ 0xBF := by cases second <;> decide
      have isByte : 0x80 + (b.toNat - 0x80) = b.toNat := by omega
      cases more with
      | zero =>
        simp only [decodeByte, if_pos inside]
        refine ⟨wellFormed_unitsOf ?_, trivial⟩
        exact sound (b.toNat - 0x80) (by omega) (by omega) (by omega)
      | succ =>
        simp only [decodeByte, if_pos inside]
        exact ⟨.nil, sound (b.toNat - 0x80) (by omega) (by omega) (by omega)⟩
    · simp only [decodeByte, if_neg inside]
      exact ⟨wellFormed_replacement.append first.1, first.2⟩

theorem wellFormed_decodeFrom {state : Utf8State} (sound : state.Sound) (bytes : List UInt8) :
    WellFormed (decodeFrom state bytes) := by
  induction bytes generalizing state with
  | nil =>
    cases state with
    | start => exact .nil
    | owes => exact wellFormed_replacement
  | cons b rest ih =>
    obtain ⟨units, next⟩ := decodeByte_sound sound b
    exact units.append (ih next)

theorem wellFormed_decodeUtf8 (bytes : List UInt8) : WellFormed (decodeUtf8 bytes) :=
  wellFormed_decodeFrom (show Utf8State.start.Sound from trivial) bytes

/-! ### Where a character begins -/

/-- A byte that is not inside a character. -/
def Begins (b : UInt8) : Prop := b.toNat < 0x80 ∨ 0xBF < b.toNat

instance : DecidablePred Begins := fun _ => inferInstanceAs (Decidable (_ ∨ _))

variable {b : UInt8} {c : UInt16}

variable (state : Utf8State)

theorem decodeByte_begins (begins : Begins b) :
    decodeByte state b = (flush state ++ (decodeByte .start b).1, (decodeByte .start b).2) := by
  cases state with
  | start => rfl
  | owes more code second =>
    have outside : ¬ (second.lower ≤ b.toNat ∧ b.toNat ≤ second.upper) := by
      have low := second.lower_ge
      have high : second.upper ≤ 0xBF := by cases second <;> decide
      unfold Begins at begins
      omega
    simp only [decodeByte, if_neg outside]
    rfl

theorem decodeFrom_begins (before : List UInt8) (begins : Begins b)
    (after : List UInt8) : decodeFrom state (before ++ b :: after) =
      decodeFrom state before ++ decodeUtf8 (b :: after) := by
  induction before generalizing state with
  | nil => simp [decodeFrom, decodeByte_begins state begins, decodeUtf8]
  | cons first before ih => simp [decodeFrom, ih]

theorem decodeUtf8_begins (before : List UInt8) (begins : Begins b) (after : List UInt8) :
    decodeUtf8 (before ++ b :: after) = decodeUtf8 before ++ decodeUtf8 (b :: after) :=
  decodeFrom_begins .start before begins after

theorem scalarBytes_begins {code : Nat} (lt : code < 0x110000) :
    ∃ b rest, scalarBytes code = b :: rest ∧ Begins b := by
  unfold scalarBytes Begins
  split
  · exact ⟨_, _, rfl, .inl (by rw [toNat_byte] <;> omega)⟩
  split
  · exact ⟨_, _, rfl, .inr (by rw [toNat_byte] <;> omega)⟩
  split
  · exact ⟨_, _, rfl, .inr (by rw [toNat_byte] <;> omega)⟩
  · exact ⟨_, _, rfl, .inr (by rw [toNat_byte] <;> omega)⟩

/-! ### Cutting bytes in two -/

theorem length_unitsOf (code : Nat) : (unitsOf code).length ≤ 2 := by
  unfold unitsOf
  split <;> simp

theorem length_decodeFrom_owes (more code : Nat) (second : Continuation) (bytes : List UInt8) :
    (decodeFrom (.owes more code second) bytes).length ≤ 1 + (decodeUtf8 bytes).length := by
  induction bytes generalizing more code second with
  | nil => simp [decodeFrom, flush, decodeUtf8]
  | cons b rest ih =>
    by_cases inside : second.lower ≤ b.toNat ∧ b.toNat ≤ second.upper
    · -- on its own the byte is a broken character
      have low := second.lower_ge
      have high : second.upper ≤ 0xBF := by cases second <;> decide
      have alone : firstByte b.toNat = ([replacement], .start) := by
        rw [firstByte, if_neg (by omega), if_pos (by omega)]
      have own : decodeUtf8 (b :: rest) = replacement :: decodeUtf8 rest := by
        rw [decodeUtf8, decodeFrom, decodeByte, alone]
        rfl
      rw [own, List.length_cons, decodeFrom, List.length_append]
      cases more with
      | zero =>
        have short := length_unitsOf (code * 0x40 + (b.toNat - 0x80))
        simp only [decodeByte, if_pos inside]
        have rest_same : decodeFrom .start rest = decodeUtf8 rest := rfl
        rw [rest_same]
        omega
      | succ more =>
        have rest_short := ih more (code * 0x40 + (b.toNat - 0x80)) .any
        simp only [decodeByte, if_pos inside, List.length_nil]
        omega
    · have own : decodeUtf8 (b :: rest) =
          (firstByte b.toNat).1 ++ decodeFrom (firstByte b.toNat).2 rest := rfl
      rw [own, decodeFrom]
      simp only [decodeByte, if_neg inside, List.length_append, List.length_cons]
      omega

theorem length_decodeFrom_append (left right : List UInt8) :
    (decodeFrom state (left ++ right)).length ≤
      (decodeFrom state left).length + (decodeUtf8 right).length := by
  induction left generalizing state with
  | nil =>
    cases state with
    | start => simp [decodeFrom, flush, decodeUtf8]
    | owes more code second => exact length_decodeFrom_owes more code second right
  | cons b rest ih =>
    have shorter := ih (decodeByte state b).2
    rw [List.cons_append, decodeFrom, decodeFrom, List.length_append, List.length_append]
    omega

theorem length_decodeUtf8_append (left right : List UInt8) :
    (decodeUtf8 (left ++ right)).length ≤ (decodeUtf8 left).length + (decodeUtf8 right).length :=
  length_decodeFrom_append .start left right

theorem length_decodeUtf8_single (b : UInt8) : (decodeUtf8 [b]).length ≤ 1 := by
  rw [decodeUtf8, decodeFrom, decodeByte, decodeFrom]
  unfold firstByte
  repeat' split
  all_goals simp [flush]

/-! ### Well-formed parts -/

variable {s : JsString}

theorem WellFormed.after_unit (whole : WellFormed (c :: s)) (lead : isLead c = false) :
    WellFormed s := by
  cases whole with
  | unit _ _ tail => exact tail
  | pair isLead => exact absurd (lead.symm.trans isLead) (by decide)

theorem WellFormed.after_pair {c d : UInt16} (whole : WellFormed (c :: d :: s))
    (lead : isLead c = true) : WellFormed s := by
  cases whole with
  | unit notLead => exact absurd (notLead.symm.trans lead) (by decide)
  | pair _ _ tail => exact tail

theorem WellFormed.of_append {s t : JsString} (whole : WellFormed (s ++ t)) (left : WellFormed s) :
    WellFormed t := by
  induction left with
  | nil => exact whole
  | unit lead _ _ ih => exact ih (WellFormed.after_unit whole lead)
  | pair lead _ _ ih => exact ih (WellFormed.after_pair whole lead)

theorem WellFormed.head (whole : WellFormed (c :: s)) : isTrail c = false := by
  cases whole with
  | unit _ trail => exact trail
  | pair lead _ _ =>
    simp only [isLead, isTrail, Bool.and_eq_true, Bool.and_eq_false_iff, decide_eq_true_eq,
      decide_eq_false_iff_not] at lead ⊢
    omega

/-- A text is well formed before a unit that ends no pair. -/
theorem WellFormed.before {s t : JsString} (whole : WellFormed (s ++ c :: t))
    (notTrail : isTrail c = false) : WellFormed s := by
  generalize isWhole : s ++ c :: t = u at whole
  induction whole generalizing s with
  | nil => exact absurd isWhole (by simp)
  | unit lead trail _ ih =>
    cases s with
    | nil => exact .nil
    | cons =>
      obtain ⟨rfl, rest⟩ := List.cons.inj isWhole
      exact .unit lead trail (ih rest)
  | pair lead trail _ ih =>
    cases s with
    | nil => exact .nil
    | cons first s =>
      obtain ⟨rfl, rest⟩ := List.cons.inj isWhole
      cases s with
      | nil =>
        obtain ⟨rfl, _⟩ := List.cons.inj rest
        exact absurd (notTrail.symm.trans trail) (by decide)
      | cons =>
        obtain ⟨rfl, rest'⟩ := List.cons.inj rest
        exact .pair lead trail (ih rest')

/-! ### What encoding keeps -/

/-- A lone surrogate is replaced. -/
def toWellFormed : JsString → JsString
  | [] => []
  | [c] => [if isLead c || isTrail c then replacement else c]
  | c :: d :: rest =>
    if isLead c && isTrail d then c :: d :: toWellFormed rest
    else (if isLead c || isTrail c then replacement else c) :: toWellFormed (d :: rest)

attribute [local simp] toWellFormed

theorem length_toWellFormed (s : JsString) : (toWellFormed s).length = s.length := by
  induction s using toWellFormed.induct with
  | case1 => rfl
  | case2 => rfl
  | case3 c d rest pair ih => simp [pair, ih]
  | case4 c d rest single ih => simp [single, ih]

theorem toWellFormed_cons (c : UInt16) (s : JsString) :
    ∃ first rest, toWellFormed (c :: s) = first :: rest ∧ (first = c ∨ first = replacement) := by
  have kept : (if isLead c || isTrail c then replacement else c) = c ∨
      (if isLead c || isTrail c then replacement else c) = replacement := by
    split
    · exact .inr rfl
    · exact .inl rfl
  cases s with
  | nil => exact ⟨_, _, rfl, kept⟩
  | cons =>
    rw [toWellFormed]
    split
    · exact ⟨_, _, rfl, .inl rfl⟩
    · exact ⟨_, _, rfl, kept⟩

theorem wellFormed_cons_replaced (c : UInt16) (wf : WellFormed s) :
    WellFormed ((if isLead c || isTrail c then replacement else c) :: s) := by
  by_cases surrogate : (isLead c || isTrail c) = true
  · rw [if_pos surrogate]
    exact wellFormed_replacement.append wf
  · rw [if_neg surrogate]
    rw [Bool.not_eq_true, Bool.or_eq_false_iff] at surrogate
    exact .unit surrogate.1 surrogate.2 wf

theorem wellFormed_toWellFormed (s : JsString) : WellFormed (toWellFormed s) := by
  induction s using toWellFormed.induct with
  | case1 => exact .nil
  | case2 c => exact wellFormed_cons_replaced c .nil
  | case3 c d rest pair ih =>
    rw [toWellFormed, if_pos pair]
    rw [Bool.and_eq_true] at pair
    exact .pair pair.1 pair.2 ih
  | case4 c d rest single ih =>
    rw [toWellFormed, if_neg single]
    exact wellFormed_cons_replaced c ih

theorem toWellFormed_eq_self (wf : WellFormed s) : toWellFormed s = s := by
  induction wf with
  | nil => rfl
  | @unit c rest lead trail _ ih =>
    cases rest with
    | nil => simp [lead, trail]
    | cons => simp [lead, trail, ih]
  | pair lead trail _ ih => simp [lead, trail, ih]

theorem encodeUtf8_replaced (c : UInt16) (s : JsString) :
    encodeUtf8 ((if isLead c || isTrail c then replacement else c) :: s) =
      scalarBytes (unitCode c) ++ encodeUtf8 s := by
  rw [unitCode]
  by_cases surrogate : (isLead c || isTrail c) = true
  · rw [if_pos surrogate, if_pos surrogate]
    exact encodeUtf8_unit (by decide) (by decide)
  · rw [if_neg surrogate, if_neg surrogate]
    rw [Bool.not_eq_true, Bool.or_eq_false_iff] at surrogate
    exact encodeUtf8_unit surrogate.1 surrogate.2

theorem encodeUtf8_toWellFormed (s : JsString) : encodeUtf8 (toWellFormed s) = encodeUtf8 s := by
  induction s using toWellFormed.induct with
  | case1 => rfl
  | case2 => rw [toWellFormed, encodeUtf8_replaced, encodeUtf8, encodeUtf8, List.append_nil]
  | case3 c d rest pair ih =>
    rw [toWellFormed, if_pos pair, encodeUtf8, if_pos pair, encodeUtf8, if_pos pair, ih]
  | case4 c d rest single ih =>
    rw [toWellFormed, if_neg single, encodeUtf8_replaced, encodeUtf8, if_neg single, ih]

theorem decodeUtf8_encodeUtf8_lossy (s : JsString) (rest : List UInt8) :
    decodeUtf8 (encodeUtf8 s ++ rest) = toWellFormed s ++ decodeUtf8 rest := by
  rw [← encodeUtf8_toWellFormed, decodeUtf8_encodeUtf8_append (wellFormed_toWellFormed s)]

theorem encodeUtf8_begins (c : UInt16) (s : JsString) :
    ∃ b rest, encodeUtf8 (c :: s) = b :: rest ∧ Begins b := by
  have unit : unitCode c < 0x110000 := by
    have lt := c.toNat_lt
    have isReplacement : replacement.toNat = 0xFFFD := rfl
    unfold unitCode
    split <;> omega
  cases s with
  | nil =>
    obtain ⟨b, rest, same, begins⟩ := scalarBytes_begins unit
    exact ⟨b, rest, same, begins⟩
  | cons d s =>
    rw [encodeUtf8]
    split
    · next pair =>
      rw [Bool.and_eq_true] at pair
      obtain ⟨b, rest, same, begins⟩ := scalarBytes_begins (pairCode_isScalar pair.1 pair.2).1
      exact ⟨b, rest ++ encodeUtf8 s, by rw [same]; rfl, begins⟩
    · obtain ⟨b, rest, same, begins⟩ := scalarBytes_begins unit
      exact ⟨b, rest ++ encodeUtf8 (d :: s), by rw [same]; rfl, begins⟩

end ModemStack.Text
