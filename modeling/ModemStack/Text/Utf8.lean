import ModemStack.Text.JsString

/-!
UTF-8 as the runtime reads and writes it.

Encoding replaces a lone surrogate by U+FFFD. Decoding is the incremental decoder
that puts one U+FFFD for each maximal piece of a character that is broken off, at
the end of the input as much as inside it. A newline byte ends whatever character
was begun, so a decoded document falls apart at its newlines
(`decodeUtf8_newline`).
-/

namespace ModemStack.Text

def replacement : UInt16 := 0xFFFD

def newline : UInt16 := 0x0A

/-! ### Encoding -/

/-- The bytes of a code point. -/
def scalarBytes (code : Nat) : List UInt8 :=
  if code < 0x80 then [UInt8.ofNat code]
  else if code < 0x800 then
    [UInt8.ofNat (0xC0 + code / 0x40), UInt8.ofNat (0x80 + code % 0x40)]
  else if code < 0x10000 then
    [UInt8.ofNat (0xE0 + code / 0x1000), UInt8.ofNat (0x80 + code / 0x40 % 0x40),
      UInt8.ofNat (0x80 + code % 0x40)]
  else
    [UInt8.ofNat (0xF0 + code / 0x40000), UInt8.ofNat (0x80 + code / 0x1000 % 0x40),
      UInt8.ofNat (0x80 + code / 0x40 % 0x40), UInt8.ofNat (0x80 + code % 0x40)]

/-- The code point a code unit on its own stands for. -/
def unitCode (c : UInt16) : Nat :=
  if isLead c || isTrail c then replacement.toNat else c.toNat

def encodeUtf8 : JsString → List UInt8
  | [] => []
  | [c] => scalarBytes (unitCode c)
  | c :: d :: rest =>
    if isLead c && isTrail d then scalarBytes (pairCode c d) ++ encodeUtf8 rest
    else scalarBytes (unitCode c) ++ encodeUtf8 (d :: rest)

/-! ### Decoding -/

/-- What the first continuation byte of a character is limited to. -/
inductive Continuation where
  | any
  | fromA0
  | upTo9F
  | from90
  | upTo8F
deriving DecidableEq

def Continuation.lower : Continuation → Nat
  | .fromA0 => 0xA0
  | .from90 => 0x90
  | _ => 0x80

def Continuation.upper : Continuation → Nat
  | .upTo9F => 0x9F
  | .upTo8F => 0x8F
  | _ => 0xBF

theorem Continuation.lower_ge (second : Continuation) : 0x80 ≤ second.lower := by
  cases second <;> decide

/-- Between characters, or inside one that still owes `more + 1` bytes. -/
inductive Utf8State where
  | start
  | owes (more code : Nat) (second : Continuation)
deriving DecidableEq

/-- The first byte of a character. -/
def firstByte (b : Nat) : JsString × Utf8State :=
  if b < 0x80 then ([UInt16.ofNat b], .start)
  else if b < 0xC2 then ([replacement], .start)
  else if b < 0xE0 then ([], .owes 0 (b - 0xC0) .any)
  else if b = 0xE0 then ([], .owes 1 0 .fromA0)
  else if b = 0xED then ([], .owes 1 0xD .upTo9F)
  else if b < 0xF0 then ([], .owes 1 (b - 0xE0) .any)
  else if b = 0xF0 then ([], .owes 2 0 .from90)
  else if b < 0xF4 then ([], .owes 2 (b - 0xF0) .any)
  else if b = 0xF4 then ([], .owes 2 4 .upTo8F)
  else ([replacement], .start)

/-- One byte: the code units it completes, and where the decoder stands after it. -/
def decodeByte : Utf8State → UInt8 → JsString × Utf8State
  | .start, b => firstByte b.toNat
  | .owes more code second, b =>
    if second.lower ≤ b.toNat ∧ b.toNat ≤ second.upper then
      match more with
      | 0 => (unitsOf (code * 0x40 + (b.toNat - 0x80)), .start)
      | more + 1 => ([], .owes more (code * 0x40 + (b.toNat - 0x80)) .any)
    else (replacement :: (firstByte b.toNat).1, (firstByte b.toNat).2)

/-- What a broken-off character leaves at the end of the input. -/
def flush : Utf8State → JsString
  | .start => []
  | .owes _ _ _ => [replacement]

def decodeFrom : Utf8State → List UInt8 → JsString
  | state, [] => flush state
  | state, b :: rest => (decodeByte state b).1 ++ decodeFrom (decodeByte state b).2 rest

def decodeUtf8 (bytes : List UInt8) : JsString := decodeFrom .start bytes

/-! ### Newlines -/

theorem decodeByte_newline (state : Utf8State) :
    decodeByte state 0x0A = (flush state ++ [newline], .start) := by
  cases state with
  | start => rfl
  | owes more code second =>
    have low : ¬ (second.lower ≤ (0x0A : UInt8).toNat ∧ (0x0A : UInt8).toNat ≤ second.upper) := by
      have := second.lower_ge
      have small : (0x0A : UInt8).toNat = 10 := rfl
      omega
    simp only [decodeByte, if_neg low]
    rfl

theorem decodeFrom_newline (state : Utf8State) (before after : List UInt8) :
    decodeFrom state (before ++ 0x0A :: after) =
      decodeFrom state before ++ newline :: decodeUtf8 after := by
  induction before generalizing state with
  | nil => simp [decodeFrom, decodeByte_newline, decodeUtf8]
  | cons b before ih => simp [decodeFrom, ih]

theorem decodeUtf8_newline (before after : List UInt8) :
    decodeUtf8 (before ++ 0x0A :: after) = decodeUtf8 before ++ newline :: decodeUtf8 after :=
  decodeFrom_newline .start before after

/-! ### One character -/

theorem toNat_byte {n : Nat} (lt : n < 0x100) : (UInt8.ofNat n).toNat = n := by
  rw [UInt8.toNat_ofNat']
  exact Nat.mod_eq_of_lt lt

theorem firstByte_two {k : Nat} (low : 2 ≤ k) (high : k < 0x20) :
    firstByte (0xC0 + k) = ([], .owes 0 k .any) := by
  simp only [firstByte]
  rw [if_neg (by omega), if_neg (by omega), if_pos (by omega)]
  simp

/-- A byte that may follow the first byte of a three-byte character. -/
theorem firstByte_three {k : Nat} (high : k < 0x10) :
    ∃ second, firstByte (0xE0 + k) = ([], .owes 1 k second) ∧
      ∀ b, 0x80 ≤ b → b ≤ 0xBF → (k = 0 → 0xA0 ≤ b) → (k = 0xD → b ≤ 0x9F) →
        second.lower ≤ b ∧ b ≤ second.upper := by
  simp only [firstByte]
  rw [if_neg (by omega), if_neg (by omega), if_neg (by omega)]
  by_cases zero : k = 0
  · subst zero
    exact ⟨.fromA0, rfl, fun b _ top low _ => ⟨low rfl, top⟩⟩
  · rw [if_neg (by omega)]
    by_cases thirteen : k = 0xD
    · subst thirteen
      exact ⟨.upTo9F, rfl, fun b low _ _ top => ⟨low, top rfl⟩⟩
    · rw [if_neg (by omega), if_pos (by omega)]
      exact ⟨.any, by simp, fun b low top _ _ => ⟨low, top⟩⟩

/-- A byte that may follow the first byte of a four-byte character. -/
theorem firstByte_four {k : Nat} (high : k < 5) :
    ∃ second, firstByte (0xF0 + k) = ([], .owes 2 k second) ∧
      ∀ b, 0x80 ≤ b → b ≤ 0xBF → (k = 0 → 0x90 ≤ b) → (k = 4 → b ≤ 0x8F) →
        second.lower ≤ b ∧ b ≤ second.upper := by
  simp only [firstByte]
  rw [if_neg (by omega), if_neg (by omega), if_neg (by omega), if_neg (by omega),
    if_neg (by omega), if_neg (by omega)]
  by_cases zero : k = 0
  · subst zero
    exact ⟨.from90, rfl, fun b _ top low _ => ⟨low rfl, top⟩⟩
  · rw [if_neg (by omega)]
    by_cases four : k = 4
    · subst four
      exact ⟨.upTo8F, rfl, fun b low _ _ top => ⟨low, top rfl⟩⟩
    · rw [if_pos (by omega)]
      exact ⟨.any, by simp, fun b low top _ _ => ⟨low, top⟩⟩

section Bytes

variable {k : Nat} {second : Continuation}

theorem decodeByte_more (more code : Nat) (lt : k < 0x40)
    (inside : second.lower ≤ 0x80 + k ∧ 0x80 + k ≤ second.upper) :
    decodeByte (.owes (more + 1) code second) (UInt8.ofNat (0x80 + k)) =
      ([], .owes more (code * 0x40 + k) .any) := by
  simp only [decodeByte, toNat_byte (show 0x80 + k < 0x100 by omega), if_pos inside]
  simp

theorem decodeByte_last (code : Nat) (lt : k < 0x40)
    (inside : second.lower ≤ 0x80 + k ∧ 0x80 + k ≤ second.upper) :
    decodeByte (.owes 0 code second) (UInt8.ofNat (0x80 + k)) =
      (unitsOf (code * 0x40 + k), .start) := by
  simp only [decodeByte, toNat_byte (show 0x80 + k < 0x100 by omega), if_pos inside]
  simp

theorem inside_any (lt : k < 0x40) :
    Continuation.any.lower ≤ 0x80 + k ∧ 0x80 + k ≤ Continuation.any.upper := by
  simp only [Continuation.lower, Continuation.upper]
  omega

end Bytes

/-- A code point that is not a surrogate. -/
def IsScalar (code : Nat) : Prop := code < 0x110000 ∧ ¬ (0xD800 ≤ code ∧ code < 0xE000)

/-- The bytes of a character take the decoder through it: nothing comes out before
its last byte, and the character comes out with that. -/
inductive Decodes : Utf8State → List UInt8 → JsString → Prop where
  | last {state : Utf8State} {b : UInt8} {units : JsString}
      (completes : decodeByte state b = (units, .start)) : Decodes state [b] units
  | more {state : Utf8State} {b : UInt8} {owed code : Nat} {second : Continuation}
      {bytes : List UInt8} {units : JsString}
      (goes : decodeByte state b = ([], .owes owed code second))
      (rest : Decodes (.owes owed code second) bytes units) : Decodes state (b :: bytes) units

theorem scalarBytes_decodes {code : Nat} (scalar : IsScalar code) :
    Decodes .start (scalarBytes code) (unitsOf code) := by
  obtain ⟨top, notSurrogate⟩ := scalar
  unfold scalarBytes
  split
  · next ascii =>
    refine .last ?_
    simp only [decodeByte, toNat_byte (show code < 0x100 by omega), firstByte, if_pos ascii,
      unitsOf, if_pos (show code < 0x10000 by omega)]
  split
  · have first : decodeByte .start (UInt8.ofNat (0xC0 + code / 0x40)) =
        ([], .owes 0 (code / 0x40) .any) := by
      rw [decodeByte, toNat_byte (by omega), firstByte_two (by omega) (by omega)]
    have last := decodeByte_last (code / 0x40) (k := code % 0x40) (by omega)
      (inside_any (by omega))
    rw [show code / 0x40 * 0x40 + code % 0x40 = code by omega] at last
    exact .more first (.last last)
  split
  · obtain ⟨second, isFirst, inside⟩ := firstByte_three (k := code / 0x1000) (by omega)
    have first : decodeByte .start (UInt8.ofNat (0xE0 + code / 0x1000)) =
        ([], .owes 1 (code / 0x1000) second) := by
      rw [decodeByte, toNat_byte (by omega), isFirst]
    have middle := decodeByte_more 0 (code / 0x1000) (k := code / 0x40 % 0x40) (by omega)
      (inside (0x80 + code / 0x40 % 0x40) (by omega) (by omega) (by omega) (by omega))
    have last := decodeByte_last (code / 0x1000 * 0x40 + code / 0x40 % 0x40)
      (k := code % 0x40) (by omega) (inside_any (by omega))
    rw [show (code / 0x1000 * 0x40 + code / 0x40 % 0x40) * 0x40 + code % 0x40 = code by omega]
      at last
    exact .more first (.more middle (.last last))
  · obtain ⟨second, isFirst, inside⟩ := firstByte_four (k := code / 0x40000) (by omega)
    have first : decodeByte .start (UInt8.ofNat (0xF0 + code / 0x40000)) =
        ([], .owes 2 (code / 0x40000) second) := by
      rw [decodeByte, toNat_byte (by omega), isFirst]
    have middle := decodeByte_more 1 (code / 0x40000) (k := code / 0x1000 % 0x40)
      (by omega) (inside (0x80 + code / 0x1000 % 0x40) (by omega) (by omega) (by omega) (by omega))
    have middle' := decodeByte_more 0
      (code / 0x40000 * 0x40 + code / 0x1000 % 0x40) (k := code / 0x40 % 0x40) (by omega)
      (inside_any (by omega))
    have last := decodeByte_last
      ((code / 0x40000 * 0x40 + code / 0x1000 % 0x40) * 0x40 + code / 0x40 % 0x40)
      (k := code % 0x40) (by omega) (inside_any (by omega))
    rw [show ((code / 0x40000 * 0x40 + code / 0x1000 % 0x40) * 0x40 + code / 0x40 % 0x40) * 0x40 +
      code % 0x40 = code by omega] at last
    exact .more first (.more middle (.more middle' (.last last)))

variable {units : JsString} {bytes : List UInt8} {torn : List UInt8} {s : JsString}

theorem Decodes.append {state : Utf8State} (decodes : Decodes state bytes units)
    (rest : List UInt8) : decodeFrom state (bytes ++ rest) = units ++ decodeUtf8 rest := by
  induction decodes with
  | last completes => simp [decodeFrom, completes, decodeUtf8]
  | more goes _ ih => simpa [decodeFrom, goes] using ih

/-- A character broken off inside leaves one replacement character. -/
theorem Decodes.broken {state : Utf8State} (decodes : Decodes state bytes units) (begun : torn ≠ [])
    (pre : torn <+: bytes) (proper : torn ≠ bytes) : decodeFrom state torn = [replacement] := by
  induction decodes generalizing torn with
  | last =>
    obtain - | ⟨b, torn⟩ := torn
    · exact absurd rfl begun
    · obtain ⟨rfl, rest⟩ := List.cons_prefix_cons.mp pre
      exact absurd (by rw [List.prefix_nil.mp rest]) proper
  | more goes decodes ih =>
    obtain - | ⟨b, torn⟩ := torn
    · exact absurd rfl begun
    · obtain ⟨rfl, rest⟩ := List.cons_prefix_cons.mp pre
      simp only [decodeFrom, goes, List.nil_append]
      by_cases ends : torn = []
      · rw [ends]
        rfl
      · exact ih ends rest fun eq => proper (by rw [eq])

/-! ### Round trip and torn texts -/

theorem encodeUtf8_unit {c : UInt16} {rest : JsString} (lead : isLead c = false)
    (trail : isTrail c = false) :
    encodeUtf8 (c :: rest) = scalarBytes c.toNat ++ encodeUtf8 rest := by
  cases rest with
  | nil | cons => simp [encodeUtf8, unitCode, lead, trail]

variable {c d : UInt16}

theorem encodeUtf8_pair {rest : JsString} (lead : isLead c = true) (trail : isTrail d = true) :
    encodeUtf8 (c :: d :: rest) = scalarBytes (pairCode c d) ++ encodeUtf8 rest := by
  simp [encodeUtf8, lead, trail]

theorem encodeUtf8_append (wf : WellFormed s) (t : JsString) :
    encodeUtf8 (s ++ t) = encodeUtf8 s ++ encodeUtf8 t := by
  induction wf with
  | nil => rfl
  | unit lead trail _ ih =>
    rw [List.cons_append, encodeUtf8_unit lead trail, encodeUtf8_unit lead trail, ih,
      List.append_assoc]
  | pair lead trail _ ih =>
    rw [List.cons_append, List.cons_append, encodeUtf8_pair lead trail,
      encodeUtf8_pair lead trail, ih, List.append_assoc]

theorem unit_isScalar {c : UInt16} (lead : isLead c = false) (trail : isTrail c = false) :
    IsScalar c.toNat := by
  have lt := c.toNat_lt
  simp only [isLead, isTrail, Bool.and_eq_false_iff, decide_eq_false_iff_not] at lead trail
  unfold IsScalar
  omega

theorem pairCode_isScalar (lead : isLead c = true) (trail : isTrail d = true) :
    IsScalar (pairCode c d) := by
  simp only [isLead, isTrail, Bool.and_eq_true, decide_eq_true_eq] at lead trail
  unfold IsScalar pairCode
  omega

theorem unit_decodes {c : UInt16} (lead : isLead c = false) (trail : isTrail c = false) :
    Decodes .start (scalarBytes c.toNat) [c] := by
  have decodes := scalarBytes_decodes (unit_isScalar lead trail)
  rwa [unitsOf_unit] at decodes

theorem pair_decodes (lead : isLead c = true) (trail : isTrail d = true) :
    Decodes .start (scalarBytes (pairCode c d)) [c, d] := by
  have decodes := scalarBytes_decodes (pairCode_isScalar lead trail)
  rwa [unitsOf_pair lead trail] at decodes

/-- Decoding gives back what was encoded, and goes on with what follows it. -/
theorem decodeUtf8_encodeUtf8_append (wf : WellFormed s) (rest : List UInt8) :
    decodeUtf8 (encodeUtf8 s ++ rest) = s ++ decodeUtf8 rest := by
  induction wf with
  | nil => rfl
  | unit lead trail _ ih =>
    rw [encodeUtf8_unit lead trail, List.append_assoc, decodeUtf8,
      (unit_decodes lead trail).append, ih]
    rfl
  | pair lead trail _ ih =>
    rw [encodeUtf8_pair lead trail, List.append_assoc, decodeUtf8,
      (pair_decodes lead trail).append, ih]
    rfl

theorem decodeUtf8_encodeUtf8 (wf : WellFormed s) : decodeUtf8 (encodeUtf8 s) = s := by
  simpa [decodeUtf8, decodeFrom, flush] using decodeUtf8_encodeUtf8_append wf []

theorem decodeFrom_owes_ne_nil {more code : Nat} {second : Continuation} :
    decodeFrom (.owes more code second) bytes ≠ [] := by
  induction bytes generalizing more code second with
  | nil => simp [decodeFrom, flush]
  | cons b bytes ih =>
    simp only [decodeFrom, decodeByte]
    split
    · cases more with
      | zero => simp [unitsOf_ne_nil]
      | succ => simpa using ih
    · simp

theorem firstByte_start {b : Nat} (ends : (firstByte b).2 = .start) : (firstByte b).1 ≠ [] := by
  unfold firstByte at ends ⊢
  repeat' split
  all_goals simp_all

/-- Bytes that are there are seen. -/
theorem decodeUtf8_ne_nil (some : bytes ≠ []) : decodeUtf8 bytes ≠ [] := by
  obtain - | ⟨b, bytes⟩ := bytes
  · exact absurd rfl some
  · simp only [decodeUtf8, decodeFrom, decodeByte]
    cases isState : (firstByte b.toNat).2 with
    | owes => simp [decodeFrom_owes_ne_nil]
    | start => simp [firstByte_start isState]

/-- A break inside the first character of a text, or after it. -/
theorem torn_append {head tail : List UInt8} (decodes : Decodes .start head units)
    (pre : torn <+: head ++ tail) (proper : torn ≠ head ++ tail) :
    decodeUtf8 torn = [] ∨ decodeUtf8 torn = [replacement] ∨
      ∃ rest, rest <+: tail ∧ rest ≠ tail ∧ decodeUtf8 torn = units ++ decodeUtf8 rest := by
  rcases List.prefix_or_prefix_of_prefix pre (List.prefix_append head tail) with inside | after
  · by_cases whole : torn = head
    · subst whole
      refine .inr (.inr ⟨[], List.nil_prefix, fun eq => proper (by simp [← eq]), ?_⟩)
      simpa [decodeUtf8] using decodes.append []
    · by_cases begun : torn = []
      · exact .inl (by rw [begun]; rfl)
      · exact .inr (.inl (decodes.broken begun inside whole))
  · obtain ⟨rest, rfl⟩ := after
    exact .inr (.inr ⟨rest, (List.prefix_append_right_inj head).mp pre,
      fun eq => proper (by rw [eq]), decodes.append rest⟩)

/-- The bytes of a text, broken off anywhere, decode to a proper beginning of the
text, perhaps with one replacement character after it. -/
theorem decodeUtf8_torn (wf : WellFormed s) (pre : torn <+: encodeUtf8 s)
    (proper : torn ≠ encodeUtf8 s) : ∃ before after, s = before ++ after ∧ after ≠ [] ∧
      (decodeUtf8 torn = before ∨ decodeUtf8 torn = before ++ [replacement]) := by
  induction wf generalizing torn with
  | nil => exact absurd (List.prefix_nil.mp pre) proper
  | @unit c rest lead trail _ ih =>
    rw [encodeUtf8_unit lead trail] at pre proper
    rcases torn_append (unit_decodes lead trail) pre proper with
      none | broken | ⟨torn', pre', proper', same⟩
    · exact ⟨[], c :: rest, rfl, by simp, .inl none⟩
    · exact ⟨[], c :: rest, rfl, by simp, .inr broken⟩
    · obtain ⟨before, after, rfl, some, decoded⟩ := ih pre' proper'
      refine ⟨c :: before, after, rfl, some, ?_⟩
      rcases decoded with decoded | decoded <;> simp [same, decoded]
  | @pair c d rest lead trail _ ih =>
    rw [encodeUtf8_pair lead trail] at pre proper
    rcases torn_append (pair_decodes lead trail) pre proper with
      none | broken | ⟨torn', pre', proper', same⟩
    · exact ⟨[], c :: d :: rest, rfl, by simp, .inl none⟩
    · exact ⟨[], c :: d :: rest, rfl, by simp, .inr broken⟩
    · obtain ⟨before, after, rfl, some, decoded⟩ := ih pre' proper'
      refine ⟨c :: d :: before, after, rfl, some, ?_⟩
      rcases decoded with decoded | decoded <;> simp [same, decoded]

end ModemStack.Text
