import Mathlib.Algebra.Group.Int.Defs
import Mathlib.Algebra.Group.Nat.Defs
import Mathlib.Data.List.Lex

/-!
JavaScript strings: sequences of UTF-16 code units, well formed or not.
-/

namespace ModemStack.Text

/-- A JavaScript string. -/
abbrev JsString := List UInt16

instance : LawfulBEq JsString := inferInstance

/-- The code units of a code point: one, or a surrogate pair. -/
def unitsOf (code : Nat) : JsString :=
  if code < 0x10000 then [UInt16.ofNat code]
  else [UInt16.ofNat (0xD800 + (code - 0x10000) / 0x400),
    UInt16.ofNat (0xDC00 + (code - 0x10000) % 0x400)]

/-- The JavaScript string of a literal. -/
def js (s : String) : JsString := s.toList.flatMap fun c => unitsOf c.toNat

/-! ### White space, case and order -/

/-- The characters `trim` removes. -/
def isJsSpace (c : UInt16) : Bool :=
  (0x09 ≤ c.toNat && c.toNat ≤ 0x0D) || c = 0x20 || c = 0xA0 || c = 0x1680 ||
    (0x2000 ≤ c.toNat && c.toNat ≤ 0x200A) || c = 0x2028 || c = 0x2029 || c = 0x202F ||
    c = 0x205F || c = 0x3000 || c = 0xFEFF

/-- A string without the white space at its ends. -/
def trim (s : JsString) : JsString :=
  ((s.dropWhile isJsSpace).reverse.dropWhile isJsSpace).reverse

/-- `toLowerCase` of ASCII text. -/
def lowerAscii (text : JsString) : JsString :=
  text.map fun c => if 0x41 ≤ c.toNat ∧ c.toNat ≤ 0x5A then UInt16.ofNat (c.toNat + 0x20) else c

/-- The order of `sort()`: by code units. -/
def unitsLe (left right : JsString) : Bool :=
  decide (left.map UInt16.toNat ≤ right.map UInt16.toNat)

/-! ### Surrogates -/

def isLead (c : UInt16) : Bool := 0xD800 ≤ c.toNat && c.toNat < 0xDC00

def isTrail (c : UInt16) : Bool := 0xDC00 ≤ c.toNat && c.toNat < 0xE000

/-- The code point of a surrogate pair. -/
def pairCode (lead trail : UInt16) : Nat :=
  0x10000 + (lead.toNat - 0xD800) * 0x400 + (trail.toNat - 0xDC00)

/-- Every surrogate stands in a pair. -/
inductive WellFormed : JsString → Prop where
  | nil : WellFormed []
  | unit {c : UInt16} {rest : JsString} (lead : isLead c = false) (trail : isTrail c = false)
      (tail : WellFormed rest) : WellFormed (c :: rest)
  | pair {c d : UInt16} {rest : JsString} (lead : isLead c = true) (trail : isTrail d = true)
      (tail : WellFormed rest) : WellFormed (c :: d :: rest)

theorem unitsOf_unit (c : UInt16) : unitsOf c.toNat = [c] := by
  have lt := c.toNat_lt
  simp [unitsOf, lt]

theorem unitsOf_pair {c d : UInt16} (lead : isLead c = true) (trail : isTrail d = true) :
    unitsOf (pairCode c d) = [c, d] := by
  simp only [isLead, isTrail, Bool.and_eq_true, decide_eq_true_eq] at lead trail
  have large : ¬ pairCode c d < 0x10000 := by unfold pairCode; omega
  have first : 0xD800 + (pairCode c d - 0x10000) / 0x400 = c.toNat := by unfold pairCode; omega
  have second : 0xDC00 + (pairCode c d - 0x10000) % 0x400 = d.toNat := by unfold pairCode; omega
  simp [unitsOf, large, first, second]

/-- The code units of a code point are not the start of those of another. -/
theorem unitsOf_append_inj {c d : Char} {s t : JsString}
    (same : unitsOf c.toNat ++ s = unitsOf d.toNat ++ t) : c = d ∧ s = t := by
  have validC : c.toNat < 0xD800 ∨ 0xDFFF < c.toNat ∧ c.toNat < 0x110000 := c.valid
  have validD : d.toNat < 0xD800 ∨ 0xDFFF < d.toNat ∧ d.toNat < 0x110000 := d.valid
  unfold unitsOf at same
  split at same <;> split at same <;>
    simp only [List.cons_append, List.nil_append, List.cons.injEq] at same
  · next small small' =>
      have sameUnit := congrArg UInt16.toNat same.1
      rw [UInt16.toNat_ofNat_of_lt' small, UInt16.toNat_ofNat_of_lt' small'] at sameUnit
      exact ⟨Char.toNat_inj.mp sameUnit, same.2⟩
  -- a surrogate is no code point
  · have sameUnit := congrArg UInt16.toNat same.1
    simp only [UInt16.toNat_ofNat'] at sameUnit
    omega
  · have sameUnit := congrArg UInt16.toNat same.1
    simp only [UInt16.toNat_ofNat'] at sameUnit
    omega
  · obtain ⟨lead, trail, sameRest⟩ := same
    have sameLead := congrArg UInt16.toNat lead
    have sameTrail := congrArg UInt16.toNat trail
    simp only [UInt16.toNat_ofNat'] at sameLead sameTrail
    have sameCode : c.toNat = d.toNat := by omega
    exact ⟨Char.toNat_inj.mp sameCode, sameRest⟩

theorem unitsOf_ne_nil (code : Nat) : unitsOf code ≠ [] := by
  unfold unitsOf
  split <;> simp

theorem flatMap_unitsOf_inj : ∀ {s t : List Char},
    (s.flatMap fun c => unitsOf c.toNat) = (t.flatMap fun c => unitsOf c.toNat) → s = t
  | [], [], _ => rfl
  | [], d :: t, same => by
    simp [unitsOf_ne_nil] at same
  | c :: s, [], same => by
    simp [unitsOf_ne_nil] at same
  | c :: s, d :: t, same => by
    rw [List.flatMap_cons, List.flatMap_cons] at same
    obtain ⟨sameHead, sameRest⟩ := unitsOf_append_inj same
    rw [sameHead, flatMap_unitsOf_inj sameRest]

/-- Different literals are different strings. -/
theorem js_inj {s t : String} : js s = js t ↔ s = t := by
  constructor
  · intro same
    exact String.toList_inj.mp (flatMap_unitsOf_inj same)
  · intro same
    rw [same]

/-- What is joined by a unit and cut there comes apart into the pieces of each part. -/
theorem splitOn_join {α : Type} [BEq α] [LawfulBEq α] {sep : α} {parts : List (List α)}
    (some : parts ≠ []) :
    ([sep].intercalate parts).splitOn sep = parts.flatMap fun part => part.splitOn sep := by
  induction parts with
  | nil => exact absurd rfl some
  | cons first rest ih =>
    cases rest with
    | nil => simp
    | cons =>
      rw [List.intercalate_cons_cons, List.append_assoc, List.singleton_append,
        List.splitOn_append_cons_self, ih (List.cons_ne_nil _ _)]
      rfl

theorem WellFormed.append {s t : JsString} (left : WellFormed s) (right : WellFormed t) :
    WellFormed (s ++ t) := by
  induction left with
  | nil => exact right
  | unit lead trail _ ih => exact .unit lead trail ih
  | pair lead trail _ ih => exact .pair lead trail ih

end ModemStack.Text
