import ModemStack.Text.DoubleSum
import ModemStack.Text.NumericString
import ModemStack.Text.Trim

/-!
The last position in a block of receiver sentences.

A line is valid that is written by the format. The parser takes what its number readers take,
which is more: they read the head of a field and leave the rest. What it answers is right just
where the last line that it takes is valid, or is read as the last valid one is.
-/

namespace ModemStack.Location.Nmea

open ModemStack.Text

def dollarSign : UInt16 := 0x24

def asterisk : UInt16 := 0x2A

structure NmeaFix where
  latitude : Double
  longitude : Double
  altitude : Option Double
deriving DecidableEq

def NmeaFix.position (fix : NmeaFix) : Double × Double := (fix.latitude, fix.longitude)

/-! ### The parser -/

/-- XOR of every code unit. -/
def checksumOf (body : JsString) : UInt16 := body.foldl (fun sum c => sum ^^^ c) 0

def lastIndexOf (unit : UInt16) : JsString → Option Nat
  | [] => none
  | c :: rest =>
    match lastIndexOf unit rest with
    | some i => some (i + 1)
    | none => if c = unit then some 0 else none

def verifiedBody (sentence : JsString) : Option JsString :=
  let trimmed := trim sentence
  if trimmed.head? ≠ some dollarSign then none
  else
    match lastIndexOf asterisk trimmed with
    | none => none
    | some star =>
      let body := (trimmed.take star).drop 1
      match parseInt 16 ((trimmed.drop (star + 1)).take 2) with
      | none => none
      | some declared => if ((checksumOf body).toNat : Int) ≠ declared then none else some body

/-- `degrees + minutes / 60` -/
def magnitude (degrees minutes : Double) : Double := degrees.add (minutes.divNatural 60)

def toDegrees (value hemisphere : JsString) (degreeDigits : Nat) : Option Double :=
  if value.length < degreeDigits + 1 then none
  else
    let degrees := parseFloat (value.take degreeDigits)
    let minutes := parseFloat (value.drop degreeDigits)
    if !degrees.isFinite || !minutes.isFinite then none
    else
      let size := magnitude degrees minutes
      some (if hemisphere = js "S" ∨ hemisphere = js "W" then size.neg else size)

/-- `Number.parseInt(text, 10)` -/
def integerOf (text : JsString) : Double :=
  match parseInt 10 text with
  | none => .nan
  | some n => Double.ofRat n

/-- `fields[n] ?? ''` -/
def field (fields : List JsString) (n : Nat) : JsString := fields.getD n []

def parseGga (fields : List JsString) : Option NmeaFix :=
  let quality := integerOf (field fields 6)
  if !quality.isFinite || quality.le (.finite 0) then none
  else
    match toDegrees (field fields 2) (field fields 3) 2,
      toDegrees (field fields 4) (field fields 5) 3 with
    | some latitude, some longitude =>
      if (Double.finite 90).lt latitude.abs || (Double.finite 180).lt longitude.abs then none
      else
        let altitude := parseFloat (field fields 9)
        some ⟨latitude, longitude, if altitude.isFinite then some altitude else none⟩
    | _, _ => none

def isLineBreak (c : UInt16) : Bool := c = 0x0D || c = 0x0A

/-- `text.split(/[\r\n]+/)` -/
def splitLines : JsString → List JsString
  | [] => [[]]
  | c :: rest =>
    if isLineBreak c then
      if rest.head?.any isLineBreak then splitLines rest else [] :: splitLines rest
    else
      match splitLines rest with
      | [] => [[c]]
      | line :: lines => (c :: line) :: lines

def isGga (type : JsString) : Bool := type.length = 5 && (js "GGA").isSuffixOf type

/-- The fix of one line, or the latest one before it. -/
def stepLine (latest : Option NmeaFix) (line : JsString) : Option NmeaFix :=
  match verifiedBody line with
  | none => latest
  | some body =>
    let fields := body.splitOn comma
    if !isGga (field fields 0) then latest
    else
      match parseGga fields with
      | some fix => some fix
      | none => latest

def parseNmeaFix (text : JsString) : Option NmeaFix := (splitLines text).foldl stepLine none

/-! ### What a line says -/

def InRange (position : Double × Double) : Prop :=
  position.1.abs.le (.finite 90) = true ∧ position.2.abs.le (.finite 180) = true

def bodyField (body : JsString) (n : Nat) : JsString := field (body.splitOn comma) n

/-- Degrees of so many digits, two digits of minutes below 60, a point and any digits, with the
letter of one of the hemispheres. -/
def Coordinate (degreeDigits : Nat) (positive negative value hemisphere : JsString)
    (coordinate : Double) : Prop :=
  ∃ degrees minutes fraction : JsString,
    value = degrees ++ (minutes ++ fullStop :: fraction) ∧
      degrees.length = degreeDigits ∧ minutes.length = 2 ∧
      (∀ c ∈ degrees ++ minutes ++ fraction, isDigitUnit c = true) ∧
      decimalValue minutes < 60 ∧
      let size := magnitude (.finite (decimalValue degrees))
        (Double.nearest (decimalValue (minutes ++ fraction)) (10 ^ fraction.length))
      (hemisphere = positive ∧ coordinate = size ∨
        hemisphere = negative ∧ coordinate = size.neg)

/-- A sentence that is written by the format. -/
structure ValidSentence (line body digits : JsString) (position : Double × Double) : Prop where
  line : line = dollarSign :: (body ++ asterisk :: digits)
  checksum : ∃ c d m n, digits = [c, d] ∧ hexValue c = some m ∧ hexValue d = some n ∧
    m * 16 + n = (checksumOf body).toNat
  type : isGga (bodyField body 0) = true
  quality : isNumeral (bodyField body 6) = true ∧ 0 < decimalValue (bodyField body 6)
  latitude : Coordinate 2 (js "N") (js "S") (bodyField body 2) (bodyField body 3) position.1
  longitude : Coordinate 3 (js "E") (js "W") (bodyField body 4) (bodyField body 5) position.2
  range : InRange position

def Valid (line : JsString) (position : Double × Double) : Prop :=
  ∃ body digits, ValidSentence line body digits position

/-- Numbers at the head of the degrees and at the head of what follows them. -/
structure LooseCoordinate (degreeDigits : Nat) (value hemisphere : JsString)
    (coordinate : Double) : Prop where
  length : degreeDigits < value.length
  degrees : (parseFloat (value.take degreeDigits)).isFinite = true
  minutes : (parseFloat (value.drop degreeDigits)).isFinite = true
  coordinate :
    let size := magnitude (parseFloat (value.take degreeDigits))
      (parseFloat (value.drop degreeDigits))
    coordinate = if hemisphere = js "S" ∨ hemisphere = js "W" then size.neg else size

/-- A sentence that the number readers can read, whatever its quality: white space around it, a
checksum that two code units begin with, and numbers at the heads of the fields. -/
structure LooseSentence (line body tail : JsString) (position : Double × Double) : Prop where
  line : trim line = dollarSign :: (body ++ asterisk :: tail)
  last : asterisk ∉ tail
  checksum : parseInt 16 (tail.take 2) = some ((checksumOf body).toNat : Int)
  type : isGga (bodyField body 0) = true
  latitude : LooseCoordinate 2 (bodyField body 2) (bodyField body 3) position.1
  longitude : LooseCoordinate 3 (bodyField body 4) (bodyField body 5) position.2
  range : InRange position

/-- A loose sentence with a quality above 0 that is a finite number. -/
def Taken (line : JsString) (position : Double × Double) : Prop :=
  ∃ body tail, LooseSentence line body tail position ∧
    (integerOf (bodyField body 6)).isFinite = true ∧
    (integerOf (bodyField body 6)).le (.finite 0) = false

/-! ### The latest of a list -/

section Latest

variable {α β : Type}

/-- An item has one value at most. -/
def Functional (has : α → β → Prop) : Prop :=
  ∀ item value other, has item value → has item other → value = other

/-- The value of the first item that has one. -/
def Latest (has : α → β → Prop) : List α → β → Prop
  | [], _ => False
  | item :: older, value => has item value ∨ (∀ other, ¬ has item other) ∧ Latest has older value

/-- The first item that is valid or taken is both. Or else what the other sense has further on
comes to the same value. -/
inductive Settled (valid taken : α → β → Prop) : List α → Prop where
  | nil : Settled valid taken []
  | skip {item older} (invalid : ∀ value, ¬ valid item value)
      (untaken : ∀ value, ¬ taken item value) (rest : Settled valid taken older) :
      Settled valid taken (item :: older)
  | both {item older value} (isValid : valid item value) (isTaken : taken item value) :
      Settled valid taken (item :: older)
  | onlyValid {item older value} (isValid : valid item value)
      (untaken : ∀ value, ¬ taken item value) (same : Latest taken older value) :
      Settled valid taken (item :: older)
  | onlyTaken {item older value} (invalid : ∀ value, ¬ valid item value)
      (isTaken : taken item value) (same : Latest valid older value) :
      Settled valid taken (item :: older)

variable {has valid taken : α → β → Prop} {items : List α}

theorem latest_none : (∀ value, ¬ Latest has items value) ↔
    ∀ item ∈ items, ∀ value, ¬ has item value := by
  induction items with
  | nil => simp [Latest]
  | cons item older ih =>
    rw [List.forall_mem_cons, ← ih]
    constructor
    · intro none
      have silent : ∀ value, ¬ has item value := fun value here => none value (.inl here)
      exact ⟨silent, fun value later => none value (.inr ⟨silent, later⟩)⟩
    · rintro ⟨silent, none⟩ value (here | ⟨-, later⟩)
      · exact silent value here
      · exact none value later

theorem latest_exists {value : β} (latest : Latest has items value) :
    ∃ item ∈ items, has item value := by
  induction items with
  | nil => exact latest.elim
  | cons item older ih =>
    rcases latest with here | ⟨-, later⟩
    · exact ⟨item, List.mem_cons_self, here⟩
    · obtain ⟨found, mem, hasValue⟩ := ih later
      exact ⟨found, List.mem_cons_of_mem _ mem, hasValue⟩

theorem latest_unique (unique : Functional has) {value other : β} (latest : Latest has items value)
    (latest' : Latest has items other) : value = other := by
  induction items with
  | nil => exact latest.elim
  | cons item older ih =>
    rcases latest with here | ⟨silent, later⟩
    · rcases latest' with here' | ⟨silent, -⟩
      · exact unique item value other here here'
      · exact absurd here (silent value)
    · rcases latest' with here' | ⟨-, later'⟩
      · exact absurd here' (silent other)
      · exact ih later later'

theorem latest_cons (unique : Functional has) {item : α} {value : β} (here : has item value)
    {other : β} : Latest has (item :: items) other ↔ value = other := by
  have first : Latest has (item :: items) value := Or.inl here
  constructor
  · exact latest_unique unique first
  · rintro rfl
    exact first

theorem latest_skip {item : α} (silent : ∀ value, ¬ has item value) {value : β} :
    Latest has (item :: items) value ↔ Latest has items value := by
  constructor
  · rintro (here | ⟨-, later⟩)
    · exact absurd here (silent value)
    · exact later
  · exact fun later => .inr ⟨silent, later⟩

/-- The two senses have the same latest value just if the list is settled. -/
theorem settled_iff (unique : Functional valid) (unique' : Functional taken)
    (agree : ∀ item value other, valid item value → taken item other → value = other) :
    (∀ value, Latest taken items value ↔ Latest valid items value) ↔
      Settled valid taken items := by
  induction items with
  | nil => exact ⟨fun _ => .nil, fun _ _ => Iff.rfl⟩
  | cons item older ih =>
    by_cases isValid : ∃ value, valid item value
    · obtain ⟨value, isValid⟩ := isValid
      by_cases isTaken : ∃ value, taken item value
      · obtain ⟨other, isTaken⟩ := isTaken
        cases agree item value other isValid isTaken
        refine ⟨fun _ => .both isValid isTaken, fun _ found => ?_⟩
        rw [latest_cons unique isValid, latest_cons unique' isTaken]
      · have untaken := not_exists.mp isTaken
        constructor
        · intro same
          refine .onlyValid isValid untaken ?_
          exact (latest_skip untaken).mp ((same value).mpr (.inl isValid))
        · intro settled found
          cases settled with
          | skip invalid => exact absurd isValid (invalid value)
          | both _ isTaken => exact absurd isTaken (untaken _)
          | onlyTaken invalid => exact absurd isValid (invalid value)
          | onlyValid isValid' _ same =>
            cases unique item _ _ isValid isValid'
            rw [latest_cons unique isValid, latest_skip untaken]
            exact ⟨latest_unique unique' same, fun isFound => isFound ▸ same⟩
    · have invalid := not_exists.mp isValid
      by_cases isTaken : ∃ value, taken item value
      · obtain ⟨value, isTaken⟩ := isTaken
        constructor
        · intro same
          refine .onlyTaken invalid isTaken ?_
          exact (latest_skip invalid).mp ((same value).mp (.inl isTaken))
        · intro settled found
          cases settled with
          | skip _ untaken => exact absurd isTaken (untaken value)
          | both isValid | onlyValid isValid => exact absurd isValid (invalid _)
          | onlyTaken _ isTaken' same =>
            cases unique' item _ _ isTaken isTaken'
            rw [latest_cons unique' isTaken, latest_skip invalid]
            exact ⟨fun isFound => isFound ▸ same, latest_unique unique same⟩
      · have untaken := not_exists.mp isTaken
        have rest : (∀ value, Latest taken (item :: older) value ↔
            Latest valid (item :: older) value) ↔
            ∀ value, Latest taken older value ↔ Latest valid older value :=
          forall_congr' fun value => by rw [latest_skip untaken, latest_skip invalid]
        rw [rest, ih]
        refine ⟨.skip invalid untaken, fun settled => ?_⟩
        cases settled with
        | skip _ _ rest => exact rest
        | both isValid | onlyValid isValid => exact absurd isValid (invalid _)
        | onlyTaken _ isTaken => exact absurd isTaken (untaken _)

end Latest

/-! ### What the parser takes -/

variable {text : JsString} {unit : UInt16} {coordinate : Double} {value hemisphere : JsString}
  {degreeDigits : Nat}

theorem lastIndexOf_eq_none : lastIndexOf unit text = none ↔ unit ∉ text := by
  induction text with
  | nil => simp [lastIndexOf]
  | cons c rest ih =>
    rw [lastIndexOf, List.mem_cons, not_or, ← ih]
    cases lastIndexOf unit rest with
    | some => simp
    | none => simp [eq_comm]

theorem lastIndexOf_append {after : JsString} (last : unit ∉ after) (before : JsString) :
    lastIndexOf unit (before ++ unit :: after) = some before.length := by
  induction before with
  | nil =>
    rw [List.nil_append, lastIndexOf, lastIndexOf_eq_none.mpr last]
    exact if_pos rfl
  | cons c before ih =>
    rw [List.cons_append, lastIndexOf, ih]
    rfl

theorem exists_of_lastIndexOf {i : Nat} (found : lastIndexOf unit text = some i) :
    ∃ before after, text = before ++ unit :: after ∧ unit ∉ after ∧ i = before.length := by
  induction text generalizing i with
  | nil => cases found
  | cons c rest ih =>
    rw [lastIndexOf] at found
    cases further : lastIndexOf unit rest with
    | some =>
      rw [further] at found
      cases found
      obtain ⟨before, after, rfl, last, rfl⟩ := ih further
      exact ⟨c :: before, after, rfl, last, rfl⟩
    | none =>
      rw [further] at found
      dsimp only at found
      split at found
      · next same =>
        cases found
        subst same
        exact ⟨[], rest, rfl, lastIndexOf_eq_none.mp further, rfl⟩
      · cases found

/-- What is cut out of a frame. -/
theorem frame_slices (body tail : JsString) :
    ((dollarSign :: (body ++ asterisk :: tail)).take (dollarSign :: body).length).drop 1 = body ∧
      (dollarSign :: (body ++ asterisk :: tail)).drop ((dollarSign :: body).length + 1) = tail := by
  simp

theorem verifiedBody_eq_some {sentence body : JsString} : verifiedBody sentence = some body ↔
    ∃ tail, trim sentence = dollarSign :: (body ++ asterisk :: tail) ∧ asterisk ∉ tail ∧
      parseInt 16 (tail.take 2) = some ((checksumOf body).toNat : Int) := by
  constructor
  · intro verified
    unfold verifiedBody at verified
    dsimp only at verified
    split at verified
    · cases verified
    next dollar =>
    split at verified
    · cases verified
    next star atStar =>
    split at verified
    · cases verified
    next declared isDeclared =>
    split at verified
    · cases verified
    next sum =>
    cases verified
    obtain ⟨before, tail, isTrimmed, last, rfl⟩ := exists_of_lastIndexOf atStar
    rw [not_not] at dollar sum
    rw [isTrimmed] at dollar isDeclared sum ⊢
    cases before with
    | nil => cases dollar
    | cons c body =>
      cases dollar
      rw [List.cons_append, (frame_slices body tail).2] at isDeclared
      rw [List.cons_append, (frame_slices body tail).1] at sum ⊢
      rw [← sum] at isDeclared
      exact ⟨tail, rfl, last, isDeclared⟩
  · rintro ⟨tail, isTrimmed, last, sum⟩
    have star := lastIndexOf_append last (dollarSign :: body)
    rw [List.cons_append] at star
    unfold verifiedBody
    rw [isTrimmed]
    dsimp only
    rw [if_neg (not_not.mpr (List.head?_cons ..)), star]
    dsimp only
    rw [(frame_slices body tail).2, sum, (frame_slices body tail).1]
    exact if_neg (not_not.mpr rfl)

theorem toDegrees_eq_some : toDegrees value hemisphere degreeDigits = some coordinate ↔
      LooseCoordinate degreeDigits value hemisphere coordinate := by
  unfold toDegrees
  dsimp only
  constructor
  · intro read
    split at read
    · cases read
    next long =>
    split at read
    · cases read
    next finite =>
    cases read
    rw [Bool.not_eq_true, Bool.or_eq_false_iff, Bool.not_eq_false', Bool.not_eq_false'] at finite
    exact ⟨Nat.lt_of_succ_le (Nat.le_of_not_lt long), finite.1, finite.2, rfl⟩
  · intro loose
    rw [if_neg (Nat.not_lt.mpr (Nat.succ_le_of_lt loose.length)), loose.degrees, loose.minutes,
      loose.coordinate]
    rfl

theorem LooseCoordinate.ne_nan (loose : LooseCoordinate degreeDigits value hemisphere coordinate) :
    coordinate ≠ .nan := by
  have minutes : parseFloat (value.drop degreeDigits) ≠ .nan := by
    intro isNan
    have finite := loose.minutes
    rw [isNan] at finite
    cases finite
  have size : magnitude (parseFloat (value.take degreeDigits))
      (parseFloat (value.drop degreeDigits)) ≠ .nan :=
    Double.sub_ne_nan loose.degrees (Double.neg_ne_nan.mpr (Double.divNatural_ne_nan 60 minutes))
  rw [loose.coordinate]
  split
  · exact Double.neg_ne_nan.mpr size
  · exact size

theorem inRange_iff {position : Double × Double} (latitude : position.1 ≠ .nan)
    (longitude : position.2 ≠ .nan) : InRange position ↔
      ((Double.finite 90).lt position.1.abs || (Double.finite 180).lt position.2.abs) = false := by
  have number (bound : Rat) : Double.finite bound ≠ .nan := nofun
  rw [InRange, Double.le_eq_not_lt (Double.abs_ne_nan latitude) (number 90),
    Double.le_eq_not_lt (Double.abs_ne_nan longitude) (number 180), Bool.not_eq_true',
    Bool.not_eq_true', Bool.or_eq_false_iff]

theorem parseGga_position {fields : List JsString} {position : Double × Double} :
    (∃ fix, parseGga fields = some fix ∧ fix.position = position) ↔
      ((integerOf (field fields 6)).isFinite = true ∧
        (integerOf (field fields 6)).le (.finite 0) = false) ∧
      LooseCoordinate 2 (field fields 2) (field fields 3) position.1 ∧
      LooseCoordinate 3 (field fields 4) (field fields 5) position.2 ∧ InRange position := by
  unfold parseGga
  dsimp only
  constructor
  · rintro ⟨fix, parsed, rfl⟩
    split at parsed
    · cases parsed
    next quality =>
    rw [Bool.not_eq_true, Bool.or_eq_false_iff, Bool.not_eq_false'] at quality
    split at parsed
    · next latitude longitude isLatitude isLongitude =>
      split at parsed
      · cases parsed
      next within =>
      cases parsed
      have loose := toDegrees_eq_some.mp isLatitude
      have loose' := toDegrees_eq_some.mp isLongitude
      refine ⟨quality, loose, loose', (inRange_iff loose.ne_nan loose'.ne_nan).mpr ?_⟩
      rwa [Bool.not_eq_true] at within
    · cases parsed
  · rintro ⟨⟨finite, above⟩, latitude, longitude, within⟩
    have notFar := (inRange_iff latitude.ne_nan longitude.ne_nan).mp within
    rw [finite, above, toDegrees_eq_some.mpr latitude, toDegrees_eq_some.mpr longitude]
    dsimp only
    rw [notFar]
    exact ⟨_, rfl, rfl⟩

theorem frame_unique {body body' tail tail' : JsString} (last : asterisk ∉ tail)
    (last' : asterisk ∉ tail') (same : body ++ asterisk :: tail = body' ++ asterisk :: tail') :
    body = body' := by
  have index := lastIndexOf_append last body
  rw [same, lastIndexOf_append last' body', Option.some.injEq] at index
  exact (List.append_inj same index.symm).1

theorem loose_unique {line body body' tail tail' : JsString} {position position' : Double × Double}
    (loose : LooseSentence line body tail position)
    (loose' : LooseSentence line body' tail' position') : position = position' := by
  have same := loose.line.symm.trans loose'.line
  rw [List.cons.injEq] at same
  cases frame_unique loose.last loose'.last same.2
  refine Prod.ext ?_ ?_
  · exact loose.latitude.coordinate.trans loose'.latitude.coordinate.symm
  · exact loose.longitude.coordinate.trans loose'.longitude.coordinate.symm

theorem taken_unique : Functional Taken := by
  rintro line position position' ⟨body, tail, loose, -⟩ ⟨body', tail', loose', -⟩
  exact loose_unique loose loose'

theorem taken_iff {line : JsString} {position : Double × Double} : Taken line position ↔
    ∃ body, verifiedBody line = some body ∧ isGga (bodyField body 0) = true ∧
      ∃ fix, parseGga (body.splitOn comma) = some fix ∧ fix.position = position := by
  constructor
  · rintro ⟨body, tail, loose, quality⟩
    refine ⟨body, verifiedBody_eq_some.mpr ⟨tail, loose.line, loose.last, loose.checksum⟩,
      loose.type, ?_⟩
    exact parseGga_position.mpr ⟨quality, loose.latitude, loose.longitude, loose.range⟩
  · rintro ⟨body, verified, type, parsed⟩
    obtain ⟨tail, isLine, last, checksum⟩ := verifiedBody_eq_some.mp verified
    obtain ⟨quality, latitude, longitude, within⟩ := parseGga_position.mp parsed
    exact ⟨body, tail, ⟨isLine, last, checksum, type, latitude, longitude, within⟩, quality⟩

/-- The fix of a line replaces the latest one just if the line is taken. -/
theorem stepLine_cases (latest : Option NmeaFix) (line : JsString) :
    (∃ fix, stepLine latest line = some fix ∧ Taken line fix.position) ∨
      stepLine latest line = latest ∧ ∀ position, ¬ Taken line position := by
  simp only [taken_iff]
  unfold stepLine
  cases verified : verifiedBody line with
  | none =>
    right
    exact ⟨rfl, by rintro position ⟨body, isBody, -⟩; cases isBody⟩
  | some body =>
    dsimp only
    cases type : isGga (field (body.splitOn comma) 0) with
    | false =>
      right
      refine ⟨rfl, ?_⟩
      rintro position ⟨other, isOther, gga, -⟩
      cases isOther
      rw [bodyField, type] at gga
      cases gga
    | true =>
      cases parsed : parseGga (body.splitOn comma) with
      | some fix => exact .inl ⟨fix, rfl, body, rfl, type, fix, parsed, rfl⟩
      | none =>
        right
        refine ⟨rfl, ?_⟩
        rintro position ⟨other, isOther, -, fix, isFix, -⟩
        cases isOther
        rw [parsed] at isFix
        cases isFix

theorem parse_latest (lines : List JsString) (position : Double × Double) :
    (lines.foldr (fun line latest => stepLine latest line) none).map NmeaFix.position =
        some position ↔ Latest Taken lines position := by
  induction lines with
  | nil => simp [Latest]
  | cons line older ih =>
    rw [List.foldr_cons]
    rcases stepLine_cases (older.foldr (fun line latest => stepLine latest line) none) line with
      ⟨fix, step, taken⟩ | ⟨step, untaken⟩
    · rw [step, latest_cons taken_unique taken, Option.map_some, Option.some.injEq]
    · rw [step, latest_skip untaken, ih]

/-! ### Valid lines are read as they are written -/

theorem coordinate_loose {positive negative value hemisphere : JsString} (some : 0 < degreeDigits)
    (few : degreeDigits ≤ 15) (isPositive : positive ≠ js "S" ∧ positive ≠ js "W")
    (isNegative : negative = js "S" ∨ negative = js "W")
    (valid : Coordinate degreeDigits positive negative value hemisphere coordinate) :
    LooseCoordinate degreeDigits value hemisphere coordinate := by
  obtain ⟨degrees, minutes, fraction, rfl, rfl, two, digits, -, hemispheres⟩ := valid
  have inDegrees : ∀ c ∈ degrees, isDigitUnit c = true :=
    fun c mem => digits c (by simp [mem])
  have inMinutes : ∀ c ∈ minutes, isDigitUnit c = true :=
    fun c mem => digits c (by simp [mem])
  have inFraction : ∀ c ∈ fraction, isDigitUnit c = true :=
    fun c mem => digits c (by simp [mem])
  have isDegrees : parseFloat ((degrees ++ (minutes ++ fullStop :: fraction)).take degrees.length) =
      .finite (decimalValue degrees) := by
    have safe : decimalValue degrees < 2 ^ 53 :=
      calc decimalValue degrees < 10 ^ degrees.length := decimalValue_lt inDegrees
        _ ≤ 10 ^ 15 := Nat.pow_le_pow_right (by decide) few
        _ ≤ 2 ^ 53 := by decide
    rw [List.take_left, parseFloat_whole (List.ne_nil_of_length_pos some) inDegrees,
      Double.nearest_natural safe]
  have isMinutes : parseFloat ((degrees ++ (minutes ++ fullStop :: fraction)).drop degrees.length) =
      Double.nearest (decimalValue (minutes ++ fraction)) (10 ^ fraction.length) := by
    rw [List.drop_left,
      parseFloat_point (List.ne_nil_of_length_pos (by omega)) inMinutes inFraction]
  have finite : ∃ size : Rat,
      Double.nearest (decimalValue (minutes ++ fraction)) (10 ^ fraction.length) =
        .finite size := by
    have below : decimalValue (minutes ++ fraction) ≤ 100 * 10 ^ fraction.length := by
      have less : decimalValue (minutes ++ fraction) < 10 ^ (minutes ++ fraction).length :=
        decimalValue_lt fun c mem => by
          rcases List.mem_append.mp mem with inHead | inTail
          · exact inMinutes c inHead
          · exact inFraction c inTail
      rw [List.length_append, two, Nat.pow_add] at less
      exact less.le
    have least : 0 * 10 ^ fraction.length ≤ decimalValue (minutes ++ fraction) := by
      rw [Nat.zero_mul]
      exact Nat.zero_le _
    obtain ⟨size, isSize, -⟩ := Double.nearest_between (by positivity) least below (by decide)
    exact ⟨size, isSize⟩
  constructor
  · simp
  · rw [isDegrees]
    rfl
  · obtain ⟨size, isSize⟩ := finite
    rw [isMinutes, isSize]
    rfl
  · dsimp only
    rw [isDegrees, isMinutes]
    rcases hemispheres with ⟨rfl, isCoordinate⟩ | ⟨rfl, isCoordinate⟩
    · rw [if_neg (not_or.mpr isPositive)]
      exact isCoordinate
    · rw [if_pos isNegative]
      exact isCoordinate

theorem valid_loose {line body digits : JsString} {position : Double × Double}
    (valid : ValidSentence line body digits position) : LooseSentence line body digits position := by
  obtain ⟨c, d, m, n, rfl, first, second, sum⟩ := valid.checksum
  have solid := (hexValue_facts (Option.isSome_of_eq_some second)).1
  constructor
  · rw [← valid.line]
    apply trim_of_trimmed
    rw [valid.line]
    constructor
    · intro unit isHead
      cases isHead
      decide
    · intro unit isLast
      have isD : unit = d := by
        have final : (dollarSign :: (body ++ asterisk :: [c, d])).getLast? = some d := by
          rw [show dollarSign :: (body ++ asterisk :: [c, d]) =
            (dollarSign :: (body ++ [asterisk, c])) ++ [d] by simp, List.getLast?_concat]
        exact Option.some.inj (isLast.symm.trans final)
      rw [isD]
      exact solid
  · intro mem
    rcases List.mem_pair.mp mem with rfl | rfl
    · cases first
    · cases second
  · rw [show [c, d].take 2 = [c, d] from rfl, parseInt_hexPair first second, sum]
  · exact valid.type
  · exact coordinate_loose (by decide) (by decide) (by decide) (.inl rfl) valid.latitude
  · exact coordinate_loose (by decide) (by decide) (by decide) (.inr rfl) valid.longitude
  · exact valid.range

/-- A valid line is taken, unless its quality is too large for a finite number. -/
theorem valid_taken_iff {line body digits : JsString} {position : Double × Double}
    (valid : ValidSentence line body digits position) :
    Taken line position ↔ (integerOf (bodyField body 6)).isFinite = true := by
  have loose := valid_loose valid
  constructor
  · rintro ⟨body', tail, loose', finite, -⟩
    have same := loose.line.symm.trans loose'.line
    rw [List.cons.injEq] at same
    rw [frame_unique loose.last loose'.last same.2]
    exact finite
  · intro finite
    refine ⟨body, digits, loose, finite, ?_⟩
    obtain ⟨numeral, above⟩ := valid.quality
    have isRat : integerOf (bodyField body 6) =
        Double.ofRat (decimalValue (bodyField body 6) : Int) := by
      rw [integerOf, parseInt_numeral numeral]
    have positive : (Double.finite 0).lt (integerOf (bodyField body 6)) = true := by
      rw [isRat]
      apply Double.ofRat_pos
      · exact_mod_cast above
      · exact ⟨decimalValue (bodyField body 6) * 2 ^ 1074, by
          rw [Int.cast_mul, Int.cast_pow, Int.cast_ofNat]⟩
    rw [Double.le_eq_not_lt, positive]
    · rfl
    · rw [isRat]
      exact Double.ofRat_ne_nan _
    · nofun

theorem magnitude_zero : magnitude (.finite 0) (.finite 0) = .finite 0 := by
  simp [magnitude, Double.add, Double.divNatural, Double.ofRat, Double.nearest, Double.neg,
    Double.sub]

theorem valid_taken_zero :
    Taken (js "$GPGGA,,0000.0,N,00000.0,E,1*5C") (.finite 0, .finite 0) ↔
      (integerOf (bodyField (js "GPGGA,,0000.0,N,00000.0,E,1") 6)).isFinite = true :=
  valid_taken_iff ⟨rfl, ⟨_, _, _, _, rfl, rfl, rfl, by decide⟩, by decide, by decide,
    ⟨js "00", js "00", js "0", by decide, by decide, by decide,
      List.all_eq_true.mp (by decide), by decide,
      .inl ⟨by decide, magnitude_zero.symm⟩⟩,
    ⟨js "000", js "00", js "0", by decide, by decide, by decide,
      List.all_eq_true.mp (by decide), by decide,
      .inl ⟨by decide, magnitude_zero.symm⟩⟩, by decide, by decide⟩

/-! ### The lines of a text -/

/-- What stands between line breaks. -/
def linesOf (text : JsString) : List JsString := text.splitOnP isLineBreak

/-- Runs of line breaks count as one, which leaves out lines that are empty. -/
theorem splitLines_eq (text : JsString) : ∃ line lines lines',
    splitLines text = line :: lines ∧ linesOf text = line :: lines' ∧
      lines.filter (· ≠ []) = lines'.filter (· ≠ []) := by
  induction text with
  | nil => exact ⟨[], [], [], rfl, rfl, rfl⟩
  | cons c rest ih =>
    obtain ⟨line, lines, lines', isSplit, isLines, same⟩ := ih
    rw [linesOf] at isLines
    rw [splitLines, linesOf, List.splitOnP_cons_eq_if_modifyHead, isSplit, isLines]
    by_cases breaks : isLineBreak c = true
    · rw [if_pos breaks, if_pos breaks]
      by_cases again : rest.head?.any isLineBreak = true
      · have empty : line = [] := by
          cases rest with
          | nil => cases again
          | cons d rest =>
            have first : isLineBreak d = true := again
            rw [List.splitOnP_cons_eq_if_modifyHead, if_pos first, List.cons.injEq] at isLines
            exact isLines.1.symm
        subst empty
        rw [if_pos again]
        exact ⟨[], lines, [] :: lines', rfl, rfl, by simpa using same⟩
      · rw [if_neg again]
        exact ⟨[], line :: lines, line :: lines', rfl, rfl, by
          rw [List.filter_cons, List.filter_cons, same]⟩
    · rw [if_neg breaks, if_neg breaks]
      exact ⟨c :: line, lines, lines', rfl, rfl, same⟩

theorem stepLine_empty (latest : Option NmeaFix) : stepLine latest [] = latest := rfl

theorem foldl_solid (lines : List JsString) (latest : Option NmeaFix) :
    (lines.filter (· ≠ [])).foldl stepLine latest = lines.foldl stepLine latest := by
  induction lines generalizing latest with
  | nil => rfl
  | cons line lines ih =>
    by_cases empty : line = []
    · subst empty
      rw [List.filter_cons_of_neg (by simp), ih, List.foldl_cons, stepLine_empty]
    · rw [List.filter_cons_of_pos (by simpa using empty), List.foldl_cons, List.foldl_cons, ih]

theorem parseNmeaFix_eq (text : JsString) :
    parseNmeaFix text =
      (linesOf text).reverse.foldr (fun line latest => stepLine latest line) none := by
  obtain ⟨line, lines, lines', isSplit, isLines, same⟩ := splitLines_eq text
  rw [List.foldr_reverse, parseNmeaFix, isSplit, isLines, List.foldl_cons, List.foldl_cons,
    ← foldl_solid lines, same, foldl_solid lines']

/-! ### When the answer is right -/

/-- The position of the last valid line is answered, and none if there is no such line. -/
structure Decodes (valid : JsString → Double × Double → Prop) (text : JsString) : Prop where
  position : ∀ position, (parseNmeaFix text).map NmeaFix.position = some position ↔
    Latest valid (linesOf text).reverse position
  missing : parseNmeaFix text = none ↔
    ∀ line ∈ linesOf text, ∀ position, ¬ valid line position
  range : ∀ fix, parseNmeaFix text = some fix → InRange fix.position

/-- Valid but for white space around the line, which the parser drops. -/
def ValidTrimmed (line : JsString) (position : Double × Double) : Prop := Valid (trim line) position

theorem validTrimmed_loose {line : JsString} {position : Double × Double}
    (valid : ValidTrimmed line position) : ∃ body tail, LooseSentence line body tail position := by
  obtain ⟨body, digits, sentence⟩ := valid
  have loose := valid_loose sentence
  refine ⟨body, digits, ?_, loose.last, loose.checksum, loose.type, loose.latitude,
    loose.longitude, loose.range⟩
  rw [← trim_trim]
  exact loose.line

/-- What is answered is what the last line has that is taken. -/
theorem parse_position (text : JsString) (position : Double × Double) :
    (parseNmeaFix text).map NmeaFix.position = some position ↔
      Latest Taken (linesOf text).reverse position := by
  rw [parseNmeaFix_eq]
  exact parse_latest _ _

theorem parse_inRange {fix : NmeaFix} (isFix : parseNmeaFix text = some fix) :
    InRange fix.position := by
  have isPosition : (parseNmeaFix text).map NmeaFix.position = some fix.position := by
    rw [isFix]
    rfl
  obtain ⟨line, -, body, tail, loose, -⟩ :=
    latest_exists ((parse_position text fix.position).mp isPosition)
  exact loose.range

/-- A sense of validity that the parser reads at the same position as it says. -/
theorem decodes_iff_settled {valid : JsString → Double × Double → Prop}
    (isLoose : ∀ line position, valid line position →
      ∃ body tail, LooseSentence line body tail position) (text : JsString) :
    Decodes valid text ↔ Settled valid Taken (linesOf text).reverse := by
  have unique : Functional valid := by
    intro line position position' isValid isValid'
    obtain ⟨body, tail, loose⟩ := isLoose line position isValid
    obtain ⟨body', tail', loose'⟩ := isLoose line position' isValid'
    exact loose_unique loose loose'
  have agree : ∀ line position position', valid line position → Taken line position' →
      position = position' := by
    rintro line position position' isValid ⟨body', tail', loose', -⟩
    obtain ⟨body, tail, loose⟩ := isLoose line position isValid
    exact loose_unique loose loose'
  rw [← settled_iff unique taken_unique agree]
  constructor
  · intro decodes position
    rw [← parse_position]
    exact decodes.position position
  · intro same
    have position : ∀ position, (parseNmeaFix text).map NmeaFix.position = some position ↔
        Latest valid (linesOf text).reverse position := by
      intro position
      rw [parse_position]
      exact same position
    refine ⟨position, ?_, fun fix isFix => parse_inRange isFix⟩
    have noValid : (∀ position, ¬ Latest valid (linesOf text).reverse position) ↔ _ := latest_none
    simp only [List.mem_reverse] at noValid
    rw [← noValid]
    simp only [← position]
    cases parseNmeaFix text <;> simp

/-- The answer is right just where the last line that is valid or taken is both, or is read as the
last one of the other sort is. White space around a line may be counted as part of it or not. -/
theorem decodes_iff (text : JsString) :
    (Decodes Valid text ↔ Settled Valid Taken (linesOf text).reverse) ∧
      (Decodes ValidTrimmed text ↔ Settled ValidTrimmed Taken (linesOf text).reverse) :=
  ⟨decodes_iff_settled (fun _ _ ⟨body, digits, sentence⟩ => ⟨body, digits, valid_loose sentence⟩)
      text,
    decodes_iff_settled (fun _ _ valid => validTrimmed_loose valid) text⟩

/-! ### A hemisphere that is none -/

/-- The `S` of the latitude has become an `s`. -/
def strayBody : JsString := js "GPGGA,,0000.0,s,00000.0,E,1"

def strayText : JsString := js "$GPGGA,,0000.0,s,00000.0,E,1*61"

theorem frame_stray : trim strayText = dollarSign :: (strayBody ++ asterisk :: js "61") := by decide

theorem integerOf_one : integerOf (js "1") = .finite 1 := by
  have one : parseInt 10 (js "1") = some 1 := by decide
  have fraction : (1 : Rat).num.toNat = 1 ∧ (1 : Rat).den = 1 := by decide
  have nearest := Double.nearest_natural (show 1 < 2 ^ 53 by decide)
  rw [integerOf, one]
  show Double.ofRat ((1 : Int) : Rat) = .finite 1
  rw [Int.cast_one, Double.ofRat, if_pos zero_le_one, fraction.1, fraction.2, nearest,
    Nat.cast_one]

theorem loose_zero (length : degreeDigits < value.length)
    (degrees : parseFloat (value.take degreeDigits) = .finite 0)
    (minutes : parseFloat (value.drop degreeDigits) = .finite 0)
    (letter : ¬ (hemisphere = js "S" ∨ hemisphere = js "W")) :
    LooseCoordinate degreeDigits value hemisphere (.finite 0) := by
  constructor
  · exact length
  · rw [degrees]
    rfl
  · rw [minutes]
    rfl
  · dsimp only
    rw [if_neg letter, degrees, minutes, magnitude_zero]

theorem taken_stray : Taken strayText (.finite 0, .finite 0) := by
  have quality : bodyField strayBody 6 = js "1" := by decide
  refine ⟨strayBody, js "61", ⟨frame_stray, by decide, by decide, by decide, ?_, ?_, ?_⟩, ?_⟩
  · exact loose_zero (by decide) (by decide) (by decide) (by decide)
  · exact loose_zero (by decide) (by decide) (by decide) (by decide)
  · constructor <;> decide
  · rw [quality, integerOf_one]
    constructor <;> decide

theorem not_valid_stray (position : Double × Double) : ¬ Valid strayText position := by
  rintro ⟨body, digits, sentence⟩
  have loose := valid_loose sentence
  have same := loose.line.symm.trans frame_stray
  rw [List.cons.injEq] at same
  have isBody : body = strayBody := frame_unique loose.last (by decide) same.2
  obtain ⟨degrees, minutes, fraction, -, -, -, -, -, letter⟩ := sentence.latitude
  rw [isBody] at letter
  rcases letter with ⟨letter, -⟩ | ⟨letter, -⟩
  · exact absurd letter (by decide)
  · exact absurd letter (by decide)

/-- The line is no valid one, and its fix is answered. -/
theorem stray_fix :
    (parseNmeaFix strayText).map NmeaFix.position = some (.finite 0, .finite 0) ∧
      ¬ Decodes Valid strayText ∧ ¬ Decodes ValidTrimmed strayText := by
  have lines : (linesOf strayText).reverse = [strayText] := by decide
  have answer : (parseNmeaFix strayText).map NmeaFix.position =
      some (.finite 0, .finite 0) := by
    rw [parse_position, lines]
    exact .inl taken_stray
  have trimmed : trim strayText = strayText := by decide
  refine ⟨answer, fun decodes => ?_, fun decodes => ?_⟩
  · have latest := (decodes.position _).mp answer
    rw [lines] at latest
    obtain ⟨line, mem, isValid⟩ := latest_exists latest
    cases List.mem_singleton.mp mem
    exact not_valid_stray _ isValid
  · have latest := (decodes.position _).mp answer
    rw [lines] at latest
    obtain ⟨line, mem, isValid⟩ := latest_exists latest
    cases List.mem_singleton.mp mem
    rw [ValidTrimmed, trimmed] at isValid
    exact not_valid_stray _ isValid

end ModemStack.Location.Nmea
