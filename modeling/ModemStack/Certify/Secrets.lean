import ModemStack.Certify.Bundle

/-!
What a certification bundle tells of the subscriber's secrets.

The redactor masks by key. A secret that stands in a D-Bus dict is below no key, since a dict is an
array of pairs by then; an item of a keyfile list has a key of its own, which no set of sensitive
keys knows.
-/

namespace ModemStack.Certify

open ModemStack.Text

/-! ### Secret data -/

/-- ModemManager's names of the secrets, and those of `mmcli`. -/
def secretNames : List JsString :=
  [js "simidentifier", js "iccid", js "imsi", js "eid", js "imei", js "equipmentidentifier",
    js "ownnumbers", js "pin", js "puk", js "password"]

def isSecretName (name : JsString) : Bool :=
  secretNames.contains (without (js "-") (lowerKey name))

def isDigit (c : UInt16) : Bool := 0x30 ≤ c.toNat && c.toNat ≤ 0x39

/-- The key of the list that `key.value[n]` is an item of; other keys are their own. -/
def listKey (key : JsString) : JsString :=
  match key.reverse with
  | [] => key
  | last :: digits =>
    let rest := digits.dropWhile isDigit
    if last = closeBracket ∧ rest.length < digits.length ∧
        (js ".value[").reverse.isPrefixOf rest then (rest.drop (js ".value[").length).reverse
    else key

/-- The last part of the key names a secret. -/
def isSecretKey (key : JsString) : Bool :=
  isSecretName ((dottedLeaf (listKey key)).getD (listKey key))

def isDict (signature : JsString) : Bool := signature = js "a{sv}" || signature = js "a{ss}"

/-- A secret in a dict. -/
def secretEntry (secret signature : JsString) : DecodedValue :=
  if signature = js "a{sv}" then .variant (js "s") (.string secret) else .string secret

section Fill

-- what every secret is set to
variable (secret : JsString)

mutual

/-- A value of some type, the secrets in it replaced. -/
def fillTyped (signature : JsString) : DecodedValue → DecodedValue
  | .array items => if isDict signature then .array (fillEntries signature items) else .array items
  | value => value

def fillEntries (signature : JsString) : List DecodedValue → List DecodedValue
  | [] => []
  | .array [.string key, value] :: rest =>
    .array [.string key,
      if isSecretName key then secretEntry secret signature else fillInner value] ::
      fillEntries signature rest
  | entry :: rest => entry :: fillEntries signature rest

/-- A variant tells the type of its value. -/
def fillInner : DecodedValue → DecodedValue
  | .variant signature value => .variant signature (fillTyped signature value)
  | value => value

end

end Fill

mutual

def typedHolds (signature : JsString) : DecodedValue → Bool
  | .array items => isDict signature && entriesHold items
  | _ => false

def entriesHold : List DecodedValue → Bool
  | [] => false
  | .array [.string key, value] :: rest => isSecretName key || innerHolds value || entriesHold rest
  | _ :: rest => entriesHold rest

def innerHolds : DecodedValue → Bool
  | .variant signature value => typedHolds signature value
  | _ => false

end

def fillProperty (secret : JsString) (property : JsString × DecodedVariant) :
    JsString × DecodedVariant :=
  (property.1, if isSecretName property.1 then ⟨js "s", .string secret⟩
    else ⟨property.2.signature, fillTyped secret property.2.signature property.2.value⟩)

/-- The property is secret, or a dict in it has a secret. -/
def propertyHolds (property : JsString × DecodedVariant) : Bool :=
  isSecretName property.1 || typedHolds property.2.signature property.2.value

def fillTree (secret : JsString) (tree : DecodedManagedObjects) : DecodedManagedObjects :=
  tree.map fun object => (object.1, object.2.map fun interface =>
    (interface.1, interface.2.map (fillProperty secret)))

/-- A line whose value is a secret, with another one. -/
def fillLine (secret line : JsString) : JsString :=
  match keyfileEntry line with
  | some (key, _) => if isSecretKey key then line.takeWhile (· ≠ colon) ++ colon :: secret else line
  | none => line

def fillKeyfile (secret text : JsString) : JsString :=
  [0x0A].intercalate ((keyfileLines text).map (fillLine secret))

/-! ### What replacing secrets changes -/

/-- Replacing a secret twice, where secrets are held, and that a secret is seen in what is read of a
value that holds one. -/
structure Replaces {α β : Type} (fill : JsString → α → α) (holds : α → Bool) (read : α → β)
    (value : α) : Prop where
  again : ∀ x y, fill y (fill x value) = fill y value
  keeps : ∀ x, holds (fill x value) = holds value
  none : holds value = false → ∀ x, fill x value = value
  seen : holds value = true → ∀ x y, read (fill x value) = read (fill y value) → x = y

/-- Where nothing is replaced. -/
theorem Replaces.of_none {α β : Type} {fill : JsString → α → α} {holds : α → Bool}
    {read : α → β} {value : α} (same : ∀ x, fill x value = value) (isNone : holds value = false) :
    Replaces fill holds read value where
  again x y := by rw [same x]
  keeps x := by rw [same x]
  none _ := same
  seen isSome := absurd isSome (by rw [isNone]; exact Bool.false_ne_true)

abbrev ReplacesTyped (signature : JsString) (value : DecodedValue) : Prop :=
  Replaces (fillTyped · signature) (typedHolds signature) jsonValue value

abbrev ReplacesEntries (signature : JsString) (items : List DecodedValue) : Prop :=
  Replaces (fillEntries · signature) entriesHold jsonItems items

abbrev ReplacesInner (value : DecodedValue) : Prop :=
  Replaces fillInner innerHolds jsonValue value

section Cases

attribute [local simp] fillTyped fillEntries fillInner typedHolds entriesHold innerHolds

variable {signature key : JsString} {entry value : DecodedValue} {items rest : List DecodedValue}

theorem replaces_dict (dict : isDict signature = true) (entries : ReplacesEntries signature items) :
    ReplacesTyped signature (.array items) := by
  constructor
  · intro x y
    simp [dict, entries.again]
  · intro x
    simp [dict, entries.keeps]
  · intro isNone x
    simp only [typedHolds, dict, Bool.true_and] at isNone
    simp [dict, entries.none isNone]
  · intro holds x y
    simp only [typedHolds, dict, Bool.true_and] at holds
    simp only [fillTyped, if_pos dict, jsonValue, JsValue.array.injEq]
    exact entries.seen holds x y

theorem replaces_variant (inner : ReplacesTyped signature value) :
    ReplacesInner (.variant signature value) := by
  constructor
  · intro x y
    simp [inner.again]
  · intro x
    simp [inner.keeps]
  · intro isNone x
    simp [inner.none isNone]
  · intro holds x y
    exact inner.seen holds x y

@[simp] theorem jsonValue_secretEntry (secret signature : JsString) :
    jsonValue (secretEntry secret signature) = .string secret := by
  unfold secretEntry
  split <;> rfl

theorem replaces_secret (named : isSecretName key = true)
    (entries : ReplacesEntries signature rest) :
    ReplacesEntries signature (.array [.string key, value] :: rest) := by
  constructor
  · intro x y
    simp [named, entries.again]
  · intro x
    simp [named]
  · intro isNone
    simp [named] at isNone
  · intro _ x y same
    simp only [fillEntries, if_pos named, jsonItems, jsonValue, jsonValue_secretEntry,
      List.cons.injEq, JsValue.array.injEq, JsValue.string.injEq] at same
    exact same.1.2.1

theorem replaces_entry (named : ¬ isSecretName key = true) (inner : ReplacesInner value)
    (entries : ReplacesEntries signature rest) :
    ReplacesEntries signature (.array [.string key, value] :: rest) := by
  constructor
  · intro x y
    simp [named, inner.again, entries.again]
  · intro x
    simp [named, inner.keeps, entries.keeps]
  · intro isNone x
    simp only [entriesHold, Bool.or_eq_false_iff] at isNone
    simp [named, inner.none isNone.1.2, entries.none isNone.2]
  · intro holds x y same
    simp only [fillEntries, if_neg named, jsonItems, jsonValue, List.cons.injEq,
      JsValue.array.injEq, true_and, and_true] at same
    simp only [entriesHold, named, Bool.false_or, Bool.or_eq_true] at holds
    rcases holds with inside | later
    · exact inner.seen inside x y same.1
    · exact entries.seen later x y same.2

theorem replaces_other (notPair : ∀ key value, entry = .array [.string key, value] → False)
    (entries : ReplacesEntries signature rest) : ReplacesEntries signature (entry :: rest) := by
  have fill (secret : JsString) : fillEntries secret signature (entry :: rest) =
      entry :: fillEntries secret signature rest := by
    rw [fillEntries]
    exact notPair
  have hold (rest : List DecodedValue) : entriesHold (entry :: rest) = entriesHold rest := by
    rw [entriesHold]
    exact notPair
  constructor
  · intro x y
    simp only [fillEntries, fill, entries.again]
  · intro x
    simp only [fill, hold, entries.keeps]
  · intro isNone x
    rw [hold] at isNone
    simp only [fill, entries.none isNone]
  · intro holds x y same
    rw [hold] at holds
    simp only [fill, jsonItems, List.cons.injEq, true_and] at same
    exact entries.seen holds x y same

end Cases

theorem replaces_typed (signature : JsString) (value : DecodedValue) :
    ReplacesTyped signature value := by
  refine fillTyped.induct ReplacesTyped ReplacesEntries ReplacesInner ?_ ?_ ?_ ?_ ?_ ?_ ?_ ?_
    signature value
  · intro signature items dict entries
    exact replaces_dict dict entries
  · intro signature items notDict
    refine .of_none (fun x => ?_) ?_
    · rw [fillTyped, if_neg notDict]
    · simp [typedHolds, notDict]
  · intro signature value notArray
    refine .of_none (fun x => ?_) ?_
    · rw [fillTyped]
      exact notArray
    · rw [typedHolds]
      exact notArray
  · intro signature value inner
    exact replaces_variant inner
  · intro value notVariant
    refine .of_none (fun x => ?_) ?_
    · rw [fillInner]
      exact notVariant
    · rw [innerHolds]
      exact notVariant
  · intro signature
    exact .of_none (fun _ => rfl) rfl
  · intro signature key value rest inner entries
    by_cases named : isSecretName key = true
    · exact replaces_secret named entries
    · exact replaces_entry named inner entries
  · intro signature entry rest notPair entries
    exact replaces_other notPair entries

theorem replaces_property (property : JsString × DecodedVariant) :
    Replaces fillProperty propertyHolds (fun property => jsonValue property.2.value) property := by
  obtain ⟨name, signature, value⟩ := property
  have typed := replaces_typed signature value
  by_cases named : isSecretName name = true
  · constructor
    · intro x y
      simp only [fillProperty, if_pos named]
    · intro x
      simp only [fillProperty, propertyHolds, named, Bool.true_or]
    · intro isNone
      simp [propertyHolds, named] at isNone
    · intro _ x y same
      simpa only [fillProperty, if_pos named, jsonValue, JsValue.string.injEq] using same
  · constructor
    · intro x y
      simp only [fillProperty, if_neg named, typed.again]
    · intro x
      simp only [fillProperty, propertyHolds, if_neg named, typed.keeps]
    · intro isNone x
      simp only [propertyHolds, Bool.or_eq_false_iff] at isNone
      simp only [fillProperty, if_neg named, typed.none isNone.2]
    · intro holds x y same
      simp only [propertyHolds, named, Bool.false_or] at holds
      simp only [fillProperty, if_neg named] at same
      exact typed.seen holds x y same

/-! ### Keyfiles -/

def keyfileEntries (text : JsString) : List (JsString × JsString) :=
  (keyfileLines text).filterMap keyfileEntry

/-- An entry, its value replaced if it is a secret. -/
def fillEntry (secret : JsString) (entry : JsString × JsString) : JsString × JsString :=
  (entry.1, if isSecretKey entry.1 then trim secret else entry.2)

theorem keyfileEntry_fillLine (secret line : JsString) :
    keyfileEntry (fillLine secret line) = (keyfileEntry line).map (fillEntry secret) := by
  unfold fillLine
  cases isEntry : keyfileEntry line with
  | none => simpa using isEntry
  | some entry =>
    obtain ⟨key, value⟩ := entry
    by_cases secretKey : isSecretKey key = true
    · have isKey : trim (line.takeWhile (· ≠ colon)) = key ∧ key ≠ [] := by
        unfold keyfileEntry at isEntry
        dsimp only at isEntry
        split at isEntry
        · next some =>
          cases isEntry
          exact ⟨rfl, some.2⟩
        · cases isEntry
      have stops : ∀ c ∈ line.takeWhile (· ≠ colon), decide (c ≠ colon) = true := by
        intro c mem
        exact List.all_eq_true.mp List.all_takeWhile c mem
      have before : (line.takeWhile (· ≠ colon) ++ colon :: secret).takeWhile (· ≠ colon) =
          line.takeWhile (· ≠ colon) := by
        rw [List.takeWhile_append_of_pos stops, List.takeWhile_cons_of_neg (by simp),
          List.append_nil]
      have after : (line.takeWhile (· ≠ colon) ++ colon :: secret).dropWhile (· ≠ colon) =
          colon :: secret := by
        rw [List.dropWhile_append_of_pos stops, List.dropWhile_cons_of_neg (by simp)]
      simp only [if_pos secretKey, Option.map_some, fillEntry]
      rw [keyfileEntry, before, after, isKey.1, if_pos ⟨by simp, isKey.2⟩]
      rfl
    · simp only [if_neg secretKey, Option.map_some, fillEntry]
      exact isEntry

theorem fillLine_again (secret other line : JsString) :
    fillLine other (fillLine secret line) = fillLine other line := by
  have entry := keyfileEntry_fillLine secret line
  cases isEntry : keyfileEntry line with
  | none => simp [fillLine, isEntry]
  | some found =>
    obtain ⟨key, value⟩ := found
    by_cases secretKey : isSecretKey key = true
    · rw [isEntry, Option.map_some, fillEntry] at entry
      have filled : fillLine secret line = line.takeWhile (· ≠ colon) ++ colon :: secret := by
        simp [fillLine, isEntry, secretKey]
      have stops : ∀ c ∈ line.takeWhile (· ≠ colon), decide (c ≠ colon) = true := by
        intro c mem
        exact List.all_eq_true.mp List.all_takeWhile c mem
      rw [fillLine, entry]
      simp only [if_pos secretKey]
      rw [filled, List.takeWhile_append_of_pos stops, List.takeWhile_cons_of_neg (by simp),
        List.append_nil]
      simp [fillLine, isEntry, secretKey]
    · have same : fillLine secret line = line := by simp [fillLine, isEntry, secretKey]
      rw [same]

theorem newline_free {text line : JsString} (mem : line ∈ keyfileLines text) :
    (0x0A : UInt16) ∉ line := by
  unfold keyfileLines at mem
  induction text generalizing line with
  | nil =>
    cases List.mem_singleton.mp mem
    exact List.not_mem_nil
  | cons c rest ih =>
    rw [List.splitOn_cons_eq_if_modifyHead] at mem
    split at mem
    · rcases List.mem_cons.mp mem with rfl | later
      · exact List.not_mem_nil
      · exact ih later
    · next other =>
      cases lines : rest.splitOn 0x0A with
      | nil => exact absurd lines (List.splitOn_ne_nil _ _)
      | cons =>
        rw [lines, List.modifyHead_cons] at mem
        rcases List.mem_cons.mp mem with rfl | later
        · rw [List.mem_cons, not_or]
          refine ⟨fun same => other (by simp [← same]), ih (by rw [lines]; simp)⟩
        · exact ih (by rw [lines]; exact List.mem_cons_of_mem _ later)

theorem lines_fillKeyfile {secret : JsString} (oneLine : (0x0A : UInt16) ∉ secret)
    (text : JsString) :
    keyfileLines (fillKeyfile secret text) = (keyfileLines text).map (fillLine secret) := by
  rw [keyfileLines, fillKeyfile, List.splitOn_intercalate]
  · intro line mem
    obtain ⟨old, isLine, rfl⟩ := List.mem_map.mp mem
    have free := newline_free isLine
    unfold fillLine
    split
    · split
      · rw [List.mem_append, List.mem_cons, not_or, not_or]
        exact ⟨fun inKey => free ((List.takeWhile_sublist _).subset inKey), by decide, oneLine⟩
      · exact free
    · exact free
  · simp [keyfileLines]

theorem entries_fillKeyfile {secret : JsString} (oneLine : (0x0A : UInt16) ∉ secret)
    (text : JsString) :
    keyfileEntries (fillKeyfile secret text) = (keyfileEntries text).map (fillEntry secret) := by
  rw [keyfileEntries, lines_fillKeyfile oneLine, keyfileEntries, List.filterMap_map,
    List.map_filterMap]
  exact congrArg (List.filterMap · _) (funext fun line => keyfileEntry_fillLine secret line)

theorem fillKeyfile_again {secret : JsString} (oneLine : (0x0A : UInt16) ∉ secret)
    (other text : JsString) :
    fillKeyfile other (fillKeyfile secret text) = fillKeyfile other text := by
  rw [fillKeyfile, lines_fillKeyfile oneLine, List.map_map, fillKeyfile]
  congr 1
  exact List.map_congr_left fun line _ => fillLine_again secret other line

end ModemStack.Certify
