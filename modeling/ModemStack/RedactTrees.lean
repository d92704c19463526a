import ModemStack.Redact
import ModemStack.Text.JsTree

/-!
What redaction tells of a tree, and what it keeps.

Trees that differ below sensitive keys only have one redaction (`redact_same`), which redaction
leaves alone (`redact_redact`). All else is kept where it is, except below an own key `__proto__`:
the copy is built by assignment, and that assignment sets the prototype (`lossless_iff`).
-/

namespace ModemStack

open ModemStack.Data ModemStack.Text JsValue

/-! ### Two trees with one redaction -/

/-- Equal but for the values of sensitive keys. -/
inductive SameOutside : JsValue → JsValue → Prop where
  | refl (value : JsValue) : SameOutside value value
  | item {item item' : JsValue} {items items' : List JsValue} (first : SameOutside item item')
      (others : SameOutside (.array items) (.array items')) :
      SameOutside (.array (item :: items)) (.array (item' :: items'))
  | member {key : JsString} {value value' : JsValue} {members members' : List (JsString × JsValue)}
      (first : SameOutside value value')
      (others : SameOutside (.object true members) (.object true members')) :
      SameOutside (.object true ((key, value) :: members))
        (.object true ((key, value') :: members'))
  | sensitive {key : JsString} {value value' : JsValue}
      {members members' : List (JsString × JsValue)} (isSensitive : isSensitiveKey key = true)
      (others : SameOutside (.object true members) (.object true members')) :
      SameOutside (.object true ((key, value) :: members))
        (.object true ((key, value') :: members'))

/-- What the walk makes of the parts of a value, before an object is built of them. -/
def redactParts : JsValue → JsValue
  | .array items => .array (redactItems items)
  | .object true members => .object true (redactMembers members)
  | value => value

def buildParts : JsValue → JsValue
  | .object true members => .objectOf members
  | value => value

theorem redactValue_eq_buildParts (value : JsValue) :
    redactValue false value = buildParts (redactParts value) := by
  cases value with
  | object plain members => cases plain <;> rfl
  | _ => rfl

theorem redactParts_same {value value' : JsValue} (same : SameOutside value value') :
    redactParts value = redactParts value' := by
  have alike {value value' : JsValue} (parts : redactParts value = redactParts value') :
      redactValue false value = redactValue false value' := by
    rw [redactValue_eq_buildParts, redactValue_eq_buildParts, parts]
  induction same with
  | refl => rfl
  | item first others ihFirst ihOthers =>
    have items := JsValue.array.inj ihOthers
    simp only [redactParts, redactItems, alike ihFirst, items]
  | @member key value value' members members' first others ihFirst ihOthers =>
    have rest := (JsValue.object.inj ihOthers).2
    simp only [redactParts, redactMembers, rest]
    cases isSensitiveKey key with
    | true => simp only [redactValue_sensitive]
    | false => simp only [alike ihFirst]
  | sensitive isSensitive others ih =>
    have rest := (JsValue.object.inj ih).2
    simp only [redactParts, redactMembers, rest, isSensitive, redactValue_sensitive]

theorem redact_same {value value' : JsValue} (same : SameOutside value value') :
    redact value = redact value' := by
  unfold redact
  rw [redactValue_eq_buildParts, redactValue_eq_buildParts, redactParts_same same]

/-! ### Redacting again -/

theorem redactValue_again (value : JsValue) (underSensitiveKey : Bool) :
    redactValue underSensitiveKey (redactValue underSensitiveKey value) =
      redactValue underSensitiveKey value := by
  cases underSensitiveKey with
  | true => rw [redactValue_sensitive, redactValue_sensitive]
  | false =>
    induction value using JsValue.inductionOn with
    | scalar value scalar =>
      cases value with
      | array | object => cases scalar
      | _ => rfl
    | array items ih =>
      simp only [redactValue, redactItems_eq_map, List.map_map, Bool.false_eq_true, if_false]
      exact congrArg _ (List.map_congr_left ih)
    | object plain members ih =>
      cases plain with
      | false => rfl
      | true =>
        rw [redactValue_object, redact_objectOf, objectOf_eq]
        refine congrArg _ ((List.map_congr_left fun item listed => ?_).trans (List.map_id _))
        have made : item ∈ redactMembers members :=
          (mem_foldl_assign listed).resolve_left List.not_mem_nil
        rw [redactMembers_eq_map] at made
        obtain ⟨entry, isEntry, rfl⟩ := List.mem_map.mp made
        split
        · cases sensitive : isSensitiveKey entry.1 with
          | true => simp
          | false => simp [ih entry isEntry]
        · rfl

theorem redact_redact (value : JsValue) : redact (redact value) = redact value :=
  redactValue_again value false

/-! ### What is kept -/

def isSensitiveStep : PathStep → Bool
  | .key key => isSensitiveKey key
  | .index _ => false

/-- A path below no sensitive key. -/
def Clear (path : List PathStep) : Prop := ∀ step ∈ path, isSensitiveStep step = false

/-- A path below no sensitive key leads to what it led to; one that ends at the first sensitive key
leads to the marker, and no other leads anywhere. -/
structure Lossless (value : JsValue) : Prop where
  kept : ∀ path, Clear path → ∀ leaf : JsValue, leaf.isObject = false →
    ((redact value).valueAt path = some leaf ↔ value.valueAt path = some leaf)
  present : ∀ path, Clear path →
    (((redact value).valueAt path).isSome = true ↔ (value.valueAt path).isSome = true)
  masked : ∀ path step below, Clear path → isSensitiveStep step = true →
    (redact value).valueAt (path ++ step :: below) =
      if below = [] then (value.valueAt (path ++ [step])).map fun _ => .string REDACTED else none

/-- No object of the tree, below no sensitive key, has the key of the prototype. -/
def KeysNamed (value : JsValue) : Prop :=
  ∀ path, Clear path → value.valueAt (path ++ [.key protoKey]) = none

section Kept

variable {value : JsValue} {path : List PathStep}

theorem redactValue_scalar (scalar : value.isObject = false) : redactValue false value = value := by
  cases value with
  | array | object => cases scalar
  | _ => rfl

theorem KeysNamed.along {inner : JsValue} (named : KeysNamed value) (clear : Clear path)
    (leads : value.valueAt path = some inner) : KeysNamed inner := by
  intro path' clear'
  have whole := named (path ++ path') (List.forall_mem_append.mpr ⟨clear, clear'⟩)
  rwa [List.append_assoc, valueAt_append, leads] at whole

/-- One step into a redacted tree that has no prototype for a key. -/
theorem child_redact (tree : value.IsTree) (named : KeysNamed value) (step : PathStep) :
    (redact value).child step = (value.child step).map (redactValue (isSensitiveStep step)) := by
  cases tree with
  | scalar scalar =>
    rw [redact, redactValue_scalar scalar]
    cases value <;> cases step <;> simp_all [JsValue.child, isObject]
  | @array items trees =>
    cases step with
    | key => rfl
    | index => simp [redact, redactValue, redactItems_eq_map, JsValue.child, isSensitiveStep]
  | @object members distinct trees =>
    have unnamed : protoKey ∉ members.map Prod.fst := by
      intro mem
      have absent := named [] (fun _ mem => absurd mem List.not_mem_nil)
      obtain ⟨inner, isProto⟩ :=
        Option.ne_none_iff_exists'.mp ((OrderedMap.mem_keys (m := ⟨members⟩)).mp mem)
      simp only [OrderedMap.get] at isProto
      simp [valueAt, JsValue.child, isProto] at absent
    have sameKeys : (redactMembers members).map Prod.fst = members.map Prod.fst := by
      rw [redactMembers_eq_map, List.map_map]
      rfl
    rw [redact, redactValue_object,
      objectOf_of_nodup (by rwa [sameKeys]) (by rwa [sameKeys])]
    cases step with
    | key key =>
      rw [JsValue.child, redactMembers_eq_map,
        getItem_map fun key child => redactValue (isSensitiveKey key) child]
      rfl
    | index => rfl

/-- Where no key is that of the prototype, redaction goes down a path. -/
theorem valueAt_redact (tree : value.IsTree) (named : KeysNamed value) (clear : Clear path) :
    (redact value).valueAt path = (value.valueAt path).map redact := by
  induction path generalizing value with
  | nil => rfl
  | cons step path ih =>
    obtain ⟨clearStep, clearPath⟩ := List.forall_mem_cons.mp clear
    rw [valueAt, valueAt, child_redact tree named, clearStep]
    cases isChild : value.child step with
    | none => rfl
    | some inner =>
      have leads : value.valueAt [step] = some inner := by rw [valueAt, isChild]; rfl
      exact ih (tree.child isChild)
        (named.along (List.forall_mem_singleton.mpr clearStep) leads) clearPath

theorem valueAt_scalar (scalar : value.isObject = false) (some : path ≠ []) :
    value.valueAt path = none := by
  cases path with
  | nil => exact absurd rfl some
  | cons step path => cases value <;> cases step <;> simp_all [valueAt, JsValue.child, isObject]

theorem insensitive_proto : isSensitiveStep (.key protoKey) = false := by
  decide

/-- A redacted tree has nowhere a key of the prototype. -/
theorem valueAt_proto (tree : value.IsTree) (underSensitiveKey : Bool) :
    (redactValue underSensitiveKey value).valueAt (path ++ [.key protoKey]) = none := by
  cases underSensitiveKey with
  | true =>
    rw [redactValue_sensitive]
    exact valueAt_scalar rfl (by simp)
  | false =>
    induction tree generalizing path with
    | scalar scalar =>
      rw [redactValue_scalar scalar]
      exact valueAt_scalar scalar (by simp)
    | @array items trees ih =>
      simp only [redactValue, Bool.false_eq_true, if_false, redactItems_eq_map]
      cases path with
      | nil => rfl
      | cons step path =>
        cases step with
        | key => rfl
        | index i =>
          rw [List.cons_append, valueAt, JsValue.child, List.getElem?_map]
          cases isItem : items[i]? with
          | none => rfl
          | some item => exact ih item (List.mem_of_getElem? isItem)
    | @object members distinct trees ih =>
      rw [redactValue_object, objectOf_eq]
      cases path with
      | nil =>
        have unnamed := (keys_membersOf (redactMembers members)).2
        have absent : OrderedMap.getItem protoKey (membersOf (redactMembers members)) = none := by
          by_contra found
          exact unnamed ((OrderedMap.mem_keys (m := ⟨_⟩)).mpr found)
        simp [valueAt, JsValue.child, absent]
      | cons step path =>
        cases step with
        | index => rfl
        | key key =>
          rw [List.cons_append, valueAt, JsValue.child]
          cases found : OrderedMap.getItem key (membersOf (redactMembers members)) with
          | none => rfl
          | some inner =>
            have made : (key, inner) ∈ redactMembers members :=
              (mem_foldl_assign (mem_of_getItem found)).resolve_left List.not_mem_nil
            rw [redactMembers_eq_map] at made
            obtain ⟨entry, isEntry, same⟩ := List.mem_map.mp made
            cases same
            cases isSensitiveKey entry.1 with
            | true =>
              rw [redactValue_sensitive]
              exact valueAt_scalar rfl (by simp)
            | false => exact ih entry isEntry

theorem isObject_redact (value : JsValue) : (redact value).isObject = value.isObject := by
  cases value with
  | object plain members => cases plain <;> rfl
  | _ => rfl

/-- Redaction keeps a tree apart from what is sensitive if and only if no object of it that is
walked has the key of the prototype. -/
theorem lossless_iff (tree : value.IsTree) : Lossless value ↔ KeysNamed value := by
  constructor
  · intro lossless path clear
    have clear' : Clear (path ++ [.key protoKey]) :=
      List.forall_mem_append.mpr ⟨clear, List.forall_mem_singleton.mpr insensitive_proto⟩
    have present := lossless.present _ clear'
    rw [redact, valueAt_proto tree] at present
    exact Option.not_isSome_iff_eq_none.mp fun isSome => nomatch present.mpr isSome
  · intro named
    have walked {path : List PathStep} (clear : Clear path) := valueAt_redact tree named clear
    constructor
    · intro path clear leaf scalar
      rw [walked clear, Option.map_eq_some_iff]
      constructor
      · rintro ⟨value', isValue, rfl⟩
        rw [isObject_redact] at scalar
        rw [redact, redactValue_scalar scalar]
        exact isValue
      · intro isLeaf
        exact ⟨leaf, isLeaf, redactValue_scalar scalar⟩
    · intro path clear
      rw [walked clear, Option.isSome_map]
    · intro path step below clear sensitive
      rw [valueAt_append, walked clear, valueAt_append]
      cases leads : value.valueAt path with
      | none => simp
      | some inner =>
        rw [Option.map_some, Option.bind_some, Option.bind_some, valueAt, valueAt,
          child_redact (tree.valueAt leads) (named.along clear leads), sensitive]
        cases inner.child step with
        | none => simp
        | some =>
          rw [Option.map_some, Option.bind_some, redactValue_sensitive]
          by_cases atStep : below = []
          · rw [if_pos atStep, atStep]
            rfl
          · rw [if_neg atStep]
            exact valueAt_scalar rfl atStep

end Kept

/-- Two trees that differ below sensitive keys only have one redaction, redaction leaves it alone,
and it has all the rest of the tree unless an object there has the key of the prototype. -/
theorem redaction_iff (tree other : JsTree) :
    ((SameOutside tree.1 other.1 → redact tree.1 = redact other.1) ∧
      redact (redact tree.1) = redact tree.1 ∧ Lossless tree.1) ↔ KeysNamed tree.1 := by
  constructor
  · rintro ⟨-, -, lossless⟩
    exact (lossless_iff tree.2).mp lossless
  · intro named
    exact ⟨redact_same, redact_redact tree.1, (lossless_iff tree.2).mpr named⟩

/-- An object with an own key `__proto__`, as `JSON.parse` makes one. -/
def protoTree : JsTree :=
  ⟨.object true [(protoKey, .string (js "kept"))],
    .object (by simp) fun entry mem => by
      rw [List.mem_singleton.mp mem]
      exact .scalar rfl⟩

/-- The own key is not in the copy. -/
theorem proto_lost : redact protoTree.1 = .object true [] ∧
    protoTree.1.valueAt [.key protoKey] = some (.string (js "kept")) ∧
    (redact protoTree.1).valueAt [.key protoKey] = none ∧ ¬ Lossless protoTree.1 := by
  have copied : redact protoTree.1 = .object true [] := rfl
  have held : protoTree.1.valueAt [.key protoKey] = some (.string (js "kept")) := rfl
  have absent : (redact protoTree.1).valueAt [.key protoKey] = none := by
    rw [copied]
    rfl
  refine ⟨copied, held, absent, fun lossless => ?_⟩
  have named := (lossless_iff protoTree.2).mp lossless [] nofun
  rw [List.nil_append, held] at named
  cases named

end ModemStack
