import ModemStack.Backend.IdentityLadder
import ModemStack.Data.Except

/-!
Which batches of modems the ladder tells apart.

Every rung marks its keys, so that two modems share a key on one rung only: with one physical
path but for the space around it, with ports that are one text when joined by `+`, or with one
equipment value. The last is not kept apart by the demotion of a duplicated value.
-/

namespace ModemStack.Backend

open ModemStack.Data ModemStack.Domain ModemStack.Text

/-! ### The rung of a modem -/

/-- The rung of the ladder a modem reaches, with what names it there. -/
inductive Rung where
  | slotUid (device : JsString)
  | physdev (path : JsString)
  | ports (names : List JsString)
  | equipment (value : JsString)
  | runtime (path : JsString)
deriving DecidableEq

/-- Port names without the space around them, sorted; blank ones are dropped. -/
def portNames (ports : List JsString) : List JsString :=
  ((ports.map trim).filter (· ≠ [])).mergeSort unitsLe

def ModemIdentityFacts.rung (facts : ModemIdentityFacts) : Rung :=
  match facts.device.filter looksLikeSlotUid with
  | some device => .slotUid device
  | none =>
    match (facts.physdev.map trim).filter (· ≠ []) with
    | some path => .physdev path
    | none =>
      match (facts.ports.map portNames).filter (· ≠ []) with
      | some names => .ports names
      | none =>
        match equipmentValue facts.equipmentId with
        | some value => .equipment value
        | none => .runtime facts.runtimePath

namespace Rung

def stableKey : Rung → JsString
  | slotUid device => js "slot:" ++ device
  | physdev path => js "physdev:" ++ path
  | ports names => js "sysfs:" ++ (js "+").intercalate names
  | equipment value => js "equip:" ++ value
  | runtime path => js "path:" ++ path

/-- Two modems on one rung that the ladder does not tell apart. -/
def Clash : Rung → Rung → Prop
  | physdev path, physdev path' => path = path'
  | ports names, ports names' =>
    (names.flatMap fun name => name.splitOn 0x2B) = names'.flatMap fun name => name.splitOn 0x2B
  | equipment value, equipment value' => value = value'
  | _, _ => False

end Rung

/-! ### Keys -/

/-- Two lists joined by a separator are the same text if cut there they are the same pieces. -/
theorem intercalate_eq_iff {α : Type} [BEq α] [LawfulBEq α] {sep : α} {left right : List (List α)}
    (some : left ≠ []) (some' : right ≠ []) :
    [sep].intercalate left = [sep].intercalate right ↔
      (left.flatMap fun item => item.splitOn sep) = right.flatMap fun item => item.splitOn sep := by
  constructor
  · intro same
    rw [← splitOn_join some, ← splitOn_join some', same]
  · intro same
    have sameText := congrArg [sep].intercalate same
    rwa [← splitOn_join some, ← splitOn_join some', List.intercalate_splitOn,
      List.intercalate_splitOn] at sameText

/-- Two rungs that give one key. -/
def Rung.SameKey : Rung → Rung → Prop
  | .slotUid device, .slotUid device' => device = device'
  | .runtime path, .runtime path' => path = path'
  | rung, rung' => rung.Clash rung'

variable {facts : ModemIdentityFacts}

theorem ports_nonempty {names : List JsString} (reached : facts.rung = .ports names) :
    names ≠ [] := by
  unfold ModemIdentityFacts.rung at reached
  split at reached
  · cases reached
  · split at reached
    · cases reached
    · split at reached
      · next walked =>
          cases reached
          simpa using (Option.filter_eq_some_iff.mp walked).2
      · split at reached <;> cases reached

theorem stableKey_eq_iff {a b : ModemIdentityFacts} :
    a.rung.stableKey = b.rung.stableKey ↔ a.rung.SameKey b.rung := by
  have plus : js "+" = [0x2B] := by decide
  cases left : a.rung <;> cases right : b.rung
  case ports.ports names names' =>
    rw [Rung.stableKey, Rung.stableKey, List.append_cancel_left_eq, plus,
      intercalate_eq_iff (ports_nonempty left) (ports_nonempty right)]
    rfl
  all_goals simp [Rung.stableKey, Rung.SameKey, Rung.Clash, js, unitsOf]

/-! ### What the ladder answers -/

/-- The row of a modem in the answer. -/
structure Answers (facts : ModemIdentityFacts) (resolved : ResolvedIdentity) : Prop where
  key : resolved.stableKey = facts.rung.stableKey
  equipment : resolved.identity.equipmentId = facts.equipmentId
  path : resolved.identity.runtimePath = facts.runtimePath

theorem buildIdentity_ok {slot : Option JsString} (named : facts.runtimePath ≠ []) :
    buildIdentity facts slot = .ok ⟨slot, facts.equipmentId, none, none, facts.runtimePath⟩ := by
  rw [buildIdentity, runtimePath, nonEmptyString, if_neg named]
  rfl

theorem slotRung_ok {source : SlotSource} {confidence : IdentityConfidence}
    {name stableKey : JsString} (named : facts.runtimePath ≠ []) (slot : name ≠ []) :
    slotRung facts source confidence name stableKey =
      .ok ⟨⟨some name, facts.equipmentId, none, none, facts.runtimePath⟩, source, confidence,
        stableKey⟩ := by
  rw [slotRung, logicalSlotId, nonEmptyString, if_neg slot]
  change (buildIdentity facts (some name) >>= _) = _
  rw [buildIdentity_ok named]
  rfl

/-- The ports that name a modem, if any do. -/
theorem sysfsWalkKey_eq (ports : List JsString) : sysfsWalkKey ports =
    if portNames ports = [] then none else some ((js "+").intercalate (portNames ports)) := by
  unfold sysfsWalkKey portNames
  generalize (ports.map trim).filter (· ≠ []) = named
  by_cases blank : named = []
  · simp [blank]
  · have sorted : named.mergeSort unitsLe ≠ [] := by
      intro empty
      exact blank ((List.mergeSort_perm named unitsLe).symm.trans (empty ▸ .refl _)).eq_nil
    simp only [if_neg blank, if_neg sorted]

theorem resolveModemIdentity_ok (named : facts.runtimePath ≠ []) :
    ∃ resolved, resolveModemIdentity facts = .ok resolved ∧ Answers facts resolved := by
  unfold resolveModemIdentity
  cases labelled : facts.device.filter looksLikeSlotUid with
  | some device =>
    have long : device ≠ [] := by
      rintro rfl
      exact absurd (Option.filter_eq_some_iff.mp labelled).2 (by decide)
    exact ⟨_, slotRung_ok named long, by simp [ModemIdentityFacts.rung, labelled, Rung.stableKey],
      rfl, rfl⟩
  | none =>
    cases placed : (facts.physdev.map trim).filter (· ≠ []) with
    | some =>
      exact ⟨_, slotRung_ok named (by simp [js, unitsOf]),
        by simp only [ModemIdentityFacts.rung, labelled, placed, Rung.stableKey], rfl, rfl⟩
    | none =>
      have walked : facts.ports.bind sysfsWalkKey =
          ((facts.ports.map portNames).filter (· ≠ [])).map fun names =>
            (js "+").intercalate names := by
        cases facts.ports with
        | none => rfl
        | some ports =>
          by_cases blank : portNames ports = [] <;> simp [sysfsWalkKey_eq, Option.filter, blank]
      dsimp only
      rw [walked]
      cases walk : (facts.ports.map portNames).filter (· ≠ []) with
      | some =>
        exact ⟨_, slotRung_ok named (by simp [js, unitsOf]),
          by simp only [ModemIdentityFacts.rung, labelled, placed, walk, Rung.stableKey], rfl, rfl⟩
      | none =>
        simp only [Option.map_none]
        rw [buildIdentity_ok named]
        refine ⟨_, rfl, ?_, rfl, rfl⟩
        cases value : equipmentValue facts.equipmentId <;>
          simp only [ModemIdentityFacts.rung, labelled, placed, walk, value, Rung.stableKey]

/-- A modem without a path is refused, and so is its batch. -/
theorem resolveModemIdentity_named {resolved : ResolvedIdentity}
    (ok : resolveModemIdentity facts = .ok resolved) : facts.runtimePath ≠ [] := by
  intro unnamed
  have refused (slot : Option JsString) : ∃ error, buildIdentity facts slot = .error error := by
    rw [buildIdentity, runtimePath, nonEmptyString, if_pos unnamed]
    exact ⟨_, rfl⟩
  have rung (source : SlotSource) (confidence : IdentityConfidence) (name stableKey : JsString) :
      slotRung facts source confidence name stableKey ≠ .ok resolved := by
    intro ok
    obtain ⟨slot, -, built⟩ := except_bind_ok.mp ok
    obtain ⟨identity, isIdentity, -⟩ := except_bind_ok.mp built
    obtain ⟨error, isError⟩ := refused (some slot)
    cases isError.symm.trans isIdentity
  unfold resolveModemIdentity at ok
  split at ok
  · exact rung _ _ _ _ ok
  · split at ok
    · exact rung _ _ _ _ ok
    · split at ok
      · exact rung _ _ _ _ ok
      · obtain ⟨identity, isIdentity, -⟩ := except_bind_ok.mp ok
        obtain ⟨error, isError⟩ := refused none
        cases isError.symm.trans isIdentity

/-! ### Duplicated values -/

/-- How many modems of a batch carry a value. -/
def carriers (batch : List ModemIdentityFacts) (value : JsString) : Nat :=
  batch.countP fun facts => equipmentValue facts.equipmentId = some value

theorem get_equipmentCounts (batch : List ModemIdentityFacts) (value : JsString) :
    ((equipmentCounts batch).get value).getD 0 = carriers batch value := by
  induction batch using List.reverseRecOn with
  | nil => rfl
  | append_singleton batch facts ih =>
    unfold equipmentCounts carriers at ih ⊢
    rw [List.foldl_concat, List.countP_append, ← ih]
    cases carried : equipmentValue facts.equipmentId with
    | none => simp [carried]
    | some other =>
      by_cases same : other = value
      · simp [carried, same]
      · simp [carried, same, Ne.symm same]

/-- Several modems of the batch carry the value of this one. -/
def duplicatedIn (batch : List ModemIdentityFacts) (facts : ModemIdentityFacts) : Bool :=
  match EquipmentId.value? facts.equipmentId with
  | some value => decide (1 < carriers batch value)
  | none => false

/-- The facts a batch resolves a modem from. -/
def demotedIn (batch : List ModemIdentityFacts) (facts : ModemIdentityFacts) :
    ModemIdentityFacts :=
  if duplicatedIn batch facts then
    { facts with equipmentId := demoteToLowConfidence facts.equipmentId }
  else facts

theorem resolveModemIdentities_eq (batch : List ModemIdentityFacts) :
    resolveModemIdentities batch =
      batch.mapM fun facts => resolveModemIdentity (demotedIn batch facts) := by
  unfold resolveModemIdentities demotedIn duplicatedIn
  refine congrArg batch.mapM (funext fun facts => ?_)
  cases EquipmentId.value? facts.equipmentId with
  | none => rfl
  | some value =>
    have counted := get_equipmentCounts batch value
    dsimp only
    rw [counted]

variable (id : EquipmentId)

theorem equipmentValue_demote : equipmentValue (demoteToLowConfidence id) = equipmentValue id := by
  cases id <;> rfl

theorem value?_demote : EquipmentId.value? (demoteToLowConfidence id) = EquipmentId.value? id := by
  cases id <;> rfl

theorem confidence_demote : (demoteToLowConfidence id).confidence = .low := by
  cases id <;> rfl

section Demoted

variable {batch : List ModemIdentityFacts} {facts : ModemIdentityFacts}

variable (batch facts) in
theorem demotedIn_cases : demotedIn batch facts = facts ∨
    demotedIn batch facts = { facts with equipmentId := demoteToLowConfidence facts.equipmentId } := by
  rw [demotedIn]
  split
  · exact .inr rfl
  · exact .inl rfl

theorem rung_demotedIn : (demotedIn batch facts).rung = facts.rung := by
  rcases demotedIn_cases batch facts with same | demoted
  · rw [same]
  · rw [demoted, ModemIdentityFacts.rung, ModemIdentityFacts.rung, equipmentValue_demote]

theorem path_demotedIn : (demotedIn batch facts).runtimePath = facts.runtimePath := by
  rcases demotedIn_cases batch facts with same | demoted
  · rw [same]
  · rw [demoted]

theorem value?_demotedIn :
    EquipmentId.value? (demotedIn batch facts).equipmentId = EquipmentId.value? facts.equipmentId := by
  rcases demotedIn_cases batch facts with same | demoted
  · rw [same]
  · rw [demoted, value?_demote]

end Demoted

/-! ### Batches -/

/-- The modem at a place of the batch carries this equipment value. -/
def Carries (batch : List ModemIdentityFacts) (i : Nat) (value : JsString) : Prop :=
  ∃ facts, batch[i]? = some facts ∧ EquipmentId.value? facts.equipmentId = some value

/-- Two modems that show one slot label, one physical path or one set of ports. -/
inductive Coincide (a b : ModemIdentityFacts) : Prop where
  | slotUid {device : JsString} (label : looksLikeSlotUid device = true)
      (left : a.device = some device) (right : b.device = some device)
  | physdev {path : JsString} (printed : trim path ≠ []) (left : a.physdev = some path)
      (right : b.physdev = some path)
  | ports {names names' : List JsString} (printed : portNames names ≠ [])
      (left : a.ports = some names) (right : b.ports = some names')
      (same : ∀ name, name ∈ names ↔ name ∈ names')

/-- Modems listed at different paths, none of them in another's place. -/
structure Separate (batch : List ModemIdentityFacts) : Prop where
  paths : (batch.map ModemIdentityFacts.runtimePath).Nodup
  places : batch.Pairwise fun a b => ¬ Coincide a b

/-- An identity for each modem, with a key of its own; a value that several modems carry is of
low confidence in each, and no policy is bound to it. -/
structure ToldApart (batch : List ModemIdentityFacts) (resolved : List ResolvedIdentity) :
    Prop where
  each : List.Forall₂ (fun facts row => row.identity.runtimePath = facts.runtimePath) batch resolved
  keys : (resolved.map ResolvedIdentity.stableKey).Nodup
  shared : ∀ i j value, i ≠ j → Carries batch i value → Carries batch j value →
    ∃ row, resolved[i]? = some row ∧
      EquipmentId.value? row.identity.equipmentId = some value ∧
      row.identity.equipmentId.confidence = .low ∧ canBindPolicy row.identity = false

/-- Every modem has a path, no two are alike to the ladder, and a blank value that several carry
is of low confidence, as the constructors of equipment ids have it. -/
structure Tellable (batch : List ModemIdentityFacts) : Prop where
  paths : ∀ facts ∈ batch, facts.runtimePath ≠ []
  rungs : batch.Pairwise fun a b => ¬ a.rung.Clash b.rung
  blank : ∀ i j value, i ≠ j → Carries batch i value → Carries batch j value → trim value = [] →
    ∀ facts, batch[i]? = some facts → facts.equipmentId.confidence = .low

theorem device_of_rung {device : JsString} (reached : facts.rung = .slotUid device) :
    facts.device = some device ∧ looksLikeSlotUid device = true := by
  unfold ModemIdentityFacts.rung at reached
  split at reached
  · next labelled =>
      cases reached
      exact Option.filter_eq_some_iff.mp labelled
  · split at reached
    · cases reached
    · split at reached
      · cases reached
      · split at reached <;> cases reached

theorem path_of_rung {path : JsString} (reached : facts.rung = .runtime path) :
    path = facts.runtimePath := by
  unfold ModemIdentityFacts.rung at reached
  split at reached
  · cases reached
  · split at reached
    · cases reached
    · split at reached
      · cases reached
      · split at reached
        · cases reached
        · cases reached
          rfl

/-- Separate modems share a key where they clash on a rung. -/
theorem stableKey_eq_iff_clash {a b : ModemIdentityFacts} (places : ¬ Coincide a b)
    (paths : a.runtimePath ≠ b.runtimePath) :
    a.rung.stableKey = b.rung.stableKey ↔ a.rung.Clash b.rung := by
  rw [stableKey_eq_iff]
  cases left : a.rung <;> cases right : b.rung
  case slotUid.slotUid device device' =>
    obtain ⟨isDevice, label⟩ := device_of_rung left
    constructor
    · rintro ⟨⟩
      exact places (.slotUid label isDevice (device_of_rung right).1)
    · rintro ⟨⟩
  case runtime.runtime path path' =>
    rw [path_of_rung left, path_of_rung right]
    constructor
    · intro same
      exact absurd same paths
    · rintro ⟨⟩
  all_goals exact Iff.rfl

theorem keys_nodup_iff {batch : List ModemIdentityFacts} (separate : Separate batch) :
    (batch.map fun facts => facts.rung.stableKey).Nodup ↔
      batch.Pairwise fun a b => ¬ a.rung.Clash b.rung := by
  have paths : batch.Pairwise fun a b => a.runtimePath ≠ b.runtimePath :=
    List.pairwise_map.mp separate.paths
  have apart := separate.places.and paths
  rw [List.Nodup, List.pairwise_map]
  constructor
  · intro keys
    refine (apart.and keys).imp ?_
    rintro a b ⟨⟨places, paths⟩, key⟩ clash
    exact key ((stableKey_eq_iff_clash places paths).mpr clash)
  · intro rungs
    refine (apart.and rungs).imp ?_
    rintro a b ⟨⟨places, paths⟩, alike⟩ key
    exact alike ((stableKey_eq_iff_clash places paths).mp key)

/-! ### Shared values -/

theorem equipmentValue_eq :
    equipmentValue id = (EquipmentId.value? id).filter fun value => trim value ≠ [] := by
  cases id with
  | imei value confidence | serial value confidence =>
    by_cases blank : trim value = [] <;> simp [equipmentValue, EquipmentId.value?, Option.filter, blank]
  | none => rfl

theorem two_le_countP {α : Type} {p : α → Bool} {items : List α} {i j : Nat} {a b : α}
    (order : i < j) (isA : items[i]? = some a) (isB : items[j]? = some b) (holdsA : p a = true)
    (holdsB : p b = true) : 1 < items.countP p := by
  have before : 0 < (items.take j).countP p := by
    refine List.countP_pos_iff.mpr ⟨a, ?_, holdsA⟩
    exact List.mem_of_getElem? (i := i) (by rw [List.getElem?_take_of_lt order, isA])
  have after : 0 < (items.drop j).countP p := by
    refine List.countP_pos_iff.mpr ⟨b, ?_, holdsB⟩
    exact List.mem_of_getElem? (i := 0) (by rw [List.getElem?_drop, Nat.add_zero, isB])
  have parts := congrArg (List.countP p) (List.take_append_drop j items)
  rw [List.countP_append] at parts
  omega

/-- A value is demoted in a modem that is not the only one to carry it, unless it is blank. -/
theorem duplicatedIn_eq {batch : List ModemIdentityFacts} {i j : Nat} {value : JsString}
    (other : i ≠ j) (isFacts : batch[i]? = some facts)
    (carried : EquipmentId.value? facts.equipmentId = some value) (shared : Carries batch j value) :
    duplicatedIn batch facts = decide (trim value ≠ []) := by
  obtain ⟨facts', isFacts', carried'⟩ := shared
  rw [duplicatedIn, carried]
  by_cases blank : trim value = []
  · have none : carriers batch value = 0 := by
      refine List.countP_eq_zero.mpr fun facts _ => ?_
      rw [equipmentValue_eq, decide_eq_true_eq, Option.filter_eq_some_iff]
      simp [blank]
    simp [none, blank]
  · have counted {facts : ModemIdentityFacts}
        (carried : EquipmentId.value? facts.equipmentId = some value) :
        decide (equipmentValue facts.equipmentId = some value) = true := by
      rw [decide_eq_true_eq, equipmentValue_eq, Option.filter_eq_some_iff]
      exact ⟨carried, by simpa using blank⟩
    have several : 1 < carriers batch value := by
      rcases Nat.lt_or_gt_of_ne other with before | after
      · exact two_le_countP before isFacts isFacts' (counted carried) (counted carried')
      · exact two_le_countP after isFacts' isFacts (counted carried') (counted carried)
    simp [several, blank]

/-! ### The answer of a batch -/

section Answer

variable {batch : List ModemIdentityFacts} {resolved : List ResolvedIdentity}

theorem resolveModemIdentities_ok (paths : ∀ facts ∈ batch, facts.runtimePath ≠ []) :
    ∃ resolved, resolveModemIdentities batch = .ok resolved := by
  have rows : ∀ part : List ModemIdentityFacts, (∀ facts ∈ part, facts.runtimePath ≠ []) →
      ∃ resolved, List.Forall₂ (fun facts row =>
        resolveModemIdentity (demotedIn batch facts) = .ok row) part resolved := by
    intro part paths
    induction part with
    | nil => exact ⟨[], .nil⟩
    | cons facts part ih =>
      obtain ⟨resolved, answers⟩ := ih fun facts mem => paths facts (List.mem_cons_of_mem _ mem)
      have named : (demotedIn batch facts).runtimePath ≠ [] := by
        rw [path_demotedIn]
        exact paths facts List.mem_cons_self
      obtain ⟨row, isRow, -⟩ := resolveModemIdentity_ok named
      exact ⟨row :: resolved, .cons isRow answers⟩
  obtain ⟨resolved, answers⟩ := rows batch paths
  rw [resolveModemIdentities_eq]
  exact ⟨resolved, mapM_ok.mpr answers⟩

/-- Every modem has its row, resolved from its own facts but for the demotion. -/
theorem answers_of_ok (ok : resolveModemIdentities batch = .ok resolved) :
    List.Forall₂ (fun facts row => Answers (demotedIn batch facts) row) batch resolved := by
  rw [resolveModemIdentities_eq] at ok
  refine (mapM_ok.mp ok).imp fun {facts row} isRow => ?_
  obtain ⟨row', isRow', answers⟩ := resolveModemIdentity_ok (resolveModemIdentity_named isRow)
  cases isRow.symm.trans isRow'
  exact answers

theorem paths_of_ok (ok : resolveModemIdentities batch = .ok resolved) :
    ∀ facts ∈ batch, facts.runtimePath ≠ [] := by
  rw [resolveModemIdentities_eq] at ok
  intro facts mem
  obtain ⟨i, isFacts⟩ := List.mem_iff_getElem?.mp mem
  obtain ⟨row, -, isRow⟩ := partner_of_getElem? (mapM_ok.mp ok) isFacts
  have named := resolveModemIdentity_named isRow
  rwa [path_demotedIn] at named

theorem keys_of_ok (ok : resolveModemIdentities batch = .ok resolved) :
    resolved.map ResolvedIdentity.stableKey = batch.map fun facts => facts.rung.stableKey := by
  have same : List.Forall₂ (· = ·) (batch.map fun facts => facts.rung.stableKey)
      (resolved.map ResolvedIdentity.stableKey) := by
    rw [List.forall₂_map_left_iff, List.forall₂_map_right_iff]
    refine (answers_of_ok ok).imp fun facts row answers => ?_
    rw [answers.key, rung_demotedIn]
  rw [List.forall₂_eq_eq_eq] at same
  exact same.symm

theorem each_of_ok (ok : resolveModemIdentities batch = .ok resolved) :
    List.Forall₂ (fun facts row => row.identity.runtimePath = facts.runtimePath) batch resolved := by
  refine (answers_of_ok ok).imp fun facts row answers => ?_
  rw [answers.path, path_demotedIn]

/-- The row of a modem whose value another one carries. -/
theorem shared_of_ok (ok : resolveModemIdentities batch = .ok resolved) {i j : Nat}
    {facts : ModemIdentityFacts} {value : JsString} (other : i ≠ j)
    (isFacts : batch[i]? = some facts)
    (carried : EquipmentId.value? facts.equipmentId = some value) (shared : Carries batch j value) :
    ∃ row, resolved[i]? = some row ∧ EquipmentId.value? row.identity.equipmentId = some value ∧
      row.identity.equipmentId.confidence =
        if trim value = [] then facts.equipmentId.confidence else .low := by
  obtain ⟨row, isRow, answers⟩ := partner_of_getElem? (answers_of_ok ok) isFacts
  refine ⟨row, isRow, ?_, ?_⟩
  · rw [answers.equipment, value?_demotedIn, carried]
  · rw [answers.equipment, demotedIn, duplicatedIn_eq other isFacts carried shared]
    by_cases blank : trim value = []
    · simp [blank]
    · simp [blank, confidence_demote]

end Answer

/-- The ladder tells the modems of a batch apart exactly if they are tellable to it. -/
theorem identities_distinct_iff {batch : List ModemIdentityFacts} (separate : Separate batch) :
    (∃ resolved, resolveModemIdentities batch = .ok resolved ∧ ToldApart batch resolved) ↔
      Tellable batch := by
  constructor
  · rintro ⟨resolved, ok, apart⟩
    refine ⟨paths_of_ok ok, ?_, ?_⟩
    · have keys := apart.keys
      rw [keys_of_ok ok] at keys
      exact (keys_nodup_iff separate).mp keys
    · intro i j value other carries shared blank facts isFacts
      obtain ⟨row, isRow, -, low, -⟩ := apart.shared i j value other carries shared
      obtain ⟨facts', isFacts', carried⟩ := carries
      cases isFacts.symm.trans isFacts'
      obtain ⟨row', isRow', -, confidence⟩ := shared_of_ok ok other isFacts carried shared
      cases isRow.symm.trans isRow'
      rw [if_pos blank] at confidence
      exact confidence.symm.trans low
  · intro tellable
    obtain ⟨resolved, ok⟩ := resolveModemIdentities_ok tellable.paths
    refine ⟨resolved, ok, each_of_ok ok, ?_, ?_⟩
    · rw [keys_of_ok ok]
      exact (keys_nodup_iff separate).mpr tellable.rungs
    · intro i j value other carries shared
      have carries' := carries
      obtain ⟨facts, isFacts, carried⟩ := carries
      obtain ⟨row, isRow, isValue, confidence⟩ := shared_of_ok ok other isFacts carried shared
      have low : row.identity.equipmentId.confidence = .low := by
        by_cases blank : trim value = []
        · rw [confidence, if_pos blank]
          exact tellable.blank i j value other carries' shared blank facts isFacts
        · rw [confidence, if_neg blank]
      exact ⟨row, isRow, isValue, low, by simp [canBindPolicy, low]⟩

/-! ### One IMEI in two modems -/

def imeiModem (path : String) (device : Option JsString) : ModemIdentityFacts where
  runtimePath := js path
  device := device
  physdev := none
  ports := none
  equipmentId := imeiEquipmentId (js "490154203237518")

/-- In labelled slots the two are told apart. -/
theorem identities_distinct_slots :
    ∃ resolved, resolveModemIdentities
        [imeiModem "/0" (some (js "slot-a")), imeiModem "/1" (some (js "slot-b"))] = .ok resolved ∧
      ToldApart [imeiModem "/0" (some (js "slot-a")), imeiModem "/1" (some (js "slot-b"))]
        resolved := by
  have separate :
      Separate [imeiModem "/0" (some (js "slot-a")), imeiModem "/1" (some (js "slot-b"))] := by
    refine ⟨by decide, List.pairwise_pair.mpr ?_⟩
    rintro (⟨-, left, right⟩ | ⟨-, left, -⟩ | ⟨-, left, -, -⟩)
    · exact absurd (left.trans right.symm) (by decide)
    · cases left
    · cases left
  refine (identities_distinct_iff separate).mpr ⟨by decide, List.pairwise_pair.mpr ?_, ?_⟩
  · have first : (imeiModem "/0" (some (js "slot-a"))).rung = .slotUid (js "slot-a") := by decide
    have second : (imeiModem "/1" (some (js "slot-b"))).rung = .slotUid (js "slot-b") := by decide
    rw [first, second]
    rintro ⟨⟩
  · rintro i j value - ⟨facts, isFacts, carried⟩ - blank
    have mem := List.mem_of_getElem? isFacts
    have isValue : value = js "490154203237518" := by
      rcases List.mem_pair.mp mem with rfl | rfl <;> cases carried <;> rfl
    exact absurd (isValue ▸ blank) (by decide)

/-- Without labels, paths and ports both are keyed by the IMEI. -/
theorem identities_shared_imei :
    Separate [imeiModem "/0" none, imeiModem "/1" none] ∧
      ¬ ∃ resolved, resolveModemIdentities [imeiModem "/0" none, imeiModem "/1" none] =
          .ok resolved ∧
        ToldApart [imeiModem "/0" none, imeiModem "/1" none] resolved := by
  constructor
  · refine ⟨by decide, List.pairwise_pair.mpr ?_⟩
    rintro (⟨-, left, -⟩ | ⟨-, left, -⟩ | ⟨-, left, -, -⟩) <;> cases left
  · rintro ⟨resolved, ok, apart⟩
    have keys := apart.keys
    rw [keys_of_ok ok] at keys
    exact absurd keys (by decide)

end ModemStack.Backend
