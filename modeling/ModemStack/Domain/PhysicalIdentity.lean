import Mathlib.Data.List.Infix
import ModemStack.Data.Except
import ModemStack.Domain.State
import ModemStack.Text.Trim

/-!
Physical modem identities: a serial number, an `ID_PATH` or a bounded fallback, which must not
be the name a radio or a session goes by.

The white space before a prefix and after the identity is dropped, that between the two is not.
`physicalModemId_admits_iff` says when this lets a refused identifier in.
-/

namespace ModemStack.Domain

open ModemStack.Data ModemStack.Text

/-! ### Identities -/

inductive PhysicalIdentitySource where
  | serial
  | idPath
  | fallback
deriving DecidableEq

structure PhysicalIdentityFacts where
  serial : Option JsString
  idPath : Option JsString
  fallback : Option JsString

inductive PhysicalModemIdentityErrorReason where
  | empty
  | unsupportedShape
  | mmObjectPath
  | interfaceName
  | ipAddress
  | equipmentIdentifier
  | subscriberIdentifier
  | fallbackTooLong
  | noIdentityFacts
deriving DecidableEq

def PHYSICAL_ID_PREFIXES : List (PhysicalIdentitySource × JsString) :=
  [(.serial, js "serial:"), (.idPath, js "id-path:"), (.fallback, js "fallback:")]

/-- The text before the identity part: the source and a colon. -/
def PhysicalIdentitySource.mark : PhysicalIdentitySource → JsString
  | .serial => js "serial:"
  | .idPath => js "id-path:"
  | .fallback => js "fallback:"

def FALLBACK_MAX_LENGTH : Nat := 128

/-! ### What an identity must not be -/

def MM_OBJECT_PATH : JsString := js "/org/freedesktop/ModemManager1/Modem"

/-- `/^\/org\/freedesktop\/ModemManager1\/Modem(?:\/|$)/` -/
def isMmObjectPath (value : JsString) : Bool :=
  MM_OBJECT_PATH.isPrefixOf value && (value.drop MM_OBJECT_PATH.length).head?.all (· = 0x2F)

/-- Kernel interface and port names, in lower case as the `i` flag compares them. -/
def INTERFACE_NAMES : List JsString :=
  [js "wwan", js "eth", js "enp", js "ens", js "eno", js "wlan", js "wl", js "ppp", js "usb",
    js "rmnet", js "cdc-wdm", js "ttyusb", js "ttyacm"]

/-- `[\w.-]` -/
def isNameUnit (c : UInt16) : Bool :=
  isDigit c || (0x41 ≤ c.toNat && c.toNat ≤ 0x5A) || (0x61 ≤ c.toNat && c.toNat ≤ 0x7A) ||
    c = 0x5F || c = 0x2E || c = 0x2D

/-- `\d[\w.-]*$` -/
def isUnitNumber : JsString → Bool
  | [] => false
  | first :: rest => isDigit first && rest.all isNameUnit

def isInterfaceName (value : JsString) : Bool :=
  INTERFACE_NAMES.any fun name =>
    name.isPrefixOf (lowerAscii value) && isUnitNumber (value.drop name.length)

/-- `/^\d{least,most}$/` -/
def isDigits (least most : Nat) (value : JsString) : Bool :=
  value.all isDigit && least ≤ value.length && value.length ≤ most

def isEquipmentIdentifier (value : JsString) : Bool := isDigits 14 16 value

def isSubscriberIdentifier (value : JsString) : Bool :=
  (js "89").isPrefixOf value && isDigits 16 30 (value.drop 2) || isDigits 18 32 value

/-- `Number(octet)` of decimal digits. -/
def octetValue (octet : JsString) : Nat := octet.foldl (fun n c => n * 10 + (c.toNat - 0x30)) 0

def isIpv4 (value : JsString) : Bool :=
  let octets := value.splitOn 0x2E
  octets.length = 4 && octets.all fun octet => isDigits 1 3 octet && octetValue octet ≤ 255

/-- `[0-9a-f:]` with the `i` flag -/
def isIpv6Unit (c : UInt16) : Bool :=
  isDigit c || (0x41 ≤ c.toNat && c.toNat ≤ 0x46) || (0x61 ≤ c.toNat && c.toNat ≤ 0x66) ||
    c = 0x3A

def isIpv6 (value : JsString) : Bool :=
  if !value.contains 0x3A || !value.all isIpv6Unit then false
  else
    let groups := value.splitOn 0x3A
    let hasCompression := decide (js "::" <:+: value)
    let populatedGroups := groups.filter (· ≠ [])
    populatedGroups.all (fun group => group.length ≤ 4) &&
      if hasCompression then populatedGroups.length < 8 else populatedGroups.length = 8

/-- The class for which an identity part is refused. -/
def refusal (value : JsString) : Option PhysicalModemIdentityErrorReason :=
  if value = [] then some .empty
  else if isMmObjectPath value then some .mmObjectPath
  else if isInterfaceName value then some .interfaceName
  else if isIpv4 value || isIpv6 value then some .ipAddress
  else if isSubscriberIdentifier value then some .subscriberIdentifier
  else if isEquipmentIdentifier value then some .equipmentIdentifier
  else none

def assertSafeIdentityPart (value : JsString) : Except PhysicalModemIdentityErrorReason Unit :=
  match refusal value with
  | some reason => .error reason
  | none => .ok ()

/-! ### Construction -/

def splitPhysicalModemId (value : JsString) :
    Except PhysicalModemIdentityErrorReason (PhysicalIdentitySource × JsString) :=
  match PHYSICAL_ID_PREFIXES.find? fun entry => entry.2.isPrefixOf value with
  | some (source, mark) => .ok (source, value.drop mark.length)
  | none => .error .unsupportedShape

def physicalModemId (value : JsString) : Except PhysicalModemIdentityErrorReason JsString := do
  let (source, identityPart) ← splitPhysicalModemId (trim value)
  assertSafeIdentityPart identityPart
  if source = .fallback ∧ FALLBACK_MAX_LENGTH < identityPart.length then
    .error .fallbackTooLong
  else .ok (source.mark ++ identityPart)

def stableKeyFromPhysicalModemId (id : JsString) : JsString := js "modem:" ++ id

def stableKey (value : JsString) : Except PhysicalModemIdentityErrorReason JsString :=
  if (js "modem:").isPrefixOf value then
    (physicalModemId (value.drop (js "modem:").length)).map stableKeyFromPhysicalModemId
  else .error .unsupportedShape

structure ResolvedPhysicalModemIdentity where
  physicalModemId : JsString
  stableKey : JsString
  source : PhysicalIdentitySource

/-- The facts in the order in which they are looked at. -/
def PhysicalIdentityFacts.candidates (facts : PhysicalIdentityFacts) :
    List (PhysicalIdentitySource × Option JsString) :=
  [(.serial, facts.serial), (.idPath, facts.idPath), (.fallback, facts.fallback)]

def resolvePhysicalModemIdentity (facts : PhysicalIdentityFacts) :
    Except PhysicalModemIdentityErrorReason ResolvedPhysicalModemIdentity :=
  let present := facts.candidates.findSome? fun candidate =>
    ((candidate.2.map trim).filter (· ≠ [])).map fun normalized => (candidate.1, normalized)
  match present with
  | some (source, normalized) => do
      let id ← physicalModemId (source.mark ++ normalized)
      .ok ⟨id, stableKeyFromPhysicalModemId id, source⟩
  | none => .error .noIdentityFacts

/-! ### What is accepted -/

section Accepted

variable {value part : JsString} {source : PhysicalIdentitySource}

theorem splitPhysicalModemId_ok :
    splitPhysicalModemId value = .ok (source, part) ↔ value = source.mark ++ part := by
  constructor
  · intro ok
    unfold splitPhysicalModemId at ok
    split at ok
    · next source' mark found =>
        have isPrefix : mark.isPrefixOf value = true := by simpa using List.find?_some found
        have mem := List.mem_of_find?_eq_some found
        obtain ⟨rest, rfl⟩ := List.isPrefixOf_iff_prefix.mp isPrefix
        rw [List.drop_left] at ok
        cases ok
        simp only [PHYSICAL_ID_PREFIXES, List.mem_cons, List.not_mem_nil, or_false,
          Prod.mk.injEq] at mem
        rcases mem with ⟨rfl, rfl⟩ | ⟨rfl, rfl⟩ | ⟨rfl, rfl⟩ <;> rfl
    · cases ok
  · rintro rfl
    cases source <;> rfl

/-- The identity part may stand after its prefix. -/
structure Fits (source : PhysicalIdentitySource) (part : JsString) : Prop where
  safe : refusal part = none
  bounded : source = .fallback → part.length ≤ FALLBACK_MAX_LENGTH

/-- The result is the text handed in without the white space around it. -/
theorem physicalModemId_ok {id : JsString} : physicalModemId value = .ok id ↔ id = trim value ∧
    ∃ source part, trim value = source.mark ++ part ∧ Fits source part := by
  unfold physicalModemId assertSafeIdentityPart
  constructor
  · intro ok
    obtain ⟨⟨source, part⟩, isSplit, rest⟩ := except_bind_ok.mp ok
    have whole := splitPhysicalModemId_ok.mp isSplit
    cases safe : refusal part with
    | some =>
      simp only [safe] at rest
      cases rest
    | none =>
      simp only [safe] at rest
      change (if source = .fallback ∧ FALLBACK_MAX_LENGTH < part.length then _ else _) = _
        at rest
      split at rest
      · cases rest
      · next bounded =>
        cases rest
        refine ⟨whole.symm, source, part, whole, safe, fun isFallback => ?_⟩
        exact Nat.le_of_not_lt fun long => bounded ⟨isFallback, long⟩
  · rintro ⟨rfl, source, part, whole, fits⟩
    refine except_bind_ok.mpr ⟨(source, part), splitPhysicalModemId_ok.mpr whole, ?_⟩
    have bounded : ¬ (source = .fallback ∧ FALLBACK_MAX_LENGTH < part.length) := by
      rintro ⟨isFallback, long⟩
      exact Nat.not_lt.mpr (fits.bounded isFallback) long
    simp only [fits.safe]
    change (if source = .fallback ∧ FALLBACK_MAX_LENGTH < part.length then _ else _) = _
    rw [if_neg bounded, whole]

end Accepted

/-! ### A part behind white space

Every refused class begins with a unit that is not white space, so a part that does is let
through as it stands. -/

section Behind

variable {c : UInt16} {rest : JsString}

theorem space_toNat (space : isJsSpace c = true) :
    c.toNat ≤ 0x0D ∨ c.toNat = 0x20 ∨ 0xA0 ≤ c.toNat := by
  simp only [isJsSpace, Bool.or_eq_true, Bool.and_eq_true, decide_eq_true_eq,
    ← UInt16.toNat_inj] at space
  simp at space
  omega

theorem beq_space {seen : UInt16} (visible : isJsSpace seen = false)
    (space : isJsSpace c = true) : (seen == c) = false := by
  rw [beq_eq_false_iff_ne]
  rintro rfl
  rw [visible] at space
  cases space

theorem isDigit_space (space : isJsSpace c = true) : isDigit c = false := by
  have place := space_toNat space
  simp only [isDigit, Bool.and_eq_false_iff, decide_eq_false_iff_not]
  omega

theorem isIpv6Unit_space (space : isJsSpace c = true) : isIpv6Unit c = false := by
  have place := space_toNat space
  have colon : c ≠ 0x3A := by
    rintro rfl
    simp at place
  simp only [isIpv6Unit, isDigit_space space, colon, decide_false, Bool.or_false, Bool.false_or,
    Bool.or_eq_false_iff, Bool.and_eq_false_iff, decide_eq_false_iff_not]
  omega

theorem isMmObjectPath_space (space : isJsSpace c = true) : isMmObjectPath (c :: rest) = false := by
  have slash : ((0x2F : UInt16) == c) = false := beq_space rfl space
  have path : MM_OBJECT_PATH = 0x2F :: js "org/freedesktop/ModemManager1/Modem" := rfl
  rw [isMmObjectPath, path, List.isPrefixOf_cons_cons, slash, Bool.false_and, Bool.false_and]

theorem isInterfaceName_space (space : isJsSpace c = true) :
    isInterfaceName (c :: rest) = false := by
  have place := space_toNat space
  have kept : ¬ (0x41 ≤ c.toNat ∧ c.toNat ≤ 0x5A) := by omega
  have letter : ∀ name ∈ INTERFACE_NAMES, ∃ first rest, name = first :: rest ∧
      0x61 ≤ first.toNat ∧ first.toNat ≤ 0x7A := by
    simp [INTERFACE_NAMES, js, unitsOf]
  rw [isInterfaceName, List.any_eq_false]
  intro name mem named
  obtain ⟨first, others, rfl, low, high⟩ := letter name mem
  rw [lowerAscii, List.map_cons, if_neg kept, List.isPrefixOf_cons_cons] at named
  simp only [Bool.and_eq_true, beq_iff_eq] at named
  obtain ⟨⟨rfl, -⟩, -⟩ := named
  omega

theorem isDigits_space {least most : Nat} (space : isJsSpace c = true) :
    isDigits least most (c :: rest) = false := by
  rw [isDigits, List.all_cons, isDigit_space space, Bool.false_and, Bool.false_and, Bool.false_and]

theorem isIpv4_space (space : isJsSpace c = true) : isIpv4 (c :: rest) = false := by
  have dot : (c == 0x2E) = false := by
    rw [Bool.beq_comm, beq_space rfl space]
  obtain ⟨octet, octets, split⟩ := List.exists_cons_of_ne_nil (List.splitOn_ne_nil 0x2E rest)
  have whole : (c :: rest).splitOn 0x2E = (c :: octet) :: octets := by
    rw [List.splitOn_cons_eq_if_modifyHead, dot, split]
    rfl
  rw [isIpv4, whole]
  simp [isDigits_space space]

theorem isIpv6_space (space : isJsSpace c = true) : isIpv6 (c :: rest) = false := by
  simp [isIpv6, isIpv6Unit_space space]

theorem refusal_space (space : isJsSpace c = true) : refusal (c :: rest) = none := by
  have eight : ((0x38 : UInt16) == c) = false := beq_space rfl space
  have subscriber : isSubscriberIdentifier (c :: rest) = false := by
    rw [isSubscriberIdentifier, isDigits_space space, show js "89" = [0x38, 0x39] from rfl,
      List.isPrefixOf_cons_cons, eight]
    rfl
  simp [refusal, isMmObjectPath_space space, isInterfaceName_space space, isIpv4_space space,
    isIpv6_space space, subscriber, isEquipmentIdentifier, isDigits_space space]

end Behind

/-! ### Admission -/

/-- White space stands between the prefix and an identifier that is refused without it. -/
def Padded (value : JsString) : Prop :=
  ∃ (source : PhysicalIdentitySource) (part : JsString), trim value = source.mark ++ part ∧
    (∃ c ∈ part.head?, isJsSpace c = true) ∧
    refusal (trim part) ≠ none ∧ (source = .fallback → part.length ≤ FALLBACK_MAX_LENGTH)

/-- What an accepted identity is taken for. -/
structure Canonical (id : JsString) : Prop where
  again : physicalModemId id = .ok id
  key : stableKey (stableKeyFromPhysicalModemId id) = .ok (stableKeyFromPhysicalModemId id)
  part : ∀ (source : PhysicalIdentitySource) (part : JsString), id = source.mark ++ part →
    refusal (trim part) = none

section Admission

variable {value id : JsString}

theorem mark_inj {source source' : PhysicalIdentitySource} {part part' : JsString}
    (same : source.mark ++ part = source'.mark ++ part') : source = source' ∧ part = part' := by
  have left := splitPhysicalModemId_ok.mpr same
  rw [splitPhysicalModemId_ok.mpr rfl] at left
  cases left
  exact ⟨rfl, rfl⟩

theorem physicalModemId_again (ok : physicalModemId value = .ok id) :
    physicalModemId id = .ok id := by
  obtain ⟨rfl, accepted⟩ := physicalModemId_ok.mp ok
  apply physicalModemId_ok.mpr
  rw [trim_trim]
  exact ⟨rfl, accepted⟩

theorem stableKey_again (again : physicalModemId id = .ok id) :
    stableKey (stableKeyFromPhysicalModemId id) = .ok (stableKeyFromPhysicalModemId id) := by
  have marked : (js "modem:").isPrefixOf (stableKeyFromPhysicalModemId id) = true :=
    List.isPrefixOf_iff_prefix.mpr ⟨id, rfl⟩
  rw [stableKey, if_pos marked, stableKeyFromPhysicalModemId, List.drop_left, again]
  rfl

/-- Of an accepted text only the start of the part can be padded. -/
theorem trimmed_part {source : PhysicalIdentitySource} {part : JsString}
    (whole : trim value = source.mark ++ part) (nonempty : part ≠ [])
    (bare : ∀ c ∈ part.head?, isJsSpace c = false) : Trimmed part := by
  refine ⟨bare, fun c last => (trimmed_trim value).last c ?_⟩
  rw [whole, List.getLast?_append_of_ne_nil _ nonempty]
  exact last

theorem canonical_iff (ok : physicalModemId value = .ok id) : Canonical id ↔ ¬ Padded value := by
  obtain ⟨rfl, source, part, whole, fits⟩ := physicalModemId_ok.mp ok
  constructor
  · rintro canonical ⟨source', part', whole', -, refused, -⟩
    exact refused (canonical.part source' part' whole')
  · intro bare
    have again := physicalModemId_again ok
    refine ⟨again, stableKey_again again, fun source' part' whole' => ?_⟩
    obtain ⟨rfl, rfl⟩ := mark_inj (whole.symm.trans whole')
    by_contra refused
    refine bare ⟨source, part, whole, ?_, refused, fits.bounded⟩
    by_contra visible
    have nonempty : part ≠ [] := by
      rintro rfl
      cases fits.safe
    have trimmed : Trimmed part := by
      apply trimmed_part whole nonempty
      intro c first
      exact Bool.eq_false_iff.mpr fun space => visible ⟨c, first, space⟩
    rw [trim_of_trimmed trimmed] at refused
    exact refused fits.safe

theorem padded_accepted (padded : Padded value) : physicalModemId value = .ok (trim value) := by
  obtain ⟨source, part, whole, ⟨c, first, space⟩, -, bounded⟩ := padded
  refine physicalModemId_ok.mpr ⟨rfl, source, part, whole, ?_, bounded⟩
  cases part with
  | nil => cases first
  | cons =>
    cases first
    exact refusal_space space

/-- What is resolved from the facts is of a trimmed candidate. -/
theorem resolvePhysicalModemIdentity_ok {facts : PhysicalIdentityFacts}
    {resolved : ResolvedPhysicalModemIdentity}
    (ok : resolvePhysicalModemIdentity facts = .ok resolved) :
    ∃ value, physicalModemId value = .ok resolved.physicalModemId := by
  unfold resolvePhysicalModemIdentity at ok
  simp only at ok
  split at ok
  · next source normalized _ =>
    obtain ⟨id, accepted, made⟩ := except_bind_ok.mp ok
    cases made
    exact ⟨_, accepted⟩
  · cases ok

end Admission

/-- An identity part is refused with the white space around it or without, except where the
white space stands before it. What the facts resolve to stands as it is. -/
theorem physicalModemId_admits_iff (value : JsString) (facts : PhysicalIdentityFacts) :
    ((∀ id, physicalModemId value = .ok id → Canonical id) ↔ ¬ Padded value) ∧
      ∀ resolved, resolvePhysicalModemIdentity facts = .ok resolved →
        physicalModemId resolved.physicalModemId = .ok resolved.physicalModemId := by
  constructor
  · constructor
    · intro canonical padded
      have accepted := padded_accepted padded
      exact (canonical_iff accepted).mp (canonical _ accepted) padded
    · intro bare id ok
      exact (canonical_iff ok).mpr bare
  · intro resolved ok
    obtain ⟨value, accepted⟩ := resolvePhysicalModemIdentity_ok ok
    exact physicalModemId_again accepted

/-- A space after the colon lets an IMEI through. -/
theorem physicalModemId_padded_imei :
    physicalModemId (js "serial: 490154203237518") =
        .ok (PhysicalIdentitySource.serial.mark ++ js " 490154203237518") ∧
      refusal (trim (js " 490154203237518")) = some .equipmentIdentifier :=
  ⟨rfl, rfl⟩

/-- The same facts are refused where they are trimmed first. -/
example : resolvePhysicalModemIdentity ⟨some (js " 490154203237518"), none, none⟩ =
    .error .equipmentIdentifier := rfl

end ModemStack.Domain
