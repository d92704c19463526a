import Mathlib.Data.List.Nodup
import Mathlib.Data.List.TakeWhile
import ModemStack.Text.NumericString
import ModemStack.UsbMode.RuntimeCapability

/-!
The runtime capability of a module: the compositions it enumerates, the one it is in, and which of
them may be offered.

The vendors' decimal domains hold safe integers only, but those of Sierra are not checked.
`resolved_consistent_iff` says when all that is offered can be commanded.
-/

namespace ModemStack.UsbMode

open ModemStack.Text

structure RuntimeCompositionResponse where
  vendor : JsString
  currentResponse : JsString
  enumerationResponse : JsString

structure ParsedCapability where
  current : RuntimeCompositionMode
  enumerated : List RuntimeCompositionMode

/-- Why a capability is unknown. -/
inductive UnknownReason where
  | vendorUnsupported
  | malformedResponse
deriving DecidableEq

structure ResolvedCapability where
  current : RuntimeCompositionMode
  enumerated : List RuntimeCompositionMode
  returnPathProven : Bool
  offerable : List RuntimeCompositionMode
deriving DecidableEq

/-! ### Decimal domains -/

/-- The captures of `/^(\d+)-(\d+)$/`. -/
def rangeOf (token : JsString) : Option (JsString × JsString) :=
  match token.dropWhile isDigitUnit with
  | dash :: rest =>
    let start := token.takeWhile isDigitUnit
    if dash = minusSign ∧ start ≠ [] ∧ isNumeral rest then some (start, rest) else none
  | [] => none

/-- The numbers of one member of a domain. -/
def parseMember (member : JsString) : Option (List Nat) :=
  let token := trim member
  match rangeOf token with
  | some (start, last) => do
      let start ← safeInteger start
      let last ← safeInteger last
      if last < start ∨ 255 < last - start then none
      else some ((List.range (last - start + 1)).map (start + ·))
  | none => if isNumeral token then (safeInteger token).map ([·]) else none

def parseDecimalDomain (domain : JsString) : Option (List Nat) := do
  let members ← (domain.splitOn comma).mapM parseMember
  let values := members.flatten
  if values ≠ [] ∧ values.Nodup then some values else none

/-! ### Replies -/

/-- `[^)]+` -/
def untilParenthesis : Pattern := .run (fun c => c ≠ 0x29) 1 none

/-- `.+` -/
def someText : Pattern := .run (fun c => !isLineTerminator c) 1 none

/-- The line that answers a vendor's TEST command; that of Sierra is one of several. -/
def enumerationPattern : RuntimeCompositionVendor → Pattern
  | .fibocom => .all [.lineStart, .spaces, .literal (js "+GTUSBMODE:"), .spaces,
      .literal (js "("), .group untilParenthesis, .literal (js ")"), .spaces, .lineEnd]
  | .quectel => .all [.lineStart, .spaces, .literal (js "+QCFG:"), .spaces,
      .literal (js "\"usbnet\""), .spaces, .literal (js ","), .spaces,
      .literal (js "("), .group untilParenthesis, .literal (js ")"), .spaces, .lineEnd]
  | .simcom => .all [.literal (js "+CUSBPIDSWITCH:"), .spaces, .literal (js "("),
      .group untilParenthesis, .literal (js ")"), .spaces, .literal (js ","), .spaces,
      .literal (js "(0-1)"), .spaces, .literal (js ","), .spaces, .literal (js "(0-1)")]
  | .sierra => .all [.lineStart, .spaces, .group .digits, .spaces, .literal (js ":"), .spaces,
      someText, .lineEnd]

/-- `toUpperCase` as far as it can give hexadecimal digits: of all characters outside ASCII only
the ligature of two letters `f` becomes such. -/
def upperHex (text : JsString) : JsString :=
  upperAscii (text.flatMap fun c => if c = 0xFB00 then js "ff" else [c])

/-- `/^[0-9A-F]{4}$/` -/
def isUpperCode (token : JsString) : Bool :=
  token.length = 4 && token.all fun c => isDigitUnit c || (0x41 ≤ c.toNat && c.toNat ≤ 0x46)

/-- The current value is read the way it is read after a switch. -/
def parsedCurrent (vendor : RuntimeCompositionVendor) (response : JsString) :
    Option RuntimeCompositionMode :=
  ((currentPattern vendor).exec response).map fun groups => capturedMode vendor (groups.headD [])

def parseDecimal (vendor : RuntimeCompositionVendor) (input : RuntimeCompositionResponse) :
    Option ParsedCapability := do
  let current ← parsedCurrent vendor input.currentResponse
  let groups ← (enumerationPattern vendor).exec input.enumerationResponse
  let values ← parseDecimalDomain (groups.headD [])
  some ⟨current, values.map fun n : Nat => .number (.finite n)⟩

def parseFibocom : RuntimeCompositionResponse → Option ParsedCapability := parseDecimal .fibocom

def parseQuectel : RuntimeCompositionResponse → Option ParsedCapability := parseDecimal .quectel

def parseSimcom (input : RuntimeCompositionResponse) : Option ParsedCapability := do
  let current ← parsedCurrent .simcom input.currentResponse
  let groups ← (enumerationPattern .simcom).exec input.enumerationResponse
  let tokens := ((groups.headD []).splitOn comma).map fun token => upperHex (trim token)
  if tokens.all isUpperCode ∧ tokens.Nodup then some ⟨current, tokens.map .code⟩ else none

/-- The numbers in front of the lines that list the compositions. -/
def sierraLines (response : JsString) : List JsString :=
  ((enumerationPattern .sierra).matchAll response).map fun groups => groups.headD []

def parseSierra (input : RuntimeCompositionResponse) : Option ParsedCapability := do
  let current ← parsedCurrent .sierra input.currentResponse
  let enumerated := (sierraLines input.enumerationResponse).map Double.ofDigits
  if enumerated ≠ [] ∧ enumerated.Nodup then some ⟨current, enumerated.map .number⟩ else none

def parsers : RuntimeCompositionVendor → RuntimeCompositionResponse → Option ParsedCapability
  | .fibocom => parseFibocom
  | .quectel => parseQuectel
  | .simcom => parseSimcom
  | .sierra => parseSierra

/-- A number that was read is no `NaN` and no negative zero, so that `includes` is membership. -/
def resolveRuntimeCompositionCapability (input : RuntimeCompositionResponse) :
    Except UnknownReason ResolvedCapability :=
  match normalizedVendor input.vendor with
  | none => .error .vendorUnsupported
  | some vendor =>
    match parsers vendor input with
    | none => .error .malformedResponse
    | some parsed =>
      let returnPathProven := decide (parsed.current ∈ parsed.enumerated)
      .ok ⟨parsed.current, parsed.enumerated, returnPathProven,
        if returnPathProven then parsed.enumerated else []⟩

/-! ### What a reply lists -/

/-- A member of a domain is the number, or a range around it. -/
def InMember (member : JsString) (n : Nat) : Prop :=
  (isNumeral (trim member) = true ∧ decimalValue (trim member) = n) ∨
    ∃ start last, rangeOf (trim member) = some (start, last) ∧ decimalValue start ≤ n ∧
      n ≤ decimalValue last

def ListsNumber (vendor : RuntimeCompositionVendor) (reply : JsString) (n : Nat) : Prop :=
  match vendor with
  | .sierra => ∃ digits ∈ sierraLines reply, decimalValue digits = n
  | vendor => ∃ groups, (enumerationPattern vendor).exec reply = some groups ∧
      ∃ member ∈ (groups.headD []).splitOn comma, InMember member n

/-- A code is listed in letters of either case. -/
def ListsCode (reply code : JsString) : Prop :=
  ∃ groups, (enumerationPattern .simcom).exec reply = some groups ∧
    ∃ token ∈ (groups.headD []).splitOn comma, upperHex (trim token) = code

/-- The text in front of the value in a SET command. -/
def setStart : RuntimeCompositionVendor → JsString
  | .fibocom => js "AT+GTUSBMODE="
  | .quectel => js "AT+QCFG=\"usbnet\","
  | .simcom => js "AT+CUSBPIDSWITCH="
  | .sierra => js "AT!USBCOMP="

/-- The command names a number or a code that the modem has listed, and the mode is that. -/
def Sets (vendor : RuntimeCompositionVendor) (reply : JsString) (mode : RuntimeCompositionMode)
    (command : JsString) : Prop :=
  match vendor with
  | .simcom => ∃ code, ListsCode reply code ∧ mode = .code code ∧
      command = setStart .simcom ++ code ++ js ",1,1"
  | vendor => ∃ n : Nat, ListsNumber vendor reply n ∧ mode = .number (.finite n) ∧
      command = setStart vendor ++ printNat n

structure Consistent (input : RuntimeCompositionResponse) (resolved : ResolvedCapability) :
    Prop where
  current : readRuntimeCompositionCurrent input.vendor input.currentResponse =
    some resolved.current
  distinct : resolved.enumerated.Nodup
  offered : resolved.offerable =
    if resolved.current ∈ resolved.enumerated then resolved.enumerated else []
  commands : ∀ mode ∈ resolved.offerable, ∃ vendor command,
    normalizedVendor input.vendor = some vendor ∧
      buildRuntimeCompositionSetCommand input.vendor mode = some command ∧
        Sets vendor input.enumerationResponse mode command
  apart : ∀ mode ∈ resolved.offerable, ∀ other ∈ resolved.offerable,
    buildRuntimeCompositionSetCommand input.vendor mode =
      buildRuntimeCompositionSetCommand input.vendor other → mode = other

/-- Where Sierra's numbers are distinct and the current one is among them, all are exact. -/
def ExactSierra (input : RuntimeCompositionResponse) : Prop :=
  normalizedVendor input.vendor = some .sierra →
    ∀ groups, (currentPattern .sierra).exec input.currentResponse = some groups →
      let listed := (sierraLines input.enumerationResponse).map Double.ofDigits
      listed.Nodup → Double.ofDigits (groups.headD []) ∈ listed →
        ∀ digits ∈ sierraLines input.enumerationResponse, decimalValue digits < 2 ^ 53

/-! ### Decimal vendors -/

section Decimal

theorem parseMember_some {member : JsString} {values : List Nat}
    (parsed : parseMember member = some values) : ∀ n ∈ values, InMember member n ∧ n < 2 ^ 53 := by
  intro n mem
  unfold parseMember at parsed
  simp only at parsed
  split at parsed
  · next start last isRange =>
    obtain ⟨first, isFirst, parsed⟩ := Option.bind_eq_some_iff.mp parsed
    obtain ⟨final, isFinal, parsed⟩ := Option.bind_eq_some_iff.mp parsed
    split at parsed
    · cases parsed
    · next fits =>
      cases parsed
      obtain ⟨offset, inside, rfl⟩ := List.mem_map.mp mem
      have inside := List.mem_range.mp inside
      obtain ⟨rfl, -⟩ := safeInteger_eq_some.mp isFirst
      obtain ⟨rfl, below⟩ := safeInteger_eq_some.mp isFinal
      refine ⟨.inr ⟨start, last, isRange, by omega, by omega⟩, by omega⟩
  · split at parsed
    · next numeral =>
      obtain ⟨value, isValue, rfl⟩ := Option.map_eq_some_iff.mp parsed
      obtain rfl := List.mem_singleton.mp mem
      obtain ⟨same, below⟩ := safeInteger_eq_some.mp isValue
      exact ⟨.inl ⟨numeral, same⟩, below⟩
    · cases parsed

theorem mem_of_mapM {α β : Type} {f : α → Option (List β)} {items : List α}
    {lists : List (List β)} (mapped : items.mapM f = some lists) {b : β}
    (mem : b ∈ lists.flatten) : ∃ item ∈ items, ∃ list, f item = some list ∧ b ∈ list := by
  induction items generalizing lists with
  | nil =>
    cases mapped
    cases mem
  | cons item items ih =>
    rw [List.mapM_cons] at mapped
    obtain ⟨list, isList, mapped⟩ := Option.bind_eq_some_iff.mp mapped
    obtain ⟨rest, isRest, mapped⟩ := Option.bind_eq_some_iff.mp mapped
    cases mapped
    rcases List.mem_append.mp mem with here | there
    · exact ⟨item, List.mem_cons_self, list, isList, here⟩
    · obtain ⟨other, isItem, found⟩ := ih isRest there
      exact ⟨other, List.mem_cons_of_mem _ isItem, found⟩

theorem numbered_injective :
    Function.Injective fun n : Nat => RuntimeCompositionMode.number (.finite n) := by
  intro n m same
  exact_mod_cast Double.finite.inj (RuntimeCompositionMode.number.inj same)

theorem parseDecimalDomain_some {domain : JsString} {values : List Nat}
    (parsed : parseDecimalDomain domain = some values) : values.Nodup ∧
      ∀ n ∈ values, (∃ member ∈ domain.splitOn comma, InMember member n) ∧ n < 2 ^ 53 := by
  obtain ⟨members, isMembers, parsed⟩ := Option.bind_eq_some_iff.mp parsed
  simp only at parsed
  split at parsed
  · next distinct =>
    cases parsed
    refine ⟨distinct.2, fun n mem => ?_⟩
    obtain ⟨member, isMember, list, isList, inside⟩ := mem_of_mapM isMembers mem
    obtain ⟨listed, below⟩ := parseMember_some isList n inside
    exact ⟨⟨member, isMember, listed⟩, below⟩
  · cases parsed

theorem parseDecimal_some {vendor : RuntimeCompositionVendor} {input : RuntimeCompositionResponse}
    {parsed : ParsedCapability} (decimal : vendor = .fibocom ∨ vendor = .quectel)
    (isParsed : parseDecimal vendor input = some parsed) :
    parsedCurrent vendor input.currentResponse = some parsed.current ∧
      parsed.enumerated.Nodup ∧ ∀ mode ∈ parsed.enumerated, ∃ n : Nat,
        mode = .number (.finite n) ∧ n < 2 ^ 53 ∧
          ListsNumber vendor input.enumerationResponse n := by
  obtain ⟨current, isCurrent, isParsed⟩ := Option.bind_eq_some_iff.mp isParsed
  obtain ⟨groups, isGroups, isParsed⟩ := Option.bind_eq_some_iff.mp isParsed
  obtain ⟨values, isValues, isParsed⟩ := Option.bind_eq_some_iff.mp isParsed
  cases isParsed
  obtain ⟨distinct, listed⟩ := parseDecimalDomain_some isValues
  refine ⟨isCurrent, List.Nodup.map numbered_injective distinct, fun mode mem => ?_⟩
  obtain ⟨n, isValue, rfl⟩ := List.mem_map.mp mem
  obtain ⟨members, below⟩ := listed n isValue
  refine ⟨n, rfl, below, ?_⟩
  rcases decimal with rfl | rfl
  · exact ⟨groups, isGroups, members⟩
  · exact ⟨groups, isGroups, members⟩

end Decimal

/-! ### SIMCom -/

variable {code : JsString} {parsed : ParsedCapability}

theorem upperAscii_upper (upper : isUpperCode code = true) : upperAscii code = code := by
  rw [isUpperCode, Bool.and_eq_true] at upper
  refine (List.map_congr_left fun c mem => ?_).trans (List.map_id code)
  have hex := List.all_eq_true.mp upper.2 c mem
  simp only [isDigitUnit, Bool.or_eq_true, Bool.and_eq_true, decide_eq_true_eq] at hex
  rw [if_neg (by omega), id]

theorem isHex_of_upper (upper : isUpperCode code = true) :
    ∀ c ∈ code, ((0x30 ≤ c.toNat && c.toNat ≤ 0x39) || (0x41 ≤ c.toNat && c.toNat ≤ 0x46) ||
      (0x61 ≤ c.toNat && c.toNat ≤ 0x66)) = true := by
  rw [isUpperCode, Bool.and_eq_true] at upper
  intro c mem
  exact Bool.or_eq_true_iff.mpr (.inl (List.all_eq_true.mp upper.2 c mem))

theorem simcomSetCommand_upper (upper : isUpperCode code = true) :
    simcomSetCommand (.code code) = some (setStart .simcom ++ code ++ js ",1,1") := by
  have both := upper
  rw [isUpperCode, Bool.and_eq_true, decide_eq_true_eq] at both
  have isHex : (Pattern.hex4.exec code).isSome := by
    apply Pattern.exec_of_matchAt
    have whole : (code.takeWhile _).length = code.length :=
      congrArg List.length (List.takeWhile_eq_self_iff.mpr (isHex_of_upper upper))
    rw [Pattern.hex4, Pattern.matchAt]
    simp only [whole, both.1]
    rfl
  rw [simcomSetCommand, if_pos ⟨both.1, isHex⟩, upperAscii_upper upper]
  rfl

variable {input : RuntimeCompositionResponse} {vendor : RuntimeCompositionVendor}

theorem parseSimcom_some (isParsed : parseSimcom input = some parsed) :
    parsedCurrent .simcom input.currentResponse = some parsed.current ∧
      parsed.enumerated.Nodup ∧ ∀ mode ∈ parsed.enumerated, ∃ code,
        mode = .code code ∧ isUpperCode code = true ∧
          ListsCode input.enumerationResponse code := by
  obtain ⟨current, isCurrent, isParsed⟩ := Option.bind_eq_some_iff.mp isParsed
  obtain ⟨groups, isGroups, isParsed⟩ := Option.bind_eq_some_iff.mp isParsed
  simp only at isParsed
  split at isParsed
  · next proper =>
    cases isParsed
    refine ⟨isCurrent, List.Nodup.map (fun a b same => RuntimeCompositionMode.code.inj same) proper.2,
      fun mode mem => ?_⟩
    obtain ⟨code, isToken, rfl⟩ := List.mem_map.mp mem
    have upper := List.all_eq_true.mp proper.1 code isToken
    obtain ⟨token, isListed, rfl⟩ := List.mem_map.mp isToken
    exact ⟨_, rfl, upper, groups, isGroups, token, isListed, rfl⟩
  · cases isParsed

/-! ### Sierra -/

theorem number_injective : Function.Injective RuntimeCompositionMode.number := by
  intro value value' same
  exact RuntimeCompositionMode.number.inj same

theorem parseSierra_some (isParsed : parseSierra input = some parsed) :
    parsedCurrent .sierra input.currentResponse = some parsed.current ∧
      ((sierraLines input.enumerationResponse).map Double.ofDigits).Nodup ∧
        parsed.enumerated =
          ((sierraLines input.enumerationResponse).map Double.ofDigits).map .number := by
  obtain ⟨current, isCurrent, isParsed⟩ := Option.bind_eq_some_iff.mp isParsed
  simp only at isParsed
  split at isParsed
  · next proper =>
    cases isParsed
    exact ⟨isCurrent, proper.2, rfl⟩
  · cases isParsed

/-! ### What is offered -/

theorem resolve_eq_ok {resolved : ResolvedCapability} :
    resolveRuntimeCompositionCapability input = .ok resolved ↔ ∃ vendor parsed,
      normalizedVendor input.vendor = some vendor ∧ parsers vendor input = some parsed ∧
        resolved = ⟨parsed.current, parsed.enumerated, decide (parsed.current ∈ parsed.enumerated),
          if parsed.current ∈ parsed.enumerated then parsed.enumerated else []⟩ := by
  unfold resolveRuntimeCompositionCapability
  constructor
  · intro answered
    split at answered
    · cases answered
    · next vendor named =>
      split at answered
      · cases answered
      · next parsed isParsed =>
        cases answered
        exact ⟨vendor, parsed, named, isParsed, by simp only [decide_eq_true_eq]⟩
  · rintro ⟨vendor, parsed, named, isParsed, rfl⟩
    simp only [named, isParsed, decide_eq_true_eq]

theorem decimalSetCommand_natural {start : JsString} {n : Nat} (safe : n < 2 ^ 53) :
    decimalSetCommand start (.number (.finite n)) = some (start ++ printNat n) := by
  rw [decimalSetCommand, if_pos (Double.isSafeNatural_natural.mpr safe), Double.text_natural safe]

/-- The command of an offered mode names what the modem listed. -/
def Commanded (vendor : RuntimeCompositionVendor) (reply : JsString)
    (mode : RuntimeCompositionMode) : Prop :=
  ∃ command, runtimeCompositionSetRegistry vendor mode = some command ∧
    Sets vendor reply mode command

theorem registry_decimal (decimal : vendor ≠ .simcom) :
    runtimeCompositionSetRegistry vendor = decimalSetCommand (setStart vendor) := by
  cases vendor with
  | fibocom => rfl
  | quectel => rfl
  | simcom => exact absurd rfl decimal
  | sierra => rfl

theorem sets_decimal (decimal : vendor ≠ .simcom) {reply command : JsString}
    {mode : RuntimeCompositionMode} :
    Sets vendor reply mode command ↔ ∃ n : Nat, ListsNumber vendor reply n ∧
      mode = .number (.finite n) ∧ command = setStart vendor ++ printNat n := by
  cases vendor with
  | fibocom => rfl
  | quectel => rfl
  | simcom => exact absurd rfl decimal
  | sierra => rfl

theorem commanded_number (decimal : vendor ≠ .simcom) {reply : JsString} {n : Nat}
    (safe : n < 2 ^ 53) (listed : ListsNumber vendor reply n) :
    Commanded vendor reply (.number (.finite n)) := by
  refine ⟨setStart vendor ++ printNat n, ?_, (sets_decimal decimal).mpr ⟨n, listed, rfl, rfl⟩⟩
  rw [registry_decimal decimal, decimalSetCommand_natural safe]

theorem commanded_code {reply code : JsString} (upper : isUpperCode code = true)
    (listed : ListsCode reply code) : Commanded .simcom reply (.code code) :=
  ⟨_, simcomSetCommand_upper upper, code, listed, rfl, rfl⟩

/-- A command names one mode. -/
theorem Sets.mode_eq {reply command : JsString} {mode other : RuntimeCompositionMode}
    (sets : Sets vendor reply mode command) (sets' : Sets vendor reply other command) :
    mode = other := by
  by_cases simcom : vendor = .simcom
  · subst simcom
    obtain ⟨code, -, rfl, rfl⟩ := sets
    obtain ⟨code', -, rfl, same⟩ := sets'
    rw [List.append_cancel_left (List.append_cancel_right same)]
  · obtain ⟨n, -, rfl, rfl⟩ := (sets_decimal simcom).mp sets
    obtain ⟨m, -, rfl, same⟩ := (sets_decimal simcom).mp sets'
    rw [printNat_injective (List.append_cancel_left same)]

theorem build_eq (named : normalizedVendor input.vendor = some vendor)
    (mode : RuntimeCompositionMode) : buildRuntimeCompositionSetCommand input.vendor mode =
      runtimeCompositionSetRegistry vendor mode := by
  rw [buildRuntimeCompositionSetCommand, named, Option.bind_some]

theorem consistent_of_commanded (named : normalizedVendor input.vendor = some vendor)
    (isCurrent : parsedCurrent vendor input.currentResponse = some parsed.current)
    (distinct : parsed.enumerated.Nodup) (commanded : parsed.current ∈ parsed.enumerated →
      ∀ mode ∈ parsed.enumerated, Commanded vendor input.enumerationResponse mode) :
    Consistent input ⟨parsed.current, parsed.enumerated,
      decide (parsed.current ∈ parsed.enumerated),
      if parsed.current ∈ parsed.enumerated then parsed.enumerated else []⟩ := by
  have offered : ∀ mode ∈ (if parsed.current ∈ parsed.enumerated then parsed.enumerated else []),
      Commanded vendor input.enumerationResponse mode := by
    intro mode mem
    split at mem
    · next member => exact commanded member mode mem
    · cases mem
  constructor
  · obtain ⟨groups, isGroups, same⟩ := Option.map_eq_some_iff.mp isCurrent
    simp only [readRuntimeCompositionCurrent, named, isGroups, Option.bind_eq_bind,
      Option.bind_some, same, Option.pure_def]
  · exact distinct
  · rfl
  · intro mode mem
    obtain ⟨command, built, sets⟩ := offered mode mem
    exact ⟨vendor, command, named, (build_eq named mode).trans built, sets⟩
  · intro mode mem other mem' same
    obtain ⟨command, built, sets⟩ := offered mode mem
    obtain ⟨command', built', sets'⟩ := offered other mem'
    rw [build_eq named, build_eq named, built, built'] at same
    cases same
    exact sets.mode_eq sets'

theorem exactSierra_of_consistent
    (consistent : ∀ resolved, resolveRuntimeCompositionCapability input = .ok resolved →
      Consistent input resolved) : ExactSierra input := by
  intro named groups isGroups listed distinct member digits isLine
  have read : parsedCurrent .sierra input.currentResponse =
      some (.number (Double.ofDigits (groups.headD []))) := by
    rw [parsedCurrent, isGroups]
    rfl
  have isListed : Double.ofDigits digits ∈ listed := List.mem_map_of_mem isLine
  have isParsed : parseSierra input =
      some ⟨.number (Double.ofDigits (groups.headD [])), listed.map .number⟩ := by
    simp only [parseSierra, read, Option.bind_eq_bind, Option.bind_some]
    exact if_pos ⟨List.ne_nil_of_mem isListed, distinct⟩
  have returns : RuntimeCompositionMode.number (Double.ofDigits (groups.headD [])) ∈
      listed.map .number := List.mem_map_of_mem member
  have answered := resolve_eq_ok.mpr ⟨.sierra, _, named, isParsed, rfl⟩
  rw [if_pos returns] at answered
  obtain ⟨vendor, command, -, built, -⟩ :=
    (consistent _ answered).commands (.number (Double.ofDigits digits)) (List.mem_map_of_mem isListed)
  rw [build_eq named] at built
  have safe := (Option.ite_none_right_eq_some.mp built).1
  rw [ofDigits_eq] at safe
  exact Double.isSafeNatural_nearest.mp safe

/-- What is offered can be commanded just if Sierra's numbers are exact. -/
theorem resolved_consistent_iff (input : RuntimeCompositionResponse) :
    (∀ resolved, resolveRuntimeCompositionCapability input = .ok resolved →
      Consistent input resolved) ↔ ExactSierra input := by
  refine ⟨exactSierra_of_consistent, fun exact resolved answered => ?_⟩
  obtain ⟨vendor, parsed, named, isParsed, rfl⟩ := resolve_eq_ok.mp answered
  have decimal : vendor = .fibocom ∨ vendor = .quectel → parseDecimal vendor input = some parsed →
      Consistent input ⟨parsed.current, parsed.enumerated,
        decide (parsed.current ∈ parsed.enumerated),
        if parsed.current ∈ parsed.enumerated then parsed.enumerated else []⟩ := by
    intro vendors isParsed
    obtain ⟨isCurrent, distinct, numbers⟩ := parseDecimal_some vendors isParsed
    refine consistent_of_commanded named isCurrent distinct fun _ mode mem => ?_
    obtain ⟨n, rfl, safe, listed⟩ := numbers mode mem
    exact commanded_number (by rintro rfl; rcases vendors with impossible | impossible <;>
      cases impossible) safe listed
  cases vendor with
  | fibocom => exact decimal (.inl rfl) isParsed
  | quectel => exact decimal (.inr rfl) isParsed
  | simcom =>
    obtain ⟨isCurrent, distinct, codes⟩ := parseSimcom_some isParsed
    refine consistent_of_commanded named isCurrent distinct fun _ mode mem => ?_
    obtain ⟨code, rfl, upper, listed⟩ := codes mode mem
    exact commanded_code upper listed
  | sierra =>
    obtain ⟨isCurrent, distinct, lines⟩ := parseSierra_some isParsed
    obtain ⟨groups, isGroups, same⟩ := Option.map_eq_some_iff.mp isCurrent
    refine consistent_of_commanded named isCurrent ?_ fun member mode mem => ?_
    · rw [lines]
      exact List.Nodup.map number_injective distinct
    · rw [lines] at member mem
      rw [← same] at member
      have isListed := (List.mem_map_of_injective number_injective).mp member
      obtain ⟨value, isValue, rfl⟩ := List.mem_map.mp mem
      obtain ⟨digits, isLine, rfl⟩ := List.mem_map.mp isValue
      have safe := exact named groups isGroups distinct isListed digits isLine
      rw [ofDigits_eq, Double.nearest_natural safe]
      exact commanded_number (by decide) safe ⟨digits, isLine, rfl⟩

/-- Sierra lists a number that is no safe integer. It is offered and cannot be commanded. -/
theorem inexact_number_offered :
    let input : RuntimeCompositionResponse :=
      ⟨js "sierra", js "!USBCOMP: 1", js "1 : A\n9007199254740992 : B"⟩
    let modes := [1, 2 ^ 53].map fun n : Nat => RuntimeCompositionMode.number (.finite n)
    resolveRuntimeCompositionCapability input = .ok ⟨.number (.finite 1), modes, true, modes⟩ ∧
      buildRuntimeCompositionSetCommand input.vendor (.number (.finite (2 ^ 53))) = none ∧
        ¬ Consistent input ⟨.number (.finite 1), modes, true, modes⟩ := by
  intro input modes
  have silent : buildRuntimeCompositionSetCommand input.vendor (.number (.finite (2 ^ 53))) =
      none := by
    decide
  refine ⟨by decide +kernel, silent, fun consistent => ?_⟩
  obtain ⟨vendor, command, -, built, -⟩ :=
    consistent.commands (.number (.finite (2 ^ 53))) (by decide)
  rw [silent] at built
  cases built

end ModemStack.UsbMode
