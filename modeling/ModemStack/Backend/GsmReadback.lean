import ModemStack.Backend.GsmProfiles

/-!
What is written of a GSM profile, read back from what nmcli prints.

A profile that is created comes back normalised. One that is patched comes back as the patch says
exactly where `readback_iff` says so: a patch writes the fields it names and no others.
-/

namespace ModemStack.Backend

open ModemStack.Data ModemStack.Ports ModemStack.Text
open ModemStack.NetworkManager (GsmProfile)

namespace GsmProfiles

/-! ### Printing -/

/-- A line for each stored field. -/
def printTerse (settings : Settings) : JsString :=
  settings.items.flatMap fun item => item.1 ++ 0x3A :: item.2 ++ [0x0A]

/-- The fields are told apart and stay on their lines. -/
structure Printable (settings : Settings) : Prop where
  distinct : settings.keys.Nodup
  key : ∀ item ∈ settings.items, 0x3A ∉ item.1 ∧ 0x0A ∉ item.1
  value : ∀ item ∈ settings.items, 0x0A ∉ item.2

theorem splitOn_printTerse (items : List (JsString × JsString))
    (lines : ∀ item ∈ items, 0x0A ∉ item.1 ∧ 0x0A ∉ item.2) :
    (items.flatMap fun item => item.1 ++ 0x3A :: item.2 ++ [0x0A]).splitOn 0x0A =
      items.map (fun item => item.1 ++ 0x3A :: item.2) ++ [[]] := by
  induction items with
  | nil => rfl
  | cons item items ih =>
    have line : 0x0A ∉ item.1 ++ 0x3A :: item.2 := by
      obtain ⟨key, value⟩ := lines item List.mem_cons_self
      simp [key, value]
    rw [List.flatMap_cons, List.append_assoc, List.singleton_append,
      List.splitOn_append_cons_self_of_not_mem line,
      ih fun other mem => lines other (List.mem_cons_of_mem item mem)]
    rfl

theorem takeWhile_key {key : JsString} (named : 0x3A ∉ key) (value : JsString) :
    (key ++ 0x3A :: value).takeWhile (fun c => c ≠ 0x3A) = key := by
  rw [List.takeWhile_append_of_pos]
  · simp
  · intro c mem
    simp only [ne_eq, decide_not, Bool.not_eq_true', decide_eq_false_iff_not]
    rintro rfl
    exact named mem

/-- One line is set as it was printed. -/
theorem setLine {key : JsString} (named : 0x3A ∉ key) (value : JsString) (settings : Settings) :
    (let line := key ++ 0x3A :: value
      let first := line.takeWhile fun c => c ≠ 0x3A
      if first.length < line.length then settings.set first (line.drop (first.length + 1))
      else settings) = settings.set key value := by
  have longer : key.length < (key ++ 0x3A :: value).length := by
    rw [List.length_append, List.length_cons]
    omega
  have rest : (key ++ 0x3A :: value).drop (key.length + 1) = value := by
    rw [← List.drop_drop, List.drop_left]
    rfl
  simp only [takeWhile_key named, longer, if_true, rest]

theorem parseTerse_printTerse {settings : Settings} (printable : Printable settings) :
    parseTerse (printTerse settings) = settings := by
  obtain ⟨items⟩ := settings
  obtain ⟨distinct, key, value⟩ := printable
  rw [parseTerse, printTerse, splitOn_printTerse items fun item mem =>
    ⟨(key item mem).2, value item mem⟩, List.foldl_append, List.foldl_map]
  refine Eq.trans ?_ (OrderedMap.ofItems_items distinct)
  exact List.foldl_ext _ (fun m item => m.set item.1 item.2) _ fun m item mem =>
    setLine (key item mem).1 item.2 m

theorem printable_set {settings : Settings} (printable : Printable settings) {key value : JsString}
    (named : 0x3A ∉ key ∧ 0x0A ∉ key) (line : 0x0A ∉ value) : Printable (settings.set key value) := by
  refine ⟨OrderedMap.nodup_set printable.distinct key value, fun item mem => ?_, fun item mem => ?_⟩
  · rcases OrderedMap.mem_setItem mem with old | rfl
    · exact printable.key item old
    · exact named
  · rcases OrderedMap.mem_setItem mem with old | rfl
    · exact printable.value item old
    · exact line

theorem key_printable (field : ProfileField) : 0x3A ∉ field.key ∧ 0x0A ∉ field.key := by
  cases field <;> decide

theorem printable_applyPairs {settings : Settings} (printable : Printable settings)
    {pairs : List (ProfileField × JsString)} (lines : ∀ pair ∈ pairs, 0x0A ∉ pair.2) :
    Printable (applyPairs settings (flattenPairs pairs)) := by
  induction pairs generalizing settings with
  | nil => exact printable
  | cons pair pairs ih =>
    have unfolded : flattenPairs (pair :: pairs) = pair.1.key :: pair.2 :: flattenPairs pairs := rfl
    rw [unfolded, applyPairs, canonicalKey_key]
    exact ih (printable_set printable (key_printable pair.1) (lines pair List.mem_cons_self))
      fun other mem => lines other (List.mem_cons_of_mem pair mem)

/-! ### What is written -/

/-- The texts of a patch. A whole profile is a patch too. -/
def texts (patch : GsmProfilePatch) : List JsString :=
  patch.connectionName.toList ++ patch.apn.toList ++ patch.username.toList ++
    patch.password.toList ++ patch.networkId.toList

def OneLine (patch : GsmProfilePatch) : Prop := ∀ text ∈ texts patch, 0x0A ∉ text

/-- What `createGsmArgs` sets of a new profile. -/
def created (input : GsmProfileInput) : Settings := applyPairs .empty ((createGsmArgs input).drop 2)

def patched (settings : Settings) (patch : GsmProfilePatch) : Settings :=
  applyPairs settings (patchPairs patch)

def readback (id : JsString) (settings : Settings) : GsmProfile :=
  buildProfile id (parseTerse (printTerse settings))

theorem oneLine_yesNo (value : Bool) : 0x0A ∉ yesNo value := by cases value <;> decide

theorem oneLine_flags (password : Option JsString) : 0x0A ∉ passwordFlags password := by
  unfold passwordFlags
  split <;> decide

theorem oneLine_cliArg {value : Option JsString} (line : ∀ text ∈ value, 0x0A ∉ text) :
    0x0A ∉ cliArg value := by
  cases value with
  | none => exact List.not_mem_nil
  | some text => exact line text rfl

theorem oneLine_pushed {field : ProfileField} {value : Option JsString}
    (line : ∀ text ∈ value, 0x0A ∉ text) : ∀ pair ∈ pushed field value, 0x0A ∉ pair.2 := by
  intro pair mem
  obtain ⟨text, isText, rfl⟩ := List.mem_map.mp mem
  exact line text (Option.mem_toList.mp isText)

theorem printable_patched {settings : Settings} (printable : Printable settings)
    {patch : GsmProfilePatch} (oneLine : OneLine patch) : Printable (patched settings patch) := by
  apply printable_applyPairs printable
  simp only [OneLine, texts, List.forall_mem_append, Option.mem_toList] at oneLine
  obtain ⟨⟨⟨⟨name, apn⟩, username⟩, password⟩, network⟩ := oneLine
  simp only [patchFields, List.forall_mem_append]
  refine ⟨⟨⟨⟨⟨⟨oneLine_pushed name, oneLine_pushed apn⟩, oneLine_pushed username⟩,
    oneLine_pushed password⟩, oneLine_pushed ?_⟩, oneLine_pushed ?_⟩, ?_⟩
  · intro text isText
    obtain ⟨given, -, rfl⟩ := Option.map_eq_some_iff.mp isText
    exact oneLine_flags _
  · intro text isText
    obtain ⟨given, -, rfl⟩ := Option.map_eq_some_iff.mp isText
    exact oneLine_yesNo _
  · unfold roamingFields
    split
    · next homeOnly _ =>
      simp only [List.forall_mem_cons]
      refine ⟨oneLine_yesNo homeOnly, ?_, by simp⟩
      split
      · exact List.not_mem_nil
      · exact oneLine_cliArg network
    · exact oneLine_pushed network

theorem printable_empty : Printable .empty where
  distinct := List.nodup_nil
  key _ mem := absurd mem List.not_mem_nil
  value _ mem := absurd mem List.not_mem_nil

theorem printable_created {input : GsmProfileInput} (oneLine : OneLine input.patch) :
    Printable (created input) := by
  simp only [OneLine, texts, GsmProfileInput.patch, List.forall_mem_append, Option.mem_toList]
    at oneLine
  obtain ⟨⟨⟨⟨name, apn⟩, username⟩, password⟩, network⟩ := oneLine
  have named : Printable (applyPairs .empty
      [js "type", js "gsm", js "con-name", input.connectionName]) :=
    printable_set (printable_set printable_empty (by decide) (by decide)) (by decide)
      (name _ rfl)
  refine printable_applyPairs named ?_
  simp only [gsmFieldPairs, List.forall_mem_cons]
  refine ⟨?_, ?_, ?_, oneLine_flags _, oneLine_yesNo _, ?_, oneLine_yesNo _, by decide, by decide,
    by simp⟩
  · split
    · exact List.not_mem_nil
    · exact apn _ rfl
  · split
    · exact List.not_mem_nil
    · exact oneLine_cliArg username
  · split
    · exact List.not_mem_nil
    · exact oneLine_cliArg password
  · unfold networkIdField
    split
    · exact List.not_mem_nil
    · exact oneLine_cliArg network

/-! ### Read back -/

/-- A text that is not empty. -/
def nonEmpty (text : Option JsString) : Option JsString := text.filter fun text => text ≠ []

/-- A profile as it reads back: no credentials under Auto-APN, no operator under home-only. -/
def normalised (profile : GsmProfileInput) : GsmProfileInput :=
  { profile with
    apn := if profile.autoConfig then [] else profile.apn
    username := if profile.autoConfig then none else nonEmpty profile.username
    password := if profile.autoConfig then none else nonEmpty profile.password
    networkId := if profile.homeOnly then none else nonEmpty profile.networkId }

/-- A profile with the fields of a patch over its own. -/
def overlaid (profile : GsmProfileInput) (patch : GsmProfilePatch) : GsmProfileInput where
  connectionName := patch.connectionName.getD profile.connectionName
  apn := patch.apn.getD profile.apn
  username := patch.username <|> profile.username
  password := patch.password <|> profile.password
  homeOnly := patch.homeOnly.getD profile.homeOnly
  autoConfig := patch.autoConfig.getD profile.autoConfig
  networkId := patch.networkId <|> profile.networkId

theorem buildProfile_eq (id : JsString) (settings : Settings) :
    buildProfile id settings =
      { connectionId := id
        connectionName := settings.value .connectionName
        apn := settings.value .apn
        homeOnly := settings.value .homeOnly = js "yes"
        autoConfig := settings.value .autoConfig = js "yes"
        username := nonEmpty (some (settings.value .username))
        password := nonEmpty (some (settings.value .password))
        networkId := nonEmpty (some (settings.value .networkId)) } := by
  have optional (text : JsString) :
      (if text = [] then none else some text) = nonEmpty (some text) := by
    by_cases empty : text = []
    · rw [if_pos empty, nonEmpty, empty]
      rfl
    · rw [if_neg empty, nonEmpty, Option.filter_some, if_pos (decide_eq_true empty)]
  rw [buildProfile]
  simp only [optional]
  rfl

@[simp] theorem nonEmpty_cliArg (value : Option JsString) :
    nonEmpty (some (cliArg value)) = nonEmpty value := by
  cases value <;> rfl

@[simp] theorem nonEmpty_nil : nonEmpty (some []) = none := rfl

@[simp] theorem nonEmpty_getD (given : Option JsString) (old : JsString) :
    nonEmpty (some (given.getD old)) = nonEmpty (given <|> nonEmpty (some old)) := by
  cases given with
  | some => rfl
  | none =>
    by_cases empty : old = []
    · rw [empty]
      rfl
    · have kept : nonEmpty (some old) = some old := by
        rw [nonEmpty, Option.filter_some, if_pos (decide_eq_true empty)]
      rw [Option.getD_none, kept]
      exact kept.symm

theorem value_created (input : GsmProfileInput) (field : ProfileField) :
    (created input).value field =
      written (gsmFieldPairs input) field
        (if field = .connectionName then input.connectionName else []) := by
  have unfolded : created input = applyPairs (applyPairs .empty
      [js "type", js "gsm", js "con-name", input.connectionName])
      (flattenPairs (gsmFieldPairs input)) := rfl
  rw [unfolded, value_applyPairs]
  congr 1
  cases field <;> simp [applyPairs, Settings.value, canonicalKey] <;> decide

/-- A profile that is created reads back normalised. -/
theorem readback_created (id : JsString) {input : GsmProfileInput}
    (oneLine : OneLine input.patch) : readback id (created input) = ⟨normalised input, id⟩ := by
  rw [readback, parseTerse_printTerse (printable_created oneLine), buildProfile_eq]
  have notYes : js "no" ≠ js "yes" := by decide
  cases auto : input.autoConfig <;> cases home : input.homeOnly <;>
    simp [value_created, written, gsmFieldPairs, networkIdField, normalised, auto, home, yesNo,
      notYes]

section Patch

variable (settings : Settings) (patch : GsmProfilePatch)

theorem value_homeOnly : (patched settings patch).value .homeOnly =
    (patch.homeOnly.map yesNo).getD (settings.value .homeOnly) := by
  rw [patched, value_roaming _ _ (.inl rfl), roamingFields]
  cases patch.homeOnly with
  | none => rw [written_pushed, if_neg (by simp)]; rfl
  | some => rfl

/-- The operator that a patch leaves: the one it names, with the roaming or alone. -/
theorem value_networkId : (patched settings patch).value .networkId =
    match patch.homeOnly with
    | some true => []
    | some false => cliArg patch.networkId
    | none => patch.networkId.getD (settings.value .networkId) := by
  rw [patched, value_roaming _ _ (.inr rfl), roamingFields]
  cases patch.homeOnly with
  | none => rw [written_pushed, if_pos rfl]
  | some homeOnly => cases homeOnly <;> rfl

/-- What a patch leaves of a profile. -/
def left (profile : GsmProfileInput) : GsmProfileInput :=
  { overlaid profile patch with
    username := nonEmpty (patch.username <|> profile.username)
    password := nonEmpty (patch.password <|> profile.password)
    networkId := match patch.homeOnly with
      | some true => none
      | some false => nonEmpty patch.networkId
      | none => nonEmpty (patch.networkId <|> profile.networkId) }

theorem buildProfile_patched (id : JsString) : buildProfile id (patched settings patch) =
    ⟨left patch (buildProfile id settings).toGsmProfileInput, id⟩ := by
  rw [buildProfile_eq, buildProfile_eq, value_homeOnly, value_networkId, patched,
    value_patch _ _ .connectionName (by decide), value_patch _ _ .apn (by decide),
    value_patch _ _ .username (by decide), value_patch _ _ .password (by decide),
    value_patch _ _ .autoConfig (by decide)]
  simp only [written_append, written_pushed, reduceCtorEq, if_true, if_false, left, overlaid,
    nonEmpty_getD]
  have flag (given : Option Bool) (old : JsString) :
      decide ((given.map yesNo).getD old = js "yes") = given.getD (decide (old = js "yes")) := by
    cases given with
    | none => rfl
    | some value =>
      change decide (yesNo value = js "yes") = value
      cases value <;> decide
  have operator : nonEmpty (some (match patch.homeOnly with
      | some true => []
      | some false => cliArg patch.networkId
      | none => patch.networkId.getD (settings.value .networkId))) =
      match patch.homeOnly with
      | some true => none
      | some false => nonEmpty patch.networkId
      | none => nonEmpty (patch.networkId <|> nonEmpty (some (settings.value .networkId))) := by
    rcases patch.homeOnly with - | - | -
    · exact nonEmpty_getD _ _
    · exact nonEmpty_cliArg _
    · rfl
  rw [flag, flag, operator]

end Patch

/-- A patch leaves no credentials under Auto-APN, names the operator again where it turns roaming
on, and pins none while it leaves roaming off. -/
structure Keeps (profile : GsmProfileInput) (patch : GsmProfilePatch) : Prop where
  credentials : patch.autoConfig.getD profile.autoConfig = true →
    patch.apn.getD profile.apn = [] ∧ nonEmpty (patch.username <|> profile.username) = none ∧
      nonEmpty (patch.password <|> profile.password) = none
  operator : patch.homeOnly = some false → patch.networkId = none → nonEmpty profile.networkId = none
  pinned : patch.homeOnly = none → profile.homeOnly = true →
    nonEmpty (patch.networkId <|> profile.networkId) = none

theorem left_eq_iff (profile : GsmProfileInput) (patch : GsmProfilePatch) :
    left patch profile = normalised (overlaid profile patch) ↔ Keeps profile patch := by
  have credentials : ((overlaid profile patch).apn = (normalised (overlaid profile patch)).apn ∧
      nonEmpty (patch.username <|> profile.username) =
        (normalised (overlaid profile patch)).username ∧
      nonEmpty (patch.password <|> profile.password) =
        (normalised (overlaid profile patch)).password) ↔
      (patch.autoConfig.getD profile.autoConfig = true →
        patch.apn.getD profile.apn = [] ∧ nonEmpty (patch.username <|> profile.username) = none ∧
          nonEmpty (patch.password <|> profile.password) = none) := by
    cases auto : patch.autoConfig.getD profile.autoConfig <;> simp [normalised, overlaid, auto]
  have network : (left patch profile).networkId = (normalised (overlaid profile patch)).networkId ↔
      (patch.homeOnly = some false → patch.networkId = none → nonEmpty profile.networkId = none) ∧
      (patch.homeOnly = none → profile.homeOnly = true →
        nonEmpty (patch.networkId <|> profile.networkId) = none) := by
    clear credentials
    obtain ⟨_, _, _, _, homeOnly, _, networkId⟩ := patch
    simp only [left, normalised, overlaid]
    rcases homeOnly with - | - | -
    · by_cases home : profile.homeOnly = true <;> simp [home]
    · cases networkId with
      | none =>
        have absent : nonEmpty none = none := rfl
        simpa [absent] using eq_comm
      | some => simp
    · simp
  constructor
  · intro same
    have apn := congrArg GsmProfileInput.apn same
    have username := congrArg GsmProfileInput.username same
    have password := congrArg GsmProfileInput.password same
    have kept := credentials.mp ⟨apn, username, password⟩
    obtain ⟨operator, pinned⟩ := network.mp (congrArg GsmProfileInput.networkId same)
    exact ⟨kept, operator, pinned⟩
  · intro keeps
    obtain ⟨apn, username, password⟩ := credentials.mpr keeps.credentials
    have networkId := network.mpr ⟨keeps.operator, keeps.pinned⟩
    unfold left at networkId ⊢
    unfold normalised at apn username password networkId ⊢
    rw [GsmProfileInput.mk.injEq]
    exact ⟨rfl, apn, username, password, rfl, rfl, networkId⟩

/-- Read and write agree exactly on the patches that keep the rules of the profile they meet. -/
theorem readback_iff (id : JsString) (input : GsmProfileInput) (settings : Settings)
    (patch : GsmProfilePatch) (inputLines : OneLine input.patch) (printable : Printable settings)
    (patchLines : OneLine patch) :
    (readback id (created input) = ⟨normalised input, id⟩ ∧
      readback id (patched settings patch) =
        ⟨normalised (overlaid (readback id settings).toGsmProfileInput patch), id⟩) ↔
      Keeps (readback id settings).toGsmProfileInput patch := by
  rw [and_iff_right (readback_created id inputLines), readback,
    parseTerse_printTerse (printable_patched printable patchLines), buildProfile_patched, readback,
    parseTerse_printTerse printable, ← left_eq_iff]
  simp

/-! ### A pinned operator -/

/-- A roaming profile that pins an operator. -/
def pinnedRoaming : GsmProfileInput :=
  ⟨js "sim1", js "internet", none, none, false, false, some (js "26201")⟩

/-- Roaming stays on. -/
def stayRoaming : GsmProfilePatch := ⟨none, none, none, none, some false, none, none⟩

def renamed : GsmProfilePatch := ⟨some (js "sim2"), none, none, none, none, none, none⟩

theorem oneLine_pinned : OneLine pinnedRoaming.patch := by
  simp only [OneLine, texts, pinnedRoaming, GsmProfileInput.patch, List.forall_mem_append,
    Option.toList_some, Option.toList_none, List.forall_mem_singleton]
  exact ⟨⟨⟨⟨by decide, by decide⟩, nofun⟩, nofun⟩, by decide⟩

theorem oneLine_renamed : OneLine renamed := by
  simp only [OneLine, texts, renamed, List.forall_mem_append, Option.toList_some,
    Option.toList_none, List.forall_mem_singleton]
  exact ⟨⟨⟨⟨by decide, nofun⟩, nofun⟩, nofun⟩, nofun⟩

theorem oneLine_stay : OneLine stayRoaming := fun _ => nofun

theorem readback_renamed :
    readback (js "7d3e") (created pinnedRoaming) = ⟨normalised pinnedRoaming, js "7d3e"⟩ ∧
      readback (js "7d3e") (patched (created pinnedRoaming) renamed) =
        ⟨normalised (overlaid (readback (js "7d3e") (created pinnedRoaming)).toGsmProfileInput
          renamed), js "7d3e"⟩ := by
  refine (readback_iff (js "7d3e") pinnedRoaming (created pinnedRoaming) renamed oneLine_pinned
    (printable_created oneLine_pinned) oneLine_renamed).mpr ?_
  rw [readback_created _ oneLine_pinned]
  exact ⟨by decide, nofun, fun _ => by decide⟩

/-- A patch that says only that roaming is on, of a profile whose roaming is on, clears the
operator. -/
theorem readback_fails :
    OneLine pinnedRoaming.patch ∧ OneLine stayRoaming ∧ Printable (created pinnedRoaming) ∧
      (readback (js "7d3e") (patched (created pinnedRoaming) stayRoaming)).networkId = none ∧
      (normalised (overlaid (readback (js "7d3e") (created pinnedRoaming)).toGsmProfileInput
        stayRoaming)).networkId = some (js "26201") := by
  refine ⟨oneLine_pinned, oneLine_stay, printable_created oneLine_pinned, ?_, ?_⟩
  · rw [readback, parseTerse_printTerse
      (printable_patched (printable_created oneLine_pinned) oneLine_stay), buildProfile_patched]
    rfl
  · rw [readback_created _ oneLine_pinned]
    rfl

end GsmProfiles

end ModemStack.Backend
