import ModemStack.Async.Alone
import ModemStack.Async.Steps
import ModemStack.Backend.GsmFields

/-!
The GSM profiles of NetworkManager, as the nmcli adapter creates and modifies them.

A patch changes a profile without looking at it. `profiles_valid_iff` says which patches a profile takes:
those that leave Auto-APN with its credentials clear and pin no operator while roaming is off.
-/

namespace ModemStack.Backend

open ModemStack.Async ModemStack.Async.Program ModemStack.Data ModemStack.Domain
open ModemStack.Ports ModemStack.Text
open ModemStack.NetworkManager (GsmProfile)

/-! ### The adapter -/

/-- A run of nmcli is told by its arguments. -/
abbrev GsmTask (α : Type) : Type :=
  Program Unit (List JsString) (fun _ => NmcliResult) Failure α

namespace NmcliNmPort

def readArgs (id : JsString) : List JsString :=
  [js "-t", js "-f", (js ",").intercalate (readbackFields.map ProfileField.key),
    js "connection", js "show", id]

def readGsmProfile (id : JsString) : GsmTask (Option GsmProfile) := do
  let result : NmcliResult ← perform (readArgs id)
  pure (if result.exitCode ≠ 0 then none else some (buildProfile id (parseTerse result.stdout)))

def requireProfile (id : JsString) : GsmTask GsmProfile := do
  let profile ← readGsmProfile id
  match profile with
  | some profile => pure profile
  | none => .fail (.other (js "nmcli: profile " ++ id ++ js " did not read back"))

def createGsmProfile (profile : GsmProfileInput) : GsmTask GsmProfile := do
  let result : NmcliResult ← perform (createGsmArgs profile)
  match addedPattern.exec result.stdout with
  | some (uuid :: _) => requireProfile uuid
  | _ => .fail (.other (js "nmcli connection add failed: " ++
      if result.stderr = [] then result.stdout else result.stderr))

def updateGsmProfile (id : JsString) (patch : GsmProfilePatch) : GsmTask GsmProfile := do
  let result : NmcliResult ← perform (modifyArgs id (patchPairs patch))
  if result.exitCode ≠ 0 then
    .fail (.other (js "nmcli connection modify failed: " ++ result.stderr))
  else requireProfile id

def reactivateAndClassify (id deviceIfname : JsString) (underAuto : Bool) :
    GsmTask AutoApnTransitionResult := do
  let up : NmcliResult ← perform
    [js "connection", js "up", id, js "ifname", deviceIfname]
  pure (classifyActivation up underAuto)

def transitionToAuto (autoApnCapable : Bool) (id deviceIfname : JsString) :
    GsmTask AutoApnTransitionResult :=
  if !autoApnCapable then
    pure ⟨⟨.connection, .unsupported, js "Auto-APN requires NetworkManager >= 1.22"⟩, true⟩
  else do
    let modify : NmcliResult ← perform (toAutoArgs id)
    if modify.exitCode ≠ 0 then
      pure ⟨⟨.connection, .failed, if modify.stderr = [] then js "auto-config modify rejected"
        else modify.stderr⟩, false⟩
    else reactivateAndClassify id deviceIfname true

def transitionToManual (id deviceIfname : JsString) (creds : ManualApn) :
    GsmTask AutoApnTransitionResult := do
  let modify : NmcliResult ← perform (toManualArgs id creds)
  if modify.exitCode ≠ 0 then
    pure ⟨⟨.connection, .failed, if modify.stderr = [] then js "manual-apn modify rejected"
      else modify.stderr⟩, false⟩
  else reactivateAndClassify id deviceIfname false

end NmcliNmPort

/-! ### NetworkManager -/

/-- A profile, as nmcli set it. -/
abbrev Settings : Type := OrderedMap JsString JsString

def Settings.value (settings : Settings) (field : ProfileField) : JsString :=
  (settings.get field.key).getD []

/-- nmcli's short names. -/
def canonicalKey (key : JsString) : JsString :=
  if key = js "con-name" then ProfileField.connectionName.key else key

def applyPairs : Settings → List JsString → Settings
  | settings, key :: value :: rest => applyPairs (settings.set (canonicalKey key) value) rest
  | settings, _ => settings

def Settings.isAuto (settings : Settings) : Prop := settings.value .autoConfig = js "yes"

instance (settings : Settings) : Decidable settings.isAuto := inferInstanceAs (Decidable (_ = _))

def Settings.hasNoCredentials (settings : Settings) : Prop :=
  settings.value .apn = [] ∧ settings.value .username = [] ∧ settings.value .password = []

instance (settings : Settings) : Decidable settings.hasNoCredentials :=
  inferInstanceAs (Decidable (_ ∧ _ ∧ _))

/-- What NetworkManager decides on its own: the identifier of a profile it adds, what it shows, and
what an activation comes to. -/
structure Choices where
  uuid : JsString
  shown : NmcliResult
  activated : NmcliResult

/-- `rejected` are the profiles a modify was rejected for. -/
structure GsmProfiles where
  profiles : OrderedMap JsString Settings
  rejected : List JsString

namespace GsmProfiles

def add (nm : GsmProfiles) (uuid : JsString) (args : List JsString) : GsmProfiles :=
  { nm with profiles := nm.profiles.set uuid (applyPairs .empty args) }

def modify (nm : GsmProfiles) (id : JsString) (pairs : List JsString) :
    NmcliResult × GsmProfiles :=
  match nm.profiles.get id with
  | none => (⟨[], js "unknown connection '" ++ id ++ js "'", 10⟩, nm)
  | some settings =>
    let modified := applyPairs settings pairs
    if modified.isAuto ∧ ¬ modified.hasNoCredentials then
      (⟨[], js "gsm.auto-config: mutually exclusive with APN/username/password", 10⟩,
        { nm with rejected := id :: nm.rejected })
    else (⟨[], [], 0⟩, { nm with profiles := nm.profiles.set id modified })

def nmcli (choices : Choices) (argv : List JsString) (nm : GsmProfiles) :
    Except Failure NmcliResult × GsmProfiles :=
  match argv with
  | object :: command :: args =>
    if object = js "connection" ∧ command = js "add" then
      (.ok ⟨js "Connection (" ++ choices.uuid ++ js ") successfully added.", [], 0⟩,
        nm.add choices.uuid args)
    else if object = js "connection" ∧ command = js "modify" then
      match args with
      | id :: pairs => ((.ok (nm.modify id pairs).1), (nm.modify id pairs).2)
      | [] => (.ok ⟨[], js "connection identifier is missing", 2⟩, nm)
    else if object = js "connection" then (.ok choices.activated, nm)
    else (.ok choices.shown, nm)
  | _ => (.ok ⟨[], js "unknown command", 2⟩, nm)

/-! ### Runs -/

inductive Call where
  | createGsmProfile (profile : GsmProfileInput)
  | updateGsmProfile (id : JsString) (patch : GsmProfilePatch)
  | transitionToAuto (id deviceIfname : JsString)
  | transitionToManual (id deviceIfname : JsString) (creds : ManualApn)

def task (autoApnCapable : Bool) : Call → GsmTask (GsmProfile ⊕ AutoApnTransitionResult)
  | .createGsmProfile profile => do
      pure (.inl (← NmcliNmPort.createGsmProfile profile))
  | .updateGsmProfile id patch => do
      pure (.inl (← NmcliNmPort.updateGsmProfile id patch))
  | .transitionToAuto id deviceIfname => do
      pure (.inr (← NmcliNmPort.transitionToAuto autoApnCapable id deviceIfname))
  | .transitionToManual id deviceIfname creds => do
      pure (.inr (← NmcliNmPort.transitionToManual id deviceIfname creds))

structure Event where
  call : Call
  choices : Choices

def empty : GsmProfiles := ⟨.empty, []⟩

variable (autoApnCapable : Bool)

def step (nm : GsmProfiles) (event : Event) : GsmProfiles :=
  ((task autoApnCapable event.call).alone (nmcli event.choices) () nm).2.2

def run (events : List Event) : GsmProfiles := events.foldl (step autoApnCapable) empty

/-! ### The property -/

structure Coupled (settings : Settings) : Prop where
  network : settings.value .homeOnly = js "yes" → settings.value .networkId = []
  flags : settings.value .passwordFlags = js "0" ↔ settings.value .password ≠ []
  automatic : settings.isAuto → settings.hasNoCredentials

structure Valid (nm : GsmProfiles) : Prop where
  accepted : nm.rejected = []
  coupled : ∀ id settings, nm.profiles.get id = some settings → Coupled settings

/-- Where the patch leaves Auto-APN on, it leaves no credentials; it pins an operator only if it
sets the roaming or the profile may roam. -/
structure Takes (settings : Settings) (patch : GsmProfilePatch) : Prop where
  credentials : patch.autoConfig = some true ∨ patch.autoConfig = none ∧ settings.isAuto →
    patch.apn.getD (settings.value .apn) = [] ∧
      patch.username.getD (settings.value .username) = [] ∧
      patch.password.getD (settings.value .password) = []
  network : patch.homeOnly = none → settings.value .homeOnly = js "yes" →
    cliArg patch.networkId = []

/-- A patch meets a profile that takes it. -/
def Fits (nm : GsmProfiles) (event : Event) : Prop :=
  match event.call with
  | .updateGsmProfile id patch => ∀ settings, nm.profiles.get id = some settings →
      Takes settings patch
  | _ => True

/-! ### What is written -/

/-- The value of a field after some pairs, the last of which counts. -/
def written (pairs : List (ProfileField × JsString)) (field : ProfileField) (old : JsString) :
    JsString :=
  pairs.foldl (fun old pair => if pair.1 = field then pair.2 else old) old

theorem canonicalKey_key (field : ProfileField) : canonicalKey field.key = field.key := by
  cases field <;> decide

theorem value_applyPairs (settings : Settings) (pairs : List (ProfileField × JsString))
    (field : ProfileField) : (applyPairs settings (flattenPairs pairs)).value field =
      written pairs field (settings.value field) := by
  induction pairs generalizing settings with
  | nil => rfl
  | cons pair pairs ih =>
    obtain ⟨other, value⟩ := pair
    have first : Settings.value (settings.set other.key value) field =
        if other = field then value else settings.value field := by
      rw [Settings.value, OrderedMap.get_set]
      by_cases same : other = field
      · rw [if_pos (congrArg _ same.symm), if_pos same, Option.getD_some]
      · rw [if_neg fun key => same (key_inj.mp key).symm, if_neg same, Settings.value]
    have unfolded : flattenPairs ((other, value) :: pairs) =
        other.key :: value :: flattenPairs pairs := rfl
    rw [unfolded, applyPairs, canonicalKey_key, ih, first]
    rfl

theorem written_append (pairs others : List (ProfileField × JsString)) (field : ProfileField)
    (old : JsString) :
    written (pairs ++ others) field old = written others field (written pairs field old) :=
  List.foldl_append

theorem written_pushed (other : ProfileField) (value : Option JsString) (field : ProfileField)
    (old : JsString) :
    written (pushed other value) field old = if other = field then value.getD old else old := by
  cases value <;> simp [written, pushed]

/-! ### What each call does -/

variable {autoApnCapable} {nm : GsmProfiles} {choices : Choices}

theorem nmcli_add (args : List JsString) :
    nmcli choices (js "connection" :: js "add" :: args) nm =
      (.ok ⟨js "Connection (" ++ choices.uuid ++ js ") successfully added.", [], 0⟩,
        nm.add choices.uuid args) := by
  simp [nmcli]

theorem nmcli_modify (id : JsString) (pairs : List JsString) :
    nmcli choices (modifyArgs id pairs) nm = (.ok (nm.modify id pairs).1, (nm.modify id pairs).2) := by
  have isModify : js "modify" ≠ js "add" := by decide
  simp [nmcli, modifyArgs, isModify]

/-- Only `add` and `modify` change a profile. -/
theorem nmcli_readArgs (id : JsString) :
    nmcli choices (NmcliNmPort.readArgs id) nm = (.ok choices.shown, nm) := by
  have notConnection : js "-t" ≠ js "connection" := by decide
  simp [nmcli, NmcliNmPort.readArgs, notConnection]

theorem nmcli_up (args : List JsString) :
    nmcli choices (js "connection" :: js "up" :: args) nm = (.ok choices.activated, nm) := by
  have notAdd : js "up" ≠ js "add" := by decide
  have notModify : js "up" ≠ js "modify" := by decide
  simp [nmcli, notAdd, notModify]

theorem alone_requireProfile (id : JsString) :
    ((NmcliNmPort.requireProfile id).alone (nmcli choices) () nm).2.2 = nm := by
  simp only [NmcliNmPort.requireProfile, NmcliNmPort.readGsmProfile, alone_monad_bind,
    alone_perform, nmcli_readArgs, alone_pure]
  split <;> rfl

variable (id deviceIfname : JsString)

theorem alone_reactivate (underAuto : Bool) :
    ((NmcliNmPort.reactivateAndClassify id deviceIfname underAuto).alone (nmcli choices) () nm).2.2 =
      nm := by
  simp only [NmcliNmPort.reactivateAndClassify, alone_monad_bind, alone_perform, nmcli_up,
    alone_pure]

/-- What is done with the result of a task changes nothing. -/
theorem alone_map {α β : Type} (p : GsmTask α) (f : α → β) :
    ((p >>= fun value => pure (f value)).alone (nmcli choices) () nm).2.2 =
      (p.alone (nmcli choices) () nm).2.2 := by
  rw [alone_monad_bind]
  split
  · next equation =>
      rw [equation]
      rfl
  · next equation => rw [equation]

theorem step_create (profile : GsmProfileInput) :
    step autoApnCapable nm ⟨.createGsmProfile profile, choices⟩ = nm.add choices.uuid
      ([js "type", js "gsm", js "con-name", profile.connectionName] ++
        flattenPairs (gsmFieldPairs profile)) := by
  rw [step, task, alone_map, NmcliNmPort.createGsmProfile, alone_monad_bind, alone_perform,
    createGsmArgs, List.cons_append, List.cons_append, nmcli_add]
  simp only
  split
  · exact alone_requireProfile _
  · rfl

theorem step_update (id : JsString) (patch : GsmProfilePatch) :
    step autoApnCapable nm ⟨.updateGsmProfile id patch, quiet⟩ =
      (nm.modify id (patchPairs patch)).2 := by
  rw [step, task, alone_map, NmcliNmPort.updateGsmProfile, alone_monad_bind, alone_perform,
    nmcli_modify]
  simp only
  split
  · rfl
  · exact alone_requireProfile _

theorem step_auto :
    step autoApnCapable nm ⟨.transitionToAuto id deviceIfname, choices⟩ =
      if autoApnCapable then (nm.modify id (flattenPairs autoFields)).2 else nm := by
  rw [step, task, alone_map, NmcliNmPort.transitionToAuto]
  cases autoApnCapable with
  | false => rfl
  | true =>
    simp only [Bool.not_true, Bool.false_eq_true, if_false, if_true, alone_monad_bind,
      alone_perform, toAutoArgs, nmcli_modify]
    split
    · rfl
    · exact alone_reactivate _ _ _

theorem step_manual (creds : ManualApn) :
    step autoApnCapable nm ⟨.transitionToManual id deviceIfname creds, choices⟩ =
      (nm.modify id (flattenPairs (manualFields creds))).2 := by
  rw [step, task, alone_map, NmcliNmPort.transitionToManual, alone_monad_bind, alone_perform,
    toManualArgs, nmcli_modify]
  simp only
  split
  · rfl
  · exact alone_reactivate _ _ _

/-! ### What each call leaves -/

theorem valid_add {uuid : JsString} {args : List JsString} (valid : Valid nm)
    (coupled : Coupled (applyPairs .empty args)) : Valid (nm.add uuid args) := by
  refine ⟨valid.accepted, fun id settings found => ?_⟩
  rw [add, OrderedMap.get_set] at found
  split at found
  · cases found
    exact coupled
  · exact valid.coupled id settings found

/-- A modify keeps the property just if what it would leave has it. -/
theorem valid_modify {id : JsString} {pairs : List JsString} (valid : Valid nm) :
    Valid (nm.modify id pairs).2 ↔
      ∀ settings, nm.profiles.get id = some settings → Coupled (applyPairs settings pairs) := by
  cases found : nm.profiles.get id with
  | none => simp [modify, found, valid]
  | some settings =>
    simp only [modify, found, Option.some.injEq, forall_eq']
    by_cases rejects : (applyPairs settings pairs).isAuto ∧
        ¬ (applyPairs settings pairs).hasNoCredentials
    · rw [if_pos rejects]
      refine iff_of_false (fun after => ?_) fun coupled => rejects.2 (coupled.automatic rejects.1)
      exact List.cons_ne_nil _ _ after.accepted
    · rw [if_neg rejects]
      constructor
      · intro after
        exact after.coupled id _ (by rw [OrderedMap.get_set, if_pos rfl])
      · intro coupled
        refine ⟨valid.accepted, fun other settings' found' => ?_⟩
        rw [OrderedMap.get_set] at found'
        split at found'
        · cases found'
          exact coupled
        · exact valid.coupled other settings' found'

theorem yesNo_eq {value : Bool} : yesNo value = js "yes" ↔ value = true := by
  cases value <;> decide

theorem passwordFlags_eq (password : Option JsString) :
    passwordFlags password = js "0" ↔ cliArg password ≠ [] := by
  by_cases none : cliArg password = []
  · simp only [passwordFlags, none, if_true, ne_eq, not_true_eq_false, iff_false]
    decide
  · simp [passwordFlags, none]

theorem coupled_create (settings : Settings) (profile : GsmProfileInput) :
    Coupled (applyPairs settings (flattenPairs (gsmFieldPairs profile))) := by
  constructor
  · rw [value_applyPairs, value_applyPairs]
    intro homeOnly
    have isHome : profile.homeOnly = true := yesNo_eq.mp homeOnly
    simp [written, gsmFieldPairs, networkIdField, isHome]
  · rw [value_applyPairs, value_applyPairs]
    have password : written (gsmFieldPairs profile) .password (settings.value .password) =
        cliArg (if profile.autoConfig then none else profile.password) := by
      cases auto : profile.autoConfig <;> simp [written, gsmFieldPairs, auto, cliArg]
    rw [password]
    exact passwordFlags_eq _
  · rw [Settings.isAuto, Settings.hasNoCredentials, value_applyPairs, value_applyPairs,
      value_applyPairs, value_applyPairs]
    intro auto
    have isAuto : profile.autoConfig = true := yesNo_eq.mp auto
    simp [written, gsmFieldPairs, isAuto]

theorem coupled_auto (settings : Settings) (coupled : Coupled settings) :
    Coupled (applyPairs settings (flattenPairs autoFields)) := by
  constructor
  · rw [value_applyPairs, value_applyPairs]
    exact coupled.network
  · rw [value_applyPairs, value_applyPairs]
    have notZero : js "4" ≠ js "0" := by decide
    exact iff_of_false notZero fun password => password rfl
  · intro auto
    rw [Settings.hasNoCredentials, value_applyPairs, value_applyPairs, value_applyPairs]
    exact ⟨rfl, rfl, rfl⟩

theorem coupled_manual (settings : Settings) (creds : ManualApn) (coupled : Coupled settings) :
    Coupled (applyPairs settings (flattenPairs (manualFields creds))) := by
  constructor
  · rw [value_applyPairs, value_applyPairs]
    exact coupled.network
  · rw [value_applyPairs, value_applyPairs]
    exact passwordFlags_eq _
  · rw [Settings.isAuto, value_applyPairs]
    intro auto
    have notYes : js "no" ≠ js "yes" := by decide
    exact absurd auto notYes

/-- A field that the roaming part leaves alone. -/
theorem written_roaming {patch : GsmProfilePatch} {field : ProfileField} (old : JsString)
    (isOther : field ∉ [ProfileField.homeOnly, .networkId]) :
    written (roamingFields patch) field old = old := by
  have notHome : ProfileField.homeOnly ≠ field := by
    rintro rfl
    exact isOther List.mem_cons_self
  have notNetwork : ProfileField.networkId ≠ field := by
    rintro rfl
    exact isOther (List.mem_cons_of_mem _ List.mem_cons_self)
  unfold roamingFields
  split
  · simp [written, notHome, notNetwork]
  · rw [written_pushed, if_neg notNetwork]

section Patch

variable (settings : Settings) (patch : GsmProfilePatch)

theorem value_patch (field : ProfileField)
    (isOther : field ∉ [ProfileField.homeOnly, .networkId]) :
    (applyPairs settings (patchPairs patch)).value field =
      written (pushed .connectionName patch.connectionName ++ pushed .apn patch.apn ++
        pushed .username patch.username ++ pushed .password patch.password ++
        pushed .passwordFlags (patch.password.map fun password => passwordFlags (some password)) ++
        pushed .autoConfig (patch.autoConfig.map yesNo)) field (settings.value field) := by
  rw [patchPairs, value_applyPairs, patchFields, written_append,
    written_roaming _ isOther]

theorem value_roaming {field : ProfileField}
    (isRoaming : field = .homeOnly ∨ field = .networkId) :
    (applyPairs settings (patchPairs patch)).value field =
      written (roamingFields patch) field (settings.value field) := by
  rw [patchPairs, value_applyPairs, patchFields, written_append]
  congr 1
  rcases isRoaming with rfl | rfl <;> simp [written_append, written_pushed]

theorem isAuto_patch : (applyPairs settings (patchPairs patch)).isAuto ↔
    patch.autoConfig = some true ∨ patch.autoConfig = none ∧ settings.isAuto := by
  rw [Settings.isAuto, value_patch _ _ .autoConfig (by decide)]
  cases auto : patch.autoConfig with
  | none => simp [written_append, written_pushed, Settings.isAuto]
  | some => simp [written_append, written_pushed, yesNo_eq]

theorem hasNoCredentials_patch : (applyPairs settings (patchPairs patch)).hasNoCredentials ↔
    patch.apn.getD (settings.value .apn) = [] ∧
      patch.username.getD (settings.value .username) = [] ∧
      patch.password.getD (settings.value .password) = [] := by
  rw [Settings.hasNoCredentials, value_patch _ _ .apn (by decide),
    value_patch _ _ .username (by decide), value_patch _ _ .password (by decide)]
  simp [written_append, written_pushed]

theorem flags_patch (coupled : Coupled settings) :
    (applyPairs settings (patchPairs patch)).value .passwordFlags = js "0" ↔
      (applyPairs settings (patchPairs patch)).value .password ≠ [] := by
  rw [value_patch _ _ .passwordFlags (by decide), value_patch _ _ .password (by decide)]
  cases given : patch.password with
  | none => simpa [written_append, written_pushed] using coupled.flags
  | some password => simpa [written_append, written_pushed, cliArg] using passwordFlags_eq (some password)

theorem network_patch (coupled : Coupled settings) :
    ((applyPairs settings (patchPairs patch)).value .homeOnly = js "yes" →
      (applyPairs settings (patchPairs patch)).value .networkId = []) ↔
    (patch.homeOnly = none → settings.value .homeOnly = js "yes" → cliArg patch.networkId = []) := by
  rw [value_roaming _ _ (.inl rfl), value_roaming _ _ (.inr rfl)]
  cases home : patch.homeOnly with
  | none =>
    have homeOnly : written (roamingFields patch) .homeOnly (settings.value .homeOnly) =
        settings.value .homeOnly := by
      rw [roamingFields, home, written_pushed, if_neg nofun]
    have networkId : written (roamingFields patch) .networkId (settings.value .networkId) =
        patch.networkId.getD (settings.value .networkId) := by
      rw [roamingFields, home, written_pushed, if_pos rfl]
    rw [homeOnly, networkId]
    constructor
    · intro empty _ isHome
      have after := empty isHome
      rwa [coupled.network isHome] at after
    · intro empty isHome
      rw [coupled.network isHome]
      exact empty rfl isHome
  | some homeOnly =>
    refine iff_of_true ?_ nofun
    have notYes : js "no" ≠ js "yes" := by decide
    cases homeOnly <;> simp [roamingFields, home, written, yesNo, notYes]

theorem coupled_patch (coupled : Coupled settings) :
    Coupled (applyPairs settings (patchPairs patch)) ↔ Takes settings patch := by
  constructor
  · intro after
    refine ⟨fun auto => ?_, (network_patch settings patch coupled).mp after.network⟩
    exact (hasNoCredentials_patch settings patch).mp
      (after.automatic ((isAuto_patch settings patch).mpr auto))
  · intro takes
    refine ⟨(network_patch settings patch coupled).mpr takes.network,
      flags_patch settings patch coupled, fun auto => ?_⟩
    exact (hasNoCredentials_patch settings patch).mpr
      (takes.credentials ((isAuto_patch settings patch).mp auto))

end Patch

/-! ### Runs keep it -/

theorem valid_step {event : Event} (valid : Valid nm) :
    Valid (step autoApnCapable nm event) ↔ Fits nm event := by
  obtain ⟨call, choices⟩ := event
  cases call with
  | createGsmProfile profile =>
    rw [step_create]
    refine iff_of_true (valid_add valid ?_) trivial
    simp only [List.cons_append, List.nil_append, applyPairs]
    exact coupled_create _ profile
  | updateGsmProfile id patch =>
    rw [step_update, valid_modify valid, Fits]
    exact forall₂_congr fun settings found =>
      coupled_patch settings patch (valid.coupled id settings found)
  | transitionToAuto id deviceIfname =>
    rw [step_auto]
    refine iff_of_true ?_ trivial
    cases autoApnCapable with
    | false => exact valid
    | true =>
      rw [if_pos rfl]
      exact (valid_modify valid).mpr fun settings found =>
        coupled_auto settings (valid.coupled id settings found)
  | transitionToManual id deviceIfname creds =>
    rw [step_manual]
    refine iff_of_true ((valid_modify valid).mpr fun settings found => ?_) trivial
    exact coupled_manual settings creds (valid.coupled id settings found)

theorem valid_empty : Valid empty := ⟨rfl, nofun⟩

/-- All along a run no modify is rejected and every profile is coupled, exactly if each patch of the
run meets a profile that takes it. -/
theorem profiles_valid_iff (autoApnCapable : Bool) (events : List Event) :
    (∀ before, before <+: events → Valid (run autoApnCapable before)) ↔
      AllowsEvents (step autoApnCapable) Fits empty events :=
  always_iff (fun _ _ valid => valid_step valid) valid_empty

/-! ### Two runs -/

def quiet : Choices := ⟨js "7d3e", ⟨[], [], 0⟩, ⟨[], [], 0⟩⟩

def manualPolicy : DesiredCellularPolicy :=
  let auth : DesiredAuth := ⟨some (js "user"), some (js "secret")⟩
  { defaultCellularPolicy with connection := ⟨js "internet", .ipv4v6, some auth, none⟩ }

/-- The planner's patch from an explicit APN with credentials to Auto-APN. -/
def toAutomatic : List Event :=
  [⟨.createGsmProfile (profileFromPolicy manualPolicy), quiet⟩,
    ⟨.updateGsmProfile (js "7d3e") (profileFromPolicy defaultCellularPolicy).patch, quiet⟩]

/-- An operator is pinned while roaming is off. -/
def pinned : List Event :=
  [⟨.createGsmProfile (profileFromPolicy manualPolicy), quiet⟩,
    ⟨.updateGsmProfile (js "7d3e") ⟨none, none, none, none, none, none, some (js "26201")⟩, quiet⟩]

/-- What is applied after the first event of either run. -/
def manualState : AppliedCellularState :=
  ⟨.disconnected, true, some (js "7d3e"), none, some (js "internet"), some false, none, none, none⟩

theorem profiles_valid_fails :
    PortTaggedOp.nm (.updateGsmProfile (js "7d3e") (profileFromPolicy defaultCellularPolicy).patch) ∈
      (planReconcile manualState defaultCellularPolicy ⟨[], .finite 1, true⟩).ops ∧
    ¬ Valid (run true toAutomatic) ∧ ¬ Valid (run true pinned) := by
  refine ⟨by decide, fun valid => ?_, fun valid => ?_⟩
  · have rejected : (run true toAutomatic).rejected = [js "7d3e"] := by decide
    rw [valid.accepted] at rejected
    cases rejected
  · have found : ((run true pinned).profiles.get (js "7d3e")).map (fun settings : Settings =>
        (settings.value .homeOnly, settings.value .networkId)) = some (js "yes", js "26201") := by
      decide
    obtain ⟨settings, isProfile, values⟩ := Option.map_eq_some_iff.mp found
    obtain ⟨homeOnly, networkId⟩ := Prod.mk.inj values
    have empty := (valid.coupled _ settings isProfile).network homeOnly
    rw [networkId] at empty
    cases empty

end GsmProfiles

end ModemStack.Backend
