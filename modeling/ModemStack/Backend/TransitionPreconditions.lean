import ModemStack.Backend.TransitionPorts
import ModemStack.UsbMode.RuntimeCapability

/-!
The preconditions of a USB-mode transition, and the plan they grant.

They are checked when a request arrives and again when its turn at the modem's
actor has come: first what the request and the catalog say, then the two live
probes.
-/

namespace ModemStack.Backend

open ModemStack.Domain ModemStack.Text ModemStack.UsbMode

/-! ### Requests and plans -/

inductive TransitionStrategy where
  | catalog (sku : SkuDiscriminator) (fromMode toMode : MmUsbMode)
  | runtime (vendor : RuntimeCompositionVendor) (sku : Option SkuDiscriminator)
      (fromMode toMode : RuntimeCompositionMode) (capability : RuntimeCompositionCapability)
deriving DecidableEq

structure UsbModeTransitionRequest where
  stableKey : JsString
  connectionId : JsString
  deviceIfname : JsString
  /-- Where the device is plugged in; it survives the switch. -/
  cachedPhysicalUid : JsString
  inhibitUid : JsString
  confirm : Bool
  maintenance : Bool
  strategy : TransitionStrategy
deriving DecidableEq

/-- What has to be seen for a transition to have succeeded. -/
inductive TransitionProof where
  | catalogDescriptors (transition : PermittedTransition)
  | runtimeRequery (vendor : RuntimeCompositionVendor) (target : RuntimeCompositionMode)
      (currentQuery : JsString)
deriving DecidableEq

structure UsbModeTransitionPlan where
  atCommand : JsString
  applyCommand : Option JsString
  proof : TransitionProof
deriving DecidableEq

inductive PreconditionResult where
  | accepted (plan : UsbModeTransitionPlan) (allowlistedCommands : List JsString)
  | refused (reason : JsString)
deriving DecidableEq

/-- The plan of a reviewed transition. -/
def certifiedPlan (entry : CatalogEntry) (transition : PermittedTransition) : PreconditionResult :=
  .accepted ⟨transition.atCommand, transition.applyCommand, .catalogDescriptors transition⟩
    entry.commands

/-- The plan of a transition nobody reviewed: the device's own READ has to confirm it. -/
def requeryPlan (vendor : RuntimeCompositionVendor) (target : RuntimeCompositionMode)
    (atCommand : JsString) : PreconditionResult :=
  .accepted ⟨atCommand, none,
    .runtimeRequery vendor target (runtimeCompositionQueryRegistry vendor).current⟩ [atCommand]

def runtimePlan (catalog : CertifiedCatalog) (vendor : RuntimeCompositionVendor)
    (sku : Option SkuDiscriminator) (fromMode toMode : RuntimeCompositionMode)
    (capability : RuntimeCompositionCapability) : PreconditionResult :=
  match capability with
  | .unknown => .refused (js "runtime capability unknown")
  | .available current returnPathProven offerable =>
    if current ≠ fromMode then .refused (js "runtime current mode changed")
    else if returnPathProven = false ∨ toMode ∉ offerable then .refused (js "no-return-path")
    else
      match buildRuntimeCompositionSetCommand vendor.name toMode with
      | none => .refused (js "runtime target command unavailable")
      | some atCommand =>
        match sku.bind (findCatalogEntry catalog) with
        | none => requeryPlan vendor toMode atCommand
        | some entry =>
          match entry.permittedTransitions.find? fun t => t.atCommand = atCommand with
          | some reviewed => certifiedPlan entry reviewed
          | none => requeryPlan vendor toMode atCommand

def catalogPlan (catalog : CertifiedCatalog) (sku : SkuDiscriminator)
    (fromMode toMode : MmUsbMode) : PreconditionResult :=
  match findCatalogEntry catalog sku with
  | none => .refused (js "uncertified SKU " ++ sku.vidPid ++ js " " ++ sku.model)
  | some entry =>
    match findPermittedTransition entry fromMode toMode with
    | none => .refused (js "transition " ++ fromMode.text ++ js "->" ++ toMode.text ++
        js " not permitted for " ++ sku.model)
    | some transition => certifiedPlan entry transition

/-- What the request and the catalog alone decide. -/
def staticResult (catalog : CertifiedCatalog) (request : UsbModeTransitionRequest) :
    PreconditionResult :=
  if request.confirm = false then
    .refused (js "confirm:true is required (missing --confirm)")
  else if request.maintenance = false then .refused (js "maintenance flag is required")
  else
    match request.strategy with
    | .runtime vendor sku fromMode toMode capability =>
      runtimePlan catalog vendor sku fromMode toMode capability
    | .catalog sku fromMode toMode => catalogPlan catalog sku fromMode toMode

/-! ### The check -/

def checkTransitionPreconditions (catalog : CertifiedCatalog)
    (request : UsbModeTransitionRequest) : TransitionTask PreconditionResult :=
  match staticResult catalog request with
  | .refused reason => pure (.refused reason)
  | .accepted plan allowlistedCommands => do
      let confidence : IdentityConfidence ← ask .probeReadiness
      if confidence = .low then
        pure (.refused (js "low-confidence identity — refusing to transition"))
      else
        match ← (ask (.canDisrupt request.stableKey) : TransitionTask InterlockDecision) with
        | .deny reason => pure (.refused (js "interlock held: " ++ reason))
        | .allow => pure (.accepted plan allowlistedCommands)

end ModemStack.Backend
