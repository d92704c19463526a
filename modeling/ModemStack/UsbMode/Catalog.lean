import ModemStack.Text.JsString

/-!
The certified USB-mode catalog: which switches a reviewed device may make, with
which AT commands, and what it must look like afterwards.
-/

namespace ModemStack.UsbMode

open ModemStack.Text

inductive CanonicalUsbMode where
  | qmi
  | mbim
  | ecmNcm
  | rndis
  | routerEthernet
deriving DecidableEq

def CanonicalUsbMode.text : CanonicalUsbMode → JsString
  | .qmi => js "qmi"
  | .mbim => js "mbim"
  | .ecmNcm => js "ecm-ncm"
  | .rndis => js "rndis"
  | .routerEthernet => js "router-ethernet"

/-- The modes ModemManager can drive; only between these does a transition move. -/
inductive MmUsbMode where
  | qmi
  | mbim
  | ecmNcm
deriving DecidableEq

def MmUsbMode.canonical : MmUsbMode → CanonicalUsbMode
  | .qmi => .qmi
  | .mbim => .mbim
  | .ecmNcm => .ecmNcm

def MmUsbMode.text (mode : MmUsbMode) : JsString := mode.canonical.text

/-- The class, subclass and protocol bytes an interface must show. -/
structure ExpectedInterface where
  interfaceClass : Nat
  interfaceSubClass : Nat
  interfaceProtocol : Nat
deriving DecidableEq

/-- What a device must present after a transition. -/
structure ExpectedDescriptors where
  deviceClass : Nat
  interfaces : List ExpectedInterface
deriving DecidableEq

/-- One certified switch. `applyCommand` commits it where `atCommand` only writes
the configuration. -/
structure PermittedTransition where
  source : MmUsbMode
  target : MmUsbMode
  atCommand : JsString
  applyCommand : Option JsString
  expectedResponse : JsString
  expectsPortDrop : Bool
  expectedDescriptors : ExpectedDescriptors
  evidenceBundleSha256 : Option JsString
deriving DecidableEq

structure CatalogEntry where
  vidPid : JsString
  model : JsString
  firmwarePrefix : JsString
  canonicalMode : CanonicalUsbMode
  permittedTransitions : List PermittedTransition
deriving DecidableEq

structure CertifiedCatalog where
  entries : List CatalogEntry
deriving DecidableEq

/-- What identifies a live device in the catalog. -/
structure SkuDiscriminator where
  vidPid : JsString
  model : JsString
  firmwarePrefix : JsString
deriving DecidableEq

def findCatalogEntry (catalog : CertifiedCatalog) (sku : SkuDiscriminator) : Option CatalogEntry :=
  catalog.entries.find? fun entry =>
    entry.vidPid = sku.vidPid ∧ entry.model = sku.model ∧ entry.firmwarePrefix = sku.firmwarePrefix

def findPermittedTransition (entry : CatalogEntry) (source target : MmUsbMode) :
    Option PermittedTransition :=
  entry.permittedTransitions.find? fun t => t.source = source ∧ t.target = target

/-- Every command an entry declares. -/
def CatalogEntry.commands (entry : CatalogEntry) : List JsString :=
  entry.permittedTransitions.flatMap fun t =>
    match t.applyCommand with
    | none => [t.atCommand]
    | some applyCommand => [t.atCommand, applyCommand]

end ModemStack.UsbMode
