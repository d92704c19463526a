import Mathlib.Data.List.Infix
import ModemStack.Backend.DeviceClassifier

/-!
What a USB device is: a modem for ModemManager, a router, an installer or nothing known.

There are two classifiers over the same interface predicates, one for any device and one for a
device with a network interface. `classifiers_agree_iff` says on which devices they agree.
-/

namespace ModemStack.Backend

open ModemStack.Text ModemStack.UsbMode

inductive DeviceClass where
  | mmManaged
  | routerMode
  | unmanaged
  | pendingModeswitch
deriving DecidableEq

inductive UsbNetClass where
  | mmManaged
  | routerCellular
  | wiredEthernet
  | unknown
deriving DecidableEq

structure DeviceClassification where
  deviceClass : DeviceClass
  reason : JsString
deriving DecidableEq

structure UsbNetClassification where
  deviceClass : UsbNetClass
  reason : JsString
deriving DecidableEq

/-- A snapshot with what the classifiers read beside the interfaces. -/
structure LabelledSnapshot extends UsbDeviceSnapshot where
  vendorId : JsString
  model : Option JsString
  /-- The udev property `ID_USB_MODESWITCH`. -/
  modeswitch : Option JsString

/-! ### More interface predicates -/

abbrev classCdcData := 0x0a
abbrev classMassStorage := 0x08

def storageDrivers : List JsString := [js "usb-storage", js "uas"]

namespace UsbInterface

def isMassStorage (i : UsbInterface) : Bool :=
  i.interfaceClass == classMassStorage || i.boundTo storageDrivers

/-- A port that ModemManager can drive. -/
def isControl (i : UsbInterface) : Bool := i.isMbimControl || i.isQmiControl || i.isAtControl

def isTether (i : UsbInterface) : Bool := i.isRndis || i.isEcmNcmData

def isCdcData (i : UsbInterface) : Bool := i.interfaceClass == classCdcData

def controlKind (i : UsbInterface) : JsString :=
  if i.isMbimControl then js "MBIM" else if i.isQmiControl then js "QMI" else js "AT"

def tetherKind (i : UsbInterface) : JsString := if i.isRndis then js "RNDIS" else js "ECM/NCM"

end UsbInterface

/-! ### Evidence -/

def cellularUsbVendorIds : List (JsString × JsString) :=
  [(js "05c6", js "Qualcomm"), (js "0af0", js "Option"), (js "1199", js "Sierra Wireless"),
    (js "12d1", js "Huawei"), (js "1546", js "u-blox"), (js "19d2", js "ZTE"),
    (js "1bbb", js "TCL/Alcatel"), (js "1bc7", js "Telit"), (js "1c9e", js "Longcheer"),
    (js "1e0e", js "SIMCom"), (js "2c7c", js "Quectel"), (js "2cb7", js "Fibocom"),
    (js "413c", js "Dell")]

/-- Identifiers and markers are ASCII, so that lowering ASCII letters decides a lookup. -/
def cellularVendorName (vendorId : JsString) : Option JsString :=
  (cellularUsbVendorIds.find? fun row => row.1 = lowerAscii vendorId).map Prod.snd

namespace LabelledSnapshot

def hasModeswitchFlag (snapshot : LabelledSnapshot) : Bool :=
  snapshot.modeswitch.any fun flag => flag ≠ [] ∧ flag ≠ js "0"

def installerMarkers : List JsString :=
  [js "cd-rom", js "installer", js "zerocd", js "autoinstall"]

/-- A mass-storage device that waits for `usb_modeswitch`. -/
def isModeswitchCandidate (snapshot : LabelledSnapshot) : Bool :=
  snapshot.hasModeswitchFlag ||
    installerMarkers.any fun marker => marker <:+: lowerAscii (snapshot.model.getD [])

def hasStorage (snapshot : LabelledSnapshot) : Bool :=
  snapshot.interfaces.any UsbInterface.isMassStorage || snapshot.bDeviceClass == classMassStorage

def unmanagedReason (snapshot : LabelledSnapshot) : JsString :=
  if snapshot.hasStorage then
    js "mass-storage device with no usb_modeswitch trigger — not a recognized modem installer"
  else if snapshot.interfaces.any UsbInterface.isVendorSpecific then
    js "vendor-specific interface(s) with no recognized modem driver — cannot confidently classify"
  else js "no recognized modem control port, Ethernet tether, or installer interface"

def cellularEvidence (device : LabelledSnapshot) : Option JsString :=
  match cellularVendorName device.vendorId with
  | some vendor =>
    some (js "USB vendor " ++ device.vendorId ++ js " is " ++ vendor ++
      js ", a cellular-module vendor")
  | none =>
    if device.hasModeswitchFlag then
      some (js "device carries a usb_modeswitch trigger — a mode-switching dongle")
    else if device.interfaces.any UsbInterface.isMassStorage then
      some (js "device also presents a mass-storage installer interface — the ZeroCD " ++
        js "personality of a router-mode dongle")
    else none

/-! ### The classifiers -/

def managedReason (control : UsbInterface) : JsString :=
  js "recognized " ++ control.controlKind ++ js " control interface — ModemManager-manageable"

def classifyDevice (snapshot : LabelledSnapshot) : DeviceClassification :=
  match snapshot.interfaces.find? UsbInterface.isControl with
  | some control => ⟨.mmManaged, managedReason control⟩
  | none =>
    match snapshot.interfaces.find? UsbInterface.isTether with
    | some tether => ⟨.routerMode, tether.tetherKind ++ js " Ethernet tether with no modem " ++
        js "control port — router-ethernet class, not MM-manageable"⟩
    | none =>
      if snapshot.hasStorage && snapshot.isModeswitchCandidate then
        ⟨.pendingModeswitch, js "mass-storage installer mode with a usb_modeswitch trigger " ++
          js "— awaiting mode switch"⟩
      else ⟨.unmanaged, snapshot.unmanagedReason⟩

/-- A data interface of CDC counts as a tether here. -/
def classifyUsbNetDevice (device : LabelledSnapshot) : UsbNetClassification :=
  match device.interfaces.find? UsbInterface.isControl with
  | some control => ⟨.mmManaged, managedReason control⟩
  | none =>
    match device.interfaces.find? fun i => i.isTether || i.isCdcData with
    | some tether =>
      match device.cellularEvidence with
      | none => ⟨.wiredEthernet, tether.tetherKind ++ js " Ethernet tether with no modem " ++
          js "control port and no cellular evidence — a USB network adapter"⟩
      | some evidence => ⟨.routerCellular, tether.tetherKind ++ js " Ethernet tether with no " ++
          js "modem control port; " ++ evidence⟩
    | none => ⟨.unknown, device.unmanagedReason⟩

/-! ### Agreement -/

section Agreement

variable (device : LabelledSnapshot)

def hasControl : Bool := device.interfaces.any UsbInterface.isControl

def hasTether : Bool := device.interfaces.any UsbInterface.isTether

def hasCdcData : Bool := device.interfaces.any UsbInterface.isCdcData

/-- The classes of the two classifiers and the mode go together. -/
structure Agree : Prop where
  managed : device.classifyDevice.deviceClass = .mmManaged ↔
    device.classifyUsbNetDevice.deviceClass = .mmManaged
  router : device.classifyDevice.deviceClass = .routerMode ↔
    device.classifyUsbNetDevice.deviceClass = .routerCellular ∨
      device.classifyUsbNetDevice.deviceClass = .wiredEthernet
  unknown : device.classifyDevice.deviceClass = .pendingModeswitch ∨
      device.classifyDevice.deviceClass = .unmanaged ↔
    device.classifyUsbNetDevice.deviceClass = .unknown
  mbim : detectUsbMode device.toUsbDeviceSnapshot = some .mbim →
    device.classifyDevice.deviceClass = .mmManaged
  ethernet : detectUsbMode device.toUsbDeviceSnapshot = some .routerEthernet →
    device.classifyDevice.deviceClass = .routerMode

/-- The class is decided by which kinds of interface there are. -/
theorem classifyDevice_class : device.classifyDevice.deviceClass =
    if device.hasControl then .mmManaged
    else if device.hasTether then .routerMode
    else if device.hasStorage && device.isModeswitchCandidate then .pendingModeswitch
    else .unmanaged := by
  unfold classifyDevice hasControl hasTether
  rw [← List.isSome_find?, ← List.isSome_find?]
  cases device.interfaces.find? UsbInterface.isControl with
  | some => rfl
  | none =>
    cases device.interfaces.find? UsbInterface.isTether with
    | some => rfl
    | none => cases device.hasStorage && device.isModeswitchCandidate <;> rfl

theorem hasTether_or_hasCdcData : (device.hasTether || device.hasCdcData) =
    device.interfaces.any fun i => i.isTether || i.isCdcData := by
  unfold hasTether hasCdcData
  induction device.interfaces with
  | nil => rfl
  | cons i rest ih =>
    simp only [List.any_cons, ← ih]
    cases i.isTether <;> cases i.isCdcData <;> simp

theorem classifyUsbNetDevice_class : device.classifyUsbNetDevice.deviceClass =
    if device.hasControl then .mmManaged
    else if device.hasTether || device.hasCdcData then
      if device.cellularEvidence.isSome then .routerCellular else .wiredEthernet
    else .unknown := by
  rw [hasTether_or_hasCdcData]
  unfold classifyUsbNetDevice hasControl
  rw [← List.isSome_find?, ← List.isSome_find?]
  cases device.interfaces.find? UsbInterface.isControl with
  | some => rfl
  | none =>
    cases device.interfaces.find? fun i => i.isTether || i.isCdcData with
    | some => cases device.cellularEvidence <;> rfl
    | none => rfl

theorem mbim_managed (isMbim : detectUsbMode device.toUsbDeviceSnapshot = some .mbim) :
    device.hasControl = true := by
  unfold detectUsbMode at isMbim
  simp only at isMbim
  split at isMbim
  · next mbim =>
    obtain ⟨i, mem, holds⟩ := List.any_eq_true.mp mbim
    exact List.any_eq_true.mpr ⟨i, mem, by simp [UsbInterface.isControl, holds]⟩
  · exfalso
    revert isMbim
    split <;> (try split) <;> (try split) <;> simp

/-- Without a vendor port there is no QMI, and an AT port is told apart. -/
theorem ethernet_router
    (isEthernet : detectUsbMode device.toUsbDeviceSnapshot = some .routerEthernet) :
    device.hasControl = false ∧ device.hasTether = true := by
  unfold detectUsbMode at isEthernet
  simp only at isEthernet
  split at isEthernet
  · cases isEthernet
  · next noMbim =>
    split at isEthernet
    · cases isEthernet
    · split at isEthernet
      · next data =>
        split at isEthernet
        · cases isEthernet
        · next noPort =>
          constructor
          · refine List.any_eq_false.mpr fun i mem => ?_
            have notMbim := List.any_eq_false.mp (Bool.eq_false_iff.mpr noMbim) i mem
            have noPort := List.any_eq_false.mp (Bool.eq_false_iff.mpr noPort) i mem
            simp only [Bool.or_eq_true, not_or] at noPort
            have notQmi : i.isQmiControl = false := by
              have notVendor : (i.interfaceClass == classVendor) = false :=
                Bool.eq_false_iff.mpr noPort.2
              rw [UsbInterface.isQmiControl, notVendor, Bool.false_and]
            simp [UsbInterface.isControl, notMbim, notQmi, noPort.1]
          · obtain ⟨i, mem, holds⟩ := List.any_eq_true.mp data
            exact List.any_eq_true.mpr ⟨i, mem, by simp [UsbInterface.isTether, holds]⟩
      · split at isEthernet <;> cases isEthernet

end Agreement

/-- The classifiers agree unless a data interface of CDC is all there is of a tether. -/
theorem classifiers_agree_iff (device : LabelledSnapshot) : device.Agree ↔
    (device.hasControl = true ∨ device.hasTether = true ∨ device.hasCdcData = false) := by
  constructor
  · intro agree
    by_contra lone
    simp only [not_or, Bool.not_eq_true, Bool.not_eq_false] at lone
    obtain ⟨noControl, noTether, data⟩ := lone
    have fallen : device.classifyDevice.deviceClass = .pendingModeswitch ∨
        device.classifyDevice.deviceClass = .unmanaged := by
      rw [classifyDevice_class, noControl, noTether]
      cases device.hasStorage && device.isModeswitchCandidate
      · exact .inr rfl
      · exact .inl rfl
    have unknown := agree.unknown.mp fallen
    rw [classifyUsbNetDevice_class, noControl, noTether, data] at unknown
    cases evidence : device.cellularEvidence.isSome <;> simp [evidence] at unknown
  · intro known
    have device_class := device.classifyDevice_class
    have net_class := device.classifyUsbNetDevice_class
    -- what is left of the device is which of its kinds of interface there are
    generalize (device.hasStorage && device.isModeswitchCandidate) = candidate at device_class
    generalize device.cellularEvidence.isSome = evidence at net_class
    constructor
    · rw [device_class, net_class]
      cases device.hasControl <;> cases device.hasTether <;> cases candidate <;>
        cases evidence <;> cases device.hasCdcData <;> simp
    · rw [device_class, net_class]
      revert known
      cases device.hasControl <;> cases device.hasTether <;> cases candidate <;>
        cases evidence <;> cases device.hasCdcData <;> simp
    · rw [device_class, net_class]
      revert known
      cases device.hasControl <;> cases device.hasTether <;> cases candidate <;>
        cases evidence <;> cases device.hasCdcData <;> simp
    · intro isMbim
      rw [classifyDevice_class, mbim_managed device isMbim, if_pos rfl]
    · intro isEthernet
      obtain ⟨noControl, tether⟩ := ethernet_router device isEthernet
      rw [classifyDevice_class, noControl, tether]
      rfl

/-- An unknown device with a lone data interface. -/
def loneData : LabelledSnapshot where
  bDeviceClass := 0
  interfaces := [⟨0x0a, 0, 0, none⟩]
  physicalUid := none
  ifname := none
  vendorId := js "1234"
  model := none
  modeswitch := none

/-- One classifier takes it for a network adapter with an ECM/NCM tether, the other for nothing. -/
theorem loneData_disagree :
    loneData.classifyDevice.deviceClass = .unmanaged ∧
      loneData.classifyUsbNetDevice = ⟨.wiredEthernet, js "ECM/NCM Ethernet tether with no modem " ++
        js "control port and no cellular evidence — a USB network adapter"⟩ := by
  constructor <;> decide

end LabelledSnapshot

end ModemStack.Backend
