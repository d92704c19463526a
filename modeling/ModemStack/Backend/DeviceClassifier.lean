import ModemStack.UsbMode.Catalog

/-!
Telling the USB mode of a device from its descriptors and bound drivers.
-/

namespace ModemStack.Backend

open ModemStack.Text ModemStack.UsbMode

/-- One interface: its descriptor bytes and the kernel driver bound to it, if any. -/
structure UsbInterface where
  interfaceClass : Nat
  interfaceSubClass : Nat
  interfaceProtocol : Nat
  driver : Option JsString
deriving DecidableEq

/-- A USB device as udev shows it. `physicalUid` is where it is plugged in and
survives a mode change; `ifname` is the network interface bound to it. -/
structure UsbDeviceSnapshot where
  bDeviceClass : Nat
  interfaces : List UsbInterface
  physicalUid : Option JsString
  ifname : Option JsString
deriving DecidableEq

/-! ### Interface predicates -/

abbrev classComm := 0x02
abbrev classWireless := 0xe0
abbrev classVendor := 0xff
abbrev subAcm := 0x02
abbrev subEcm := 0x06
abbrev subNcm := 0x0d
abbrev subMbim := 0x0e
abbrev subRndisWireless := 0x01
abbrev protoVendor := 0xff
abbrev protoRndis := 0x03

def qmiDrivers : List JsString := [js "qmi_wwan"]
def atDrivers : List JsString := [js "option", js "qcserial", js "cdc_acm"]
def ecmNcmDrivers : List JsString := [js "cdc_ether", js "cdc_ncm"]
def rndisDrivers : List JsString := [js "rndis_host"]

namespace UsbInterface

/-- Bound to one of these drivers. -/
def boundTo (drivers : List JsString) (i : UsbInterface) : Bool := i.driver.any (drivers.contains ·)

def isMbimControl (i : UsbInterface) : Bool :=
  i.interfaceClass == classComm && i.interfaceSubClass == subMbim

def isQmiControl (i : UsbInterface) : Bool :=
  i.interfaceClass == classVendor && i.boundTo qmiDrivers

/-- An ACM port of protocol 0xff is RNDIS, not AT. -/
def isAtControl (i : UsbInterface) : Bool :=
  (i.interfaceClass == classComm && i.interfaceSubClass == subAcm &&
    i.interfaceProtocol != protoVendor) ||
  (i.interfaceClass == classVendor && i.boundTo atDrivers)

def isRndis (i : UsbInterface) : Bool :=
  (i.interfaceClass == classWireless && i.interfaceSubClass == subRndisWireless &&
    i.interfaceProtocol == protoRndis) ||
  (i.interfaceClass == classComm && i.interfaceSubClass == subAcm &&
    i.interfaceProtocol == protoVendor) ||
  i.boundTo rndisDrivers

def isEcmNcmData (i : UsbInterface) : Bool :=
  (i.interfaceClass == classComm &&
    (i.interfaceSubClass == subEcm || i.interfaceSubClass == subNcm)) ||
  i.boundTo ecmNcmDrivers

def isVendorSpecific (i : UsbInterface) : Bool := i.interfaceClass == classVendor

end UsbInterface

/-! ### The mode of a device -/

def detectUsbMode (snapshot : UsbDeviceSnapshot) : Option CanonicalUsbMode :=
  let ifaces := snapshot.interfaces
  if ifaces.any UsbInterface.isMbimControl then some .mbim
  else if ifaces.any UsbInterface.isRndis then some .rndis
  else if ifaces.any UsbInterface.isEcmNcmData then
    if ifaces.any fun i => i.isAtControl || i.isVendorSpecific then some .ecmNcm
    else some .routerEthernet
  else if ifaces.any fun i => i.isQmiControl || i.isVendorSpecific then some .qmi
  else none

/-- The device presents at least the interfaces expected of it. -/
def descriptorsMatch (snapshot : UsbDeviceSnapshot) (expected : ExpectedDescriptors) : Bool :=
  snapshot.bDeviceClass == expected.deviceClass &&
    expected.interfaces.all fun exp => snapshot.interfaces.any fun i =>
      i.interfaceClass == exp.interfaceClass && i.interfaceSubClass == exp.interfaceSubClass &&
        i.interfaceProtocol == exp.interfaceProtocol

end ModemStack.Backend
