import ThermalPress.Fault
import ThermalPress.Number.Integer
import ThermalPress.Settings.Basic

/-!
# Connections

What a connection to the printer of some settings is opened with (`connectionOf`).  The identities of a USB device are
read as hexadecimal numbers.
-/

namespace ThermalPress

/-- A device and the values it is opened with. -/
inductive Device where
  | file (path : String)
  | serial (port : String) (baudrate : Int)
  | usb (vendor product : Int)
  | network (host : String) (port : Int)
  deriving DecidableEq, Repr

/-- A device, and the profile of its printer if one is set. -/
structure Connection where
  device : Device
  profile : Option String
  deriving DecidableEq, Repr

/-- Why no connection could be opened. -/
inductive ConnectionError where
  | identity (e : IntegerError)
  | delivery (e : DeliveryError)
  deriving DecidableEq, Repr

/-- The device of the settings. -/
def deviceOf (settings : Settings) : Except ConnectionError Device :=
  match settings.attachment with
  | .file => .ok (.file settings.portName)
  | .serial => .ok (.serial settings.portName settings.serialBaudrate)
  | .usb => do
    let vendor ← (Integer.read 16 settings.usbVendorId).mapError .identity
    let product ← (Integer.read 16 settings.usbProductId).mapError .identity
    return .usb vendor product
  | .network => .ok (.network settings.networkIp settings.networkPort)
  | .other name => .error (.delivery (.failure settings.endpointName ("unsupported printer type: " ++ name)))

/-- What the connection to the printer of the settings is opened with. -/
def connectionOf (settings : Settings) : Except ConnectionError Connection := do
  let device ← deviceOf settings
  return ⟨device, settings.printerProfile.filter (!·.isEmpty)⟩

end ThermalPress
