import ThermalPress.Number.Binary64
import ThermalPress.Text.Casing

/-!
# Printer settings

What a print service knows about its printer: the device it is attached to, the layout of a line, the symbols and
the limits of a delivery.  `Settings.endpointName` names the device; deliveries with one name take turns.
-/

namespace ThermalPress

/-- How a printer is attached. -/
inductive Attachment where
  | file
  | serial
  | usb
  | network
  /-- A kind that no connection exists for. -/
  | other (name : String)
  deriving DecidableEq, Repr

namespace Attachment

/-- The word for the kind. -/
def name : Attachment → String
  | .file => "file"
  | .serial => "serial"
  | .usb => "usb"
  | .network => "network"
  | .other name => name

/-- The kinds that a printer can be attached by. -/
def known : List Attachment := [.file, .serial, .usb, .network]

/-- The kind of that name. -/
def ofName (name : String) : Attachment := (known.find? (·.name == name)).getD (.other name)

end Attachment

/-- The settings of one printer.  The values given here hold where nothing else is set. -/
structure Settings where
  attachment : Attachment := .file
  portName : String := "/dev/usb/lp0"
  serialBaudrate : Int := 19200
  usbVendorId : String := "0x04b8"
  usbProductId : String := "0x0e28"
  networkIp : String := ""
  networkPort : Int := 9100
  printerProfile : Option String := none
  lineWidth : Int := 32
  lineSpacing : Int := 34
  topMarginLines : Int := 3
  autoFeedLines : Int := 4
  encoding : String := "cp437"
  maxQrLength : Int := 300
  qrSize : Int := 6
  qrErrorLevel : Int := 48
  rasterMaxWidth : Option Int := none
  printTimeout : Binary64 := Binary64.ofInt 10
  spoolDir : Option String := none
  deriving DecidableEq, Repr

namespace Settings

/-- The identity of the device. -/
def endpointName (settings : Settings) : String :=
  match settings.attachment with
  | .network => "network:" ++ settings.networkIp ++ ":" ++ toString settings.networkPort
  | .usb => "usb:" ++ lowerString settings.usbVendorId ++ ":" ++ lowerString settings.usbProductId
  | kind => kind.name ++ ":" ++ settings.portName

/-- The printable dots of a line, by its width in characters. -/
def dotsPerLine : List (Int × Int) := [(32, 384), (48, 576)]

/-- The widest raster image in dots; nothing for a line width without one. -/
def rasterWidth? (settings : Settings) : Option Int :=
  match settings.rasterMaxWidth with
  | some width => if width == 0 then dotsPerLine.lookup settings.lineWidth else some width
  | none => dotsPerLine.lookup settings.lineWidth

end Settings

end ThermalPress
