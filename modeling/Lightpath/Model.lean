import Lightpath.Error

/-!
# Device models

The models of devices that can be controlled, and the tags by which they are named.
-/

namespace Lightpath

/-- A model of device. -/
inductive DeviceModel where
  | openRoadm
  | polatis
deriving DecidableEq, Repr, Inhabited

namespace DeviceModel

/-- The tag of the model. -/
def tag : DeviceModel → String
  | openRoadm => "openroadm"
  | polatis => "polatis"

/-- Reads a tag. White space around it and the case of ASCII letters make no difference. -/
def read (text : String) : Except Error DeviceModel :=
  let name := (Text.trim text).map Char.toLower
  match [openRoadm, polatis].find? (·.tag = name) with
  | some model => .ok model
  | none => .error (.unsupported ("unknown device model '" ++ name ++ "'"))

end DeviceModel

end Lightpath
