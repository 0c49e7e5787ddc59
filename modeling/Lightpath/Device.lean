/-!
# Devices

How devices are named, and what a device says about itself.
-/

namespace Lightpath

/-- A device, by the name under which the controller manages it. -/
structure DeviceId where
  name : String
deriving DecidableEq, Repr, Inhabited

/-- What a device is built for. -/
inductive DeviceType where
  | roadm
  | fiberSwitch
deriving DecidableEq, Repr, Inhabited

/-- What a device says about itself. -/
structure DeviceDescription where
  deviceType : DeviceType
  vendor : String
  hardwareVersion : String
  softwareVersion : String
  serialNumber : String
  chassisId : String
  latitude : Option String
  longitude : Option String
deriving DecidableEq, Repr, Inhabited

end Lightpath
