import Lightpath.Device
import Lightpath.Error
import Lightpath.Table

/-!
# The registry of sessions

A session exists whether or not it is registered; a device can be reached only through a session
that is.
-/

namespace Lightpath

/-- A session and whether the device can be reached through it. -/
structure Line (σ : Type) where
  session : σ
  registered : Bool := true
deriving Inhabited

/-- The sessions with devices. -/
abbrev Sessions (σ : Type) := Table (Line σ)

namespace Sessions

variable {σ : Type}

/-- The session through which a device can be reached. -/
def reach? (lines : Sessions σ) (d : DeviceId) : Option σ :=
  match lines.get? d.name with
  | some line => if line.registered then some line.session else none
  | none => none

/-- What has become of the session with a device. -/
def put (lines : Sessions σ) (d : DeviceId) (session : σ) : Sessions σ :=
  lines.modify d.name fun line => { line with session := session }

/-- Changes the session with a device, registered or not. -/
def change (lines : Sessions σ) (d : DeviceId) (f : σ → σ) : Sessions σ :=
  lines.modify d.name fun line => { line with session := f line.session }

/-- Registers or takes out the session with a device. -/
def setRegistered (lines : Sessions σ) (d : DeviceId) (registered : Bool) : Sessions σ :=
  lines.modify d.name fun line => { line with registered := registered }

/-- The number of devices that can be reached. -/
def count (lines : Sessions σ) : Nat := lines.values.countP (·.registered)

end Sessions

end Lightpath
