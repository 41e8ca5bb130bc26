/-!
# About this library

## Main definitions

* `About.version` — the version that is logged and printed.
* `About.library`, `About.tool` — the names that are printed.
* `About.pong` — the reply that shows that the library is there.
-/

namespace Contracts.About

/-- The version of the library and of the tool. -/
def version : String := "0.1.0"

/-- The name of the library. -/
def library : String := "shapeguard_core"

/-- The name of the tool. -/
def tool : String := "shapeguard"

/-- The reply to a ping. -/
def pong : String := "pong"

end Contracts.About
