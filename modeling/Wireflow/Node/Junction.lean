/-
Junctions pass every message on as it is.
-/
import Wireflow.Node.Basic

namespace Wireflow

/-- A junction. -/
def Node.junction : Node :=
  .passive "junction" fun s msg => .quiet s [.send 0 msg]

end Wireflow
