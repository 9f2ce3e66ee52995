import Mathlib
import Workbench.Schema

namespace Workbench

variable {α β : Type}

namespace Schema

end Schema

end Workbench
