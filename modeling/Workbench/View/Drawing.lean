import Workbench.Sync.Snapshot

namespace Workbench

/-- What a portal has its view draw. -/
inductive Drawing where
  | all (snapshot : Snapshot)
  | history (key : String) (entries : List (Fields Value))
  | input (enabled : Bool)
  | error (text : String)
  deriving DecidableEq

end Workbench
