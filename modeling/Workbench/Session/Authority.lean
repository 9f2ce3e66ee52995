import Workbench.Files.Manifest
import Workbench.Session
import Workbench.Sync.Workshop

namespace Workbench.Session

/-- A session as the source of a primary: its snapshot is always at hand, and an action is one monologue
of the portal that asks, whatever it sends along. -/
def authority : Authority Session Empty where
  snapshot := fun session => .ok session.snapshot
  act := fun portal _ session =>
    let (outcome, session, notices) := session.monologue portal
    match outcome with
    | .ok entries => (.ok (.object [(portal, .list (entries.map ChatEntry.toValue))]), session, notices)
    | .error fault => (.error fault.message, session, notices)

/-- How far a chore of a session has come: it has yet to begin, the model has yet to be asked, or the answer has
yet to be told. -/
inductive Stage where
  | chore (chore : Chore)
  | brief (portal : String) (brief : Brief)
  | answer (portal : String) (answer : Except MonologueFault String)

/-- What a session is asked for, in the stretches for which it is locked. The model thinks between them. -/
def crew : Crew Session Empty Stage where
  toAuthority := authority
  begin := .chore
  work
    | .chore .snapshot, session => (.done (.snapshot (.ok session.snapshot)), session, [])
    | .chore (.action portal _), session =>
      if portals.contains portal then
        match session.brief portal with
        | .ok brief => (.busy (.brief portal brief), session, [])
        | .error fault => (.busy (.answer portal (.error fault)), session, [])
      else (.done (.action portal (.error (UnknownPortal.mk portal).message)), session, [])
    | .brief portal brief, session =>
      let (answer, sources) := consult portal brief session.sources
      (.busy (.answer portal answer), { session with sources := sources }, [])
    | .answer portal answer, session =>
      let (entries, session, notices) := session.utter portal answer
      (.done (.action portal (.ok (.object [(portal, .list (entries.map ChatEntry.toValue))]))), session, notices)

/-- Why a data root yields no session. -/
inductive OpenFault where
  | manifest (fault : ManifestFault)
  | start (fault : StartFault)

def OpenFault.message : OpenFault → String
  | .manifest fault => fault.message
  | .start fault => fault.message

/-- Begin a session over the files of a data root. -/
def ofData (root : DataRoot) (narrator : Option Narrator) (now : String) : Except OpenFault Session :=
  match root.store.1 with
  | .error fault => .error (.manifest fault)
  | .ok store => match start store ⟨narrator, ⟨[]⟩⟩ now with
    | .error fault => .error (.start fault)
    | .ok (session, _) => .ok session

end Workbench.Session
