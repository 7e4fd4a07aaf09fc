import Duplex.Json.Basic

-- One JSON value laid over another: objects are merged member by member, everything else is
-- replaced, and a null member leaves what is there.

namespace Duplex.Json

mutual

def merge (target source : Json) : Json :=
  match target, source with
  | object members, object changes => object (mergeMembers members changes)
  | _, source => source

def mergeMembers (members : Members) (changes : List (String × Json)) : Members :=
  match changes with
  | [] => members
  | (key, change) :: rest =>
    if change.isNull then mergeMembers members rest
    else
      let merged :=
        match Members.get? members key with
        | some value => merge value change
        | none => change
      mergeMembers (Members.put members key merged) rest

end

end Duplex.Json
