import WorkspaceStartup.Json.Basic

/-!
# Merging JSON

A value is merged over another one.  Objects are merged member by member, and
a member that is null leaves the one below it alone; everything else replaces
what it is merged over.
-/

namespace WorkspaceStartup.Json

mutual

/-- A value merged over a target. -/
def mergeOver (target : Json) : Json → Json
  | .object source =>
      match target with
      | .object members => .object (mergeMembers members source)
      | _ => .object source
  | other => other

/-- Members merged over those of a target. -/
def mergeMembers (target : List (String × Json)) :
    List (String × Json) → List (String × Json)
  | [] => target
  | (_, .null) :: source => mergeMembers target source
  | (name, value) :: source =>
      let merged :=
        match lookUp? name target with
        | some below => mergeOver below value
        | none => value
      mergeMembers (fileEntry name merged target) source

end

end WorkspaceStartup.Json
