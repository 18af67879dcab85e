import TodoLedger.Json.Record
import TodoLedger.User

/-!
# Projects and their members

Targets belong to projects. A project is open to its members only, to all users, or to the public;
its repository can be kept to the members even when the project is open. Members have one of five
levels, each of which includes those below it.
-/

namespace TodoLedger

/-- The id of a project. -/
abbrev ProjectId := UInt64

/-! ### Visibility -/

/-- Whom a project is open to. -/
inductive Visibility where
  | membersOnly
  | internal
  | everyone
deriving DecidableEq, Repr

/-- An ASCII capital as the small letter, any other character as it is. -/
def lowerCase (text : String) : String := text.map Char.toLower

namespace Visibility

/-- All visibilities. -/
def all : List Visibility := [.membersOnly, .internal, .everyone]

/-- The name under which a visibility is written. -/
def name : Visibility → String
  | .membersOnly => "private"
  | .internal => "internal"
  | .everyone => "public"

/-- The visibility of that exact name. -/
def ofExactName? (name : String) : Option Visibility := all.find? (·.name = name)

/-- The visibility of that name, in small letters or capitals. The names are ASCII, and no other
character has its small letter there. -/
def ofName? (name : String) : Option Visibility := ofExactName? (lowerCase name)

/-- A visibility is written by its name. -/
def toJson (visibility : Visibility) : Json := .string visibility.name

/-- Reads a visibility by its name. -/
def ofJson? (setting : Json.Setting) (value : Json) : Option Visibility :=
  (Json.name? setting value).bind ofExactName?

end Visibility

/-! ### Access levels -/

/-- What a member of a project is trusted with, from least to most. -/
inductive AccessLevel where
  | guest
  | reporter
  | developer
  | maintainer
  | owner
deriving DecidableEq, Repr

namespace AccessLevel

/-- All access levels, lowest first. -/
def all : List AccessLevel := [.guest, .reporter, .developer, .maintainer, .owner]

/-- The name under which an access level is written. -/
def name : AccessLevel → String
  | .guest => "guest"
  | .reporter => "reporter"
  | .developer => "developer"
  | .maintainer => "maintainer"
  | .owner => "owner"

/-- The title of the level in a list of members. -/
def title : AccessLevel → String
  | .guest => "Guest"
  | .reporter => "Reporter"
  | .developer => "Developer"
  | .maintainer => "Maintainer"
  | .owner => "Owner"

/-- The number that stands for the level in a membership row; it grows with the level. -/
def code : AccessLevel → Int64
  | .guest => 10
  | .reporter => 20
  | .developer => 30
  | .maintainer => 40
  | .owner => 50

/-- True when the level includes `least`. -/
def atLeast (level least : AccessLevel) : Bool := least.code ≤ level.code

/-- The level with that number. -/
def ofCode? (code : Int64) : Option AccessLevel := all.find? (·.code = code)

/-- The level of that exact name. -/
def ofExactName? (name : String) : Option AccessLevel := all.find? (·.name = name)

/-- The level of that name, in small letters or capitals. The names are ASCII, and no other
character has its small letter there. -/
def ofName? (name : String) : Option AccessLevel := ofExactName? (lowerCase name)

/-- An access level is written by its name. -/
def toJson (level : AccessLevel) : Json := .string level.name

/-- Reads an access level by its name. -/
def ofJson? (setting : Json.Setting) (value : Json) : Option AccessLevel :=
  (Json.name? setting value).bind ofExactName?

/-- A level is found by its code. -/
theorem ofCode?_code (level : AccessLevel) : ofCode? level.code = some level := by
  cases level <;> rfl

end AccessLevel

/-! ### Projects and members -/

/-- A project. -/
structure Project where
  id : ProjectId
  name : String
  visibility : Visibility
  /-- Code, commits and merge requests are kept to the members. -/
  repositoryPrivate : Bool
deriving DecidableEq, Repr

namespace Project

/-- The fields of a project. -/
def fieldNames : List String := ["id", "name", "visibility", "repository_private"]

/-- A project as an object. -/
def toJson (project : Project) : Json :=
  .object [("id", .ofId project.id), ("name", .string project.name),
    ("visibility", project.visibility.toJson),
    ("repository_private", .bool project.repositoryPrivate)]

/-- Reads a project. All fields must be there. -/
def ofJson? (value : Json) : Option Project := do
  let r ← Json.Record.ofJson? fieldNames value
  return {
    id := ← r.required "id" Json.id?
    name := ← r.required "name" Json.text?
    visibility := ← r.required "visibility" (Visibility.ofJson? .direct)
    repositoryPrivate := ← r.required "repository_private" Json.bool? }

end Project

/-- The membership of a user in a project. -/
structure Member where
  projectId : ProjectId
  userId : UserId
  level : AccessLevel
deriving DecidableEq, Repr

namespace Member

/-- The fields of a member. -/
def fieldNames : List String := ["project_id", "user_id", "access_level"]

/-- A member as an object. -/
def toJson (member : Member) : Json :=
  .object [("project_id", .ofId member.projectId), ("user_id", .ofId member.userId),
    ("access_level", member.level.toJson)]

/-- Reads a member. All fields must be there. -/
def ofJson? (value : Json) : Option Member := do
  let r ← Json.Record.ofJson? fieldNames value
  return {
    projectId := ← r.required "project_id" Json.id?
    userId := ← r.required "user_id" Json.id?
    level := ← r.required "access_level" (AccessLevel.ofJson? .direct) }

end Member

end TodoLedger
