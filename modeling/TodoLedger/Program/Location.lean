import TodoLedger.Json.Parser

/-!
# Where a database is

`Location.ofPath?` tells what the path of a database stands for. A path that starts with `file:` is
a link: after the scheme come the name of a file, options behind a question mark, and a remark
behind a number sign, with any octet written as a percent sign and two hexadecimal digits. Other
paths are taken as they are. A database without a name is not kept.
-/

namespace TodoLedger.Program

/-- What may be done with a file. -/
inductive FileAccess where
  | reading
  | changing
  /-- The file may also be made. -/
  | creating
deriving DecidableEq, Repr

/-- Where a database is. -/
inductive Location where
  /-- In memory, for one run. -/
  | transient
  | file (path : String) (access : FileAccess)
deriving DecidableEq, Repr

namespace Location

/-! ### Links -/

/-- The octets of a text with percent signs, up to an octet of zero. -/
def octets : List Char → List UInt8
  | [] => []
  | '%' :: a :: b :: rest =>
    match Json.hexValue? a, Json.hexValue? b with
    | some high, some low =>
      if high = 0 && low = 0 then [] else UInt8.ofNat (high * 16 + low) :: octets rest
    | _, _ => 37 :: octets (a :: b :: rest)
  | c :: rest => c.toString.toUTF8.toList ++ octets rest

/-- The text that is written with percent signs, if its octets make a text. -/
def decoded? (text : List Char) : Option String := String.fromUTF8? ⟨(octets text).toArray⟩

/-- Parts of a text between marks. -/
def parts (mark : Char) (text : List Char) : List (List Char) :=
  ((String.ofList text).splitOn mark.toString).map String.toList

/-- The options of a link by name; those without a name do not count. -/
def options? (query : List Char) : Option (List (String × String)) :=
  (parts '&' query).foldrM (fun option rest => do
    let name ← decoded? (option.takeWhile (· ≠ '='))
    let value ← decoded? ((option.dropWhile (· ≠ '=')).drop 1)
    return if name = "" then rest else (name, value) :: rest) []

/-- What a link says before its options count: the name of the file, and the options. -/
def linkParts? (link : List Char) : Option (String × List (String × String)) := do
  let text := link.takeWhile (· ≠ '#')
  let name ← decoded? (text.takeWhile (· ≠ '?'))
  let options ← options? ((text.dropWhile (· ≠ '?')).drop 1)
  return (name, options)

/-- The link without the name of the machine, which must be this one. -/
def localPart? : List Char → Option (List Char)
  | '/' :: '/' :: rest =>
    let machine := rest.takeWhile (· ≠ '/')
    if machine.isEmpty || String.ofList machine = "localhost" then some (rest.drop machine.length)
    else none
  | link => some link

/-! ### Options -/

/-- The location of a file of that name; without a name, or with the name for memory, it is not
kept. -/
def named (name : String) (access : FileAccess) : Location :=
  if name = "" || name = ":memory:" then .transient else .file name access

/-- The file systems that there are, but for the one in memory. -/
def fileSystems : List String := ["unix", "unix-none", "unix-dotfile", "unix-excl"]

/-- Follows an option. -/
def follow (location : Location) : String × String → Option Location
  | ("mode", mode) =>
    match mode, location with
    | "memory", _ => some .transient
    | "ro", .file path _ => some (.file path .reading)
    | "rw", .file path _ => some (.file path .changing)
    | "rwc", .file path _ => some (.file path .creating)
    | "ro", .transient | "rw", .transient | "rwc", .transient => some .transient
    | _, _ => none
  | ("cache", kind) => if kind = "shared" || kind = "private" then some location else none
  | ("vfs", system) =>
    if system = "memdb" then some .transient
    else if fileSystems.contains system then some location
    else none
  | _ => some location

/-- What the path of a database stands for, if it stands for anything. No path holds an octet of
zero. -/
def ofPath? (path : String) : Option Location :=
  if path.toList.contains '\x00' then none
  else
    match path.toList with
    | 'f' :: 'i' :: 'l' :: 'e' :: ':' :: link => do
      let (name, options) ← linkParts? (← localPart? link)
      options.foldlM follow (named name .creating)
    | _ => some (named path .creating)

end Location

end TodoLedger.Program
