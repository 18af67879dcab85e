import TodoLedger.Toml.Scalar

/-!
# Reading settings

`Toml.parse` reads the text of a file of settings as a table, or refuses it. A text is a list of
lines: assignments, headers, and lines without either. What a header opens is filled by the
assignments up to the next header.
-/

namespace TodoLedger.Toml

/-- A value under a dotted key. -/
structure Assignment where
  path : List String
  name : String
  value : Toml

/-- The header of a table. -/
structure Header where
  path : List String
  /-- The table is one more of several. -/
  repeated : Bool

/-- Puts values into a table. -/
def fill (assignments : List Assignment) (fields : Fields) : Option Fields :=
  assignments.foldlM (fun fields a => assign a.name a.value a.path fields) fields

/-! ### Values -/

/-- Reads the items of a list up to its bracket, where an item or the bracket comes next. The first
argument bounds the number of items. -/
def itemsAfter? (value : Reader Toml) : Nat → Reader (List Toml)
  | 0, _ => none
  | bound + 1, text =>
    match skipSpace text with
    | ']' :: rest => some ([], rest)
    | text =>
      match value text with
      | none => none
      | some (item, rest) =>
        match skipSpace rest with
        | ',' :: rest => (itemsAfter? value bound rest).map fun (items, rest) => (item :: items, rest)
        | ']' :: rest => some ([item], rest)
        | _ => none

/-- Reads an assignment. -/
def assignment? (value : Reader Toml) : Reader Assignment := fun text => do
  let (names, rest) ← key? text
  let rest ← char? '=' rest
  let (value, rest) ← value (skipBlanks rest)
  return (⟨names.dropLast, names.getLast?.getD "", value⟩, rest)

/-- Reads the assignments in braces, where at least one comes next. The first argument bounds their
number. -/
def assignmentsAfter? (value : Reader Toml) : Nat → Reader (List Assignment)
  | 0, _ => none
  | bound + 1, text =>
    match assignment? value text with
    | none => none
    | some (first, rest) =>
      match skipBlanks rest with
      | ',' :: rest =>
        (assignmentsAfter? value bound rest).map fun (others, rest) => (first :: others, rest)
      | '\x7d' :: rest => some ([first], rest)
      | _ => none

/-- Reads a table after its opening brace. -/
def braces? (value : Reader Toml) : Reader Toml := fun text =>
  match skipBlanks text with
  | '\x7d' :: rest => some (.table .braces [], rest)
  | _ => do
    let (assignments, rest) ← assignmentsAfter? value (text.length + 1) text
    let fields ← fill assignments []
    return (.table .braces fields, rest)

/-- Reads a value, with lists and braces of at most the given depth. -/
def value? : Nat → Reader Toml
  | 0, text => scalar? text
  | depth + 1, text =>
    match text with
    | '[' :: rest =>
      (itemsAfter? (value? depth) (rest.length + 1) rest).map fun (items, rest) => (.list items, rest)
    | '\x7b' :: rest => braces? (value? depth) rest
    | text => scalar? text

/-! ### Lines -/

/-- A line with a meaning. -/
inductive Line where
  | header (header : Header)
  | assignment (assignment : Assignment)

/-- Reads a header after its brackets. -/
def headerAfter? (repeated : Bool) : Reader Line := fun text => do
  let (path, rest) ← key? text
  let rest ← char? ']' rest
  let rest ← if repeated then char? ']' rest else some rest
  return (.header ⟨path, repeated⟩, rest)

/-- Reads a line with a meaning, up to its end. -/
def line? (text : List Char) : Option (Line × List Char) := do
  let (line, rest) ←
    match text with
    | '[' :: '[' :: rest => headerAfter? true rest
    | '[' :: rest => headerAfter? false rest
    | text => (assignment? (value? depthLimit) text).map fun (a, rest) => (.assignment a, rest)
  return (line, ← lineEnd? rest)

/-- Reads the lines of a text. The first argument bounds their number. -/
def lines? : Nat → List Char → Option (List Line)
  | 0, _ => none
  | bound + 1, text =>
    match skipSpace text with
    | [] => some []
    | text =>
      if skipComment text = [] then some []
      else
        match line? text with
        | some (line, rest) => (lines? bound rest).map (line :: ·)
        | none => none

/-! ### Texts -/

/-- The assignments before the first header, and each header with those after it. -/
def sectionsOf : List Line → List Assignment × List (Header × List Assignment)
  | [] => ([], [])
  | .assignment a :: rest =>
    let (first, others) := sectionsOf rest
    (a :: first, others)
  | .header h :: rest =>
    let (first, others) := sectionsOf rest
    ([], (h, first) :: others)

/-- Adds what a header opens. -/
def addSection (fields : Fields) (header : Header) (assignments : List Assignment) :
    Option Fields :=
  let change := if header.repeated then addTable (fill assignments)
    else openTable (fill assignments)
  changeAt change header.path fields

/-- Reads a whole text; a byte order mark may stand in front. -/
def parse (text : String) : Option Fields := do
  let chars := match text.toList with
    | '\uFEFF' :: rest => rest
    | chars => chars
  let lines ← lines? (chars.length + 1) chars
  let (first, others) := sectionsOf lines
  let root ← fill first []
  others.foldlM (fun fields (header, assignments) => addSection fields header assignments) root

end TodoLedger.Toml
