import TodoLedger.Sql.Name

/-!
# Functions

Which functions an expression can call, and with how many arguments. A function is steady if it
gives the same value whenever it is called with the same arguments; the values of expressions that
are kept come from steady functions.
-/

namespace TodoLedger.Sql

/-- Functions that take the same numbers of arguments. -/
structure FunctionGroup where
  least : Nat
  /-- The greatest number of arguments, if there is one. -/
  greatest : Option Nat
  isSteady : Bool
  names : List String

namespace FunctionGroup

/-- True when the group has the function and it takes that number of arguments. -/
def has (group : FunctionGroup) (name : String) (count : Nat) : Bool :=
  group.least ≤ count && group.greatest.all (count ≤ ·) && isOneOf group.names name

end FunctionGroup

/-- The functions of single values. -/
def functions : List FunctionGroup := [
  ⟨0, some 0, false, timeWords ++
    ["changes", "last_insert_rowid", "random", "sqlite_source_id", "sqlite_version",
      "total_changes"]⟩,
  ⟨1, some 1, false,
    ["fts5", "offsets", "optimize", "randomblob", "rtreedepth", "sqlite_compileoption_get",
      "sqlite_compileoption_used"]⟩,
  ⟨1, some 2, false, ["fts3_tokenizer", "load_extension", "matchinfo"]⟩,
  ⟨2, some 2, false, ["match", "rtreenode"]⟩,
  ⟨0, none, false, ["bm25", "highlight", "rtreecheck", "snippet"]⟩,
  ⟨0, some 0, true, ["fts5_source_id"]⟩,
  ⟨1, some 1, true,
    ["abs", "hex", "json", "json_error_position", "json_quote", "jsonb", "length", "likely",
      "lower", "octet_length", "quote", "sign", "soundex", "subtype", "typeof", "unicode",
      "unlikely", "upper", "zeroblob"]⟩,
  ⟨1, some 2, true,
    ["json_array_length", "json_pretty", "json_type", "json_valid", "ltrim", "round", "rtrim",
      "trim", "unhex"]⟩,
  ⟨2, some 2, true,
    ["->", "->>", "glob", "ifnull", "instr", "json_patch", "jsonb_patch", "likelihood", "nullif",
      "sqlite_log", "timediff"]⟩,
  ⟨2, some 3, true, ["if", "iif", "like", "substr", "substring"]⟩,
  ⟨3, some 3, true, ["replace"]⟩,
  ⟨0, none, true,
    ["char", "date", "datetime", "format", "json_array", "json_extract", "json_insert",
      "json_object", "json_remove", "json_replace", "json_set", "jsonb_array", "jsonb_extract",
      "jsonb_insert", "jsonb_object", "jsonb_remove", "jsonb_replace", "jsonb_set", "julianday",
      "printf", "strftime", "time", "unixepoch"]⟩,
  ⟨1, none, true, ["concat"]⟩,
  ⟨2, none, true, ["coalesce", "concat_ws", "max", "min"]⟩]

/-- True when the function can be called with that number of arguments; with `steadyOnly`, if it is
steady besides. -/
def isCallable (steadyOnly : Bool) (name : String) (count : Nat) : Bool :=
  functions.any fun group => (group.isSteady || !steadyOnly) && group.has name count

end TodoLedger.Sql
