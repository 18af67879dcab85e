/-!
# Names in statements

Names are compared without regard to capitals (`sameName`). Some words are never names, others are
names only in some places; the lists say which.
-/

namespace TodoLedger.Sql

/-- A text with small letters for capitals, as characters. -/
def folded (text : String) : List Char := text.toList.map Char.toLower

/-- True when two texts are the same name. -/
def sameName (a b : String) : Bool := folded a = folded b

/-- True when the name is one of `names`. -/
def isOneOf (names : List String) (name : String) : Bool := names.any (sameName · name)

/-- True when a name stands in the list twice. -/
def hasRepeated : List String → Bool
  | [] => false
  | name :: rest => isOneOf rest name || hasRepeated rest

/-- True of the names that are kept for the database itself. -/
def isInternal (name : String) : Bool := "sqlite_".toList.isPrefixOf (folded name)

/-- A name is the same as itself. -/
@[simp] theorem sameName_self (name : String) : sameName name name = true := by simp [sameName]

/-- Which of two names is given first makes no difference. -/
theorem sameName_comm (a b : String) : sameName a b = sameName b a := by
  simp [sameName, eq_comm]

/-! ### Characters -/

/-- True of the characters with which a name can start. -/
def isNameStart (c : Char) : Bool := c.isAlpha || c = '_' || 128 ≤ c.toNat

/-- True of the characters that can follow in a name. -/
def isNameRest (c : Char) : Bool := isNameStart c || c.isDigit || c = '$'

/-! ### Words -/

/-- The words that are never names. -/
def reservedWords : List String :=
  ["add", "all", "alter", "and", "as", "autoincrement", "between", "case", "check", "collate",
    "commit", "constraint", "create", "default", "deferrable", "delete", "distinct", "drop", "else",
    "escape", "except", "exists", "foreign", "from", "group", "having", "in", "index", "insert",
    "intersect", "into", "is", "isnull", "join", "limit", "not", "nothing", "notnull", "null", "on",
    "or", "order", "primary", "references", "returning", "select", "set", "table", "then", "to",
    "transaction", "union", "unique", "update", "using", "values", "when", "where"]

/-- The words that name joins: names of things, but neither types nor values by themselves. -/
def joinWords : List String := ["cross", "full", "inner", "left", "natural", "outer", "right"]

/-- The words for the present time. -/
def timeWords : List String := ["current_date", "current_time", "current_timestamp"]

/-- The words that stand for truth values. -/
def truthWords : List String := ["true", "false"]

/-- The names of the number of a row, in tables that number their rows. -/
def rowIdNames : List String := ["rowid", "oid", "_rowid_"]

/-- The orders in which texts can be sorted. -/
def collations : List String := ["binary", "nocase", "rtrim"]

end TodoLedger.Sql
