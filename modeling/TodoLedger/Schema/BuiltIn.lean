import TodoLedger.Schema.Catalog

/-!
# Tables that are always there

Besides the tables that statements make, a database has tables of its own: for what it holds, for
the parts of a value in JSON, and for its settings. They can be asked for their columns like all
others.
-/

namespace TodoLedger.Schema

open Sql

/-- A table whose columns have no types. -/
def untyped (name : String) (columns : List String) : LiveTable where
  name := name
  columns := columns.map fun column => ⟨column, "", false, 0, false⟩
  indices := []

/-- The names of the table of all tables and indices. -/
def masterNames : List String :=
  ["sqlite_master", "sqlite_schema", "sqlite_temp_master", "sqlite_temp_schema"]

/-- The table of all tables and indices. -/
def masterTable (name : String) : LiveTable where
  name := name
  columns := [("type", "TEXT"), ("name", "TEXT"), ("tbl_name", "TEXT"), ("rootpage", "INT"),
    ("sql", "TEXT")].map fun (column, type) => ⟨column, type, false, 0, false⟩
  indices := []

/-- The table of the pages of the file. -/
def pageTable : LiveTable where
  name := "dbstat"
  columns := [("name", "TEXT"), ("path", "TEXT"), ("pageno", "INTEGER"), ("pagetype", "TEXT"),
    ("ncell", "INTEGER"), ("payload", "INTEGER"), ("unused", "INTEGER"), ("mx_payload", "INTEGER"),
    ("pgoffset", "INTEGER"), ("pgsize", "INTEGER")].map fun (column, type) =>
      ⟨column, type, false, 0, false⟩
  indices := []

/-- The columns of the tables of parts of a value in JSON. -/
def partColumns : List String :=
  ["key", "value", "type", "atom", "id", "parent", "fullkey", "path"]

/-- The settings that have a single column of their own name. -/
def settings : List String :=
  ["analysis_limit", "application_id", "auto_vacuum", "automatic_index", "cache_size",
    "cache_spill", "cell_size_check", "checkpoint_fullfsync", "compile_options", "count_changes",
    "data_version", "defer_foreign_keys", "empty_result_callbacks", "encoding", "foreign_keys",
    "freelist_count", "full_column_names", "fullfsync", "hard_heap_limit",
    "ignore_check_constraints", "integrity_check", "journal_mode", "journal_size_limit",
    "legacy_alter_table", "locking_mode", "max_page_count", "optimize", "page_count", "page_size",
    "query_only", "quick_check", "read_uncommitted", "recursive_triggers",
    "reverse_unordered_selects", "schema_version", "secure_delete", "short_column_names",
    "soft_heap_limit", "synchronous", "temp_store", "threads", "trusted_schema", "user_version",
    "writable_schema"]

/-- The other settings, and what can be asked besides, with their columns. -/
def inquiries : List (String × List String) :=
  [("busy_timeout", ["timeout"]),
    ("collation_list", ["seq", "name"]),
    ("database_list", ["seq", "name", "file"]),
    ("default_cache_size", ["cache_size"]),
    ("foreign_key_check", ["table", "rowid", "parent", "fkid"]),
    ("foreign_key_list", ["id", "seq", "table", "from", "to", "on_update", "on_delete", "match"]),
    ("function_list", ["name", "builtin", "type", "enc", "narg", "flags"]),
    ("index_info", ["seqno", "cid", "name"]),
    ("index_list", ["seq", "name", "unique", "origin", "partial"]),
    ("index_xinfo", ["seqno", "cid", "name", "desc", "coll", "key"]),
    ("module_list", ["name"]),
    ("pragma_list", ["name"]),
    ("table_info", ["cid", "name", "type", "notnull", "dflt_value", "pk"]),
    ("table_list", ["schema", "name", "type", "ncol", "wr", "strict"]),
    ("table_xinfo", ["cid", "name", "type", "notnull", "dflt_value", "pk", "hidden"])]

/-- All tables that are always there. -/
def builtInTables : List LiveTable :=
  masterNames.map masterTable ++
    [untyped "json_each" partColumns, untyped "json_tree" partColumns, pageTable,
      untyped "fts3tokenize" ["input", "token", "start", "end", "position"]] ++
    settings.map (fun name => untyped ("pragma_" ++ name) [name]) ++
    inquiries.map fun (name, columns) => untyped ("pragma_" ++ name) columns

end TodoLedger.Schema
