import DispatchStore.Table.Column

/-!
# Tables of the engine

Every database has tables that nobody created: the list of what it contains, and views of the
settings and of JSON texts. Their columns can be described like those of any table, but the tables
cannot be changed. A table that was created under the name of such a view stands in front of it; the
list of what the database contains has a reserved name.
-/

namespace DispatchStore

/-- A table that the engine provides. -/
structure EngineTable where
  name : String
  columns : List Column
  /-- Whether it is a view, which computes its rows. -/
  isView : Bool
deriving DecidableEq

namespace EngineTable

/-- A view with columns of no type. -/
def view (name : String) (columns : List String) : EngineTable :=
  ⟨name, columns.map fun c => ⟨c, "", false, false⟩, true⟩

/-- A list of the tables of a database. -/
def contents (name : String) : EngineTable :=
  ⟨name, [.optional "type", .optional "name", .optional "tbl_name",
    ⟨"rootpage", "INT", false, false⟩, .optional "sql"], false⟩

/-- The settings whose view has one column, named like the setting. -/
def settings : List String :=
  ["analysis_limit", "application_id", "auto_vacuum", "automatic_index", "cache_size",
    "cache_spill", "cell_size_check", "checkpoint_fullfsync", "compile_options", "count_changes",
    "data_version", "defer_foreign_keys", "empty_result_callbacks", "encoding", "foreign_keys",
    "freelist_count", "full_column_names", "fullfsync", "hard_heap_limit",
    "ignore_check_constraints", "integrity_check", "journal_mode", "journal_size_limit",
    "legacy_alter_table", "locking_mode", "max_page_count", "optimize", "page_count", "page_size",
    "query_only", "quick_check", "read_uncommitted", "recursive_triggers",
    "reverse_unordered_selects", "schema_version", "secure_delete", "short_column_names",
    "soft_heap_limit", "synchronous", "temp_store", "threads", "trusted_schema", "user_version",
    "writable_schema"]

/-- The views with other columns. -/
def views : List EngineTable :=
  [view "json_each" ["key", "value", "type", "atom", "id", "parent", "fullkey", "path"],
    view "json_tree" ["key", "value", "type", "atom", "id", "parent", "fullkey", "path"],
    view "fts3tokenize" ["input", "token", "start", "end", "position"],
    view "pragma_busy_timeout" ["timeout"],
    view "pragma_collation_list" ["seq", "name"],
    view "pragma_database_list" ["seq", "name", "file"],
    view "pragma_default_cache_size" ["cache_size"],
    view "pragma_foreign_key_check" ["table", "rowid", "parent", "fkid"],
    view "pragma_foreign_key_list"
      ["id", "seq", "table", "from", "to", "on_update", "on_delete", "match"],
    view "pragma_function_list" ["name", "builtin", "type", "enc", "narg", "flags"],
    view "pragma_index_info" ["seqno", "cid", "name"],
    view "pragma_index_list" ["seq", "name", "unique", "origin", "partial"],
    view "pragma_index_xinfo" ["seqno", "cid", "name", "desc", "coll", "key"],
    view "pragma_module_list" ["name"],
    view "pragma_pragma_list" ["name"],
    view "pragma_table_info" ["cid", "name", "type", "notnull", "dflt_value", "pk"],
    view "pragma_table_list" ["schema", "name", "type", "ncol", "wr", "strict"],
    view "pragma_table_xinfo" ["cid", "name", "type", "notnull", "dflt_value", "pk", "hidden"],
    ⟨"dbstat", [.optional "name", .optional "path", ⟨"pageno", "INTEGER", false, false⟩,
      .optional "pagetype", ⟨"ncell", "INTEGER", false, false⟩,
      ⟨"payload", "INTEGER", false, false⟩, ⟨"unused", "INTEGER", false, false⟩,
      ⟨"mx_payload", "INTEGER", false, false⟩, ⟨"pgoffset", "INTEGER", false, false⟩,
      ⟨"pgsize", "INTEGER", false, false⟩], true⟩]

/-- All tables of the engine. The list of contents has two names. -/
def all : List (String × EngineTable) :=
  [("sqlite_master", contents "sqlite_master"), ("sqlite_schema", contents "sqlite_master"),
    ("sqlite_temp_master", contents "sqlite_temp_master"),
    ("sqlite_temp_schema", contents "sqlite_temp_master")] ++
    (views.map fun t => (t.name, t)) ++
    settings.map fun s => ("pragma_" ++ s, view ("pragma_" ++ s) [s])

/-- The engine's table with the given name, in any case. -/
def named? (name : String) : Option EngineTable :=
  (all.find? fun t => Text.sameLetters t.1 name).map Prod.snd

/-- The names of the list of what the database contains. -/
def contentsNames : List String := ["sqlite_master", "sqlite_schema"]

/-- The names of the list of what lasts no longer than the connection. -/
def temporaryNames : List String := ["sqlite_temp_master", "sqlite_temp_schema"]

/-- Whether the table is the list of what lasts no longer than the connection. -/
def isTemporary (t : EngineTable) : Bool := temporaryNames.contains t.name

end EngineTable

end DispatchStore
