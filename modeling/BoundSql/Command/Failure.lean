import BoundSql.Document.Reading
import BoundSql.Fault
import BoundSql.Settings.Basic

/-! The ways in which a command fails, each with a code, and with advice where there is some. -/
namespace BoundSql

def Fault.code : Fault → String
  | invalidIdentifier _ => "strata_query::invalid_identifier"
  | invalidTableName _ => "strata_query::invalid_table_name"
  | invalidOperator _ => "strata_query::invalid_operator"
  | malformedCondition _ => "strata_query::malformed_condition"
  | emptyInput _ => "strata_query::empty_input"
  | schemaMismatch _ _ _ => "strata_query::schema_mismatch"
  | duplicateColumn _ _ => "strata_query::duplicate_column"
  | missingJoinCondition _ _ => "strata_query::missing_join_condition"

def Fault.advice? : Fault → Option String
  | invalidIdentifier _ => some "Identifiers must match ^[A-Za-z_][A-Za-z0-9_]*$"
  | invalidTableName _ => some "Table names must match ^[A-Za-z_][A-Za-z0-9_]*$"
  | invalidOperator _ => some ("Use one of " ++ ", ".intercalate (Operator.all.map Operator.sql))
  | malformedCondition _ => some "A comparison needs both a field and an operator"
  | emptyInput _ => none
  | schemaMismatch _ _ _ =>
    some "Every row in a batch must target the first row's table with the same set of columns"
  | duplicateColumn _ _ => some "Each column may appear only once per row"
  | missingJoinCondition _ _ => some "Only CROSS joins may omit the ON condition"

namespace Settings

def Fault.code : Fault → String
  | zero _ => "strata_config::invalid_value"
  | malformed => "strata_config::toml_deserialize"
  | inaccessible => "strata_config::io"

def Fault.advice? : Fault → Option String
  | zero _ => some "Both `max_batch_rows` and `default_page_size` must be at least 1"
  | malformed => some "Check your config.toml syntax and structure"
  | inaccessible => none

end Settings

inductive Failure where
  | settings (fault : Settings.Fault)
  | query (fault : Fault)
  /-- Something cannot be read, in the course of an action. -/
  | inaccessible (action : String)
  /-- A text holds no document. -/
  | malformed (format : Format)
  /-- A document of another kind than an insertion, where only one of these will do. -/
  | notInsertion (kind : String)
  | settingsExist (path : String)

namespace Failure

def code : Failure → String
  | settings fault => fault.code
  | query fault => fault.code
  | inaccessible _ => "strata::io"
  | malformed .json => "strata::json"
  | malformed .toml => "strata::toml"
  | notInsertion _ => "strata::raw_unsupported"
  | settingsExist _ => "strata::config_exists"

def advice? : Failure → Option String
  | settings fault => fault.advice?
  | query fault => fault.advice?
  | inaccessible _ => some "Check the file path and its permissions"
  | malformed _ =>
    some "A document holds exactly one of: select, query, insert, update, delete"
  | notInsertion _ => some "Drop --raw for this document"
  | settingsExist _ => some "Pass --force to overwrite it"

def message : Failure → String
  | settings .malformed => "TOML deserialization error"
  | settings .inaccessible => "IO error"
  | settings fault => fault.message?.getD ""
  | query fault => fault.message
  | inaccessible action => "Error while " ++ action
  | malformed .json => "Invalid JSON document"
  | malformed .toml => "Invalid TOML document"
  | notInsertion kind => "--raw only applies to insert documents, got a " ++ kind ++ " document"
  | settingsExist path => "Configuration file already exists at " ++ path

end Failure
end BoundSql
