/-!
# Problems of records

A problem says where in a record it was found, from the outside in, and what is wrong there.
-/
namespace Promptsmith

inductive Reason where
  | missing
  | stringType
  | listType
  | setType
  | recordType
  | pathType
  | noWord
  | noChoice
  | intType
  | intParsing
  | intSize
  | intFromFloat
  | notFinite
  | floatType
  | floatParsing
  | boolType
  | boolParsing
  | belowMinimum
  | aboveMaximum
  | frozen
  | noSuchField
  | invalidJson
  | unfit (text : String)
  deriving DecidableEq, Repr

def Reason.code : Reason → String
  | .missing => "missing"
  | .stringType => "string_type"
  | .listType => "list_type"
  | .setType => "frozen_set_type"
  | .recordType => "model_type"
  | .pathType => "path_type"
  | .noWord => "enum"
  | .noChoice => "literal_error"
  | .intType => "int_type"
  | .intParsing => "int_parsing"
  | .intSize => "int_parsing_size"
  | .intFromFloat => "int_from_float"
  | .notFinite => "finite_number"
  | .floatType => "float_type"
  | .floatParsing => "float_parsing"
  | .boolType => "bool_type"
  | .boolParsing => "bool_parsing"
  | .belowMinimum => "greater_than_equal"
  | .aboveMaximum => "less_than_equal"
  | .frozen => "frozen_instance"
  | .noSuchField => "no_such_attribute"
  | .invalidJson => "json_invalid"
  | .unfit text => "Value error, " ++ text

structure Problem where
  place : List String
  reason : Reason
  deriving DecidableEq, Repr

def Problem.message (p : Problem) : String :=
  String.intercalate "." p.place ++ ": " ++ p.reason.code

/-- The same problem seen from one level further out. -/
def Problem.under (name : String) (p : Problem) : Problem :=
  { p with place := name :: p.place }

def Problem.messages (ps : List Problem) : String :=
  String.intercalate "; " (ps.map Problem.message)

end Promptsmith
