import ObjectQuery.Identity
import ObjectQuery.Query.Operator

/-!
# Failures

Every way an operation can fail, by cause, and the text of each. A misuse breaks what an operation
demands of its caller; all other failures come from the input.
-/

namespace ObjectQuery

/-- What makes a list of classes no model. -/
inductive ModelDefect where
  | repeatedClass (name : String)
  | unknownSuperclass (name superclass : String)
  | unknownClass (name : String)
  | inheritanceCycle (name : String)
  | unknownTarget (name field target : String)
  | badReverse (name field target reverse : String)
deriving DecidableEq

namespace ModelDefect

/-- The text of the defect. -/
def message : ModelDefect → String
  | .repeatedClass name => "class " ++ name ++ " is declared more than once"
  | .unknownSuperclass name sup =>
    "class " ++ name ++ " extends " ++ sup ++ ", which is not in the model"
  | .unknownClass name => name ++ " is not in the model"
  | .inheritanceCycle name => "inheritance cycle through " ++ name
  | .unknownTarget name field target =>
    "field " ++ name ++ "." ++ field ++ " references " ++ target ++ ", which is not in the model"
  | .badReverse name field target reverse =>
    "field " ++ name ++ "." ++ field ++ " names reverse " ++ target ++ "." ++ reverse ++
      ", which is not a relationship"

end ModelDefect

/-- A language that settings are written in. -/
inductive SettingsFormat where
  | toml
  | json
deriving DecidableEq

namespace SettingsFormat

/-- The name of the language. -/
def text : SettingsFormat → String
  | .toml => "TOML"
  | .json => "JSON"

end SettingsFormat

/-- What keeps settings from being loaded. -/
inductive SettingsDefect where
  | unreadable (format : SettingsFormat) (path : String)
  | malformed (format : SettingsFormat)
  | notTable (format : SettingsFormat) (found : String)
  | mistyped (format : SettingsFormat)
  | unknownPlatform (name : String)
deriving DecidableEq

namespace SettingsDefect

/-- The text of the defect. -/
def message : SettingsDefect → String
  | .unreadable format path => "Failed to read " ++ format.text ++ " file '" ++ path ++ "'"
  | .malformed format => "Failed to parse " ++ format.text
  | .notTable format found =>
    "Settings in " ++ format.text ++ " must be a table of keys, found " ++ found
  | .mistyped format => "Failed to deserialize settings from " ++ format.text
  | .unknownPlatform name => "unknown database platform: " ++ name

end SettingsDefect

/-- A call that breaks what the operation demands. -/
inductive Misuse where
  | emptyClassType
  | rightOperandGiven (op : NullTest)
  | rightOperandMissing (op : Comparison)
  | targetGiven (op : NullTest)
  | targetMissing (op : Containment)
  | objectInCollection (field : String)
  | nullTestOfCollection (field : String)
  | classNeeded (field : String)
  | operandMissing (op : Aggregate)
  | noAlias (node query : NodeId)
  | notASource (node query : NodeId)
  /-- What is taken for granted does not hold. -/
  | unreachable (granted : String)
deriving DecidableEq

namespace Misuse

/-- The text of the misuse. -/
def message : Misuse → String
  | .emptyClassType => "a class type must name at least one class"
  | .rightOperandGiven op => op.text ++ " takes no right operand"
  | .rightOperandMissing op => op.text ++ " needs a right operand"
  | .targetGiven op => op.text ++ " takes no target"
  | .targetMissing op => op.text ++ " needs a target"
  | .objectInCollection field => "collection " ++ field ++ " can only be compared with a class"
  | .nullTestOfCollection field => "collection " ++ field ++ " cannot be tested for null"
  | .classNeeded field =>
    "one-to-many collection " ++ field ++ " must be compared with a class"
  | .operandMissing op => op.text ++ " requires an operand"
  | .noAlias node query => "node " ++ node.text ++ " has no alias in query " ++ query.text
  | .notASource node query =>
    "node " ++ node.text ++ " is not in the FROM list of query " ++ query.text
  | .unreachable granted => "internal error: entered unreachable code: " ++ granted

end Misuse

/-- Why an operation failed. -/
inductive Failure where
  /-- A query names a class that the model does not have. -/
  | classNotInModel (name : String)
  /-- A query names a field that its class does not have. -/
  | fieldNotInModel (className field : String)
  /-- An object that was never stored is used as a value. -/
  | objectWithoutId (className : String)
  /-- The classes do not form a model. -/
  | model (defect : ModelDefect)
  /-- The settings cannot be loaded. -/
  | settings (defect : SettingsDefect)
  /-- A text does not describe a model. -/
  | modelText
  /-- The caller broke a demand. -/
  | misuse (m : Misuse)
deriving DecidableEq

namespace Failure

/-- The text of the failure. -/
def message : Failure → String
  | .classNotInModel name => name ++ " is not in the model"
  | .fieldNotInModel name field =>
    "Field " ++ field ++ " is not in the model for class " ++ name
  | .objectWithoutId name => "Object of class " ++ name ++ " found without an ID set"
  | .model d => "Metadata error: " ++ d.message
  | .settings d => "Configuration error: " ++ d.message
  | .modelText => "Serialization error: invalid model"
  | .misuse m => m.message

/-- Whether the query asks for something that the model or an object cannot give. -/
def isModeling : Failure → Bool
  | .classNotInModel _ | .fieldNotInModel .. | .objectWithoutId _ => true
  | _ => false

/-- Whether the caller broke a demand. -/
def isMisuse : Failure → Bool
  | .misuse _ => true
  | _ => false

end Failure

end ObjectQuery
