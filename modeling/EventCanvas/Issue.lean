import EventCanvas.Value.Text

/-!
# What can be wrong with a payload

An `Issue` says what is wrong and where: the path from the payload's root, the
problem, and the value found there.
-/

namespace EventCanvas

/-- One step of a path into a payload. -/
inductive Step where
  | name (s : String)
  | index (i : Int)
deriving DecidableEq

/-- A step as part of a written path. -/
def Step.text : Step → String
  | name s => s
  | index i => toString i

/-- What is wrong with a value. -/
inductive Problem where
  | missing
  | notText
  | emptyText
  | notNumber
  | unreadableNumber
  | notTruth
  | unreadableTruth
  | notTable
  | notList
  | notShape (shape : Shape)
  | notFieldHolder
  | notOneOf (choices : List String)
  | tagMissing
  | tagUnknown (tag : String)
  | notIdentifier
  | unreadableIdentifier
  | notInstant
  | unreadableInstant
  | instantOutOfRange
  | duplicateIds (ids : List String)
deriving DecidableEq

namespace Problem

/-- The code of a problem. -/
def code : Problem → String
  | missing => "missing"
  | notText => "string_type"
  | emptyText => "string_too_short"
  | notNumber => "float_type"
  | unreadableNumber => "float_parsing"
  | notTruth => "bool_type"
  | unreadableTruth => "bool_parsing"
  | notTable => "dict_type"
  | notList => "list_type"
  | notShape _ => "model_type"
  | notFieldHolder => "model_attributes_type"
  | notOneOf _ => "literal_error"
  | tagMissing => "union_tag_not_found"
  | tagUnknown _ => "union_tag_invalid"
  | notIdentifier => "uuid_type"
  | unreadableIdentifier => "uuid_parsing"
  | notInstant => "datetime_type"
  | unreadableInstant => "datetime_from_date_parsing"
  | instantOutOfRange => "datetime_parsing"
  | duplicateIds _ => "value_error"

/-- Quoted choices, the last one after "or". -/
def choiceText : List String → String
  | [] => ""
  | [a] => Text.quoted a
  | [a, b] => Text.quoted a ++ " or " ++ Text.quoted b
  | a :: rest => Text.quoted a ++ ", " ++ choiceText rest

/-- The kinds of action there are, as tags. -/
def actionTags : List String := ["setText", "setVariable", "showAlert"]

/-- The message of a problem. -/
def message : Problem → String
  | missing => "Field required"
  | notText => "Input should be a valid string"
  | emptyText => "String should have at least 1 character"
  | notNumber => "Input should be a valid number"
  | unreadableNumber => "Input should be a valid number, unable to parse string as a number"
  | notTruth => "Input should be a valid boolean"
  | unreadableTruth => "Input should be a valid boolean, unable to interpret input"
  | notTable => "Input should be a valid dictionary"
  | notList => "Input should be a valid list"
  | notShape s => "Input should be a valid dictionary or instance of " ++ s.name
  | notFieldHolder => "Input should be a valid dictionary or object to extract fields from"
  | notOneOf choices => "Input should be " ++ choiceText choices
  | tagMissing => "Unable to extract tag using discriminator 'type'"
  | tagUnknown tag =>
    "Input tag '" ++ tag ++ "' found using 'type' does not match any of the expected tags: " ++
      ", ".intercalate (actionTags.map Text.quoted)
  | notIdentifier => "UUID input should be a string, bytes or UUID object"
  | unreadableIdentifier => "Input should be a valid UUID"
  | notInstant | instantOutOfRange => "Input should be a valid datetime"
  | unreadableInstant => "Input should be a valid datetime or date"
  | duplicateIds ids => "Value error, duplicate node ids: " ++ ", ".intercalate ids

end Problem

/-- A problem and the place where it was found. -/
structure Issue where
  path : List Step
  problem : Problem
  input : Value

namespace Issue

/-- The path with dots between its steps; the empty path is the root. -/
def place (i : Issue) : String :=
  let p := ".".intercalate (i.path.map Step.text)
  if p = "" then "<root>" else p

/-- Place and message on one line. -/
def text (i : Issue) : String := i.place ++ ": " ++ i.problem.message

end Issue

end EventCanvas
