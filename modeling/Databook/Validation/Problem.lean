import Databook.Columns.FormulaPlan

/-!
# Problems of documents

What can be wrong with a document that can be read. Ids that are used twice and rollups that do not
go over a relation are severe problems (`Problem.isSevere`); with all others a document still works.
-/

namespace Databook

/-- Where ids have to be unique. -/
inductive IdScope where
  | properties
  | rows
  | views
  /-- The options of the property of a name. -/
  | options (property : String)
deriving DecidableEq, Inhabited

/-- What the ids of a scope are ids of. -/
def IdScope.noun : IdScope → String
  | properties => "property id"
  | rows => "row id"
  | views => "view id"
  | options property => "option id in '" ++ property ++ "'"

/-- What a view uses a property for. -/
inductive ViewRole where
  | filter | sort | group | date | summary
deriving DecidableEq, Inhabited

def ViewRole.verb : ViewRole → String
  | filter => "filters on"
  | sort => "sorts by"
  | group => "groups by"
  | date => "places rows by"
  | summary => "summarizes"

/-- What a property takes for a value. -/
inductive Expectation where
  | number | boolean | optionId | optionIds | rowIds | string
deriving DecidableEq, Inhabited

def Expectation.noun : Expectation → String
  | number => "number"
  | boolean => "boolean"
  | optionId => "option id"
  | optionIds => "list of option ids"
  | rowIds => "list of row ids"
  | string => "string"

/-- The kind of a value. -/
def Cell.noun : Cell → String
  | .null => "null"
  | .bool _ => "boolean"
  | .number _ => "number"
  | .text _ => "string"
  | .list _ => "list"

/-- What is wrong with a document. Properties and views are given by their names, rows and missing
properties by their ids. -/
inductive Problem where
  | repeatedId (scope : IdScope) (id : String)
  | rollupOverOther (rollup property : String)
  | rollupOverUnknown (rollup property : String)
  | repeatedName (name : String)
  | unknownColumn (formula column : String)
  | brokenFormula (formula : String) (cause : Error)
  | noViews
  | unknownInView (view : String) (role : ViewRole) (property : String)
  | unavailableSummary (view : String) (a : Aggregation) (type : PropertyType) (property : String)
  | unknownInRow (row property : String)
  | storedComputed (row property : String) (type : PropertyType)
  | unexpectedValue (row property : String) (expected : Expectation) (value : Cell)
  | unknownOption (row property id : String)
deriving Inhabited

namespace Problem

/-- Is it an error whether or not documents are checked strictly? -/
def isSevere : Problem → Bool
  | repeatedId .. | rollupOverOther .. | rollupOverUnknown .. => true
  | _ => false

/-- The place of a cell. -/
def place (row property : String) : String := "Row '" ++ row ++ "' property '" ++ property ++ "'"

/-- The problem in words. -/
def message : Problem → String
  | repeatedId scope id => "Duplicate " ++ scope.noun ++ " '" ++ id ++ "'"
  | rollupOverOther rollup property =>
    "Rollup '" ++ rollup ++ "' uses '" ++ property ++ "', which is not a relation"
  | rollupOverUnknown rollup property =>
    "Rollup '" ++ rollup ++ "' uses unknown relation property '" ++ property ++ "'"
  | repeatedName name =>
    "Property name '" ++ name ++ "' is used more than once; formulas see the first"
  | unknownColumn formula column =>
    "Formula '" ++ formula ++ "' references unknown column '" ++ column ++ "'"
  | brokenFormula formula cause => "Formula '" ++ formula ++ "': " ++ cause.message
  | noViews => "Database has no views"
  | unknownInView view role property =>
    "View '" ++ view ++ "' " ++ role.verb ++ " unknown property '" ++ property ++ "'"
  | unavailableSummary view a type property =>
    "View '" ++ view ++ "' summary " ++ a.title ++ " is not available for " ++ type.name ++
      " property '" ++ property ++ "'"
  | unknownInRow row property =>
    "Row '" ++ row ++ "' has a cell for unknown property '" ++ property ++ "'"
  | storedComputed row property type =>
    place row property ++ " stores a value for a computed " ++ type.name ++ " column"
  | unexpectedValue row property expected value =>
    place row property ++ " expected " ++ expected.noun ++ ", got " ++ value.noun
  | unknownOption row property id =>
    place row property ++ " refers to unknown option '" ++ id ++ "'"

end Problem

end Databook
