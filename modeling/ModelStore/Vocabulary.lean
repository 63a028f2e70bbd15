/-! The fixed vocabulary: logical field types, query operators, sort orders and converters. -/

namespace ModelStore

inductive FieldType where
  | string
  | float
  | double
  | real
  | integer
  | boolean
  | date
  | text
  | binary
  deriving DecidableEq, Repr

inductive Operator where
  | and
  | or
  | not
  | eq
  | neq
  | gt
  | gte
  | lt
  | lte
  | isIn
  | notIn
  | regex
  deriving DecidableEq, Repr

inductive SortOrder where
  | ascending
  | descending
  deriving DecidableEq, Repr

/-- Two-way transformations between model values and stored values. -/
inductive Converter where
  | identity
  | string
  | integer
  | float
  | boolean
  | date
  | binary
  deriving DecidableEq, Repr

namespace FieldType

def all : List FieldType :=
  [.string, .float, .double, .real, .integer, .boolean, .date, .text, .binary]

def value : FieldType → String
  | .string => "string"
  | .float => "float"
  | .double => "double"
  | .real => "real"
  | .integer => "integer"
  | .boolean => "boolean"
  | .date => "date"
  | .text => "text"
  | .binary => "binary"

def name : FieldType → String
  | .string => "STRING"
  | .float => "FLOAT"
  | .double => "DOUBLE"
  | .real => "REAL"
  | .integer => "INTEGER"
  | .boolean => "BOOLEAN"
  | .date => "DATE"
  | .text => "TEXT"
  | .binary => "BINARY"

def ofValue? (s : String) : Option FieldType := all.find? (·.value == s)

end FieldType

namespace Operator

def all : List Operator :=
  [.and, .or, .not, .eq, .neq, .gt, .gte, .lt, .lte, .isIn, .notIn, .regex]

def value : Operator → String
  | .and => "$and"
  | .or => "$or"
  | .not => "$not"
  | .eq => "$eq"
  | .neq => "$neq"
  | .gt => "$gt"
  | .gte => "$gte"
  | .lt => "$lt"
  | .lte => "$lte"
  | .isIn => "$in"
  | .notIn => "$nin"
  | .regex => "$regex"

def name : Operator → String
  | .and => "AND"
  | .or => "OR"
  | .not => "NOT"
  | .eq => "EQ"
  | .neq => "NEQ"
  | .gt => "GT"
  | .gte => "GTE"
  | .lt => "LT"
  | .lte => "LTE"
  | .isIn => "IN"
  | .notIn => "NIN"
  | .regex => "REGEX"

def ofValue? (s : String) : Option Operator := all.find? (·.value == s)

/-- Logical operators combine clauses; all others compare a field with a value. -/
def isLogical : Operator → Bool
  | .and | .or | .not => true
  | _ => false

def logical : List Operator := all.filter isLogical

def comparisons : List Operator := all.filter (!·.isLogical)

/-- Whether the operator takes a list of values. -/
def takesList : Operator → Bool
  | .isIn | .notIn => true
  | _ => false

end Operator

namespace SortOrder

def all : List SortOrder := [.ascending, .descending]

def value : SortOrder → String
  | .ascending => "asc"
  | .descending => "desc"

def name : SortOrder → String
  | .ascending => "ASC"
  | .descending => "DESC"

def ofValue? (s : String) : Option SortOrder := all.find? (·.value == s)

end SortOrder

namespace Converter

def all : List Converter := [.identity, .string, .integer, .float, .boolean, .date, .binary]

def name : Converter → String
  | .identity => "IdentityConverter"
  | .string => "StringConverter"
  | .integer => "IntegerConverter"
  | .float => "FloatConverter"
  | .boolean => "BooleanConverter"
  | .date => "DateConverter"
  | .binary => "BinaryConverter"

def ofName? (s : String) : Option Converter := all.find? (·.name == s)

def text (c : Converter) : String := c.name ++ "()"

end Converter

end ModelStore
