import Workbench.Value.Basic
import Workbench.Decimal.Print
import Workbench.Decimal.Read
import Workbench.Text.Quoted
import Workbench.Text.Cut

namespace Workbench.Value

mutual

/-- The literal form of a value: text is quoted, numbers are in their shortest form. -/
def literal : Value → String
  | .null => "None"
  | .bool true => "True"
  | .bool false => "False"
  | .int number => toString number
  | .float number => Decimal.plain number
  | .text content => Text.quoted content
  | .bytes content => Text.quotedBytes content
  | .list items => "[" ++ Text.join ", " (literals items) ++ "]"
  | .object members => "\x7b" ++ Text.join ", " (memberLiterals members) ++ "\x7d"

def literals : List Value → List String
  | [] => []
  | item :: rest => literal item :: literals rest

def memberLiterals : List (String × Value) → List String
  | [] => []
  | (name, value) :: rest => (Text.quoted name ++ ": " ++ literal value) :: memberLiterals rest

end

/-- The text of a value as it reads in a sentence: text stands for itself, all else in literal form. -/
def display : Value → String
  | .text content => content
  | value => value.literal

mutual

/-- Whether a value can be written out: no whole number within it has too many digits. -/
def isWritable : Value → Bool
  | .int number => !Decimal.isVast number
  | .list items => areWritable items
  | .object members => membersAreWritable members
  | _ => true

def areWritable : List Value → Bool
  | [] => true
  | item :: rest => item.isWritable && areWritable rest

def membersAreWritable : List (String × Value) → Bool
  | [] => true
  | (_, value) :: rest => value.isWritable && membersAreWritable rest

end

end Workbench.Value
