/-!
# Faults of expressions
-/

set_option autoImplicit false

namespace Sluice

/-- Operations on integers that can leave the 64-bit range. -/
inductive CheckedOperation where
  | addition
  | subtraction
  | multiplication
  | negation
  | exponential
  deriving DecidableEq, Repr

def CheckedOperation.title : CheckedOperation → String
  | addition => "Addition"
  | subtraction => "Subtraction"
  | multiplication => "Multiplication"
  | negation => "Negation"
  | exponential => "Exponential"

inductive ScriptFault where
  | malformed
  | unknownFunction
  | unknownVariable
  | wrongType
  | unknownProperty (name : String)
  | notIndexable
  | textIndex (index : Int)
  | listIndex (index : Int)
  | overflow (operation : CheckedOperation)
  | negativePower
  | largeExponent
  | bitIndex (index : Int)
  /-- A fault told by a caller. -/
  | told (message : String)
  deriving DecidableEq, Repr

def ScriptFault.message : ScriptFault → String
  | malformed => "compile error"
  | unknownFunction => "Function not found"
  | unknownVariable => "Variable not found"
  | wrongType => "Data type incorrect"
  | unknownProperty name => "Unknown property '" ++ name ++ "'"
  | notIndexable => "Indexer unavailable"
  | textIndex index => "String index " ++ toString index ++ " out of bounds"
  | listIndex index => "Array index " ++ toString index ++ " out of bounds"
  | overflow operation => operation.title ++ " overflow"
  | negativePower => "Integer raised to a negative power"
  | largeExponent => "Integer raised to too large an index"
  | bitIndex index => "Bit-field index " ++ toString index ++ " out of bounds"
  | told message => message

end Sluice
