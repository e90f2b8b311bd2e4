/-!
# Expression sources

Before it is read, a source is brought to the plain form: texts in single quotes get double quotes,
and the strict comparisons `===` and `!==` become `==` and `!=`.  What stands inside other quotes is
kept as it is.
-/

set_option autoImplicit false

namespace Sluice

namespace Script

mutual

def plainSource : List Char → List Char
  | [] => []
  | '=' :: '=' :: '=' :: rest => '=' :: '=' :: plainSource rest
  | '!' :: '=' :: '=' :: rest => '!' :: '=' :: plainSource rest
  | '=' :: '=' :: rest => '=' :: '=' :: plainSource rest
  | '!' :: '=' :: rest => '!' :: '=' :: plainSource rest
  | '"' :: rest => '"' :: keptQuoted '"' rest
  | '`' :: rest => '`' :: keptQuoted '`' rest
  | '\'' :: rest => '"' :: singleQuoted rest
  | c :: rest => c :: plainSource rest

def keptQuoted (quote : Char) : List Char → List Char
  | [] => []
  | ['\\'] => ['\\']
  | '\\' :: escaped :: rest => '\\' :: escaped :: keptQuoted quote rest
  | c :: rest => c :: (if c = quote then plainSource rest else keptQuoted quote rest)

/-- The rest of a source inside single quotes; a text that is not closed is closed at the end. -/
def singleQuoted : List Char → List Char
  | [] => ['"']
  | '\'' :: rest => '"' :: plainSource rest
  | '"' :: rest => '\\' :: '"' :: singleQuoted rest
  | ['\\'] => ['\\', '"']
  | '\\' :: '\'' :: rest => '\'' :: singleQuoted rest
  | '\\' :: escaped :: rest => '\\' :: escaped :: singleQuoted rest
  | c :: rest => c :: singleQuoted rest

end

def normalize (source : String) : String := String.ofList (plainSource source.toList)

end Script

end Sluice
