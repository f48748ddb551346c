/-!
SQL string literals: single quotes around the text, and a single quote inside it written twice.
-/
namespace ScalarSql.Text

def singleQuote : Char := '\x27'

/-- The characters with each single quote written twice. -/
def doubled : List Char → List Char
  | [] => []
  | c :: rest =>
    if c = singleQuote then c :: c :: doubled rest else c :: doubled rest

def quoted (s : String) : String :=
  String.ofList (singleQuote :: doubled s.toList ++ [singleQuote])

end ScalarSql.Text
