/-!
# Comma-separated values

A document is a list of records, one a line. The fields of a record are separated by
commas. A field is put in quotes only where it could be misread: if it holds a comma, a
quote, a line feed or a carriage return. A quote inside quotes is written twice. A record of
one empty field is written as a pair of quotes, because an empty line is the record without
fields.
-/

namespace SelectQuery.Csv

def comma : Char := ','

def quote : Char := '"'

/-- The character behind a record. -/
def lineFeed : Char := '\n'

/-- Ends a line elsewhere, and stands in quotes only. -/
def carriageReturn : Char := '\r'

def isSpecial (c : Char) : Bool :=
  c == comma || c == quote || c == lineFeed || c == carriageReturn

def doubled : List Char → List Char
  | [] => []
  | c :: rest => if c == quote then quote :: quote :: doubled rest else c :: doubled rest

def quoted (cs : List Char) : List Char := quote :: doubled cs ++ [quote]

def field (cs : List Char) : List Char := if cs.any isSpecial then quoted cs else cs

/-- The fields of a record, separated by commas. -/
def fields : List (List Char) → List Char
  | [] => []
  | [cs] => field cs
  | cs :: rest => field cs ++ comma :: fields rest

def record (cells : List (List Char)) : List Char :=
  (if cells == [[]] then quoted [] else fields cells) ++ [lineFeed]

def document (records : List (List (List Char))) : List Char := records.flatMap record

@[simp] theorem doubled_nil : doubled [] = [] := rfl
@[simp] theorem document_nil : document [] = [] := rfl
@[simp] theorem document_cons (r : List (List Char)) (rs : List (List (List Char))) :
    document (r :: rs) = record r ++ document rs := by
  simp [document]

end SelectQuery.Csv
