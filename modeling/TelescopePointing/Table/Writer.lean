namespace TelescopePointing.Table

def needsQuotes (cs : List Char) : Bool :=
  cs.any fun c => c = ',' || c = '"' || c = '\n' || c = '\r'

def doubleQuotes (cs : List Char) : List Char :=
  cs.flatMap fun c => if c = '"' then ['"', '"'] else [c]

/-- A cell as it stands in a table, in quotes only where it would be misread without. -/
def cellChars (cell : String) : List Char :=
  let cs := cell.toList
  if needsQuotes cs then '"' :: doubleQuotes cs ++ ['"'] else cs

/-- A record of one empty cell is written as a pair of quotes, since an empty line is no record. -/
def recordChars (record : List String) : List Char :=
  let line := (record.map cellChars).intersperse [','] |>.flatten
  (if line.isEmpty then ['"', '"'] else line) ++ ['\n']

def render (records : List (List String)) : String :=
  String.ofList (records.flatMap recordChars)

/-- Rows under their header; without rows nothing is written. -/
def withHeader (header : List String) (rows : List (List String)) : List (List String) :=
  if rows.isEmpty then [] else header :: rows

end TelescopePointing.Table
