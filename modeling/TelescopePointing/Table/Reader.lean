namespace TelescopePointing.Table

inductive Place where
  /-- Before the first character of a record. -/
  | line
  /-- Before the first character of a further field. -/
  | field
  | plain
  | quoted
  /-- Behind a quote within a quoted field: it ends the field unless another quote follows. -/
  | afterQuote

def isLineBreak (c : Char) : Bool := c = '\n' || c = '\r'

def closeField (cell : List Char) (record : List String) : List String :=
  String.ofList cell.reverse :: record

def closeRecord (cell : List Char) (record : List String) : List String :=
  (closeField cell record).reverse

/-- The records of a text. The cell and the fields of the record so far are kept in reverse. Empty
lines are no records, and the end of the text ends a quoted field. -/
def scan : Place → List Char → List String → List Char → List (List String)
  | .line, _, _, [] => []
  | _, cell, record, [] => [closeRecord cell record]
  | .quoted, cell, record, c :: cs =>
    if c = '"' then scan .afterQuote cell record cs else scan .quoted (c :: cell) record cs
  | place, cell, record, c :: cs =>
    if isLineBreak c then
      match place with
      | .line => scan .line [] [] cs
      | _ => closeRecord cell record :: scan .line [] [] cs
    else if c = ',' then scan .field [] (closeField cell record) cs
    else if c = '"' then
      match place with
      | .line | .field => scan .quoted [] record cs
      | .afterQuote => scan .quoted (c :: cell) record cs
      | _ => scan .plain (c :: cell) record cs
    else scan .plain (c :: cell) record cs

/-- A mark of the byte order may stand before the first record. -/
def records (text : String) : List (List String) :=
  match text.toList with
  | '\uFEFF' :: cs => scan .line [] [] cs
  | cs => scan .line [] [] cs

end TelescopePointing.Table

namespace TelescopePointing

/-- The first record of a text names the columns of the others. -/
structure Table where
  header : List String
  rows : List (List String)

namespace Table

def ofText (text : String) : Table :=
  match records text with
  | [] => ⟨[], []⟩
  | header :: rows => ⟨header, rows⟩

/-- A row has as many fields as the header. -/
def fits (t : Table) (row : List String) : Bool := row.length == t.header.length

/-- What is wrong with a row of another length. -/
def lengthFault (t : Table) (row : List String) : String :=
  s!"found record with {row.length} fields, but the previous record has {t.header.length} fields"

end Table

end TelescopePointing
