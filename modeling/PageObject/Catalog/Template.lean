import PageObject.Text.DecimalDigit

namespace PageObject

inductive TemplatePiece where
  | text (content : String)
  | slot (digits : List Char)
deriving DecidableEq, Repr

abbrev Template := List TemplatePiece

def TemplatePiece.argument (index : Nat) : TemplatePiece := .slot (Nat.toDigits 10 index)

/-- The text of a part. A slot whose digits are not those of ASCII, or whose argument is not there,
stays as it is written. -/
def TemplatePiece.fill (args : List String) : TemplatePiece → String
  | .text content => content
  | .slot digits =>
    match if digits.all Text.isAsciiDigit then args[Text.digitsValue digits]? else none with
    | some argument => argument
    | none => String.ofList ('{' :: (digits ++ ['}']))

namespace Template

/-- The pieces of a written template, read from left to right; `opened` holds the digits read behind
a brace that may open a slot. -/
def scan : (opened : Option (List Char)) → List Char → Template
  | none, [] => []
  | some digits, [] => [.text (String.ofList ('{' :: digits))]
  | none, c :: rest =>
    if c = '{' then scan (some []) rest else .text (String.singleton c) :: scan none rest
  | some digits, c :: rest =>
    if Text.isDecimalDigit c then scan (some (digits ++ [c])) rest
    else if c = '}' ∧ digits ≠ [] then .slot digits :: scan none rest
    else if c = '{' then .text (String.ofList ('{' :: digits)) :: scan (some []) rest
    else .text (String.ofList ('{' :: (digits ++ [c]))) :: scan none rest

def ofText (text : String) : Template := scan none text.toList

def fill (template : Template) (args : List String) : String :=
  String.ofList (template.flatMap fun piece => (piece.fill args).toList)

end Template

end PageObject
