namespace PageObject.Text

def isLetter (c : Char) : Bool := ('a' ≤ c && c ≤ 'z') || ('A' ≤ c && c ≤ 'Z')

def isWordChar (c : Char) : Bool := isLetter c || ('0' ≤ c && c ≤ '9') || c == '_'

def isHyphenatedChar (c : Char) : Bool := isWordChar c || c == '-'

def isIdentifierText : List Char → Bool
  | [] => false
  | first :: rest => isLetter first && rest.all isWordChar

def isHyphenatedWord (word : List Char) : Bool := !word.isEmpty && word.all isHyphenatedChar

def isIdentifier (name : String) : Bool := isIdentifierText name.toList

end PageObject.Text
