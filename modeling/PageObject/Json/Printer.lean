import PageObject.Json.Basic
import PageObject.Decimal.Shortest
import PageObject.Text.Quoted

namespace PageObject.Json

open Text

def Number.text : Number → String
  | .int value => toString value
  | .float negative magnitude => (if negative then "-" else "") ++ magnitude.text

mutual

def charsWith (write : Char → List Char) : Json → List Char
  | .null => ['n', 'u', 'l', 'l']
  | .bool true => ['t', 'r', 'u', 'e']
  | .bool false => ['f', 'a', 'l', 's', 'e']
  | .number value => value.text.toList
  | .string text => quoteWith write text.toList
  | .array items => '[' :: (itemsWith write items ++ [']'])
  | .object fields => '{' :: (fieldsWith write fields ++ ['}'])

def itemsWith (write : Char → List Char) : List Json → List Char
  | [] => []
  | [item] => charsWith write item
  | item :: rest => charsWith write item ++ ',' :: itemsWith write rest

def fieldsWith (write : Char → List Char) : List (String × Json) → List Char
  | [] => []
  | [(key, value)] => quoteWith write key.toList ++ ':' :: charsWith write value
  | (key, value) :: rest =>
    quoteWith write key.toList ++ ':' :: (charsWith write value ++ ',' :: fieldsWith write rest)

end

def text (value : Json) : String := String.ofList (value.charsWith escape)

def lineText (value : Json) : String := String.ofList (value.charsWith escapeInLine)

end PageObject.Json
