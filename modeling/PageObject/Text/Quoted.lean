namespace PageObject.Text

def hexDigit (n : Nat) : Char :=
  if n < 10 then Char.ofNat ('0'.toNat + n) else Char.ofNat ('a'.toNat + (n - 10))

def escapeByCode (c : Char) : List Char :=
  let code := c.toNat
  ['\\', 'u', hexDigit (code / 4096 % 16), hexDigit (code / 256 % 16), hexDigit (code / 16 % 16),
    hexDigit (code % 16)]

def escape (c : Char) : List Char :=
  if c = '"' then ['\\', '"']
  else if c = '\\' then ['\\', '\\']
  else if c = '\x08' then ['\\', 'b']
  else if c = '\t' then ['\\', 't']
  else if c = '\n' then ['\\', 'n']
  else if c = '\x0c' then ['\\', 'f']
  else if c = '\r' then ['\\', 'r']
  else if c.toNat < 0x20 then escapeByCode c
  else [c]

/-- Whether a character ends a line although `escape` leaves it as it stands. -/
def isLineSeparator (c : Char) : Bool := c = '\u0085' || c = '\u2028' || c = '\u2029'

def escapeInLine (c : Char) : List Char := if isLineSeparator c then escapeByCode c else escape c

def quoteWith (write : Char → List Char) (text : List Char) : List Char :=
  '"' :: (text.flatMap write ++ ['"'])

def quote (text : String) : String := String.ofList (quoteWith escape text.toList)

end PageObject.Text
