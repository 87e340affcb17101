import MediaDispatch.Text.Hidden

/-! # Quoted texts

    Texts in quotation marks for people to read.  What would not be seen, or
    would end the text, is escaped; a character without an image is shown by
    its number in hexadecimal. -/

namespace MediaDispatch.Text

/-- How a character stands in a quoted text. -/
def escapeVisibly (c : Char) : List Char :=
  if c = Char.ofNat 0 then ['\\', '0']
  else if c = '\t' then ['\\', 't']
  else if c = '\r' then ['\\', 'r']
  else if c = '\n' then ['\\', 'n']
  else if c = '\\' || c = '"' then ['\\', c]
  else if isHidden c then
    '\\' :: 'u' :: '\x7b' :: (Nat.toDigits 16 c.toNat ++ ['\x7d'])
  else [c]

/-- A text in quotation marks. -/
def quoted (s : String) : String :=
  String.ofList ('"' :: (s.toList.flatMap escapeVisibly ++ ['"']))

example : quoted "a\t'é" = "\"a\\t'é\"" := by decide +kernel

end MediaDispatch.Text
