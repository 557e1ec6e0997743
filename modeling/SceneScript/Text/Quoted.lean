import SceneScript.Text.Printable

/-!
Quoted texts, as messages show values: single quotes, or double ones around a text with single
quotes only. The quote in use and the backslash are escaped, three controls have short escapes,
and other characters that are not printable are written by their code in hexadecimal.
-/

namespace SceneScript.Text

def hexDigits (width code : Nat) : List Char :=
  let digits := Nat.toDigits 16 code
  List.replicate (width - digits.length) '0' ++ digits

def quoteFor (text : List Char) : Char :=
  if text.contains '\'' && !text.contains '"' then '"' else '\''

def escapeIn (quote c : Char) : List Char :=
  if c = quote || c = '\\' then ['\\', c]
  else if c = '\n' then ['\\', 'n']
  else if c = '\r' then ['\\', 'r']
  else if c = '\t' then ['\\', 't']
  else if isPrintable c then [c]
  else if c.toNat ≤ 0xFF then ['\\', 'x'] ++ hexDigits 2 c.toNat
  else if c.toNat ≤ 0xFFFF then ['\\', 'u'] ++ hexDigits 4 c.toNat
  else ['\\', 'U'] ++ hexDigits 8 c.toNat

def quoted (text : String) : String :=
  let chars := text.toList
  let quote := quoteFor chars
  String.ofList ([quote] ++ chars.flatMap (escapeIn quote) ++ [quote])

end SceneScript.Text
