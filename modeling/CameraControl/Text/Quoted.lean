import CameraControl.Text.Unseen

/-
  Texts as messages quote them.

  A quoted text stands between double quotes. Six characters are written as a backslash and one
  letter, every other unseen character as `\u` and its hexadecimal code point in braces, and the
  rest as they are.
-/

namespace CameraControl.Text

/-- A character as a quoted text shows it. -/
def quoteChar (c : Char) : List Char :=
  if c = Char.ofNat 0 then ['\\', '0']
  else if c = '\t' then ['\\', 't']
  else if c = '\r' then ['\\', 'r']
  else if c = '\n' then ['\\', 'n']
  else if c = '"' then ['\\', '"']
  else if c = '\\' then ['\\', '\\']
  else if isUnseen c then ['\\', 'u', '\x7b'] ++ Nat.toDigits 16 c.toNat ++ ['\x7d']
  else [c]

/-- A text between double quotes, with its unseen characters and its quotes made visible. -/
def quote (s : String) : String :=
  String.ofList ('"' :: s.toList.flatMap quoteChar ++ ['"'])

end CameraControl.Text
