import Tether.Json.Value
/-!
# Json.Write — JSON text of a value

Two layouts: `Json.compact` writes no blank at all, `Json.pretty` puts every item and
member on a line of its own, indented by two spaces per level, with `": "` after a key;
empty arrays and objects stay `[]` and `{}` in both.

Inside a string, `"` and `\` are escaped, the control characters U+0000 to U+001F are
written `\b \t \n \f \r` where JSON has a short escape and `\u00xx` (lowercase) otherwise,
and every other character, non-ASCII included, is written as itself.
-/

namespace Tether.Json

set_option autoImplicit false

/-- The lowercase hex digit of `n < 16`. -/
def hexDigit (n : Nat) : Char :=
  if n < 10 then Char.ofNat (48 + n) else Char.ofNat (87 + n)

/-- The escape of one character inside a JSON string. -/
def escapeChar (c : Char) : List Char :=
  if c = '"' then ['\\', '"']
  else if c = '\\' then ['\\', '\\']
  else if c = '\n' then ['\\', 'n']
  else if c = '\r' then ['\\', 'r']
  else if c = '\t' then ['\\', 't']
  else if c.toNat = 8 then ['\\', 'b']
  else if c.toNat = 12 then ['\\', 'f']
  else if c.toNat < 32 then ['\\', 'u', '0', '0', hexDigit (c.toNat / 16), hexDigit (c.toNat % 16)]
  else [c]

/-- A string as a quoted JSON string. -/
def quote (s : String) : String :=
  String.ofList ('"' :: (s.toList.flatMap escapeChar ++ ['"']))

end Tether.Json

namespace Tether.Json

mutual
/-- The compact text of a value. -/
def compact : Json → String
  | .null => "null"
  | .bool b => if b then "true" else "false"
  | .num n => n.render
  | .str s => quote s
  | .arr items => "[" ++ compactItems items ++ "]"
  | .obj fs => "\x7b" ++ compactFields fs ++ "\x7d"

/-- Items separated by commas. -/
def compactItems : List Json → String
  | [] => ""
  | [j] => compact j
  | j :: rest => compact j ++ "," ++ compactItems rest

/-- Members separated by commas. -/
def compactFields : List (String × Json) → String
  | [] => ""
  | [(k, v)] => quote k ++ ":" ++ compact v
  | (k, v) :: rest => quote k ++ ":" ++ compact v ++ "," ++ compactFields rest
end

/-- `2 * n` spaces. -/
def indentation (n : Nat) : String := String.ofList (List.replicate (2 * n) ' ')

mutual
/-- The indented text of a value whose first line is at depth `d`. -/
def pretty (d : Nat) : Json → String
  | .arr [] => "[]"
  | .obj [] => "\x7b\x7d"
  | .arr items => "[\n" ++ prettyItems (d + 1) items ++ "\n" ++ indentation d ++ "]"
  | .obj fs => "\x7b\n" ++ prettyFields (d + 1) fs ++ "\n" ++ indentation d ++ "\x7d"
  | j => compact j

/-- Items at depth `d`, one per line. -/
def prettyItems (d : Nat) : List Json → String
  | [] => ""
  | [j] => indentation d ++ pretty d j
  | j :: rest => indentation d ++ pretty d j ++ ",\n" ++ prettyItems d rest

/-- Members at depth `d`, one per line. -/
def prettyFields (d : Nat) : List (String × Json) → String
  | [] => ""
  | [(k, v)] => indentation d ++ quote k ++ ": " ++ pretty d v
  | (k, v) :: rest => indentation d ++ quote k ++ ": " ++ pretty d v ++ ",\n" ++ prettyFields d rest
end

end Tether.Json

namespace Tether.Json

/-- The compact text of a value. -/
def render (j : Json) : String := compact j

/-- The indented text of a value. -/
def renderPretty (j : Json) : String := pretty 0 j

end Tether.Json
