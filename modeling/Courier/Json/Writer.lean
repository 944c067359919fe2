import Courier.Json.Basic
import Courier.Text.Quoted

/-!
The written form of JSON documents, on one line or indented. Besides what the format demands, the
characters `<`, `>` and `&` and the two line separators are escaped, so that a document can stand
inside markup and scripts.
-/

namespace Courier.Json

/-- The form of one character inside a JSON string. -/
def escapeChar (c : Char) : List Char :=
  let n := c.toNat
  if c = '"' then ['\\', '"']
  else if c = '\\' then ['\\', '\\']
  else if n = 8 then ['\\', 'b']
  else if n = 12 then ['\\', 'f']
  else if n = 10 then ['\\', 'n']
  else if n = 13 then ['\\', 'r']
  else if n = 9 then ['\\', 't']
  else if n < 0x20 ∨ c = '<' ∨ c = '>' ∨ c = '&' ∨ n = 0x2028 ∨ n = 0x2029 then
    '\\' :: 'u' :: Text.hexDigits 4 n
  else [c]

def quoteChars (s : String) : List Char :=
  '"' :: (s.toList.flatMap escapeChar ++ ['"'])

def quote (s : String) : String := String.ofList (quoteChars s)

mutual
/-- The document on one line, without blanks. -/
def render : Json → String
  | .null => "null"
  | .bool b => if b then "true" else "false"
  | .number t => t
  | .text s => quote s
  | .list items => "[" ++ String.intercalate "," (renderItems items) ++ "]"
  | .object members => "\x7b" ++ String.intercalate "," (renderMembers members) ++ "\x7d"
def renderItems : List Json → List String
  | [] => []
  | j :: js => j.render :: renderItems js
def renderMembers : List (String × Json) → List String
  | [] => []
  | (k, j) :: ms => (quote k ++ ":" ++ j.render) :: renderMembers ms
end

/-- Parts on lines of their own between brackets. -/
def bracketed (opener closer pad : String) (parts : List String) : String :=
  if parts.isEmpty then opener ++ closer
  else
    opener ++ "\n" ++ String.intercalate ",\n" (parts.map fun p => pad ++ "  " ++ p) ++
      "\n" ++ pad ++ closer

mutual
/-- The document with one item or member a line, each level two blanks deeper; `pad` stands before
the closing bracket. -/
def renderIndented (pad : String) : Json → String
  | .null => "null"
  | .bool b => if b then "true" else "false"
  | .number t => t
  | .text s => quote s
  | .list items => bracketed "[" "]" pad (indentedItems (pad ++ "  ") items)
  | .object members => bracketed "\x7b" "\x7d" pad (indentedMembers (pad ++ "  ") members)
def indentedItems (pad : String) : List Json → List String
  | [] => []
  | j :: js => j.renderIndented pad :: indentedItems pad js
def indentedMembers (pad : String) : List (String × Json) → List String
  | [] => []
  | (k, j) :: ms => (quote k ++ ": " ++ j.renderIndented pad) :: indentedMembers pad ms
end

end Courier.Json
