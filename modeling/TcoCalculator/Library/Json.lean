/-
JSON values and their compact text: no blanks, fields in the order given, and
the escapes a serializer writes inside strings.
-/
import Mathlib.Algebra.GroupWithZero.Nat
import Mathlib.Data.List.Basic

namespace TcoCalculator

inductive Json where
  | null
  | bool (b : Bool)
  | number (n : Int)
  | string (s : String)
  | array (items : List Json)
  | object (fields : List (String × Json))

namespace Json

def hexDigit (n : Nat) : Char := (n % 16).digitChar

/-- Quotes, backslashes and control characters are escaped; the rest stands. -/
def escapeChar (c : Char) : List Char :=
  if c = '"' then ['\\', '"']
  else if c = '\\' then ['\\', '\\']
  else if c.toNat = 8 then ['\\', 'b']
  else if c.toNat = 9 then ['\\', 't']
  else if c.toNat = 10 then ['\\', 'n']
  else if c.toNat = 12 then ['\\', 'f']
  else if c.toNat = 13 then ['\\', 'r']
  else if c.toNat < 32 then
    ['\\', 'u', '0', '0', hexDigit (c.toNat / 16), hexDigit c.toNat]
  else [c]

def renderString (s : String) : List Char :=
  '"' :: (s.toList.flatMap escapeChar ++ ['"'])

mutual

def renderChars : Json → List Char
  | null => "null".toList
  | bool b => (if b then "true" else "false").toList
  | number n => (toString n).toList
  | string s => renderString s
  | array items => '[' :: (renderItems items ++ [']'])
  | object fields => '{' :: (renderFields fields ++ ['}'])

def renderItems : List Json → List Char
  | [] => []
  | [item] => renderChars item
  | item :: rest => renderChars item ++ ',' :: renderItems rest

def renderFields : List (String × Json) → List Char
  | [] => []
  | [(name, value)] => renderString name ++ ':' :: renderChars value
  | (name, value) :: rest =>
      renderString name ++ ':' :: (renderChars value ++ ',' :: renderFields rest)

end

/-- The compact text of a value. -/
def render (value : Json) : String := String.ofList (renderChars value)

/-- The length of the text in UTF-8 bytes. -/
def byteLength (value : Json) : Nat := ((renderChars value).map Char.utf8Size).sum

end Json

end TcoCalculator
