import VectorClient.Decimal.Layout
import VectorClient.Json.Value

/-!
# Compact JSON text

Texts are built from the texts of their parts, without blanks. In a string the
quote, the backslash and the control characters are escaped and nothing else is.
-/

namespace VectorClient.Json

/-- Least and greatest leading exponent in positional notation: from `1e-5` up to below `1e16`,
in a format of at most 32 bits from `1e-6` up to below `1e13`. -/
def positionalExponents (f : Ieee.Format) : Int × Int :=
  if f.width ≤ 32 then (-6, 12) else (-5, 15)

/-- Fewest digits, at least one of them a decimal where the notation is positional; JSON has no
text for the values that are not finite but `null`. -/
def floatLayout (f : Ieee.Format) : FloatLayout :=
  ⟨.toEven, some (positionalExponents f), ".0", "null", "null", "null"⟩

def floatText {f : Ieee.Format} (x : Ieee.Word f) : String := (floatLayout f).write x

def hexDigit (n : Nat) : Char := "0123456789abcdef".toList.getD n '0'

def escapeChar (c : Char) : List Char :=
  if c = '"' then ['\\', '"']
  else if c = '\\' then ['\\', '\\']
  else if c = '\n' then ['\\', 'n']
  else if c = '\r' then ['\\', 'r']
  else if c = '\t' then ['\\', 't']
  else if c.toNat = 8 then ['\\', 'b']
  else if c.toNat = 12 then ['\\', 'f']
  else if c.toNat < 32 then
    ['\\', 'u', '0', '0', hexDigit (c.toNat / 16), hexDigit (c.toNat % 16)]
  else [c]

def stringText (s : String) : String :=
  "\"" ++ String.ofList (s.toList.flatMap escapeChar) ++ "\""

def arrayText (items : List String) : String := "[" ++ ",".intercalate items ++ "]"

def memberText (member : String × String) : String := stringText member.1 ++ ":" ++ member.2

def objectText (members : List (String × String)) : String :=
  "\x7b" ++ ",".intercalate (members.map memberText) ++ "\x7d"

def boolText (b : Bool) : String := if b then "true" else "false"

mutual

/-- The compact text of a document. -/
def text : Json → String
  | .null => "null"
  | .bool b => boolText b
  | .int i => toString i
  | .double x => floatText x
  | .string s => stringText s
  | .array items => arrayText (itemTexts items)
  | .object members => objectText (memberTexts members)

def itemTexts : List Json → List String
  | [] => []
  | item :: rest => text item :: itemTexts rest

def memberTexts : List (String × Json) → List (String × String)
  | [] => []
  | (key, value) :: rest => (key, text value) :: memberTexts rest

end

end VectorClient.Json
