import VectorClient.Json.Numeral

/-!
# JSON text

`Tree.parse` reads a text into the tree of its syntax: numbers stay numerals,
repeated keys stay, and a string that holds half of a surrogate pair is marked
as having no value. Reading a tree as a document or as a typed value is a second
step; parts that the second step skips need only be well-formed here.
-/

namespace VectorClient.Json

inductive Tree where
  | null
  | bool (b : Bool)
  | number (n : Numeral)
  | string (s : Option String)
  | array (items : List Tree)
  | object (members : List (Option String × Tree))

namespace Tree

instance : Inhabited Tree := ⟨.null⟩

def isBlank (c : Char) : Bool := c = ' ' || c = '\n' || c = '\t' || c = '\r'

def skipBlanks (cs : List Char) : List Char := cs.dropWhile isBlank

def digit? (c : Char) : Option Nat :=
  if '0' ≤ c ∧ c ≤ '9' then some (c.toNat - '0'.toNat) else none

def hexDigit? (c : Char) : Option Nat :=
  if '0' ≤ c ∧ c ≤ '9' then some (c.toNat - '0'.toNat)
  else if 'a' ≤ c ∧ c ≤ 'f' then some (c.toNat - 'a'.toNat + 10)
  else if 'A' ≤ c ∧ c ≤ 'F' then some (c.toNat - 'A'.toNat + 10)
  else none

/-- The digits in front. -/
def digits (cs : List Char) : List Nat × List Char :=
  let isDigit := fun c => (digit? c).isSome
  ((cs.takeWhile isDigit).filterMap digit?, cs.dropWhile isDigit)

def exponent : List Char → Option (Option (Bool × List Nat) × List Char)
  | c :: cs =>
    if c = 'e' ∨ c = 'E' then
      let (negative, cs) := match cs with
        | '+' :: rest => (false, rest)
        | '-' :: rest => (true, rest)
        | rest => (false, rest)
      match digits cs with
      | ([], _) => none
      | (ds, rest) => some (some (negative, ds), rest)
    else some (none, c :: cs)
  | [] => some (none, [])

/-- A number without its sign: no leading zeros, a digit after a point and after an `e`. -/
def unsignedNumeral (negative : Bool) (cs : List Char) : Option (Numeral × List Char) :=
  match digits cs with
  | ([], _) => none
  | (0 :: _ :: _, _) => none
  | (whole, rest) => do
    let (fraction, rest) ← match rest with
      | '.' :: rest =>
        match digits rest with
        | ([], _) => none
        | (ds, rest) => some (ds, rest)
      | rest => some ([], rest)
    let (e, rest) ← exponent rest
    return (⟨negative, whole, fraction, e⟩, rest)

def simpleEscape? (c : Char) : Option Char :=
  match c with
  | '"' => some '"'
  | '\\' => some '\\'
  | '/' => some '/'
  | 'b' => some (Char.ofNat 8)
  | 'f' => some (Char.ofNat 12)
  | 'n' => some '\n'
  | 'r' => some '\r'
  | 't' => some '\t'
  | _ => none

/-- The value of four hexadecimal digits. -/
def codeUnit? (a b c d : Char) : Option Nat := do
  return ((← hexDigit? a) * 16 + (← hexDigit? b)) * 256 + (← hexDigit? c) * 16 + (← hexDigit? d)

def isLead (u : Nat) : Bool := decide (0xD800 ≤ u ∧ u < 0xDC00)
def isTrail (u : Nat) : Bool := decide (0xDC00 ≤ u ∧ u < 0xE000)

/-- One element of a string: a character or a code unit. -/
inductive StringPart where
  | char (c : Char)
  | unit (u : Nat)

/-- The parts of a string up to its closing quote, in reverse. -/
def stringParts (acc : List StringPart) : List Char → Option (List StringPart × List Char)
  | [] => none
  | '"' :: rest => some (acc, rest)
  | '\\' :: 'u' :: a :: b :: c :: d :: rest =>
    match codeUnit? a b c d with
    | some u => stringParts (.unit u :: acc) rest
    | none => none
  | '\\' :: c :: rest =>
    match simpleEscape? c with
    | some e => stringParts (.char e :: acc) rest
    | none => none
  | c :: rest => if c.toNat < 32 then none else stringParts (.char c :: acc) rest

/-- The characters of string parts given in reverse; a surrogate counts only in a pair. -/
def joinParts (acc : List Char) : List StringPart → Option (List Char)
  | [] => some acc
  | .char c :: rest => joinParts (c :: acc) rest
  | .unit u :: .unit v :: rest =>
    if isTrail u && isLead v then
      joinParts (Char.ofNat (0x10000 + (v - 0xD800) * 0x400 + (u - 0xDC00)) :: acc) rest
    else if isTrail u || isLead u then none
    else joinParts (Char.ofNat u :: acc) (.unit v :: rest)
  | .unit u :: rest =>
    if isTrail u || isLead u then none else joinParts (Char.ofNat u :: acc) rest

/-- A string after its opening quote. -/
def stringBody (cs : List Char) : Option (Option String × List Char) := do
  let (parts, rest) ← stringParts [] cs
  return ((joinParts [] parts).map String.ofList, rest)

mutual

/-- A value in front of the text; the first argument bounds the steps. -/
def value : Nat → List Char → Option (Tree × List Char)
  | 0, _ => none
  | n + 1, cs =>
    match skipBlanks cs with
    | 'n' :: 'u' :: 'l' :: 'l' :: rest => some (.null, rest)
    | 't' :: 'r' :: 'u' :: 'e' :: rest => some (.bool true, rest)
    | 'f' :: 'a' :: 'l' :: 's' :: 'e' :: rest => some (.bool false, rest)
    | '"' :: rest => (stringBody rest).map fun (s, rest) => (.string s, rest)
    | '[' :: rest =>
      match skipBlanks rest with
      | ']' :: rest => some (.array [], rest)
      | rest => items n [] rest
    | '\x7b' :: rest =>
      match skipBlanks rest with
      | '\x7d' :: rest => some (.object [], rest)
      | rest => members n [] rest
    | '-' :: rest => (unsignedNumeral true rest).map fun (x, rest) => (.number x, rest)
    | rest => (unsignedNumeral false rest).map fun (x, rest) => (.number x, rest)

/-- The rest of an array, the items read so far being in reverse. -/
def items : Nat → List Tree → List Char → Option (Tree × List Char)
  | 0, _, _ => none
  | n + 1, acc, cs =>
    match value n cs with
    | none => none
    | some (item, rest) =>
      match skipBlanks rest with
      | ',' :: rest => items n (item :: acc) rest
      | ']' :: rest => some (.array (item :: acc).reverse, rest)
      | _ => none

/-- The rest of an object, the members read so far being in reverse. -/
def members : Nat → List (Option String × Tree) → List Char → Option (Tree × List Char)
  | 0, _, _ => none
  | n + 1, acc, cs =>
    match skipBlanks cs with
    | '"' :: rest =>
      match stringBody rest with
      | none => none
      | some (key, rest) =>
        match skipBlanks rest with
        | ':' :: rest =>
          match value n rest with
          | none => none
          | some (item, rest) =>
            match skipBlanks rest with
            | ',' :: rest => members n ((key, item) :: acc) rest
            | '\x7d' :: rest => some (.object ((key, item) :: acc).reverse, rest)
            | _ => none
        | _ => none
    | _ => none

end

/-- The tree of a whole text. Every step but the first follows a character that
was read, and a character is followed by at most two steps. -/
def parse (s : String) : Option Tree :=
  let cs := s.toList
  match value (2 * cs.length + 2) cs with
  | some (tree, rest) => if (skipBlanks rest).isEmpty then some tree else none
  | none => none

end Tree

end VectorClient.Json
