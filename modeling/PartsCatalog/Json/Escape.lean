import PartsCatalog.Text.Quoted

/-!
# Strings in JSON

What stands between the quotes of a JSON string.  `escape` writes a text in that form and
`unescape?` reads it back; `takeString?` finds where a string ends and accepts only escapes that are
well formed, whether or not they denote characters.
-/

namespace PartsCatalog.Json

/-! ## Writing -/

/-- One character between quotes: only the quote, the backslash and control characters are
escaped. -/
def escapeChar (c : Char) : List Char :=
  match c with
  | '"' => ['\\', '"']
  | '\\' => ['\\', '\\']
  | '\x08' => ['\\', 'b']
  | '\x0c' => ['\\', 'f']
  | '\n' => ['\\', 'n']
  | '\r' => ['\\', 'r']
  | '\t' => ['\\', 't']
  | c =>
    if c.toNat < 0x20 then
      ['\\', 'u', '0', '0', Nat.digitChar (c.toNat / 16), Nat.digitChar (c.toNat % 16)]
    else [c]

/-- A text as it stands between the quotes. -/
def escape (s : String) : List Char := s.toList.flatMap escapeChar

/-! ## Finding the end -/

/-- The character that a backslash with one character behind it stands for. -/
def shortEscape? : Char → Option Char
  | '"' => some '"'
  | '\\' => some '\\'
  | '/' => some '/'
  | 'b' => some '\x08'
  | 'f' => some '\x0c'
  | 'n' => some '\n'
  | 'r' => some '\r'
  | 't' => some '\t'
  | _ => none

/-- The value of a hexadecimal digit in either case. -/
def hexDigit? (c : Char) : Option Nat :=
  if c.isDigit then some (c.toNat - '0'.toNat)
  else if 'a' ≤ c ∧ c ≤ 'f' then some (c.toNat - 'a'.toNat + 10)
  else if 'A' ≤ c ∧ c ≤ 'F' then some (c.toNat - 'A'.toNat + 10)
  else none

/-- The 16-bit unit that four hexadecimal digits denote. -/
def hexUnit? (a b c d : Char) : Option Nat := do
  return (((← hexDigit? a) * 16 + (← hexDigit? b)) * 16 + (← hexDigit? c)) * 16 + (← hexDigit? d)

/-- Splits a text behind an opening quote into what stands before the closing quote and the rest. -/
def takeString? : List Char → Option (List Char × List Char)
  | '"' :: rest => some ([], rest)
  | '\\' :: 'u' :: a :: b :: c :: d :: rest =>
    match hexUnit? a b c d, takeString? rest with
    | some _, some (written, rest) => some ('\\' :: 'u' :: a :: b :: c :: d :: written, rest)
    | _, _ => none
  | '\\' :: c :: rest =>
    match shortEscape? c, takeString? rest with
    | some _, some (written, rest) => some ('\\' :: c :: written, rest)
    | _, _ => none
  | c :: rest =>
    if c = '\\' ∨ c.toNat < 0x20 then none
    else (takeString? rest).map fun (written, rest) => (c :: written, rest)
  | [] => none

/-! ## Reading -/

/-- Whether a 16-bit unit is the first of two that make up one character. -/
def isLeading (unit : Nat) : Bool := 0xD800 ≤ unit && unit < 0xDC00

/-- Whether a 16-bit unit is the second of two that make up one character. -/
def isTrailing (unit : Nat) : Bool := 0xDC00 ≤ unit && unit < 0xE000

/-- The character that two units make up. -/
def pairChar (leading trailing : Nat) : Char :=
  Char.ofNat (0x10000 + (leading - 0xD800) * 0x400 + (trailing - 0xDC00))

/-- The characters that stand between the quotes.  A unit of a pair that stands alone denotes
nothing. -/
def unescapeChars? : List Char → Option (List Char)
  | [] => some []
  | '\\' :: 'u' :: a :: b :: c :: d :: rest =>
    match hexUnit? a b c d with
    | none => none
    | some unit =>
      if isLeading unit then
        match rest with
        | '\\' :: 'u' :: e :: f :: g :: h :: rest =>
          match (hexUnit? e f g h).filter isTrailing, unescapeChars? rest with
          | some trailing, some cs => some (pairChar unit trailing :: cs)
          | _, _ => none
        | _ => none
      else if isTrailing unit then none
      else (unescapeChars? rest).map (Char.ofNat unit :: ·)
  | '\\' :: c :: rest =>
    match shortEscape? c, unescapeChars? rest with
    | some c, some cs => some (c :: cs)
    | _, _ => none
  | c :: rest => (unescapeChars? rest).map (c :: ·)

/-- The text that stands between the quotes. -/
def unescape? (written : List Char) : Option String := (unescapeChars? written).map String.ofList

end PartsCatalog.Json
