/-!
# Quoted strings

String literals as JSON and script source write them: double quotes around the text, the quote, the
backslash and the characters below U+0020 escaped, every other character as it is. `quote` writes a
literal and `unquote?` reads one; reading accepts every escape of the format, not only those that
`quote` writes, except an escaped half of a surrogate pair, which no literal written here holds.
-/

namespace MarkupIslands.Text

def hexDigit (n : Nat) : Char := Nat.digitChar (n % 16)

/-- The written form of one character inside a string literal. -/
def escape (c : Char) : List Char :=
  if c = '"' then ['\\', '"']
  else if c = '\\' then ['\\', '\\']
  else if c = '\x08' then ['\\', 'b']
  else if c = '\x0c' then ['\\', 'f']
  else if c = '\n' then ['\\', 'n']
  else if c = '\r' then ['\\', 'r']
  else if c = '\t' then ['\\', 't']
  else if c.toNat < 0x20 then ['\\', 'u', '0', '0', hexDigit (c.toNat / 16), hexDigit c.toNat]
  else [c]

/-- The characters of the string literal that denotes `text`. -/
def quoteChars (text : List Char) : List Char :=
  '"' :: text.flatMap escape ++ ['"']

/-- The string literal that denotes `text`. -/
def quote (text : String) : String := String.ofList (quoteChars text.toList)

@[simp]
theorem toList_quote (text : String) : (quote text).toList = quoteChars text.toList := by
  simp [quote]

theorem escape_ne_nil (c : Char) : escape c ≠ [] := by
  unfold escape
  repeat' split
  all_goals simp

def hexValue? (c : Char) : Option Nat :=
  if c.isDigit then some (c.toNat - 48)
  else if 'a' ≤ c && c ≤ 'f' then some (c.toNat - 87)
  else if 'A' ≤ c && c ≤ 'F' then some (c.toNat - 55)
  else none

def hexValues? (a b c d : Char) : Option Nat := do
  let a ← hexValue? a
  let b ← hexValue? b
  let c ← hexValue? c
  let d ← hexValue? d
  return ((a * 16 + b) * 16 + c) * 16 + d

/-- The character that a backslash and the given character stand for. -/
def unescape? (c : Char) : Option Char :=
  match c with
  | '"' => some '"'
  | '\\' => some '\\'
  | '/' => some '/'
  | 'b' => some '\x08'
  | 'f' => some '\x0c'
  | 'n' => some '\n'
  | 'r' => some '\r'
  | 't' => some '\t'
  | _ => none

/-- Reads the inside of a string literal up to its closing quote, and returns the text it denotes
with what follows the quote. -/
def unquoteBody? : List Char → Option (List Char × List Char)
  | [] => none
  | '"' :: rest => some ([], rest)
  | '\\' :: 'u' :: a :: b :: c :: d :: rest => do
    let code ← hexValues? a b c d
    if code < 0xD800 || 0xE000 ≤ code then
      let (text, rest) ← unquoteBody? rest
      return (Char.ofNat code :: text, rest)
    else none
  | '\\' :: c :: rest => do
    let c ← unescape? c
    let (text, rest) ← unquoteBody? rest
    return (c :: text, rest)
  | c :: rest =>
    if c.toNat < 0x20 then none
    else (unquoteBody? rest).map fun (text, rest) ↦ (c :: text, rest)

def unquote? (literal : String) : Option String :=
  match literal.toList with
  | '"' :: body =>
    match unquoteBody? body with
    | some (text, []) => some (String.ofList text)
    | _ => none
  | _ => none

end MarkupIslands.Text
