import MarkupIslands.Markup.Entity.Capital
import MarkupIslands.Markup.Entity.Small

/-!
# Character references

What a character reference stands for. A name is matched as far as possible: the longest name in
the table that begins the text after the ampersand counts. A numeric reference to a code point that
no character has stands for the replacement character, and one to a C1 control for the character
that the Windows code page 1252 has at that place.
-/

namespace MarkupIslands.Markup.Entity

def rows (initial : Char) : List (String × List Nat) :=
  match initial with
  | 'A' => upperA | 'B' => upperB | 'C' => upperC | 'D' => upperD | 'E' => upperE | 'F' => upperF
  | 'G' => upperG | 'H' => upperH | 'I' => upperI | 'J' => upperJ | 'K' => upperK | 'L' => upperL
  | 'M' => upperM | 'N' => upperN | 'O' => upperO | 'P' => upperP | 'Q' => upperQ | 'R' => upperR
  | 'S' => upperS | 'T' => upperT | 'U' => upperU | 'V' => upperV | 'W' => upperW | 'X' => upperX
  | 'Y' => upperY | 'Z' => upperZ
  | 'a' => lowerA | 'b' => lowerB | 'c' => lowerC | 'd' => lowerD | 'e' => lowerE | 'f' => lowerF
  | 'g' => lowerG | 'h' => lowerH | 'i' => lowerI | 'j' => lowerJ | 'k' => lowerK | 'l' => lowerL
  | 'm' => lowerM | 'n' => lowerN | 'o' => lowerO | 'p' => lowerP | 'q' => lowerQ | 'r' => lowerR
  | 's' => lowerS | 't' => lowerT | 'u' => lowerU | 'v' => lowerV | 'w' => lowerW | 'x' => lowerX
  | 'y' => lowerY | 'z' => lowerZ
  | _ => []

def longer (text : List Char) (best : Option (List Char × List Nat)) (row : String × List Nat) :
    Option (List Char × List Nat) :=
  let name := row.1.toList
  if name.isPrefixOf text && best.all (·.1.length < name.length) then some (name, row.2) else best

/-- The longest name that begins the given text, with the code points it stands for. -/
def longest? (text : List Char) : Option (List Char × List Nat) :=
  match text with
  | [] => none
  | initial :: _ => (rows initial).foldl (longer text) none

/-- The text that an ampersand and the letters, digits and semicolon after it stand for. Inside a
property value a name without a semicolon counts only if no letter, digit or `=` follows it. -/
def resolve (inValue : Bool) (run : List Char) (next : Option Char) : List Char :=
  match longest? run with
  | none => '&' :: run
  | some (name, codes) =>
    let rest := run.drop name.length
    let isGlued := (rest ++ next.toList).head?.any fun c ↦ c == '=' || c.isAlphanum
    if inValue && name.getLast? != some ';' && isGlued then '&' :: run
    else codes.map Char.ofNat ++ rest

/-- The characters that code page 1252 has in place of the C1 controls. -/
def codePage1252 : List Nat :=
  [0x20AC, 0x81, 0x201A, 0x192, 0x201E, 0x2026, 0x2020, 0x2021, 0x2C6, 0x2030, 0x160, 0x2039, 0x152,
    0x8D, 0x17D, 0x8F, 0x90, 0x2018, 0x2019, 0x201C, 0x201D, 0x2022, 0x2013, 0x2014, 0x2DC, 0x2122,
    0x161, 0x203A, 0x153, 0x9D, 0x17E, 0x178]

def replacement : Char := '\ufffd'

def ofCode (code : Nat) : Char :=
  if code = 0 || !code.isValidChar then replacement
  else if 0x80 ≤ code && code ≤ 0x9F then Char.ofNat (codePage1252.getD (code - 0x80) code)
  else Char.ofNat code

example : resolve false "notit;".toList none = "¬it;".toList := by decide +kernel

example : resolve true "notit;".toList none = "&notit;".toList := by decide +kernel

end MarkupIslands.Markup.Entity
