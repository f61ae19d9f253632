import MarkupIslands.Markup.Construction.Document
import MarkupIslands.Markup.Token.Lexer
import MarkupIslands.Text.Portion

/-!
# Reading markup

`Markup.parse` reads a text as a tree. The lexer and the tree grow together, because the tree
decides how the text inside an element is read. A fragment is read as if it stood inside a body, so
nothing is put around it; a whole document gets the parts that its text leaves out. A byte order
mark does not count at the beginning of a portion of the text and right behind a script, and line
ends are single line feeds. Reading never fails.
-/

namespace MarkupIslands.Markup

/-- A text being read. -/
structure Reading where
  lexer : Lexer.State := Lexer.resume
  tree : Construction
  /-- Where the next character stands. -/
  place : Text.Place := {}
  /-- Whether a script ends right before the next character. -/
  afterScript : Bool := false
  /-- Whether a carriage return stands before the next character. -/
  afterReturn : Bool := false
deriving Repr

namespace Reading

/-- Takes a token into the tree. An element whose content is raw text sets how the text after its
tag is read. -/
def take (reading : Reading) (token : Token) : Reading :=
  let outcome := reading.tree.accept token
  let lexer :=
    match outcome.next, token with
    | .raw kind, .startTag tag => .text (.raw kind tag.name)
    | .plain, _ => .text .plain
    | _, _ => reading.lexer
  { reading with
    lexer
    tree := outcome.state
    afterScript := reading.afterScript || outcome.next == .afterScript }

/-- Reads a character that counts. -/
def step (reading : Reading) (c : Char) : Reading :=
  let (lexer, tokens) := Lexer.step reading.tree.inForeign reading.lexer c
  tokens.foldl take { reading with lexer }

/-- Reads a character as a part of a line. A carriage return ends the line, together with a line
feed behind it. -/
def readInLine (reading : Reading) (c : Char) : Reading :=
  if c = '\r' then { reading with afterReturn := true }.step '\n'
  else if c = '\n' && reading.afterReturn then { reading with afterReturn := false }
  else { reading with afterReturn := false }.step c

def read (reading : Reading) (c : Char) : Reading :=
  let isFirst := reading.afterScript || reading.place.begins c
  let reading := { reading with place := reading.place.advance c, afterScript := false }
  if c = '\ufeff' && isFirst then reading else reading.readInLine c

def finish (reading : Reading) : Construction :=
  ((Lexer.finish reading.lexer ++ [Token.endOfText]).foldl take reading).tree

end Reading

def construct (text : String) (asFragment : Bool) : Construction :=
  let start := if asFragment then Construction.fragment else Construction.document
  (text.toList.foldl Reading.read { tree := start }).finish

/-- The tree of a text. The nodes of a fragment stand inside the root element that it is read
with. -/
def parse (text : String) (asFragment : Bool := true) : Root :=
  let dom := (construct text asFragment).dom
  if asFragment then
    match dom.children Dom.document with
    | root :: _ => dom.nodesIn root
    | [] => []
  else dom.nodesIn Dom.document

end MarkupIslands.Markup
