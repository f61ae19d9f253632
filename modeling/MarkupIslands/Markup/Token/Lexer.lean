import MarkupIslands.Markup.Entity.Named
import MarkupIslands.Markup.Token.Basic

/-!
# Reading markup text

A state machine that reads a markup text character by character. A state holds all that has been
read of an unfinished token; each step yields the next state and the tokens finished by it. Every
text is accepted: what is not well-formed markup becomes text or a comment.
-/

namespace MarkupIslands.Markup

/-- How text is read: as markup, as plain text to the very end, or up to the end tag of an
element. -/
inductive TextMode
  | markup
  | plain
  | raw (kind : RawKind) (tag : String)
deriving DecidableEq, Repr

inductive Quoting
  | bare
  | single
  | double
deriving DecidableEq, Repr

namespace Lexer

/-- A tag being read. -/
structure Draft where
  isEnd : Bool
  name : String
  attributes : List (String × String) := []
deriving DecidableEq, Repr

/-- The tag with one more attribute, unless it has one of that name already. -/
def Draft.add (draft : Draft) (name value : String) : Draft :=
  if draft.attributes.any (·.1 == name) then draft
  else { draft with attributes := draft.attributes ++ [(name, value)] }

/-- Where a character reference stands. -/
inductive Host
  | text (mode : TextMode)
  | value (draft : Draft) (name : String) (quoting : Quoting) (value : String)
deriving DecidableEq, Repr

/-- How far a document type declaration has been read. The flag `system` tells the system
identifier from the public one. -/
inductive DoctypeStage
  | start
  | beforeName
  | name
  | afterName (read : String)
  | afterKeyword (system : Bool)
  | beforeId (system : Bool)
  | id (system : Bool) (quote : Char)
  | afterId (system : Bool)
  | betweenIds
  | junk
deriving DecidableEq, Repr

/-- How far the text has been read: what of an unfinished token is known. -/
inductive State
  | text (mode : TextMode)
  | tagOpen
  | endTagOpen
  | tagName (draft : Draft)
  | beforeName (draft : Draft)
  | attributeName (draft : Draft) (name : String)
  | afterName (draft : Draft) (name : String)
  | beforeValue (draft : Draft) (name : String)
  | value (draft : Draft) (name : String) (quoting : Quoting) (value : String)
  | afterValue (draft : Draft)
  | selfClosing (draft : Draft)
  | declaration (read : String)
  | junkComment (read : String)
  | commentStart
  | commentStartDash
  | comment (read : String)
  | commentDash (read : String)
  | commentEnd (read : String)
  | commentBang (read : String)
  | doctype (stage : DoctypeStage) (doctype : Doctype)
  | cdata
  | cdataBracket
  | cdataEnd
  | rawLess (kind : RawKind) (tag : String)
  | rawEndOpen (kind : RawKind) (tag : String)
  | rawEndName (kind : RawKind) (tag read : String)
  | escapeStart (tag : String)
  | escapeStartDash (tag : String)
  | escapeDash (kind : RawKind) (tag : String)
  | escapeDashes (kind : RawKind) (tag : String)
  | nestStart (tag word : String)
  | nestEnd (tag word : String)
  | reference (host : Host)
  | number (host : Host)
  | hexMark (host : Host) (mark : Char)
  | digits (host : Host) (isHex : Bool) (code : Nat)
  | name (host : Host) (read : String)
deriving DecidableEq, Repr

abbrev Result := State × List Token

/-- The white space that parts the words of a tag. -/
def isSpace (c : Char) : Bool := c == '\t' || c == '\n' || c == '\x0c' || c == ' '

/-- The null character is replaced wherever it cannot be dropped. -/
def visible (c : Char) : Char := if c = '\x00' then Entity.replacement else c

def chars (text : String) : List Token := text.toList.map .char

/-- The state after the tokens of a markup construct. -/
def resume : State := .text .markup

def finishTag (draft : Draft) (selfClosing : Bool) : Token :=
  if draft.isEnd then .endTag draft.name
  else .startTag ⟨draft.name, draft.attributes, selfClosing⟩

/-! ## Text -/

def stepText (mode : TextMode) (c : Char) : Result :=
  match mode with
  | .markup =>
    if c = '&' then (.reference (.text .markup), [])
    else if c = '<' then (.tagOpen, [])
    else (.text .markup, [.char c])
  | .plain => (.text .plain, [.char (visible c)])
  | .raw kind tag =>
    if c = '<' then
      (.rawLess kind tag, if kind = .nestedScript then [.char c] else [])
    else if c = '&' && kind = .references then (.reference (.text mode), [])
    else if c = '-' && (kind = .escapedScript || kind = .nestedScript) then
      (.escapeDash kind tag, [.char c])
    else (.text mode, [.char (visible c)])

/-- Text that turned out not to begin a construct is given back, and the character after it is read
as text. -/
def giveBack (read : String) (mode : TextMode) (c : Char) : Result :=
  let (state, tokens) := stepText mode c
  (state, chars read ++ tokens)

def stepRawLess (kind : RawKind) (tag : String) (c : Char) : Result :=
  match kind with
  | .nestedScript =>
    if c = '/' then (.nestEnd tag "", [.char c]) else stepText (.raw kind tag) c
  | .escapedScript =>
    if c = '/' then (.rawEndOpen kind tag, [])
    else if c.isAlpha then (.nestStart tag (String.singleton c.toLower), [.char '<', .char c])
    else giveBack "<" (.raw kind tag) c
  | .script =>
    if c = '/' then (.rawEndOpen kind tag, [])
    else if c = '!' then (.escapeStart tag, [.char '<', .char c])
    else giveBack "<" (.raw kind tag) c
  | .references | .verbatim =>
    if c = '/' then (.rawEndOpen kind tag, []) else giveBack "<" (.raw kind tag) c

def stepRawEndOpen (kind : RawKind) (tag : String) (c : Char) : Result :=
  if c.isAlpha then (.rawEndName kind tag (String.singleton c), [])
  else giveBack "</" (.raw kind tag) c

/-- Only the end tag of the element itself ends raw text. -/
def stepRawEndName (kind : RawKind) (tag read : String) (c : Char) : Result :=
  if c.isAlpha then (.rawEndName kind tag (read.push c), [])
  else if read.toLower = tag && isSpace c then (.beforeName ⟨true, tag, []⟩, [])
  else if read.toLower = tag && c = '/' then (.selfClosing ⟨true, tag, []⟩, [])
  else if read.toLower = tag && c = '>' then (resume, [.endTag tag])
  else giveBack ("</" ++ read) (.raw kind tag) c

/-- The character after a `<!` in a script, which may begin an escape. -/
def stepEscapeStart (tag : String) (c : Char) : Result :=
  if c = '-' then (.escapeStartDash tag, [.char c]) else stepText (.raw .script tag) c

def stepEscapeStartDash (tag : String) (c : Char) : Result :=
  if c = '-' then (.escapeDashes .escapedScript tag, [.char c])
  else stepText (.raw .script tag) c

def stepEscapeDash (kind : RawKind) (tag : String) (c : Char) : Result :=
  if c = '-' then (.escapeDashes kind tag, [.char c]) else stepText (.raw kind tag) c

/-- The character after two dashes in an escaped script; a `>` ends the escape. -/
def stepEscapeDashes (kind : RawKind) (tag : String) (c : Char) : Result :=
  if c = '-' then (.escapeDashes kind tag, [.char c])
  else if c = '>' then (.text (.raw .script tag), [.char c])
  else stepText (.raw kind tag) c

/-- A `script` word inside an escaped script opens or closes a nested script. -/
def stepNest (isStart : Bool) (tag word : String) (c : Char) : Result :=
  let inside : RawKind := if isStart then .nestedScript else .escapedScript
  let outside : RawKind := if isStart then .escapedScript else .nestedScript
  if isSpace c || c = '/' || c = '>' then
    (.text (.raw (if word = "script" then inside else outside) tag), [.char c])
  else if c.isAlpha then
    let word := word.push c.toLower
    (if isStart then .nestStart tag word else .nestEnd tag word, [.char c])
  else stepText (.raw outside tag) c

/-! ## Tags -/

/-- A declaration of no known kind is a comment up to the next `>`. -/
def stepJunkComment (read : String) (c : Char) : Result :=
  if c = '>' then (resume, [.comment read]) else (.junkComment (read.push (visible c)), [])

/-- The character after a `<`. -/
def stepTagOpen (c : Char) : Result :=
  if c = '!' then (.declaration "", [])
  else if c = '/' then (.endTagOpen, [])
  else if c = '?' then (.junkComment "?", [])
  else if c.isAlpha then (.tagName ⟨false, String.singleton c.toLower, []⟩, [])
  else giveBack "<" .markup c

/-- The character after a `</`. An end tag without a name is dropped. -/
def stepEndTagOpen (c : Char) : Result :=
  if c = '>' then (resume, [.mistake])
  else if c.isAlpha then (.tagName ⟨true, String.singleton c.toLower, []⟩, [])
  else stepJunkComment "" c

def stepTagName (draft : Draft) (c : Char) : Result :=
  if isSpace c then (.beforeName draft, [])
  else if c = '/' then (.selfClosing draft, [])
  else if c = '>' then (resume, [finishTag draft false])
  else (.tagName { draft with name := draft.name.push (visible c).toLower }, [])

def stepBeforeName (draft : Draft) (c : Char) : Result :=
  if isSpace c then (.beforeName draft, [])
  else if c = '/' then (.selfClosing draft, [])
  else if c = '>' then (resume, [finishTag draft false])
  else (.attributeName draft (String.singleton (visible c).toLower), [])

def stepAttributeName (draft : Draft) (name : String) (c : Char) : Result :=
  if isSpace c then (.afterName draft name, [])
  else if c = '/' then (.selfClosing (draft.add name ""), [])
  else if c = '=' then (.beforeValue draft name, [])
  else if c = '>' then (resume, [finishTag (draft.add name "") false])
  else (.attributeName draft (name.push (visible c).toLower), [])

/-- A character behind the name of an attribute, where its value may follow. -/
def stepAfterName (draft : Draft) (name : String) (c : Char) : Result :=
  if isSpace c then (.afterName draft name, [])
  else if c = '=' then (.beforeValue draft name, [])
  else stepBeforeName (draft.add name "") c

def stepValue (draft : Draft) (name : String) (quoting : Quoting) (value : String) (c : Char) :
    Result :=
  let isOver : Bool :=
    match quoting with
    | .double => c = '"'
    | .single => c = '\''
    | .bare => isSpace c || c = '>'
  if isOver then
    let draft := draft.add name value
    match quoting with
    | .bare => stepBeforeName draft c
    | .single | .double => (.afterValue draft, [])
  else if c = '&' then (.reference (.value draft name quoting value), [])
  else (.value draft name quoting (value.push (visible c)), [])

def stepBeforeValue (draft : Draft) (name : String) (c : Char) : Result :=
  if isSpace c then (.beforeValue draft name, [])
  else if c = '"' then (.value draft name .double "", [])
  else if c = '\'' then (.value draft name .single "", [])
  else if c = '>' then (resume, [finishTag (draft.add name "") false])
  else stepValue draft name .bare "" c

def stepSelfClosing (draft : Draft) (c : Char) : Result :=
  if c = '>' then (resume, [finishTag draft true]) else stepBeforeName draft c

/-! ## Comments and declarations -/

def stepComment (read : String) (c : Char) : Result :=
  if c = '-' then (.commentDash read, []) else (.comment (read.push (visible c)), [])

def stepCommentStart (c : Char) : Result :=
  if c = '-' then (.commentStartDash, [])
  else if c = '>' then (resume, [.comment ""])
  else stepComment "" c

def stepCommentStartDash (c : Char) : Result :=
  if c = '-' then (.commentEnd "", [])
  else if c = '>' then (resume, [.comment ""])
  else stepComment "-" c

def stepCommentDash (read : String) (c : Char) : Result :=
  if c = '-' then (.commentEnd read, []) else stepComment (read.push '-') c

/-- The character after two dashes in a comment; more dashes belong to the comment. -/
def stepCommentEnd (read : String) (c : Char) : Result :=
  if c = '>' then (resume, [.comment read])
  else if c = '!' then (.commentBang read, [])
  else if c = '-' then (.commentEnd (read.push '-'), [])
  else stepComment (read ++ "--") c

/-- The character after two dashes and a `!` in a comment, which may end it as well. -/
def stepCommentBang (read : String) (c : Char) : Result :=
  if c = '-' then (.commentDash (read ++ "--!"), [])
  else if c = '>' then (resume, [.comment read])
  else stepComment (read ++ "--!") c

def isPrefix (text of : String) : Bool := text.toList.isPrefixOf of.toList

/-- Reads the word after `<!`. A marked section is read as such only inside foreign content. -/
def stepDeclaration (foreign : Bool) (read : String) (c : Char) : Result :=
  let read' := read.push c
  if read' = "--" then (.commentStart, [])
  else if read'.toLower = "doctype" then (.doctype .start {}, [])
  else if foreign && read' = "[CDATA[" then (.cdata, [])
  else if isPrefix read' "--" || isPrefix read'.toLower "doctype" ||
      (foreign && isPrefix read' "[CDATA[") then
    (.declaration read', [])
  else stepJunkComment read c

def stepCdata (c : Char) : Result :=
  if c = ']' then (.cdataBracket, []) else (.cdata, [.char c])

def stepCdataBracket (c : Char) : Result :=
  if c = ']' then (.cdataEnd, [])
  else
    let (state, tokens) := stepCdata c
    (state, .char ']' :: tokens)

def stepCdataEnd (c : Char) : Result :=
  if c = '>' then (resume, [])
  else if c = ']' then (.cdataEnd, [.char c])
  else
    let (state, tokens) := stepCdata c
    (state, .char ']' :: .char ']' :: tokens)

def pushId (doctype : Doctype) (system : Bool) (c : Char) : Doctype :=
  if system then { doctype with systemId := doctype.systemId.map (·.push c) }
  else { doctype with publicId := doctype.publicId.map (·.push c) }

def openId (doctype : Doctype) (system : Bool) : Doctype :=
  if system then { doctype with systemId := some "" } else { doctype with publicId := some "" }

/-- What follows where an identifier may begin; anything but a quote breaks the declaration. -/
def stepIdStart (stage : DoctypeStage) (doctype : Doctype) (system : Bool) (c : Char) : Result :=
  if isSpace c then (.doctype stage doctype, [])
  else if c = '"' || c = '\'' then (.doctype (.id system c) (openId doctype system), [])
  else if c = '>' then (resume, [.doctype { doctype with malformed := true }])
  else (.doctype .junk { doctype with malformed := true }, [])

def stepDoctypeName (doctype : Doctype) (c : Char) : Result :=
  if isSpace c then (.doctype (.afterName "") doctype, [])
  else if c = '>' then (resume, [.doctype doctype])
  else
    let name := (doctype.name.getD "").push (visible c).toLower
    (.doctype .name { doctype with name := some name }, [])

def stepBeforeDoctypeName (doctype : Doctype) (c : Char) : Result :=
  if isSpace c then (.doctype .beforeName doctype, [])
  else if c = '>' then (resume, [.doctype { doctype with malformed := true }])
  else stepDoctypeName doctype c

/-- What follows a broken declaration is skipped. -/
def stepDoctypeJunk (doctype : Doctype) (c : Char) : Result :=
  if c = '>' then (resume, [.doctype doctype]) else (.doctype .junk doctype, [])

/-- Reads the word after the name of a document type. -/
def stepAfterDoctypeName (read : String) (doctype : Doctype) (c : Char) : Result :=
  let read' := (read.push c).toLower
  if read.isEmpty && isSpace c then (.doctype (.afterName "") doctype, [])
  else if read.isEmpty && c = '>' then (resume, [.doctype doctype])
  else if read' = "public" then (.doctype (.afterKeyword false) doctype, [])
  else if read' = "system" then (.doctype (.afterKeyword true) doctype, [])
  else if isPrefix read' "public" || isPrefix read' "system" then
    (.doctype (.afterName read') doctype, [])
  else if read.isEmpty then (.doctype .junk { doctype with malformed := true }, [])
  else stepDoctypeJunk { doctype with malformed := true } c

def stepDoctype (stage : DoctypeStage) (doctype : Doctype) (c : Char) : Result :=
  match stage with
  | .start =>
    if isSpace c then (.doctype .beforeName doctype, []) else stepBeforeDoctypeName doctype c
  | .beforeName => stepBeforeDoctypeName doctype c
  | .name => stepDoctypeName doctype c
  | .afterName read => stepAfterDoctypeName read doctype c
  | .afterKeyword system => stepIdStart (.beforeId system) doctype system c
  | .beforeId system => stepIdStart (.beforeId system) doctype system c
  | .id system quote =>
    if c = quote then (.doctype (.afterId system) doctype, [])
    else if c = '>' then (resume, [.doctype { doctype with malformed := true }])
    else (.doctype (.id system quote) (pushId doctype system (visible c)), [])
  | .afterId true =>
    if isSpace c then (.doctype (.afterId true) doctype, [])
    else if c = '>' then (resume, [.doctype doctype])
    else (.doctype .junk doctype, [])
  | .afterId false | .betweenIds =>
    if c = '>' then (resume, [.doctype doctype]) else stepIdStart .betweenIds doctype true c
  | .junk => stepDoctypeJunk doctype c

/-! ## Character references -/

/-- Puts the text that a reference stands for where the reference stood. -/
def fill (host : Host) (text : List Char) : Result :=
  match host with
  | .text mode => (.text mode, text.map .char)
  | .value draft name quoting value =>
    (.value draft name quoting (value ++ String.ofList text), [])

/-- Goes on with the character after a reference. -/
def stepHost (host : Host) (c : Char) : Result :=
  match host with
  | .text mode => stepText mode c
  | .value draft name quoting value => stepValue draft name quoting value c

/-- The host after some text has been put in, for the character that follows. -/
def Host.push (host : Host) (text : List Char) : Host :=
  match host with
  | .text mode => .text mode
  | .value draft name quoting read => .value draft name quoting (read ++ String.ofList text)

/-- Puts text in and reads the character that ended the reference. -/
def fillThen (host : Host) (text : List Char) (c : Char) : Result :=
  let (state, tokens) := stepHost (host.push text) c
  (state, (fill host text).2 ++ tokens)

def Host.isValue : Host → Bool
  | .text _ => false
  | .value .. => true

def digit? (isHex : Bool) (c : Char) : Option Nat :=
  if c.isDigit then some (c.toNat - 48)
  else if isHex && 'a' ≤ c && c ≤ 'f' then some (c.toNat - 87)
  else if isHex && 'A' ≤ c && c ≤ 'F' then some (c.toNat - 55)
  else none

/-- A name goes on as long as letters and digits follow and ends with an optional semicolon. -/
def stepName (host : Host) (read : String) (c : Char) : Result :=
  if c.isAlphanum then (.name host (read.push c), [])
  else if c = ';' then fill host (Entity.resolve host.isValue (read.push c).toList none)
  else fillThen host (Entity.resolve host.isValue read.toList (some c)) c

def stepReference (host : Host) (c : Char) : Result :=
  if c = '#' then (.number host, []) else stepName host "" c

/-- A character of a number. Without a semicolon behind it the reference counts, by mistake. -/
def stepDigits (host : Host) (isHex : Bool) (code : Nat) (c : Char) : Result :=
  match digit? isHex c with
  | some n => (.digits host isHex ((if isHex then 16 else 10) * code + n), [])
  | none =>
    if c = ';' then fill host [Entity.ofCode code]
    else
      let (state, tokens) := fillThen host [Entity.ofCode code] c
      (state, .mistake :: tokens)

def stepNumber (host : Host) (c : Char) : Result :=
  if c = 'x' || c = 'X' then (.hexMark host c, [])
  else
    match digit? false c with
    | some n => (.digits host false n, [])
    | none => fillThen host ['&', '#'] c

def stepHexMark (host : Host) (mark c : Char) : Result :=
  match digit? true c with
  | some n => (.digits host true n, [])
  | none => fillThen host ['&', '#', mark] c

/-! ## All states -/

/-- Reads one character. The flag says whether the text stands inside foreign content. -/
def step (foreign : Bool) (state : State) (c : Char) : Result :=
  match state with
  | .text mode => stepText mode c
  | .tagOpen => stepTagOpen c
  | .endTagOpen => stepEndTagOpen c
  | .tagName draft => stepTagName draft c
  | .beforeName draft => stepBeforeName draft c
  | .attributeName draft name => stepAttributeName draft name c
  | .afterName draft name => stepAfterName draft name c
  | .beforeValue draft name => stepBeforeValue draft name c
  | .value draft name quoting value => stepValue draft name quoting value c
  | .afterValue draft => stepBeforeName draft c
  | .selfClosing draft => stepSelfClosing draft c
  | .declaration read => stepDeclaration foreign read c
  | .junkComment read => stepJunkComment read c
  | .commentStart => stepCommentStart c
  | .commentStartDash => stepCommentStartDash c
  | .comment read => stepComment read c
  | .commentDash read => stepCommentDash read c
  | .commentEnd read => stepCommentEnd read c
  | .commentBang read => stepCommentBang read c
  | .doctype stage doctype => stepDoctype stage doctype c
  | .cdata => stepCdata c
  | .cdataBracket => stepCdataBracket c
  | .cdataEnd => stepCdataEnd c
  | .rawLess kind tag => stepRawLess kind tag c
  | .rawEndOpen kind tag => stepRawEndOpen kind tag c
  | .rawEndName kind tag read => stepRawEndName kind tag read c
  | .escapeStart tag => stepEscapeStart tag c
  | .escapeStartDash tag => stepEscapeStartDash tag c
  | .escapeDash kind tag => stepEscapeDash kind tag c
  | .escapeDashes kind tag => stepEscapeDashes kind tag c
  | .nestStart tag word => stepNest true tag word c
  | .nestEnd tag word => stepNest false tag word c
  | .reference host => stepReference host c
  | .number host => stepNumber host c
  | .hexMark host mark => stepHexMark host mark c
  | .digits host isHex code => stepDigits host isHex code c
  | .name host read => stepName host read c

/-- The text of a reference that the end of the text cuts off; inside a tag it is lost. -/
def finishReference (host : Host) (text : List Char) : List Token :=
  match host with
  | .text _ => text.map .char
  | .value .. => []

/-- The tokens of what the end of the text leaves unfinished. An unfinished tag is dropped. -/
def finish : State → List Token
  | .tagOpen => chars "<"
  | .endTagOpen => chars "</"
  | .declaration read | .junkComment read => [.comment read]
  | .commentStart | .commentStartDash => [.comment ""]
  | .comment read | .commentDash read | .commentEnd read | .commentBang read => [.comment read]
  | .doctype .junk doctype => [.doctype doctype]
  | .doctype _ doctype => [.doctype { doctype with malformed := true }]
  | .cdataBracket => chars "]"
  | .cdataEnd => chars "]]"
  | .rawLess .nestedScript _ => []
  | .rawLess .. => chars "<"
  | .rawEndOpen .. => chars "</"
  | .rawEndName _ _ read => chars ("</" ++ read)
  | .reference host => finishReference host ['&']
  | .number host => finishReference host ['&', '#']
  | .hexMark host mark => finishReference host ['&', '#', mark]
  | .digits host _ code => .mistake :: finishReference host [Entity.ofCode code]
  | .name host read => finishReference host (Entity.resolve host.isValue read.toList none)
  | _ => []

end Lexer

end MarkupIslands.Markup
