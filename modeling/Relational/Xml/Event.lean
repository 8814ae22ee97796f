import Relational.Text.Split

namespace Relational.Xml

open Text

def isSpace (c : Char) : Bool :=
  c == ' ' || c == '\t' || c == '\r' || c == '\n'

structure Tag where
  name : String
  attributes : List Char

inductive Fault where
  | unknownMarkup
  | openComment
  | openCdata
  | openDoctype
  | openInstruction
  | openTag
  | namelessDoctype
  | mismatch (expected found : String)
  | unopened (name : String)
  | unclosed (name : String)

namespace Fault

def notClosed (what close : String) : String :=
  s!"syntax error: {what} not closed: `{close}` not found before end of input"

def message : Fault → String
  | unknownMarkup => "syntax error: unknown or missed symbol in markup"
  | openComment => notClosed "comment" "-->"
  | openCdata => notClosed "CDATA" "]]>"
  | openDoctype => notClosed "DOCTYPE" ">"
  | openInstruction => notClosed "processing instruction or xml declaration" "?>"
  | openTag => notClosed "tag" ">"
  | namelessDoctype =>
    "ill-formed document: `<!DOCTYPE>` declaration does not contain a name of a document type"
  | mismatch expected found =>
    s!"ill-formed document: expected `</{expected}>`, but `</{found}>` was found"
  | unopened name => s!"ill-formed document: close tag `</{name}>` does not match any open tag"
  | unclosed name =>
    s!"ill-formed document: start tag not closed: `</{name}>` not found before end of input"

end Fault

-- Positions count bytes from the start of the document.
inductive Event where
  | start (tag : Tag)
  | empty (tag : Tag)
  | close (name : String)
  | fault (position : Nat) (cause : Fault)

def tagEnd (quote : Option Char) (c : Char) : Option (Option Char) :=
  match quote with
  | none => if c == '>' then none else if c == '"' || c == '\'' then some (some c) else some none
  | some q => if c == q then some none else some (some q)

def endAfter (complete : List Char → Bool) (before : List Char) (c : Char) : Option (List Char) :=
  if c == '>' && complete before then none else some (c :: before)

def balancedEnd (depth : Nat) (c : Char) : Option Nat :=
  if c == '<' then some (depth + 1)
  else if c == '>' then if depth = 0 then none else some (depth - 1)
  else some depth

def endsComment : List Char → Bool
  | '-' :: '-' :: before => 2 < before.length
  | _ => false

def endsCdata : List Char → Bool
  | ']' :: ']' :: _ => true
  | _ => false

def endsInstruction : List Char → Bool
  | '?' :: _ => true
  | _ => false

inductive Kind where
  | comment
  | cdata
  | doctype
  | instruction
  | endTag
  | tag
  | unknown

def Kind.of : List Char → Kind
  | '!' :: '-' :: _ => comment
  | '!' :: '[' :: _ => cdata
  | '!' :: c :: _ => if c == 'D' || c == 'd' then doctype else unknown
  | '!' :: [] => unknown
  | '?' :: _ => instruction
  | '/' :: _ => endTag
  | _ => tag

def Kind.openFault : Kind → Fault
  | comment => .openComment
  | cdata => .openCdata
  | doctype => .openDoctype
  | instruction => .openInstruction
  | endTag | tag => .openTag
  | unknown => .unknownMarkup

def Kind.cut : Kind → List Char → Option (List Char × List Char)
  | comment => Text.cut (endAfter endsComment) []
  | cdata => Text.cut (endAfter endsCdata) []
  | doctype => Text.cut balancedEnd 0
  | instruction => Text.cut (endAfter endsInstruction) []
  | endTag | tag => Text.cut tagEnd none
  | unknown => fun _ => none

theorem Kind.length_cut_lt {kind : Kind} {cs content rest : List Char}
    (h : kind.cut cs = some (content, rest)) : rest.length < cs.length := by
  cases kind <;> first | contradiction | exact Text.length_cut_lt h

structure Misfit where
  offset : Nat
  cause : Fault

-- What may be wrong with markup that does end. The keyword of a document type, whose letter case is
-- of no account, has to be followed by a name.
def Kind.misfit? (kind : Kind) (content : List Char) : Option Misfit :=
  match kind with
  | comment => if "!--".toList.isPrefixOf content then none else some ⟨0, .openComment⟩
  | cdata => if "![CDATA[".toList.isPrefixOf content then none else some ⟨0, .openCdata⟩
  | doctype =>
    if (content.take 8).map Char.toLower == "!doctype".toList then
      if (content.drop 8).all isSpace then some ⟨byteLength content + 1, .namelessDoctype⟩ else none
    else some ⟨0, .openDoctype⟩
  | instruction => if content.length = 1 then some ⟨0, .openInstruction⟩ else none
  | _ => none

def readTag (content : List Char) : Tag where
  name := String.ofList (content.takeWhile (!isSpace ·))
  attributes := content.dropWhile (!isSpace ·)

def closeName (content : List Char) : String :=
  let name := content.drop 1
  String.ofList (if name.all isSpace then name else (name.reverse.dropWhile isSpace).reverse)

-- The events of `cs`, which begins at that position inside the elements `opened`, the innermost
-- first. An end tag has to name the innermost open element.
def eventsFrom (position : Nat) (opened : List String) (cs : List Char) : List Event :=
  match _hm : cs.dropWhile (· != '<') with
  | [] => []
  | _ :: markup =>
    let position := position + byteLength (cs.takeWhile (· != '<'))
    let kind := Kind.of markup
    match _hc : kind.cut markup with
    | none => [.fault position kind.openFault]
    | some (content, rest) =>
      let next := position + byteLength content + 2
      match kind.misfit? content, kind, opened with
      | some misfit, _, _ => [.fault (position + misfit.offset) misfit.cause]
      | none, .tag, opened =>
        if content.getLast? = some '/' then
          .empty (readTag content.dropLast) :: eventsFrom next opened rest
        else
          let tag := readTag content
          .start tag :: eventsFrom next (tag.name :: opened) rest
      | none, .endTag, [] => [.fault position (.unopened (closeName content))]
      | none, .endTag, expected :: outer =>
        let name := closeName content
        if name = expected then .close name :: eventsFrom next outer rest
        else [.fault position (.mismatch expected name)]
      | none, _, opened => eventsFrom next opened rest
termination_by cs.length
decreasing_by
  all_goals
    have := Kind.length_cut_lt _hc
    have := _hm ▸ length_dropWhile_le (· != '<') cs
    simp only [List.length_cons] at this
    omega

def events (cs : List Char) : List Event :=
  eventsFrom 0 [] cs

end Relational.Xml
