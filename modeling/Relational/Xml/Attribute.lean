import Relational.Xml.Entity
import Relational.Xml.Event

namespace Relational.Xml

open Text

structure Attribute where
  name : String
  value : String
  deriving DecidableEq, Repr

inductive AttributeFault where
  | noEquals (position : Nat)
  | noValue (position : Nat)
  | noQuote (position : Nat)
  | openQuote (position : Nat) (quote : Char)
  | repeated (position previous : Nat)
  | entity (fault : EntityFault)

namespace AttributeFault

def message : AttributeFault → String
  | noEquals p => s!"position {p}: attribute key must be directly followed by `=` or space"
  | noValue p => s!"position {p}: `=` must be followed by an attribute value"
  | noQuote p => s!"position {p}: attribute value must be enclosed in `\"` or `'`"
  | openQuote p quote => s!"position {p}: missing closing quote `{quote}` in attribute value"
  | repeated p previous =>
    s!"position {p}: duplicated attribute, previous declaration at position {previous}"
  | entity fault => fault.message

end AttributeFault

def endsKey (c : Char) : Bool :=
  c == '=' || isSpace c

def quoteEnd (quote : Char) (_ : Unit) (c : Char) : Option Unit :=
  if c == quote then none else some ()

-- The attributes written in `cs`, which begins at that position, after attributes named `seen` with
-- their positions. The first character of a name may be any, even an equals sign.
def attributesFrom (seen : List (List Char × Nat)) (position : Nat) (cs : List Char) :
    Except AttributeFault (List Attribute) :=
  match _hk : cs.dropWhile isSpace with
  | [] => .ok []
  | c :: afterFirst =>
    let start := position + (cs.takeWhile isSpace).length
    let key := c :: afterFirst.takeWhile (!endsKey ·)
    let gap := (afterFirst.dropWhile (!endsKey ·)).takeWhile isSpace
    let equalsAt := start + byteLength key + gap.length
    match _he : (afterFirst.dropWhile (!endsKey ·)).dropWhile isSpace with
    | '=' :: afterEquals =>
      match seen.lookup key with
      | some previous => .error (.repeated start previous)
      | none =>
        let valueAt := equalsAt + 1 + (afterEquals.takeWhile isSpace).length
        match _hv : afterEquals.dropWhile isSpace with
        | [] => .error (.noValue valueAt)
        | quote :: quoted =>
          if quote == '"' || quote == '\'' then
            match hq : cut (quoteEnd quote) () quoted with
            | none => .error (.openQuote (valueAt + 1 + byteLength quoted) quote)
            | some (value, rest) =>
              match unescape value with
              | .error fault => .error (.entity fault)
              | .ok text => do
                let next := valueAt + byteLength value + 2
                let others ← attributesFrom ((key, start) :: seen) next rest
                .ok (⟨String.ofList key, String.ofList text⟩ :: others)
          else .error (.noQuote valueAt)
    | _ => .error (.noEquals equalsAt)
termination_by cs.length
decreasing_by
  have := _hk ▸ length_dropWhile_le isSpace cs
  have := _he ▸ length_dropWhile_le isSpace (afterFirst.dropWhile (!endsKey ·))
  have := length_dropWhile_le (!endsKey ·) afterFirst
  have := _hv ▸ length_dropWhile_le isSpace afterEquals
  have := length_cut_lt hq
  simp only [List.length_cons] at *
  omega

def Tag.readAttributes (tag : Tag) : Except AttributeFault (List Attribute) :=
  attributesFrom [] tag.name.utf8ByteSize tag.attributes

end Relational.Xml
