import Relational.Text.Split
import Relational.Toml.Scalar

namespace Relational.Toml

open Numeral Text

def isSpace (c : Char) : Bool :=
  c == ' ' || c == '\t'

def skipSpace (cs : List Char) : List Char :=
  cs.dropWhile isSpace

def isPlain (c : Char) : Bool :=
  c == '\t' || (0x20 ≤ c.toNat && c.toNat != 0x7F)

def lineEnd? : List Char → Option (List Char)
  | '\n' :: rest => some rest
  | '\r' :: '\n' :: rest => some rest
  | _ => none

def endLine? (cs : List Char) : Option (List Char) :=
  let rest := match skipSpace cs with
    | '#' :: comment => comment.dropWhile isPlain
    | rest => rest
  if rest.isEmpty then some [] else lineEnd? rest

def skipBlank : Nat → List Char → Option (List Char)
  | 0, cs => some cs
  | fuel + 1, cs =>
    match skipSpace cs with
    | '#' :: _ | '\n' :: _ | '\r' :: _ => (endLine? cs).bind (skipBlank fuel)
    | rest => some rest

def unicode? (digits : List Char) : Option Char := do
  let n ← readHex? digits
  if n.isValidChar then some (Char.ofNat n) else none

def escape? : Char → Option Char
  | 'b' => some '\u0008'
  | 't' => some '\t'
  | 'n' => some '\n'
  | 'f' => some '\u000c'
  | 'r' => some '\r'
  | '"' => some '"'
  | '\\' => some '\\'
  | _ => none

def readEscape : List Char → Option (Char × List Char)
  | 'u' :: a :: b :: c :: d :: rest => (unicode? [a, b, c, d]).map (·, rest)
  | 'U' :: a :: b :: c :: d :: e :: f :: g :: h :: rest =>
    (unicode? [a, b, c, d, e, f, g, h]).map (·, rest)
  | c :: rest => (escape? c).map (·, rest)
  | [] => none

def readBasic : Nat → List Char → Option (List Char × List Char)
  | 0, _ => none
  | _, [] => none
  | _, '"' :: rest => some ([], rest)
  | fuel + 1, '\\' :: rest => do
    let (c, rest) ← readEscape rest
    push c (readBasic fuel rest)
  | fuel + 1, c :: rest => if isPlain c then push c (readBasic fuel rest) else none

def quoteRun (quote : Char) (cs : List Char) : Nat × List Char :=
  ((cs.takeWhile (· == quote)).length, cs.dropWhile (· == quote))

def skipGap : List Char → List Char
  | '\r' :: '\n' :: rest => skipGap rest
  | c :: rest => if isSpace c || c == '\n' then skipGap rest else c :: rest
  | [] => []

-- Text over several lines. Up to two quotes may stand anywhere in it, also before the three that
-- close it.
def readLong (quote : Char) (escapes : Bool) : Nat → List Char → Option (List Char × List Char)
  | 0, _ => none
  | _, [] => none
  | fuel + 1, c :: rest =>
    if c = quote then
      let (more, after) := quoteRun quote rest
      if 4 < more then none
      else if 2 ≤ more then some (List.replicate (more - 2) quote, after)
      else push c (readLong quote escapes fuel rest)
    else if escapes && c == '\\' then
      match lineEnd? (skipSpace rest) with
      | some next =>
        readLong quote escapes fuel (skipGap next)
      | none => do
        let (c, rest) ← readEscape rest
        push c (readLong quote escapes fuel rest)
    else
      match lineEnd? (c :: rest) with
      | some next => push '\n' (readLong quote escapes fuel next)
      | none => if isPlain c then push c (readLong quote escapes fuel rest) else none

def afterOpening (cs : List Char) : List Char :=
  (lineEnd? cs).getD cs

def readLiteral (cs : List Char) : Option (List Char × List Char) :=
  match cs.dropWhile (· != '\'') with
  | _ :: rest =>
    let text := cs.takeWhile (· != '\'')
    if text.all isPlain then some (text, rest) else none
  | [] => none

def readShort : List Char → Option (String × List Char)
  | '"' :: rest => (readBasic (rest.length + 1) rest).map fun (cs, rest) => (String.ofList cs, rest)
  | '\'' :: rest => (readLiteral rest).map fun (cs, rest) => (String.ofList cs, rest)
  | _ => none

def readText : List Char → Option (String × List Char)
  | '"' :: '"' :: '"' :: rest => do
    let (cs, rest) ← readLong '"' true (rest.length + 1) (afterOpening rest)
    some (String.ofList cs, rest)
  | '\'' :: '\'' :: '\'' :: rest => do
    let (cs, rest) ← readLong '\'' false (rest.length + 1) (afterOpening rest)
    some (String.ofList cs, rest)
  | cs => readShort cs

def maxDepth : Nat := 80

def isBareChar (c : Char) : Bool :=
  isDigit c || ('a' ≤ c && c ≤ 'z') || ('A' ≤ c && c ≤ 'Z') || c == '_' || c == '-'

def readKeyPart (cs : List Char) : Option (String × List Char) :=
  match cs with
  | '"' :: _ | '\'' :: _ => readShort cs
  | _ =>
    let name := cs.takeWhile isBareChar
    if name.isEmpty then none else some (String.ofList name, cs.dropWhile isBareChar)

def readParts : Nat → List Char → Option (List String × List Char)
  | 0, _ => none
  | fuel + 1, cs => do
    let (part, rest) ← readKeyPart (skipSpace cs)
    match skipSpace rest with
    | '.' :: rest => do
      let (parts, rest) ← readParts fuel rest
      some (part :: parts, rest)
    | rest => some ([part], rest)

def readKey (cs : List Char) : Option ((List String × String) × List Char) := do
  let (parts, rest) ← readParts maxDepth cs
  if maxDepth ≤ parts.length then none
  else
    let last ← parts.getLast?
    some ((parts.dropLast, last), rest)

def isWordChar (c : Char) : Bool :=
  isBareChar c || c == '+' || c == '.' || c == ':'

def readScalar (cs : List Char) : Option (Toml × List Char) :=
  let word := cs.takeWhile isWordChar
  let rest := cs.dropWhile isWordChar
  match isDate word, rest with
  | true, ' ' :: d :: more =>
    if isDigit d then
      let time := (d :: more).takeWhile isWordChar
      (scalar? (word ++ ' ' :: time)).map (·, (d :: more).dropWhile isWordChar)
    else (scalar? word).map (·, rest)
  | _, _ => (scalar? word).map (·, rest)

def readItems (readValue : List Char → Option (Toml × List Char)) :
    Nat → List Char → Option (List Toml × List Char)
  | 0, _ => none
  | fuel + 1, cs => do
    match ← skipBlank cs.length cs with
    | ']' :: rest => some ([], rest)
    | cs => do
      let (v, rest) ← readValue cs
      match ← skipBlank rest.length rest with
      | ',' :: rest => do
        let (vs, rest) ← readItems readValue fuel rest
        some (v :: vs, rest)
      | ']' :: rest => some ([v], rest)
      | _ => none

def readPair (readValue : List Char → Option (Toml × List Char)) (cs : List Char) :
    Option ((List String × String × Toml) × List Char) := do
  let ((path, key), rest) ← readKey cs
  match rest with
  | '=' :: rest => do
    let (v, rest) ← readValue (skipSpace rest)
    some ((path, key, v), skipSpace rest)
  | _ => none

def readPairs (readValue : List Char → Option (Toml × List Char)) :
    Nat → Entries → List Char → Option (Entries × List Char)
  | 0, _, _ => none
  | fuel + 1, entries, cs => do
    let ((path, key, v), rest) ← readPair readValue cs
    let entries ← assign path key v entries
    match rest with
    | ',' :: rest => readPairs readValue fuel entries rest
    | '\x7d' :: rest => some (entries, rest)
    | _ => none

def readValue : Nat → List Char → Option (Toml × List Char)
  | depth, cs =>
    match depth, cs with
    | _, '"' :: _ | _, '\'' :: _ => (readText cs).map fun (s, rest) => (.text s, rest)
    | 0, '[' :: _ | 0, '\x7b' :: _ => none
    | depth + 1, '[' :: rest =>
      (readItems (readValue depth) (rest.length + 1) rest).map fun (vs, rest) => (.array vs, rest)
    | depth + 1, '\x7b' :: rest =>
      match skipSpace rest with
      | '\x7d' :: rest => some (.table .inline [], rest)
      | rest => do
        let (entries, rest) ← readPairs (readValue depth) (rest.length + 1) [] rest
        some (.table .inline entries, rest)
    | _, cs => readScalar cs

structure Document where
  entries : Entries := []
  header : List String := []

def expect (c : Char) : List Char → Option (List Char)
  | d :: rest => if d = c then some rest else none
  | [] => none

def readStatement (doc : Document) : List Char → Option (Document × List Char)
  | '[' :: '[' :: rest => do
    let ((path, key), rest) ← readKey rest
    let rest ← (expect ']' rest).bind (expect ']')
    let rest ← endLine? rest
    let entries ← declareElement path key doc.entries
    some ({ entries, header := path ++ [key] }, rest)
  | '[' :: rest => do
    let ((path, key), rest) ← readKey rest
    let rest ← expect ']' rest
    let rest ← endLine? rest
    let entries ← declareTable path key doc.entries
    some ({ entries, header := path ++ [key] }, rest)
  | cs => do
    let ((path, key, v), rest) ← readPair (readValue (maxDepth - 1)) cs
    let rest ← endLine? rest
    let entries ← assignIn doc.header path key v doc.entries
    some ({ doc with entries }, rest)

def readStatements : Nat → Document → List Char → Option Document
  | 0, _, _ => none
  | fuel + 1, doc, cs => do
    match ← skipBlank cs.length cs with
    | [] => some doc
    | cs => do
      let (doc, rest) ← readStatement doc cs
      readStatements fuel doc rest

def parse (s : String) : Option Entries :=
  let cs := match s.toList with
    | '\uFEFF' :: rest => rest
    | cs => cs
  (readStatements (cs.length + 1) {} cs).map (·.entries)

end Relational.Toml
