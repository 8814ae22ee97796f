namespace Relational.CommandLine

inductive Arity where
  | flag
  | value
  | nonEmptyValue
  deriving DecidableEq

structure OptionSpec where
  name : String
  letter : Option Char
  arity : Arity

structure Parsed where
  options : List (String × String) := []
  words : List String := []

namespace Parsed

def addOption (p : Parsed) (spec : OptionSpec) (value : String) : Option Parsed :=
  if (p.options.lookup spec.name).isSome then none
  else if spec.arity = .nonEmptyValue ∧ value = "" then none
  else some { p with options := (spec.name, value) :: p.options }

def addWord (p : Parsed) (word : String) : Parsed :=
  { p with words := p.words ++ [word] }

def value? (p : Parsed) (name : String) : Option String :=
  p.options.lookup name

def has (p : Parsed) (name : String) : Bool :=
  (p.value? name).isSome

end Parsed

def isOption (word : String) : Bool :=
  match word.toList with
  | '-' :: _ :: _ => true
  | _ => false

def takeValue : List String → Option (String × List String)
  | word :: rest => if isOption word then none else some (word, rest)
  | [] => none

variable (specs : List OptionSpec)

def readLong (p : Parsed) (cs : List Char) (rest : List String) :
    Option (Parsed × List String) := do
  let name := String.ofList (cs.takeWhile (· != '='))
  let spec ← specs.find? (·.name == name)
  match spec.arity, cs.dropWhile (· != '=') with
  | .flag, [] => (p.addOption spec "").map (·, rest)
  | .flag, _ :: _ => none
  | _, _ :: value => (p.addOption spec (String.ofList value)).map (·, rest)
  | _, [] => do
    let (value, rest) ← takeValue rest
    (p.addOption spec value).map (·, rest)

def readLetters (p : Parsed) (rest : List String) : List Char → Option (Parsed × List String)
  | [] => some (p, rest)
  | c :: cs => do
    let spec ← specs.find? (·.letter == some c)
    match spec.arity, cs with
    | .flag, cs => do
      let p ← p.addOption spec ""
      readLetters p rest cs
    | _, [] => do
      let (value, rest) ← takeValue rest
      (p.addOption spec value).map (·, rest)
    | _, '=' :: value => (p.addOption spec (String.ofList value)).map (·, rest)
    | _, value => (p.addOption spec (String.ofList value)).map (·, rest)

-- Reads all words of a command; every step takes at least one, so as many steps as words are
-- enough.
def readWords : Nat → Parsed → List String → Option Parsed
  | _, p, [] => some p
  | 0, _, _ => none
  | fuel + 1, p, word :: rest =>
    match word.toList with
    | ['-', '-'] => some (rest.foldl Parsed.addWord p)
    | '-' :: '-' :: cs => do
      let (p, rest) ← readLong specs p cs rest
      readWords fuel p rest
    | '-' :: c :: cs => do
      let (p, rest) ← readLetters specs p rest (c :: cs)
      readWords fuel p rest
    | _ => readWords fuel (p.addWord word) rest

structure GenerateArguments where
  input : String
  format : Option String := none
  dialect : Option String := none
  output : Option String := none
  settingsFile : Option String := none
  verbose : Bool := false
  deriving DecidableEq, Repr

structure InspectArguments where
  input : String
  format : Option String := none
  json : Bool := false
  deriving DecidableEq, Repr

inductive Invocation where
  | generate (arguments : GenerateArguments)
  | inspect (arguments : InspectArguments)
  | formats
  | version
  deriving DecidableEq, Repr

def verboseOption : OptionSpec := ⟨"verbose", some 'v', .flag⟩

def formatOption : OptionSpec := ⟨"format", some 'f', .value⟩

def generateOptions : List OptionSpec :=
  [verboseOption, formatOption, ⟨"dialect", some 'd', .value⟩, ⟨"output", some 'o', .nonEmptyValue⟩,
    ⟨"config", some 'c', .nonEmptyValue⟩]

def inspectOptions : List OptionSpec :=
  [verboseOption, formatOption, ⟨"json", none, .flag⟩]

def readCommand (verbose : Bool) (command : String) (words : List String) : Option Invocation :=
  match command with
  | "generate" => do
    let p ← readWords generateOptions words.length {} words
    match p.words with
    | [input] =>
      some (.generate {
        input
        format := p.value? "format"
        dialect := p.value? "dialect"
        output := p.value? "output"
        settingsFile := p.value? "config"
        verbose := verbose || p.has "verbose" })
    | _ => none
  | "inspect" => do
    let p ← readWords inspectOptions words.length {} words
    match p.words with
    | [input] => some (.inspect { input, format := p.value? "format", json := p.has "json" })
    | _ => none
  | "formats" => do
    let p ← readWords [verboseOption] words.length {} words
    if p.words.isEmpty then some .formats else none
  | _ => none

def readFirstLetters (verbose : Bool) : List Char → Option (Bool × Bool)
  | [] => some (verbose, false)
  | 'V' :: _ => some (verbose, true)
  | 'v' :: cs => if verbose then none else readFirstLetters true cs
  | _ => none

def Invocation.ofWordsAfter? (verbose : Bool) : List String → Option Invocation
  | [] => none
  | word :: rest =>
    match word.toList with
    | '-' :: '-' :: _ =>
      if word = "--version" then some .version
      else if word = "--verbose" ∧ !verbose then ofWordsAfter? true rest
      else none
    | '-' :: c :: cs =>
      match readFirstLetters verbose (c :: cs) with
      | some (_, true) => some .version
      | some (verbose, false) => ofWordsAfter? verbose rest
      | none => none
    | _ => readCommand verbose word rest

def Invocation.ofWords? (words : List String) : Option Invocation :=
  Invocation.ofWordsAfter? false words

end Relational.CommandLine
