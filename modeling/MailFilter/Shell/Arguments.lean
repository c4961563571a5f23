/-!
Arguments of a command line: options by long or short names, some of which take a value, and
positional arguments. Short options may share one dash, and a value may be joined to its option. The
commands themselves know nothing of it.
-/

namespace MailFilter.Command

inductive OptionName where
  | config
  | verbose
  | format
  | help
  deriving DecidableEq, Repr

structure Spec where
  long : List (String × OptionName)
  short : List (Char × OptionName)
  /-- Whether options may follow positional arguments. -/
  interspersed : Bool

def OptionName.takesValue : OptionName → Bool
  | config => true
  | format => true
  | verbose => false
  | help => false

inductive ArgumentError where
  | unknownOption (name : String)
  | lacksValue (name : String)
  | unwantedValue (name : String)
  deriving DecidableEq, Repr

structure Parsed where
  options : List (OptionName × String)
  positional : List String
  deriving DecidableEq, Repr

def valueOf (name : String) (rest : List String) : Except ArgumentError (String × List String) :=
  match rest with
  | v :: rest => .ok (v, rest)
  | [] => .error (.lacksValue name)

/-- The options that share one dash. The first that takes a value takes what is left of the word, or
the next argument. -/
def shortOptions (spec : Spec) (rest : List String) :
    List Char → Except ArgumentError (List (OptionName × String) × List String)
  | [] => .ok ([], rest)
  | c :: more =>
    let name := String.ofList ['-', c]
    match spec.short.lookup c with
    | none => .error (.unknownOption name)
    | some o =>
      if o.takesValue then do
        if more.isEmpty then
          let (v, rest) ← valueOf name rest
          return ([(o, v)], rest)
        else return ([(o, String.ofList more)], rest)
      else do
        let (options, rest) ← shortOptions spec rest more
        return ((o, "") :: options, rest)

def optionWord (spec : Spec) (word : List Char) (rest : List String) :
    Except ArgumentError (List (OptionName × String) × List String) :=
  let name := String.ofList (word.takeWhile (· ≠ '='))
  match spec.long.lookup name, word.dropWhile (· ≠ '=') with
  | some o, '=' :: v =>
    if o.takesValue then .ok ([(o, String.ofList v)], rest) else .error (.unwantedValue name)
  | some o, _ =>
    if o.takesValue then do
      let (v, rest) ← valueOf name rest
      return ([(o, v)], rest)
    else .ok ([(o, "")], rest)
  | none, _ =>
    match word with
    | '-' :: '-' :: _ => .error (.unknownOption name)
    | _ => shortOptions spec rest (word.drop 1)

/-- Reads arguments up to two dashes, or, where options may not follow, up to the first positional
one. The fuel bounds the number of words. -/
def parseFrom (spec : Spec) : Nat → List String → Except ArgumentError Parsed
  | 0, args => .ok ⟨[], args⟩
  | _ + 1, [] => .ok ⟨[], []⟩
  | fuel + 1, arg :: rest =>
    match arg.toList with
    | ['-', '-'] => .ok ⟨[], rest⟩
    | '-' :: c :: more => do
      let (options, rest) ← optionWord spec ('-' :: c :: more) rest
      let parsed ← parseFrom spec fuel rest
      return { parsed with options := options ++ parsed.options }
    | _ =>
      if spec.interspersed then do
        let parsed ← parseFrom spec fuel rest
        return { parsed with positional := arg :: parsed.positional }
      else .ok ⟨[], arg :: rest⟩

def parse (spec : Spec) (args : List String) : Except ArgumentError Parsed :=
  parseFrom spec args.length args

def Parsed.value? (p : Parsed) (o : OptionName) : Option String := p.options.reverse.lookup o

end MailFilter.Command
