import CiteSieve.Field
import CiteSieve.Text.Quoted
import CiteSieve.Text.Similarity

/-!
# Options and arguments

Words of a command line are options or arguments. A long option begins with two dashes and may
carry its value after an equals sign; short options are single letters after one dash, several of
them in one word, and the value of one may follow in the same word. The value of an option is
otherwise the next word, whatever it looks like. Two dashes alone end the options.

* `readWords`: the options in order, and the arguments.
-/

namespace CiteSieve.CommandLine

/-! ## Errors -/

/-- What is wrong with a command line. -/
inductive UsageError where
  /-- `nearest` are the options it may stand for. -/
  | noSuchOption (name : String) (nearest : List String)
  | needsValue (name : String)
  | takesNoValue (name : String)
  | noSuchCommand (name : String) (nearest : List String)
  | missingCommand
  | missingArgument (name : String)
  /-- A path that must exist does not; `subject` names the parameter. -/
  | noSuchPath (subject path : String)
  | extraArguments (args : List String)
  | unknownFields (e : Selection.UnknownFields)
  deriving DecidableEq, Repr

/-- Ask for one of the words that may be meant. -/
def suggestion : List String → String
  | [] => ""
  | [word] => s!" Did you mean {Text.quoted word}?"
  | words =>
    let words := (words.mergeSort fun a b => !decide (b < a)).map Text.quoted
    " (Did you mean one of: " ++ ", ".intercalate words ++ "?)"

def UsageError.message : UsageError → String
  | .noSuchOption name nearest => s!"No such option {Text.quoted name}." ++ suggestion nearest
  | .needsValue name => s!"Option {Text.quoted name} requires an argument."
  | .takesNoValue name => s!"Option {Text.quoted name} does not take a value."
  | .noSuchCommand name nearest => s!"No such command {Text.quoted name}." ++ suggestion nearest
  | .missingCommand => "Missing command."
  | .missingArgument name => s!"Missing argument '{name}'."
  | .noSuchPath subject path =>
    s!"Invalid value for {subject}: Path {Text.quoted path} does not exist."
  | .extraArguments [arg] => s!"Got unexpected extra argument ({arg})"
  | .extraArguments args => "Got unexpected extra arguments (" ++ " ".intercalate args ++ ")"
  | .unknownFields e => "Invalid value for --fields: " ++ e.message

/-! ## Options -/

/-- An option that a command knows: what it stands for, its spellings, and whether it has a
value. -/
structure OptionSpec (κ : Type) where
  key : κ
  spellings : List String
  hasValue : Bool := false
  deriving Repr

/-- Options with their values, in order, and arguments. An option without value has an empty
one. -/
structure Words (κ : Type) where
  options : List (κ × String) := []
  arguments : List String := []
  deriving Repr

variable {κ : Type}

/-- The option with the given spelling. -/
def spec? (specs : List (OptionSpec κ)) (spelling : String) : Option (OptionSpec κ) :=
  specs.find? fun s => s.spellings.contains spelling

/-- The value of the option that is spelled so: what is attached to it or the next word. -/
def takeValue (spelling : String) (attached : Option String) (rest : List String) :
    Except UsageError (String × List String) :=
  match attached, rest with
  | some v, rest => .ok (v, rest)
  | none, v :: rest => .ok (v, rest)
  | none, [] => .error (.needsValue spelling)

/-- The spellings of options with two dashes. -/
def longSpellings (specs : List (OptionSpec κ)) : List String :=
  (specs.flatMap OptionSpec.spellings).filter fun s => s.toList.take 2 = ['-', '-']

/-- Read an option with two dashes. -/
def readLong (specs : List (OptionSpec κ)) (name : String) (attached : Option String)
    (rest : List String) : Except UsageError (List (κ × String) × List String) :=
  match spec? specs name with
  | none => .error (.noSuchOption name (Text.nearest name (longSpellings specs)))
  | some s =>
    if s.hasValue then
      (takeValue name attached rest).map fun (v, rest) => ([(s.key, v)], rest)
    else if attached.isSome then .error (.takesNoValue name)
    else .ok ([(s.key, "")], rest)

/-- Read the letters after a single dash. -/
def readShort (specs : List (OptionSpec κ)) : (letters : List Char) → (rest : List String) →
    Except UsageError (List (κ × String) × List String)
  | [], rest => .ok ([], rest)
  | c :: cs, rest =>
    let name := String.ofList ['-', c]
    match spec? specs name with
    | none => .error (.noSuchOption name [])
    | some s =>
      if s.hasValue then
        let attached := if cs = [] then none else some (String.ofList cs)
        (takeValue name attached rest).map fun (v, rest) => ([(s.key, v)], rest)
      else
        (readShort specs cs rest).map fun (os, rest) => ((s.key, "") :: os, rest)

/-- Read an option and its value. -/
def readOption (specs : List (OptionSpec κ)) (word : List Char) (rest : List String) :
    Except UsageError (List (κ × String) × List String) :=
  match word with
  | '-' :: '-' :: _ =>
    let name := word.takeWhile (· ≠ '=')
    let attached := (word.dropWhile (· ≠ '=')).tail?
    readLong specs (String.ofList name) (attached.map String.ofList) rest
  | _ => readShort specs word.tail rest

/-- Read words; arguments may stand among options only if `mixed` holds, and the first argument
ends the options otherwise. At most `fuel` words are read. -/
def readWordsWithin (specs : List (OptionSpec κ)) (mixed : Bool) :
    (fuel : Nat) → List String → Except UsageError (Words κ)
  | fuel + 1, word :: rest =>
    let cs := word.toList
    if word = "--" then .ok { arguments := rest }
    else if cs.head? = some '-' ∧ cs.length ≠ 1 then do
      let (os, rest) ← readOption specs cs rest
      let words ← readWordsWithin specs mixed fuel rest
      .ok { words with options := os ++ words.options }
    else if mixed then do
      let words ← readWordsWithin specs mixed fuel rest
      .ok { words with arguments := word :: words.arguments }
    else .ok { arguments := word :: rest }
  | _, _ => .ok {}

/-- Read the words of a command. -/
def readWords (specs : List (OptionSpec κ)) (mixed : Bool) (words : List String) :
    Except UsageError (Words κ) :=
  readWordsWithin specs mixed words.length words

namespace Words

variable [DecidableEq κ]

/-- The option is given. -/
def has (w : Words κ) (k : κ) : Bool :=
  w.options.any (·.1 = k)

/-- The last value of the option. -/
def value? (w : Words κ) (k : κ) : Option String :=
  (w.options.reverse.find? (·.1 = k)).map Prod.snd

/-- Which of two options is given last. -/
def choice? (w : Words κ) (yes no : κ) : Option Bool :=
  (w.options.reverse.find? fun o => o.1 = yes ∨ o.1 = no).map fun o => o.1 = yes

end Words

end CiteSieve.CommandLine
