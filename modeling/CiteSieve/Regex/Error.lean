/-!
# Why an expression is refused

A `Flaw` makes a text no regular expression. Three further errors concern texts that are well
formed so far but ask for what cannot be built; they are kept apart because a caller may fall
back from a flaw but not from them.
-/

namespace CiteSieve.Regex

/-- What is wrong with a text that is no regular expression. -/
inductive Flaw where
  | danglingBackslash
  | badEscape
  | unknownCharName
  | unterminatedSet
  | badRange
  | nothingToRepeat
  | repeatedRepetition
  | leastAboveMost
  | unterminatedGroup
  | unbalancedParenthesis
  | unknownExtension
  | missingName
  | badName
  | repeatedName
  | unknownName
  | unknownGroup
  | openGroup
  | groupOfSameLookbehind
  | tooManyBranches
  | badFlags
  | lateFlags
  | templateRepetition
  | variableLookbehind
  deriving DecidableEq, Repr

/-- Why an expression cannot be built. -/
inductive Error where
  | flaw (f : Flaw)
  /-- A repetition count is beyond what can be counted. -/
  | repetitionTooLarge
  /-- A repetition count is written with too many digits to be read. -/
  | countTooLong (digits : Nat)
  /-- ASCII and Unicode matching are both asked for. -/
  | asciiAndUnicode
  deriving DecidableEq, Repr

/-- Longest repetition count that is read. -/
def countDigitLimit : Nat := 4300

/-- What is reported for an error that stops the program. -/
def Error.message : Error → String
  | .flaw _ => "the expression is malformed"
  | .repetitionTooLarge => "the repetition number is too large"
  | .countTooLong digits =>
    s!"Exceeds the limit ({countDigitLimit} digits) for integer string conversion: value has " ++
      s!"{digits} digits; use sys.set_int_max_str_digits() to increase the limit"
  | .asciiAndUnicode => "ASCII and UNICODE flags are incompatible"

end CiteSieve.Regex
