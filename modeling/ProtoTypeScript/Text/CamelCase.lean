import ProtoTypeScript.Text.Alphanumeric
import ProtoTypeScript.Text.LetterCase

/-!
# Lower camel case

`lowerCamel` turns a name in any convention into lower camel case: `foo_bar`, `FooBar` and
`foo-bar` become `fooBar`, and `XMLHttpRequest` becomes `xmlHttpRequest`.

A name is first cut into words:

* at every character that is neither letter nor digit, which is dropped;
* between a lower case character and an upper case one;
* before the last of several upper case characters that a lower case one follows.

A digit and a letter without case take the case of what stands before them in the word. The first
word is written in lower case, each other with its first character in upper case.
-/

namespace ProtoTypeScript.Text

/-! ### Words -/

/-- The case of the word read so far. -/
inductive WordMode
  | boundary
  | lower
  | upper
  deriving DecidableEq, Repr

/-- The case of a word after one more character. -/
def WordMode.after (mode : WordMode) (c : Char) : WordMode :=
  if isLower c then .lower else if isUpper c then .upper else mode

/-- The words of letters and digits, `word` being the one that is being read. -/
def wordsFrom (mode : WordMode) (word : List Char) : List Char → List (List Char)
  | [] => []
  | [c] => [word ++ [c]]
  | c :: next :: rest =>
    if mode.after c = .lower ∧ isUpper next then
      (word ++ [c]) :: wordsFrom .boundary [] (next :: rest)
    else if mode = .upper ∧ isUpper c ∧ isLower next then
      word :: wordsFrom .boundary [c] (next :: rest)
    else wordsFrom (mode.after c) (word ++ [c]) (next :: rest)

/-- The maximal runs of letters and digits. -/
def alphanumericRuns : List Char → List (List Char)
  | [] => [[]]
  | c :: cs =>
    match alphanumericRuns cs with
    | [] => [[c]]
    | run :: runs => if isAlphanumeric c then (c :: run) :: runs else [] :: run :: runs

/-- The words of a name. -/
def words (cs : List Char) : List (List Char) :=
  (alphanumericRuns cs).flatMap (wordsFrom .boundary [])

/-! ### Spelling -/

/-- The capital sigma, whose lower case differs at the end of a word. -/
def capitalSigma : Char := Char.ofNat 0x3A3

/-- The small sigma that ends a word. -/
def finalSigma : Char := Char.ofNat 0x3C2

/-- The word in lower case. -/
def lowerWord : List Char → List Char
  | [] => []
  | [c] => if c = capitalSigma then [finalSigma] else toLower c
  | c :: next :: rest => toLower c ++ lowerWord (next :: rest)

/-- The word with its first character in upper case and the others in lower case. -/
def capitalizedWord : List Char → List Char
  | [] => []
  | c :: cs => toUpper c ++ lowerWord cs

/-- The words of a name as one in lower camel case. -/
def joinCamel : List (List Char) → List Char
  | [] => []
  | word :: rest => lowerWord word ++ rest.flatMap capitalizedWord

/-- The name in lower camel case. -/
def lowerCamel (s : String) : String :=
  String.ofList (joinCamel (words s.toList))

end ProtoTypeScript.Text
