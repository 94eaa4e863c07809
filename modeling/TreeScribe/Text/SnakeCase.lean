import TreeScribe.Text.Lowercase
import TreeScribe.Text.Uppercase

/-!
# Snake case

A name in camel case becomes lower-case words between underscores.  A word begins at an uppercase
character behind a lowercase one or a digit, and at the last uppercase character of a run when a
lowercase one follows.  Underscores of the name stay.
-/

namespace TreeScribe.SnakeCase

open TreeScribe.Text

/-- Whether a word begins at `c`, which stands behind `previous?` and before `rest`. -/
def startsWord (previous? : Option Char) (c : Char) (rest : List Char) : Bool :=
  isUppercase c &&
    match previous? with
    | none => false
    | some p =>
      isLowercase p || p.isDigit || (isUppercase p && (rest.head?.map isLowercase).getD false)

/-- The snake case of a text that stands behind `previous?`. -/
def after (previous? : Option Char) : List Char → List Char
  | [] => []
  | c :: rest =>
    (if startsWord previous? c rest then ['_'] else []) ++ toLowercase c ++ after (some c) rest

end TreeScribe.SnakeCase

namespace TreeScribe

/-- The snake case of a name. -/
def snakeCase (name : List Char) : List Char := SnakeCase.after none name

end TreeScribe
