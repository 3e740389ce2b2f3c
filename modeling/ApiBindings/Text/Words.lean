set_option autoImplicit false

namespace ApiBindings.Text

def beginsWord (previous : Char) (next : Option Char) : Bool :=
  previous.isLower || previous.isDigit || (previous.isUpper && next.any Char.isLower)

-- Splits the rest of a name; `word` holds the letters of the open word, last
-- letter first.
def wordsFrom : List Char → List Char → List (List Char)
  | [], [] => []
  | word, [] => [word.reverse]
  | [], c :: rest => if c.isAlphanum then wordsFrom [c] rest else wordsFrom [] rest
  | previous :: word, c :: rest =>
    if !c.isAlphanum then (previous :: word).reverse :: wordsFrom [] rest
    else if c.isUpper && beginsWord previous rest.head? then
      (previous :: word).reverse :: wordsFrom [c] rest
    else wordsFrom (c :: previous :: word) rest

def words (name : List Char) : List (List Char) := wordsFrom [] name

def lower (word : List Char) : List Char := word.map Char.toLower
def upper (word : List Char) : List Char := word.map Char.toUpper

def snakeCase (name : List Char) : List Char := ['_'].intercalate ((words name).map lower)

end ApiBindings.Text
