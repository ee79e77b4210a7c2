import CallLint.Text

/-!
# Leaves

The parts of a style sheet value that hold no other parts: white space, words, strings, comments,
dividers, and addresses written without quotes. A string, comment or address may lack its end, and
then runs to the end of the value.
-/

namespace CallLint

open Text

/-- The two quotes. -/
def isQuote (c : Char) : Bool := c = '\'' || c = '"'

/-- The dividers between the parts of a value. -/
def isDivider (c : Char) : Bool := c = ',' || c = '/' || c = ':' || c = ';'

/-- A character that ends a word. -/
def endsWord (c : Char) : Bool :=
  isBlank c || isQuote c || isDivider c || c = '(' || c = ')'

/-- A part of a value without parts of its own. -/
inductive Leaf where
  /-- A run of white space. -/
  | space (text : Text)
  /-- A word that names no call. -/
  | word (text : Text)
  /-- A quoted string; `closed` tells whether the closing quote is there. -/
  | quoted (mark : Char) (body : Text) (closed : Bool)
  /-- A comment; `closed` tells whether its end is there. -/
  | comment (body : Text) (closed : Bool)
  /-- One of the dividers. -/
  | divider (mark : Char)
  /-- An address without quotes, with its name and parentheses. -/
  | address (name : Text) (body : Text) (closed : Bool)
  deriving DecidableEq, Repr

/-- The characters that a leaf stands for. -/
def Leaf.text : Leaf → Text
  | .space t => t
  | .word t => t
  | .quoted mark body closed => mark :: body ++ (if closed then [mark] else [])
  | .comment body closed => '/' :: '*' :: body ++ (if closed then ['*', '/'] else [])
  | .divider mark => [mark]
  | .address name body closed => name ++ '(' :: body ++ (if closed then [')'] else [])

/-- Whether the end of the leaf is there. -/
def Leaf.closed : Leaf → Bool
  | .quoted _ _ closed => closed
  | .comment _ closed => closed
  | .address _ _ closed => closed
  | _ => true

end CallLint
