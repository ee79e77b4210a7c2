import CallLint.Forest
import CallLint.Token

/-!
# Reading a value

The tokens of a value are taken one by one into a forest that is still being built: the finished
nodes of the innermost open call, and around it the calls that are open, each with the nodes before
it. A `)` closes the innermost open call and is a word where none is open; a call still open at the
end of the text holds everything up to there. So every text has a forest.

* `text_take`: a token adds its own characters to the text built so far.
* `text_parse`: the forest of a text has that text.
-/

namespace CallLint

open Text

/-- A call that is still open: its name, and the nodes before it on its own level, newest first. -/
structure OpenCall where
  name : Text
  before : List Node

/-- A forest that is still being built: the finished nodes on the innermost level, newest first,
and the open calls around it, innermost first. -/
structure Growth where
  level : List Node
  opened : List OpenCall

namespace Growth

/-- Nothing read yet. -/
def empty : Growth := ⟨[], []⟩

/-- Adds a finished node to the innermost level. -/
def push (g : Growth) (n : Node) : Growth := ⟨n :: g.level, g.opened⟩

/-- The forest of a level. -/
def forest (level : List Node) : Forest := Forest.ofNodes level.reverse

/-- Takes in one more token. -/
def take (g : Growth) : Token → Growth
  | .leaf part => g.push (.leaf part)
  | .opening name => ⟨[], ⟨name, g.level⟩ :: g.opened⟩
  | .closing =>
    match g.opened with
    | [] => g.push (.leaf (.word [')']))
    | call :: opened => ⟨.call call.name (forest g.level) true :: call.before, opened⟩

/-- The nodes of the top level, newest first, once every open call has ended with the text. -/
def close (level : List Node) : List OpenCall → List Node
  | [] => level
  | call :: opened => close (.call call.name (forest level) false :: call.before) opened

/-- The finished forest. -/
def finish (g : Growth) : Forest := forest (close g.level g.opened)

/-- The text of the nodes of a level. -/
def levelText (level : List Node) : Text := (forest level).text

@[simp] theorem levelText_nil : levelText [] = [] := rfl

@[simp] theorem text_forest (level : List Node) : (forest level).text = levelText level := rfl

@[simp] theorem levelText_cons (n : Node) (level : List Node) :
    levelText (n :: level) = levelText level ++ n.text := by
  rw [levelText, levelText, forest, forest, Forest.text_ofNodes, Forest.text_ofNodes]
  simp

/-- The text of the open calls, outermost first: what is before each, its name and its `(`. -/
def openedText : List OpenCall → Text
  | [] => []
  | call :: opened => openedText opened ++ levelText call.before ++ call.name ++ ['(']

/-- The text read so far. -/
def text (g : Growth) : Text := openedText g.opened ++ levelText g.level

theorem text_take (g : Growth) (t : Token) : (g.take t).text = g.text ++ t.text := by
  cases t with
  | leaf part => simp [take, push, text, Token.text]
  | opening name => simp [take, text, openedText, Token.text]
  | closing =>
    simp only [take]
    split
    next h => simp [push, text, Token.text, Leaf.text]
    next call opened h => simp [text, h, openedText, Token.text]

theorem levelText_close (level : List Node) (opened : List OpenCall) :
    levelText (close level opened) = openedText opened ++ levelText level := by
  induction opened generalizing level with
  | nil => simp [close, openedText]
  | cons call opened ih =>
    rw [close, ih]
    simp [openedText]

theorem text_finish (g : Growth) : g.finish.text = g.text := levelText_close g.level g.opened

theorem text_foldl_take (ts : List Token) (g : Growth) :
    (ts.foldl take g).text = g.text ++ (ts.map Token.text).flatten := by
  induction ts generalizing g with
  | nil => simp
  | cons t ts ih => simp [ih, text_take]

end Growth

namespace Forest

/-- The forest of a sequence of tokens. -/
def ofTokens (ts : List Token) : Forest := (ts.foldl Growth.take Growth.empty).finish

/-- The forest of a value. -/
def parse (t : Text) : Forest := ofTokens (Token.scan t)

/-- Reading loses nothing: the forest of a text has that text. -/
theorem text_parse (t : Text) : (parse t).text = t := by
  rw [parse, ofTokens, Growth.text_finish, Growth.text_foldl_take, Token.flatten_scan]
  rfl

end Forest

end CallLint
