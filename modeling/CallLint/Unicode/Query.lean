import CallLint.Unicode.Age
import CallLint.Unicode.Break

/-!
# Queries for character properties

A set of characters is asked for by one name (of a binary property, a category or a script) or by a
property and one of its values. The properties with values are the category, the script with and
without its extensions, the age, and the three that break a text. No other property answers, and
neither does the category of the surrogates nor a value that stands for the lack of one (no age, no
break).
-/

namespace CallLint.Unicode

/-- A question for a set of characters. -/
inductive Query where
  /-- By one name. -/
  | named (name : Text)
  /-- By a property and its value. -/
  | valued (property value : Text)
  deriving DecidableEq, Repr

/-- The set of a binary property. -/
def binary? (loose : Text) : Option CharSet :=
  composed? composedProperties loose <|> find? listedProperties loose

/-- The set of a general category, of a group of them, or of one of the sets that count as such. -/
def category? (loose : Text) : Option CharSet :=
  if loose = "any".toList then some .all
  else if loose = "assigned".toList then some (Formula.categories ["Cn"]).set.compl
  else if loose = "ascii".toList then some (.range 0 0x7F)
  else
    match categoryGroups.find? fun g => isCalled g.1 loose with
    | some g => some (Formula.categories g.2).set
    | none => find? categories loose

/-- The set of a script. -/
def script? (loose : Text) : Option CharSet := find? scripts loose

/-- The set of a script with the characters used with it. -/
def scriptExtension? (loose : Text) : Option CharSet :=
  find? scriptExtensions loose <|> script? loose

/-- The properties that are asked for with a value: their names, and the sets of their values. -/
def valuedProperties : List (List String × (Text → Option CharSet)) := [
  (["gc", "General_Category"], category?),
  (["sc", "Script"], script?),
  (["scx", "Script_Extensions"], scriptExtension?),
  (["age", "Age"], age?),
  (["GCB", "Grapheme_Cluster_Break"], composed? graphemeBreaks),
  (["WB", "Word_Break"], composed? wordBreaks),
  (["SB", "Sentence_Break"], composed? sentenceBreaks)]

/-- The short names of categories that are also names of other properties; here they name the
categories. -/
def ambiguousNames : List String := ["cf", "sc", "lc"]

/-- The answer to a query, if there is such a set. -/
def Query.answer? : Query → Option CharSet
  | .named name =>
    let loose := looseName name
    let asProperty :=
      if ambiguousNames.any fun n => n.toList = loose then none else binary? loose
    (asProperty <|> category? loose) <|> script? loose
  | .valued property value =>
    (valuedProperties.find? fun p => isCalled p.1 (looseName property)).bind fun p =>
      p.2 (looseName value)

end CallLint.Unicode
