import CallLint.Text

/-!
# Escapes

A backslash takes the next character with it, so that the pair counts as one unit and the second
character has no meaning of its own. A backslash at the very end of a text stands alone.

* `readUntil_append`: what is read and what is left make up the text.
* `readUntil_stop`: what is left begins with a character that stops the reading.
-/

namespace CallLint.Text

/-- Reads whole units up to the first character outside an escape that satisfies `stop`. That
character, if there is one, begins the rest. -/
def readUntil (stop : Char → Bool) : Text → Text × Text
  | [] => ([], [])
  | '\\' :: c :: t =>
    let rest := readUntil stop t
    ('\\' :: c :: rest.1, rest.2)
  | c :: t =>
    if stop c then ([], c :: t)
    else
      let rest := readUntil stop t
      (c :: rest.1, rest.2)

theorem readUntil_append (stop : Char → Bool) (t : Text) :
    (readUntil stop t).1 ++ (readUntil stop t).2 = t := by
  fun_induction readUntil stop t with
  | case1 => rfl
  | case2 c t rest ih => simpa [rest] using ih
  | case3 c t _ h => simp
  | case4 c t _ h rest ih => simpa [rest] using ih

theorem readUntil_stop (stop : Char → Bool) (t : Text) (c : Char) (rest : Text)
    (h : (readUntil stop t).2 = c :: rest) : stop c = true := by
  fun_induction readUntil stop t with
  | case1 => simp at h
  | case2 d t rest' ih => exact ih h
  | case3 d t _ hd =>
    obtain ⟨rfl, -⟩ := List.cons.inj h
    exact hd
  | case4 d t _ _ rest' ih => exact ih h

end CallLint.Text
