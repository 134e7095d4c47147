set_option autoImplicit false

/-!
# Names in a template

A name begins with an ASCII letter or an underscore and goes on with letters, digits, underscores,
dots and hyphens. It is always read as far as it goes. A reference is a name between braces.
-/

namespace CommandSynthesis

def isNameStart (c : Char) : Bool :=
  c.isAlpha || c == '_'

/-- Characters that may stand in a name after its first. -/
def isNameChar (c : Char) : Bool :=
  c.isAlphanum || c == '_' || c == '.' || c == '-'

/-- The longest name at the front of a text, if there is one, and what follows it. -/
def takeName? : List Char → Option (List Char × List Char)
  | [] => none
  | c :: rest =>
    if isNameStart c then some (c :: rest.takeWhile isNameChar, rest.dropWhile isNameChar)
    else none

/-- The name of a reference whose opening brace has just been read, and what follows its closing
brace. -/
def takeReference? (text : List Char) : Option (List Char × List Char) :=
  match takeName? text with
  | some (name, '}' :: rest) => some (name, rest)
  | _ => none

theorem append_of_takeName? {text name rest : List Char}
    (taken : takeName? text = some (name, rest)) : text = name ++ rest := by
  cases text with
  | nil => cases taken
  | cons c tail =>
    simp only [takeName?] at taken
    split at taken
    · cases taken
      rw [List.cons_append, List.takeWhile_append_dropWhile]
    · cases taken

theorem append_of_takeReference? {text name rest : List Char}
    (taken : takeReference? text = some (name, rest)) : text = name ++ '}' :: rest := by
  unfold takeReference? at taken
  split at taken
  · next named =>
    cases taken
    exact append_of_takeName? named
  · cases taken

/-- A reference takes at least one character after its opening brace. -/
theorem length_of_takeReference? {text name rest : List Char}
    (taken : takeReference? text = some (name, rest)) : rest.length < text.length := by
  rw [append_of_takeReference? taken, List.length_append, List.length_cons]
  omega

end CommandSynthesis
