import CommandSynthesis.Unicode.Case
import CommandSynthesis.Unicode.Recent

set_option autoImplicit false

/-!
# Lower case

The lower case of a text is taken character by character, with two exceptions of Unicode: the
capital I with a dot becomes two characters, and a capital sigma becomes a final sigma at the end
of a word. The second exception makes lower case depend on what stands around a character.
-/

namespace CommandSynthesis.Text

open Unicode

/-- Whether the first character that is not case-ignorable is cased. -/
def startsCased (text : List Char) : Bool :=
  match text.dropWhile fun c => Recent.caseIgnorable.contains c.toNat with
  | [] => false
  | c :: _ => Recent.cased.contains c.toNat

/-- The lower case of one character, given the text before it in reverse and the text after it. -/
def lowerChar (before : List Char) (c : Char) (after : List Char) : List Char :=
  if c = 'Σ' then
    [if startsCased before && !startsCased after then 'ς' else 'σ']
  else if c = 'İ' then ['i', Char.ofNat 0x307]
  else if c.toNat < 0x80 then [c.toLower]
  else [Char.ofNat (mapCase lowerRuns c.toNat)]

/-- The lower case of a text that stands after the reverse of `before`. -/
def lowerFrom (before : List Char) : List Char → List Char
  | [] => []
  | c :: after => lowerChar before c after ++ lowerFrom (c :: before) after

def lower (text : List Char) : List Char :=
  lowerFrom [] text

end CommandSynthesis.Text
