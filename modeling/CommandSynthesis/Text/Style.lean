import CommandSynthesis.Decimal.Digits

set_option autoImplicit false

/-!
# Styles

Colours and weights of text on a terminal: a code that turns a style on and one that turns it off,
each between an escape character with a bracket and an `m`.
-/

namespace CommandSynthesis.Text

structure Style where
  on : Nat
  off : Nat
  deriving DecidableEq, Repr

namespace Style

def bold : Style := ⟨1, 0⟩
def dimmed : Style := ⟨2, 0⟩
def yellow : Style := ⟨33, 39⟩
def cyan : Style := ⟨36, 39⟩
def brightRed : Style := ⟨91, 39⟩
def brightGreen : Style := ⟨92, 39⟩

/-- What a terminal takes as a change of style. -/
def code (number : Nat) : String :=
  "\x1b[" ++ Decimal.ofNat number ++ "m"

def paint (style : Style) (text : String) : String :=
  code style.on ++ text ++ code style.off

end Style

/-- A text with blanks after it up to a width. -/
def padRight (width : Nat) (text : String) : String :=
  text ++ String.ofList (List.replicate (width - text.length) ' ')

end CommandSynthesis.Text
