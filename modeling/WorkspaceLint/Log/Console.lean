import WorkspaceLint.Log.StyledText

/-!
# Consoles

A console shows messages on the error output. How it does that depends on whether colour and emoji
are wanted and on whether the output is a terminal, and there is one console for each combination of
the three: it is made when it is first asked for.
-/

namespace WorkspaceLint.Log

/-- What a console is made for. -/
structure Console where
  color : Bool
  emoji : Bool
  terminal : Bool
  deriving Repr, DecidableEq, Inhabited

namespace Console

/-- Whether a console shows styles: colour has to be wanted, and the output has to be a terminal. -/
def isStyled (console : Console) : Bool := console.color && console.terminal

/-- The name of the colours that a console uses, if it uses any. -/
def colors (console : Console) : Option String :=
  if console.isStyled then some "truecolor" else none

/-- What a console shows of a text. -/
def display (console : Console) (text : StyledText) : String := text.render console.isStyled

end Console

/-- The consoles made so far, in order. -/
abbrev Consoles := List Console

/-- The place of a console among those made so far, and the consoles made after it was asked for. -/
def Consoles.get (consoles : Consoles) (console : Console) : Nat × Consoles :=
  match consoles.findIdx? (· = console) with
  | some place => (place, consoles)
  | none => (consoles.length, consoles ++ [console])

/-- A symbol where emoji are wanted, else nothing. -/
def emoji (symbol : String) (wanted : Bool) : String := if wanted then symbol else ""

end WorkspaceLint.Log
