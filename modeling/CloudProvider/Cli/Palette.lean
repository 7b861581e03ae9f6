/-!
# Colours of a terminal

* `Palette.paint`: a text that stands out.
* `Palette.ofVariables`: whether output is coloured, as the environment and the terminal have it.
-/

namespace CloudProvider.Cli

/-- How a text stands out. -/
inductive Style where
  | bold | heading | alarm | success | mark | notice
  deriving DecidableEq, Repr

/-- The codes of a style: bold is 1, and the colours are 31 to 36. -/
def Style.codes : Style → String
  | .bold => "1"
  | .heading => "1;36"
  | .alarm => "1;31"
  | .success => "1;32"
  | .mark => "32"
  | .notice => "33"

/-- Whether output is coloured. -/
structure Palette where
  coloured : Bool
  deriving DecidableEq, Repr

namespace Palette

/-- What ends a style. -/
def reset : String := "\x1b[0m"

/-- **A text in a style.** Where the text itself ends a style, this one goes on. -/
def paint (p : Palette) (style : Style) (s : String) : String :=
  if p.coloured then
    let start := s!"\x1b[{style.codes}m"
    start ++ s.replace reset (reset ++ start) ++ reset
  else s

/-- **Whether output is coloured**: if `CLICOLOR_FORCE` asks for it, and otherwise on a terminal,
unless one of two variables speaks against it. -/
def ofVariables (lookUp : String → Option String) (isTerminal : Bool) : Palette :=
  let isOn (name : String) : Option Bool := (lookUp name).map (· ≠ "0")
  if isOn "CLICOLOR_FORCE" = some true then ⟨true⟩
  else if (isOn "NO_COLOR").isSome then ⟨false⟩
  else ⟨isTerminal && (isOn "CLICOLOR").getD true⟩

end Palette

end CloudProvider.Cli
