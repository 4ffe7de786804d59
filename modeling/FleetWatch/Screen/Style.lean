/-! # Colours and styles

A style is a change to how text is shown: a colour that it does not give is left as it was, and
what it adds is added to what is there.
-/

namespace FleetWatch

inductive Color where
  | red
  | green
  | yellow
  | blue
  | magenta
  | cyan
  | gray
  | darkGray
  | lightBlue
  | rgb (red green blue : UInt8)
  deriving Repr, DecidableEq, Inhabited

/-- How text is shown; the terminal's own colours stand where none is given. -/
structure Style where
  fore : Option Color := none
  back : Option Color := none
  bold : Bool := false
  dim : Bool := false
  deriving Repr, DecidableEq, Inhabited

namespace Style

/-- The terminal's own way. -/
def plain : Style := {}

def inked (color : Color) : Style := { fore := some color }

def boldIn (color : Color) : Style := { fore := some color, bold := true }

def strong : Style := { bold := true }

def faint : Style := { dim := true }

/-- One style with another one put over it. -/
def patch (lower upper : Style) : Style where
  fore := upper.fore <|> lower.fore
  back := upper.back <|> lower.back
  bold := lower.bold || upper.bold
  dim := lower.dim || upper.dim

end Style

end FleetWatch
