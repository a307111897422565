import TokenScope.Token

/-!
How characters look. A style may leave a colour to what lies below it; laid over
another style it replaces the colours it has and adds its modifiers.
-/

namespace TokenScope

inductive Colour where
  | black
  | rgb (red green blue : Nat)
deriving DecidableEq

structure Style where
  fore : Option Colour
  back : Option Colour
  bold : Bool
  underlined : Bool
deriving DecidableEq

namespace Style

def plain : Style := ⟨none, none, false, false⟩

def ofFore (colour : Colour) : Style := { plain with fore := some colour }

def ofBack (colour : Colour) : Style := { plain with back := some colour }

def withBack (style : Style) (colour : Colour) : Style := { style with back := some colour }

def emphasised (style : Style) : Style := { style with bold := true }

/-- Fills in a background where there is none. -/
def tinted (style : Style) (colour : Colour) : Style :=
  { style with back := some (style.back.getD colour) }

def laidOver (upper lower : Style) : Style where
  fore := upper.fore <|> lower.fore
  back := upper.back <|> lower.back
  bold := upper.bold || lower.bold
  underlined := upper.underlined || lower.underlined

end Style

namespace Palette

def text : Colour := .rgb 205 214 244
def primary : Colour := .rgb 137 180 250
def secondary : Colour := .rgb 250 179 135
def dim : Colour := .rgb 108 112 134
def success : Colour := .rgb 166 227 161
def error : Colour := .rgb 243 139 168
def reserved : Colour := .rgb 137 180 250
def typeWord : Colour := .rgb 148 226 213
def string : Colour := .rgb 166 227 161
def number : Colour := .rgb 250 179 135
def identifier : Colour := .rgb 205 214 244
def operator : Colour := .rgb 249 226 175
def focusedBorder : Colour := .rgb 249 226 175
def border : Colour := .rgb 108 112 134
def currentLine : Colour := .rgb 50 50 70
def currentToken : Colour := .rgb 88 91 112

end Palette

def borderStyle (focused : Bool) : Style :=
  if focused then (Style.ofFore Palette.focusedBorder).emphasised
  else .ofFore Palette.border

def TokenKind.style : TokenKind → Style
  | .error => { Style.ofFore Palette.error with underlined := true }
  | .wordInt | .wordDouble | .wordBool | .wordGraph => .ofFore Palette.typeWord
  | .wordTrue | .wordFalse | .wordReturn => (Style.ofFore Palette.reserved).emphasised
  | .string => .ofFore Palette.string
  | .integer | .double => .ofFore Palette.number
  | .identifier => .ofFore Palette.identifier
  | .endOfInput => .ofFore Palette.dim
  | .dot | .add | .sub | .mul | .div => .ofFore Palette.operator

end TokenScope
