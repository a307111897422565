import TokenScope.Browser

/-!
A screen as the text that draws it on a terminal with true colours, and keys as the
bytes such a terminal sends for them.
-/

namespace TokenScope

def Colour.code (ground : Nat) : Option Colour → String
  | none => ";" ++ toString (ground + 9)
  | some .black => ";" ++ toString ground
  | some (.rgb red green blue) =>
      ";" ++ ";".intercalate ([ground + 8, 2, red, green, blue].map toString)

/-- Switches to a style, whatever the style was before. -/
def Style.ansi (style : Style) : String :=
  "\x1b[0" ++ Colour.code 30 style.fore ++ Colour.code 40 style.back ++
    (if style.bold then ";1" else "") ++ (if style.underlined then ";4" else "") ++ "m"

/-- The cells of a row. The cells after a wide cluster are filled by that cluster. -/
def Row.ansi : Row → String
  | [] => ""
  | cell :: rest =>
      let shown := cell.symbol.map fun c => if c.toNat < 0x20 then ' ' else c
      cell.style.ansi ++ String.ofList shown ++
        Row.ansi (rest.drop (clusterWidth cell.symbol - 1))
termination_by row => row.length
decreasing_by
  simp only [List.length_drop, List.length_cons]
  omega

def screenText (rows : List Row) : String :=
  "\x1b[H" ++ "\x1b[0m\r\n".intercalate (rows.map Row.ansi) ++ "\x1b[0m"

def clearText : String := "\x1b[2J\x1b[H"

namespace Key

def ofByte (byte : UInt8) : Key :=
  if byte = 9 then tab
  else if byte = 13 then enter
  else if byte = 8 ∨ byte = 127 then backspace
  else if 32 ≤ byte ∧ byte < 127 then char (Char.ofNat byte.toNat)
  else other

def ofEscaped (byte : UInt8) : Key :=
  match Char.ofNat byte.toNat with
  | 'A' => up
  | 'B' => down
  | 'C' => right
  | 'D' => left
  | _ => other

end Key
end TokenScope
