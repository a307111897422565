/-!
Lines of a text and columns of a fixed width. A line ends at a line feed, and one
carriage return before the line feed belongs to the ending; a text that ends with
its last line feed has no empty line after it.
-/

namespace TokenScope

/-- Drops one carriage return from the end of a line that is held last character first. -/
def dropReturn : List Char → List Char
  | '\r' :: before => before
  | line => line

/-- The lines of a text of which `held` is already read, last character first. -/
def linesAfter (held : List Char) : List Char → List (List Char)
  | [] => if held.isEmpty then [] else [held.reverse]
  | '\n' :: rest => (dropReturn held).reverse :: linesAfter [] rest
  | c :: rest => linesAfter (c :: held) rest

def linesOf (text : String) : List (List Char) := linesAfter [] text.toList

/-- Fills with blanks on the left up to a width. -/
def alignRight (width : Nat) (text : String) : String :=
  String.ofList (List.replicate (width - text.length) ' ') ++ text

/-- Fills with blanks on the right up to a width. -/
def alignLeft (width : Nat) (text : String) : String :=
  text ++ String.ofList (List.replicate (width - text.length) ' ')

end TokenScope
