import TokenScope.Lexer

/-!
What a path can name, and the text found there. Only a file whose bytes are valid
UTF-8 has a text; nothing at its start is stripped.
-/

namespace TokenScope

inductive Entry where
  | missing
  | directory
  | file (bytes : ByteArray)

inductive ReadError where
  | notFound
  | isDirectory
  | notText
deriving DecidableEq

/-- The name of the kind of error. -/
def ReadError.kindName : ReadError → String
  | notFound => "NotFound"
  | isDirectory => "IsADirectory"
  | notText => "InvalidData"

/-- A failed system call is told with its number, anything else without. -/
def ReadError.message : ReadError → String
  | notFound => "Os \x7b code: 2, kind: NotFound, message: \"No such file or directory\" \x7d"
  | isDirectory => "Os \x7b code: 21, kind: IsADirectory, message: \"Is a directory\" \x7d"
  | notText =>
      "Error \x7b kind: InvalidData, message: \"stream did not contain valid UTF-8\" \x7d"

namespace Entry

def isMissing : Entry → Bool
  | missing => true
  | directory | file _ => false

def text : Entry → Except ReadError String
  | missing => .error .notFound
  | directory => .error .isDirectory
  | file bytes =>
      match String.fromUTF8? bytes with
      | some text => .ok text
      | none => .error .notText

/-- A file of UTF-8 has the text it was made from. -/
theorem text_file (source : String) : (file source.toUTF8).text = .ok source := by
  have h : String.fromUTF8? source.toUTF8 = some source := dif_pos source.isValidUTF8
  rw [text, h]

def lexer (entry : Entry) : Except ReadError Lexer :=
  entry.text.map .ofString

end Entry
end TokenScope
