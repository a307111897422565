import TokenScope.Text.Joining

/-!
What a reader takes for one character: a letter with its marks, a syllable block, a
flag, pictures joined to one. A text is divided from the left; what may still join
the open cluster depends on how that ends and on nothing before it.
-/

namespace TokenScope

/-- Characters that are shown together. -/
abbrev Cluster := List Char

/-- How an open cluster ends, as far as it matters to what follows. -/
inductive Ending where
  | carriageReturn
  /-- Nothing joins. -/
  | closed
  | prepended
  /-- The last part of a syllable block so far. -/
  | leading | vowel | trailing
  /-- One letter of a flag that lacks the other. -/
  | regional
  /-- A picture, perhaps extended, and then perhaps with a joiner. -/
  | picture | joinedPicture
  /-- A consonant, perhaps extended, without or with a linker. -/
  | consonant | linkedConsonant
  /-- Only extenders join. -/
  | plain
deriving DecidableEq

namespace Ending

/-- After a character that does not depend on what is before it. -/
def of : Joining → Ending
  | .carriageReturn => carriageReturn
  | .lineFeed | .control => closed
  | .prepended => prepended
  | .leading => leading
  | .vowel | .openSyllable => vowel
  | .trailing | .closedSyllable => trailing
  | .regional => regional
  | .picture => picture
  | .consonant => consonant
  | .extender | .linker | .joiner | .nonJoiner | .spacingMark | .plain => plain

/-- A character of the class belongs to the cluster. -/
def joins : Ending → Joining → Bool
  | carriageReturn, .lineFeed => true
  | carriageReturn, _ | closed, _ => false
  | _, .carriageReturn | _, .lineFeed | _, .control => false
  | _, .extender | _, .linker | _, .joiner | _, .nonJoiner | _, .spacingMark => true
  | prepended, _ => true
  | leading, .leading | leading, .vowel | leading, .openSyllable | leading, .closedSyllable => true
  | vowel, .vowel | vowel, .trailing | trailing, .trailing => true
  | regional, .regional => true
  | joinedPicture, .picture => true
  | linkedConsonant, .consonant => true
  | _, _ => false

/-- The ending once a character of the class has joined. -/
def next : Ending → Joining → Ending
  | picture, .extender | picture, .linker | picture, .nonJoiner => picture
  | picture, .joiner => joinedPicture
  | consonant, .extender | consonant, .joiner => consonant
  | consonant, .linker => linkedConsonant
  | linkedConsonant, .extender | linkedConsonant, .joiner | linkedConsonant, .linker =>
      linkedConsonant
  | regional, .regional => plain
  | _, joining => of joining

end Ending

/-- The clusters of a text after an open one, which is held last character first. -/
def clustersFrom (ending : Ending) (held : List Char) : List Char → List Cluster
  | [] => [held.reverse]
  | c :: rest =>
      let joining := Joining.of c
      if ending.joins joining then clustersFrom (ending.next joining) (c :: held) rest
      else held.reverse :: clustersFrom (.of joining) [c] rest

def clusters : List Char → List Cluster
  | [] => []
  | c :: rest => clustersFrom (.of (.of c)) [c] rest

end TokenScope
