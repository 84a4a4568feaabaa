import MemberSpec.FileTree
import MemberSpec.Source.Declared

/-!
# Source files

The declarations of a source text, with faults reported for the file that the text is in.
-/

namespace MemberSpec.Source

/-- What is said about a fault at a place. -/
def Place.faultText (p : Place) : String := s!"syntax error at line {p.line}, column {p.column}"

/-- The declarations of the text of a file. -/
def Unit.parse (path : Path) (source : String) : Except SourceError Unit :=
  match parseTree source.toList with
  | .ok tree => .ok (ofTree tree)
  | .error place => .error (.syntaxError path place.faultText)

/-- The declarations of a file. -/
def Unit.read (files : FileTree) (path : Path) : Except SourceError Unit :=
  match files.readText path with
  | .ok source => Unit.parse path source
  | .error .notFound => .error (.fileNotFound path)
  | .error fault => .error (.fileRead path fault)

end MemberSpec.Source
