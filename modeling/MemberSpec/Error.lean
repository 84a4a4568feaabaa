import MemberSpec.ClassFile.Reader
import MemberSpec.Path

/-!
# Causes of failure

Every failure names the class, member or file that it is about. The wording of each cause is in its
`message`, the code in `ExtractError.status`, and what a user can do in `ExtractError.suggestions`.
-/

namespace MemberSpec

/-- Why a file cannot be read or written. -/
inductive FileFault where
  | notFound
  | alreadyExists
  | notADirectory
  | isADirectory
  | notText
  | nameTooLong
  | nameWithNul
  | other (text : String)
deriving DecidableEq, Repr

def FileFault.message : FileFault → String
  | notFound => "No such file or directory (os error 2)"
  | alreadyExists => "File exists (os error 17)"
  | notADirectory => "Not a directory (os error 20)"
  | isADirectory => "Is a directory (os error 21)"
  | notText => "stream did not contain valid UTF-8"
  | nameTooLong => "File name too long (os error 36)"
  | nameWithNul => "file name contained an unexpected NUL byte"
  | other text => text

/-- Why a compiled class cannot be looked up. -/
inductive LookupError where
  | classNotFound (name : String)
  | fileRead (path : Path) (fault : FileFault)
  | classFormat (path : Path) (fault : ClassFile.Fault)
deriving DecidableEq, Repr

def LookupError.message : LookupError → String
  | classNotFound name => s!"Class '{name}' not found on the classpath"
  | fileRead path fault => s!"Failed to read class file '{path.text}': " ++ fault.message
  | classFormat path fault => s!"Malformed class file '{path.text}': " ++ fault.message

/-- Why a source file cannot be used. -/
inductive SourceError where
  | fileNotFound (path : Path)
  | fileRead (path : Path) (fault : FileFault)
  | parserInit (language reason : String)
  | syntaxError (path : Path) (reason : String)
deriving DecidableEq, Repr

def SourceError.message : SourceError → String
  | fileNotFound path => s!"Source file '{path.text}' not found"
  | fileRead path fault => s!"Failed to read file '{path.text}': " ++ fault.message
  | parserInit language reason => s!"Failed to initialize {language} parser: {reason}"
  | syntaxError path reason => s!"Failed to parse '{path.text}': {reason}"

/-- Why a documented exception type cannot be resolved. -/
inductive ResolveError where
  | exceptionTypeNotFound (name : String)
deriving DecidableEq, Repr

def ResolveError.message : ResolveError → String
  | exceptionTypeNotFound name => s!"Exception type '{name}' not found"

/-- Why the members of a class cannot be extracted. -/
inductive ExtractError where
  | classNotFound (className : String) (cause : LookupError)
  | fileNotFound (className : String) (path : Path)
  | sourceParse (className : String) (cause : SourceError)
  | declarationNotFound (name : String) (path : Path)
  | introspection (className : String) (cause : LookupError)
  | structuralMismatch (className : String) (introspected declared : Nat)
  | memberNotFound (className signature : String)
  | ambiguousMember (className signature : String) (candidates : Nat)
  | parameterCountMismatch (className member : String) (declared introspected : Nat)
  | unresolvedException (className member name : String)
deriving DecidableEq, Repr

namespace ExtractError

def message : ExtractError → String
  | classNotFound className cause =>
    s!"Class '{className}' could not be loaded: " ++ cause.message
  | fileNotFound className path =>
    s!"Source file for class '{className}' not found at '{path.text}'"
  | sourceParse className cause =>
    s!"Failed to parse source of class '{className}': " ++ cause.message
  | declarationNotFound name path =>
    s!"No top-level class or interface named '{name}' in '{path.text}'"
  | introspection className cause =>
    s!"Failed to read members of class '{className}': " ++ cause.message
  | structuralMismatch className introspected declared =>
    s!"Class '{className}' has {introspected} non-private executables in compiled form but " ++
      s!"{declared} in source"
  | memberNotFound className signature =>
    s!"Cannot find compiled member corresponding to {signature} in class '{className}'"
  | ambiguousMember className signature candidates =>
    s!"Found {candidates} compiled members corresponding to {signature} in class '{className}'"
  | parameterCountMismatch className member declared introspected =>
    s!"Member {member} of class '{className}' declares {declared} parameters in source but " ++
      s!"{introspected} in compiled form"
  | unresolvedException className member name =>
    s!"Cannot resolve exception type '{name}' documented on {member} in class '{className}'"

/-- A stable code of the cause. -/
def status : ExtractError → String
  | classNotFound .. => "CLASS_NOT_FOUND"
  | fileNotFound .. => "FILE_NOT_FOUND"
  | sourceParse .. => "PARSE_ERROR"
  | declarationNotFound .. => "CLASS_DECLARATION_NOT_FOUND"
  | introspection .. => "INTROSPECTION_ERROR"
  | structuralMismatch .. => "STRUCTURAL_MISMATCH"
  | memberNotFound .. => "MEMBER_NOT_FOUND"
  | ambiguousMember .. => "AMBIGUOUS_MEMBER"
  | parameterCountMismatch .. => "PARAMETER_COUNT_MISMATCH"
  | unresolvedException .. => "UNRESOLVED_EXCEPTION_TYPE"

/-- What a user can do about the cause. -/
def suggestions : ExtractError → List String
  | classNotFound .. =>
    ["Check that the compiled classes directory is on the classpath (--classpath)",
     "Make sure the project was compiled after the last source change"]
  | fileNotFound .. =>
    ["Check that --source points at the source root, not the package directory",
     "Nested classes are not supported; pass the top-level class name"]
  | structuralMismatch .. | memberNotFound .. =>
    ["Recompile the class; the compiled form may be out of date with the source",
     "Check the source file for syntax errors that hide members from the parser"]
  | ambiguousMember .. =>
    ["Overloads that differ only in generic type arguments cannot be told apart"]
  | unresolvedException .. =>
    ["Import the exception type or use its fully qualified name in the @throws tag",
     "Add the library defining the exception to the classpath",
     "Enable resolution.package_fallback to also search the declaring package"]
  | _ => []

end ExtractError

end MemberSpec
