import MemberSpec.ClassPath
import MemberSpec.Extract

/-!
# Settings

What a user can set: how sources are found, where classes are, which annotations tell nullability, how
exception types are resolved and how many classes are worked on at a time. The default for the last is
the number of processors, which is a parameter here.
-/

namespace MemberSpec

namespace Settings

structure SourceSection where
  extension : String
deriving DecidableEq, Repr

structure IntrospectionSection where
  classpath : List Path
  jdkCatalog : Bool
deriving DecidableEq, Repr

structure NullabilitySection where
  notNull : List String
  nullable : List String
deriving DecidableEq, Repr

structure ResolutionSection where
  standardNamespace : String
  packageFallback : Bool
deriving DecidableEq, Repr

structure ExtractionSection where
  parallelThreads : Nat
deriving DecidableEq, Repr

end Settings

/-- All settings. -/
structure Settings where
  version : Nat
  workspaceRoot : Option Path
  debug : Bool
  source : Settings.SourceSection
  introspection : Settings.IntrospectionSection
  nullability : Settings.NullabilitySection
  resolution : Settings.ResolutionSection
  extraction : Settings.ExtractionSection
deriving DecidableEq, Repr

namespace Settings

/-- The settings that hold where a user sets nothing. -/
def default (processors : Nat) : Settings where
  version := 1
  workspaceRoot := none
  debug := false
  source := ⟨"java"⟩
  introspection := ⟨[], true⟩
  nullability := ⟨Nullability.Policy.default.notNull, Nullability.Policy.default.nullable⟩
  resolution := ⟨Resolver.default.standardNamespace, Resolver.default.packageFallback⟩
  extraction := ⟨processors⟩

def policy (s : Settings) : Nullability.Policy := ⟨s.nullability.notNull, s.nullability.nullable⟩

def resolver (s : Settings) : Resolver :=
  ⟨s.resolution.standardNamespace, s.resolution.packageFallback⟩

def classPath (s : Settings) : ClassPath := ⟨s.introspection.classpath, s.introspection.jdkCatalog⟩

/-- An extractor with the given classes for sources in a file tree. -/
def extractorWith {σ : Type} (s : Settings) (files : FileTree) (introspector : Introspector σ) :
    Extractor σ where
  introspector := introspector
  readUnit := Source.Unit.read files
  policy := s.policy
  resolver := s.resolver
  extension := s.source.extension

/-- An extractor with the class path of the settings. -/
def extractor (s : Settings) (files : FileTree) : Extractor ClassCache :=
  s.extractorWith files (s.classPath.introspector files)

end Settings

end MemberSpec
