import MemberSpec.Settings.Read

/-!
# Settings as values

Settings as a TOML table: the single values first and then the sections, each with its fields in the
order of the structure.
-/

namespace MemberSpec.Settings

open Toml (Value)

def ofTexts (ss : List String) : Value := .array (ss.map .string)

/-- Settings as a table. -/
def toToml (s : Settings) : Toml.Table :=
  [("version", .integer s.version)]
    ++ (s.workspaceRoot.map fun p => ("workspace_root", Value.string p.text)).toList
    ++ [("debug", .boolean s.debug),
      ("source", .table [("extension", .string s.source.extension)]),
      ("introspection", .table [("classpath", ofTexts (s.introspection.classpath.map Path.text)),
        ("jdk_catalog", .boolean s.introspection.jdkCatalog)]),
      ("nullability", .table [("not_null", ofTexts s.nullability.notNull),
        ("nullable", ofTexts s.nullability.nullable)]),
      ("resolution", .table [("standard_namespace", .string s.resolution.standardNamespace),
        ("package_fallback", .boolean s.resolution.packageFallback)]),
      ("extraction", .table [("parallel_threads", .integer s.extraction.parallelThreads)])]

end MemberSpec.Settings
