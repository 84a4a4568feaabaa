/-!
# Exception types of the platform

The common exceptions and errors of the Java platform. Their class files are in no directory of a
project, so names in this catalogue count as classes without one.
-/

namespace MemberSpec.Catalog

/-- Exception types of one package. -/
structure Group where
  package : String
  names : List String

/-- The catalogue by package. -/
def groups : List Group :=
  [⟨"java.lang",
     ["ArithmeticException", "ArrayIndexOutOfBoundsException", "ArrayStoreException",
      "AssertionError", "ClassCastException", "ClassNotFoundException",
      "CloneNotSupportedException", "EnumConstantNotPresentException", "Error", "Exception",
      "IllegalAccessException", "IllegalArgumentException", "IllegalCallerException",
      "IllegalMonitorStateException", "IllegalStateException", "IndexOutOfBoundsException",
      "InstantiationException", "InterruptedException", "LinkageError",
      "NegativeArraySizeException", "NoSuchFieldException", "NoSuchMethodException",
      "NullPointerException", "NumberFormatException", "OutOfMemoryError",
      "ReflectiveOperationException", "RuntimeException", "SecurityException",
      "StackOverflowError", "StringIndexOutOfBoundsException", "Throwable",
      "TypeNotPresentException", "UnsupportedOperationException", "VirtualMachineError"]⟩,
   ⟨"java.io",
     ["CharConversionException", "EOFException", "FileNotFoundException", "IOException",
      "InterruptedIOException", "InvalidObjectException", "NotSerializableException",
      "ObjectStreamException", "UncheckedIOException", "UnsupportedEncodingException",
      "UTFDataFormatException"]⟩,
   ⟨"java.nio",
     ["BufferOverflowException", "BufferUnderflowException", "ReadOnlyBufferException"]⟩,
   ⟨"java.nio.charset",
     ["CharacterCodingException"]⟩,
   ⟨"java.nio.file",
     ["NoSuchFileException"]⟩,
   ⟨"java.util",
     ["ConcurrentModificationException", "EmptyStackException", "IllegalFormatException",
      "InputMismatchException", "MissingResourceException", "NoSuchElementException"]⟩,
   ⟨"java.util.concurrent",
     ["CancellationException", "CompletionException", "ExecutionException",
      "RejectedExecutionException", "TimeoutException"]⟩,
   ⟨"java.text",
     ["ParseException"]⟩,
   ⟨"java.net",
     ["MalformedURLException", "URISyntaxException", "UnknownHostException"]⟩,
   ⟨"java.time",
     ["DateTimeException"]⟩,
   ⟨"java.time.format",
     ["DateTimeParseException"]⟩]

/-- The qualified names in a group. -/
def Group.qualified (g : Group) : List String := g.names.map (g.package ++ "." ++ ·)

/-- The qualified names of all exception types in the catalogue. -/
def throwables : List String := groups.flatMap Group.qualified

def isThrowable (name : String) : Bool := throwables.contains name

end MemberSpec.Catalog
