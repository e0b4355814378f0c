import TypedMessages.Types.Basic

/-!
# Built-in types

The types that a batch can use without declaring them.
-/

namespace TypedMessages

/-- The constructors of most exceptions: all but the one that takes the cause first. -/
def usualConstructors : List ConstructorShape :=
  [.default, .string, .throwable, .stringThrowable]

def builtinTypes : List TypeDeclaration :=
  [⟨"java.lang.Object", [], []⟩,
   ⟨"java.lang.String", ["java.lang.Object", "java.lang.CharSequence"], []⟩,
   ⟨"java.lang.Throwable", ["java.lang.Object"], usualConstructors⟩,
   ⟨"java.lang.Exception", ["java.lang.Throwable"], usualConstructors⟩,
   ⟨"java.lang.Error", ["java.lang.Throwable"], usualConstructors⟩,
   ⟨"java.lang.RuntimeException", ["java.lang.Exception"], usualConstructors⟩,
   ⟨"java.lang.IllegalArgumentException", ["java.lang.RuntimeException"], usualConstructors⟩,
   ⟨"java.lang.IllegalStateException", ["java.lang.RuntimeException"], usualConstructors⟩,
   ⟨"java.lang.UnsupportedOperationException", ["java.lang.RuntimeException"], usualConstructors⟩,
   ⟨"java.io.IOException", ["java.lang.Exception"], usualConstructors⟩,
   ⟨"java.io.UncheckedIOException", ["java.lang.RuntimeException"], [.throwable, .stringThrowable]⟩,
   ⟨"java.lang.Number", ["java.lang.Object"], []⟩,
   ⟨"java.math.BigInteger", ["java.lang.Number"], []⟩,
   ⟨"java.math.BigDecimal", ["java.lang.Number"], []⟩,
   ⟨"java.util.Date", ["java.lang.Object"], []⟩,
   ⟨"java.util.Calendar", ["java.lang.Object"], []⟩,
   ⟨"java.time.Instant", ["java.time.temporal.TemporalAccessor"], []⟩,
   ⟨"java.time.LocalDate", ["java.time.temporal.TemporalAccessor"], []⟩,
   ⟨"java.time.LocalDateTime", ["java.time.temporal.TemporalAccessor"], []⟩,
   ⟨"java.time.ZonedDateTime", ["java.time.temporal.TemporalAccessor"], []⟩]

end TypedMessages
