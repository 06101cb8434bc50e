import CallFlow.Text.Utf8

/-!
# Source text and positions in it

A source is the UTF-8 bytes of a text. Positions are byte offsets; only the line feed ends a line,
and columns count bytes.
-/

namespace CallFlow.Tree

/-- The bytes that the offsets of a syntax tree point into. -/
structure Source where
  /-- The UTF-8 bytes of the text. -/
  bytes : List UInt8
  deriving Repr, DecidableEq

/-- Row and column of an offset, both counted from zero. -/
structure Point where
  /-- Line feeds before the offset. -/
  row : Nat
  /-- Bytes since the last line feed. -/
  column : Nat
  deriving Repr, DecidableEq

namespace Source

/-- The source with the given text. -/
def ofString (text : String) : Source :=
  ⟨Text.Utf8.encode text.toList⟩

/-- The byte that ends a line. -/
def lineFeed : UInt8 := 10

/-- Row and column of an offset. Offsets beyond the end count as the end. -/
def point (src : Source) (offset : Nat) : Point :=
  let before := src.bytes.take offset
  ⟨before.count lineFeed, (before.reverse.takeWhile (· != lineFeed)).length⟩

/-- The bytes from `start` up to, not including, `stop`. -/
def slice (src : Source) (start stop : Nat) : List UInt8 :=
  (src.bytes.drop start).take (stop - start)

/-- The text from `start` up to `stop`; a cut through a character shows as U+FFFD. -/
def text (src : Source) (start stop : Nat) : String :=
  String.ofList (Text.Utf8.decodeLossy (src.slice start stop))

end Source

end CallFlow.Tree
