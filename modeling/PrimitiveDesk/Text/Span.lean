/-!
# Spans

A span is a range of byte offsets in the UTF-8 form of a text. Both ends count as inside, since a
cursor at either end of a node is on that node.
-/

namespace PrimitiveDesk

/-- A range of byte offsets in a source text. -/
structure Span where
  /-- Byte offset of the first byte. -/
  start : Nat
  /-- Byte offset behind the last byte. -/
  stop : Nat
deriving DecidableEq, Repr, Inhabited

namespace Span

/-- The empty span at an offset. -/
def empty (at_ : Nat) : Span := ⟨at_, at_⟩

/-- Number of bytes in the span. -/
def length (s : Span) : Nat := s.stop - s.start

/-- Whether the span holds no byte. -/
def isEmpty (s : Span) : Bool := s.start == s.stop

/-- Whether the offset lies inside the span, both ends included. -/
def contains (s : Span) (offset : Nat) : Bool := s.start ≤ offset && offset ≤ s.stop

/-- The smallest span that covers both spans. -/
def cover (s t : Span) : Span := ⟨min s.start t.start, max s.stop t.stop⟩

end Span

end PrimitiveDesk
