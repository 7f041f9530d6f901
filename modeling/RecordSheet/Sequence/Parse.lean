import RecordSheet.Failure

/-!
# Sequence/Parse — a text read as a written sequence

`SequenceCodec.split` says where a text fails to be a written sequence; the failure that a reader is
given also holds the whole text.
-/

namespace RecordSheet

namespace SequenceCodec

/-- **The tokens of a text that is a written sequence.** -/
def parse (c : SequenceCodec) (text : String) : Except Failure (List String) :=
  (c.split text).mapError (.sequence text)

/-- The number of tokens of a text that is a written sequence. -/
def parseLength (c : SequenceCodec) (text : String) : Except Failure Nat :=
  (c.length text).mapError (.sequence text)

end SequenceCodec

end RecordSheet
