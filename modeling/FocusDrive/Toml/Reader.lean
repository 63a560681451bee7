import FocusDrive.Toml.Value

/-!
# Readers of documents

What the configuration needs of TOML. A reader is asked for the value of a text, and it is asked
about the values that nobody wants: a value can only be passed over if the reader can make something
of it, and a number that no machine word holds may be too much for it.

Which texts are documents and which numbers are too large is the reader's own affair, so everything
about configurations is written for an arbitrary reader. `Toml.Document` gives the one that the
program uses.
-/

namespace FocusDrive.Toml

/-- A reader of documents. -/
class Reader where
  /-- The value that a text stands for, if it is a document. -/
  read? : String → Option Value
  /-- Whether a value that nobody asks for can be passed over. -/
  skips : Value → Bool

/-- The value that the contents of a file stand for. Bytes that are no UTF-8 text are no
document. -/
def Reader.readBytes? [Reader] (contents : ByteArray) : Option Value :=
  String.fromUTF8? contents >>= read?

end FocusDrive.Toml
