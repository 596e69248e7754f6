/-!
Texts in encoded form, UTF-8.
-/
namespace CodeSearch.Text

def encode (cs : List Char) : List UInt8 := cs.flatMap String.utf8EncodeChar

/-- Nothing if the bytes encode no text. -/
def decode? (bytes : List UInt8) : Option (List Char) :=
  (ByteArray.mk bytes.toArray).utf8Decode?.map Array.toList

end CodeSearch.Text
