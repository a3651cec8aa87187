import Ipbench.Controller.Unmarshall

namespace Ipbench
namespace Controller

open Foundation

/-!
# The end of the result loop

`unmarshall` reads until it has exactly as many bytes as the client announced.
It has no way out when the stream ends first, and it asks for a negative number
of bytes when more have arrived than were announced.  A stream may be anything
here: only the two lines that the first calls of `recv` find decide what the
loop waits for.
-/

/-- What follows the status line after two calls of `recv`. -/
def initialContent (socket : Socket) : List UInt8 :=
  let buffer := (socket.recv 128).1
  sliceFrom (find '\n' (decodeUtf8 buffer) + 1) buffer ++ ((socket.recv 128).2.recv 128).1

/-- The length that the line at the start of the content announces. -/
def announcedLength (tables : CharTables) (content : List UInt8) : Option Int :=
  let clenline := decodeAscii content
  (tables.matchNumber "Content-length: ".toList (sliceTo (find '\n' clenline) clenline)).bind
    tables.int

section Loop

variable {valid : Bool} {socket : Socket} {length : Int} {clientData : List UInt8}

end Loop

/-! ## The function -/

section Stream

variable {tables : CharTables} {socket : Socket}

end Stream

end Controller
end Ipbench
