import DefaultCredentials.Fault
import DefaultCredentials.Json.Reader

/-!
# Decoders of documents

Credential files and token answers are decoded by a decoder that callers may replace.  The label
tells decoders apart; what a decoder raises is up to it.
-/

namespace DefaultCredentials

/-- A way to turn the text of a document into a value. -/
structure Decoder where
  label : String
  decode : String → Except Raised Value

namespace Decoder

def json : Decoder where
  label := "json"
  decode := fun s => (Json.read s).mapError fun r => .trouble (.json r)

/-- The decoder that gives one value whatever the text. -/
def constant (label : String) (v : Value) : Decoder where
  label := label
  decode := fun _ => .ok v

/-- The decoder that refuses every text. -/
def refusing (label : String) (r : Raised) : Decoder where
  label := label
  decode := fun _ => .error r

/-- The text of octets, which must be UTF-8. -/
def textOf (bytes : List UInt8) : Except Raised String :=
  (Utf8.decode bytes).mapError fun defect => .trouble (.octets defect)

def decodeOctets (d : Decoder) (bytes : List UInt8) : Except Raised Value :=
  (textOf bytes).bind d.decode

theorem json_decodeOctets {bytes : List UInt8} {text : String}
    (ht : Utf8.decode bytes = .ok text) :
    json.decodeOctets bytes = (Json.read text).mapError fun r => .trouble (.json r) := by
  rw [decodeOctets, textOf, ht]
  rfl

end Decoder
end DefaultCredentials
