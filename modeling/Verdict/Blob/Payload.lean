import Verdict.Blob.Varint
import Verdict.Document.Nesting

/-!
# The payload of a blob

* `encodeToken`, `decodeToken`: one token -- a number for its kind, then its contents;
* `Payload`: the tokens of a document behind their number and their depth;
* `Payload.encode`, `Payload.decode`: a payload as bytes; bytes behind the last token are left
  alone;
* `Payload.check`: whether the tokens are exactly one element, of the stated number and depth.
-/

namespace Verdict.Blob

/-- The bytes of an attribute. -/
def encodeAttribute (a : Attribute) : Bytes := encodeText a.name ++ encodeText a.value

/-- An attribute. -/
def decodeAttribute (room : Nat) (s : Bytes) : Outcome Unit (Attribute × Bytes) := do
  let (name, rest) ← decodeText room s
  let (value, rest) ← decodeText room rest
  return (⟨name, value⟩, rest)

/-- The bytes of a token. -/
def encodeToken : Token → Bytes
  | .opening name attributes =>
    Varint.encode 0 ++ encodeText name ++ encodeList encodeAttribute attributes
  | .text content => Varint.encode 1 ++ encodeText content
  | .closing => Varint.encode 2

/-- A token. Its kind takes at most four bytes. -/
def decodeToken (room : Nat) (s : Bytes) : Outcome Unit (Token × Bytes) := do
  let (kind, rest) ← Varint.decode 4 s
  match kind with
  | 0 =>
    let (name, rest) ← decodeText room rest
    let (attributes, rest) ← decodeList (decodeAttribute room) rest
    return (.opening name attributes, rest)
  | 1 =>
    let (content, rest) ← decodeText room rest
    return (.text content, rest)
  | 2 => return (.closing, rest)
  | _ => .error ()

/-- The tokens of a document, with their number and their depth as stated beside them. -/
structure Payload where
  tokenCount : Nat
  depth : Nat
  tokens : List Token

/-- What is wrong with a payload. -/
inductive PayloadFault where
  | tokenCount (stated found : Nat)
  | nesting (fault : NestingFault)
  | depth (stated found : Nat)
  deriving DecidableEq

/-- The text of a payload fault. -/
def PayloadFault.message : PayloadFault → String
  | .tokenCount stated found => s!"metadata says {stated} tokens but payload has {found}"
  | .nesting fault => fault.message
  | .depth stated found => s!"metadata says depth {stated} but payload nests {found} levels"

namespace Payload

/-- The payload of a document. The depth of tokens that are not exactly one element is stated as
    zero. -/
def ofTokens (tokens : List Token) : Payload where
  tokenCount := tokens.length
  depth := match measure tokens with
    | .ok depth => depth
    | .error _ => 0
  tokens

/-- The bytes of a payload. -/
def encode (p : Payload) : Bytes :=
  Varint.encode p.tokenCount ++ Varint.encode p.depth ++ encodeList encodeToken p.tokens

/-- A payload. -/
def decode (room : Nat) (s : Bytes) : Outcome Unit (Payload × Bytes) := do
  let (tokenCount, rest) ← Varint.decode 8 s
  let (depth, rest) ← Varint.decode 8 rest
  let (tokens, rest) ← decodeList (decodeToken room) rest
  return (⟨tokenCount, depth, tokens⟩, rest)

/-- The first fault of a payload: its number of tokens, their nesting, its depth. -/
def check (p : Payload) : Except PayloadFault Unit :=
  if p.tokenCount ≠ p.tokens.length then .error (.tokenCount p.tokenCount p.tokens.length)
  else
    match measure p.tokens with
    | .error fault => .error (.nesting fault)
    | .ok depth => if p.depth ≠ depth then .error (.depth p.depth depth) else .ok ()

end Payload

end Verdict.Blob
