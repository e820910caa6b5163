import Verdict.Blob.Format
import Verdict.Condition.Text

/-!
# Conditions in files

What a file holds comes in as bytes, none if the file cannot be read; how bytes get into a file is a
step that answers whether it went well.

* `FileError`: the file cannot be used, or its content is at fault;
* `Condition.ofFile`, `Condition.ofBinaryFile`: the condition that a file holds as text or as a
  blob;
* `Condition.toBinaryFile`: puts the blob of a condition into a file. A condition without a written
  form fails before the file is touched.
-/

namespace Verdict

open Blob (Bytes)

/-- Why a file is of no use. -/
inductive FileError (ε : Type) where
  /-- The file cannot be read or written, or is not text where text was asked for. -/
  | access
  /-- What the file holds, or should hold, is at fault. -/
  | content (error : ε)
  deriving DecidableEq

namespace Condition

variable {P : Type}

/-- The condition that a file holds as text in UTF-8. -/
def ofFile (registry : Registry P) (content : Option Bytes) :
    Except (FileError TextError) (Condition P) :=
  match content.bind Blob.ofUtf8? with
  | none => .error .access
  | some text => (ofText registry text).mapError .content

/-- The condition that a file holds as a blob. -/
def ofBinaryFile (room : Nat) (registry : Registry P) (content : Option Bytes) :
    Outcome (FileError BlobError) (Condition P) :=
  match content with
  | none => .error .access
  | some blob => (ofBytes room registry blob).mapError .content

/-- Puts the blob of a condition into a file; `write` answers whether the bytes got there. -/
def toBinaryFile [LeafCodec P] {m : Type → Type} [Monad m] (write : Bytes → m Bool)
    (c : Condition P) : m (Except (FileError WriteError) Unit) :=
  match c.toBytes with
  | .error e => return .error (.content e)
  | .ok blob => return if ← write blob then .ok () else .error .access

end Condition

end Verdict
