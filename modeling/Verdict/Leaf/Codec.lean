import Verdict.Leaf.Draft

/-!
# Leaves that can be written and read

* `LeafCodec P`: how a leaf of type `P` is written as an element, and how it is read back.
-/

namespace Verdict

/-- A leaf type with a written form: an element named `tag`, whose attributes and body `write`
    makes. `read` gets an element whose opening tag was read and takes its body, but not its end. -/
class LeafCodec (P : Type) where
  tag : P → String
  read : LeafElement → TokenReader LeafError P
  write : P → Writing LeafDraft LeafError Unit

end Verdict
