import PageComposer.Property
import PageComposer.Tag

/-!
# References

What a tag refers to: the component of a name, with properties for it.
-/

namespace PageComposer

structure Reference where
  name : Text
  props : Properties

namespace Reference

/-- The first word of a tag is the name, the rest assigns properties. -/
def ofTag (tag : Text) : Except NumeralTooLong Reference :=
  let inner := Tag.inner tag
  let name := inner.takeWhile (!Text.isBlank ·)
  let clause := (inner.drop name.length).dropWhile Text.isBlank
  (Property.ofClause clause).map fun props => ⟨name, props⟩

end Reference
end PageComposer
