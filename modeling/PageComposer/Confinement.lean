import PageComposer.Workspace

/-!
# Confinement

A path that comes from outside is resolved against a base directory and refused if it leaves the base.
-/

namespace PageComposer

/-- Where a path given by a user lies, seen from a base: at the base or below it. -/
def confine (here : Location) (base : Path) (user : Text) : Except Failure Location :=
  if '\x00' ∈ base.toText ∨ '\x00' ∈ user then .error (.defect .embeddedNull)
  else
    let top := base.resolve here
    let location := (base.append (Path.ofText user)).resolve here
    if top.isPrefixOf location then .ok location else .error (.fault (.invalidPath user))

end PageComposer
