import PageComposer.Expansion

/-!
# Composer

Pages and the registry that they are composed from. A page is composed by name, or from a text given
with it.
-/

namespace PageComposer

structure Composer where
  registry : Registry
  limit : Int
  pages : OrderedMap Text
  deriving DecidableEq

inductive CompositionFault where
  | noPage (name : Option Text)
  | expansion (fault : ExpansionFault)
  deriving DecidableEq

def CompositionFault.toFailure : CompositionFault → Failure
  | noPage name => .fault (.pageNotFound ((name.map .text).getD .nothing))
  | expansion fault => fault.toFailure

namespace Composer

def defaultLimit : Int := 10

/-- How many expansions fit inside the outermost one. It is an approximation, since the stack of the caller counts as
well. -/
def stackRoom : Nat := 960

def new (registry : Registry) (limit : Int) : Composer := ⟨registry, limit, .empty⟩

def addPage (composer : Composer) (name body : Text) : Composer :=
  { composer with pages := composer.pages.assign name body }

def pageRecord (name : Text) : Record := ⟨.debug, "Loaded page: ".toList ++ name⟩

def pageNames (composer : Composer) : List Text := composer.pages.keys

def body? (composer : Composer) (name : Option Text) (given : Option Text) : Option Text :=
  given <|> (name.bind composer.pages.find?)

def compose (composer : Composer) (stack : Nat) (name : Option Text) (given : Option Text) :
    List Event × Except CompositionFault Text :=
  match composer.body? name given with
  | none => ([], .error (.noPage name))
  | some body =>
    let result := expand composer.registry composer.limit stack ⟨name.getD [], 0, []⟩ body
    (result.trace, result.outcome.mapError .expansion)

end Composer
end PageComposer
