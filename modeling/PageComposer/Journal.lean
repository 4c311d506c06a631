import PageComposer.Text

/-!
# Journal

What the program says about its work: records with a level. A threshold keeps the lower levels out.
-/

namespace PageComposer

inductive Level where
  | debug
  | info
  | warning
  | error
  | critical
  deriving DecidableEq

namespace Level

def rank : Level → Nat
  | debug => 0
  | info => 1
  | warning => 2
  | error => 3
  | critical => 4

def label : Level → Text
  | debug => "DEBUG".toList
  | info => "INFO".toList
  | warning => "WARNING".toList
  | error => "ERROR".toList
  | critical => "CRITICAL".toList

end Level

structure Record where
  level : Level
  message : Text
  deriving DecidableEq

def Record.passes (r : Record) (threshold : Level) : Bool := threshold.rank ≤ r.level.rank

end PageComposer
