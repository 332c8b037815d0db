/-!
# Modes and actions of a search

A search is in one of four modes, two of which end it.  Each action is taken in one mode only, so
that asking for another one is a fault; which of the actions of a mode is taken is left to the
search.
-/

namespace Descent.Search

/-- What a search is doing. -/
inductive Mode where
  /-- Deriving forward. -/
  | normal
  /-- Undoing, until there is another alternative to try. -/
  | backtrack
  /-- Nothing: the tokens were rejected. -/
  | error
  /-- Nothing: the tokens were accepted. -/
  | final
deriving DecidableEq, Repr, Inhabited

namespace Mode

/-- The mode in words. -/
def name : Mode → String
  | .normal => "normal"
  | .backtrack => "backtrack"
  | .error => "error"
  | .final => "final"

/-- Whether a search in this mode is over. -/
def isHalted : Mode → Bool
  | .error | .final => true
  | .normal | .backtrack => false

end Mode

/-- One step of a search. -/
inductive Action where
  /-- Replace the nonterminal at the front by its first alternative. -/
  | expand
  /-- Match the terminal at the front with the next token. -/
  | advance
  /-- Give up on what has been derived and start undoing. -/
  | momentaryInsuccess
  /-- Take back a match. -/
  | back
  /-- Replace an alternative by the next one, or take it back if there is none. -/
  | anotherTry
  /-- Accept the tokens. -/
  | success
deriving DecidableEq, Repr

namespace Action

/-- The action in words. -/
def name : Action → String
  | .expand => "expand"
  | .advance => "advance"
  | .momentaryInsuccess => "momentary insuccess"
  | .back => "back"
  | .anotherTry => "another try"
  | .success => "success"

/-- The mode that the action is taken in. -/
def mode : Action → Mode
  | .back | .anotherTry => .backtrack
  | .expand | .advance | .momentaryInsuccess | .success => .normal

end Action

end Descent.Search
