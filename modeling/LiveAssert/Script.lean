import LiveAssert.Documents

namespace LiveAssert

/-- A token that cancels what it is given to. The child of another token is cancelled with it. -/
structure Token where
  isChild : Bool
  cancelled : Bool
deriving DecidableEq

namespace Token

def cancel (t : Token) : Token := { t with cancelled := true }

def cancelParent (t : Token) : Token := { t with cancelled := t.cancelled || t.isChild }

end Token

inductive Change
  | set (o : ObjectRef) (document : Json)
  | remove (o : ObjectRef)
  | cancel
  | cancelParent

namespace Change

def onDocuments (ds : Documents) : Change → Documents
  | .set o document => ds.set o document
  | .remove o => ds.remove o
  | _ => ds

def onToken (t : Token) : Change → Token
  | .cancel => t.cancel
  | .cancelParent => t.cancelParent
  | _ => t

end Change

structure Event where
  time : Nat
  change : Change

abbrev Script := List Event

namespace Script

def happened (script : Script) (time : Nat) : List Change :=
  (script.filter (·.time ≤ time)).map (·.change)

def documents (script : Script) (ds : Documents) (time : Nat) : Documents :=
  (script.happened time).foldl Change.onDocuments ds

def token (script : Script) (t : Token) (time : Nat) : Token :=
  (script.happened time).foldl Change.onToken t

def cancelAt (script : Script) (t : Token) : Option Nat :=
  if t.cancelled then some 0
  else ((script.filter fun e => (e.change.onToken t).cancelled).map (·.time)).min?

end Script

end LiveAssert
