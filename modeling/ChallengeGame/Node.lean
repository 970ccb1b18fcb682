import ChallengeGame.Document
import ChallengeGame.Failure

/-!
# Replies of a node

A node answers a request with a document, refuses it with a code and a message, or
cannot be reached. A document of the wrong form is as good as no answer.
-/

namespace ChallengeGame.Node

inductive Fault where
  | refused (code : Int) (message : String)
  | unreachable (text : String)
  | mistyped
deriving DecidableEq

namespace Fault

def failure : Fault → Failure
  | refused code message => ⟨"(code: " ++ toString code ++ ", message: " ++ message ++ ")", []⟩
  | unreachable text => ⟨text, []⟩
  | mistyped => ⟨"unexpected form of a result", []⟩

end Fault

inductive Reply where
  | result (document : Document)
  | fault (fault : Fault)

/-- The value that a reply holds, if it has the right form. -/
def Reply.read {α : Type} (form : Document → Option α) : Reply → Except Fault α
  | .result document =>
    match form document with
    | some value => .ok value
    | none => .error .mistyped
  | .fault found => .error found

/-- What is asked of a node: a method and its parameters. -/
structure Request where
  method : String
  parameters : List Document

end ChallengeGame.Node
