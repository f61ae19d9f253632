/-!
# Failures

Why a run over a project fails. Every failure ends the run; a document may have been changed in part
by then, except after a failure to load a collaborator, which comes before anything is touched.
-/

namespace MarkupIslands.Island

/-- The causes of a failed run. -/
inductive Failure
  | parserLoad (reason : String)
  | serializerLoad (format reason : String)
  | parse (reason : String)
  | serialize (reason : String)
  | invalidNode (component message : String)
  | invalidDocument (reason : String)
deriving DecidableEq, Repr

namespace Failure

/-- The code by which a host tells failures apart. -/
def code : Failure → String
  | .parserLoad _ => "E_LOAD_PARSER"
  | .serializerLoad .. => "E_LOAD_SERIALIZER"
  | .parse _ => "E_PARSE"
  | .serialize _ => "E_SERIALIZE"
  | .invalidNode .. => "E_INVALID_NODE"
  | .invalidDocument _ => "E_INVALID_DOCUMENT"

def message : Failure → String
  | .parserLoad reason => "failed to load markup parser: " ++ reason
  | .serializerLoad format reason => "failed to load serializer for `" ++ format ++ "`: " ++ reason
  | .parse reason => "failed to parse embedded markup: " ++ reason
  | .serialize reason => "failed to serialize embedded markup: " ++ reason
  | .invalidNode component message =>
    "unexpected node shape in component `" ++ component ++ "`: " ++ message
  | .invalidDocument reason => "project structure is not valid JSON for this stage: " ++ reason

/-- Failures to load a collaborator. -/
def isLoadFailure : Failure → Bool
  | .parserLoad _ | .serializerLoad .. => true
  | _ => false

end Failure

end MarkupIslands.Island
