/-!
# Refused finder names

Why a name could not be read as a finder.  Both causes are faults of the name.
-/

namespace QueryByName.Finder

/-- The cause for which a name was refused. -/
inductive Refusal where
  /-- The lead stands in the name again after its beginning. -/
  | repeatedLead (finder lead : String)
  /-- What is left of the name begins with no field and no keyword. -/
  | unmatched (finder fragment typeName : String)
deriving DecidableEq

namespace Refusal

def code : Refusal → String
  | repeatedLead .. => "ROOST_INVALID_FINDER"
  | unmatched .. => "ROOST_UNMATCHED_TOKEN"

def message : Refusal → String
  | repeatedLead finder lead =>
    "dynamic finder definition `" ++ finder ++ "` is invalid: `" ++ lead
      ++ "` occurs more than once"
  | unmatched finder fragment typeName =>
    "dynamic finder `" ++ finder ++ "` in " ++ typeName ++ ".java is unable to match `"
      ++ fragment ++ "` to a field or keyword"

end Refusal

end QueryByName.Finder
