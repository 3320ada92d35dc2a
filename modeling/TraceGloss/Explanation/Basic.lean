import TraceGloss.Explanation.Catalog

/-!
# Explanations

A complaint is explained by the first rule of the catalog that applies. A
message that no rule knows explains itself.
-/

namespace TraceGloss

set_option autoImplicit false

def explainBy (rules : List Rule) (complaint : Complaint) : Text :=
  (rules.findSome? fun rule => rule.explain? complaint).getD complaint.message

def Complaint.explanation (complaint : Complaint) : Text :=
  explainBy Catalog.rules complaint

end TraceGloss
