import Mathlib.Data.List.Basic

/-!
# E2AP data shared by the message handlers

Types ending in `T` are the structures that the ASN.1 compiler generates (`_t`
in the source); a `long` is an `Int`.
-/

namespace OranE2
namespace E2ap

structure RICrequestIDT where
  ricRequestorID : Int
  ricInstanceID : Int
  deriving DecidableEq, Repr

/-- `RICactionType_t`, with the values outside the three known ones. -/
inductive RICactionTypeT where
  | report
  | insert
  | policy
  | unknown (raw : Int)
  deriving DecidableEq, Repr

end E2ap
end OranE2
