import TodoLedger.Error
import TodoLedger.Mention.Scan

/-!
# From handles to users

A directory knows the users behind handles. It is asked once for all handles of a text, and not at
all for a text without any; handles that it does not know are dropped.
-/

namespace TodoLedger.Mention

/-- The users behind the handles in `mentions`. -/
def resolve (lookup : String → Option UserId) (mentions : Mentions String) : Mentions UserId where
  addressed := ascending (mentions.addressed.filterMap lookup)
  mentioned := ascending (mentions.mentioned.filterMap lookup)

/-- The users to whom a text refers. The directory answers for a list of handles at once. -/
def scanUsers {n : Type → Type} [Monad n] (ignoreCode : Bool)
    (directory : List String → ExceptT Fault n (String → Option UserId)) (text : String) :
    ExceptT Fault n (Mentions UserId) := do
  let handles := scan ignoreCode text
  if handles.isEmpty then return .none
  else
    let lookup ← (directory handles.all).adapt (·.within .resolveHandles)
    return resolve lookup handles

end TodoLedger.Mention
