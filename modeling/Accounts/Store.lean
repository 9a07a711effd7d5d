import Accounts.Store.Database
import Accounts.Store.Memory
/-! The store of a running service: in memory or in a database. -/
namespace Accounts
open Time

inductive Store
  | memory (t : Tables)
  | database (c : Connection)

namespace Store

def empty : Store := .memory .empty

def backend : Store → String
  | memory _ => "memory"
  | database _ => "postgres"

def answer (now : Instant) (c : StoreCall) : Store → c.Reply × Store
  | memory t => let (reply, t) := Tables.answer now c t; (reply, .memory t)
  | database d => let (reply, d) := (Database.answer now c).run.run d; (reply, .database d)

end Store
end Accounts
