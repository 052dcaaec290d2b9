import Mathlib.Tactic
import GuardTime.Services.Notifications

/-! # Accounts of parents

`ParentsService.deleteAccount`. -/

namespace GuardTime.Services.Parents

open GuardTime.Lib.Program GuardTime.Lib.Js GuardTime.Schema GuardTime.Server GuardTime.Prisma

/-- The audit entry of a deletion. -/
def deletionEntry (user : User) (id : String) (now : Time) : AuditLog where
  id := id
  userId := some user.id
  action := "ACCOUNT_DELETION_CONFIRMED"
  entity := "user"
  entityId := some user.id
  details := some (stringify (.obj [("email", .str user.email), ("source", .str "in_app")]))
  ipAddress := none
  createdAt := now

/-- `deleteAccount`. -/
def deleteAccount (userId : String) : Api Unit := do
  let user ← Prog.orThrow (← Prisma.findUnique .user userId) (.notFound "User not found")
  Prisma.transaction do
    let _ ← viaTx (Prisma.create .auditLog (deletionEntry user))
    viaTx (Prisma.delete .user user.id)

end GuardTime.Services.Parents
