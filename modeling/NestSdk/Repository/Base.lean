import NestSdk.Repository.TypeOrm

/-!
# `Repository.Base` — the criteria operations of `BaseRepository`

Each method is the TypeORM call it makes: its `where` scoped to the tenant, its values stripped of managed
columns. Relations and the transaction's manager are left out. `saveOne` and `saveMany` are in
`Repository.Save`, because they carry no criteria.
-/

namespace NestSdk
namespace Repository

variable {V O : Type} [DecidableEq V]

/-- `{ id: dto.id }`. -/
def byId (id : V) : Where V := .one (AList.singleton "id" (equals id))

def findOneById (tenantId id : V) (withDeleted : Bool) : Request V O :=
  .findOne (scopeWhereToTenant tenantId (byId id)) none withDeleted

def findOne (tenantId : V) (criteria : Where V) (order : Option O) (withDeleted : Bool) : Request V O :=
  .findOne (scopeWhereToTenant tenantId criteria) order withDeleted

def findMany (tenantId : V) (criteria : Where V) (options : FindOptions O) (withDeleted : Bool) :
    Request V O :=
  .find (scopeWhereToTenant tenantId criteria) options withDeleted

def findAndCount (tenantId : V) (criteria : Where V) (options : FindOptions O) (withDeleted : Bool) :
    Request V O :=
  .findAndCount (scopeWhereToTenant tenantId criteria) options withDeleted

def count (tenantId : V) (criteria : Where V) (withDeleted : Bool) : Request V O :=
  .count (scopeWhereToTenant tenantId criteria) withDeleted

def exists_ (tenantId : V) (criteria : Where V) (withDeleted : Bool) : Request V O :=
  .exists_ (scopeWhereToTenant tenantId criteria) withDeleted

def updateOneById (tenantId id : V) (values : Values V) : Request V O :=
  .update (scopeWhereToTenant tenantId (byId id)) (stripManagedColumns values)

def updateBy (tenantId : V) (criteria : Where V) (values : Values V) : Request V O :=
  .update (scopeWhereToTenant tenantId criteria) (stripManagedColumns values)

def softDeleteOneById (tenantId id : V) : Request V O :=
  .softDelete (scopeWhereToTenant tenantId (byId id))

def restoreOneById (tenantId id : V) : Request V O :=
  .restore (scopeWhereToTenant tenantId (byId id))

/-- A criteria operation with its arguments, the tenant's id apart. -/
inductive Call (V O : Type)
  | findOneById (id : V) (withDeleted : Bool)
  | findOne (criteria : Where V) (order : Option O) (withDeleted : Bool)
  | findMany (criteria : Where V) (options : FindOptions O) (withDeleted : Bool)
  | findAndCount (criteria : Where V) (options : FindOptions O) (withDeleted : Bool)
  | count (criteria : Where V) (withDeleted : Bool)
  | exists_ (criteria : Where V) (withDeleted : Bool)
  | updateOneById (id : V) (values : Values V)
  | updateBy (criteria : Where V) (values : Values V)
  | softDeleteOneById (id : V)
  | restoreOneById (id : V)

/-- The TypeORM call an operation makes for a tenant. -/
def Call.request (tenantId : V) : Call V O → Request V O
  | .findOneById id withDeleted => Repository.findOneById tenantId id withDeleted
  | .findOne criteria order withDeleted => Repository.findOne tenantId criteria order withDeleted
  | .findMany criteria options withDeleted => Repository.findMany tenantId criteria options withDeleted
  | .findAndCount criteria options withDeleted =>
      Repository.findAndCount tenantId criteria options withDeleted
  | .count criteria withDeleted => Repository.count tenantId criteria withDeleted
  | .exists_ criteria withDeleted => Repository.exists_ tenantId criteria withDeleted
  | .updateOneById id values => Repository.updateOneById tenantId id values
  | .updateBy criteria values => Repository.updateBy tenantId criteria values
  | .softDeleteOneById id => Repository.softDeleteOneById tenantId id
  | .restoreOneById id => Repository.restoreOneById tenantId id

/-- The `where` an operation was given. -/
def Call.criteria : Call V O → Where V
  | .findOneById id _ | .updateOneById id _ | .softDeleteOneById id | .restoreOneById id => byId id
  | .findOne criteria _ _ | .findMany criteria _ _ | .findAndCount criteria _ _ | .count criteria _
  | .exists_ criteria _ | .updateBy criteria _ => criteria

/-- **Every operation scopes the `where` it was given.** -/
theorem request_criteria (tenantId : V) (call : Call V O) :
    (call.request tenantId).criteria = scopeWhereToTenant tenantId call.criteria := by
  cases call <;> rfl

/-- Carries out operations one after the other, each at the database's time it comes with. -/
def runCalls (orm : TypeOrm V O) (tenantId : V) :
    List (V × Call V O) → EntityTable V → EntityTable V × List (Response V)
  | [], table => (table, [])
  | (now, call) :: calls, table =>
      let result := orm.run now table (call.request tenantId)
      let rest := runCalls orm tenantId calls result.1
      (rest.1, result.2 :: rest.2)

end Repository
end NestSdk
