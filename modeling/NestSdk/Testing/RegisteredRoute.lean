import NestSdk.Auth.PermissionGuard

/-!
# `Testing.RegisteredRoute` — the authorization matrix

`registeredRoutes` walks the module container and reads each route's metadata a second time, beside the guards.
The two readings of `@RequirePermission` differ: the guard takes the handler's list or else the class's, the
matrix lists both. **`matrix_agrees_iff`** says on which routes they come to the same.
-/

namespace NestSdk
namespace Testing

open Js Auth

/-- What is behind a method name of a controller's prototype. A verb is the name of its `RequestMethod`. -/
structure Handler where
  metadata : Metadata
  path : Option Str
  method : Option Str

/-- A controller class. A method name can have nothing behind it. -/
structure Controller where
  metadata : Metadata
  path : Option Str
  methods : List (Option Handler)

/-- The controllers of each module of the container; a wrapper's `metatype` can be missing. -/
abbrev ModulesContainer := List (List (Option Controller))

structure RegisteredRoute where
  signature : Str
  isPublic : Bool
  permissions : List Str

def slash : UInt16 := 0x2F

/-- `.replace(/\/+/g, '/')` -/
def collapseSlashes : Str → Str
  | [] => []
  | u :: units =>
      if u = slash ∧ units.head? = some slash then collapseSlashes units else u :: collapseSlashes units

/-- `.replace(/\/$/, '')` -/
def dropTrailingSlash (s : Str) : Str := if s.getLast? = some slash then s.dropLast else s

/-- The route pushed for a handler with a path. -/
def route (controller : Controller) (handler : Handler) (path : Str) : RegisteredRoute where
  signature :=
    let verb := handler.method.getD (str "GET")
    let pathPrefix := controller.path.getD []
    dropTrailingSlash (collapseSlashes (verb ++ str " /" ++ pathPrefix ++ str "/" ++ path))
  isPublic := handler.metadata.isPublic = some true || controller.metadata.isPublic = some true
  permissions := handler.metadata.requiredPermissions.getD [] ++
    controller.metadata.requiredPermissions.getD []

/-- The routes of one controller. -/
def Controller.routes (controller : Controller) : List RegisteredRoute :=
  controller.methods.flatMap fun method =>
    match method with
    | none => []
    | some handler =>
        match handler.path with
        | none => []
        | some path => [route controller handler path]

/-- Every route an application registers. -/
def registeredRoutes (app : ModulesContainer) : List RegisteredRoute :=
  app.flatMap fun controllers => controllers.flatMap fun metatype =>
    match metatype with
    | none => []
    | some controller => controller.routes

/-- Routes with neither a permission nor `@Public()`. -/
def undeclaredRoutes (routes : List RegisteredRoute) : List Str :=
  (routes.filter fun route => !route.isPublic && route.permissions.length == 0).map
    RegisteredRoute.signature

/-- An application's handler with a path. -/
structure Registers (app : ModulesContainer) (controller : Controller) (handler : Handler) (path : Str) :
    Prop where
  controller_mem : ∃ controllers ∈ app, some controller ∈ controllers
  handler_mem : some handler ∈ controller.methods
  path_eq : handler.path = some path

/-- Nest's context for a request to the route. -/
def Controller.context (controller : Controller) (handler : Handler) : ExecutionContext :=
  ⟨str "http", handler.metadata, controller.metadata⟩

/-! ## The walk -/

variable {app : ModulesContainer} {controller : Controller} {handler : Handler} {path : Str}

/-- **No route is missed.** -/
theorem route_mem_registeredRoutes (h : Registers app controller handler path) :
    route controller handler path ∈ registeredRoutes app := by
  obtain ⟨controllers, hcontrollers, hcontroller⟩ := h.controller_mem
  have hroute : route controller handler path ∈ controller.routes := by
    refine List.mem_flatMap.mpr ⟨some handler, h.handler_mem, ?_⟩
    dsimp only
    rw [h.path_eq]
    exact List.mem_singleton_self _
  exact List.mem_flatMap.mpr ⟨controllers, hcontrollers, List.mem_flatMap.mpr ⟨_, hcontroller, hroute⟩⟩

/-- **No route is made up.** -/
theorem exists_registers {registered : RegisteredRoute} (h : registered ∈ registeredRoutes app) :
    ∃ controller handler path, Registers app controller handler path ∧
      registered = route controller handler path := by
  obtain ⟨controllers, hcontrollers, h⟩ := List.mem_flatMap.mp h
  obtain ⟨metatype, hmetatype, h⟩ := List.mem_flatMap.mp h
  cases metatype with
  | none => exact absurd h List.not_mem_nil
  | some controller =>
      obtain ⟨method, hmethod, h⟩ := List.mem_flatMap.mp h
      cases method with
      | none => exact absurd h List.not_mem_nil
      | some handler =>
          cases hpath : handler.path with
          | none =>
              simp only [hpath] at h
              exact absurd h List.not_mem_nil
          | some path =>
              simp only [hpath] at h
              exact ⟨controller, handler, path, ⟨⟨controllers, hcontrollers, hmetatype⟩, hmethod, hpath⟩,
                List.mem_singleton.mp h⟩

/-- A registered route the list of undeclared ones leaves out lists a permission, if it is not public. -/
theorem permissions_of_declared (h : Registers app controller handler path)
    (hpublic : (route controller handler path).isPublic = false)
    (hdeclared : (route controller handler path).signature ∉ undeclaredRoutes (registeredRoutes app)) :
    (route controller handler path).permissions ≠ [] := by
  intro hnone
  refine hdeclared (List.mem_map.mpr ⟨_, List.mem_filter.mpr ⟨route_mem_registeredRoutes h, ?_⟩, rfl⟩)
  rw [hpublic, hnone]
  rfl

/-- The list and `AuthGuard` agree on which routes are public, as long as nothing but `@Public()` wrote the
    metadata. -/
theorem isPublic_route (hhandler : handler.metadata.isPublic ≠ some false)
    (path : Str) : (route controller handler path).isPublic =
      AuthGuard.isPublic (controller.context handler) := by
  unfold AuthGuard.isPublic
  rw [getAllAndOverride_pair]
  show (decide (handler.metadata.isPublic = some true) || decide (controller.metadata.isPublic = some true)) =
    (handler.metadata.isPublic.or controller.metadata.isPublic).getD false
  rcases hown : handler.metadata.isPublic with _ | _ | _
  · rcases controller.metadata.isPublic with _ | _ | _ <;> rfl
  · exact absurd hown hhandler
  · rfl

/-! ## What the guard demands -/

/-- The permissions every caller let through by the guard holds. -/
def Demands (context : ExecutionContext) : Set Str :=
  {permission | ∀ request requestContext, request.iveriRequestContext = some requestContext →
    (PermissionGuard.canActivate context request).1 = .ok true → permission ∈ requestContext.permissions}

/-- A caller who holds these permissions. -/
def caller (permissions : List Str) : Request :=
  ⟨fun _ => .absent, some ⟨[], none, none, permissions, [], []⟩⟩

/-- **The guard demands what it resolves:** a caller with exactly that is let through. -/
theorem mem_demands {context : ExecutionContext} {permission : Str} :
    permission ∈ Demands context ↔ permission ∈ PermissionGuard.required context := by
  constructor
  · intro h
    apply h (caller (PermissionGuard.required context)) _ rfl
    exact (PermissionGuard.canActivate_some rfl).mpr fun _ hmem => hmem
  · intro h request requestContext hcontext hpass
    exact (PermissionGuard.canActivate_some hcontext).mp hpass permission h

/-- The matrix is right about a route: it lists what the guard demands, and if it counts the route neither
    public nor undeclared, a caller without permissions is refused. -/
def Agrees (app : ModulesContainer) (controller : Controller) (handler : Handler) (path : Str) : Prop :=
  (∀ permission, permission ∈ Demands (controller.context handler) ↔
    permission ∈ (route controller handler path).permissions) ∧
  ((route controller handler path).isPublic = false →
    (route controller handler path).signature ∉ undeclaredRoutes (registeredRoutes app) →
    (PermissionGuard.canActivate (controller.context handler) (caller [])).1 ≠ .ok true)

/-- The handler declares no permissions, or all its class does as well. -/
def Covers (controller : Controller) (handler : Handler) : Prop :=
  handler.metadata.requiredPermissions = none ∨
  ∀ permission ∈ controller.metadata.requiredPermissions.getD [],
    permission ∈ handler.metadata.requiredPermissions.getD []

/-- The two readings of the lists. -/
theorem demands_iff_listed (path : Str) :
    (∀ permission, permission ∈ Demands (controller.context handler) ↔
      permission ∈ (route controller handler path).permissions) ↔ Covers controller handler := by
  simp only [mem_demands, PermissionGuard.required_eq]
  show (∀ permission, permission ∈ (handler.metadata.requiredPermissions.or
      controller.metadata.requiredPermissions).getD [] ↔
    permission ∈ handler.metadata.requiredPermissions.getD [] ++
      controller.metadata.requiredPermissions.getD []) ↔ _
  unfold Covers
  cases handler.metadata.requiredPermissions with
  | none => simp
  | some own =>
      simp only [Option.some_or, Option.getD_some, List.mem_append, reduceCtorEq, false_or]
      exact ⟨fun h permission hmem => (h permission).mpr (.inr hmem),
        fun h permission => ⟨.inl, fun hor => hor.elim id (h permission)⟩⟩

/-- **When the matrix reports what the guard enforces.** For every registered route: exactly when the handler
    has no permissions of its own or repeats those of its class. -/
theorem matrix_agrees_iff (h : Registers app controller handler path) :
    Agrees app controller handler path ↔ Covers controller handler := by
  constructor
  · intro hagrees
    exact (demands_iff_listed path).mp hagrees.1
  · intro hcovers
    have hsame := (demands_iff_listed path).mpr hcovers
    refine ⟨hsame, ?_⟩
    intro hpublic hdeclared hpass
    obtain ⟨permission, hlisted⟩ :=
      List.exists_mem_of_ne_nil _ (permissions_of_declared h hpublic hdeclared)
    have hheld := (hsame permission).mpr hlisted (caller []) _ rfl hpass
    exact absurd hheld List.not_mem_nil

/-! ## A class and a handler with lists of their own -/

/-- `@RequirePermission('thing:read')` on the class, and `@RequirePermission('thing:write')` on the handler of
    `POST /things`. -/
def archive : Handler := ⟨⟨none, some [str "thing:write"]⟩, some (str "/"), some (str "POST")⟩

def things : Controller := ⟨⟨none, some [str "thing:read"]⟩, some (str "things"), [some archive]⟩

theorem archive_registered : Registers [[some things]] things archive (str "/") :=
  ⟨⟨_, List.mem_singleton_self _, List.mem_singleton_self _⟩, List.mem_singleton_self _, rfl⟩

/-- The guard asks for one of them and the matrix lists both. -/
theorem matrix_disagrees : ¬ ∀ app controller handler path, Registers app controller handler path →
    Agrees app controller handler path := by
  intro h
  have hlisted : str "thing:read" ∈ (route things archive (str "/")).permissions := by decide +kernel
  have hdemanded := ((h _ _ _ _ archive_registered).1 (str "thing:read")).mpr hlisted
  rw [mem_demands] at hdemanded
  exact absurd hdemanded (by decide +kernel)

/-- With the class's permission repeated on the handler, they agree. -/
theorem matrix_agrees_repeated :
    let repeated : Handler :=
      ⟨⟨none, some [str "thing:write", str "thing:read"]⟩, some (str "/"), some (str "POST")⟩
    let controller : Controller := ⟨⟨none, some [str "thing:read"]⟩, some (str "things"), [some repeated]⟩
    Agrees [[some controller]] controller repeated (str "/") :=
  (matrix_agrees_iff ⟨⟨_, List.mem_singleton_self _, List.mem_singleton_self _⟩,
    List.mem_singleton_self _, rfl⟩).mpr (.inr (by decide +kernel))

end Testing
end NestSdk
