import NestSdk.Js.Text

/-!
# `Observability.Route` — where a request was, without saying which one

The route pattern Express matched, and which paths are infrastructure's. Both are what metrics and error reports
say of a request instead of its URL.
-/

namespace NestSdk
namespace Observability

open Js

/-- The `path` of a matched route: a string, a list whose entries may be no strings, or a `RegExp`. -/
inductive RoutePath
  | text (path : Str)
  | list (paths : List (Option Str))
  | pattern

/-- Where Express has routed a request. -/
structure Routed where
  baseUrl : Str
  route : Option RoutePath

def UNMATCHED_ROUTE_LABEL : Str := str "unmatched"

/-- The route pattern, prefixed by any router mount point. -/
def readRoutePattern (request : Routed) : Str :=
  match request.route with
  | none | some .pattern => UNMATCHED_ROUTE_LABEL
  | some (.text path) => request.baseUrl ++ path
  | some (.list paths) =>
      match paths.mapM id with
      | some paths => request.baseUrl ++ (str "|").intercalate paths
      | none => UNMATCHED_ROUTE_LABEL

def INFRASTRUCTURE_ROUTE_PREFIXES : List Str := [str "/health", str "/metrics"]

/-- Whether a request path belongs to the prefixes, by default `INFRASTRUCTURE_ROUTE_PREFIXES`: matched on a
    path boundary. -/
def isInfrastructureRoute (path : Str) (prefixes : List Str) : Bool :=
  prefixes.any fun routePrefix => path == routePrefix || (routePrefix ++ str "/").isPrefixOf path

end Observability
end NestSdk
