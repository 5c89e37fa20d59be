import Polyglot.Service.Description
import Polyglot.Service.Query
import Polyglot.Service.Target

/-! # What stands in front of the service

A request reaches the service through a front. It finds the path that the target of a request leads
to, and checks the value of a body before the service sees a query. The usual front reads targets as
addresses and takes off slashes at the end of a path.
-/

namespace Polyglot.Service

/-- What a request has to pass. -/
class Front where
  /-- Why a target leads to no path. -/
  Flaw : Type
  /-- The words of a flaw. -/
  words : Flaw → Text
  /-- What a text that is a target at all leads to: a path of the service, or nowhere. -/
  target : Text → Except Flaw (Except Flaw Text)
  /-- The query that a value makes, or the reports on what does not fit. -/
  query : Json → Except (List Report) Query

/-- A path without slashes at its end. -/
def withoutSlashes (path : Text) : Text :=
  (path.reverse.dropWhile (· = ('/' : CodePoint))).reverse

/-- A path without a line feed at its end, which leads to the same place. -/
def withoutLineFeed (path : Text) : Text :=
  if path.getLast? = some CodePoint.lineFeed then path.dropLast else path

/-- The paths that the service has. -/
def paths : List Text :=
  "/classify" :: "/labels" :: "/healthz" :: Description.path :: Description.pagePaths

namespace Target

/-- What is wrong with the way to a path: a path of the service with slashes behind it sends back to
the path itself. -/
def wayFlaw? (a : Address) : Option TargetFlaw :=
  let path := path a
  let kept := withoutSlashes path
  if kept ≠ path ∧ paths.contains (withoutLineFeed kept) then sendingFlaw? a kept else none

/-- The path that an address leads to. -/
def reach (a : Address) : Except TargetFlaw Text :=
  match (serverFlaw? a).or (wayFlaw? a) with
  | some flaw => .error flaw
  | none => .ok (withoutLineFeed (withoutSlashes (path a)))

end Target

namespace Front.Usual

/-- The front that reads addresses and checks each field of a query. -/
scoped instance usual : Front where
  Flaw := TargetFlaw
  words := TargetFlaw.message
  target t := ((Target.address t).mapError .address).map Target.reach
  query := Query.ofJson

end Front.Usual

end Polyglot.Service
