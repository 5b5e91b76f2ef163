import LedgerLookup.Json.Variant
import LedgerLookup.Text.Search

/-!
# Deployments

The deployments of the explorer service, and the choice among them by host name.  A host belongs
to the first deployment in the order staging, test, development whose marker occurs in its name,
and to the production deployment when no marker does.
-/

namespace LedgerLookup

/-- A deployment of the explorer service. -/
inductive Deployment where
  | staging | test | dev | main
deriving DecidableEq, Repr

namespace Deployment

/-- The name of a deployment. -/
def name : Deployment → String
  | staging => "staging"
  | test => "test"
  | dev => "dev"
  | main => "main"

/-- The markers in host names, in the order in which they are looked for. -/
def markers : List (String × Deployment) :=
  [("staging", staging), ("test", test), ("dev", dev), ("localhost", dev)]

/-- The deployment that a host belongs to. -/
def ofHost (host : String) : Deployment :=
  match markers.find? fun m => Text.occursIn m.1 host with
  | some m => m.2
  | none => main

/-- The place of a deployment in the order of the markers; production comes last. -/
def rank : Deployment → Nat
  | staging => 0
  | test => 1
  | dev => 2
  | main => 3

/-- Deployments as they are written in JSON. -/
def variants : Json.Variants Deployment :=
  ⟨[("staging", staging), ("test", test), ("dev", dev), ("main", main)]⟩

end Deployment

end LedgerLookup
