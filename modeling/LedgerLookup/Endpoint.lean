import LedgerLookup.Deployment
import LedgerLookup.Json.Record
import LedgerLookup.Text.Blank

/-!
# Endpoints

Where the explorer service answers: a base without slashes at its end, and a port.  A locator
holds the base and the port of every deployment, and gives the endpoint for the deployment that a
host belongs to.
-/

namespace LedgerLookup

/-- A port number. -/
abbrev Port := Word .u16

/-- The text of a port. -/
def Port.text (p : Port) : String := Text.decimal p.toNat

/-- The port of the service in each deployment. -/
structure Ports where
  staging : Port
  test : Port
  dev : Port
  main : Port
deriving DecidableEq

namespace Ports

/-- The ports that are used when no others are configured. -/
def standard : Ports where
  staging := { val := 16386 }
  test := { val := 16286 }
  dev := { val := 16486 }
  main := { val := 16186 }

/-- The port of a deployment. -/
def get (ports : Ports) : Deployment → Port
  | .staging => ports.staging
  | .test => ports.test
  | .dev => ports.dev
  | .main => ports.main

/-- Port tables as they are written in JSON. -/
def record : Json.Record Ports where
  name := "PortTable"
  empty := standard
  fields := [
    .filled "staging" (.word .u16) (·.staging) ({ · with staging := · }),
    .filled "test" (.word .u16) (·.test) ({ · with test := · }),
    .filled "dev" (.word .u16) (·.dev) ({ · with dev := · }),
    .filled "main" (.word .u16) (·.main) ({ · with main := · })]

end Ports

/-- Where a service answers: scheme and host, and the port. -/
structure Endpoint where
  base : String
  port : Port
deriving DecidableEq

namespace Endpoint

/-- The endpoint of a base, whose trailing slashes do not count, and a port. -/
def ofBase (base : String) (port : Port) : Endpoint :=
  ⟨Text.withoutTrailingSlashes base, port⟩

/-- Base and port. -/
def authority (e : Endpoint) : String :=
  e.base ++ ":" ++ e.port.text

/-- The URL of a path, which has to start with a slash. -/
def url (e : Endpoint) (path : String) : String :=
  e.authority ++ path

end Endpoint

/-- The base of the service and the ports of its deployments. -/
structure Locator where
  base : String
  ports : Ports
deriving DecidableEq

namespace Locator

/-- The locator of a base, whose trailing slashes do not count. -/
def ofBase (base : String) (ports : Ports) : Locator :=
  ⟨Text.withoutTrailingSlashes base, ports⟩

/-- The endpoint of the deployment that a host belongs to. -/
def locate (l : Locator) (host : String) : Endpoint :=
  .ofBase l.base (l.ports.get (.ofHost host))

end Locator

end LedgerLookup
