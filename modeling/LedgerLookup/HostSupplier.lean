/-!
# Host suppliers

Where the client takes the host from that it runs under.  A supplier names a host for each
reading; how often it has been read is part of its state, so that a reading can be told from the
next.
-/

namespace LedgerLookup

/-- A supplier of hosts: the host of each reading, counted from zero, and the number of readings
made. -/
structure HostSupplier where
  host : Nat → String
  readings : Nat := 0

namespace HostSupplier

/-- The supplier that always names one host. -/
def fixed (host : String) : HostSupplier :=
  ⟨fun _ => host, 0⟩

/-- The supplier that names the hosts of a list in order, and then the last of them again. -/
def ofList (hosts : List String) : HostSupplier :=
  ⟨fun n => (hosts[min n (hosts.length - 1)]?).getD "", 0⟩

/-- The host of the next reading. -/
def current (s : HostSupplier) : String :=
  s.host s.readings

/-- The supplier after one more reading. -/
def advance (s : HostSupplier) : HostSupplier :=
  { s with readings := s.readings + 1 }

end HostSupplier

end LedgerLookup
