import Automation.Tenant
import Automation.Text.Numeral
/-!
# Quotas

A quota counts the runs of each tenant against the tenant's limit, or against a common limit for
those that have none of their own. Without either a tenant may start any number of runs.
-/

namespace Automation

open Text

/-- The limits and the number of runs counted so far. -/
structure Quota where
  common : Option Nat := none
  limits : List (Tenant × Nat) := []
  counts : PerTenant Nat := .empty
  deriving Repr, Inhabited

namespace Quota

/-- The limit of a tenant. -/
def limit? (q : Quota) (t : Tenant) : Option Nat :=
  match q.limits.lookup t with
  | some n => some n
  | none => q.common

/-- The number of runs counted for a tenant. -/
def usage (q : Quota) (t : Tenant) : Nat :=
  q.counts.get t

/-- The tenant may start one more run. -/
def allows (q : Quota) (t : Tenant) : Bool :=
  match q.limit? t with
  | some n => q.usage t < n
  | none => true

/-- Counts more runs of a tenant; a count stays at the largest word. -/
def record (q : Quota) (t : Tenant) (runs : Nat) : Quota :=
  { q with counts := q.counts.set t (min (q.usage t + runs) maxWord64) }

end Quota

/-- Why a request to the quota fails. -/
inductive QuotaFault where
  | outage (message : String)
  deriving DecidableEq, Repr

/-- The wording of a fault. -/
def QuotaFault.message : QuotaFault → String
  | .outage message => "quota backend failure: " ++ message

end Automation
