import Automation.Text.Order
/-!
# Tenants

A tenant is known by its name. `PerTenant` keeps a value for each tenant; a tenant that has none has
the default.
-/

namespace Automation

/-- The name of a tenant. -/
structure Tenant where
  name : String
  deriving DecidableEq, Repr, Inhabited

/-- Values kept per tenant. -/
structure PerTenant (α : Type) where
  entries : List (Tenant × α)
  deriving Inhabited, Repr

namespace PerTenant

variable {α : Type}

/-- No tenant has a value of its own. -/
def empty : PerTenant α := ⟨[]⟩

/-- The value of a tenant, or the default. -/
def get [Inhabited α] (p : PerTenant α) (t : Tenant) : α :=
  (p.entries.lookup t).getD default

/-- The values with another value for one tenant. -/
def set (p : PerTenant α) (t : Tenant) (a : α) : PerTenant α :=
  ⟨(t, a) :: p.entries.filter (·.1 ≠ t)⟩

/-- The value that was set is found. -/
theorem get_set_same [Inhabited α] (p : PerTenant α) (t : Tenant) (a : α) :
    (p.set t a).get t = a := by
  simp [get, set]

/-- Leaving the entries of one tenant out keeps what is found for the others. -/
theorem lookup_filter_ne (entries : List (Tenant × α)) {t u : Tenant} (h : u ≠ t) :
    (entries.filter (·.1 ≠ t)).lookup u = entries.lookup u := by
  induction entries with
  | nil => rfl
  | cons e rest ih =>
    obtain ⟨v, b⟩ := e
    by_cases hv : v = t
    · have hne : (u == t) = false := by simpa using h
      simpa [hv, List.filter_cons, List.lookup_cons, hne] using ih
    · have hkeep : (!decide (v = t)) = true := by simpa using hv
      simp only [ne_eq, decide_not] at ih ⊢
      rw [List.filter_cons, if_pos hkeep, List.lookup_cons, List.lookup_cons, ih]

/-- The values of the other tenants stay. -/
theorem get_set_other [Inhabited α] (p : PerTenant α) {t u : Tenant} (a : α) (h : u ≠ t) :
    (p.set t a).get u = p.get u := by
  have hne : (u == t) = false := by simpa using h
  simp only [get, set, List.lookup_cons, hne]
  rw [lookup_filter_ne _ h]

end PerTenant

end Automation
