import DatabaseLogon.Connection

namespace DatabaseLogon

/-!
# Slots for connections

* `Slots` — connections in numbered slots, in the order of the slots.
* `Slots.get?`, `Slots.put`, `Slots.erase` — looking into a slot, filling and emptying it; the laws
  below say that each of them concerns one slot only.
-/

/-- Connections by slot, in the order of the slots. -/
abbrev Slots := List (Nat × Connection)

namespace Slots

/-- The connection in a slot. -/
def get? (s : Slots) (slot : Nat) : Option Connection :=
  s.lookup slot

/-- Put a connection into a slot. -/
def put (slot : Nat) (c : Connection) : Slots → Slots
  | [] => [(slot, c)]
  | (n, d) :: rest =>
    if slot < n then (slot, c) :: (n, d) :: rest
    else if slot = n then (slot, c) :: rest
    else (n, d) :: put slot c rest

/-- Empty a slot. -/
def erase (s : Slots) (slot : Nat) : Slots :=
  s.filter (·.1 ≠ slot)

@[simp] theorem get?_nil (slot : Nat) : get? [] slot = none := rfl

/-- A slot that was filled holds what was put there. -/
@[simp] theorem get?_put_self (s : Slots) (slot : Nat) (c : Connection) :
    get? (put slot c s) slot = some c := by
  fun_induction put slot c s <;> grind [get?]

/-- Filling a slot leaves the others alone. -/
theorem get?_put_of_ne {slot other : Nat} (h : other ≠ slot) (s : Slots) (c : Connection) :
    get? (put slot c s) other = get? s other := by
  fun_induction put slot c s <;> grind [get?]

/-- An emptied slot holds nothing. -/
@[simp] theorem get?_erase_self (s : Slots) (slot : Nat) : get? (s.erase slot) slot = none := by
  induction s with
  | nil => rfl
  | cons entry rest ih => grind [get?, erase]

/-- Emptying a slot leaves the others alone. -/
theorem get?_erase_of_ne {slot other : Nat} (h : other ≠ slot) (s : Slots) :
    get? (s.erase slot) other = get? s other := by
  induction s with
  | nil => rfl
  | cons entry rest ih => grind [get?, erase]

theorem get?_cons (n : Nat) (d : Connection) (rest : Slots) (slot : Nat) :
    get? ((n, d) :: rest) slot = if slot = n then some d else rest.get? slot := by
  rw [get?, List.lookup_cons]
  by_cases h : slot = n
  · rw [if_pos h, h, beq_self_eq_true]
  · rw [if_neg h, beq_false_of_ne h]
    rfl

/-- What a slot holds is one of the connections. -/
theorem mem_of_get? {s : Slots} {slot : Nat} {c : Connection} (h : s.get? slot = some c) :
    (slot, c) ∈ s := by
  induction s with
  | nil => cases h
  | cons e rest ih =>
    rw [get?_cons] at h
    split at h
    next same =>
      cases h
      rw [same]
      exact List.mem_cons_self
    next other => exact List.mem_cons_of_mem _ (ih h)

/-- Filling a slot adds one connection at most. -/
theorem mem_put {s : Slots} {slot : Nat} {c : Connection} {e : Nat × Connection}
    (h : e ∈ put slot c s) : e = (slot, c) ∨ e ∈ s := by
  induction s with
  | nil => exact .inl (List.mem_singleton.mp h)
  | cons first rest ih =>
    rw [put] at h
    split at h
    · exact List.mem_cons.mp h
    · split at h
      · exact (List.mem_cons.mp h).imp id (List.mem_cons_of_mem _)
      · rcases List.mem_cons.mp h with rfl | h
        · exact .inr List.mem_cons_self
        · exact (ih h).imp id (List.mem_cons_of_mem _)

end Slots

end DatabaseLogon
