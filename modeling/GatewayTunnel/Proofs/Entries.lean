import Mathlib.Data.List.Basic

namespace GatewayTunnel

variable {κ β : Type} [BEq κ] [LawfulBEq κ] {k q : κ} {entries : List (κ × β)}

theorem lookup_filter_ne (other : k ≠ q) :
    (entries.filter fun entry => entry.1 != k).lookup q = entries.lookup q := by
  induction entries with
  | nil => rfl
  | cons entry rest ih =>
      by_cases same : entry.1 = k
      · have skipped : (q == entry.1) = false := by simpa [same] using other.symm
        rw [List.filter_cons_of_neg (by simp [same]), ih, List.lookup_cons, skipped]
      · rw [List.filter_cons_of_pos (by simpa using same), List.lookup_cons, List.lookup_cons, ih]

theorem lookup_replaced [DecidableEq κ] (v : β) :
    ((k, v) :: entries.filter fun entry => entry.1 != k).lookup q =
      if k = q then some v else entries.lookup q := by
  rw [List.lookup_cons]
  by_cases same : k = q
  · simp [same]
  · have other : (q == k) = false := by simpa using Ne.symm same
    rw [other, if_neg same, lookup_filter_ne same]

end GatewayTunnel
