import Mathlib.Algebra.BigOperators.Group.List.Basic
import Mathlib.Algebra.Ring.Int.Defs
import Mathlib.Data.List.Infix
import Playtime.Proofs.Arithmetic

namespace Playtime

/-- No addition is clipped while some seconds are summed up one after the other. -/
def AddUp (seconds : List Int64) : Prop := ∀ part, part <+: seconds → Fits (part.map Int64.toInt).sum

instance (seconds : List Int64) : Decidable (AddUp seconds) :=
  decidable_of_iff (∀ part ∈ seconds.inits, Fits (part.map Int64.toInt).sum) (by simp [AddUp, List.mem_inits])

theorem toInt_sumSat (first : Int64) (seconds : List Int64)
    (fits : ∀ part, part <+: seconds → Fits (first.toInt + (part.map Int64.toInt).sum)) :
    (sumSat first seconds).toInt = first.toInt + (seconds.map Int64.toInt).sum := by
  induction seconds generalizing first with
  | nil => simp [sumSat]
  | cons next seconds ih =>
    have room : Fits (first.toInt + next.toInt) := by simpa using fits [next] (by simp)
    have head := room.toInt_addSat
    have tail := ih (addSat first next) fun part inside => by
      have whole := fits (next :: part) (by simpa using inside)
      rwa [head, Int.add_assoc, ← List.sum_cons, ← List.map_cons]
    rw [List.map_cons, List.sum_cons, ← Int.add_assoc, ← head]
    exact tail

theorem AddUp.toInt_sumSat {seconds : List Int64} (adds : AddUp seconds) :
    (sumSat 0 seconds).toInt = (seconds.map Int64.toInt).sum := by
  have exact := Playtime.toInt_sumSat 0 seconds fun part taken => by simpa using adds part taken
  simpa using exact

theorem sumSat_of_zeros (seconds : List Int64) (zeros : ∀ second ∈ seconds, second = 0) : sumSat 0 seconds = 0 := by
  induction seconds with
  | nil => rfl
  | cons second seconds ih =>
    rw [List.forall_mem_cons] at zeros
    rw [sumSat, List.foldl_cons, zeros.1, addSat_zero]
    exact ih zeros.2

namespace Traversal

variable (order : Traversal) (values : List Int64)

theorem sum_arrange : ((order.arrange values).map Int64.toInt).sum = (values.map Int64.toInt).sum :=
  ((order.perm values).map Int64.toInt).sum_eq

theorem toInt_sumSat (adds : AddUp (order.arrange values)) :
    (sumSat 0 (order.arrange values)).toInt = (values.map Int64.toInt).sum :=
  adds.toInt_sumSat.trans (order.sum_arrange values)

-- Once something is clipped, the order does make a difference.
example : sumSat 0 [9223372036854775807, -1, 1] ≠ sumSat 0 [9223372036854775807, 1, -1] := by decide

end Traversal

namespace Sessions

def unsavedParts (sessions : Sessions) (orders : Traversals) (now : Int64) : List Int64 :=
  orders.live.arrange (sessions.owed now).values ++ orders.pending.arrange sessions.pending.values

variable {sessions : Sessions} {orders : Traversals} {now : Int64}

theorem unsaved_eq : sessions.unsaved orders now = sumSat 0 (sessions.unsavedParts orders now) :=
  List.foldl_append.symm

theorem toInt_unsaved (adds : AddUp (sessions.unsavedParts orders now)) :
    (sessions.unsaved orders now).toInt =
      ((sessions.owed now).values.map Int64.toInt).sum + (sessions.pending.values.map Int64.toInt).sum := by
  rw [unsaved_eq, adds.toInt_sumSat, unsavedParts, List.map_append, List.sum_append, Traversal.sum_arrange,
    Traversal.sum_arrange]

/-- The order makes no difference as long as nothing is clipped. -/
theorem unsaved_reordered {orders' : Traversals} (adds : AddUp (sessions.unsavedParts orders now))
    (adds' : AddUp (sessions.unsavedParts orders' now)) : sessions.unsaved orders now = sessions.unsaved orders' now :=
  Int64.toInt_inj.mp ((toInt_unsaved adds).trans (toInt_unsaved adds').symm)

theorem unsaved_of_zeros (owed : ∀ second ∈ (sessions.owed now).values, second = 0)
    (pending : ∀ second ∈ sessions.pending.values, second = 0) : sessions.unsaved orders now = 0 := by
  rw [unsaved_eq]
  refine sumSat_of_zeros _ fun second member => ?_
  rcases List.mem_append.mp member with inside | inside
  · exact owed second ((orders.live.perm _).mem_iff.mp inside)
  · exact pending second ((orders.pending.perm _).mem_iff.mp inside)

end Sessions

end Playtime
