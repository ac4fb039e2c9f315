/-!
# Positions in vectors

A position in a vector of length `n` is a `Fin n`. It is in range by its type, so that reading and
replacing the element there take no proof.
-/

namespace HartKernel

variable {α : Type} {n : Nat}

/-- Reads the element at a position. -/
instance atPosition : GetElem (Vector α n) (Fin n) α (fun _ _ => True) where
  getElem xs i _ := xs.get i

/-- Replaces the element at a position. -/
def replaceAt (xs : Vector α n) (i : Fin n) (value : α) : Vector α n :=
  xs.set i value

/-- Reading at a position is reading at its index. -/
@[simp] theorem getElem_position (xs : Vector α n) (i : Fin n) : xs[i] = xs[i.val] := rfl

end HartKernel
