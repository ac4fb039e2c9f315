import HartKernel.Numeral

/-!
# Hart identifiers

The kernel runs at most four harts, numbered from zero. The hardware reports identifiers of 64 bits;
those at or above the ceiling have no `HartId`. Main statement: `HartId.ofRaw?_eq_some_iff`, an
identifier names the hart of that index and no other.
-/

namespace HartKernel

/-- The number of harts that the kernel runs. -/
abbrev maxHarts : Nat := 4

/-- A hart that the kernel runs, by its index. -/
abbrev HartId := Fin 4

namespace HartId

/-- The hart that clears memory and runs the kernel's initializer. -/
def boot : HartId := 0

/-- The hart with a raw identifier, unless it is beyond the ceiling. -/
def ofRaw? (raw : Word) : Option HartId :=
  if h : raw.toNat < 4 then some ⟨raw.toNat, h⟩ else none

/-- The raw identifier of a hart. -/
def word (hart : HartId) : Word :=
  BitVec.ofNat 64 hart.val

/-- Whether the hart is the one that runs the initializer. -/
def isBoot (hart : HartId) : Bool :=
  hart == boot

/-- The printed name of a hart. -/
def text (hart : HartId) : String :=
  "hart" ++ Numeral.decimal hart.word

theorem ofRaw?_eq_some_iff {raw : Word} {hart : HartId} :
    ofRaw? raw = some hart ↔ raw.toNat = hart.val := by
  unfold ofRaw?
  split
  · next h => simp [Fin.ext_iff]
  · next h =>
    have := hart.isLt
    constructor
    · intro hc; cases hc
    · omega

end HartId

end HartKernel
