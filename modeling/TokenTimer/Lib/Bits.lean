/-
  TokenTimer.Lib.Bits — the two fixed widths that occur, bytes and code units, and the
  instances that their numerals and texts of them need.
-/

import Mathlib.Data.List.Basic

namespace Lib.Bits

-- The zero is the one that `Fin.ofNat` asks for.
instance instNeZeroByte : @NeZero Nat Zero.ofOfNat0 256 := ⟨by decide⟩

instance instNeZeroCodeUnit : @NeZero Nat Zero.ofOfNat0 65536 := ⟨by decide⟩

instance instLawfulBEqCodeUnits : LawfulBEq (List (Fin 65536)) := inferInstance

instance instLawfulBEqChars : LawfulBEq (List Char) := inferInstance

end Lib.Bits
