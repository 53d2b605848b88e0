/-!
# Random words

Contention draws random words from a source that keeps its own state. Sixteen
bits of each word are used.
-/

namespace Mode2

/-- A source of random words over some state. -/
abbrev RandomSource (W : Type) := StateM W UInt32

/-- The low sixteen bits of the next word. -/
def RandomSource.next16 {W : Type} (source : RandomSource W) : StateM W Nat := fun w =>
  let word := source w
  (word.1.toNat % 0x10000, word.2)

end Mode2
