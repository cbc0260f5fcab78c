import Registry.Text

/-!
# Runs of letters

The two forms of a letter, capital and small, are mostly at a fixed distance from each other, so
that tables of forms list runs of letters that share one.
-/

namespace Registry

/-- Letters `first, first + step, ..., last` whose other form is `shift` away. -/
structure LetterRun where
  first : Nat
  last : Nat
  step : Nat
  shift : Int

namespace LetterRun

/-- The letter belongs to the run. -/
def covers (run : LetterRun) (n : Nat) : Bool :=
  run.first ≤ n && n ≤ run.last && (n - run.first) % run.step == 0

/-- The other form of a code point in a table of runs, which is itself if no run has it. -/
def shifted (runs : List LetterRun) (c : CodePoint) : CodePoint :=
  match runs.find? fun run => run.covers c.val with
  | some run => CodePoint.ofNat ((c.val : Int) + run.shift).toNat
  | none => c

end LetterRun

end Registry
