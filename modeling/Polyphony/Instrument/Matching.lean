import Polyphony.Instrument.Bank

namespace Polyphony.Instrument

/-!
# Matching

A channel asks for a bank number and a program.  A bank answers with the best
preset it has: the one asked for, else the same program under another bank
number, else anything that sounds.
-/

/-- How well a preset answers the bank number and program asked for. -/
inductive MatchQuality where
  | nothing
  | anyPreset
  | sameProgram
  | exact
  deriving Repr, DecidableEq

namespace MatchQuality

/-- The place of a quality in their order. -/
def rank : MatchQuality → Nat
  | .nothing => 0
  | .anyPreset => 1
  | .sameProgram => 2
  | .exact => 3

/-- Whether the first quality is better than the second. -/
def exceeds
    (first second : MatchQuality) :
    Bool :=
  second.rank < first.rank

/-- The name of a quality. -/
def name : MatchQuality → String
  | .nothing => "Nothing"
  | .anyPreset => "AnyPreset"
  | .sameProgram => "SameProgram"
  | .exact => "Exact"

end MatchQuality

/-- A preset of a loaded bank and how well it answers a channel. -/
structure Match where
  bankId : BankId
  preset : Nat
  quality : MatchQuality
  deriving Repr, DecidableEq

/-- The best preset of one bank for a bank number and a program. -/
def matchIn?
    (bankNumber program : Nat)
    (bank : Bank) :
    Option (Nat × MatchQuality) :=
  match bank.presetIndex? bankNumber program with
  | some index => some (index, .exact)
  | none =>
      match bank.programFallback? program with
      | some index => some (index, .sameProgram)
      | none => bank.firstPlayable?.map fun index => (index, .anyPreset)

end Polyphony.Instrument
