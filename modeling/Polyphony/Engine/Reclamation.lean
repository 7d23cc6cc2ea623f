import Polyphony.Instrument.Bank

namespace Polyphony.Engine

/-!
# Reclamation of banks

A bank stays in memory for as long as somebody refers to it.  The table of
loaded banks does, and so does every voice that reads from it.  A voice that
ends while sound is rendered must not free memory there, so it leaves its
reference in a bounded queue, from which the control side takes and drops it.
-/

open Instrument (Bank BankId)

/-- One reference to a loaded bank. -/
structure BankReference where
  id : BankId
  bank : Bank
  deriving DecidableEq

/--
The references that ended voices have left, oldest first, and the number of
those for which there was no room.
-/
structure ReclamationQueue where
  capacity : Nat
  parked : List BankReference
  refused : Nat
  deriving DecidableEq

namespace ReclamationQueue

/-- A queue with nothing in it.  It has room for one reference at least. -/
def new (capacity : Nat) : ReclamationQueue where
  capacity := max capacity 1
  parked := []
  refused := 0

/-- Add a reference at the end, if there is room. -/
def push?
    (reference : BankReference)
    (queue : ReclamationQueue) :
    Option ReclamationQueue :=
  if queue.parked.length < queue.capacity then
    some { queue with parked := queue.parked ++ [reference] }
  else
    none

/-- Take the oldest reference out. -/
def pop?
    (queue : ReclamationQueue) :
    Option (BankReference × ReclamationQueue) :=
  match queue.parked with
  | [] => none
  | oldest :: rest => some (oldest, { queue with parked := rest })

/--
Leave a reference, if there is one.  A full queue refuses it, and it is gone at
once; a queue with room for all voices and banks is never full.
-/
def retire
    (reference? : Option BankReference)
    (queue : ReclamationQueue) :
    ReclamationQueue :=
  match reference? with
  | some reference =>
      match queue.push? reference with
      | some longer => longer
      | none => { queue with refused := queue.refused + 1 }
  | none => queue

/-- Drop all references; the first part of the result tells how many. -/
def drain
    (queue : ReclamationQueue) :
    Nat × ReclamationQueue :=
  (queue.parked.length, { queue with parked := [] })

/-- How many of the references are to a bank. -/
def count
    (id : BankId)
    (queue : ReclamationQueue) :
    Nat :=
  queue.parked.countP (·.id = id)

end ReclamationQueue

end Polyphony.Engine
