import Polyphony.Engine.Reclamation
import Polyphony.Error

namespace Polyphony.Engine

/-!
# Loaded banks

A table of bounded size keeps the loaded banks in the order in which they came,
under handles that are given out in ascending order and never again.
-/

open Instrument (Bank BankId)

/-- The loaded banks, oldest first, and the number of the next handle. -/
structure BankTable where
  entries : List BankReference
  limit : Nat
  nextNumber : Nat
  deriving DecidableEq

namespace BankTable

/-- A table with room for `limit` banks and none in it. -/
def new (limit : Nat) : BankTable where
  entries := []
  limit := limit
  nextNumber := 1

/-- Add a bank under a fresh handle, if there is room. -/
def insert
    (bank : Bank)
    (table : BankTable) :
    Except SynthError (BankId × BankTable) :=
  if table.limit ≤ table.entries.length then
    .error (.outOfBanks table.limit)
  else
    let id : BankId := ⟨table.nextNumber⟩
    .ok
      (id,
        { table with
          entries := table.entries ++ [⟨id, bank⟩]
          nextNumber := table.nextNumber + 1 })

/-- The entry of a handle. -/
def get?
    (id : BankId)
    (table : BankTable) :
    Option BankReference :=
  table.entries.find? (·.id = id)

/-- Take the entry of a handle out of the table. -/
def remove?
    (id : BankId)
    (table : BankTable) :
    Option (BankReference × BankTable) :=
  (table.get? id).map fun entry =>
    (entry, { table with entries := table.entries.eraseP (·.id = id) })

/-- The entries in the opposite order. -/
def newestFirst (table : BankTable) : List BankReference :=
  table.entries.reverse

/-- The handles of the loaded banks, oldest first. -/
def ids (table : BankTable) : List BankId :=
  table.entries.map (·.id)

/-- How many entries a handle has: one while its bank is loaded. -/
def count
    (id : BankId)
    (table : BankTable) :
    Nat :=
  table.entries.countP (·.id = id)

end BankTable

end Polyphony.Engine
