import Polyphony.Engine.Basic

namespace Polyphony.Engine

/-!
# Banks and programs

How banks come and go, and how channels find their presets among them.
-/

open Instrument (Bank BankId Match matchIn?)

/-- The time, in seconds, within which cut voices fade out. -/
def forcedRelease : Float32 := 0.01

/-- A channel whose binding moved, and the preset that it moved to. -/
structure Rebinding where
  channel : Nat
  found? : Option Match
  deriving Repr, DecidableEq

/-- The answer of one loaded bank to a bank number and a program. -/
def candidate?
    (bankNumber program : Nat)
    (entry : BankReference) :
    Option Match :=
  (matchIn? bankNumber program entry.bank).map fun (preset, quality) =>
    ⟨entry.id, preset, quality⟩

/-- Search banks in order for a better match than the best so far. -/
def searchBanks
    (bankNumber program : Nat)
    (best? : Option Match) :
    List BankReference → Option Match
  | [] => best?
  | entry :: rest =>
      match candidate? bankNumber program entry with
      | none => searchBanks bankNumber program best? rest
      | some candidate =>
          let better? :=
            if best?.all (candidate.quality.exceeds ·.quality) then
              some candidate
            else
              best?
          if candidate.quality = .exact then
            better?
          else
            searchBanks bankNumber program better? rest

namespace BankTable

/-- The best match among all loaded banks; of equal ones the newest bank's. -/
def bestMatch?
    (bankNumber program : Nat)
    (table : BankTable) :
    Option Match :=
  searchBanks bankNumber program none table.newestFirst

end BankTable

namespace Channel

/-- The preset of a newly loaded bank that takes over the channel, if one does. -/
def takeover?
    (entry : BankReference)
    (channel : Channel) :
    Option Match :=
  (candidate? channel.bankNumber channel.program entry).filter channel.accepts

/-- Whether the channel plays from a bank. -/
def playsFrom
    (id : BankId)
    (channel : Channel) :
    Bool :=
  channel.binding.bankId? = some id

end Channel

namespace Synth

/-- Offer a newly loaded bank to every channel. -/
def offerToChannels
    (entry : BankReference)
    (synth : Synth) :
    List Rebinding × Synth :=
  (synth.channels.filterMap fun channel =>
      (channel.takeover? entry).map fun found => ⟨channel.index, some found⟩,
    { synth with
      channels :=
        synth.channels.map fun channel =>
          match channel.takeover? entry with
          | some found => channel.offer found
          | none => channel })

/-- Add a bank to the table and, if asked to, offer it to the channels. -/
def publish
    (bank : Bank)
    (updatePresets : Bool)
    (synth : Synth) :
    Except SynthError ((BankId × List Rebinding) × Synth) :=
  match synth.banks.insert bank with
  | .error error => .error error
  | .ok (id, banks) =>
      let inserted := { synth with banks := banks }
      if updatePresets then
        let (rebindings, offered) := inserted.offerToChannels ⟨id, bank⟩
        .ok ((id, rebindings), offered)
      else
        .ok ((id, []), inserted)

/-- The preset that a channel falls back to when its bank goes. -/
def fallback?
    (updatePresets : Bool)
    (channel : Channel)
    (synth : Synth) :
    Option Match :=
  if updatePresets then
    synth.banks.bestMatch? channel.bankNumber channel.program
  else
    none

/-- Bind the channels of a bank that is gone to something else, or to nothing. -/
def rebindFrom
    (id : BankId)
    (updatePresets : Bool)
    (synth : Synth) :
    List Rebinding × Synth :=
  ((synth.channels.filter (Channel.playsFrom id)).map fun channel =>
      ⟨channel.index, synth.fallback? updatePresets channel⟩,
    { synth with
      channels :=
        synth.channels.map fun channel =>
          if channel.playsFrom id then
            channel.resolveTo (synth.fallback? updatePresets channel)
          else
            channel })

/-- What taking a bank out of the table did. -/
structure Withdrawal where
  bank : Bank
  releasing : Nat
  rebindings : List Rebinding

/-- Take a bank out of the table, and fade out the voices that read it. -/
def withdraw
    (id : BankId)
    (updatePresets : Bool)
    (synth : Synth) :
    Except SynthError (Withdrawal × Synth) :=
  match synth.banks.remove? id with
  | none => .error (.unknownBank id)
  | some (entry, banks) =>
      let faded :=
        { synth with
          banks := banks
          pool := synth.pool.forceReleaseBank id forcedRelease }
      let (rebindings, rebound) := faded.rebindFrom id updatePresets
      .ok
        ({
            bank := entry.bank
            releasing := synth.voiceReferences id
            rebindings := rebindings
          },
          rebound)

/-- Change one channel. -/
def changeChannel
    (channel : Nat)
    (change : Channel → Channel)
    (synth : Synth) :
    Synth :=
  { synth with channels := synth.channels.modify channel change }

/-- Bind a channel to a preset of one bank. -/
def selectProgram
    (channel : Nat)
    (id : BankId)
    (bankNumber program : Nat)
    (synth : Synth) :
    Except SynthError (Unit × Synth) :=
  match synth.banks.get? id with
  | none => .error (.unknownBank id)
  | some entry =>
      match entry.bank.presetIndex? bankNumber program with
      | none => .error (.noSuchPreset id bankNumber program)
      | some preset =>
          .ok
            ((),
              synth.changeChannel channel
                (Channel.select id preset bankNumber program))

/-- The preset of a channel's selected bank that has a program, if one has. -/
def selectedPreset?
    (program : Nat)
    (channel : Channel)
    (synth : Synth) :
    Option (BankId × Nat) :=
  match channel.binding with
  | .selected id _ => do
      let entry ← synth.banks.get? id
      let preset ← entry.bank.presetIndex? channel.bankNumber program
      return (id, preset)
  | _ => none

/--
Give a channel a program: within its selected bank if that has it, else by a
search of all banks, whose result is reported.
-/
def changeProgram
    (channel program : Nat)
    (synth : Synth) :
    Option (Option Match) × Synth :=
  match synth.channels[channel]? with
  | none => (none, synth)
  | some entry =>
      match synth.selectedPreset? program entry with
      | some (id, preset) =>
          (none,
            synth.changeChannel channel
              (Channel.select id preset entry.bankNumber program))
      | none =>
          let found? := synth.banks.bestMatch? entry.bankNumber program
          (some found?,
            synth.changeChannel channel fun changed =>
              (changed.setProgram program).resolveTo found?)

end Synth

end Polyphony.Engine
