import Polyphony.Engine.Programs

namespace Polyphony.Engine

/-!
# Notes and controllers

A note starts one voice for each zone of its preset that its key and velocity
fall in, for as long as there are voices to be had.
-/

open Instrument (Zone)
open Number (Transcendental)

/-- What starting a note did to the voices. -/
structure NoteReport where
  stolen : List StolenVoice
  droppedLayers : Nat
  deriving Repr, DecidableEq

namespace NoteReport

/-- Nothing happened. -/
def silent : NoteReport :=
  ⟨[], 0⟩

end NoteReport

namespace VoicePool

/-- Start zones for a note, in order; without a voice the rest is dropped. -/
def startLayers
    [Transcendental]
    (note : Note)
    (source : BankReference) :
    List Zone → VoicePool → NoteReport × VoicePool
  | [], pool => (.silent, pool)
  | zone :: rest, pool =>
      match pool.allocate? note.serial with
      | none => (⟨[], rest.length + 1⟩, pool)
      | some (allocation, ready) =>
          let started := ready.start allocation.slot note source zone
          let (report, last) := startLayers note source rest started
          (⟨allocation.stolen?.toList ++ report.stolen, report.droppedLayers⟩,
            last)

end VoicePool

namespace Synth

/-- Start a note on a channel, unless the channel plays nothing. -/
def startNote
    [Transcendental]
    (channel key velocity : Nat)
    (synth : Synth) :
    NoteReport × Synth :=
  let bound? := do
    let entry ← synth.channels[channel]?
    synth.boundPreset? entry.binding
  match bound? with
  | none => (.silent, synth)
  | some (source, preset) =>
      let note : Note := ⟨channel, key, velocity, synth.nextSerial⟩
      let (report, pool) :=
        synth.pool.startLayers note source (preset.layers key velocity)
      (report,
        { synth with
          pool := pool
          nextSerial := synth.nextSerial + 1 })

/-- Change the voices. -/
def changePool
    (change : VoicePool → VoicePool)
    (synth : Synth) :
    Synth :=
  { synth with pool := change synth.pool }

/-- Act on a controller: three of them are commands, the others are stored. -/
def applyController
    (channel controller value : Nat)
    (synth : Synth) :
    Synth :=
  if controller = Controller.allSoundOff then
    synth.changePool (·.forceReleaseChannel (some channel) forcedRelease)
  else if controller = Controller.allNotesOff then
    synth.changePool (·.releaseChannel (some channel))
  else if controller = Controller.resetControllers then
    synth.changeChannel channel Channel.resetControllers
  else
    synth.changeChannel channel (Channel.setController controller value)

end Synth

end Polyphony.Engine
