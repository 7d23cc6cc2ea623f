import Polyphony.Engine.Voice

namespace Polyphony.Engine

/-!
# Voice pools

A fixed number of voices is shared by all notes.  When none is free, a sounding
one is stolen; a note never steals from itself, so its layers cannot eat each
other.  The references of voices that end go to the pool's reclamation queue.
-/

open Instrument (BankId Zone)
open Number (Transcendental)
open Sound (Bus Interpolation)

/-- A sounding voice that was cut to make room for another. -/
structure StolenVoice where
  slot : Nat
  channel : Nat
  key : Nat
  state : VoiceState
  deriving Repr, DecidableEq

/-- A voice made ready for use, and what it was stolen from, if it was. -/
structure Allocation where
  slot : Nat
  stolen? : Option StolenVoice
  deriving Repr, DecidableEq

/-- All voices, by slot, and the references that ended ones have left. -/
structure VoicePool where
  voices : List Voice
  retired : ReclamationQueue
  deriving DecidableEq

namespace VoicePool

/-- Free voices for output at the given rate, and an empty queue. -/
def new
    (sampleRate : Float32)
    (polyphony queueCapacity : Nat) :
    VoicePool where
  voices := List.replicate polyphony (.new sampleRate)
  retired := .new queueCapacity

/-- The lowest free slot. -/
def freeSlot? (pool : VoicePool) : Option Nat :=
  pool.voices.findIdx? Voice.isFree

/-- The one of two voices, with their slots, that is stolen first. -/
def firstStolen
    (best? : Option (Voice × Nat))
    (candidate : Voice × Nat) :
    Option (Voice × Nat) :=
  match best? with
  | none => some candidate
  | some best =>
      if (candidate.1.stealKey candidate.2).precedes
          (best.1.stealKey best.2) then
        some candidate
      else
        some best

/-- The voice to steal for a note: the first in line that is not its own. -/
def victim?
    (serial : Nat)
    (pool : VoicePool) :
    Option (Voice × Nat) :=
  (pool.voices.zipIdx.filter fun entry => entry.1.serial ≠ serial).foldl
    firstStolen none

/-- Put a voice into a slot. -/
def putVoice
    (slot : Nat)
    (voice : Voice)
    (pool : VoicePool) :
    VoicePool :=
  { pool with voices := pool.voices.set slot voice }

/-- Leave a reference in the queue, if there is one. -/
def retire
    (reference? : Option BankReference)
    (pool : VoicePool) :
    VoicePool :=
  { pool with retired := pool.retired.retire reference? }

/-- Make a voice ready for a note, if need be by stealing one. -/
def allocate?
    (serial : Nat)
    (pool : VoicePool) :
    Option (Allocation × VoicePool) :=
  match pool.freeSlot? with
  | some slot => some (⟨slot, none⟩, pool)
  | none =>
      (pool.victim? serial).map fun (victim, slot) =>
        let stolen : StolenVoice :=
          ⟨slot, victim.channel, victim.key, victim.state⟩
        let (reference?, freed) := victim.free
        (⟨slot, some stolen⟩, (pool.putVoice slot freed).retire reference?)

/-- Start a zone for a note in a free slot. -/
def start
    [Transcendental]
    (slot : Nat)
    (note : Note)
    (source : BankReference)
    (zone : Zone)
    (pool : VoicePool) :
    VoicePool :=
  { pool with voices := pool.voices.modify slot (Voice.start note source zone) }

/-- Change the voices of which a condition holds. -/
def changeWhere
    (condition : Voice → Bool)
    (change : Voice → Voice)
    (pool : VoicePool) :
    VoicePool :=
  { pool with
    voices :=
      pool.voices.map fun voice =>
        if condition voice then change voice else voice }

/-- Whether a voice is on a channel; every voice is, where none is named. -/
def isOn
    (channel? : Option Nat)
    (voice : Voice) :
    Bool :=
  channel?.all (voice.channel = ·)

/-- Whether a voice is held on a channel by a key. -/
def isHeldBy
    (channel key : Nat)
    (voice : Voice) :
    Bool :=
  voice.isHeld && voice.channel = channel && voice.key = key

/-- Release the voices that a key of a channel holds. -/
def releaseKey
    (channel key : Nat)
    (pool : VoicePool) :
    VoicePool :=
  pool.changeWhere (isHeldBy channel key) Voice.release

/-- Release the held voices of one channel, or of all. -/
def releaseChannel
    (channel? : Option Nat)
    (pool : VoicePool) :
    VoicePool :=
  pool.changeWhere
    (fun voice => voice.isHeld && isOn channel? voice)
    Voice.release

/-- Fade out the sounding voices of one channel, or of all. -/
def forceReleaseChannel
    (channel? : Option Nat)
    (seconds : Float32)
    (pool : VoicePool) :
    VoicePool :=
  pool.changeWhere
    (fun voice => !voice.isFree && isOn channel? voice)
    (Voice.forceRelease seconds)

/-- Whether a voice reads a bank. -/
def isReading
    (bankId : BankId)
    (voice : Voice) :
    Bool :=
  voice.bankId? = some bankId

/-- Whether a voice holds a reference to a bank. -/
def holdsReference
    (bankId : BankId)
    (voice : Voice) :
    Bool :=
  voice.source?.any (·.id = bankId)

/-- Fade out the voices that read a bank. -/
def forceReleaseBank
    (bankId : BankId)
    (seconds : Float32)
    (pool : VoicePool) :
    VoicePool :=
  pool.changeWhere (isReading bankId) (Voice.forceRelease seconds)

/-- How many voices satisfy a condition. -/
def count
    (condition : Voice → Bool)
    (pool : VoicePool) :
    Nat :=
  pool.voices.countP condition

/-- How many voices are sounding. -/
def activeCount (pool : VoicePool) : Nat :=
  pool.count (!·.isFree)

/-- The states of all voices, by slot. -/
def states (pool : VoicePool) : List VoiceState :=
  pool.voices.map (·.state)

/-- The channel and the key of every sounding voice, by slot. -/
def activeNotes (pool : VoicePool) : List (Nat × Nat) :=
  (pool.voices.filter (!·.isFree)).map fun voice =>
    (voice.channel, voice.key)

/-- All slots, in the order in which their voices would be stolen. -/
def stealOrder (pool : VoicePool) : List Nat :=
  let keys := pool.voices.zipIdx.map fun (voice, slot) => voice.stealKey slot
  (keys.mergeSort fun first second => !second.precedes first).map (·.slot)

/-- Drop the references that ended voices have left, and tell how many. -/
def drain
    (pool : VoicePool) :
    Nat × VoicePool :=
  let (count, retired) := pool.retired.drain
  (count, { pool with retired := retired })

/-- The mix of the channel that a voice is on. -/
def mixFor
    (channels : List Channel)
    (voice : Voice) :
    ChannelMix :=
  (channels[voice.channel]?.map Channel.mix).getD .silent

/-- What rendering passes from one voice to the next. -/
structure Mixdown where
  bus : Bus
  retired : ReclamationQueue

/-- Add a sounding voice to a mixdown; one that is done becomes free. -/
def renderVoice
    [Transcendental]
    (frames : Nat)
    (channels : List Channel)
    (method : Interpolation)
    (mixdown : Mixdown)
    (voice : Voice) :
    Mixdown × Voice :=
  if voice.isFree then
    (mixdown, voice)
  else
    let (bus, played) :=
      voice.render frames (mixFor channels voice) method mixdown.bus
    if played.isDone then
      let (reference?, freed) := played.free
      (⟨bus, mixdown.retired.retire reference?⟩, freed)
    else
      (⟨bus, mixdown.retired⟩, played)

/-- Add some voices to a mixdown, in order. -/
def renderVoices
    [Transcendental]
    (frames : Nat)
    (channels : List Channel)
    (method : Interpolation)
    (mixdown : Mixdown) :
    List Voice → Mixdown × List Voice
  | [] => (mixdown, [])
  | voice :: rest =>
      let (mixed, played) := renderVoice frames channels method mixdown voice
      let (last, others) := renderVoices frames channels method mixed rest
      (last, played :: others)

/-- Mix the next `frames` frames of all sounding voices. -/
def render
    [Transcendental]
    (frames : Nat)
    (channels : List Channel)
    (method : Interpolation)
    (pool : VoicePool) :
    Bus × VoicePool :=
  let (mixdown, voices) :=
    renderVoices frames channels method ⟨.silent frames, pool.retired⟩
      pool.voices
  (mixdown.bus, { voices := voices, retired := mixdown.retired })

end VoicePool

end Polyphony.Engine
