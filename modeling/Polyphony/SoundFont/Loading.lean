import Polyphony.Error
import Polyphony.SoundFont.Flattening

namespace Polyphony.SoundFont

/-!
# Loading banks

A loader turns a path into a bank.  It also tells which presets it has made on
the way, so that they can be logged even if the bank turns out to be faulty.
-/

open Instrument (Bank PresetSummary)
open Number (Transcendental)

/-- What came of loading a path. -/
structure Loading where
  bank : Except SynthError Bank
  flattened : List PresetSummary

/-- Anything that turns paths into banks. -/
abbrev BankLoader : Type :=
  String → Loading

namespace Loading

/-- A path that gave no bank. -/
def failed
    (path : String)
    (fault : LoadFault) :
    Loading where
  bank := .error (.loadFailed path fault)
  flattened := []

/-- A bank that was there already. -/
def loaded (bank : Bank) : Loading where
  bank := .ok bank
  flattened := []

end Loading

/-- The last part of a path, which names the file. -/
def fileName (path : String) : List Char :=
  let parts := (path.splitOn "/").filter fun part =>
    part ≠ "" && part ≠ "."
  match parts.getLast? with
  | some ".." => []
  | some part => part.toList
  | none => []

/--
A file name without its extension: what stands before the last dot, unless
nothing does.
-/
def fileStem (name : List Char) : List Char :=
  let extension := name.reverse.takeWhile (· ≠ '.')
  let before := name.take (name.length - extension.length - 1)
  if before.isEmpty then name else before

/--
The loader of font files, for a reader of fonts and the files that paths lead to.
Nothing is asked of the reader but that it answers.
-/
def loaderReading
    [Transcendental]
    (read : FontFile → Option Font)
    (files : String → Option FileContents) :
    BankLoader := fun path =>
  match files path with
  | none => .failed path .fileNotFound
  | some .other => .failed path .notASoundFont
  | some (.font file) =>
      match read file with
      | none => .failed path .notASoundFont
      | some font =>
          let name := String.ofList (fileStem (fileName path))
          {
            bank :=
              (font.flatten name).mapError fun fault =>
                .loadFailed path (.bank fault)
            flattened := font.flattened
          }

/-- The loader of font files that are read as they are stored. -/
def fontLoader
    [Transcendental]
    (files : String → Option FileContents) :
    BankLoader :=
  loaderReading Font.ofFile? files

/-- The loader of a program that knows no file format. -/
def noFormatLoader : BankLoader := fun path =>
  .failed path .noFormatSupport

end Polyphony.SoundFont
