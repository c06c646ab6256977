import Blueprint.Schematic.Encode
import Blueprint.Schematic.ProcessorLayout

/-!
Formats of schematics. A build asks a format only for the bytes of processors. The standard format
lays processors out as the game reads them.
-/

namespace Blueprint

/-- Why something cannot be brought into a format. -/
inductive CodecError where
  | io (problem : String)
  | outOfRange (what : String) (value : Int)
  | json (problem : String)
  deriving DecidableEq, Repr

def CodecError.message : CodecError → String
  | io problem => s!"I/O error while encoding: {problem}"
  | outOfRange what value => s!"{what} is out of range for the encoding: {value}"
  | json problem => s!"failed to serialize schematic: {problem}"

def ProcessorLayout.OutOfRange.codecError (error : OutOfRange) : CodecError :=
  .outOfRange error.quantity.name error.value

/-- A format of schematics. -/
structure Codec where
  /-- The extension of its files, without the dot in front. -/
  fileExtension : String
  /-- The links and the code of a processor as the bytes of its configuration. -/
  pack : List Link → List String → Except CodecError (List UInt8)

def Codec.standard : Codec where
  fileExtension := Schematic.fileExtension
  pack links code :=
    (ProcessorLayout.encode links code).mapError ProcessorLayout.OutOfRange.codecError

end Blueprint
