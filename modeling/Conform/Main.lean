import Conform.CommandLine.Program

set_option autoImplicit false

namespace Conform.CommandLine

-- The bytes of a file. A name that cannot be read as a file but exists is entered as a directory with
-- an empty entry.
def gatherFile (name : String) : IO Volume := do
  try
    let bytes ← IO.FS.readBinFile name
    return [(name, bytes.toList)]
  catch
    | .noFileOrDirectory _ _ _ => return []
    | _ => return [(name ++ "/entry", [])]

partial def gatherInput (stream : IO.FS.Stream) (done : ByteArray) : IO ByteArray := do
  let chunk ← stream.read 65536
  if chunk.isEmpty then return done else gatherInput stream (done ++ chunk)

end Conform.CommandLine

open Conform in
def main (args : List String) : IO UInt32 := do
  let (names, wantsInput) : List String × Bool :=
    match CommandLine.readTask args with
    | .ok (.validate request) => (request.schema :: request.inputs, request.inputs.isEmpty)
    | _ => ([], false)
  let files ← names.mapM CommandLine.gatherFile
  let input ← if wantsInput then CommandLine.gatherInput (← IO.getStdin) ByteArray.empty else pure ByteArray.empty
  let outcome := CommandLine.run files.flatten input.toList args
  IO.print outcome.output
  IO.eprint outcome.errors
  return UInt32.ofNat outcome.status
