import IngressGateway.CommandLine.Run

/-!
The command. Everything but reading files and printing is decided elsewhere.
-/

set_option autoImplicit false

namespace IngressGateway.CommandLine

def usage : String :=
  "Usage: nic2gw convert -f <FILE>... [-o yaml|json] [--fail-on never|warning|error]\n"
    ++ "         [--gateway-class <CLASS>] [--http-port <PORT>] [--https-port <PORT>] [-v]\n"
    ++ "       nic2gw --version\n"

/-- The text of a file, if it can be read. -/
def readText? (path : String) : IO (Option String) := do
  try return some (← IO.FS.readFile path)
  catch _ => return none

partial def readInput (h : IO.FS.Stream) (text : String) : IO String := do
  let line ← h.getLine
  if line.isEmpty then return text else readInput h (text ++ line)

def loadFiles (paths : List String) : IO (List Manifest.SourceFile) := do
  let input ← if paths.any isStandardInput then readInput (← IO.getStdin) "" else pure ""
  let texts ← paths.mapM fun p => return (p, ← readText? p)
  return sourceFiles (fun p => (texts.lookup p).bind id) input paths

def convertFiles (a : ConvertArguments) : IO UInt32 := do
  match run (← loadFiles a.files) a.output a.failOn a.settings with
  | .error e =>
    IO.eprintln ("Error: " ++ e.message)
    return 1
  | .ok r =>
    IO.print r.output
    IO.eprint r.report
    return if r.failed then 1 else 0

def execute (request : Request) : IO UInt32 := do
  match request with
  | .convert a => convertFiles a
  | .version => IO.print versionLine; return 0
  | .help => IO.print usage; return 0
  | .misuse => IO.eprint usage; return 2

end IngressGateway.CommandLine

def main (arguments : List String) : IO UInt32 := do
  let environment ← IO.getEnv "NIC2GW_GATEWAY_CLASS"
  IngressGateway.CommandLine.execute (IngressGateway.CommandLine.read arguments environment)
