import IngressGateway.CommandLine.Arguments
import IngressGateway.Manifest.Collection

/-!
A run of the command: the files are collected and converted, the bundle is printed, and the report decides
whether the run fails.
-/

set_option autoImplicit false

namespace IngressGateway.CommandLine

open Manifest (ManifestError SourceFile)

def versionLine : String := "nic2gw 0.1.0\n"

/-- Whether a path stands for the standard input: a dash, and after it nothing that leads elsewhere. -/
def isStandardInput (path : String) : Bool :=
  match Text.pieces '/' path.toList with
  | first :: others => first = ['-'] && others.all fun p => p = [] || p = ['.']
  | [] => false

structure RunResult where
  failed : Bool
  output : String
  report : String
deriving DecidableEq, Repr

def resultOf (output : OutputFormat) (failOn : Threshold) (c : Converted) : RunResult where
  failed := failOn.isReached c.notifications.maxSeverity?
  output := c.bundle.render output
  report := c.notifications.report

def run (files : List SourceFile) (output : OutputFormat) (failOn : Threshold)
    (settings : Settings) : Except ManifestError RunResult :=
  match Manifest.collect files with
  | .error e => .error e
  | .ok snapshot => .ok (resultOf output failOn (convert snapshot settings))

/-- The files of some paths. The standard input can be read only once; after that it is empty. -/
def sourceFiles (textOf : String → Option String) (input : String) :
    List String → List SourceFile
  | [] => []
  | path :: rest =>
    if isStandardInput path then ⟨path, some input⟩ :: sourceFiles textOf "" rest
    else ⟨path, textOf path⟩ :: sourceFiles textOf input rest

end IngressGateway.CommandLine
